import ErDiagram.Command.Files
import Mathlib.Data.List.Basic

/-!
What a write does to files. It gives the content to the one file that the path names and to no other. A
path that can be read names the same file for writing, and it still leads there once the file is written.
-/

namespace ErDiagram

/-- A place, once those names lead to that content. -/
def Place.replace (names : List Text) (content : ByteArray) : Place → Place
  | .directory found => .directory found
  | .file found old => .file found (if found = names then content else old)
  | .missing found => .missing found

namespace Files

/-- A path names a file, and that file alone has changed to some content. -/
structure Rewritten (files changed : Files) (path : Text) (content : ByteArray) : Prop where
  workingDirectory : changed.workingDirectory = files.workingDirectory
  destination : ∃ names, files.destination path = .ok names ∧ changed.find? names = some content ∧
    ∀ other, other ≠ names → changed.find? other = files.find? other

section

variable (names : List Text) (content : ByteArray) (entries : List (List Text × ByteArray))

theorem lookup_put : (put names content entries).lookup names = some content := by
  induction entries with
  | nil => rw [put, List.lookup_cons_self]
  | cons entry rest ih =>
      obtain ⟨other, old⟩ := entry
      rw [put]
      split
      next => rw [List.lookup_cons_self]
      next hOther => rw [List.lookup_cons, beq_eq_false_iff_ne.mpr (Ne.symm hOther), ih]

theorem lookup_put_of_ne {other : List Text} (hOther : other ≠ names) :
    (put names content entries).lookup other = entries.lookup other := by
  induction entries with
  | nil => rw [put, List.lookup_cons, beq_eq_false_iff_ne.mpr hOther]
  | cons entry rest ih =>
      obtain ⟨key, old⟩ := entry
      rw [put]
      split
      next hKey =>
        subst hKey
        rw [List.lookup_cons, List.lookup_cons, beq_eq_false_iff_ne.mpr hOther]
      next => rw [List.lookup_cons, List.lookup_cons, ih]

variable {names content entries}

/-- The names that are in use stay the same. -/
theorem map_fst_put {old : ByteArray} (h : entries.lookup names = some old) :
    (put names content entries).map Prod.fst = entries.map Prod.fst := by
  induction entries with
  | nil => cases h
  | cons entry rest ih =>
      obtain ⟨key, value⟩ := entry
      rw [put]
      split
      next hKey => rw [List.map_cons, List.map_cons, ← hKey]
      next hKey =>
        rw [List.lookup_cons, beq_eq_false_iff_ne.mpr (Ne.symm hKey)] at h
        rw [List.map_cons, List.map_cons, ih h]

theorem put_eq_self (h : entries.lookup names = some content) :
    put names content entries = entries := by
  induction entries with
  | nil => cases h
  | cons entry rest ih =>
      obtain ⟨key, value⟩ := entry
      rw [put]
      split
      next hKey =>
        subst hKey
        rw [List.lookup_cons_self, Option.some.injEq] at h
        rw [h]
      next hKey =>
        rw [List.lookup_cons, beq_eq_false_iff_ne.mpr (Ne.symm hKey)] at h
        rw [ih h]

end

variable {files changed : Files} {path : Text} {names : List Text} {content old : ByteArray}

/-- The files once those names lead to that content. -/
def replace (files : Files) (names : List Text) (content : ByteArray) : Files :=
  { files with entries := put names content files.entries }

theorem find?_replace (files : Files) (names : List Text) (content : ByteArray) :
    (files.replace names content).find? names = some content :=
  lookup_put names content files.entries

theorem find?_replace_of_ne {other : List Text} (hOther : other ≠ names) (content : ByteArray) :
    (files.replace names content).find? other = files.find? other :=
  lookup_put_of_ne names content files.entries hOther

theorem write_eq_ok (h : files.destination path = .ok names) (content : ByteArray) :
    files.write path content = .ok (files.replace names content) := by
  rw [write, h]
  rfl

theorem write_eq_error {e : FileError} (h : files.destination path = .error e)
    (content : ByteArray) : files.write path content = .error e := by
  rw [write, h]
  rfl

theorem rewritten_of_write (h : files.write path content = .ok changed) :
    files.Rewritten changed path content := by
  cases hPath : files.destination path with
  | error e =>
      rw [write_eq_error hPath] at h
      cases h
  | ok names =>
      rw [write_eq_ok hPath] at h
      obtain rfl := Except.ok.inj h
      exact ⟨rfl, names, hPath, find?_replace files names content,
        fun _ hOther => find?_replace_of_ne hOther content⟩

theorem find?_of_look {other : List Text} (h : files.look other = .file names content) :
    files.find? names = some content := by
  unfold look at h
  split at h
  next hFind =>
    cases h
    exact hFind
  next => split at h <;> cases h

/-- A name that leads to a file is not empty, for an empty one leads nowhere else. -/
theorem file_of_enter {directory : List Text} {name : Text}
    (h : files.enter directory name = .ok (.file names content)) :
    name ≠ [] ∧ files.find? names = some content := by
  unfold enter at h
  split at h
  next => cases h
  next hCurrent =>
    refine ⟨by rintro rfl; exact hCurrent rfl, ?_⟩
    split at h
    next => cases h
    next =>
      split at h
      next => cases h
      next => exact find?_of_look (Except.ok.inj h)

theorem follow_append (front back : List Text) (place : Place) :
    files.follow place (front ++ back) =
      (files.follow place front).bind fun reached => files.follow reached back := by
  induction front generalizing place with
  | nil => cases place <;> rfl
  | cons name rest ih =>
      cases place with
      | missing => rfl
      | file => rfl
      | directory directory =>
          rw [List.cons_append, follow, follow]
          cases files.enter directory name with
          | error e => rfl
          | ok reached => exact ih reached

/-- Empty names, which stand between two slashes, can be left out of a way that leads on. -/
theorem follow_filter {place reached : Place} {parts : List Text}
    (h : files.follow place parts = .ok reached) :
    files.follow place (parts.filter (!·.isEmpty)) = .ok reached := by
  induction parts generalizing place with
  | nil => exact h
  | cons name rest ih =>
      cases place with
      | missing => cases h
      | file => cases h
      | directory directory =>
          rw [follow] at h
          cases hEnter : files.enter directory name with
          | error e =>
              rw [hEnter] at h
              cases h
          | ok next =>
              rw [hEnter] at h
              cases name with
              | nil =>
                  obtain rfl := Except.ok.inj hEnter
                  exact ih h
              | cons c name =>
                  rw [List.filter_cons_of_pos rfl, follow, hEnter]
                  exact ih h

theorem getLast?_splitOn {c : Char} (h : path.getLast? = some c) :
    (path.splitOn c).getLast? = some [] := by
  obtain ⟨front, rfl⟩ := List.getLast?_eq_some_iff.mp h
  rw [List.splitOn_append_cons_self, List.splitOn_nil, List.getLast?_concat]

/-- The way to a file is a way to a directory, without its empty names, and then the file's name. -/
theorem follow_eq_file {directory : List Text} {parts : List Text}
    (h : files.follow (.directory directory) parts = .ok (.file names content)) :
    ∃ front last reached, parts.getLast? = some last ∧
      parts.filter (!·.isEmpty) = front ++ [last] ∧
      files.follow (.directory directory) front = .ok (.directory reached) ∧
      files.enter reached last = .ok (.file names content) := by
  rcases parts.eq_nil_or_concat' with rfl | ⟨front, last, rfl⟩
  · cases h
  · rw [follow_append] at h
    cases hFront : files.follow (.directory directory) front with
    | error e =>
        rw [hFront] at h
        cases h
    | ok place =>
        rw [hFront] at h
        cases place with
        | missing => cases h
        | file => cases h
        | directory reached =>
            have hEnter : files.enter reached last = .ok (.file names content) := by
              revert h
              simp only [Except.bind, follow]
              cases files.enter reached last with
              | error e => exact nofun
              | ok place => exact id
            have hLast : [last].filter (!·.isEmpty) = [last] :=
              List.filter_cons_of_pos (by simpa using (file_of_enter hEnter).1)
            exact ⟨front.filter (!·.isEmpty), last, reached, List.getLast?_concat,
              by rw [List.filter_append, hLast], follow_filter hFront, hEnter⟩

theorem resolve_of_read (h : files.read path = .ok content) :
    ∃ names, files.resolve path = .ok (.file names content) := by
  unfold read at h
  split at h
  case h_2 | h_3 | h_4 => cases h
  next names found hResolve =>
    obtain rfl := Except.ok.inj h
    exact ⟨names, hResolve⟩

/-- A path that can be read names the same file for writing. -/
theorem destination_of_resolve (h : files.resolve path = .ok (.file names content)) :
    files.destination path = .ok names ∧ files.find? names = some content := by
  unfold resolve at h
  split at h
  next => cases h
  next hSize =>
    obtain ⟨front, last, reached, hLast, hParts, hFront, hEnter⟩ := follow_eq_file h
    have hName := file_of_enter hEnter
    have hSlash : path.getLast? ≠ some '/' := by
      intro hSlash
      rw [getLast?_splitOn hSlash] at hLast
      exact hName.1 (Option.some.inj hLast).symm
    refine ⟨?_, hName.2⟩
    have hStart : files.follow (files.start path) front = .ok (.directory reached) := hFront
    rw [destination, if_neg hSize]
    simp only [hParts, List.getLast?_concat, List.dropLast_concat, hStart, if_neg hSlash, hEnter]

theorem destination_of_read (h : files.read path = .ok content) :
    ∃ names, files.destination path = .ok names ∧ files.find? names = some content := by
  obtain ⟨names, hResolve⟩ := resolve_of_read h
  exact ⟨names, destination_of_resolve hResolve⟩

/-- Of the entries only the names bear on what is a directory. -/
theorem isDirectory_eq (files : Files) (other : List Text) :
    files.isDirectory other =
      (other.isPrefixOf files.workingDirectory || (files.entries.map Prod.fst).any fun key =>
        other.isPrefixOf key && other.length < key.length) := by
  rw [isDirectory, List.any_map]
  rfl

/-- To write what can be read changes nothing. -/
theorem write_of_read (h : files.read path = .ok content) :
    files.write path content = .ok files := by
  obtain ⟨names, hPath, hFind⟩ := destination_of_read h
  rw [write_eq_ok hPath, replace, put_eq_self hFind]

section

variable (hFind : files.find? names = some old) (content : ByteArray)
include hFind

theorem isDirectory_replace (other : List Text) :
    (files.replace names content).isDirectory other = files.isDirectory other := by
  rw [isDirectory_eq, isDirectory_eq, replace, map_fst_put hFind]

theorem look_replace (other : List Text) :
    (files.replace names content).look other = (files.look other).replace names content := by
  rw [look, look, isDirectory_replace hFind]
  by_cases hOther : other = names
  · subst hOther
    rw [find?_replace, hFind]
    simp [Place.replace]
  · rw [find?_replace_of_ne hOther]
    split
    · simp [Place.replace, hOther]
    · split <;> rfl

theorem enter_replace (directory : List Text) (name : Text) :
    (files.replace names content).enter directory name =
      (files.enter directory name).map (Place.replace names content) := by
  rw [enter, enter, look_replace hFind]
  split
  · rfl
  · split
    · rfl
    · split <;> rfl

/-- A way leads to the same place before and after. -/
theorem follow_replace (place : Place) (parts : List Text) :
    (files.replace names content).follow (place.replace names content) parts =
      (files.follow place parts).map (Place.replace names content) := by
  induction parts generalizing place with
  | nil => cases place <;> rfl
  | cons name rest ih =>
      cases place with
      | missing => rfl
      | file => rfl
      | directory directory =>
          rw [follow, Place.replace, follow, enter_replace hFind]
          cases files.enter directory name with
          | error e => rfl
          | ok reached => exact ih reached

theorem resolve_replace (path : Text) :
    (files.replace names content).resolve path =
      (files.resolve path).map (Place.replace names content) := by
  rw [resolve, resolve]
  split
  · rfl
  · exact follow_replace hFind content (files.start path) (path.splitOn '/')

end

/-- What is written over a file can be read. -/
theorem read_of_write (hRead : files.read path = .ok old)
    (hWrite : files.write path content = .ok changed) :
    changed.read path = .ok content := by
  obtain ⟨names, hResolve⟩ := resolve_of_read hRead
  obtain ⟨hPath, hFind⟩ := destination_of_resolve hResolve
  rw [write_eq_ok hPath] at hWrite
  obtain rfl := Except.ok.inj hWrite
  rw [read, resolve_replace hFind, hResolve]
  simp [Except.map, Place.replace]

end Files

end ErDiagram
