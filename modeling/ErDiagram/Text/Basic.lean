/-!
Text as a list of characters. Positions in a text count the bytes of its UTF-8 form, and a span is a
pair of such positions. The lemmas on cutting say that a cut behind a leading part gives back that
part and the rest; they say nothing about a cut inside a character.
-/

namespace ErDiagram

/-- A text, one character at a time. -/
abbrev Text := List Char

/-- A range of byte positions. `stop` is the position behind the last byte. -/
structure Span where
  start : Nat
  stop : Nat
deriving DecidableEq

namespace Text

/-- The number of bytes of the UTF-8 form. -/
def size : Text → Nat
  | [] => 0
  | c :: rest => c.utf8Size + size rest

/-- The bytes of the UTF-8 form. -/
def bytes (t : Text) : List UInt8 :=
  t.flatMap String.utf8EncodeChar

/-- The characters that fit into the first `n` bytes. -/
def takeBytes : Text → Nat → Text
  | [], _ => []
  | c :: rest, n => if c.utf8Size ≤ n then c :: takeBytes rest (n - c.utf8Size) else []

/-- What `takeBytes` leaves. -/
def dropBytes : Text → Nat → Text
  | [], _ => []
  | c :: rest, n => if c.utf8Size ≤ n then dropBytes rest (n - c.utf8Size) else c :: rest

/-- Whether `n` is the position of a character of the text or of its end. -/
def hasBoundary (t : Text) (n : Nat) : Bool :=
  size (takeBytes t n) == n

/-- The characters at a span. -/
def slice (t : Text) (span : Span) : Text :=
  takeBytes (dropBytes t span.start) (span.stop - span.start)

/-- Decimal digits of a number. -/
def ofNat (n : Nat) : Text :=
  Nat.toDigits 10 n

/-- Spaces in front of the text up to a width of `width` characters. -/
def alignRight (width : Nat) (t : Text) : Text :=
  List.replicate (width - t.length) ' ' ++ t

@[simp] theorem size_nil : size [] = 0 := rfl

@[simp] theorem size_cons (c : Char) (t : Text) : size (c :: t) = c.utf8Size + size t := rfl

@[simp] theorem size_append (a b : Text) : size (a ++ b) = size a + size b := by
  induction a with
  | nil => simp
  | cons c a ih => simp [ih, Nat.add_assoc]

theorem size_pos_of_ne_nil {t : Text} (h : t ≠ []) : 0 < size t := by
  cases t with
  | nil => exact absurd rfl h
  | cons c t =>
      have := Char.utf8Size_pos c
      simp only [size_cons]
      omega

theorem size_eq_zero_iff {t : Text} : size t = 0 ↔ t = [] := by
  refine ⟨fun h => ?_, fun h => by simp [h]⟩
  by_cases ht : t = []
  · exact ht
  · have := size_pos_of_ne_nil ht
    omega

theorem takeBytes_append_dropBytes (t : Text) (n : Nat) :
    takeBytes t n ++ dropBytes t n = t := by
  induction t generalizing n with
  | nil => rfl
  | cons c t ih =>
      simp only [takeBytes, dropBytes]
      split
      · simp [ih]
      · rfl

@[simp] theorem takeBytes_size_append (a b : Text) : takeBytes (a ++ b) (size a) = a := by
  induction a with
  | nil =>
      cases b with
      | nil => rfl
      | cons c b =>
          have := Char.utf8Size_pos c
          simp [takeBytes, show ¬ c.utf8Size = 0 by omega]
  | cons c a ih => simp [takeBytes, ih]

@[simp] theorem dropBytes_size_append (a b : Text) : dropBytes (a ++ b) (size a) = b := by
  have h := takeBytes_append_dropBytes (a ++ b) (size a)
  rw [takeBytes_size_append] at h
  exact List.append_cancel_left h

/-- A span that covers the middle of three parts cuts out that part. -/
theorem slice_append (a b c : Text) :
    slice (a ++ b ++ c) ⟨size a, size a + size b⟩ = b := by
  simp [slice, List.append_assoc]

end Text

end ErDiagram
