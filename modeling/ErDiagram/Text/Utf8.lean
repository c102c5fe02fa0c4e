import ErDiagram.Text.Basic

/-!
The UTF-8 form of a text. Writing a text and reading the bytes gives the text back.
-/

namespace ErDiagram.Text

def toUtf8 (t : Text) : ByteArray :=
  (String.ofList t).toUTF8

/-- The text with some UTF-8 form, if the bytes are one. -/
def ofUtf8? (bytes : ByteArray) : Option Text :=
  (String.fromUTF8? bytes).map String.toList

theorem ofUtf8?_toUtf8 (t : Text) : ofUtf8? (toUtf8 t) = some t := by
  have hValid : (String.ofList t).toUTF8.IsValidUTF8 := (String.ofList t).isValidUTF8
  have hSame : String.fromUTF8 (String.ofList t).toUTF8 hValid = String.ofList t := rfl
  rw [ofUtf8?, toUtf8, String.fromUTF8?, dif_pos hValid, hSame, Option.map_some,
    String.toList_ofList]

end ErDiagram.Text
