import PageRules.Text.Basic

/-! The UTF-8 bytes of a text. -/

namespace PageRules.Text

def bytes (t : Text) : List UInt8 := t.flatMap String.utf8EncodeChar

/-- The text that a list of bytes encodes, if it is valid UTF-8. -/
def ofBytes? (bytes : List UInt8) : Option Text :=
  (String.fromUTF8? (ByteArray.mk bytes.toArray)).map String.toList

@[simp] theorem bytes_nil : bytes [] = [] := rfl

@[simp] theorem bytes_append (s t : Text) : bytes (s ++ t) = bytes s ++ bytes t :=
  List.flatMap_append

end PageRules.Text
