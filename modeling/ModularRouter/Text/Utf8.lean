/-!
# Text as bytes

The UTF-8 form of text and back.
-/

namespace ModularRouter.Text

/-- The bytes of the UTF-8 form of text. -/
def utf8 (text : String) : List UInt8 :=
  text.toList.flatMap String.utf8EncodeChar

/-- The text whose UTF-8 form the bytes are, if there is one. -/
def ofUtf8? (bytes : List UInt8) : Option String :=
  String.fromUTF8? (ByteArray.mk bytes.toArray)

end ModularRouter.Text
