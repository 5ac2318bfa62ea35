import ModularRouter.Text.Ranges

/-!
# White space

The characters with the Unicode property `White_Space`, and text without them at its ends.
-/

namespace ModularRouter.Text

/-- The code points with the Unicode property `White_Space`. -/
def blankRanges : List (Nat × Nat) :=
  [(0x09, 0x0D), (0x20, 0x20), (0x85, 0x85), (0xA0, 0xA0), (0x1680, 0x1680), (0x2000, 0x200A),
    (0x2028, 0x2029), (0x202F, 0x202F), (0x205F, 0x205F), (0x3000, 0x3000)]

/-- Whether a character is white space. -/
def isBlank (c : Char) : Bool :=
  inRanges blankRanges c

/-- Text without white space at its start. -/
def trimStart (text : List Char) : List Char :=
  text.dropWhile isBlank

/-- Text without white space at its end. -/
def trimEnd (text : List Char) : List Char :=
  (trimStart text.reverse).reverse

/-- Text without white space at its ends. -/
def trim (text : List Char) : List Char :=
  trimEnd (trimStart text)

end ModularRouter.Text
