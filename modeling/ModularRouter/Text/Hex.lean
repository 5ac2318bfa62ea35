import ModularRouter.Text.Numeral

/-!
# Hexadecimal text

Bytes as pairs of digits and numbers as a fixed count of digits, written in lower case and read in
either case.
-/

namespace ModularRouter.Text.Hex

/-- The lowest `width` digits of a number, the most significant first. -/
def ofNat : (width value : Nat) → List Char
  | 0, _ => []
  | width + 1, value => ofNat width (value / 16) ++ [Nat.digitChar (value % 16)]

/-- Two digits a byte, the high half first. -/
def ofBytes (bytes : List UInt8) : List Char :=
  bytes.flatMap fun byte => ofNat 2 byte.toNat

/-- The bytes that pairs of digits spell; an odd count of digits spells none. -/
def toBytes? : List Char → Option (List UInt8)
  | [] => some []
  | [_] => none
  | high :: low :: rest =>
    match Numeral.digit? high, Numeral.digit? low, toBytes? rest with
    | some h, some l, some bytes => some (UInt8.ofNat (16 * h + l) :: bytes)
    | _, _, _ => none

/-- Text without the mark of a hexadecimal number, `0x` or `0X`, if it has one. -/
def dropMark : List Char → List Char
  | '0' :: 'x' :: rest => rest
  | '0' :: 'X' :: rest => rest
  | text => text

/-- A fixed count of digits behind the mark `0x`. -/
def marked (width value : Nat) : String :=
  String.ofList ('0' :: 'x' :: ofNat width value)

end ModularRouter.Text.Hex
