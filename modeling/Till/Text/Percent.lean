import Till.Json.Parser

/-!
# Percent escapes

A percent sign and two digits in base 16 stand for a byte.  `Text.percentDecoded?` replaces such
escapes and leaves every other percent sign alone; there is no text if the bytes are not one in
UTF-8.
-/

namespace Till

namespace Text

/-- The value of a byte that is a digit in base 16. -/
def hexByte? (b : UInt8) : Option Nat := Json.hexValue? (Char.ofNat b.toNat)

/-- The bytes with the escapes replaced. -/
def percentDecodedBytes : List UInt8 → List UInt8
  | [] => []
  | 37 :: high :: low :: rest =>
    match hexByte? high, hexByte? low with
    | some h, some l => UInt8.ofNat (h * 16 + l) :: percentDecodedBytes rest
    | _, _ => 37 :: percentDecodedBytes (high :: low :: rest)
  | b :: rest => b :: percentDecodedBytes rest

/-- The text with the escapes replaced. -/
def percentDecoded? (s : String) : Option String :=
  String.fromUTF8? ⟨(percentDecodedBytes s.toUTF8.toList).toArray⟩

end Text

end Till
