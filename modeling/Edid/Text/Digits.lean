/-!
# Numbers as text

Numbers are written in decimal or in lower-case hexadecimal, filled up on the left to a least
width. A number that is wider than its field is written in full.
-/

set_option autoImplicit false

namespace Edid.Text

def decimal (number : Nat) : String :=
  String.ofList (Nat.toDigits 10 number)

/-- Decimal digits behind as many `fill` characters as the width asks for. -/
def decimalPadded (width : Nat) (fill : Char) (number : Nat) : String :=
  String.ofList (List.leftpad width fill (Nat.toDigits 10 number))

/-- Lower-case hexadecimal digits, at least `width` of them. -/
def hexadecimal (width number : Nat) : String :=
  String.ofList (List.leftpad width '0' (Nat.toDigits 16 number))

/-- Hexadecimal with its marker; `width` counts the digits only. -/
def hexadecimalMarked (width number : Nat) : String :=
  "0x" ++ hexadecimal width number

end Edid.Text
