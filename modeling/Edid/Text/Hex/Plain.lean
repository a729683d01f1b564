import Edid.Text.Hex
import Edid.Text.Literal

/-!
# A codec for hex dumps

The codec that the program runs with. Digits of either case are read and lower case is written. An
odd number of bytes is reported before any digit is looked at; otherwise the first byte that is no
digit is reported, with its position.
-/

set_option autoImplicit false

namespace Edid.Text.Hex

/-- Why a text is no hex dump. Positions count the UTF-8 bytes of the text. -/
inductive Fault where
  | oddLength
  | badDigit (byte : Byte) (position : Nat)
  deriving DecidableEq, Repr

def Fault.message : Fault → String
  | .oddLength => "Odd number of digits"
  | .badDigit byte position =>
      "Invalid character " ++ quoteByte byte ++ " at position " ++ decimal position

/-- The value of a digit of either case. -/
def digit? (byte : Byte) : Option Nat :=
  let code := byte.toNat
  if 48 ≤ code ∧ code ≤ 57 then some (code - 48)
  else if 65 ≤ code ∧ code ≤ 70 then some (code - 55)
  else if 97 ≤ code ∧ code ≤ 102 then some (code - 87)
  else none

/-- Digit pairs from `position` on. -/
def decodePairs (position : Nat) : List Byte → Except Fault (List Byte)
  | upper :: lower :: rest =>
      match digit? upper, digit? lower with
      | none, _ => .error (.badDigit upper position)
      | some _, none => .error (.badDigit lower (position + 1))
      | some upperValue, some lowerValue =>
          (decodePairs (position + 2) rest).map (UInt8.ofNat (16 * upperValue + lowerValue) :: ·)
  | _ => .ok []

def decodeDigits (digits : List Byte) : Except Fault (List Byte) :=
  if digits.length % 2 = 1 then .error .oddLength else decodePairs 0 digits

def encodeByte (byte : Byte) : List Char :=
  [Nat.digitChar byte.high, Nat.digitChar byte.low]

def Codec.plain : Codec where
  encode bytes := String.ofList (bytes.flatMap encodeByte)
  decode text := (decodeDigits (text.toList.flatMap String.utf8EncodeChar)).mapError Fault.message

end Edid.Text.Hex
