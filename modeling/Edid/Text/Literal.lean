import Edid.Byte
import Edid.Text.Digits

/-!
# Quoted bytes

A byte shown to the reader as a quoted character: the byte is taken as a Latin-1 code, and what
does not print is escaped.
-/

set_option autoImplicit false

namespace Edid.Text

/-- Latin-1 codes that print as themselves: all but the controls, the no-break space and the
soft hyphen. -/
def printsInLatin1 (code : Nat) : Bool :=
  0x20 ≤ code && code ≠ 0xa0 && code ≠ 0xad && !(0x7f ≤ code && code ≤ 0x9f)

/-- The characters between the quotes. A double quote needs no escape there. -/
def escapeByte (byte : Byte) : String :=
  match byte.toNat with
  | 0 => "\\0"
  | 9 => "\\t"
  | 10 => "\\n"
  | 13 => "\\r"
  | 39 => "\\'"
  | 92 => "\\\\"
  | code =>
      if printsInLatin1 code then
        String.singleton (Char.ofNat code)
      else
        "\\u\x7b" ++ hexadecimal 1 code ++ "\x7d"

/-- A byte as a quoted character. -/
def quoteByte (byte : Byte) : String :=
  "'" ++ escapeByte byte ++ "'"

end Edid.Text
