import Edid.Byte
import Edid.Text.Blank

/-!
# Hex dumps

Bytes written as pairs of hexadecimal digits. The digits are written and read by a codec that comes
from elsewhere. Blank characters may stand anywhere in a dump; they are removed before the codec sees
it.
-/

set_option autoImplicit false

namespace Edid.Text.Hex

/-- What dumps are written and read with. A text that is no dump is answered with the reason. -/
structure Codec where
  encode : List Byte → String
  decode : String → Except String (List Byte)

/-- A text without its blank characters. -/
def compact (text : String) : String :=
  String.ofList (text.toList.filter fun character => !isBlank character)

/-- Reads a dump that may be spaced and broken over lines in any way. -/
def Codec.ofText (codec : Codec) (text : String) : Except String (List Byte) :=
  codec.decode (compact text)

end Edid.Text.Hex
