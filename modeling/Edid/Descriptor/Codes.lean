import Edid.Descriptor
import Edid.Text.Utf8

/-!
# Texts and timing codes in descriptors

A display descriptor can hold a text, six standard timing codes, four CVT codes or a bitmap of
established timings. Each reader takes the bytes as they are, whatever the descriptor is.
-/

set_option autoImplicit false

namespace Edid

/-- A size for the CVT formula, and the rates asked for in the order in which they count. -/
structure CvtCode where
  width : Nat
  height : Nat
  rates : List Nat
  deriving DecidableEq, Repr

namespace CvtCode

/-- Rates by bit. The lowest bit, 60 Hz with reduced blanking, is not among them. -/
def rateBits : List (Nat × Nat) :=
  [(1, 85), (2, 75), (3, 60), (4, 50)]

/-- The width for a height in one of four aspect ratios, rounded down. -/
def widthFor (height : Nat) (aspect : Nat) : Nat :=
  match aspect with
  | 0 => height * 4 / 3
  | 1 => height * 16 / 9
  | 2 => height * 16 / 10
  | _ => height * 15 / 9

/-- A three-byte code; `none` for an unused one. -/
def ofBytes? (code : Byte × Byte × Byte) : Option CvtCode :=
  let (first, second, third) := code
  if first = 0 ∧ second = 0 ∧ third = 0 then none
  else
    let height := (first.toNat + 256 * second.high + 1) * 2
    some
      { width := widthFor height (second.toNat / 4 % 4)
        height := height
        rates := (rateBits.filter fun (position, _) => third.bit position).map (·.2) }

end CvtCode

namespace Descriptor

/-- Up to thirteen bytes of text, ended by a line feed. -/
def text (descriptor : Descriptor) : String :=
  Text.Utf8.text ((descriptor.toList.drop 5).takeWhile (· != 0x0a))

/-- Six standard timing codes. -/
def standardCodes (descriptor : Descriptor) : List (Byte × Byte) :=
  pairs ((descriptor.toList.drop 5).take 12)

/-- The used ones of four CVT codes. -/
def cvtCodes (descriptor : Descriptor) : List CvtCode :=
  (triples (descriptor.toList.drop 6)).filterMap CvtCode.ofBytes?

/-- Bit `index` of the six bytes from byte 6 on, most significant bits first. -/
def establishedBit (descriptor : Descriptor) (index : Fin 48) : Bool :=
  descriptor[6 + index.val / 8].bit (7 - index.val % 8)

/-- The positions, below `tableLength`, of the established timings that are announced. -/
def establishedIndices (descriptor : Descriptor) (tableLength : Nat) : List Nat :=
  ((List.finRange 48).filter fun index =>
    index.val < tableLength && descriptor.establishedBit index).map (·.val)

end Descriptor

end Edid
