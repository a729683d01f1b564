import Edid.Block

/-!
# Descriptors

Descriptors are slots of 18 bytes in the base block and in some extensions. A slot whose first
two bytes are not both zero is a detailed timing; otherwise byte 3 tells what it describes.
-/

set_option autoImplicit false

namespace Edid

abbrev Descriptor := Vector Byte 18

namespace Descriptor

/-- A descriptor is not empty, so that numerals are positions in it. -/
instance positions : @NeZero Nat Zero.ofOfNat0 18 :=
  ⟨by decide⟩

def byte (descriptor : Descriptor) (position : Fin 18) : Byte :=
  descriptor[position.val]

/-- What a display descriptor can describe. -/
inductive Kind where
  | serialNumber
  | text
  | rangeLimits
  | name
  | standardTimings
  | cvtCodes
  | establishedTimings
  deriving DecidableEq, Repr

def Kind.tag : Kind → Byte
  | .serialNumber => 0xff
  | .text => 0xfe
  | .rangeLimits => 0xfd
  | .name => 0xfc
  | .standardTimings => 0xfa
  | .cvtCodes => 0xf8
  | .establishedTimings => 0xf7

/-- The first two bytes hold the pixel clock, which no timing leaves at zero. -/
def isTiming (descriptor : Descriptor) : Bool :=
  descriptor.byte 0 != 0 || descriptor.byte 1 != 0

/-- A display descriptor with the given tag: three zero bytes come before it. -/
def hasTag (descriptor : Descriptor) (tag : Byte) : Bool :=
  descriptor.byte 0 == 0 && descriptor.byte 1 == 0 && descriptor.byte 2 == 0 &&
    descriptor.byte 3 == tag

def isKind (descriptor : Descriptor) (kind : Kind) : Bool :=
  descriptor.hasTag kind.tag

end Descriptor

namespace Block

/-- The 18 bytes from `offset` on, if the block holds them all. -/
def descriptorAt? (block : Block) (offset : Nat) : Option Descriptor :=
  if fits : offset + 18 ≤ 128 then
    some (Vector.ofFn fun position => block[offset + position.val])
  else
    none

/-- Where the four descriptors of a base block begin. -/
def baseSlots : List Nat :=
  (List.range 4).map fun slot => 54 + 18 * slot

/-- Where the descriptors of an extension begin. A CTA extension says where the first one is
and fills the rest of its bytes with them, the checksum apart; a video timing block of version
1 says how many it has, of which six fit. Other extensions carry none. -/
def extensionSlots (block : Block) : List Nat :=
  if block.tag = ctaTag then
    let start := (block.byte 2).toNat
    if 4 ≤ start ∧ start ≤ 127 then
      (List.range ((127 - start) / 18)).map fun slot => start + 18 * slot
    else
      []
  else if block.tag = timingBlockTag ∧ block.byte 1 = 1 then
    (List.range (min (block.byte 2).toNat 6)).map fun slot => 5 + 18 * slot
  else
    []

end Block

end Edid
