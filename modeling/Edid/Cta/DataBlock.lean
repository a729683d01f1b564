import Edid.Byte

/-!
# CTA-861 data blocks

A data block is a header byte, three bits of tag over five bits of length, and that many bytes
of payload. Bytes are counted from the header, as the standard does, so payload byte 1 comes
first; a byte that a short block lacks reads as zero.
-/

set_option autoImplicit false

namespace Edid.Cta

structure DataBlock where
  tag : Fin 8
  payload : List Byte
  payload_le : payload.length ≤ 31
  deriving DecidableEq

namespace DataBlock

/-- What the tags of data blocks mean. -/
def audioTag : Fin 8 := 1
def videoTag : Fin 8 := 2
def vendorTag : Fin 8 := 3
def speakerTag : Fin 8 := 4
def extendedTag : Fin 8 := 7

/-- What the first payload byte of an extended data block means. -/
def videoCapabilityTag : Byte := 0x00
def hdrStaticMetadataTag : Byte := 0x06
def y420VideoTag : Byte := 0x0e
def y420CapabilityMapTag : Byte := 0x0f

/-- Organizations that define vendor data blocks. -/
def hdmiVendor : Nat := 0x000c03
def hdmiForumVendor : Nat := 0xc45dd8

def length (block : DataBlock) : Nat :=
  block.payload.length

def header (block : DataBlock) : Byte :=
  UInt8.ofNat (32 * block.tag.val + block.length)

/-- The block as it is stored. -/
def bytes (block : DataBlock) : List Byte :=
  block.header :: block.payload

/-- Byte `position`, counted from the header. -/
def byte (block : DataBlock) (position : Nat) : Byte :=
  block.bytes.getD position 0

theorem headerTag_lt (header : Byte) : header.toNat / 32 < 8 := by
  have := header.toNat_lt
  omega

theorem length_headerPayload_le (header : Byte) (rest : List Byte) :
    (rest.take (header.toNat % 32)).length ≤ 31 := by
  simp only [List.length_take]
  omega

/-- The data blocks at the front of a byte run, up to the first that would run past its end. -/
def readAll : List Byte → List DataBlock
  | [] => []
  | header :: rest =>
      let length := header.toNat % 32
      if rest.length < length then []
      else
        { tag := ⟨header.toNat / 32, headerTag_lt header⟩
          payload := rest.take length
          payload_le := length_headerPayload_le header rest } :: readAll (rest.drop length)
termination_by bytes => bytes.length
decreasing_by simp only [List.length_drop, List.length_cons]; omega

/-- The further tag of an extended block that has a payload. -/
def extended? (block : DataBlock) : Option Byte :=
  if block.tag = extendedTag then block.payload.head? else none

/-- The vendor of a vendor block, the least significant byte first. -/
def vendor (block : DataBlock) : Nat :=
  littleEndian [block.byte 1, block.byte 2, block.byte 3]

def isHdmi (block : DataBlock) : Bool :=
  block.tag = vendorTag && 5 ≤ block.length && block.vendor = hdmiVendor

def isHdmiForum (block : DataBlock) : Bool :=
  block.tag = vendorTag && 7 ≤ block.length && block.vendor = hdmiForumVendor

def isVideoCapability (block : DataBlock) : Bool :=
  block.extended? = some videoCapabilityTag && block.length = 2

def isY420CapabilityMap (block : DataBlock) : Bool :=
  block.extended? = some y420CapabilityMapTag

def isY420Video (block : DataBlock) : Bool :=
  block.extended? = some y420VideoTag

def isHdrStaticMetadata (block : DataBlock) : Bool :=
  block.extended? = some hdrStaticMetadataTag && 3 ≤ block.length

end DataBlock

end Edid.Cta
