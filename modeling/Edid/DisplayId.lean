import Edid.Blob

/-!
# DisplayID extensions

A DisplayID extension holds a section with a checksum of its own, and the section a sequence of
data blocks. The checksum of the extension plays no part. Data blocks are read up to the first
one that is empty or runs past the section.
-/

set_option autoImplicit false

namespace Edid

namespace DisplayId

/-- A data block: its tag, its revision and the bytes that follow. -/
structure DataBlock where
  tag : Byte
  revision : Byte
  payload : List Byte
  deriving DecidableEq, Repr

/-- The data block as it is stored, behind a header of three bytes. -/
def DataBlock.bytes (block : DataBlock) : List Byte :=
  block.tag :: block.revision :: UInt8.ofNat block.payload.length :: block.payload

/-- Tags of the data blocks that are read. -/
def detailedTimingTag : Byte := 0x03
def ctaTag : Byte := 0x81

/-- The data blocks at the front of a byte run. -/
def DataBlock.readAll : List Byte → List DataBlock
  | tag :: revision :: length :: rest =>
      if length = 0 ∨ rest.length < length.toNat then []
      else
        ⟨tag, revision, rest.take length.toNat⟩ :: DataBlock.readAll (rest.drop length.toNat)
  | _ => []
termination_by bytes => bytes.length
decreasing_by simp only [List.length_drop, List.length_cons]; omega

/-- The bytes of the section in an extension that hold its data blocks: `none` if the section
does not fit or does not sum to zero. Four header bytes come before them and a checksum byte
after them. -/
def sectionPayload? (block : Block) : Option (List Byte) :=
  let size := (block.byte 2).toNat
  if 121 < size then none
  else if byteSum ((block.toList.drop 1).take (size + 5)) ≠ 0 then none
  else some ((block.toList.drop 5).take size)

end DisplayId

namespace Blob

/-- The data blocks of each DisplayID section in order, up to the first section that is not
valid. -/
def displayIdSections (blob : Blob) : List (List DisplayId.DataBlock) :=
  (mapWhile DisplayId.sectionPayload?
    (blob.extensions.filter fun extension => extension.tag == Block.displayIdTag)).map
      DisplayId.DataBlock.readAll

def displayIdBlocks (blob : Blob) : List DisplayId.DataBlock :=
  blob.displayIdSections.flatten

end Blob

end Edid
