import Edid.Cta.DataBlock
import Edid.DisplayId

/-!
# Data block collections

CTA-861 data sits in an extension of its own or in a data block of a DisplayID section. Both
begin with a tag and a revision byte, and byte 2 tells where the collection of data blocks ends.
-/

set_option autoImplicit false

namespace Edid

namespace Cta

/-- An extension or a DisplayID data block that holds CTA-861 data, with all its bytes. -/
structure Collection where
  bytes : List Byte
  deriving DecidableEq, Repr

namespace Collection

/-- Byte `position`; zero past the end. -/
def byte (collection : Collection) (position : Nat) : Byte :=
  collection.bytes.getD position 0

def tag (collection : Collection) : Byte :=
  collection.byte 0

def revision (collection : Collection) : Nat :=
  (collection.byte 1).toNat

/-- Audio and colour bits, which only an extension has. -/
def capabilityBits (collection : Collection) : Byte :=
  if collection.tag = Block.ctaTag then collection.byte 3 else 0

/-- Where the data blocks begin and where they end. An extension that gives no end has data
blocks up to its checksum; an end inside the header or past the checksum is an error. -/
def bounds (collection : Collection) : Except Error (Nat × Nat) :=
  let size := (collection.byte 2).toNat
  if collection.tag = DisplayId.ctaTag then .ok (3, 3 + size)
  else if collection.tag = Block.ctaTag then
    let stop := if size = 0 then 127 else size
    if 4 ≤ stop ∧ stop ≤ 127 then .ok (4, stop)
    else .error (.range stop collection.bytes.length)
  else .error (.unsupportedExtension collection.tag)

/-- The data blocks between the bounds. -/
def dataBlocks (collection : Collection) : Except Error (List DataBlock) :=
  collection.bounds.map fun (start, stop) =>
    DataBlock.readAll ((collection.bytes.take stop).drop start)

end Collection

end Cta

namespace Blob

/-- The CTA-861 data of a blob: the first extension for it, or else the first such data block
of a DisplayID section. -/
def cta? (blob : Blob) : Option Cta.Collection :=
  match blob.findExtension? Block.ctaTag 0 with
  | some (extension, _) => some ⟨extension.toList⟩
  | none =>
      (blob.displayIdBlocks.find? fun block => block.tag == DisplayId.ctaTag).map
        fun block => ⟨block.bytes⟩

/-- The data blocks of the CTA-861 data. None if there is no such data or its bounds are
wrong. -/
def ctaBlocks (blob : Blob) : List Cta.DataBlock :=
  match blob.cta? with
  | none => []
  | some collection =>
      match collection.dataBlocks with
      | .ok blocks => blocks
      | .error _ => []

end Blob

end Edid
