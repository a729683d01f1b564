import Edid.Block.Validation
import Edid.Descriptor
import Edid.Text.Hex

/-!
# Blobs

A complete EDID: a base block and as many extensions as byte 126 of the base block says. The
count is part of the type, so every way to build a blob keeps it.
-/

set_option autoImplicit false

namespace Edid

structure Blob where
  base : Block
  extensions : List Block
  count_eq : extensions.length = base.extensionCount
  deriving DecidableEq

/-- Who made the display, and which one it is. -/
structure Identity where
  manufacturer : String
  manufacturerId : Byte × Byte
  product : Nat
  serial : Nat
  week : Nat
  year : Nat
  version : Nat
  revision : Nat
  deriving DecidableEq, Repr

/-- The three letters packed into a manufacturer identifier, five bits each, as characters from
`@` on. Five bits reach past `Z`, so the result need not be letters. -/
def vendorCode (identifier : Byte × Byte) : List Byte :=
  let packed := Byte.wordBigEndian identifier.1 identifier.2
  [packed / 1024 % 32, packed / 32 % 32, packed % 32].map fun letter => UInt8.ofNat (64 + letter)

def vendorName (identifier : Byte × Byte) : String :=
  String.ofList ((vendorCode identifier).map fun letter => Char.ofNat letter.toNat)

namespace Blob

/-- Reads a blob from the front of a byte run; what lies behind the announced extensions is
ignored. Nothing is validated. -/
def ofBytes (bytes : List Byte) : Except Error Blob :=
  match Block.takeFirst? bytes with
  | none => .error (.truncated 128 bytes.length)
  | some (base, rest) =>
      match taken : Block.takeMany? base.extensionCount rest with
      | none => .error (.truncated (128 * (1 + base.extensionCount)) bytes.length)
      | some extensions => .ok ⟨base, extensions, Block.length_of_takeMany? taken⟩

/-- Reads a blob from a hex dump. -/
def ofText (codec : Text.Hex.Codec) (text : String) : Except Error Blob :=
  match codec.ofText text with
  | .error reason => .error (.hex reason)
  | .ok bytes => ofBytes bytes

/-- A blob of a base block and the extensions that are left of it, at most 255. -/
def ofKept (base : Block) (extensions : List Block) : Blob where
  base := base.withExtensionCount (UInt8.ofNat (extensions.take 255).length)
  extensions := extensions.take 255
  count_eq := by
    have small : (extensions.take 255).length ≤ 255 := List.length_take_le 255 extensions
    rw [Block.extensionCount_withExtensionCount, UInt8.toNat_ofNat']
    omega

def blocks (blob : Blob) : List Block :=
  blob.base :: blob.extensions

def toBytes (blob : Blob) : List Byte :=
  blob.blocks.flatMap Vector.toList

/-- The hex dump of a blob, in one line. -/
def toText (codec : Text.Hex.Codec) (blob : Blob) : String :=
  codec.encode blob.toBytes

def block? (blob : Blob) (index : Nat) : Option Block :=
  blob.blocks[index]?

/-- Every block passes validation, possibly with damage that is forgiven. -/
def isValid (policy : RepairPolicy) (blob : Blob) : Bool :=
  (blob.base.validateBase policy).ok && blob.extensions.all fun block => block.validateExtension.ok

/-! ## Fields of the base block -/

def version (blob : Blob) : Nat :=
  (blob.base.byte 18).toNat

def revision (blob : Blob) : Nat :=
  (blob.base.byte 19).toNat

/-- The structure is newer than `version.revision`. -/
def isNewerThan (blob : Blob) (version revision : Nat) : Bool :=
  version < blob.version || (blob.version = version && revision < blob.revision)

def manufacturerId (blob : Blob) : Byte × Byte :=
  (blob.base.byte 8, blob.base.byte 9)

def product (blob : Blob) : Nat :=
  Byte.word (blob.base.byte 10) (blob.base.byte 11)

def identity (blob : Blob) : Identity where
  manufacturer := vendorName blob.manufacturerId
  manufacturerId := blob.manufacturerId
  product := blob.product
  serial :=
    littleEndian
      [blob.base.byte 12, blob.base.byte 13, blob.base.byte 14, blob.base.byte 15]
  week := (blob.base.byte 16).toNat
  year := 1990 + (blob.base.byte 17).toNat
  version := blob.version
  revision := blob.revision

/-- The video input definition. -/
def input (blob : Blob) : Byte :=
  blob.base.byte 20

def isDigital (blob : Blob) : Bool :=
  blob.input.bit 7

def widthCm (blob : Blob) : Nat :=
  (blob.base.byte 21).toNat

def heightCm (blob : Blob) : Nat :=
  (blob.base.byte 22).toNat

def features (blob : Blob) : Byte :=
  blob.base.byte 24

/-- The feature bit that announces the default timing formula, or continuous frequency. -/
def hasContinuousFrequency (blob : Blob) : Bool :=
  blob.features.bit 0

/-- Established timings I and II, then the byte reserved for the manufacturer. -/
def establishedTimings (blob : Blob) : Byte × Byte × Byte :=
  (blob.base.byte 35, blob.base.byte 36, blob.base.byte 37)

/-- The eight standard timing codes of the base block. -/
def standardTimings (blob : Blob) : List (Byte × Byte) :=
  (List.finRange 8).map fun slot => (blob.base[38 + 2 * slot.val], blob.base[39 + 2 * slot.val])

/-! ## Descriptors and extensions -/

/-- Every descriptor in the order in which timings count: those of the base block, then those
of the extensions. -/
def descriptors (blob : Blob) : List Descriptor :=
  Block.baseSlots.filterMap blob.base.descriptorAt? ++
    blob.extensions.flatMap fun extension =>
      extension.extensionSlots.filterMap extension.descriptorAt?

/-- The first extension with the given tag at or behind `start`, and the position behind it. -/
def findExtension? (blob : Blob) (tag : Byte) (start : Nat) : Option (Block × Nat) :=
  ((blob.extensions.zipIdx.drop start).find? fun (extension, _) => extension.tag == tag).map
    fun (extension, position) => (extension, position + 1)

theorem findExtension?_bounds {blob : Blob} {tag : Byte} {start next : Nat} {extension : Block}
    (found : blob.findExtension? tag start = some (extension, next)) :
    start < next ∧ next ≤ blob.extensions.length := by
  simp only [findExtension?, Option.map_eq_some_iff] at found
  obtain ⟨⟨candidate, position⟩, hit, equal⟩ := found
  have member := List.mem_of_find?_eq_some hit
  obtain ⟨offset, small, value⟩ := List.mem_iff_getElem.mp member
  simp only [List.length_drop, List.length_zipIdx] at small
  simp only [List.getElem_drop, List.getElem_zipIdx, Nat.zero_add, Prod.mk.injEq] at value equal
  omega

/-- Where the search goes on after each extension with the given tag, when it is repeated from
`start` to the end. -/
def resumptions (blob : Blob) (tag : Byte) (start : Nat) : List Nat :=
  match found : blob.findExtension? tag start with
  | none => []
  | some (_, next) =>
      have := findExtension?_bounds found
      next :: blob.resumptions tag next
termination_by blob.extensions.length - start

end Blob

end Edid
