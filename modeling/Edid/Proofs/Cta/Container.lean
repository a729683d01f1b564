import Edid.Capabilities.Audio
import Edid.Capabilities.OfBlob
import Edid.Modes.Formats
import Edid.Proofs.Capabilities.Kind
import Edid.Proofs.Cta.Bytes
import Edid.Proofs.Cta.Span

/-!
# The two containers of CTA-861 data

CTA-861 data is an extension of its own or a data block of a DisplayID section. The one tells
where its data blocks end, the other how long they are. Both give the same data blocks back, and
nothing that is read from the data blocks depends on the container.
-/

set_option autoImplicit false

namespace Edid

namespace Cta

open DataBlock

/-- Data blocks as the payload of a DisplayID data block. -/
def wrapped (revision : Byte) (blocks : List DataBlock) : DisplayId.DataBlock :=
  ⟨DisplayId.ctaTag, revision, stored blocks⟩

/-- What a blob says where its CTA-861 data is read. -/
structure ReadsAs (blob : Blob) (revision : Byte) (blocks : List DataBlock) : Prop where
  read : ∃ collection, blob.cta? = some collection ∧ collection.revision = revision.toNat ∧
    collection.dataBlocks = .ok blocks

end Cta

open Cta.DataBlock (stored)

namespace Block

/-- The extension holds the data blocks and its detailed timings begin where they end. Its other
header byte is left open, and so is what follows the data blocks. -/
structure HoldsCta (extension : Block) (revision : Byte) (blocks : List Cta.DataBlock) :
    Prop where
  room : (stored blocks).length ≤ 123
  split : ∃ flags rest, extension.toList =
    ctaTag :: revision :: UInt8.ofNat (4 + (stored blocks).length) :: flags ::
      (stored blocks ++ rest)

/-- The extension has a section whose first CTA-861 data block holds the data blocks. Other data
blocks can come before it, and anything behind it. -/
structure HoldsWrapped (extension : Block) (revision : Byte) (blocks : List Cta.DataBlock) :
    Prop where
  split : ∃ front behind,
    (∀ block ∈ front, block.Storable ∧ block.tag ≠ DisplayId.ctaTag) ∧
      extension.HoldsSection
        (DisplayId.DataBlock.stored front ++ ((Cta.wrapped revision blocks).bytes ++ behind))

end Block

namespace Blob

/-- The first CTA-861 extension holds the data blocks. -/
def HoldsCta (blob : Blob) (revision : Byte) (blocks : List Cta.DataBlock) : Prop :=
  ∃ extension, blob.extensions.find? (·.tag == Block.ctaTag) = some extension ∧
    extension.HoldsCta revision blocks

/-- There is no CTA-861 extension, and the first DisplayID extension holds the data blocks. -/
def HoldsWrapped (blob : Blob) (revision : Byte) (blocks : List Cta.DataBlock) : Prop :=
  blob.extensions.find? (·.tag == Block.ctaTag) = none ∧
    ∃ extension, blob.extensions.find? (·.tag == Block.displayIdTag) = some extension ∧
      extension.HoldsWrapped revision blocks

end Blob

namespace Cta

namespace Collection

theorem bounds_of_ctaTag {collection : Collection} (tag : collection.tag = Block.ctaTag)
    {stop : Nat} (size : (collection.byte 2).toNat = stop) (start : 4 ≤ stop)
    (inside : stop ≤ 127) : collection.bounds = .ok (4, stop) := by
  have other : ¬ Block.ctaTag = DisplayId.ctaTag := by decide
  have given : ¬ stop = 0 := by omega
  simp only [bounds, tag, size, if_neg other, if_neg given, if_true]
  exact if_pos ⟨start, inside⟩

/-- Data blocks that are stored between the bounds are read back. -/
theorem dataBlocks_of_stored {collection : Collection} {start stop : Nat}
    {blocks : List DataBlock} (bounds : collection.bounds = .ok (start, stop))
    (content : (collection.bytes.take stop).drop start = stored blocks) :
    collection.dataBlocks = .ok blocks := by
  rw [dataBlocks_of_bounds bounds, content, DataBlock.readAll_stored]

end Collection

theorem readsAs_of_holdsCta {blob : Blob} {revision : Byte} {blocks : List DataBlock}
    (holds : blob.HoldsCta revision blocks) : ReadsAs blob revision blocks := by
  obtain ⟨extension, found, holds⟩ := holds
  have room := holds.room
  obtain ⟨flags, rest, split⟩ := holds.split
  have stop : (UInt8.ofNat (4 + (stored blocks).length)).toNat = 4 + (stored blocks).length := by
    rw [UInt8.toNat_ofNat']
    omega
  have content : (extension.toList.take (4 + (stored blocks).length)).drop 4 = stored blocks := by
    rw [List.drop_take, split, Nat.add_sub_cancel_left]
    exact List.take_left
  refine ⟨⟨extension.toList⟩, Blob.cta?_of_find found, ?_, ?_⟩
  · rw [split]
    rfl
  · refine Collection.dataBlocks_of_stored
      (Collection.bounds_of_ctaTag ?_ ?_ (by omega) (by omega)) content
    · rw [split]
      rfl
    · rw [split]
      exact stop

theorem storable_wrapped (revision : Byte) {blocks : List DataBlock} (nonempty : blocks ≠ [])
    (fits : (stored blocks).length ≤ 255) : (wrapped revision blocks).Storable where
  nonempty := by
    obtain ⟨first, others, rfl⟩ := List.exists_cons_of_ne_nil nonempty
    exact List.cons_ne_nil _ _
  length_le := fits

theorem readsAs_of_holdsWrapped {blob : Blob} {revision : Byte} {blocks : List DataBlock}
    (nonempty : blocks ≠ []) (holds : blob.HoldsWrapped revision blocks) :
    ReadsAs blob revision blocks := by
  obtain ⟨noCta, extension, found, ⟨before, rest, others, holds⟩⟩ := holds
  have fits : (stored blocks).length ≤ 255 := by
    have room := holds.room
    simp only [List.length_append, DisplayId.DataBlock.bytes, List.length_cons] at room
    have payload : (wrapped revision blocks).payload.length = (stored blocks).length := rfl
    omega
  have storable := storable_wrapped revision nonempty fits
  obtain ⟨_, front, behind, split, earlier⟩ := List.find?_eq_some_iff_append.mp found
  have free : ∀ other ∈ front ++ extension :: behind, other.tag ≠ Block.ctaTag := by
    intro other member
    have missing := List.find?_eq_none.mp noCta other (split ▸ member)
    simpa using missing
  have valid : ∀ other ∈ front, other.tag = Block.displayIdTag → other.LacksCta := by
    intro other member isDisplayId
    have unmarked := earlier other member
    simp [isDisplayId] at unmarked
  have read := Collection.dataBlocks_ofDataBlock storable rfl
  rw [wrapped, DataBlock.readAll_stored] at read
  exact ⟨_, Blob.cta?_of_wrapped split free valid others storable rfl holds, rfl, read⟩

/-! ## Storing the data -/

theorem exists_holdsCta (revision : Byte) {blocks : List DataBlock}
    (room : (stored blocks).length ≤ 123) :
    ∃ extension : Block, extension.HoldsCta revision blocks := by
  let bytes := Block.ctaTag :: revision :: UInt8.ofNat (4 + (stored blocks).length) :: 0 ::
    (stored blocks ++ List.replicate (124 - (stored blocks).length) 0)
  have length : bytes.length = 128 := by
    simp only [bytes, List.length_cons, List.length_append, List.length_replicate]
    omega
  exact ⟨⟨bytes.toArray, by simpa using length⟩, room, 0, _, rfl⟩

theorem exists_holdsWrapped (revision : Byte) {blocks : List DataBlock}
    (fits : (stored blocks).length ≤ 118) :
    ∃ extension : Block, extension.HoldsWrapped revision blocks := by
  have room : ((wrapped revision blocks).bytes ++ []).length ≤ 121 := by
    rw [List.append_nil]
    exact Nat.add_le_add_right fits 3
  obtain ⟨extension, holds⟩ := Block.exists_holdsSection room
  exact ⟨extension, [], [], List.forall_mem_nil _, holds⟩

end Cta

namespace Block

theorem HoldsCta.tag_eq {extension : Block} {revision : Byte} {blocks : List Cta.DataBlock}
    (holds : extension.HoldsCta revision blocks) : extension.tag = ctaTag := by
  obtain ⟨_, _, split⟩ := holds.split
  rw [tag, ← extension.getD_toList 0, split]
  rfl

theorem HoldsWrapped.tag_eq {extension : Block} {revision : Byte} {blocks : List Cta.DataBlock}
    (holds : extension.HoldsWrapped revision blocks) : extension.tag = displayIdTag := by
  obtain ⟨_, _, _, holds⟩ := holds.split
  exact holds.tag_eq

end Block

namespace Blob

/-- A blob with a single extension. -/
def single (base extension : Block) (announced : base.extensionCount = 1) : Blob :=
  ⟨base, [extension], announced.symm⟩

theorem holdsCta_single {base extension : Block} {revision : Byte}
    {blocks : List Cta.DataBlock} (announced : base.extensionCount = 1)
    (holds : extension.HoldsCta revision blocks) :
    (single base extension announced).HoldsCta revision blocks := by
  refine ⟨extension, ?_, holds⟩
  simp [single, holds.tag_eq]

theorem holdsWrapped_single {base extension : Block} {revision : Byte}
    {blocks : List Cta.DataBlock} (announced : base.extensionCount = 1)
    (holds : extension.HoldsWrapped revision blocks) :
    (single base extension announced).HoldsWrapped revision blocks := by
  have other : (Block.displayIdTag == Block.ctaTag) = false := by decide
  refine ⟨?_, extension, ?_, holds⟩
  · simp [single, holds.tag_eq, other]
  · simp [single, holds.tag_eq]

end Blob

/-! ## What is read from the data blocks -/

namespace Cta.ReadsAs

variable {blob : Blob} {revision : Byte} {blocks : List DataBlock}

theorem ctaBlocks_eq (reads : ReadsAs blob revision blocks) : blob.ctaBlocks = blocks := by
  obtain ⟨collection, found, _, content⟩ := reads.read
  rw [Blob.ctaBlocks, found]
  simp only [content]

theorem videoBlocks_eq (reads : ReadsAs blob revision blocks) :
    videoBlocks blob = if revision.toNat < 3 then [] else blocks := by
  obtain ⟨collection, found, same, _⟩ := reads.read
  rw [videoBlocks, found]
  simp only [same, reads.ctaBlocks_eq]

theorem audioDetails_eq (reads : ReadsAs blob revision blocks) :
    blob.audioDetails = .ok (if revision.toNat < 3 then [] else blocks) := by
  obtain ⟨collection, found, same, content⟩ := reads.read
  rw [Blob.audioDetails, found]
  simp only [same, content]
  split <;> rfl

theorem isHdmi_eq (reads : ReadsAs blob revision blocks) :
    blob.isHdmi = blocks.any DataBlock.isHdmi := by
  rw [Blob.isHdmi, reads.ctaBlocks_eq]

end Cta.ReadsAs

namespace Capabilities

/-- Two summaries say the same about pictures at quarter chroma resolution: the formats that are
shown that way and the map of them. -/
structure SameY420 (left right : Capabilities) : Prop where
  only : left.y420Only = right.y420Only
  also : left.y420Also = right.y420Also
  map : left.y420Map = right.y420Map

variable {left right : Capabilities}

/-- What a data block says about it does not depend on what was known before. -/
theorem SameY420.absorb (same : SameY420 left right) (block : Cta.DataBlock) :
    SameY420 (left.absorb block) (right.absorb block) := by
  rw [absorb_eq, absorb_eq]
  cases block.capabilityKind? with
  | none => exact same
  | some kind =>
      cases kind with
      | y420Map => exact ⟨same.only, same.also, rfl⟩
      | hdmi | hdmiForum | videoCapability | dynamicRange => exact ⟨same.only, same.also, same.map⟩

theorem SameY420.foldl_absorb (same : SameY420 left right) (blocks : List Cta.DataBlock) :
    SameY420 (blocks.foldl Capabilities.absorb left) (blocks.foldl Capabilities.absorb right) := by
  induction blocks generalizing left right with
  | nil => exact same
  | cons block blocks ih => exact ih (same.absorb block)

theorem SameY420.absorbFormats {direct other : Blob} (same : SameY420 left right)
    (blocks : videoBlocks direct = videoBlocks other) (modes : List Mode) :
    SameY420 (left.absorbFormats direct modes) (right.absorbFormats other modes) where
  only := by simp only [Capabilities.absorbFormats, same.only, blocks]
  also := by simp only [Capabilities.absorbFormats, same.also, same.map, blocks]
  map := same.map

variable {direct other : Blob} {revision : Byte} {blocks : List Cta.DataBlock}

theorem sameY420_absorbCta (same : SameY420 left right)
    (directReads : Cta.ReadsAs direct revision blocks)
    (otherReads : Cta.ReadsAs other revision blocks) :
    SameY420 (left.absorbCta direct) (right.absorbCta other) := by
  obtain ⟨first, foundFirst, _, _⟩ := directReads.read
  obtain ⟨second, foundSecond, _, _⟩ := otherReads.read
  simp only [absorbCta, foundFirst, foundSecond, directReads.ctaBlocks_eq, otherReads.ctaBlocks_eq]
  apply SameY420.foldl_absorb
  exact ⟨same.only, same.also, same.map⟩

/-- With one base block, the summaries of two blobs agree on it if their data blocks do. -/
theorem sameY420_ofBlob (base : direct.base = other.base)
    (directReads : Cta.ReadsAs direct revision blocks)
    (otherReads : Cta.ReadsAs other revision blocks) (workarounds : Workarounds) :
    SameY420 (ofBlob direct workarounds) (ofBlob other workarounds) := by
  have start : SameY420 (ofBase direct workarounds) (ofBase other workarounds) := ⟨rfl, rfl, rfl⟩
  have extended := sameY420_absorbCta start directReads otherReads
  have revisions : direct.revision = other.revision := by rw [Blob.revision, base, Blob.revision]
  have digital : direct.isDigital = other.isDigital := by
    rw [Blob.isDigital, Blob.input, base, Blob.isDigital, Blob.input]
  unfold ofBlob
  rw [revisions, digital]
  split
  · exact start
  · dsimp only
    split
    · exact ⟨extended.only, extended.also, extended.map⟩
    · -- A depth of eight bits is all that can be added here, to either summary.
      split <;> split <;> exact ⟨extended.only, extended.also, extended.map⟩

end Capabilities

namespace Cta

/-- Data blocks that fit both containers can be stored in either, and are read back in order from
either. The modes that they add, the formats at quarter chroma resolution, the sound and the kind
of connection are the same. -/
theorem containers_agree (revision : Byte) {blocks : List DataBlock} (nonempty : blocks ≠ [])
    (fits : (stored blocks).length ≤ 118) :
    (∀ base : Block, base.extensionCount = 1 → ∃ direct other : Blob,
      direct.base = base ∧ direct.HoldsCta revision blocks ∧
        other.base = base ∧ other.HoldsWrapped revision blocks) ∧
    ∀ direct other : Blob, direct.HoldsCta revision blocks → other.HoldsWrapped revision blocks →
      ReadsAs direct revision blocks ∧ ReadsAs other revision blocks ∧
      (∀ modes, addFormatModes direct modes = addFormatModes other modes) ∧
      (∀ (capabilities : Capabilities) modes,
        capabilities.absorbFormats direct modes = capabilities.absorbFormats other modes) ∧
      (direct.base = other.base → ∀ workarounds modes,
        ((Capabilities.ofBlob direct workarounds).absorbFormats direct modes).SameY420
          ((Capabilities.ofBlob other workarounds).absorbFormats other modes)) ∧
      direct.audioFormats = other.audioFormats ∧ direct.speakers = other.speakers ∧
      direct.isHdmi = other.isHdmi := by
  refine ⟨fun base announced => ?_, fun direct other inExtension inSection => ?_⟩
  · obtain ⟨extension, holds⟩ := exists_holdsCta revision (show (stored blocks).length ≤ 123 by omega)
    obtain ⟨carrier, wraps⟩ := exists_holdsWrapped revision fits
    exact ⟨.single base extension announced, .single base carrier announced, rfl,
      Blob.holdsCta_single announced holds, rfl, Blob.holdsWrapped_single announced wraps⟩
  · have directReads := readsAs_of_holdsCta inExtension
    have otherReads := readsAs_of_holdsWrapped nonempty inSection
    have video : videoBlocks direct = videoBlocks other := by
      rw [directReads.videoBlocks_eq, otherReads.videoBlocks_eq]
    have sound : direct.audioDetails = other.audioDetails := by
      rw [directReads.audioDetails_eq, otherReads.audioDetails_eq]
    refine ⟨directReads, otherReads, fun modes => ?_, fun capabilities modes => ?_,
      fun base workarounds modes => ?_, ?_, ?_, ?_⟩
    · rw [addFormatModes, addFormatModes, video]
    · rw [Capabilities.absorbFormats, Capabilities.absorbFormats, video]
    · exact (Capabilities.sameY420_ofBlob base directReads otherReads workarounds).absorbFormats
        video modes
    · rw [Blob.audioFormats, Blob.audioFormats, sound]
    · rw [Blob.speakers, Blob.speakers, sound]
    · rw [directReads.isHdmi_eq, otherReads.isHdmi_eq]

/-- Formats, a map of them, sound, speakers and an HDMI block: as much as both containers hold, with
the last data block ending where they end. -/
def fullCollection : List DataBlock :=
  [⟨DataBlock.videoTag, 0x10 :: 0x04 :: .replicate 29 0x1f, by decide⟩,
   ⟨DataBlock.extendedTag, DataBlock.y420CapabilityMapTag :: .replicate 30 0x55, by decide⟩,
   ⟨DataBlock.audioTag, .replicate 30 0x09, by decide⟩,
   ⟨DataBlock.speakerTag, [0x01, 0x00, 0x00], by decide⟩,
   ⟨DataBlock.vendorTag,
    [0x03, 0x0c, 0x00, 0x10, 0x00, 0x38, 0x3c, 0x20, 0x80, 0x20, 0x01] ++ .replicate 7 0, by decide⟩]

def fullExtension : Block :=
  Vector.ofFn fun position =>
    ([Block.ctaTag, 3, 122, 0] ++ stored fullCollection).getD position.val 0

theorem holdsCta_fullExtension : fullExtension.HoldsCta 3 fullCollection where
  room := by decide
  split := ⟨0, fullExtension.toList.drop 122, by decide +kernel⟩

def fullBase : Block :=
  Vector.ofFn fun position =>
    (Block.header.toList ++ List.replicate 10 0 ++ [1, 3, 0x80] ++ List.replicate 105 0 ++
      [1, 0x81]).getD position.val 0

theorem extensionCount_fullBase : fullBase.extensionCount = 1 := by
  decide +kernel

def full : Blob :=
  .single fullBase fullExtension extensionCount_fullBase

theorem content_full :
    (addFormatModes full []).map (fun mode => (mode.width, mode.height)) =
        (1920, 1080) :: (1280, 720) :: .replicate 29 (1920, 1080) ++
          [(1280, 720), (1280, 720), (3840, 2160)] ∧
      ((Capabilities.ofBlob full .none).absorbFormats full []).y420Also.toList = [16, 31] ∧
      full.audioFormats.toOption = some (.replicate 10 ⟨1, 1, 9, 9⟩) ∧
      full.speakers.toOption = some (some 1) ∧ full.isHdmi = true := by
  decide +kernel

/-- What the data blocks say in an extension, they say in a section as well. -/
theorem containers_agree_full :
    fullCollection ≠ [] ∧ (stored fullCollection).length = 118 ∧
      ∃ other : Blob, full.HoldsCta 3 fullCollection ∧ other.HoldsWrapped 3 fullCollection ∧
        ReadsAs full 3 fullCollection ∧ ReadsAs other 3 fullCollection ∧
        addFormatModes full [] = addFormatModes other [] ∧
        (addFormatModes other []).map (fun mode => (mode.width, mode.height)) =
          (1920, 1080) :: (1280, 720) :: .replicate 29 (1920, 1080) ++
            [(1280, 720), (1280, 720), (3840, 2160)] ∧
        ((Capabilities.ofBlob other .none).absorbFormats other []).y420Also.toList = [16, 31] ∧
        other.audioFormats.toOption = some (.replicate 10 ⟨1, 1, 9, 9⟩) ∧
        other.speakers.toOption = some (some 1) ∧ full.isHdmi = other.isHdmi ∧
        other.isHdmi = true := by
  have nonempty : fullCollection ≠ [] := List.cons_ne_nil _ _
  have length : (stored fullCollection).length = 118 := by decide
  obtain ⟨kept, agree⟩ := containers_agree 3 nonempty (Nat.le_of_eq length)
  obtain ⟨_, other, _, _, base, inSection⟩ := kept fullBase extensionCount_fullBase
  have inExtension : full.HoldsCta 3 fullCollection :=
    Blob.holdsCta_single extensionCount_fullBase holdsCta_fullExtension
  obtain ⟨directReads, otherReads, modes, _, sameY420, formats, speakers, connection⟩ :=
    agree full other inExtension inSection
  obtain ⟨listed, also, heard, placed, hdmi⟩ := content_full
  refine ⟨nonempty, length, other, inExtension, inSection, directReads, otherReads, modes [],
    ?_, ?_, ?_, ?_, connection, ?_⟩
  · rw [← modes, listed]
  · rw [← (sameY420 base.symm .none []).also, also]
  · rw [← formats, heard]
  · rw [← speakers, placed]
  · rw [← connection, hdmi]

end Cta

end Edid
