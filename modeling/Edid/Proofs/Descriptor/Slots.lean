import Edid.Proofs.Cta.Walk
import Mathlib.Data.List.Forall2

/-!
# Slots of descriptors

The descriptors of a block stand in slots of 18 bytes. An extension announces its slots by a byte,
and none of them is lost: they keep apart from each other, end in front of the checksum, and begin
behind the data blocks.
-/

set_option autoImplicit false

namespace Edid

namespace Block

/-- The extension announces a slot at an offset. Slots stand one behind the other and end in front of
the checksum. A CTA-861 extension says where the first one is, for which its header leaves room; a
video timing block of version 1 says how many there are. -/
inductive Announces (extension : Block) : Nat → Prop where
  | cta {slot : Nat} : extension.tag = ctaTag → 4 ≤ (extension.byte 2).toNat →
      (extension.byte 2).toNat + 18 * slot + 18 ≤ 127 →
      Announces extension ((extension.byte 2).toNat + 18 * slot)
  | timing {slot : Nat} : extension.tag = timingBlockTag → extension.byte 1 = 1 →
      slot < (extension.byte 2).toNat → 5 + 18 * slot + 18 ≤ 127 →
      Announces extension (5 + 18 * slot)

/-- Slots that keep apart, each behind the one before, and end in front of the checksum. -/
structure Apart (slots : List Nat) : Prop where
  disjoint : slots.Pairwise fun earlier later => earlier + 18 ≤ later
  inside : ∀ slot ∈ slots, slot + 18 ≤ 127

theorem apart_range {first count : Nat} (fits : first + 18 * count ≤ 127) :
    Apart ((List.range count).map fun slot => first + 18 * slot) where
  disjoint := by
    rw [List.pairwise_map]
    refine List.pairwise_lt_range.imp fun {earlier later} before => ?_
    omega
  inside := by
    intro slot member
    obtain ⟨index, few, rfl⟩ := List.mem_map.mp member
    have := List.mem_range.mp few
    omega

theorem apart_baseSlots : Apart baseSlots :=
  apart_range (by decide)

section Slots

variable {extension : Block}

theorem apart_extensionSlots (extension : Block) : Apart extension.extensionSlots := by
  rw [extensionSlots]
  split
  · dsimp only
    split
    · exact apart_range (by omega)
    · exact ⟨.nil, List.forall_mem_nil _⟩
  · split
    · exact apart_range (by omega)
    · exact ⟨.nil, List.forall_mem_nil _⟩

theorem mem_extensionSlots_iff {offset : Nat} :
    offset ∈ extension.extensionSlots ↔ extension.Announces offset := by
  have other : ¬ timingBlockTag = ctaTag := by decide
  constructor
  · intro member
    rw [extensionSlots] at member
    split at member
    · next cta =>
        dsimp only at member
        split at member
        · next room =>
            obtain ⟨slot, few, rfl⟩ := List.mem_map.mp member
            have := List.mem_range.mp few
            exact .cta cta room.1 (by omega)
        · contradiction
    · split at member
      · next timing =>
          obtain ⟨slot, few, rfl⟩ := List.mem_map.mp member
          have := List.mem_range.mp few
          exact .timing timing.1 timing.2 (by omega) (by omega)
      · contradiction
  · intro announced
    cases announced with
    | @cta slot tag room fits =>
        rw [extensionSlots, if_pos tag]
        dsimp only
        rw [if_pos ⟨room, by omega⟩]
        exact List.mem_map.mpr ⟨slot, List.mem_range.mpr (by omega), rfl⟩
    | @timing slot tag version few fits =>
        rw [extensionSlots, tag, if_neg other, if_pos ⟨rfl, version⟩]
        exact List.mem_map.mpr ⟨slot, List.mem_range.mpr (by omega), rfl⟩

/-- A slot inside the block holds a descriptor, and that consists of its bytes. -/
theorem exists_descriptorAt? (block : Block) {slot : Nat} (inside : slot + 18 ≤ 128) :
    ∃ descriptor, block.descriptorAt? slot = some descriptor ∧
      descriptor.toList = block.between slot (slot + 18) := by
  rw [descriptorAt?, dif_pos inside]
  refine ⟨_, rfl, List.ext_getElem ?_ fun position first second => ?_⟩
  · rw [Vector.length_toList, between, Machine.length_drop_take (by rwa [Vector.length_toList])]
    omega
  · simp only [Vector.getElem_toList, Vector.getElem_ofFn, between, List.getElem_drop,
      List.getElem_take]

theorem slot_after_bounds {start stop slot : Nat}
    (bounds : (Cta.Collection.ofExtension extension).bounds = .ok (start, stop))
    (announced : extension.Announces slot) : stop ≤ slot := by
  cases announced with
  | cta tag room fits =>
      obtain ⟨_, _, _, given⟩ := Cta.Collection.stop_of_bounds tag bounds
      omega
  | timing tag version few fits =>
      have notWrapped : ¬ timingBlockTag = DisplayId.ctaTag := by decide
      have notCta : ¬ timingBlockTag = ctaTag := by decide
      rw [Cta.Collection.bounds, Cta.Collection.tag_ofExtension, tag, if_neg notWrapped,
        if_neg notCta] at bounds
      contradiction

theorem not_announces_of_displayId (tag : extension.tag = displayIdTag) (slot : Nat) :
    ¬ extension.Announces slot := by
  intro announced
  cases announced with
  | cta other =>
      rw [tag] at other
      contradiction
  | timing other =>
      rw [tag] at other
      contradiction

end Slots

end Block

/-! ## The descriptors of a blob -/

namespace Blob

/-- The slots of a blob: those of the base block, then those of each extension in turn. -/
def slots (blob : Blob) : List (Block × Nat) :=
  Block.baseSlots.map (blob.base, ·) ++
    blob.extensions.flatMap fun extension => extension.extensionSlots.map (extension, ·)

/-- The slot gives the descriptor, which consists of the bytes in it. -/
structure Fills (place : Block × Nat) (descriptor : Descriptor) : Prop where
  given : place.1.descriptorAt? place.2 = some descriptor
  bytes : descriptor.toList = place.1.between place.2 (place.2 + 18)

theorem descriptors_eq (blob : Blob) :
    blob.descriptors = blob.slots.filterMap fun place => place.1.descriptorAt? place.2 := by
  simp only [descriptors, slots, List.filterMap_append, List.filterMap_map, List.filterMap_flatMap]
  rfl

theorem fits_of_mem_slots {blob : Blob} {place : Block × Nat} (member : place ∈ blob.slots) :
    place.2 + 18 ≤ 127 := by
  rcases List.mem_append.mp member with inBase | inExtension
  · obtain ⟨slot, listed, rfl⟩ := List.mem_map.mp inBase
    exact Block.apart_baseSlots.inside slot listed
  · obtain ⟨extension, _, placed⟩ := List.mem_flatMap.mp inExtension
    obtain ⟨slot, listed, rfl⟩ := List.mem_map.mp placed
    exact (Block.apart_extensionSlots extension).inside slot listed

/-- The values of a partial function, in the order of the items it is applied to, where it has a
value for each. -/
theorem forall₂_filterMap {α β : Type} {f : α → Option β} {relates : α → β → Prop}
    {items : List α} (each : ∀ item ∈ items, ∃ image, f item = some image ∧ relates item image) :
    List.Forall₂ relates items (items.filterMap f) := by
  induction items with
  | nil => exact .nil
  | cons item items ih =>
      obtain ⟨⟨image, found, related⟩, others⟩ := List.forall_mem_cons.mp each
      rw [List.filterMap_cons_some found]
      exact .cons related (ih others)

/-- No slot of a blob is left out: it gives the descriptors of its slots in their order, first the
four of the base block, then those that the extensions announce. The slots of a block keep apart and
end in front of its checksum, and the data blocks of an extension end before its slots begin. So the
data blocks that are read from a blob stand in front of all descriptors of the extension they stand
in. -/
theorem descriptors_fill_slots (blob : Blob) :
    List.Forall₂ Fills blob.slots blob.descriptors ∧
      Block.baseSlots = [54, 72, 90, 108] ∧ Block.Apart Block.baseSlots ∧
      (∀ extension ∈ blob.extensions, Block.Apart extension.extensionSlots ∧
        (∀ slot, slot ∈ extension.extensionSlots ↔ extension.Announces slot) ∧
        ∀ start stop, (Cta.Collection.ofExtension extension).bounds = .ok (start, stop) →
          ∀ slot ∈ extension.extensionSlots, stop ≤ slot) ∧
      ∀ collection blocks, blob.cta? = some collection → collection.dataBlocks = .ok blocks →
        ∃ front carrier behind start stop, blob.extensions = front ++ carrier :: behind ∧
          blocks = Cta.DataBlock.readAll (carrier.between start stop) ∧
          ∀ slot ∈ carrier.extensionSlots, stop ≤ slot := by
  refine ⟨?_, rfl, Block.apart_baseSlots, fun extension _ => ⟨Block.apart_extensionSlots extension,
    fun slot => Block.mem_extensionSlots_iff, fun start stop bounds slot member => ?_⟩,
    fun collection blocks found read => ?_⟩
  · rw [descriptors_eq]
    refine forall₂_filterMap fun place member => ?_
    obtain ⟨descriptor, given, bytes⟩ :=
      place.1.exists_descriptorAt? (Nat.le_succ_of_le (fits_of_mem_slots member))
    exact ⟨descriptor, given, given, bytes⟩
  · exact Block.slot_after_bounds bounds (Block.mem_extensionSlots_iff.mp member)
  · obtain ⟨front, carrier, behind, start, stop, split, span⟩ := exists_ctaSpan found read
    have same := span.dataBlocks_eq.symm.trans read
    refine ⟨front, carrier, behind, start, stop, split, (Except.ok.inj same).symm,
      fun slot member => ?_⟩
    have announced := Block.mem_extensionSlots_iff.mp member
    -- A container inside a DisplayID extension has no slots behind it.
    cases span with
    | direct free tag bounds => exact Block.slot_after_bounds bounds announced
    | wrapped free valid others storable tag holds =>
        exact absurd announced (Block.not_announces_of_displayId holds.tag_eq slot)

/-- Data blocks up to the first slot, and slots up to the checksum. -/
def brimfulExtension : Block :=
  Vector.ofFn fun position =>
    ([Block.ctaTag, 3, 19, 0, 0x4e] ++ List.replicate 14 0x10).getD position.val 0

/-- An extension that announces more slots than it has room for. -/
def timingExtension : Block :=
  Vector.ofFn fun position => [Block.timingBlockTag, 1, 200].getD position.val 0

/-- A blob with all the descriptors that its blocks have room for. -/
def crowded : Blob where
  base := Vector.ofFn fun position =>
    (Block.header.toList ++ List.replicate 118 0 ++ [2]).getD position.val 0
  extensions := [brimfulExtension, timingExtension]
  count_eq := by decide +kernel

theorem descriptors_fill_slots_crowded :
    (Cta.Collection.ofExtension brimfulExtension).bounds = .ok (4, 19) ∧
      brimfulExtension.extensionSlots = [19, 37, 55, 73, 91, 109] ∧
      (∀ slot ∈ brimfulExtension.extensionSlots, 19 ≤ slot) ∧
      timingExtension.extensionSlots = [5, 23, 41, 59, 77, 95] ∧
      crowded.descriptors.length = 16 ∧
      ∃ carrier blocks start stop, carrier ∈ crowded.extensions ∧ crowded.ctaBlocks = blocks ∧
        blocks = Cta.DataBlock.readAll (carrier.between start stop) ∧
        ∀ slot ∈ carrier.extensionSlots, stop ≤ slot := by
  have bounds : (Cta.Collection.ofExtension brimfulExtension).bounds = .ok (4, 19) := rfl
  have found : crowded.cta? = some (.ofExtension brimfulExtension) := by decide +kernel
  have read := Cta.Collection.dataBlocks_of_bounds bounds
  obtain ⟨filled, _, _, each, data⟩ := descriptors_fill_slots crowded
  obtain ⟨_, _, behindData⟩ := each brimfulExtension List.mem_cons_self
  obtain ⟨front, carrier, behind, start, stop, split, between, apart⟩ := data _ _ found read
  have count : crowded.slots.length = 16 := by decide +kernel
  refine ⟨bounds, by decide +kernel, behindData 4 19 bounds, by decide +kernel,
    filled.length_eq.symm.trans count, carrier, _, start, stop, ?_, ?_, between, apart⟩
  · rw [split]
    exact List.mem_append_right front List.mem_cons_self
  · rw [ctaBlocks, found]
    simp only [read]

end Blob

end Edid
