import Edid.Proofs.Cta.Bytes
import Edid.Proofs.Cta.Span
import Mathlib.Data.List.Basic

/-!
# Orders of data blocks

Two blobs are rearranged if they differ by the order of the data blocks in their CTA-861 data and by
nothing else. The data blocks stand in the same place in both, all that is read beside them is the
same, and every order of the data blocks of a blob is that of a rearranged one.
-/

set_option autoImplicit false

namespace Edid

open Cta.DataBlock (stored)

namespace Cta

/-! ## Runs of data blocks -/

/-- Two byte runs hold the same data blocks in any order. What is left behind the last one is no
data block, and the same in both. -/
def Rearranged (left right : List Byte) : Prop :=
  ∃ blocks others rest, blocks.Perm others ∧ DataBlock.readAll rest = [] ∧
    left = stored blocks ++ rest ∧ right = stored others ++ rest

namespace Rearranged

variable {left right : List Byte}

theorem perm (rearranged : Rearranged left right) : left.Perm right := by
  obtain ⟨blocks, others, rest, perm, _, rfl, rfl⟩ := rearranged
  exact (DataBlock.stored_perm perm).append_right rest

theorem readAll_perm (rearranged : Rearranged left right) :
    (DataBlock.readAll left).Perm (DataBlock.readAll right) := by
  obtain ⟨blocks, others, rest, perm, none, rfl, rfl⟩ := rearranged
  rw [DataBlock.readAll_stored_append, DataBlock.readAll_stored_append, none]
  exact perm.append_right []

end Rearranged

/-- The data blocks of a run can be put into any order. -/
theorem exists_rearranged {bytes : List Byte} {others : List DataBlock}
    (perm : (DataBlock.readAll bytes).Perm others) :
    ∃ other, Rearranged bytes other ∧ DataBlock.readAll other = others := by
  obtain ⟨rest, split, none⟩ := DataBlock.exists_rest bytes
  refine ⟨stored others ++ rest, ⟨_, others, rest, perm, none, split, rfl⟩, ?_⟩
  rw [DataBlock.readAll_stored_append, none, List.append_nil]

end Cta

/-! ## Blocks -/

namespace Block

/-- Two blocks differ by the order of the data blocks between two positions. -/
structure RearrangedAt (start stop : Nat) (left right : Block) : Prop where
  front : left.toList.take start = right.toList.take start
  behind : left.toList.drop stop = right.toList.drop stop
  between : Cta.Rearranged (left.between start stop) (right.between start stop)

namespace RearrangedAt

variable {start stop : Nat} {left right : Block}

theorem getElem_behind (rearranged : RearrangedAt start stop left right) {position : Nat}
    (inside : position < 128) (after : stop ≤ position) : left[position] = right[position] := by
  have same := congrArg (·[position - stop]?) rearranged.behind
  simp only [List.getElem?_drop, Nat.add_sub_cancel' after] at same
  rwa [List.getElem?_eq_getElem (by simpa), List.getElem?_eq_getElem (by simpa), Option.some.injEq,
    Vector.getElem_toList, Vector.getElem_toList] at same

theorem byte_eq (rearranged : RearrangedAt start stop left right) (position : Fin 128)
    (before : position.val < start) : left.byte position = right.byte position := by
  have same := congrArg (·.getD position.val 0) rearranged.front
  simp only [List.getD_eq_getElem?_getD, List.getElem?_take, if_pos before] at same
  rwa [← List.getD_eq_getElem?_getD, ← List.getD_eq_getElem?_getD, getD_toList, getD_toList] at same

theorem descriptorAt?_eq (rearranged : RearrangedAt start stop left right) {offset : Nat}
    (after : stop ≤ offset) : left.descriptorAt? offset = right.descriptorAt? offset := by
  rw [descriptorAt?, descriptorAt?]
  split
  · next fits =>
      refine congrArg some (Vector.ext fun position inside => ?_)
      rw [Vector.getElem_ofFn, Vector.getElem_ofFn]
      exact rearranged.getElem_behind (by omega) (by omega)
  · rfl

/-- The descriptors of a CTA-861 extension come behind its data blocks. -/
theorem extensionDescriptors_eq (rearranged : RearrangedAt 4 stop left right)
    (tag : left.tag = ctaTag) (size : (left.byte 2).toNat = 0 ∨ (left.byte 2).toNat = stop) :
    left.extensionSlots.filterMap left.descriptorAt? =
      right.extensionSlots.filterMap right.descriptorAt? := by
  have rightTag : right.tag = ctaTag := (rearranged.byte_eq 0 (by decide)).symm.trans tag
  have slots : left.extensionSlots = right.extensionSlots := by
    rw [extensionSlots, if_pos tag, extensionSlots, if_pos rightTag,
      rearranged.byte_eq 2 (by decide)]
  have behind : ∀ offset ∈ left.extensionSlots, stop ≤ offset := by
    intro offset member
    simp only [extensionSlots, if_pos tag] at member
    split at member
    · obtain ⟨slot, _, rfl⟩ := List.mem_map.mp member
      omega
    · contradiction
  rw [← slots]
  exact List.filterMap_congr fun offset member => rearranged.descriptorAt?_eq (behind offset member)

/-- The bytes around the data blocks stay where they are. -/
theorem exists_split {front region behind : List Byte}
    (rearranged : RearrangedAt front.length (front.length + region.length) left right)
    (split : left.toList = front ++ (region ++ behind)) :
    ∃ other, Cta.Rearranged region other ∧ right.toList = front ++ (other ++ behind) := by
  obtain ⟨sameFront, sameBehind, between⟩ := rearranged
  rw [between_of_split split] at between
  rw [split, List.take_left] at sameFront
  rw [split, ← List.length_append, ← List.append_assoc, List.drop_left, List.length_append]
    at sameBehind
  refine ⟨_, between, ?_⟩
  rw [right.split_between (Nat.le_add_right front.length region.length), ← sameFront, ← sameBehind]

theorem of_split {front region other behind : List Byte}
    (leftSplit : left.toList = front ++ (region ++ behind))
    (rightSplit : right.toList = front ++ (other ++ behind))
    (rearranged : Cta.Rearranged region other) :
    RearrangedAt front.length (front.length + region.length) left right := by
  have length := rearranged.perm.length_eq
  constructor
  · rw [leftSplit, rightSplit, List.take_left, List.take_left]
  · rw [leftSplit, rightSplit, ← List.append_assoc, ← List.append_assoc, ← List.length_append,
      List.drop_left, List.length_append, length, ← List.length_append, List.drop_left]
  · rw [between_of_split leftSplit, length, between_of_split rightSplit]
    exact rearranged

end RearrangedAt

/-- Data blocks between two positions can be put into any order there. -/
theorem exists_rearrangedAt {block : Block} {start stop : Nat} {region : List Byte}
    (order : start ≤ stop) (inside : stop ≤ 128)
    (rearranged : Cta.Rearranged (block.between start stop) region) :
    ∃ other : Block, block.RearrangedAt start stop other ∧ other.between start stop = region := by
  let bytes := block.toList.take start ++ (region ++ block.toList.drop stop)
  have split := block.split_between order
  have front : (block.toList.take start).length = start := by
    rw [List.length_take, Vector.length_toList]
    exact Nat.min_eq_left (Nat.le_trans order inside)
  have middle : (block.between start stop).length = stop - start := by
    rw [between, List.length_drop, List.length_take, Vector.length_toList, Nat.min_eq_left inside]
  have length : bytes.length = 128 := by
    have whole := congrArg List.length split
    rw [Vector.length_toList, List.length_append, List.length_append] at whole
    rw [List.length_append, List.length_append, ← rearranged.perm.length_eq, ← whole]
  let other : Block := ⟨bytes.toArray, length⟩
  have otherSplit : other.toList =
      block.toList.take start ++ (region ++ block.toList.drop stop) := rfl
  have differ := RearrangedAt.of_split split otherSplit rearranged
  have same := between_of_split otherSplit
  rw [front, middle, Nat.add_sub_cancel' order] at differ
  rw [front, ← rearranged.perm.length_eq, middle, Nat.add_sub_cancel' order] at same
  exact ⟨other, differ, same⟩

/-- An extension with DisplayID data has no descriptors. -/
theorem extensionSlots_of_displayIdTag {extension : Block} (tag : extension.tag = displayIdTag) :
    extension.extensionSlots = [] := by
  have direct : ¬ displayIdTag = ctaTag := by decide
  have timings : ¬ displayIdTag = timingBlockTag := by decide
  rw [extensionSlots, tag, if_neg direct, if_neg fun marked => timings marked.1]

/-- A section stays valid when the payload of one of its data blocks is rearranged: its bytes sum to
the same in any order. -/
theorem HoldsSection.rearranged {carrier other : Block} {before : List DisplayId.DataBlock}
    {wrapper : DisplayId.DataBlock} {rest : List Byte}
    (holds : carrier.HoldsSection (DisplayId.DataBlock.stored before ++ (wrapper.bytes ++ rest)))
    (differ : carrier.RearrangedAt (8 + (DisplayId.DataBlock.stored before).length)
      (8 + (DisplayId.DataBlock.stored before).length + wrapper.payload.length) other) :
    ∃ payload, wrapper.payload.Perm payload ∧
      other.HoldsSection (DisplayId.DataBlock.stored before ++
        (({ wrapper with payload := payload } : DisplayId.DataBlock).bytes ++ rest)) := by
  obtain ⟨room, version, product, count, checksum, behind, split, sum⟩ := holds
  let size := UInt8.ofNat (DisplayId.DataBlock.stored before ++ (wrapper.bytes ++ rest)).length
  have parts := payloadFront_append version size product count checksum before wrapper rest behind
  rw [← length_payloadFront version size product count before wrapper] at differ
  obtain ⟨payload, between, otherSplit⟩ := differ.exists_split (split.trans parts.symm)
  have perm := between.perm
  let changed : DisplayId.DataBlock := { wrapper with payload := payload }
  have header : payloadFront version size product count before wrapper =
      payloadFront version size product count before changed := by
    rw [payloadFront, payloadFront, perm.length_eq]
  have same : (DisplayId.DataBlock.stored before ++ (wrapper.bytes ++ rest)).Perm
      (DisplayId.DataBlock.stored before ++ (changed.bytes ++ rest)) := by
    apply List.Perm.append_left
    apply List.Perm.append_right
    rw [DisplayId.DataBlock.bytes, DisplayId.DataBlock.bytes, perm.length_eq]
    exact ((perm.cons _).cons _).cons _
  refine ⟨payload, perm, same.length_eq ▸ room, version, product, count, checksum, behind, ?_, ?_⟩
  · rw [otherSplit, header, payloadFront_append version size product count checksum before changed,
      DisplayId.sectionBytes, ← same.length_eq]
    rfl
  · rw [← byteSum_perm (DisplayId.sectionBytes_perm version product count checksum same)]
    exact sum

end Block

namespace Cta.Collection

/-! ## Collections -/

theorem capabilityBits_ofDataBlock {wrapper : DisplayId.DataBlock}
    (tag : wrapper.tag = DisplayId.ctaTag) : (ofDataBlock wrapper).capabilityBits = 0 := by
  have other : ¬ (ofDataBlock wrapper).tag = Block.ctaTag := by
    change ¬ wrapper.tag = Block.ctaTag
    rw [tag]
    decide
  exact if_neg other

/-- Two collections say the same outside their data blocks. -/
structure SameHeader (left right : Collection) : Prop where
  revision : left.revision = right.revision
  capabilityBits : left.capabilityBits = right.capabilityBits

section Extension

variable {stop : Nat} {left right : Block} (differ : left.RearrangedAt 4 stop right)
include differ

theorem byte_ofExtension_rearranged (position : Fin 128) (header : position.val < 4) :
    (ofExtension left).byte position.val = (ofExtension right).byte position.val := by
  rw [byte_ofExtension, byte_ofExtension]
  exact differ.byte_eq position header

theorem sameHeader_ofExtension : SameHeader (ofExtension left) (ofExtension right) := by
  have tag : (ofExtension left).tag = (ofExtension right).tag :=
    byte_ofExtension_rearranged differ 0 (by decide)
  have revision : (ofExtension left).byte 1 = (ofExtension right).byte 1 :=
    byte_ofExtension_rearranged differ 1 (by decide)
  have bits : (ofExtension left).byte 3 = (ofExtension right).byte 3 :=
    byte_ofExtension_rearranged differ 3 (by decide)
  constructor
  · rw [Collection.revision, Collection.revision, revision]
  · rw [capabilityBits, capabilityBits, tag, bits]

theorem bounds_ofExtension_rearranged : (ofExtension left).bounds = (ofExtension right).bounds := by
  have tag : (ofExtension left).tag = (ofExtension right).tag :=
    byte_ofExtension_rearranged differ 0 (by decide)
  have size : (ofExtension left).byte 2 = (ofExtension right).byte 2 :=
    byte_ofExtension_rearranged differ 2 (by decide)
  have length : (ofExtension left).bytes.length = (ofExtension right).bytes.length := by
    rw [ofExtension, ofExtension, Vector.length_toList, Vector.length_toList]
  rw [Collection.bounds, Collection.bounds, tag, size, length]

end Extension

end Cta.Collection

namespace CtaSpan

variable {front behind : List Block} {carrier other : Block} {collection : Cta.Collection}
  {start stop : Nat}

/-- A rearranged carrier has its data blocks in the same place. -/
theorem rearranged (span : CtaSpan front carrier behind collection start stop)
    (differ : carrier.RearrangedAt start stop other) :
    ∃ changed, CtaSpan front other behind changed start stop ∧ collection.SameHeader changed := by
  cases span with
  | direct free tag bounds =>
      have otherTag : other.tag = Block.ctaTag := (differ.byte_eq 0 (by decide)).symm.trans tag
      have otherBounds := (Cta.Collection.bounds_ofExtension_rearranged differ).symm.trans bounds
      exact ⟨_, .direct free otherTag otherBounds, Cta.Collection.sameHeader_ofExtension differ⟩
  | @wrapped before wrapper rest free valid others storable tag holds =>
      obtain ⟨payload, perm, otherHolds⟩ := holds.rearranged differ
      let changed : DisplayId.DataBlock := { wrapper with payload := payload }
      have length : changed.payload.length = wrapper.payload.length := perm.length_eq.symm
      have otherStorable : changed.Storable := by
        constructor
        · intro empty
          apply storable.nonempty
          exact List.length_eq_zero_iff.mp (length ▸ List.length_eq_zero_iff.mpr empty)
        · exact length ▸ storable.length_le
      have otherFree : ∀ extension ∈ front ++ other :: behind, extension.tag ≠ Block.ctaTag := by
        rw [List.forall_mem_append, List.forall_mem_cons] at free ⊢
        obtain ⟨freeFront, freeCarrier, freeBehind⟩ := free
        rw [holds.tag_eq] at freeCarrier
        rw [otherHolds.tag_eq]
        exact ⟨freeFront, freeCarrier, freeBehind⟩
      refine ⟨.ofDataBlock changed, ?_, rfl, ?_⟩
      · rw [← length]
        exact .wrapped otherFree valid others otherStorable tag otherHolds
      · rw [Cta.Collection.capabilityBits_ofDataBlock tag,
          Cta.Collection.capabilityBits_ofDataBlock (show changed.tag = _ from tag)]

theorem extensionDescriptors_eq (span : CtaSpan front carrier behind collection start stop)
    (differ : carrier.RearrangedAt start stop other) :
    carrier.extensionSlots.filterMap carrier.descriptorAt? =
      other.extensionSlots.filterMap other.descriptorAt? := by
  cases span with
  | direct free tag bounds =>
      obtain ⟨_, _, _, size⟩ := Cta.Collection.stop_of_bounds tag bounds
      exact differ.extensionDescriptors_eq tag size
  | wrapped free valid others storable tag holds =>
      obtain ⟨_, _, otherHolds⟩ := holds.rearranged differ
      rw [Block.extensionSlots_of_displayIdTag holds.tag_eq,
        Block.extensionSlots_of_displayIdTag otherHolds.tag_eq, List.filterMap_nil,
        List.filterMap_nil]

end CtaSpan

namespace Blob

/-! ## Blobs -/

/-- Two blobs differ by the order of the data blocks in their CTA-861 data. -/
structure Rearranged (left right : Blob) : Prop where
  base : left.base = right.base
  extensions : ∃ front carrier other behind collection start stop,
    left.extensions = front ++ carrier :: behind ∧ right.extensions = front ++ other :: behind ∧
      CtaSpan front carrier behind collection start stop ∧ carrier.RearrangedAt start stop other

variable {left right : Blob}

theorem Rearranged.descriptors_eq (rearranged : left.Rearranged right) :
    left.descriptors = right.descriptors := by
  obtain ⟨base, front, carrier, other, behind, _, _, _, leftSplit, rightSplit, span, differ⟩ :=
    rearranged
  rw [descriptors, descriptors, base, leftSplit, rightSplit, List.flatMap_append,
    List.flatMap_append, List.flatMap_cons, List.flatMap_cons, span.extensionDescriptors_eq differ]

theorem Rearranged.exists_collections (rearranged : left.Rearranged right) :
    ∃ collection other, left.cta? = some collection ∧ right.cta? = some other ∧
      collection.SameHeader other := by
  obtain ⟨_, _, _, _, _, collection, _, _, leftSplit, rightSplit, span, differ⟩ := rearranged
  obtain ⟨changed, otherSpan, header⟩ := span.rearranged differ
  exact ⟨collection, changed, span.cta?_eq leftSplit, otherSpan.cta?_eq rightSplit, header⟩

theorem Rearranged.ctaBlocks_perm (rearranged : left.Rearranged right) :
    left.ctaBlocks.Perm right.ctaBlocks := by
  obtain ⟨_, _, _, _, _, _, _, _, leftSplit, rightSplit, span, differ⟩ := rearranged
  obtain ⟨_, otherSpan, _⟩ := span.rearranged differ
  rw [span.ctaBlocks_eq leftSplit, otherSpan.ctaBlocks_eq rightSplit]
  exact differ.between.readAll_perm

/-- Every order of the data blocks of a blob is that of a rearranged one. -/
theorem exists_rearranged {blob : Blob} {collection : Cta.Collection}
    {blocks others : List Cta.DataBlock} (found : blob.cta? = some collection)
    (read : collection.dataBlocks = .ok blocks) (perm : blob.ctaBlocks.Perm others) :
    ∃ other, blob.Rearranged other ∧ other.ctaBlocks = others := by
  obtain ⟨front, carrier, behind, start, stop, split, span⟩ := exists_ctaSpan found read
  rw [span.ctaBlocks_eq split] at perm
  obtain ⟨region, between, readRegion⟩ := Cta.exists_rearranged perm
  obtain ⟨other, differ, same⟩ := Block.exists_rearrangedAt span.le.1 span.le.2 between
  have count : (front ++ other :: behind).length = blob.base.extensionCount := by
    rw [← blob.count_eq, split, List.length_append, List.length_append, List.length_cons,
      List.length_cons]
  let changed : Blob := ⟨blob.base, front ++ other :: behind, count⟩
  obtain ⟨collection, otherSpan, _⟩ := span.rearranged differ
  refine ⟨changed, ⟨rfl, front, carrier, other, behind, _, start, stop, split, rfl, span, differ⟩, ?_⟩
  rw [otherSpan.ctaBlocks_eq (show changed.extensions = _ from rfl), same, readRegion]

end Blob

end Edid
