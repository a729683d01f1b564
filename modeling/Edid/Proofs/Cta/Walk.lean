import Edid.Proofs.Cta.Bytes
import Edid.Proofs.Cta.Span
import Edid.Proofs.Machine.Collection

/-!
# Walks over data block collections

The header of a data block says how many bytes of payload follow, and the next header stands behind
them. A walk over a collection stays between its bounds, skips no byte, and goes on for as long as
there is room for another data block.
-/

set_option autoImplicit false

namespace Edid

open Machine (Walked)

namespace Cta

open DataBlock (stored)

/-! ## Steps and walks -/

section Steps

variable {bytes : List Byte} {stop position : Nat}

/-- What a step finds stands in the run, from the position of the step on. -/
theorem checkedNext?_eq_some {next : Nat} {data : DataBlock} (inside : stop ≤ bytes.length)
    (near : position ≤ 0x1000)
    (found : checkedNext? bytes stop position = .ok (some (data, next))) :
    next = position + data.bytes.length ∧ next ≤ stop ∧
      (bytes.take next).drop position = data.bytes := by
  obtain ⟨_, kept⟩ := advances_checkedNext? bytes stop found
  obtain ⟨missing, _⟩ | ⟨same, _, read, length, taken⟩ := checkedNext?_spec inside near
  · cases found.symm.trans missing
  · cases found.symm.trans read
    obtain ⟨rest, split, _⟩ := DataBlock.exists_rest ((bytes.take stop).drop position)
    rw [taken, stored, List.flatMap_cons, List.append_assoc] at split
    refine ⟨length, kept, ?_⟩
    subst length
    rw [← Machine.take_drop_take kept, split, List.take_left]

/-- A step finds nothing only at the end, or if the payload of a data block would run past it. -/
theorem checkedNext?_eq_none (inside : stop ≤ bytes.length) (near : position ≤ 0x1000)
    (order : position ≤ stop) (found : checkedNext? bytes stop position = .ok none) :
    position = stop ∨ ∃ header, bytes[position]? = some header ∧
      stop < position + 1 + header.toNat % 32 := by
  by_cases behind : position = stop
  · exact .inl behind
  · have before : position < stop := Nat.lt_of_le_of_ne order behind
    obtain ⟨_, none⟩ | ⟨_, _, read, _⟩ := checkedNext?_spec inside near
    · rw [Machine.drop_take_eq_cons before inside, DataBlock.readAll,
        Machine.length_drop_take inside] at none
      split at none
      · next cut =>
          exact .inr ⟨_, List.getElem?_eq_getElem (Nat.lt_of_lt_of_le before inside), by omega⟩
      · contradiction
    · cases found.symm.trans read

theorem length_bytes (block : DataBlock) :
    block.bytes.length = 1 + block.header.toNat % 32 := by
  have small : block.length ≤ 31 := block.payload_le
  have tag := block.tag.isLt
  rw [DataBlock.bytes, List.length_cons, DataBlock.toNat_header, ← DataBlock.length]
  omega

/-- Of data blocks that stand one behind the other, each begins with its header and ends where the
last one does or before. -/
theorem header_of_stored {start last : Nat} {before after : List DataBlock} {block : DataBlock}
    (total : last = start + (stored (before ++ block :: after)).length)
    (stands : (bytes.take last).drop start = stored (before ++ block :: after)) :
    bytes[start + (stored before).length]? = some block.header ∧
      start + (stored before).length + block.bytes.length ≤ last := by
  have split : stored (before ++ block :: after) =
      stored before ++ (block.bytes ++ stored after) := by
    rw [stored, List.flatMap_append, List.flatMap_cons]
    rfl
  have some : 0 < block.bytes.length := Nat.zero_lt_succ _
  rw [split, List.length_append, List.length_append] at total
  refine ⟨?_, by omega⟩
  have inside : start + (stored before).length < last := by omega
  rw [← List.getElem?_take_of_lt inside, ← List.getElem?_drop, stands, split,
    List.getElem?_append_right (Nat.le_refl _), Nat.sub_self]
  rfl

end Steps

/-! ## Collections -/

namespace Collection

/-- The bounds of a collection that is found lie in its bytes. -/
theorem le_of_cta? {blob : Blob} {collection : Collection} {start stop : Nat}
    (found : blob.cta? = some collection) (bounds : collection.bounds = .ok (start, stop)) :
    start ≤ stop ∧ stop ≤ collection.bytes.length := by
  obtain ⟨front, carrier, behind, _, _, _, span⟩ :=
    Blob.exists_ctaSpan found (dataBlocks_of_bounds bounds)
  cases span with
  | direct free tag given =>
      cases given.symm.trans bounds
      obtain ⟨_, after, before, _⟩ := stop_of_bounds tag bounds
      have length : (ofExtension carrier).bytes.length = 128 := Vector.length_toList
      exact ⟨after, by omega⟩
  | @wrapped before wrapper rest free valid others storable tag holds =>
      cases (bounds_ofDataBlock storable tag).symm.trans bounds
      have length : (ofDataBlock wrapper).bytes.length = wrapper.payload.length + 3 := rfl
      exact ⟨by omega, by omega⟩

/-- The walk over a collection that is found ends, and never looks past its end. The data blocks
stand one behind the other from the start of the collection on, each as long as its header says, and
behind the last one there is no room for another. Where the bounds are refused, nothing is read. -/
theorem dataBlocks_of_cta? {blob : Blob} {collection : Collection}
    (found : blob.cta? = some collection) :
    (∀ start stop, collection.bounds = .ok (start, stop) →
      ∃ blocks last, collection.checkedDataBlocks = .ok (.ok blocks) ∧
        collection.dataBlocks = .ok blocks ∧
        Walked (checkedNext? collection.bytes stop) start blocks last ∧
        stop ≤ collection.bytes.length ∧ last ≤ stop ∧
        last = start + (stored blocks).length ∧
        (collection.bytes.take last).drop start = stored blocks ∧
        (∀ before block after, blocks = before ++ block :: after →
          ∃ header, collection.bytes[start + (stored before).length]? = some header ∧
            block.bytes.length = 1 + header.toNat % 32 ∧
            start + (stored before).length + block.bytes.length ≤ stop) ∧
        (last = stop ∨ ∃ header, collection.bytes[last]? = some header ∧
          stop < last + 1 + header.toNat % 32)) ∧
      ∀ error, collection.bounds = .error error →
        collection.checkedDataBlocks = .ok (.error error) := by
  refine ⟨fun start stop bounds => ?_, fun error refused => ?_⟩
  · obtain ⟨order, inside⟩ := le_of_cta? found bounds
    obtain ⟨near, short⟩ := bounds_lt bounds
    have read := dataBlocks_of_bounds bounds
    obtain ⟨last, walked⟩ := Machine.exists_walked
      (walk_checkedNext? inside (by omega : stop ≤ 0x1000) (by omega : start ≤ 0x1000))
    have each : ∀ ⦃position next : Nat⦄ ⦃data : DataBlock⦄, position ≤ stop →
        checkedNext? collection.bytes stop position = .ok (some (data, next)) →
        next = position + data.bytes.length ∧ next ≤ stop ∧
          (collection.bytes.take next).drop position = data.bytes :=
      fun position next data before => checkedNext?_eq_some inside (by omega)
    obtain ⟨total, bounded, stands⟩ := walked.contiguous each order
    refine ⟨_, last, ?_, read, walked, inside, bounded, total, stands,
      fun before block after split => ?_, ?_⟩
    · rw [checkedDataBlocks_eq, read]
    · rw [split] at total stands
      obtain ⟨header, ends⟩ := header_of_stored total stands
      exact ⟨block.header, header, length_bytes block, Nat.le_trans ends bounded⟩
    · exact checkedNext?_eq_none inside (by omega) bounded walked.ended
  · rw [checkedDataBlocks_eq, dataBlocks, refused]
    rfl

/-- A collection of eight bytes: a data block of two bytes, and the header of another that announces
eight where there are four. -/
def overrunning : Blob where
  base := Vector.ofFn fun position =>
    (Block.header.toList ++ List.replicate 118 0 ++ [1]).getD position.val 0
  extensions :=
    [Vector.ofFn fun position =>
      [Block.ctaTag, 3, 12, 0, 0x42, 0x10, 0x04, 0x28].getD position.val 0]
  count_eq := by decide +kernel

theorem dataBlocks_of_cta?_overrunning :
    ∃ collection blocks last, overrunning.cta? = some collection ∧
      collection.bounds = .ok (4, 12) ∧ collection.checkedDataBlocks = .ok (.ok blocks) ∧
      Walked (checkedNext? collection.bytes 12) 4 blocks last ∧
      stored blocks = [0x42, 0x10, 0x04] ∧ last = 7 := by
  let bytes : List Byte := [Block.ctaTag, 3, 12, 0, 0x42, 0x10, 0x04, 0x28] ++ List.replicate 120 0
  have found : overrunning.cta? = some ⟨bytes⟩ := by decide +kernel
  have bounds : (Collection.mk bytes).bounds = .ok (4, 12) := rfl
  obtain ⟨blocks, last, checked, read, walked, _, _, total, _⟩ :=
    (dataBlocks_of_cta? found).1 4 12 bounds
  have content : (bytes.take 12).drop 4 = [0x42, 0x10, 0x04, 0x28, 0, 0, 0, 0] := by decide +kernel
  rw [dataBlocks_of_bounds bounds, content] at read
  have first : stored blocks = [0x42, 0x10, 0x04] := by
    cases read
    simp [DataBlock.readAll, stored, DataBlock.bytes, DataBlock.header, DataBlock.length]
  rw [first] at total
  exact ⟨_, blocks, last, found, bounds, checked, walked, first, total⟩

end Collection

end Cta

end Edid
