import Edid.Proofs.Cta.Span
import Edid.Proofs.Machine.DisplayId

/-!
# Walks over DisplayID sections

The data blocks of a section are found one behind the other, from the end of its header on. Data
blocks that fill a section, up to some zeros, are found again without loss, and in whatever else
passes for a section the walk stays in front of the checksum.
-/

set_option autoImplicit false

namespace Edid

open Machine (Walked)

namespace DisplayId

/-! ## Data blocks in front of zeros -/

namespace DataBlock

/-- Zeros are no data blocks, since their length would be zero. -/
theorem readAll_zeros (padding : Nat) : readAll (List.replicate padding 0) = [] := by
  by_cases short : padding < 3
  · exact readAll_of_short (by rwa [List.length_replicate])
  · obtain ⟨behind, rfl⟩ := Nat.exists_eq_add_of_le' (Nat.le_of_not_lt short)
    rw [List.replicate_succ, List.replicate_succ, List.replicate_succ, readAll, if_pos (.inl rfl)]

theorem length_payload_le_of_mem {data : DataBlock} {blocks : List DataBlock}
    (member : data ∈ blocks) : data.payload.length + 3 ≤ (stored blocks).length := by
  have whole : data.bytes.length ≤ (stored blocks).length :=
    (List.sublist_flatten_of_mem (List.mem_map_of_mem member)).length_le
  rwa [bytes] at whole

/-- Data blocks that fill a section are read from it. -/
theorem readAll_stored_zeros {blocks : List DataBlock} {padding : Nat}
    (nonempty : ∀ data ∈ blocks, data.payload ≠ [])
    (room : (stored blocks).length + padding ≤ 121) :
    readAll (stored blocks ++ List.replicate padding 0) = blocks := by
  have storable : ∀ data ∈ blocks, data.Storable := fun data member =>
    ⟨nonempty data member, by have inside := length_payload_le_of_mem member; omega⟩
  rw [readAll_stored_append storable, readAll_zeros, List.append_nil]

/-- Every data block takes four bytes at least. -/
theorem four_mul_length_le {blocks : List DataBlock} (storable : ∀ data ∈ blocks, data.Storable) :
    4 * blocks.length ≤ (stored blocks).length := by
  induction blocks with
  | nil => exact Nat.le_refl 0
  | cons data blocks ih =>
      obtain ⟨first, others⟩ := List.forall_mem_cons.mp storable
      have later := ih others
      have some := List.length_pos_iff.mpr first.nonempty
      rw [stored] at later ⊢
      simp only [List.flatMap_cons, List.length_append, List.length_cons, bytes]
      omega

end DataBlock

open DataBlock (stored readAll)

/-! ## Steps and walks -/

/-- What a step finds stands in the block, from the position of the step on. -/
theorem checkedNext?_eq_some {block : Block} {stop position next : Nat} {data : DataBlock}
    (inside : stop ≤ 126) (near : position ≤ 126)
    (found : checkedNext? block stop position = .ok (some (data, next))) :
    next = position + data.bytes.length ∧ next ≤ stop ∧ data.Storable ∧
      block.between position next = data.bytes := by
  obtain ⟨_, kept⟩ := advances_checkedNext? block stop found
  obtain ⟨missing, _⟩ | ⟨same, _, read, length, taken⟩ := checkedNext?_spec block inside near
  · cases found.symm.trans missing
  · cases found.symm.trans read
    obtain ⟨rest, split, storable, _⟩ := DataBlock.exists_of_readAll_eq_cons taken
    refine ⟨length, kept, storable, ?_⟩
    subst length
    rw [Block.between, ← Machine.take_drop_take kept, split, List.take_left]

theorem storable_of_walked {block : Block} {stop start last : Nat} {items : List DataBlock}
    (inside : stop ≤ 126) (order : start ≤ stop)
    (walked : Walked (checkedNext? block stop) start items last) :
    ∀ data ∈ items, data.Storable := by
  induction walked with
  | done => exact List.forall_mem_nil _
  | @step position next last data items found _ ih =>
      obtain ⟨_, kept, storable, _⟩ :=
        checkedNext?_eq_some inside (Nat.le_trans order inside) found
      exact List.forall_mem_cons.mpr ⟨storable, ih kept⟩

/-- What a walk finds stands in the block without gaps, and not past the end. -/
theorem contiguous_of_walked {block : Block} {stop start last : Nat} {items : List DataBlock}
    (inside : stop ≤ 126) (order : start ≤ stop)
    (walked : Walked (checkedNext? block stop) start items last) :
    last = start + (stored items).length ∧ last ≤ stop ∧ (∀ data ∈ items, data.Storable) ∧
      block.between start last = stored items := by
  have storable := storable_of_walked inside order walked
  obtain ⟨total, bounded, stands⟩ : last = start + (stored items).length ∧ last ≤ stop ∧
      block.between start last = stored items := by
    refine walked.contiguous (fun position next data near found => ?_) order
    obtain ⟨length, kept, _, stands⟩ :=
      checkedNext?_eq_some inside (Nat.le_trans near inside) found
    exact ⟨length, kept, stands⟩
  exact ⟨total, bounded, storable, stands⟩

/-- Data blocks that fill a section up to some zeros are found in every extension that holds it, and
only they, whatever the tag of the extension. In every block that passes for a section, the walk
over its data blocks ends. They stand one behind the other, none of them is empty, and they end
where the section says or before. -/
theorem dataBlocks_of_sectionPayload? :
    (∀ (blocks : List DataBlock) (padding : Nat), (∀ data ∈ blocks, data.payload ≠ []) →
      (stored blocks).length + padding ≤ 121 →
      (∃ extension : Block,
          extension.HoldsSection (stored blocks ++ List.replicate padding 0)) ∧
        ∀ extension block : Block,
          extension.HoldsSection (stored blocks ++ List.replicate padding 0) →
          block.toList.tail = extension.toList.tail →
          (sectionPayload? block).map readAll = some blocks) ∧
      ∀ (block : Block) (payload : List Byte), sectionPayload? block = some payload →
        ∃ last, Walked (checkedNext? block (5 + (block.byte 2).toNat)) 5 (readAll payload) last ∧
          last ≤ 5 + (block.byte 2).toNat ∧
          block.between 5 last = stored (readAll payload) ∧
          last = 5 + (stored (readAll payload)).length ∧
          (∀ data ∈ readAll payload, data.Storable) ∧
          4 * (readAll payload).length ≤ (block.byte 2).toNat := by
  constructor
  · intro blocks padding nonempty room
    have fits : (stored blocks ++ List.replicate padding 0).length ≤ 121 := by
      rwa [List.length_append, List.length_replicate]
    refine ⟨Block.exists_holdsSection fits, fun extension block holds same => ?_⟩
    rw [holds.sectionPayload?_of_tail same, Option.map_some,
      DataBlock.readAll_stored_zeros nonempty room]
  · intro block payload found
    have ends : sectionEnd? block = some (5 + (block.byte 2).toNat) := by
      rw [sectionEnd?, found, Option.map_some]
    obtain ⟨order, inside, same⟩ := sectionEnd?_eq_some ends
    cases found.symm.trans same
    obtain ⟨last, walked⟩ := Machine.exists_walked
      (walk_checkedNext? block inside (by decide : 5 ≤ 126))
    obtain ⟨total, bounded, storable, stands⟩ := contiguous_of_walked inside order walked
    have count := DataBlock.four_mul_length_le storable
    exact ⟨last, walked, bounded, stands, total, storable, by omega⟩

/-- Data blocks that leave no byte of the largest section free. The first one looks like zeros. -/
def brimful : List DataBlock :=
  [⟨0, 0, [0]⟩, ⟨0xff, 0xff, List.replicate 114 0xff⟩]

/-- A section with two data blocks, of which the second has one byte too few. The checksum of the
section stands in its place. -/
def cutShort : Block :=
  Vector.ofFn fun position =>
    [Block.displayIdTag, 0x12, 9, 0, 0, 0x20, 0, 1, 7, 0x21, 0, 3, 1, 2, 0x96].getD position.val 0

theorem dataBlocks_of_sectionPayload?_cutShort :
    (∃ extension : Block, (sectionPayload? extension).map readAll = some brimful) ∧
      Walked (checkedNext? cutShort 14) 5 [⟨0x20, 0, [7]⟩] 9 ∧
      cutShort.between 5 9 = [0x20, 0, 1, 7] := by
  obtain ⟨filled, arbitrary⟩ := dataBlocks_of_sectionPayload?
  obtain ⟨⟨extension, holds⟩, found⟩ := filled brimful 0 (by decide) (by decide)
  have payload : sectionPayload? cutShort = some [0x20, 0, 1, 7, 0x21, 0, 3, 1, 2] := by
    decide +kernel
  have read : readAll [0x20, 0, 1, 7, 0x21, 0, 3, 1, 2] = [⟨0x20, 0, [7]⟩] := by
    simp [readAll]
  obtain ⟨last, walked, _, stands, rfl, _⟩ := arbitrary cutShort _ payload
  rw [read] at walked stands
  exact ⟨⟨extension, found extension extension holds rfl⟩, walked, stands⟩

end DisplayId

end Edid
