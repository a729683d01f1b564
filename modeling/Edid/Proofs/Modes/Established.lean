import Edid.Proofs.Descriptor.Slots
import Edid.Proofs.Machine.Standard

/-!
# Bitmaps of established timings

A descriptor announces established timings by the bits of six bytes. They stand for 48 positions, and
the table has fewer entries. The positions are read in ascending order, none is missed, and they end
where the table does.
-/

set_option autoImplicit false

namespace Edid

namespace Descriptor

section Bitmap

variable {descriptor : Descriptor} {tableLength position : Nat}

/-- The most significant bit of a byte stands for the first of its positions. -/
theorem mem_establishedIndices_iff :
    position ∈ descriptor.establishedIndices tableLength ↔
      ∃ inside : position < 48, position < tableLength ∧
        descriptor[6 + position / 8].toNat.testBit (7 - position % 8) = true := by
  rw [establishedIndices, List.mem_map]
  constructor
  · rintro ⟨index, kept, rfl⟩
    have both := (List.mem_filter.mp kept).2
    rw [Bool.and_eq_true, decide_eq_true_eq] at both
    exact ⟨index.isLt, both⟩
  · rintro ⟨inside, short, set⟩
    refine ⟨⟨position, inside⟩, List.mem_filter.mpr ⟨List.mem_finRange _, ?_⟩, rfl⟩
    rw [Bool.and_eq_true, decide_eq_true_eq]
    exact ⟨short, set⟩

theorem pairwise_establishedIndices (descriptor : Descriptor) (tableLength : Nat) :
    (descriptor.establishedIndices tableLength).Pairwise (· < ·) := by
  rw [establishedIndices, List.pairwise_map]
  exact (List.pairwise_lt_finRange 48).filter _

end Bitmap

end Descriptor

namespace Established

/-- The table answers at every position that is announced, so none is passed over as the modes of a
descriptor are looked up. -/
theorem exists_entries (descriptor : Descriptor) :
    ∃ entries, List.Forall₂ (fun position sized => sizes[position]? = some sized)
        (descriptor.establishedIndices sizes.length) entries ∧
      descriptorModes descriptor = entries.filterMap SizedRate.dmt? := by
  refine ⟨_, Blob.forall₂_filterMap fun position member => ?_, rfl⟩
  obtain ⟨_, short, _⟩ := Descriptor.mem_establishedIndices_iff.mp member
  exact ⟨sizes[position], List.getElem?_eq_getElem short, List.getElem?_eq_getElem short⟩

end Established

/-- The bits of a bitmap are read without a fault, byte by byte and each byte from its most significant
bit on. The positions ascend, and they are those below 48 and below the length of the table whose bit
is set. So the established modes of a blob are read without a fault, and at every position that one of
its descriptors announces the table has an entry. -/
theorem establishedIndices_inside_table :
    (∀ (descriptor : Descriptor) (tableLength : Nat),
      descriptor.checkedEstablishedIndices tableLength =
          .ok (descriptor.establishedIndices tableLength) ∧
        (descriptor.establishedIndices tableLength).Pairwise (· < ·) ∧
        ∀ position, position ∈ descriptor.establishedIndices tableLength ↔
          ∃ inside : position < 48, position < tableLength ∧
            descriptor[6 + position / 8].toNat.testBit (7 - position % 8) = true) ∧
    ∀ blob : Blob, checkedEstablishedModes blob = .ok (establishedModes blob) ∧
      ∀ descriptor ∈ blob.descriptors, ∃ entries,
        List.Forall₂ (fun position sized => Established.sizes[position]? = some sized)
          (descriptor.establishedIndices Established.sizes.length) entries ∧
        Established.descriptorModes descriptor = entries.filterMap SizedRate.dmt? := by
  constructor
  · intro descriptor tableLength
    exact ⟨descriptor.checkedEstablishedIndices_eq tableLength,
      descriptor.pairwise_establishedIndices tableLength,
      fun _ => Descriptor.mem_establishedIndices_iff⟩
  · intro blob
    exact ⟨checkedEstablishedModes_eq blob, fun descriptor _ => Established.exists_entries descriptor⟩

/-- A descriptor with all bits of its bitmap set, four of them behind the end of the table. -/
def everyTiming : Descriptor :=
  #v[0, 0, 0, 0xf7, 0, 10, 0xff, 0xff, 0xff, 0xff, 0xff, 0xff, 0, 0, 0, 0, 0, 0]

/-- A display of revision 4 with that descriptor. -/
def multisync : Blob where
  base := Vector.ofFn fun position =>
    (Block.header.toList ++ List.replicate 10 0 ++ [1, 4] ++ List.replicate 34 0 ++
      everyTiming.toList).getD position.val 0
  extensions := []
  count_eq := by decide +kernel

theorem establishedIndices_inside_table_multisync :
    everyTiming ∈ multisync.descriptors ∧
      everyTiming.establishedIndices 48 = List.range 48 ∧
      everyTiming.establishedIndices Established.sizes.length = List.range 44 ∧
      ∃ entries, List.Forall₂ (fun position sized => Established.sizes[position]? = some sized)
          (List.range 44) entries ∧
        Established.descriptorModes everyTiming = entries.filterMap SizedRate.dmt? := by
  have listed : everyTiming ∈ multisync.descriptors := by decide +kernel
  have positions : everyTiming.establishedIndices Established.sizes.length = List.range 44 := by
    decide +kernel
  obtain ⟨_, read⟩ := establishedIndices_inside_table
  obtain ⟨entries, found, modes⟩ := (read multisync).2 everyTiming listed
  rw [positions] at found
  exact ⟨listed, by decide +kernel, positions, entries, found, modes⟩

end Edid
