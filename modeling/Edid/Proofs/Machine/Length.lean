import Edid.Parse
import Edid.Proofs.Machine.Collection

/-!
# How much a blob can list

A blob has at most 255 extensions, and each block has room for so many descriptors, codes and
formats. What is listed can therefore be counted in a word. The bounds are generous.
-/

set_option autoImplicit false

namespace Edid

section Lists

variable {α β : Type}

theorem length_flatMap_le {f : α → List β} {items : List α} {many bound : Nat}
    (few : items.length ≤ many) (each : ∀ item ∈ items, (f item).length ≤ bound) :
    (items.flatMap f).length ≤ many * bound := by
  have all : (items.flatMap f).length ≤ items.length * bound := by
    clear few
    induction items with
    | nil => simp
    | cons item rest ih =>
        have here := each item List.mem_cons_self
        have others := ih fun other member => each other (List.mem_cons_of_mem _ member)
        rw [List.flatMap_cons, List.length_append, List.length_cons, Nat.succ_mul]
        omega
  exact Nat.le_trans all (Nat.mul_le_mul_right bound few)

theorem length_pairs_le (items : List α) : (pairs items).length ≤ items.length := by
  fun_induction pairs items with
  | case1 first second rest ih =>
      simp only [List.length_cons]
      omega
  | case2 => simp

theorem length_triples_le (items : List α) : (triples items).length ≤ items.length := by
  fun_induction triples items with
  | case1 first second third rest ih =>
      simp only [List.length_cons]
      omega
  | case2 => simp

end Lists

theorem Block.length_extensionSlots_le (block : Block) : block.extensionSlots.length ≤ 6 := by
  rw [extensionSlots]
  split
  · dsimp only
    split
    · rw [List.length_map, List.length_range]
      omega
    · simp
  · split
    · rw [List.length_map, List.length_range]
      omega
    · simp

namespace Descriptor

theorem length_standardCodes_le (descriptor : Descriptor) :
    descriptor.standardCodes.length ≤ 12 :=
  Nat.le_trans (length_pairs_le _) (List.length_take_le _ _)

theorem length_cvtCodes_le (descriptor : Descriptor) : descriptor.cvtCodes.length ≤ 12 := by
  refine Nat.le_trans (List.length_filterMap_le _ _) (Nat.le_trans (length_triples_le _) ?_)
  simp

theorem length_establishedIndices_le (descriptor : Descriptor) (tableLength : Nat) :
    (descriptor.establishedIndices tableLength).length ≤ 48 := by
  rw [establishedIndices, List.length_map]
  exact Nat.le_trans (List.length_filter_le _ _) (by simp)

end Descriptor

theorem CvtCode.length_modes_le {code : Byte × Byte × Byte} {parsed : CvtCode}
    (found : CvtCode.ofBytes? code = some parsed) : parsed.modes.length ≤ 4 := by
  rw [ofBytes?] at found
  dsimp only at found
  split at found
  · cases found
  · cases found
    refine Nat.le_trans (List.length_filterMap_le _ _) ?_
    rw [List.length_map]
    exact List.length_filter_le _ _

section Sources

theorem Blob.length_descriptors_le (blob : Blob) : blob.descriptors.length ≤ 1534 := by
  have base : (Block.baseSlots.filterMap blob.base.descriptorAt?).length ≤ 4 :=
    List.length_filterMap_le _ _
  have count := (blob.base.byte 126).toNat_lt
  have few : blob.extensions.length ≤ 255 := by
    rw [blob.count_eq, Block.extensionCount]
    omega
  have behind := length_flatMap_le (f := fun extension : Block =>
    extension.extensionSlots.filterMap extension.descriptorAt?) few fun extension _ =>
      Nat.le_trans (List.length_filterMap_le _ _) extension.length_extensionSlots_le
  rw [descriptors, List.length_append]
  omega

/-- What each descriptor of one kind lists, taken together. -/
theorem Blob.length_flatMap_descriptors_le {α : Type} (blob : Blob) (kind : Descriptor → Bool)
    {f : Descriptor → List α} {bound : Nat} (each : ∀ descriptor, (f descriptor).length ≤ bound) :
    ((blob.descriptors.filter kind).flatMap f).length ≤ 1534 * bound :=
  length_flatMap_le (Nat.le_trans (List.length_filter_le _ _) blob.length_descriptors_le)
    fun descriptor _ => each descriptor

theorem length_detailedModes_le (blob : Blob) (context : TimingContext)
    (workarounds : Workarounds) : (detailedModes blob context workarounds).length ≤ 1534 := by
  have listed : (blob.descriptors.filterMap fun descriptor =>
      detailedMode? descriptor context workarounds).length ≤ 1534 :=
    Nat.le_trans (List.length_filterMap_le _ _) blob.length_descriptors_le
  have preferred : ∀ modes : List Mode, (preferFirst modes).length = modes.length := by
    intro modes
    cases modes <;> rfl
  rw [detailedModes, List.length_map]
  split
  · rw [preferred]
    exact listed
  · exact listed

theorem length_cvtModes_le (blob : Blob) : (cvtModes blob).length ≤ 1534 * 48 := by
  rw [cvtModes]
  split
  · have each (descriptor : Descriptor) :
        (descriptor.cvtCodes.flatMap CvtCode.modes).length ≤ 12 * 4 := by
      refine length_flatMap_le descriptor.length_cvtCodes_le fun code member => ?_
      obtain ⟨bytes, _, found⟩ := List.mem_filterMap.mp member
      exact CvtCode.length_modes_le found
    exact blob.length_flatMap_descriptors_le _ each
  · simp

theorem length_standardCodes_le (blob : Blob) : (standardCodes blob).length ≤ 8 + 1534 * 12 := by
  have base : blob.standardTimings.length = 8 := by simp [Blob.standardTimings]
  rw [standardCodes, List.length_append, base]
  refine Nat.add_le_add_left ?_ 8
  split
  · exact blob.length_flatMap_descriptors_le _ Descriptor.length_standardCodes_le
  · simp

/-- A code adds at most one mode. -/
theorem length_addStandardModes_le (blob : Blob) (context : TimingContext) (modes : List Mode) :
    (addStandardModes blob context modes).length ≤ modes.length + (standardCodes blob).length := by
  rw [addStandardModes]
  induction standardCodes blob generalizing modes with
  | nil => exact Nat.le_refl _
  | cons code rest ih =>
      have added : (standardMode? code context modes).toList.length ≤ 1 := by
        cases standardMode? code context modes <;> simp
      refine Nat.le_trans (ih _) ?_
      rw [List.length_append, List.length_cons]
      omega

theorem length_establishedModes_le (blob : Blob) :
    (establishedModes blob).length ≤ 17 + 1534 * 48 := by
  have base : (Established.baseModes blob).length ≤ 17 := by
    refine Nat.le_trans (List.length_filterMap_le _ _) ?_
    rw [List.length_zip]
    exact Nat.min_le_right _ _
  rw [establishedModes, List.length_append]
  refine Nat.add_le_add base ?_
  split
  · refine blob.length_flatMap_descriptors_le _ fun descriptor => ?_
    refine Nat.le_trans (List.length_filterMap_le _ _) ?_
    exact Nat.le_trans (List.length_filterMap_le _ _) (descriptor.length_establishedIndices_le _)
  · simp

theorem length_baseModes_le (blob : Blob) (context : TimingContext) (workarounds : Workarounds) :
    (baseModes blob context workarounds).length ≤ 0x80000 := by
  have detailed := length_detailedModes_le blob context workarounds
  have coded := length_cvtModes_le blob
  have standard := length_addStandardModes_le blob context
    (detailedModes blob context workarounds ++ cvtModes blob)
  have codes := length_standardCodes_le blob
  have established := length_establishedModes_le blob
  rw [baseModes, List.length_append]
  rw [List.length_append] at standard
  omega

end Sources

section Formats

namespace Cta

theorem DataBlock.length_readAll_le (bytes : List Byte) :
    (DataBlock.readAll bytes).length ≤ bytes.length := by
  fun_induction DataBlock.readAll bytes with
  | case1 => simp
  | case2 => simp
  | case3 header rest length enough ih =>
      rw [List.length_drop] at ih
      simp only [List.length_cons]
      omega

theorem DataBlock.length_formats_le (block : DataBlock) : block.formats.length ≤ 31 := by
  have short := block.payload_le
  rw [formats]
  split
  · exact Nat.le_trans (List.length_filterMap_le _ _) short
  · split
    · refine Nat.le_trans (List.length_filterMap_le _ _) ?_
      rw [List.length_drop]
      omega
    · simp

theorem Collection.length_dataBlocks_le {collection : Collection} {blocks : List DataBlock}
    (found : collection.dataBlocks = .ok blocks) : blocks.length ≤ 258 := by
  rw [dataBlocks] at found
  cases bounded : collection.bounds with
  | error error =>
      rw [bounded] at found
      cases found
  | ok bounds =>
      rw [bounded] at found
      cases found
      refine Nat.le_trans (DataBlock.length_readAll_le _) ?_
      rw [List.length_drop, List.length_take]
      have := (bounds_lt bounded).2
      omega

end Cta

theorem Blob.length_ctaBlocks_le (blob : Blob) : blob.ctaBlocks.length ≤ 258 := by
  rw [ctaBlocks]
  split
  · simp
  · split
    · next found => exact Cta.Collection.length_dataBlocks_le found
    · simp

theorem length_videoBlocks_le (blob : Blob) : (videoBlocks blob).length ≤ 258 := by
  rw [videoBlocks]
  split
  · simp
  · split
    · simp
    · exact blob.length_ctaBlocks_le

theorem length_formats_le (blob : Blob) :
    ((videoBlocks blob).flatMap Cta.DataBlock.formats).length ≤ 258 * 31 :=
  length_flatMap_le (length_videoBlocks_le blob) fun block _ => block.length_formats_le

end Formats

end Edid
