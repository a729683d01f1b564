import Edid.Proofs.Parse

/-!
# Which displays are taken to support reduced blanking

Since revision 4 a display says so in bit 4 of byte 15 of a CVT range descriptor. That bit is looked at
in every range descriptor. In one of another kind the byte holds something else, the upper half of a
coefficient or padding, and where its bit is set the display is taken to support what it says nothing
of.
-/

set_option autoImplicit false

namespace Edid

namespace Descriptor

/-- A range descriptor that says that the display supports reduced blanking. Code 4 is that of CVT. -/
structure AnnouncesReduced (descriptor : Descriptor) : Prop where
  range : descriptor.isKind .rangeLimits = true
  cvt : descriptor.byte 10 = 4
  bit : descriptor.reducedBlankingBit = true

/-- A range descriptor of another kind that has the same bit set. -/
structure ResemblesReduced (descriptor : Descriptor) : Prop where
  range : descriptor.isKind .rangeLimits = true
  other : descriptor.byte 10 ≠ 4
  bit : descriptor.reducedBlankingBit = true

theorem reducedBlankingBit_iff {descriptor : Descriptor} :
    descriptor.reducedBlankingBit = true ↔ (descriptor.byte 15).toNat / 16 % 2 = 1 := by
  rw [reducedBlankingBit, Byte.bit, Nat.testBit_eq_decide_div_mod_eq, decide_eq_true_eq]

/-- On a second curve the bit belongs to the coefficient whose upper half is in byte 15. -/
theorem resemblesReduced_iff_of_secondaryGtf {descriptor : Descriptor} {start : Nat}
    {curve : Gtf.Curve} (range : descriptor.isKind .rangeLimits = true)
    (kind : RangeKind.ofDescriptor descriptor = .secondaryGtf start curve) :
    descriptor.ResemblesReduced ↔ curve.m.testBit 12 = true := by
  have low := (descriptor.byte 14).toNat_lt
  have upper : curve.m.testBit 12 = true ↔ descriptor.reducedBlankingBit = true := by
    rw [reducedBlankingBit_iff, Nat.testBit_eq_decide_div_mod_eq, decide_eq_true_eq]
    simp only [RangeKind.ofDescriptor] at kind
    split at kind
    all_goals cases kind
    simp only [Byte.word]
    omega
  have other : descriptor.byte 10 ≠ 4 := by
    intro cvt
    rw [RangeKind.ofDescriptor, cvt] at kind
    cases kind
  rw [upper]
  exact ⟨fun resembles => resembles.bit, fun bit => ⟨range, other, bit⟩⟩

end Descriptor

namespace TimingContext

theorem mem_rangeDescriptors_iff {blob : Blob} {descriptor : Descriptor} :
    descriptor ∈ rangeDescriptors blob ↔
      descriptor ∈ blob.descriptors ∧ descriptor.isKind .rangeLimits = true :=
  List.mem_filter

theorem supportsReducedOf_iff {blob : Blob} (revised : 4 ≤ blob.revision) :
    supportsReducedOf blob = true ↔
      (∃ descriptor ∈ blob.descriptors, descriptor.AnnouncesReduced) ∨
        ∃ descriptor ∈ blob.descriptors, descriptor.ResemblesReduced := by
  rw [supportsReducedOf, if_pos revised, List.any_eq_true]
  constructor
  · rintro ⟨descriptor, listed, bit⟩
    obtain ⟨member, range⟩ := mem_rangeDescriptors_iff.mp listed
    by_cases cvt : descriptor.byte 10 = 4
    · exact .inl ⟨descriptor, member, range, cvt, bit⟩
    · exact .inr ⟨descriptor, member, range, cvt, bit⟩
  · rintro (⟨descriptor, member, announces⟩ | ⟨descriptor, member, resembles⟩)
    · exact ⟨descriptor, mem_rangeDescriptors_iff.mpr ⟨member, announces.range⟩, announces.bit⟩
    · exact ⟨descriptor, mem_rangeDescriptors_iff.mpr ⟨member, resembles.range⟩, resembles.bit⟩

end TimingContext

/-- From revision 4 on a display is taken to support reduced blanking exactly if a range descriptor says
so or one of another kind resembles it. So it is taken at its word exactly if none resembles it, or one
says so as well; and a second curve resembles it exactly if bit 12 of its coefficient `m` is set. -/
theorem supportsReduced_iff_of_revised {blob : Blob} (revised : 4 ≤ blob.revision) :
    ((TimingContext.ofBlob blob).supportsReduced = true ↔
      (∃ descriptor ∈ blob.descriptors, descriptor.AnnouncesReduced) ∨
        ∃ descriptor ∈ blob.descriptors, descriptor.ResemblesReduced) ∧
    (((TimingContext.ofBlob blob).supportsReduced = true ↔
        ∃ descriptor ∈ blob.descriptors, descriptor.AnnouncesReduced) ↔
      ((∃ descriptor ∈ blob.descriptors, descriptor.ResemblesReduced) →
        ∃ descriptor ∈ blob.descriptors, descriptor.AnnouncesReduced)) ∧
    ∀ descriptor ∈ blob.descriptors, descriptor.isKind .rangeLimits = true →
      ∀ start curve, RangeKind.ofDescriptor descriptor = .secondaryGtf start curve →
        (descriptor.ResemblesReduced ↔ curve.m.testBit 12 = true) := by
  have taken := TimingContext.supportsReducedOf_iff revised
  refine ⟨taken, ?_, fun descriptor _ range start curve kind =>
    Descriptor.resemblesReduced_iff_of_secondaryGtf range kind⟩
  change (TimingContext.supportsReducedOf blob = true ↔ _) ↔ _
  rw [taken]
  exact or_iff_left_iff_imp

/-- A range descriptor with a second curve, from 40 kHz on, that has a coefficient of 4696. -/
def scanRange : Descriptor :=
  #v[0, 0, 0, 0xfd, 0, 50, 75, 30, 80, 15, 2, 0, 20, 80, 0x58, 0x12, 128, 40]

/-- A display of revision 4 with no other range descriptor. It has a standard timing of 1680 by 1050 at
60 Hz. -/
def tube : Blob where
  base := Vector.ofFn fun position =>
    (Block.header.toList ++ List.replicate 10 0 ++ [1, 4, 0x80] ++ List.replicate 17 0 ++ [0xb3, 0] ++
      List.replicate 14 1 ++ scanRange.toList ++ List.replicate 55 0 ++ [0x51]).getD position.val 0
  extensions := []
  count_eq := by decide +kernel

/-- The coefficient has bit 12 set. -/
theorem supportsReduced_iff_of_revised_tube :
    4 ≤ tube.revision ∧ (∃ descriptor ∈ tube.descriptors, descriptor.ResemblesReduced) ∧
      (TimingContext.ofBlob tube).supportsReduced = true := by
  have revised : 4 ≤ tube.revision := by decide +kernel
  have listed : scanRange ∈ tube.descriptors := by decide +kernel
  have range : scanRange.isKind .rangeLimits = true := by decide
  have kind : RangeKind.ofDescriptor scanRange = .secondaryGtf 40 ⟨4696, 80, 128, 40⟩ := by decide
  obtain ⟨taken, _, coefficient⟩ := supportsReduced_iff_of_revised revised
  have resembles := (coefficient scanRange listed range _ _ kind).mpr (by decide)
  exact ⟨revised, ⟨scanRange, listed, resembles⟩, taken.mpr (.inr ⟨scanRange, listed, resembles⟩)⟩

/-- No range descriptor of the tube is one of CVT, and its only mode has reduced blanking. -/
theorem tube_taken_for_panel :
    ∃ display, parse .standard tube.toBytes = .ok display ∧ 4 ≤ display.blob.revision ∧
      (TimingContext.ofBlob display.blob).supportsReduced = true ∧
      (∀ descriptor ∈ display.blob.descriptors, ¬ descriptor.AnnouncesReduced) ∧
      ∃ mode, display.modes = [mode] ∧ mode.isReducedBlanking = true := by
  have others : tube.descriptors.all (fun descriptor => descriptor.byte 10 != 4) = true := by
    decide +kernel
  refine ⟨Display.ofBlob tube false, parse_of_isValid (by decide +kernel) (by decide +kernel),
    by decide +kernel, by decide +kernel, fun descriptor member announces => ?_, ?_⟩
  · exact bne_iff_ne.mp (List.all_eq_true.mp others descriptor member) announces.cvt
  · exact ⟨.timing 119000 ⟨1680, 1728, 1760, 1840⟩ ⟨1050, 1053, 1059, 1080⟩ .positiveNegative,
      by decide +kernel, by decide⟩

end Edid
