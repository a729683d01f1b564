import Edid.Proofs.Modes.Origin

/-!
# What range limits imply

A display of continuous frequency is offered one mode after another, and every offer is compared
with the list as it stands by then. No mode gets in that is larger than what the list began with,
however many came in before it, and no monitor timing within the limits is left out unless the list
has one of its size and rate.
-/

set_option autoImplicit false

namespace Edid

namespace Mode

/-- The modes are the same to a user, who sees the size and the rate. -/
def SameSizeAndRate (left right : Mode) : Prop :=
  left.width = right.width ∧ left.height = right.height ∧ left.refresh = right.refresh

/-- No larger in either direction. -/
def CoveredBy (small large : Mode) : Prop :=
  small.width ≤ large.width ∧ small.height ≤ large.height

theorem CoveredBy.refl (mode : Mode) : mode.CoveredBy mode :=
  ⟨Nat.le_refl _, Nat.le_refl _⟩

theorem CoveredBy.trans {small middle large : Mode} (inner : small.CoveredBy middle)
    (outer : middle.CoveredBy large) : small.CoveredBy large :=
  ⟨Nat.le_trans inner.1 outer.1, Nat.le_trans inner.2 outer.2⟩

end Mode

/-! ## Limits -/

/-- Rates, clock and width are within the limits. A limit of zero for the clock or the width is
none. -/
structure RangeLimits.Contains (range : RangeLimits) (mode : Mode) : Prop where
  minLineRate_le : range.minLineRate ≤ mode.lineRate
  lineRate_le : mode.lineRate ≤ range.maxLineRate
  minRefresh_le : range.minRefresh ≤ mode.refresh
  refresh_le : mode.refresh ≤ range.maxRefresh
  clock_le : range.maxClock = 0 ∨ mode.clock ≤ range.maxClock
  width_le : range.maxWidth = 0 ∨ mode.width ≤ range.maxWidth

theorem RangeLimits.admits_iff {range : RangeLimits} {context : TimingContext} {mode : Mode} :
    range.admits context mode = true ↔
      range.Contains mode ∧ (mode.isReducedBlanking = true → context.supportsReduced = true) := by
  have blanking : (!mode.isReducedBlanking || context.supportsReduced) = true ↔
      (mode.isReducedBlanking = true → context.supportsReduced = true) := by
    cases mode.isReducedBlanking <;> simp
  simp only [admits, Bool.and_eq_true, Bool.or_eq_true, decide_eq_true_eq, blanking]
  constructor
  · rintro ⟨⟨⟨⟨⟨⟨low, high⟩, slow⟩, fast⟩, clock⟩, width⟩, blanking⟩
    exact ⟨⟨low, high, slow, fast, clock, width⟩, blanking⟩
  · rintro ⟨⟨low, high, slow, fast, clock, width⟩, blanking⟩
    exact ⟨⟨⟨⟨⟨⟨low, high⟩, slow⟩, fast⟩, clock⟩, width⟩, blanking⟩

/-- The limits in the range descriptors of a blob. -/
def Blob.ranges (blob : Blob) : List RangeLimits :=
  blob.descriptors.filterMap fun descriptor =>
    RangeLimits.ofDescriptor? descriptor blob.revision

/-- The display can show the mode, as its range descriptors have it. -/
structure Blob.Takes (blob : Blob) (mode : Mode) : Prop where
  inRange : ∃ range ∈ blob.ranges, range.Contains mode
  blanking : mode.isReducedBlanking = true → (TimingContext.ofBlob blob).supportsReduced = true

theorem Blob.takes_iff {blob : Blob} {mode : Mode} :
    blob.Takes mode ↔
      ∃ range ∈ blob.ranges, range.admits (TimingContext.ofBlob blob) mode = true := by
  constructor
  · rintro ⟨⟨range, stated, inside⟩, blanking⟩
    exact ⟨range, stated, RangeLimits.admits_iff.mpr ⟨inside, blanking⟩⟩
  · rintro ⟨range, stated, admitted⟩
    obtain ⟨inside, blanking⟩ := RangeLimits.admits_iff.mp admitted
    exact ⟨⟨range, stated, inside⟩, blanking⟩

theorem hasSizeAndRefresh_iff {modes : List Mode} {mode : Mode} :
    hasSizeAndRefresh modes mode.width mode.height mode.refresh = true ↔
      ∃ listed ∈ modes, listed.SameSizeAndRate mode := by
  simp only [hasSizeAndRefresh, List.any_eq_true, Bool.and_eq_true, beq_iff_eq,
    Mode.SameSizeAndRate, and_assoc]

theorem accepts_iff {modes : List Mode} {candidate : Mode} :
    accepts modes candidate = true ↔
      (∀ listed ∈ modes, ¬ listed.SameSizeAndRate candidate) ∧
        ∃ larger ∈ modes, candidate.CoveredBy larger := by
  rw [accepts, Bool.and_eq_true, Bool.not_eq_true', ← Bool.not_eq_true, hasSizeAndRefresh_iff]
  simp only [not_exists, not_and, List.any_eq_true, Bool.and_eq_true, decide_eq_true_eq,
    Mode.CoveredBy]

/-! ## Offers -/

/-- A list with modes behind it that a display was offered: each is one that the display takes, is
unlike all before it and is covered by a mode that was there from the first. -/
inductive Inferred (blob : Blob) (first : List Mode) : List Mode → Prop where
  | start : Inferred blob first first
  | add {modes : List Mode} {mode : Mode} : Inferred blob first modes → blob.Takes mode →
      (∀ earlier ∈ modes, ¬ earlier.SameSizeAndRate mode) →
      (∃ larger ∈ first, mode.CoveredBy larger) → Inferred blob first (modes ++ [mode])

namespace Inferred

variable {blob : Blob} {first modes : List Mode}

theorem exists_covering (inferred : Inferred blob first modes) :
    ∀ mode ∈ modes, ∃ larger ∈ first, mode.CoveredBy larger := by
  induction inferred with
  | start => exact fun mode listed => ⟨mode, listed, .refl mode⟩
  | add _ _ _ covered ih =>
      exact List.forall_mem_append.mpr ⟨ih, List.forall_mem_singleton.mpr covered⟩

/-- What an offer is compared with may have come in before it, but is covered itself. -/
theorem offer (inferred : Inferred blob first modes) {range : RangeLimits}
    (stated : range ∈ blob.ranges) (candidate : Mode) :
    Inferred blob first (Edid.offer (TimingContext.ofBlob blob) range modes candidate) := by
  rw [Edid.offer]
  split
  · next both =>
      obtain ⟨admitted, accepted⟩ := Bool.and_eq_true_iff.mp both
      obtain ⟨unlike, larger, listed, inner⟩ := accepts_iff.mp accepted
      obtain ⟨largest, original, outer⟩ := inferred.exists_covering larger listed
      have taken := Blob.takes_iff.mpr ⟨range, stated, admitted⟩
      exact inferred.add taken unlike ⟨largest, original, inner.trans outer⟩
  · exact inferred

/-- Of the modes behind the first list, each keeps what it was taken for. -/
theorem exists_added (inferred : Inferred blob first modes) :
    ∃ added, modes = first ++ added ∧
      ∀ front mode behind, added = front ++ mode :: behind →
        blob.Takes mode ∧ (∀ earlier ∈ first ++ front, ¬ earlier.SameSizeAndRate mode) ∧
          ∃ larger ∈ first, mode.CoveredBy larger := by
  induction inferred with
  | start =>
      refine ⟨[], (List.append_nil first).symm, fun front mode behind split => ?_⟩
      exact (List.append_ne_nil_of_right_ne_nil front (List.cons_ne_nil mode behind) split.symm).elim
  | @add modes newest _ taken unlike covered ih =>
      obtain ⟨added, rfl, each⟩ := ih
      refine ⟨added ++ [newest], List.append_assoc _ _ _, fun front mode behind split => ?_⟩
      rcases List.eq_nil_or_concat behind with rfl | ⟨others, last, rfl⟩
      · obtain ⟨rfl, same⟩ := List.append_inj' split rfl
        cases same
        exact ⟨taken, unlike, covered⟩
      · rw [List.concat_eq_append, ← List.cons_append, ← List.append_assoc] at split
        exact each front mode others (List.append_inj' split rfl).1

end Inferred

theorem inferred_addInferredModes (blob : Blob) (modes : List Mode) :
    Inferred blob modes (addInferredModes blob (TimingContext.ofBlob blob) modes) := by
  rw [addInferredModes]
  split
  · refine List.foldlRecOn _ _ Inferred.start fun listed inferred range stated => ?_
    exact List.foldlRecOn _ _ inferred fun listed inferred candidate _ =>
      inferred.offer stated candidate
  · exact .start

/-! ## Nothing is left out -/

section Complete

theorem subset_foldl {α : Type} {step : List Mode → α → List Mode}
    (grows : ∀ modes item, modes ⊆ step modes item) (items : List α) (modes : List Mode) :
    modes ⊆ items.foldl step modes :=
  List.foldlRecOn items step (List.Subset.refl modes) fun listed kept item _ =>
    List.Subset.trans kept (grows listed item)

/-- What one step brings about in every list that has the first modes is there after all steps, if
no step takes anything away. -/
theorem exists_mem_foldl {α : Type} {step : List Mode → α → List Mode}
    (grows : ∀ modes item, modes ⊆ step modes item) {items : List α} {item : α}
    (member : item ∈ items) {first : List Mode} {goal : Mode → Prop}
    (reached : ∀ modes, first ⊆ modes → ∃ mode ∈ step modes item, goal mode) :
    ∃ mode ∈ items.foldl step first, goal mode := by
  obtain ⟨front, behind, rfl⟩ := List.append_of_mem member
  rw [List.foldl_append, List.foldl_cons]
  obtain ⟨mode, present, good⟩ := reached _ (subset_foldl grows front first)
  exact ⟨mode, subset_foldl grows behind _ present, good⟩

variable (context : TimingContext) (range : RangeLimits)

theorem subset_offer (modes : List Mode) (candidate : Mode) :
    modes ⊆ offer context range modes candidate := by
  rw [offer]
  split
  · exact List.subset_append_left _ _
  · exact List.Subset.refl _

/-- A mode is turned down only for one of its size and rate. -/
theorem exists_mem_offer {modes : List Mode} {candidate : Mode}
    (admitted : range.admits context candidate = true)
    (covered : ∃ larger ∈ modes, candidate.CoveredBy larger) :
    ∃ listed ∈ offer context range modes candidate, listed.SameSizeAndRate candidate := by
  by_cases known : ∃ listed ∈ modes, listed.SameSizeAndRate candidate
  · obtain ⟨listed, present, same⟩ := known
    exact ⟨listed, subset_offer context range modes candidate present, same⟩
  · have unlike : ∀ listed ∈ modes, ¬ listed.SameSizeAndRate candidate :=
      fun listed present same => known ⟨listed, present, same⟩
    have accepted := accepts_iff.mpr ⟨unlike, covered⟩
    rw [offer, admitted, accepted]
    exact ⟨candidate, List.mem_append_right modes List.mem_cons_self, rfl, rfl, rfl⟩

end Complete

/-- A display of continuous frequency adds modes that it takes, each unlike all before it and
covered by one that was listed from the first, and misses no monitor timing of that kind: for each,
the list has one of its size and rate. -/
theorem addInferredModes_of_continuousFrequency {blob : Blob}
    (continuous : blob.hasContinuousFrequency = true) (recent : blob.isNewerThan 1 0 = true)
    (modes : List Mode) :
    ∃ added, addInferredModes blob (TimingContext.ofBlob blob) modes = modes ++ added ∧
      (∀ front mode behind, added = front ++ mode :: behind →
        (∀ earlier ∈ modes ++ front, ¬ earlier.SameSizeAndRate mode) ∧
        (∃ larger ∈ modes, mode.CoveredBy larger) ∧
        (∃ range ∈ blob.ranges, range.Contains mode) ∧
        (mode.isReducedBlanking = true → (TimingContext.ofBlob blob).supportsReduced = true)) ∧
      ∀ mode ∈ Dmt.modes, (∃ range ∈ blob.ranges, range.Contains mode) →
        (mode.isReducedBlanking = true → (TimingContext.ofBlob blob).supportsReduced = true) →
        (∃ larger ∈ modes, mode.CoveredBy larger) →
        ∃ listed ∈ modes ++ added, listed.SameSizeAndRate mode := by
  let context := TimingContext.ofBlob blob
  obtain ⟨added, appended, each⟩ := (inferred_addInferredModes blob modes).exists_added
  refine ⟨added, appended, ?_, ?_⟩
  · intro front mode behind split
    obtain ⟨taken, unlike, covered⟩ := each front mode behind split
    exact ⟨unlike, covered, taken.inRange, taken.blanking⟩
  · intro mode monitor inRange blanking covered
    obtain ⟨larger, original, covering⟩ := covered
    obtain ⟨range, stated, admitted⟩ := Blob.takes_iff.mp ⟨inRange, blanking⟩
    have offered : addInferredModes blob context modes =
        blob.ranges.foldl (fun modes range =>
          (candidates context range).foldl (offer context range) modes) modes := by
      rw [addInferredModes, continuous, recent]
      rfl
    have listed : mode ∈ candidates context range := List.mem_append_left _ monitor
    rw [← appended, offered]
    have grows (modes : List Mode) (range : RangeLimits) :=
      subset_foldl (subset_offer context range) (candidates context range) modes
    refine exists_mem_foldl grows stated fun early kept => ?_
    refine exists_mem_foldl (subset_offer context range) listed fun late grown => ?_
    exact exists_mem_offer context range admitted ⟨larger, grown (kept original), covering⟩

/-- A workstation whose range descriptor allows 170 MHz, 1280 pixels and reduced blanking. -/
def workstation : Blob where
  base := Vector.ofFn fun position =>
    (Block.header.toList ++ List.replicate 10 0 ++ [1, 4, 0x80, 0, 0, 0, 1] ++ List.replicate 29 0 ++
      [0, 0, 0, 0xfd, 0, 56, 76, 30, 83, 17, 4, 0, 0, 160, 0, 0x10, 0, 0] ++
      List.replicate 55 0 ++ [0xc9]).getD position.val 0
  extensions := []
  count_eq := by decide +kernel

/-- The mode that the workstation is said to have. -/
def workstationMode : Mode :=
  .timing 108000 ⟨1280, 1328, 1440, 1688⟩ ⟨1024, 1025, 1028, 1066⟩ .positive

/-- From one mode the workstation infers twenty, among them one at the size and rate of every
monitor timing that it takes. -/
theorem addInferredModes_of_continuousFrequency_workstation :
    ∃ added, addInferredModes workstation (TimingContext.ofBlob workstation) [workstationMode] =
        workstationMode :: added ∧
      added.length = 20 ∧
      ∀ mode ∈ Dmt.modes, (∃ range ∈ workstation.ranges, range.Contains mode) →
        mode.CoveredBy workstationMode →
        ∃ listed ∈ workstationMode :: added, listed.SameSizeAndRate mode := by
  have count : (addInferredModes workstation (TimingContext.ofBlob workstation)
      [workstationMode]).length = 21 := by decide +kernel
  have reduced : (TimingContext.ofBlob workstation).supportsReduced = true := by decide +kernel
  obtain ⟨added, appended, _, complete⟩ := addInferredModes_of_continuousFrequency
    (by decide +kernel : workstation.hasContinuousFrequency = true)
    (by decide +kernel : workstation.isNewerThan 1 0 = true) [workstationMode]
  rw [appended] at count
  refine ⟨added, appended, Nat.succ_inj.mp count, fun mode monitor inRange covered => ?_⟩
  exact complete mode monitor inRange (fun _ => reduced) ⟨_, List.mem_singleton_self _, covered⟩

end Edid
