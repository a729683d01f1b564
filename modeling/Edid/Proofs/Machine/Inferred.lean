import Edid.Modes.Inferred
import Edid.Modes.Preferred
import Edid.Proofs.Machine.Standard

/-!
# Inferred and preferred modes in machine words

What is offered to a range is held against it by line rate, for which a clock is rounded in 32
bits. The modes that are offered leave room for that; those of the list need not.
-/

set_option autoImplicit false

namespace Edid

open Machine

section Offers

/-- A mode whose rates can be computed and whose sync pulse can be moved one pixel. -/
structure Mode.Offerable (mode : Mode) : Prop where
  fits : mode.Fits
  room : mode.clock + mode.horizontal.total / 2 < 0x100000000
  syncStart : 1 ≤ mode.horizontal.syncStart
  syncEnd : 1 ≤ mode.horizontal.syncEnd

instance (mode : Mode) : Decidable mode.Offerable :=
  decidable_of_iff (mode.Fits ∧ mode.clock + mode.horizontal.total / 2 < 0x100000000 ∧
    1 ≤ mode.horizontal.syncStart ∧ 1 ≤ mode.horizontal.syncEnd)
    ⟨fun ⟨fits, room, syncStart, syncEnd⟩ => ⟨fits, room, syncStart, syncEnd⟩,
      fun offerable => ⟨offerable.fits, offerable.room, offerable.syncStart, offerable.syncEnd⟩⟩

def RangeLimits.checkedAdmits (range : RangeLimits) (context : TimingContext) (mode : Mode) :
    Checked Bool := do
  let lineRate ← mode.checkedLineRate
  let rate ← mode.checkedRefresh
  let reduced ← mode.checkedIsReducedBlanking
  return range.minLineRate ≤ lineRate && lineRate ≤ range.maxLineRate &&
    range.minRefresh ≤ rate && rate ≤ range.maxRefresh &&
    (range.maxClock = 0 || mode.clock ≤ range.maxClock) &&
    (range.maxWidth = 0 || mode.width ≤ range.maxWidth) &&
    (!reduced || context.supportsReduced)

def checkedOffer (context : TimingContext) (range : RangeLimits) (modes : List Mode)
    (candidate : Mode) : Checked (List Mode) := do
  let admitted ← range.checkedAdmits context candidate
  let accepted ← checkedAccepts modes candidate
  return if admitted && accepted then modes ++ [candidate] else modes

theorem RangeLimits.checkedAdmits_eq (range : RangeLimits) (context : TimingContext) {mode : Mode}
    (fits : mode.Fits) (room : mode.clock + mode.horizontal.total / 2 < 0x100000000) :
    range.checkedAdmits context mode = .ok (range.admits context mode) :=
  ok_step (Mode.checkedLineRate_eq room) (ok_step (Mode.checkedRefresh_eq fits)
    (ok_step (Mode.checkedIsReducedBlanking_eq fits) (pure_eq _)))

theorem checkedOffer_eq (context : TimingContext) (range : RangeLimits) {modes : List Mode}
    (fit : AllFit modes) {candidate : Mode} (fits : candidate.Fits)
    (room : candidate.clock + candidate.horizontal.total / 2 < 0x100000000) :
    checkedOffer context range modes candidate = .ok (offer context range modes candidate) ∧
      AllFit (offer context range modes candidate) := by
  constructor
  · exact ok_step (range.checkedAdmits_eq context fits room)
      (ok_step (checkedAccepts_eq fit fits) (pure_eq _))
  · rw [offer]
    split
    · exact allFit_append fit fun mode member => by
        rw [List.mem_singleton.mp member]
        exact fits
    · exact fit

end Offers

section Candidates

/-- The common sizes as requests. -/
def sizeRequest (size : SizedRate) : Formula.Request where
  width := size.width
  height := size.height
  refresh := size.refresh

def checkedSynthesizer? (context : TimingContext) (range : RangeLimits) :
    Option (SizedRate → Checked (Option Mode)) :=
  match range.kind with
  | .defaultGtf | .secondaryGtf .. =>
      if context.isNewerThan 1 1 then
        some fun size => Gtf.checkedMode? (sizeRequest size) Gtf.Curve.standard
      else
        none
  | .cvt =>
      if context.isNewerThan 1 3 then
        some fun size => Cvt.checkedMode? (sizeRequest size) context.supportsReduced
      else
        none
  | .limitsOnly | .other _ => none

def checkedSynthesizedModes (context : TimingContext) (range : RangeLimits) :
    Checked (List Mode) := do
  match checkedSynthesizer? context range with
  | some synthesize =>
      (← mapWhileM synthesize Established.commonSizes).mapM Mode.checkedTrimIfPanel
  | none => return []

def checkedCandidates (context : TimingContext) (range : RangeLimits) : Checked (List Mode) := do
  return Dmt.modes ++ (← checkedSynthesizedModes context range)

theorem moderate_commonSizes : ∀ size ∈ Established.commonSizes,
    size.width ≤ 2400 ∧ size.height ≤ 2400 ∧ size.refresh ≤ 200 := by
  decide

/-- Whatever a formula makes of a common size can be offered. -/
theorem offerable_gtf : ∀ size ∈ Established.commonSizes,
    (Gtf.standardMode? (sizeRequest size)).all fun mode => decide mode.Offerable := by
  decide +kernel

theorem offerable_cvt : ∀ size ∈ Established.commonSizes, ∀ reduced,
    (Cvt.mode? (sizeRequest size) reduced).all fun mode => decide mode.Offerable := by
  decide +kernel

/-- Both synthesizers are missing, or they agree on the common sizes. -/
theorem checkedSynthesizer?_spec (context : TimingContext) (range : RangeLimits) :
    checkedSynthesizer? context range = none ∧ synthesizer? context range = none ∨
      ∃ checked plain, checkedSynthesizer? context range = some checked ∧
        synthesizer? context range = some plain ∧
        ∀ size ∈ Established.commonSizes, checked size = .ok (plain size) ∧
          ∀ mode, plain size = some mode → mode.Offerable := by
  have gtf : ∀ size ∈ Established.commonSizes,
      Gtf.checkedMode? (sizeRequest size) Gtf.Curve.standard =
        .ok (Gtf.standardMode? (sizeRequest size)) ∧
      ∀ mode, Gtf.standardMode? (sizeRequest size) = some mode → mode.Offerable := by
    intro size member
    obtain ⟨width, height, refresh⟩ := moderate_commonSizes size member
    refine ⟨Gtf.checkedMode?_eq ⟨width, height, refresh⟩ (by constructor <;> decide), ?_⟩
    intro mode found
    have offerable := offerable_gtf size member
    rw [found] at offerable
    exact of_decide_eq_true offerable
  have cvt (reduced : Bool) : ∀ size ∈ Established.commonSizes,
      Cvt.checkedMode? (sizeRequest size) reduced = .ok (Cvt.mode? (sizeRequest size) reduced) ∧
      ∀ mode, Cvt.mode? (sizeRequest size) reduced = some mode → mode.Offerable := by
    intro size member
    obtain ⟨width, height, refresh⟩ := moderate_commonSizes size member
    refine ⟨Cvt.checkedMode?_eq ⟨Nat.lt_of_le_of_lt width (by decide),
      Nat.lt_of_le_of_lt height (by decide), Nat.lt_of_le_of_lt refresh (by decide)⟩ reduced, ?_⟩
    intro mode found
    have offerable := offerable_cvt size member reduced
    rw [found] at offerable
    exact of_decide_eq_true offerable
  rw [checkedSynthesizer?, synthesizer?]
  dsimp only
  cases range.kind with
  | defaultGtf | secondaryGtf =>
      dsimp only
      split
      · exact Or.inr ⟨_, _, rfl, rfl, gtf⟩
      · exact Or.inl ⟨rfl, rfl⟩
  | cvt =>
      dsimp only
      split
      · exact Or.inr ⟨_, _, rfl, rfl, cvt context.supportsReduced⟩
      · exact Or.inl ⟨rfl, rfl⟩
  | limitsOnly | other => exact Or.inl ⟨rfl, rfl⟩

theorem fits_trimIfPanel {mode : Mode} (offerable : mode.Offerable) :
    mode.trimIfPanel.Fits ∧
      mode.trimIfPanel.clock + mode.trimIfPanel.horizontal.total / 2 < 0x100000000 := by
  have fits := offerable.fits
  rw [Mode.trimIfPanel]
  split
  · exact ⟨⟨fits.clock, ⟨(by decide : 1366 < 0x10000),
      Nat.lt_of_le_of_lt (Nat.sub_le _ _) fits.horizontal.syncStart,
      Nat.lt_of_le_of_lt (Nat.sub_le _ _) fits.horizontal.syncEnd, fits.horizontal.total⟩,
      fits.vertical⟩, offerable.room⟩
  · exact ⟨fits, offerable.room⟩

theorem checkedSynthesizedModes_eq (context : TimingContext) (range : RangeLimits) :
    checkedSynthesizedModes context range = .ok (synthesizedModes context range) ∧
      ∀ mode ∈ synthesizedModes context range,
        mode.Fits ∧ mode.clock + mode.horizontal.total / 2 < 0x100000000 := by
  rw [checkedSynthesizedModes, synthesizedModes]
  rcases checkedSynthesizer?_spec context range with
    ⟨missing, none⟩ | ⟨checked, plain, given, same, agree⟩
  · rw [missing, none]
    exact ⟨rfl, fun _ member => (List.not_mem_nil member).elim⟩
  · rw [given, same]
    have offerable : ∀ mode ∈ mapWhile plain Established.commonSizes, mode.Offerable := by
      intro mode member
      obtain ⟨size, inside, found⟩ := mem_of_mem_mapWhile member
      exact (agree size inside).2 mode found
    constructor
    · refine ok_step (mapWhileM_ok fun size member => (agree size member).1) ?_
      exact mapM_ok fun mode member =>
        Mode.checkedTrimIfPanel_eq (offerable mode member).syncStart (offerable mode member).syncEnd
    · intro mode member
      obtain ⟨wide, made, rfl⟩ := List.mem_map.mp member
      exact fits_trimIfPanel (offerable wide made)

theorem checkedCandidates_eq (context : TimingContext) (range : RangeLimits) :
    checkedCandidates context range = .ok (candidates context range) :=
  ok_step (checkedSynthesizedModes_eq context range).1 (pure_eq _)

theorem fits_of_mem_candidates {context : TimingContext} {range : RangeLimits} {mode : Mode}
    (member : mode ∈ candidates context range) :
    mode.Fits ∧ mode.clock + mode.horizontal.total / 2 < 0x100000000 :=
  (List.mem_append.mp member).elim (fits_of_mem_dmt mode)
    ((checkedSynthesizedModes_eq context range).2 mode)

end Candidates

section Inference

/-- Offers everything for a range in turn. -/
def checkedOfferAll (context : TimingContext) (modes : List Mode) (range : RangeLimits) :
    Checked (List Mode) := do
  (← checkedCandidates context range).foldlM (checkedOffer context range) modes

def checkedAddInferredModes (blob : Blob) (context : TimingContext) (modes : List Mode) :
    Checked (List Mode) := do
  if blob.hasContinuousFrequency && blob.isNewerThan 1 0 then
    let descriptors ← blob.checkedDescriptors
    let ranges ← descriptors.filterMapM fun descriptor =>
      RangeLimits.checkedOfDescriptor? descriptor context.revision
    ranges.foldlM (checkedOfferAll context) modes
  else
    return modes

theorem checkedOfferAll_eq (context : TimingContext) {modes : List Mode} (fit : AllFit modes)
    (range : RangeLimits) :
    checkedOfferAll context modes range =
        .ok ((candidates context range).foldl (offer context range) modes) ∧
      AllFit ((candidates context range).foldl (offer context range) modes) := by
  have offered : (candidates context range).foldlM (checkedOffer context range) modes =
        .ok ((candidates context range).foldl (offer context range) modes) ∧
      AllFit ((candidates context range).foldl (offer context range) modes) :=
    foldlM_ok AllFit fit fun modes candidate member fit =>
      have ⟨fits, room⟩ := fits_of_mem_candidates member
      checkedOffer_eq context range fit fits room
  exact ⟨ok_step (checkedCandidates_eq context range) offered.1, offered.2⟩

theorem checkedOfferRanges_eq (context : TimingContext) (ranges : List RangeLimits)
    {modes : List Mode} (fit : AllFit modes) :
    ranges.foldlM (checkedOfferAll context) modes =
        .ok (ranges.foldl (fun modes range =>
          (candidates context range).foldl (offer context range) modes) modes) ∧
      AllFit (ranges.foldl (fun modes range =>
        (candidates context range).foldl (offer context range) modes) modes) :=
  foldlM_ok AllFit fit fun _ range _ fit => checkedOfferAll_eq context fit range

theorem checkedAddInferredModes_eq (blob : Blob) (context : TimingContext) {modes : List Mode}
    (fit : AllFit modes) :
    checkedAddInferredModes blob context modes = .ok (addInferredModes blob context modes) ∧
      AllFit (addInferredModes blob context modes) := by
  rw [checkedAddInferredModes, addInferredModes]
  split
  · have ranges : blob.descriptors.filterMapM (fun descriptor =>
        RangeLimits.checkedOfDescriptor? descriptor context.revision) =
        .ok (blob.descriptors.filterMap fun descriptor =>
          RangeLimits.ofDescriptor? descriptor context.revision) :=
      filterMapM_ok fun descriptor _ => RangeLimits.checkedOfDescriptor?_eq descriptor _
    have offered := checkedOfferRanges_eq context
      (blob.descriptors.filterMap fun descriptor =>
        RangeLimits.ofDescriptor? descriptor context.revision) fit
    exact ⟨ok_step blob.checkedDescriptors_eq (ok_step ranges offered.1), offered.2⟩
  · exact ⟨rfl, fit⟩

end Inference

section Preference

def Mode.checkedIsBetter (target : Nat) (mode other : Mode) : Checked Bool := do
  let area ← mode.checkedArea
  let otherArea ← other.checkedArea
  let rate ← mode.checkedRefresh
  let otherRate ← other.checkedRefresh
  return otherArea < area ||
    (area = otherArea && distance rate target < distance otherRate target)

/-- The position of the best mode, which is looked up for every comparison. -/
def checkedBestFrom (target : Nat) (modes : List Mode) (best : Nat) :
    List (Mode × Nat) → Checked Nat
  | [] => return best
  | (mode, position) :: rest => do
      let leader ← read modes best
      if ← mode.checkedIsBetter target leader then checkedBestFrom target modes position rest
      else checkedBestFrom target modes best rest

def checkedPreferBest (target : Nat) (modes : List Mode) : Checked (List Mode) := do
  match modes with
  | [] => return []
  | first :: rest =>
      let best ← checkedBestFrom target (first :: rest) 0 (rest.zipIdx 1)
      let _ ← read (first :: rest) best
      return preferOnly best (first :: rest)

def checkedCorrectPreferred (workarounds : Workarounds) (modes : List Mode) :
    Checked (List Mode) := do
  if workarounds.preferLargestAt75 then checkedPreferBest 75 modes
  else if workarounds.preferLargestAt60 then checkedPreferBest 60 modes
  else return modes

theorem Mode.checkedIsBetter_eq (target : Nat) {mode other : Mode} (fits : mode.Fits)
    (otherFits : other.Fits) :
    mode.checkedIsBetter target other = .ok (mode.isBetter target other) :=
  ok_step (checkedArea_eq fits) (ok_step (checkedArea_eq otherFits)
    (ok_step (checkedRefresh_eq fits) (ok_step (checkedRefresh_eq otherFits) (pure_eq _))))

theorem checkedBestFrom_eq (target : Nat) {modes : List Mode} (fit : AllFit modes)
    {best : Nat} {leader : Mode} (leads : modes[best]? = some leader) {rest : List (Mode × Nat)}
    (placed : ∀ entry ∈ rest, modes[entry.2]? = some entry.1) :
    checkedBestFrom target modes best rest = .ok (bestFrom target leader best rest) ∧
      bestFrom target leader best rest < modes.length := by
  induction rest generalizing best leader with
  | nil => exact ⟨rfl, (List.getElem?_eq_some_iff.mp leads).1⟩
  | cons entry rest ih =>
      obtain ⟨mode, position⟩ := entry
      have here := placed (mode, position) List.mem_cons_self
      have others : ∀ entry ∈ rest, modes[entry.2]? = some entry.1 :=
        fun entry member => placed entry (List.mem_cons_of_mem _ member)
      have better := Mode.checkedIsBetter_eq target (fit mode (List.mem_of_getElem? here))
        (fit leader (List.mem_of_getElem? leads))
      rw [checkedBestFrom, bestFrom, read_of_getElem? leads, ok_bind, better, ok_bind]
      split
      · exact ih here others
      · exact ih leads others

theorem checkedPreferBest_eq (target : Nat) {modes : List Mode} (fit : AllFit modes) :
    checkedPreferBest target modes = .ok (preferOnly (bestPosition target modes) modes) := by
  cases modes with
  | nil => rfl
  | cons first rest =>
      have placed : ∀ entry ∈ rest.zipIdx 1, (first :: rest)[entry.2]? = some entry.1 := by
        intro entry member
        obtain ⟨behind, found⟩ := List.mk_mem_zipIdx_iff_le_and_getElem?_sub.mp member
        rw [List.getElem?_cons, if_neg (by omega), found]
      have leads : (first :: rest)[0]? = some first := rfl
      obtain ⟨best, inside⟩ := checkedBestFrom_eq target fit leads placed
      exact ok_step best (ok_step (read_eq inside) (pure_eq _))

theorem checkedCorrectPreferred_eq (workarounds : Workarounds) {modes : List Mode}
    (fit : AllFit modes) :
    checkedCorrectPreferred workarounds modes = .ok (correctPreferred workarounds modes) := by
  rw [checkedCorrectPreferred, correctPreferred]
  split
  · exact checkedPreferBest_eq 75 fit
  · split
    · exact checkedPreferBest_eq 60 fit
    · rfl

theorem allFit_preferOnly {modes : List Mode} (fit : AllFit modes) (position : Nat) :
    AllFit (preferOnly position modes) := by
  intro mode member
  obtain ⟨⟨original, index⟩, inside, rfl⟩ := List.mem_map.mp member
  exact Mode.fits_withPreferred (fit original (List.fst_mem_of_mem_zipIdx inside)) _

theorem allFit_correctPreferred {workarounds : Workarounds} {modes : List Mode}
    (fit : AllFit modes) : AllFit (correctPreferred workarounds modes) := by
  rw [correctPreferred]
  split
  · exact allFit_preferOnly fit _
  · split
    · exact allFit_preferOnly fit _
    · exact fit

end Preference

end Edid
