import Edid.Proofs.Modes.Regular

/-!
# Preferred modes

Without DisplayID data, the first detailed timing is the only mode that is marked. The mark is
carried over to the stereo copies of that mode, though, when an HDMI block calls for them; only a
workaround that prefers the largest mode clears them again.
-/

set_option autoImplicit false

namespace Edid

def preferredModes (modes : List Mode) : List Mode :=
  modes.filter (·.preferred)

theorem preferredModes_cons (mode : Mode) (modes : List Mode) :
    preferredModes (mode :: modes) =
      if mode.preferred then mode :: preferredModes modes else preferredModes modes :=
  List.filter_cons

theorem preferredModes_append (left right : List Mode) :
    preferredModes (left ++ right) = preferredModes left ++ preferredModes right :=
  List.filter_append left right

theorem preferredModes_eq_nil {modes : List Mode}
    (unmarked : ∀ mode ∈ modes, mode.preferred = false) : preferredModes modes = [] := by
  apply List.filter_eq_nil_iff.mpr
  intro mode member
  rw [unmarked mode member]
  exact Bool.false_ne_true

theorem preferredModes_of_sourced {modes : List Mode} (sourced : AllSourced modes) :
    preferredModes modes = [] :=
  preferredModes_eq_nil fun mode member => (sourced mode member).plain.preferred

theorem preferredModes_of_extends {old new : List Mode} (grown : Extends old new) :
    preferredModes new = preferredModes old := by
  obtain ⟨added, sourced, rfl⟩ := grown
  rw [preferredModes_append, preferredModes_of_sourced sourced, List.append_nil]

/-! ## The choice of the display -/

section Choice

variable (blob : Blob) (workarounds : Workarounds)

/-- The first detailed timing of a display that prefers it. -/
def choice? : Option Mode :=
  let context := TimingContext.ofBlob blob
  if context.firstDetailedPreferred then (detailedModes blob context workarounds).head? else none

theorem preferredModes_preferFirst {modes : List Mode} (sourced : AllSourced modes) :
    preferredModes (preferFirst modes) = (preferFirst modes).head?.toList := by
  cases modes with
  | nil => rfl
  | cons first rest =>
      have behind := preferredModes_of_sourced fun mode member =>
        sourced mode (List.mem_cons_of_mem first member)
      change first.withPreferred true :: preferredModes rest = [first.withPreferred true]
      rw [behind]

theorem preferredModes_detailedModes :
    preferredModes (detailedModes blob (TimingContext.ofBlob blob) workarounds) =
      (choice? blob workarounds).toList := by
  let context := TimingContext.ofBlob blob
  have sourced := sourced_unmarkedModes blob context workarounds
  have listed := detailedModes_eq blob context workarounds
  cases first : context.firstDetailedPreferred with
  | true =>
      rw [first, if_pos rfl] at listed
      rw [choice?, if_pos first, listed]
      exact preferredModes_preferFirst sourced
  | false =>
      rw [first, if_neg Bool.false_ne_true] at listed
      rw [choice?, first, if_neg Bool.false_ne_true, listed]
      exact preferredModes_of_sourced sourced

theorem preferredModes_baseModes :
    preferredModes (baseModes blob (TimingContext.ofBlob blob) workarounds) =
      (choice? blob workarounds).toList := by
  rw [preferredModes_of_extends (extends_baseModes blob _ workarounds)]
  exact preferredModes_detailedModes blob workarounds

end Choice

/-! ## Copies -/

section Copies

/-- The last HDMI block of a list announces stereo. -/
def announcesStereo (blocks : List Cta.DataBlock) : Bool :=
  (blocks.filter Cta.DataBlock.isHdmi).getLast?.any fun block => (HdmiVideo.ofBlock block).stereo

/-- The stereo copies of modes that the HDMI block calls for. -/
def demandedCopies (blocks : List Cta.DataBlock) (modes : List Mode) : List Mode :=
  if announcesStereo blocks then mandatoryStereoModes modes else []

theorem demandedCopies_nil (blocks : List Cta.DataBlock) : demandedCopies blocks [] = [] :=
  ite_self []

/-- A stereo copy is as preferred as the mode that it copies. -/
theorem preferredModes_mandatoryStereoModes (modes : List Mode) :
    preferredModes (mandatoryStereoModes modes) = mandatoryStereoModes (preferredModes modes) := by
  induction modes with
  | nil => rfl
  | cons mode rest ih =>
      let copies := (MandatoryStereo.table.filter (·.covers mode)).map fun mandatory =>
        mode.inLayout mandatory.layout
      have copied : ∀ copy ∈ copies, copy.preferred = mode.preferred := by
        intro copy member
        obtain ⟨mandatory, _, rfl⟩ := List.mem_map.mp member
        rfl
      change preferredModes (copies ++ mandatoryStereoModes rest) = _
      rw [preferredModes_append, preferredModes_cons, ih]
      cases marked : mode.preferred with
      | true =>
          have all : preferredModes copies = copies :=
            List.filter_eq_self.mpr fun copy member => (copied copy member).trans marked
          rw [all, if_pos rfl]
          rfl
      | false =>
          have none : preferredModes copies = [] :=
            preferredModes_eq_nil fun copy member => (copied copy member).trans marked
          rw [none, if_neg Bool.false_ne_true]
          rfl

theorem preferredModes_hdmiModes (blocks : List Cta.DataBlock) (listed : List Mode) :
    preferredModes (hdmiModes blocks listed) = demandedCopies blocks (preferredModes listed) := by
  rw [hdmiModes, demandedCopies, announcesStereo]
  cases (blocks.filter Cta.DataBlock.isHdmi).getLast? with
  | none => rfl
  | some block =>
      let video := HdmiVideo.ofBlock block
      have own : preferredModes ((video.options (lastVideoPayload blocks)).filterMap id) = [] := by
        apply preferredModes_eq_nil
        intro mode member
        obtain ⟨_, member, rfl⟩ := List.mem_filterMap.mp member
        rcases HdmiVideo.sourced_or_inLayout_of_mem_options member with
          sourced | ⟨_, _, plain, layout, format, rfl⟩
        · exact sourced.plain.preferred
        · exact (sourced_ctaFormat? format).plain.preferred
      dsimp only
      rw [← HdmiVideo.filterMap_options, preferredModes_append, own, List.append_nil,
        Option.any_some]
      split
      · exact preferredModes_mandatoryStereoModes listed
      · rfl

theorem preferredModes_addFormatModes (blob : Blob) (modes : List Mode) :
    preferredModes (addFormatModes blob modes) =
      preferredModes modes ++ demandedCopies (videoBlocks blob) (preferredModes modes) := by
  have listed := preferredModes_of_extends (extends_formats modes (videoBlocks blob))
  rw [addFormatModes, preferredModes_append, preferredModes_hdmiModes, listed]

theorem preferredModes_addAlternateModes (blob : Blob) (modes : List Mode) :
    preferredModes (addAlternateModes blob modes) = preferredModes modes := by
  have unmarked : preferredModes (modes.filterMap alternateMode?) = [] := by
    apply preferredModes_eq_nil
    intro other member
    obtain ⟨mode, _, found⟩ := List.mem_filterMap.mp member
    obtain ⟨format, clock, sourced, rfl⟩ := exists_format_of_alternateMode? found
    exact sourced.plain.preferred
  rw [addAlternateModes]
  split
  · rw [preferredModes_append, unmarked, List.append_nil]
  · rfl

theorem displayIdModes_eq_nil {blob : Blob}
    (unsectioned : ∀ extension ∈ blob.extensions, extension.tag ≠ Block.displayIdTag) :
    displayIdModes blob = [] := by
  have none : blob.extensions.filter (fun extension => extension.tag == Block.displayIdTag) = [] := by
    apply List.filter_eq_nil_iff.mpr
    intro extension member
    rw [beq_iff_eq]
    exact unsectioned extension member
  rw [displayIdModes, Blob.displayIdBlocks, Blob.displayIdSections, none]
  rfl

end Copies

/-! ## The largest mode -/

section Largest

/-- The largest mode takes the place of the choice. -/
def Workarounds.prefersLargest (workarounds : Workarounds) : Bool :=
  workarounds.preferLargestAt75 || workarounds.preferLargestAt60

/-- The rate that the largest mode should be near to. -/
def Workarounds.targetRate (workarounds : Workarounds) : Nat :=
  if workarounds.preferLargestAt75 then 75 else 60

theorem preferredModes_zipIdx (position start : Nat) (modes : List Mode) :
    preferredModes ((modes.zipIdx start).map fun (mode, index) =>
        mode.withPreferred (index == position)) =
      if position < start then []
      else (modes[position - start]?.map (·.withPreferred true)).toList := by
  -- The positions of the rest begin one higher, so the start has to vary.
  induction modes generalizing start with
  | nil => split <;> rfl
  | cons mode rest ih =>
      change preferredModes (mode.withPreferred (start == position) :: _) = _
      rw [preferredModes_cons, ih]
      change (if (start == position) = true then _ else _) = _
      rcases Nat.lt_trichotomy position start with before | here | behind
      · have other : ¬ (start == position) = true := by simp only [beq_iff_eq]; omega
        rw [if_neg other, if_pos (by omega), if_pos before]
      · rw [here, beq_self_eq_true, if_pos rfl, if_pos (by omega), if_neg (by omega), Nat.sub_self]
        rfl
      · have other : ¬ (start == position) = true := by simp only [beq_iff_eq]; omega
        have next : position - start = position - (start + 1) + 1 := by omega
        rw [if_neg other, if_neg (by omega), if_neg (by omega), next, List.getElem?_cons_succ]

theorem preferredModes_preferOnly (position : Nat) (modes : List Mode) :
    preferredModes (preferOnly position modes) =
      (modes[position]?.map (·.withPreferred true)).toList := by
  rw [preferOnly, preferredModes_zipIdx, if_neg (Nat.not_lt_zero position), Nat.sub_zero]

theorem length_preferredModes_preferOnly_le (position : Nat) (modes : List Mode) :
    (preferredModes (preferOnly position modes)).length ≤ 1 := by
  rw [preferredModes_preferOnly]
  cases modes[position]? with
  | none => exact Nat.zero_le 1
  | some _ => exact Nat.le_refl 1

theorem correctPreferred_of_not_prefersLargest {workarounds : Workarounds}
    (trusted : workarounds.prefersLargest = false) (modes : List Mode) :
    correctPreferred workarounds modes = modes := by
  obtain ⟨at75, at60⟩ := Bool.or_eq_false_iff.mp trusted
  rw [correctPreferred, at75, at60]
  rfl

theorem correctPreferred_of_prefersLargest {workarounds : Workarounds}
    (wrong : workarounds.prefersLargest = true) (modes : List Mode) :
    correctPreferred workarounds modes =
      preferOnly (bestPosition workarounds.targetRate modes) modes := by
  rw [correctPreferred, Workarounds.targetRate]
  rcases Bool.or_eq_true_iff.mp wrong with at75 | at60
  · rw [if_pos at75, if_pos at75]
  · rw [if_pos at60]
    exact (apply_ite (fun rate => preferOnly (bestPosition rate modes) modes) _ 75 60).symm

theorem length_preferredModes_le_of_prefersLargest {workarounds : Workarounds}
    (wrong : workarounds.prefersLargest = true) (modes : List Mode) :
    (preferredModes (correctPreferred workarounds modes)).length ≤ 1 := by
  rw [correctPreferred_of_prefersLargest wrong]
  exact length_preferredModes_preferOnly_le _ modes

end Largest

/-! ## The whole list -/

theorem preferredModes_collectModes {blob : Blob} {workarounds : Workarounds}
    (unsectioned : ∀ extension ∈ blob.extensions, extension.tag ≠ Block.displayIdTag)
    (trusted : workarounds.prefersLargest = false) :
    preferredModes (collectModes blob workarounds) =
      (choice? blob workarounds).toList ++
        demandedCopies (videoBlocks blob) (choice? blob workarounds).toList := by
  rw [collectModes, correctPreferred_of_not_prefersLargest trusted,
    preferredModes_of_extends (extends_addInferredModes _ blob _), displayIdModes_eq_nil unsectioned,
    List.append_nil, preferredModes_addAlternateModes, preferredModes_addFormatModes,
    preferredModes_baseModes]

theorem demandedCopies_eq_nil_of_length_le {blocks : List Cta.DataBlock} {choice : Option Mode}
    (few : (choice.toList ++ demandedCopies blocks choice.toList).length ≤ 1) :
    demandedCopies blocks choice.toList = [] := by
  cases choice with
  | none =>
      -- Without a choice there is nothing to copy, however few modes are preferred.
      exact demandedCopies_nil blocks
  | some first =>
      rw [Option.toList_some, List.singleton_append, List.length_cons] at few
      exact List.eq_nil_of_length_eq_zero (Nat.le_zero.mp (Nat.le_of_succ_le_succ few))

/-- Without DisplayID data a display prefers its choice and the stereo copies that an HDMI block
calls for. It prefers no more than one mode exactly if there are no such copies, or if a workaround
replaces the choice. -/
theorem preferredModes_of_parse {policy : RepairPolicy} {bytes : List Byte} {display : Display}
    (parsed : parse policy bytes = .ok display)
    (unsectioned : ∀ extension ∈ display.blob.extensions, extension.tag ≠ Block.displayIdTag) :
    let choice := (choice? display.blob display.workarounds).toList
    let copies := demandedCopies (videoBlocks display.blob) choice
    (display.workarounds.prefersLargest = false →
        preferredModes display.modes = choice ++ copies) ∧
      ((preferredModes display.modes).length ≤ 1 ↔
        display.workarounds.prefersLargest = true ∨ copies = []) := by
  intro choice copies
  have trusted : display.workarounds.prefersLargest = false →
      preferredModes display.modes = choice ++ copies := by
    intro trusted
    rw [modes_of_parse parsed]
    exact preferredModes_collectModes unsectioned trusted
  refine ⟨trusted, ?_⟩
  cases wrong : display.workarounds.prefersLargest with
  | true =>
      rw [modes_of_parse parsed]
      exact iff_of_true (length_preferredModes_le_of_prefersLargest wrong _) (.inl rfl)
  | false =>
      rw [trusted wrong]
      constructor
      · exact fun few => .inr (demandedCopies_eq_nil_of_length_le few)
      · rintro (known | none)
        · contradiction
        · rw [none, List.append_nil]
          exact Option.length_toList_le

theorem preferredModes_of_parse_television :
    ∃ display, parse .standard television.toBytes = .ok display ∧
      preferredModes display.modes =
        (choice? television display.workarounds).toList ++
          mandatoryStereoModes (choice? television display.workarounds).toList ∧
      ¬ (preferredModes display.modes).length ≤ 1 := by
  have unsectioned : ∀ extension ∈ television.extensions, extension.tag ≠ Block.displayIdTag :=
    List.forall_mem_singleton.mpr (by decide +kernel)
  have trusted : (Workarounds.ofBlob television).prefersLargest = false := by decide +kernel
  have announced : announcesStereo (videoBlocks television) = true := by decide +kernel
  have copied : mandatoryStereoModes
      (choice? television (Workarounds.ofBlob television)).toList ≠ [] := by decide +kernel
  obtain ⟨marked, single⟩ := preferredModes_of_parse parse_television unsectioned
  rw [Display.ofBlob_blob, demandedCopies, announced, if_pos rfl] at marked single
  refine ⟨_, parse_television, marked trusted, fun few => ?_⟩
  rcases single.mp few with wrong | none
  · exact Bool.false_ne_true (trusted.symm.trans wrong)
  · exact copied none

/-- Without DisplayID data, three modes of the television are preferred: the first detailed timing
and its copies in two stereo layouts. -/
theorem television_prefers_copies :
    ∃ display, parse .standard television.toBytes = .ok display ∧
      (∀ extension ∈ display.blob.extensions, extension.tag ≠ Block.displayIdTag) ∧
      (display.modes.filter (·.preferred)).map (·.stereo) =
        [.none, Stereo.none.insert .topAndBottom, Stereo.none.insert .framePacking] ∧
      ¬ (display.modes.filter (·.preferred)).length ≤ 1 := by
  have unsectioned : ∀ extension ∈ television.extensions, extension.tag ≠ Block.displayIdTag :=
    List.forall_mem_singleton.mpr (by decide +kernel)
  have layouts : ((Display.ofBlob television false).modes.filter (·.preferred)).map (·.stereo) =
      [.none, Stereo.none.insert .topAndBottom, Stereo.none.insert .framePacking] := by
    decide +kernel
  have three := congrArg List.length layouts
  rw [List.length_map] at three
  refine ⟨_, parse_television, unsectioned, layouts, ?_⟩
  rw [three]
  decide

end Edid
