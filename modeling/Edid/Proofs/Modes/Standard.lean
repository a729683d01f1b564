import Mathlib.Tactic.MkIffOfInductiveProp
import Edid.Proofs.Formula.Cvt
import Edid.Proofs.Formula.Gtf
import Edid.Proofs.Machine.Standard
import Edid.Proofs.Parse

/-!
# Standard timing codes met twice

A code is passed over if the list has a mode of the size and rate that it asks for. The mode that a
code adds has that size, but it was found by rounding, so it keeps the same code away only if its
rate is what was asked for. It is, for every listed timing and nearly every synthesized one: the
coordinated formula may miss it in small frames, and a second curve where it leaves hardly a line.
-/

set_option autoImplicit false

namespace Edid

namespace StandardRequest

/-! ## What a code can ask for -/

structure Usual (request : StandardRequest) : Prop where
  width : 248 ≤ request.width
  height : 139 ≤ request.height ∧ request.height ≤ 2400
  refresh : 60 ≤ request.refresh ∧ request.refresh ≤ 123
  /-- The broadest picture is 16 by 9. -/
  shape : request.width * 9 / 16 ≤ request.height
  steps : request.isPanel = false → request.width % 8 = 0

theorem Usual.broad {request : StandardRequest} (usual : request.Usual)
    (broad : 1096 ≤ request.width) : 616 ≤ request.height := by
  have shape := usual.shape
  omega

theorem usual_corrected {request : StandardRequest} (usual : request.Usual) :
    request.corrected.Usual := by
  rw [corrected]
  split
  · next panel =>
      refine ⟨(by decide : 248 ≤ 1366), (by decide : 139 ≤ 768 ∧ 768 ≤ 2400), usual.refresh,
        (by decide : 1366 * 9 / 16 ≤ 768), fun other => ?_⟩
      simp [isPanel, panel.1] at other
  · exact usual

theorem le_heightFor (width aspect revision : Nat) :
    width * 9 / 16 ≤ heightFor width aspect revision := by
  match aspect with
  | 0 =>
      rw [heightFor]
      split <;> omega
  | 1 | 2 | _ + 3 =>
      simp only [heightFor]
      omega

theorem usual_ofCode? {code : Byte × Byte} {revision : Nat} {request : StandardRequest}
    (found : ofCode? code revision = some request) : request.Usual := by
  have width := code.1.toNat_lt
  rw [ofCode?] at found
  split at found
  · contradiction
  · cases found
    -- Of the four aspect ratios the last gives the lowest picture, the first the highest.
    have low := le_heightFor (code.1.toNat * 8 + 248) (code.2.toNat / 64) revision
    have high := heightFor_le (code.1.toNat * 8 + 248) (code.2.toNat / 64) revision
    exact usual_corrected ⟨by dsimp only; omega, by dsimp only; omega, by dsimp only; omega,
      low, fun _ => by dsimp only; omega⟩

/-! ## Where a mode comes from -/

variable {request : StandardRequest} {context : TimingContext} {mode : Mode}

theorem progressive (request : StandardRequest) : request.formulaRequest.Progressive :=
  ⟨rfl, rfl⟩

/-- The modes that a request is answered with, by their source. -/
inductive Answer (request : StandardRequest) (context : TimingContext) : Mode → Prop where
  | panel {mode : Mode} : request.isPanel = true →
      Cvt.mode? request.formulaRequest false = some mode →
      Answer request context mode.trimmedToPanel
  | monitor {mode : Mode} {reduced : Bool} :
      Dmt.find? request.width request.height request.refresh reduced = some mode →
      Answer request context mode
  | firstCurve {mode : Mode} : request.isPanel = false →
      Gtf.mode? request.formulaRequest Gtf.Curve.standard = some mode → Answer request context mode
  | secondCurve {mode : Mode} {curve : Gtf.Curve} : request.isPanel = false →
      request.listed? context = none → context.level = .secondaryGtf →
      Gtf.mode? request.formulaRequest curve = some mode → Answer request context mode
  | coordinated {mode : Mode} : request.isPanel = false → request.listed? context = none →
      context.level = .cvt → Cvt.mode? request.formulaRequest false = some mode →
      Answer request context mode

theorem exists_find?_of_listed? (found : request.listed? context = some mode) :
    ∃ reduced, Dmt.find? request.width request.height request.refresh reduced = some mode := by
  rcases Option.or_eq_some_iff.mp found with reduced | ⟨_, ordinary⟩
  · split at reduced
    · exact ⟨true, reduced⟩
    · contradiction
  · exact ⟨false, ordinary⟩

theorem answer_of_listed? (found : request.listed? context = some mode) :
    request.Answer context mode := by
  obtain ⟨reduced, found⟩ := exists_find?_of_listed? found
  exact .monitor found

theorem answer_of_synthesized? (other : request.isPanel = false)
    (unlisted : request.listed? context = none)
    (found : request.synthesized? context = some mode) : request.Answer context mode := by
  cases level : context.level with
  | dmt =>
      rw [synthesized?, level] at found
      contradiction
  | gtf =>
      rw [synthesized?, level] at found
      exact .firstCurve other found
  | secondaryGtf =>
      rw [synthesized?, level] at found
      obtain ⟨first, made, found⟩ := Option.bind_eq_some_iff.mp found
      split at found
      · split at found
        · exact .secondCurve other unlisted level found
        · cases found
          exact .firstCurve other made
      · cases found
        exact .firstCurve other made
  | cvt =>
      rw [synthesized?, level] at found
      exact .coordinated other unlisted level found

theorem answer_of_mode? (found : request.mode? context = some mode) :
    request.Answer context mode := by
  rw [mode?] at found
  split at found
  · next panel =>
      obtain ⟨wide, made, rfl⟩ := Option.map_eq_some_iff.mp found
      exact .panel panel made
  · next other =>
      rcases Option.or_eq_some_iff.mp found with listed | ⟨unlisted, synthesized⟩
      · exact answer_of_listed? listed
      · exact answer_of_synthesized? (Bool.eq_false_of_not_eq_true other) unlisted synthesized

/-! ## Its size and its rate -/

theorem size_of_gtf (usual : request.Usual) (other : request.isPanel = false) {curve : Gtf.Curve}
    (found : Gtf.mode? request.formulaRequest curve = some mode) :
    mode.width = request.width ∧ mode.height = request.height := by
  obtain ⟨_, yields⟩ := Gtf.exists_yields_of_mode? found
  have steps := usual.steps other
  have width : mode.width = (request.width + 4) / 8 * 8 := yields.width
  exact ⟨by omega, yields.height⟩

theorem size_of_cvt (usual : request.Usual)
    (found : Cvt.mode? request.formulaRequest false = some mode) :
    mode.width = request.width - request.width % 8 ∧ mode.height = request.height := by
  obtain ⟨_, yields⟩ := Cvt.exists_yields_of_mode? found
  have running : request.formulaRequest.refresh ≠ 0 := by
    have rate : request.formulaRequest.refresh = request.refresh := rfl
    have positive := usual.refresh.1
    omega
  exact yields.size request.progressive running

theorem eq_of_find? {reduced : Bool}
    (found : Dmt.find? request.width request.height request.refresh reduced = some mode) :
    mode.width = request.width ∧ mode.height = request.height ∧ mode.refresh = request.refresh := by
  have same := List.find?_some found
  simp only [Bool.and_eq_true, beq_iff_eq] at same
  exact ⟨same.1.1.1, same.1.1.2, same.1.2⟩

theorem isPanel_iff :
    request.isPanel = true ↔
      (request.width = 1366 ∧ request.height = 768) ∧ request.refresh = 60 := by
  simp [isPanel]

theorem Answer.size (answer : request.Answer context mode) (usual : request.Usual) :
    mode.width = request.width ∧ mode.height = request.height := by
  cases answer with
  | panel panel found =>
      obtain ⟨⟨width, _⟩, _⟩ := isPanel_iff.mp panel
      exact ⟨width.symm, (size_of_cvt usual found).2⟩
  | monitor found =>
      obtain ⟨width, height, _⟩ := eq_of_find? found
      exact ⟨width, height⟩
  | firstCurve other found => exact size_of_gtf usual other found
  | secondCurve other unlisted level found => exact size_of_gtf usual other found
  | coordinated other unlisted level found =>
      have steps := usual.steps other
      obtain ⟨width, height⟩ := size_of_cvt usual found
      exact ⟨by omega, height⟩

/-- Where a formula may miss the rate that it was asked for. -/
inductive Coarse (request : StandardRequest) (context : TimingContext) (mode : Mode) : Prop where
  | narrow : context.level = .cvt → request.listed? context = none → request.width < 1096 →
      Coarse request context mode
  | squeezed : context.level = .secondaryGtf → request.listed? context = none →
      mode.horizontal.total < 100 → Coarse request context mode

theorem refresh_of_firstCurve (usual : request.Usual)
    (found : Gtf.mode? request.formulaRequest Gtf.Curve.standard = some mode) :
    mode.refresh = request.refresh := by
  obtain ⟨_, yields⟩ := Gtf.exists_yields_of_mode? found
  have long := yields.long request.progressive usual.width usual.height.1 usual.refresh
  exact Gtf.refresh_of_yields request.progressive yields usual.height.1 usual.refresh (by omega)

theorem refresh_of_cvt (usual : request.Usual) (broad : 1096 ≤ request.width)
    (found : Cvt.mode? request.formulaRequest false = some mode) :
    mode.refresh = request.refresh := by
  obtain ⟨_, yields⟩ := Cvt.exists_yields_of_mode? found
  exact Cvt.refresh_of_yields request.progressive yields broad
    ⟨usual.broad broad, usual.height.2⟩ usual.refresh

theorem Answer.refresh (answer : request.Answer context mode) (usual : request.Usual) :
    mode.refresh = request.refresh ∨ request.Coarse context mode := by
  cases answer with
  | panel panel found =>
      obtain ⟨⟨width, _⟩, _⟩ := isPanel_iff.mp panel
      have kept := refresh_of_cvt usual (by omega) found
      exact .inl kept
  | monitor found => exact .inl (eq_of_find? found).2.2
  | firstCurve other found => exact .inl (refresh_of_firstCurve usual found)
  | secondCurve other unlisted level found =>
      rcases Nat.lt_or_ge mode.horizontal.total 100 with short | long
      · exact .inr (.squeezed level unlisted short)
      · obtain ⟨_, yields⟩ := Gtf.exists_yields_of_mode? found
        exact .inl (Gtf.refresh_of_yields request.progressive yields usual.height.1 usual.refresh
          long)
  | coordinated other unlisted level found =>
      rcases Nat.lt_or_ge request.width 1096 with narrow | broad
      · exact .inr (.narrow level unlisted narrow)
      · exact .inl (refresh_of_cvt usual broad found)

end StandardRequest

/-! ## Meeting a request -/

/-- The mode is what the request asks for, as lists are searched for it. -/
@[mk_iff]
structure Mode.Meets (mode : Mode) (request : StandardRequest) : Prop where
  width : mode.width = request.width
  height : mode.height = request.height
  refresh : mode.refresh = request.refresh

theorem hasSizeAndRefresh_iff_meets {modes : List Mode} {request : StandardRequest} :
    hasSizeAndRefresh modes request.width request.height request.refresh = true ↔
      ∃ mode ∈ modes, mode.Meets request := by
  simp only [hasSizeAndRefresh, List.any_eq_true, Bool.and_eq_true, beq_iff_eq, Mode.meets_iff,
    and_assoc]

/-- Of a mode that answers a request only the rate is in question. -/
theorem StandardRequest.Answer.meets_iff {request : StandardRequest} {context : TimingContext}
    {mode : Mode} (answer : request.Answer context mode) (usual : request.Usual) :
    mode.Meets request ↔ mode.refresh = request.refresh := by
  obtain ⟨width, height⟩ := answer.size usual
  exact ⟨Mode.Meets.refresh, fun refresh => ⟨width, height, refresh⟩⟩

/-! ## Codes in a row -/

open StandardRequest

variable {blob : Blob} {context : TimingContext}

theorem standardMode?_eq_some_iff {code : Byte × Byte} {modes : List Mode} {mode : Mode} :
    standardMode? code context modes = some mode ↔
      ∃ request, ofCode? code context.revision = some request ∧
        (∀ listed ∈ modes, ¬ listed.Meets request) ∧ request.mode? context = some mode := by
  rw [standardMode?, Option.bind_eq_some_iff]
  refine exists_congr fun request => and_congr_right fun _ => ?_
  split
  · next met =>
      obtain ⟨listed, member, meets⟩ := hasSizeAndRefresh_iff_meets.mp met
      exact iff_of_false (Option.some_ne_none mode).symm fun answered =>
        answered.1 listed member meets
  · next unmet =>
      rw [hasSizeAndRefresh_iff_meets] at unmet
      exact (and_iff_right fun listed member meets => unmet ⟨listed, member, meets⟩).symm

/-- What codes add to a list: each mode answers the request of a code that no mode before it met. -/
inductive Standardized (blob : Blob) (context : TimingContext) (first : List Mode) :
    List (StandardRequest × Mode) → Prop where
  | start : Standardized blob context first []
  | add {added : List (StandardRequest × Mode)} {code : Byte × Byte} {request : StandardRequest}
      {mode : Mode} : Standardized blob context first added → code ∈ standardCodes blob →
      ofCode? code context.revision = some request →
      (∀ listed ∈ first ++ added.map (·.2), ¬ listed.Meets request) →
      request.mode? context = some mode →
      Standardized blob context first (added ++ [(request, mode)])

theorem exists_standardized_addStandardModes (blob : Blob) (context : TimingContext)
    (first : List Mode) :
    ∃ added, Standardized blob context first added ∧
      addStandardModes blob context first = first ++ added.map (·.2) := by
  refine List.foldlRecOn (motive := fun modes => ∃ added, Standardized blob context first added ∧
    modes = first ++ added.map (·.2)) _ _ ⟨[], .start, (List.append_nil first).symm⟩ ?_
  rintro _ ⟨added, standardized, rfl⟩ code listed
  cases found : standardMode? code context (first ++ added.map (·.2)) with
  | none => exact ⟨added, standardized, List.append_nil _⟩
  | some mode =>
      obtain ⟨request, read, unmet, answered⟩ := standardMode?_eq_some_iff.mp found
      refine ⟨_, standardized.add listed read unmet answered, ?_⟩
      rw [List.map_append, ← List.append_assoc]
      rfl

namespace Standardized

variable {first : List Mode} {added : List (StandardRequest × Mode)}

theorem asked (standardized : Standardized blob context first added) :
    ∀ pair ∈ added, (∃ code ∈ standardCodes blob, ofCode? code context.revision = some pair.1) ∧
      pair.1.mode? context = some pair.2 := by
  induction standardized with
  | start => exact List.forall_mem_nil _
  | add _ listed read _ answered ih =>
      exact List.forall_mem_append.mpr
        ⟨ih, List.forall_mem_singleton.mpr ⟨⟨_, listed, read⟩, answered⟩⟩

theorem pairwise (standardized : Standardized blob context first added) :
    added.Pairwise fun earlier later => ¬ earlier.2.Meets later.1 := by
  induction standardized with
  | start => exact .nil
  | add _ _ _ unmet _ ih =>
      refine List.pairwise_append.mpr ⟨ih, List.pairwise_singleton _ _, fun earlier before => ?_⟩
      refine List.forall_mem_singleton.mpr (unmet _ ?_)
      exact List.mem_append_right first (List.mem_map_of_mem before)

end Standardized

/-- A code whose mode runs at the rate that was asked for adds nothing when it comes again, and any
other adds its mode once more, which happens only where a formula is coarse. So of two modes that
were added for one size and rate, the earlier runs at another rate than that. -/
theorem standardModes_again (blob : Blob) (context : TimingContext) (modes : List Mode) :
    (∀ code mode, standardMode? code context modes = some mode →
      ∃ request, ofCode? code context.revision = some request ∧
        mode.width = request.width ∧ mode.height = request.height ∧
        (mode.refresh = request.refresh → standardMode? code context (modes ++ [mode]) = none) ∧
        (mode.refresh ≠ request.refresh →
          standardMode? code context (modes ++ [mode]) = some mode ∧
            request.Coarse context mode)) ∧
      ∃ added : List (StandardRequest × Mode),
        addStandardModes blob context modes = modes ++ added.map (·.2) ∧
        (∀ pair ∈ added,
          (∃ code ∈ standardCodes blob, ofCode? code context.revision = some pair.1) ∧
            pair.1.mode? context = some pair.2 ∧
            pair.2.width = pair.1.width ∧ pair.2.height = pair.1.height) ∧
        added.Pairwise fun earlier later => earlier.1 = later.1 →
          earlier.2.refresh ≠ earlier.1.refresh ∧ earlier.1.Coarse context earlier.2 := by
  constructor
  · intro code mode found
    obtain ⟨request, read, unmet, answered⟩ := standardMode?_eq_some_iff.mp found
    have usual := usual_ofCode? read
    have answer := answer_of_mode? answered
    obtain ⟨width, height⟩ := answer.size usual
    refine ⟨request, read, width, height, fun same => ?_, fun other => ⟨?_, ?_⟩⟩
    · refine Option.eq_none_iff_forall_ne_some.mpr fun again repeated => ?_
      obtain ⟨_, reread, unmet, _⟩ := standardMode?_eq_some_iff.mp repeated
      cases read.symm.trans reread
      have listed := List.mem_append_right modes (List.mem_singleton_self mode)
      exact unmet mode listed ((answer.meets_iff usual).mpr same)
    · refine standardMode?_eq_some_iff.mpr ⟨request, read, ?_, answered⟩
      exact List.forall_mem_append.mpr
        ⟨unmet, List.forall_mem_singleton.mpr fun meets => other meets.refresh⟩
    · exact (answer.refresh usual).resolve_left other
  · obtain ⟨added, standardized, appended⟩ :=
      exists_standardized_addStandardModes blob context modes
    have each : ∀ pair ∈ added, pair.1.Usual ∧ pair.1.Answer context pair.2 := by
      intro pair member
      obtain ⟨⟨_, _, read⟩, answered⟩ := standardized.asked pair member
      exact ⟨usual_ofCode? read, answer_of_mode? answered⟩
    refine ⟨added, appended, fun pair member => ?_, ?_⟩
    · obtain ⟨asked, answered⟩ := standardized.asked pair member
      obtain ⟨usual, answer⟩ := each pair member
      exact ⟨asked, answered, answer.size usual⟩
    · refine standardized.pairwise.imp_of_mem fun {earlier later} member _ unmet same => ?_
      obtain ⟨usual, answer⟩ := each earlier member
      rw [← same, answer.meets_iff usual] at unmet
      exact ⟨unmet, (answer.refresh usual).resolve_left unmet⟩

/-- A display of continuous frequency that asks for 720 by 450 pixels at 60 Hz twice. -/
def signboard : Blob where
  base := Vector.ofFn fun position =>
    (Block.header.toList ++ List.replicate 10 0 ++ [1, 4, 0x80, 0, 0, 0, 1] ++
      List.replicate 13 0 ++ [0x3b, 0, 0x3b, 0] ++ List.replicate 12 1 ++ List.replicate 73 0 ++
      [0xfe]).getD position.val 0
  extensions := []
  count_eq := by decide +kernel

theorem parse_signboard :
    parse .standard signboard.toBytes = .ok (Display.ofBlob signboard false) :=
  parse_of_isValid (by decide +kernel) (by decide +kernel)

/-- The formula gives 59 Hz, so the second code finds no mode at 60 Hz in the list. -/
theorem signboard_repeats_mode :
    ∃ display, parse .standard signboard.toBytes = .ok display ∧
      ∃ mode, display.modes = [mode, mode] ∧ mode.refresh = 59 ∧
        StandardRequest.ofCode? (0x3b, 0) 4 = some ⟨720, 450, 60⟩ ∧
        standardMode? (0x3b, 0) (TimingContext.ofBlob signboard) [] = some mode ∧
        standardMode? (0x3b, 0) (TimingContext.ofBlob signboard) [mode] = some mode := by
  refine ⟨_, parse_signboard, ?_⟩
  refine ⟨.timing 25000 ⟨720, 744, 808, 896⟩ ⟨450, 453, 459, 469⟩ .negativePositive, ?_⟩
  decide +kernel

end Edid
