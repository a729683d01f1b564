import Edid.Formula.Cvt
import Edid.Proofs.Machine.Mode

/-!
# Coordinated video timings in machine words

The formula runs in signed words of 64 bits. Two of its differences can be negative; all other
numbers are held against zero as well, which is more than a signed word asks for.
-/

set_option autoImplicit false

namespace Edid

/-- A request in machine words: 16 bits for a size and 32 for a rate. -/
structure Formula.Request.Fits (request : Formula.Request) : Prop where
  width : request.width < 0x10000
  height : request.height < 0x10000
  refresh : request.refresh < 0x100000000

/-- What a frame of a request in machine words stays below. -/
structure Cvt.Frame.Small (frame : Cvt.Frame) : Prop where
  fieldRate : frame.fieldRate < 0x200000000
  interlace : frame.interlace ≤ 1
  activeWidth : frame.activeWidth < 70000
  fieldLines : frame.fieldLines < 70000
  activeLines : frame.activeLines < 70000
  syncLines : frame.syncLines ≤ 10

namespace Cvt

open Formula Machine

def checkedPulseLines (width height : Nat) : Checked Nat := do
  let ratio (numerator denominator : Nat) : Checked Nat := do
    return (← i63 (height * numerator)) / denominator
  if height % 3 = 0 ∧ (← ratio 4 3) = width then return 4
  else if height % 9 = 0 ∧ (← ratio 16 9) = width then return 5
  else if height % 10 = 0 ∧ (← ratio 16 10) = width then return 6
  else if height % 4 = 0 ∧ (← ratio 5 4) = width then return 7
  else if height % 9 = 0 ∧ (← ratio 15 9) = width then return 7
  else return 10

def Frame.checkedOfRequest (request : Request) : Checked Frame := do
  let refresh := if request.refresh = 0 then 60 else request.refresh
  let fieldRate ← if request.interlaced then i63 (refresh * 2) else pure refresh
  let width ← minus request.width (request.width % 8)
  let margin ←
    if request.margins then
      let wide := (← i63 (width * 18)) / 1000
      minus wide (wide % 8)
    else
      pure 0
  let activeWidth ← i63 (width + (← i63 (2 * margin)))
  let fieldHeight := if request.interlaced then request.height / 2 else request.height
  let marginLines ←
    if request.margins then pure ((← i63 (fieldHeight * 18)) / 1000) else pure 0
  let fieldLines ← i63 (fieldHeight + (← i63 (2 * marginLines)))
  let activeLines ← i63 (request.height + (← i63 (2 * marginLines)))
  let syncLines ← checkedPulseLines request.width request.height
  return {
    fieldRate := fieldRate
    interlace := if request.interlaced then 1 else 0
    activeWidth := activeWidth
    fieldLines := fieldLines
    activeLines := activeLines
    syncLines := syncLines }

def Frame.checkedOrdinary? (frame : Frame) : Checked (Option Blanking) := do
  let available ← i64 (1000000000 - (← i63 (550 * 1000 * frame.fieldRate) : Nat))
  let doubled ← i63 ((← i63 (frame.fieldLines + 3)) * 2)
  let halfLines ← i63 ((← i63 (doubled + frame.interlace)) * frame.fieldRate)
  if available ≤ 0 ∨ halfLines = 0 then
    return none
  else
    let period ← divided (← i63 (available.toNat * 2)) halfLines
    if period = 0 then
      return none
    else
      let least ← i63 ((← divided (550 * 1000) period) + 1)
      let syncAndBack := max least (← i63 (frame.syncLines + 3))
      let fieldTotal ← i63 ((← i63 (frame.fieldLines + syncAndBack)) + 3)
      let slope := (← i63 (300 * period)) / 1000
      let share := (max (← i64 (30 * 1000 - (slope : Nat))) (20 * 1000)).toNat
      let rest ← minus (100 * 1000) share
      let wideBlank ← divided (← i63 (frame.activeWidth * share)) rest
      let blank ← minus wideBlank (wideBlank % 16)
      let total ← i63 (frame.activeWidth + blank)
      let syncEnd ← i63 (frame.activeWidth + blank / 2)
      let earliest ← minus syncEnd ((← i63 (total * 8)) / 100)
      let syncStart ← i63 (earliest + (← minus 8 (earliest % 8)))
      return some {
        period := period
        syncStart := syncStart
        syncEnd := syncEnd
        total := total
        fieldTotal := fieldTotal }

def Frame.checkedReduced? (frame : Frame) : Checked (Option Blanking) := do
  let available ← i64 (1000000000 - (← i63 (460 * 1000 * frame.fieldRate) : Nat))
  let lines ← i63 (frame.fieldLines * frame.fieldRate)
  if available ≤ 0 ∨ lines = 0 then
    return none
  else
    let period ← divided available.toNat lines
    if period = 0 then
      return none
    else
      let least ← i63 ((← divided (460 * 1000) period) + 1)
      let blankLines := max least (← i63 ((← i63 (3 + frame.syncLines)) + 6))
      let fieldTotal ← i63 (frame.fieldLines + blankLines)
      let total ← i63 (frame.activeWidth + 160)
      let syncEnd ← i63 (frame.activeWidth + 80)
      let syncStart ← minus syncEnd 32
      return some {
        period := period
        syncStart := syncStart
        syncEnd := syncEnd
        total := total
        fieldTotal := fieldTotal }

def Blanking.checkedClock (blanking : Blanking) : Checked Nat := do
  let exact ← divided (← i63 (blanking.total * 1000000)) blanking.period
  minus exact (exact % 250)

/-- The mode for a frame and its blanking. -/
def Blanking.mode? (blanking : Blanking) (frame : Frame) (interlaced : Bool)
    (polarities : Flags) : Option Mode := do
  let clock ← narrow? clockBound blanking.clock
  let horizontal ←
    narrowAxis? frame.activeWidth blanking.syncStart blanking.syncEnd blanking.total
  let vertical ←
    narrowAxis? frame.activeLines (frame.activeLines + 3)
      (frame.activeLines + 3 + frame.syncLines)
      (if interlaced then blanking.fieldTotal * 2 else blanking.fieldTotal)
  some {
    clock := clock
    horizontal := horizontal
    vertical := vertical
    flags := { polarities with interlaced := interlaced } }

theorem mode?_eq_bind (request : Request) (reduced : Bool) :
    mode? request reduced =
      if request.width = 0 ∨ request.height = 0 then none
      else
        (if reduced then (Frame.ofRequest request).reduced?
          else (Frame.ofRequest request).ordinary?).bind fun blanking =>
            blanking.mode? (Frame.ofRequest request) request.interlaced
              (if reduced then Flags.positiveNegative else Flags.negativePositive) := by
  cases reduced <;> rfl

def Blanking.checkedMode? (blanking : Blanking) (frame : Frame) (interlaced : Bool)
    (polarities : Flags) : Checked (Option Mode) := do
  let clock ← blanking.checkedClock
  let syncStart ← i63 (frame.activeLines + 3)
  let syncEnd ← i63 (syncStart + frame.syncLines)
  let total ← (if interlaced then i63 (blanking.fieldTotal * 2) else pure blanking.fieldTotal)
  return do
    let clock ← narrow? clockBound clock
    let horizontal ←
      narrowAxis? frame.activeWidth blanking.syncStart blanking.syncEnd blanking.total
    let vertical ← narrowAxis? frame.activeLines syncStart syncEnd total
    some {
      clock := clock
      horizontal := horizontal
      vertical := vertical
      flags := { polarities with interlaced := interlaced } }

def checkedMode? (request : Request) (reduced : Bool) : Checked (Option Mode) := do
  if request.width = 0 ∨ request.height = 0 then
    return none
  else
    let frame ← Frame.checkedOfRequest request
    let blanking? ← (if reduced then frame.checkedReduced? else frame.checkedOrdinary?)
    match blanking? with
    | none => return none
    | some blanking =>
        blanking.checkedMode? frame request.interlaced
          (if reduced then Flags.positiveNegative else Flags.negativePositive)

section Frames

theorem pulseLines_le (width height : Nat) : pulseLines width height ≤ 10 := by
  unfold pulseLines
  repeat' split
  all_goals decide

theorem checkedPulseLines_eq {width height : Nat} (small : height < 0x10000) :
    checkedPulseLines width height = .ok (pulseLines width height) := by
  simp (disch := omega) only [checkedPulseLines, pulseLines, below_eq, ok_bind, pure_eq]
  repeat' split
  all_goals rfl

theorem Frame.checkedOfRequest_eq {request : Request} (fits : request.Fits) :
    Frame.checkedOfRequest request = .ok (Frame.ofRequest request) := by
  obtain ⟨width, height, refresh⟩ := fits
  have rate : (if request.refresh = 0 then 60 else request.refresh) < 0x100000000 := by
    split <;> omega
  simp only [Frame.checkedOfRequest, Frame.ofRequest, checkedPulseLines_eq height]
  generalize (if request.refresh = 0 then 60 else request.refresh) = rate at rate
  cases request.interlaced <;> cases request.margins <;>
    simp (disch := omega) [below_eq, minus_eq]

theorem Frame.small_ofRequest {request : Request} (fits : request.Fits) :
    (Frame.ofRequest request).Small := by
  obtain ⟨width, height, refresh⟩ := fits
  have pulse := pulseLines_le request.width request.height
  have rate : (if request.refresh = 0 then 60 else request.refresh) < 0x100000000 := by
    split <;> omega
  simp only [Frame.ofRequest]
  generalize (if request.refresh = 0 then 60 else request.refresh) = rate at rate
  cases request.interlaced <;> cases request.margins <;>
    simp only [if_true, if_false, Bool.false_eq_true] <;> constructor <;> dsimp only <;> omega

end Frames

section Blankings

theorem Frame.checkedOrdinary?_eq {frame : Frame} (small : frame.Small) :
    frame.checkedOrdinary? = .ok frame.ordinary? := by
  obtain ⟨fieldRate, interlace, activeWidth, fieldLines, activeLines, syncLines⟩ := small
  have product : ((frame.fieldLines + 3) * 2 + frame.interlace) * frame.fieldRate <
      140007 * 0x200000000 := Nat.mul_lt_mul_of_lt_of_lt (by omega) fieldRate
  simp only [ordinary?]
  unfold checkedOrdinary?
  refine below_bind (by omega) (within_bind (by omega) ?_)
  refine below_bind (by omega) (below_bind (by omega) ?_)
  refine below_bind (by omega) (below_bind (by omega) ?_)
  generalize ((frame.fieldLines + 3) * 2 + frame.interlace) * frame.fieldRate = halfLines
  by_cases none : 1000000000 - 550 * 1000 * frame.fieldRate = 0 ∨ halfLines = 0
  · rw [if_pos none, if_pos (by omega), pure_eq]
  · have available : (1000000000 - (550 * 1000 * frame.fieldRate : Nat) : Int).toNat =
        1000000000 - 550 * 1000 * frame.fieldRate := by omega
    rw [if_neg none, if_neg (by omega), available]
    refine below_bind (by omega) (divided_bind (by omega) ?_)
    have period := Nat.div_le_self ((1000000000 - 550 * 1000 * frame.fieldRate) * 2) halfLines
    generalize (1000000000 - 550 * 1000 * frame.fieldRate) * 2 / halfLines = line at period ⊢
    by_cases instant : line = 0
    · rw [if_pos instant, if_pos instant, pure_eq]
    · rw [if_neg instant, if_neg instant]
      have least := Nat.div_le_self (550 * 1000) line
      refine divided_bind instant (below_bind (by omega) ?_)
      refine below_bind (by omega) (below_bind (by omega) (below_bind (by omega) ?_))
      refine below_bind (by omega) (within_bind (by omega) ?_)
      have share : (max (30 * 1000 - (300 * line / 1000 : Nat) : Int) (20 * 1000)).toNat =
          max (30 * 1000 - 300 * line / 1000) (20 * 1000) := by omega
      have shareLe : max (30 * 1000 - 300 * line / 1000) (20 * 1000) ≤ 30000 := by omega
      rw [share]
      generalize max (30 * 1000 - 300 * line / 1000) (20 * 1000) = share at shareLe ⊢
      have blank : frame.activeWidth * share < 70000 * 30001 :=
        Nat.mul_lt_mul_of_lt_of_lt activeWidth (by omega)
      have blankLe := Nat.div_le_self (frame.activeWidth * share) (100 * 1000 - share)
      refine minus_bind (by omega) (below_bind (by omega) (divided_bind (by omega) ?_))
      generalize frame.activeWidth * share / (100 * 1000 - share) = wideBlank at blankLe ⊢
      refine minus_bind (by omega) (below_bind (by omega) (below_bind (by omega) ?_))
      refine below_bind (by omega) (minus_bind (by omega) ?_)
      refine minus_bind (by omega) (below_bind (by omega) ?_)
      rw [pure_eq]
      congr 3
      omega

theorem Frame.checkedReduced?_eq {frame : Frame} (small : frame.Small) :
    frame.checkedReduced? = .ok frame.reduced? := by
  obtain ⟨fieldRate, interlace, activeWidth, fieldLines, activeLines, syncLines⟩ := small
  have product : frame.fieldLines * frame.fieldRate < 70000 * 0x200000000 :=
    Nat.mul_lt_mul_of_lt_of_lt fieldLines fieldRate
  simp only [reduced?]
  unfold checkedReduced?
  refine below_bind (by omega) (within_bind (by omega) (below_bind (by omega) ?_))
  generalize frame.fieldLines * frame.fieldRate = lines
  by_cases none : 1000000000 - 460 * 1000 * frame.fieldRate = 0 ∨ lines = 0
  · rw [if_pos none, if_pos (by omega), pure_eq]
  · have available : (1000000000 - (460 * 1000 * frame.fieldRate : Nat) : Int).toNat =
        1000000000 - 460 * 1000 * frame.fieldRate := by omega
    rw [if_neg none, if_neg (by omega), available]
    refine divided_bind (by omega) ?_
    generalize (1000000000 - 460 * 1000 * frame.fieldRate) / lines = line
    by_cases instant : line = 0
    · rw [if_pos instant, if_pos instant, pure_eq]
    · rw [if_neg instant, if_neg instant]
      have least := Nat.div_le_self (460 * 1000) line
      refine divided_bind instant (below_bind (by omega) ?_)
      refine below_bind (by omega) (below_bind (by omega) (below_bind (by omega) ?_))
      refine below_bind (by omega) (below_bind (by omega) (minus_bind (by omega) ?_))
      rw [pure_eq, Nat.add_sub_assoc (by decide)]

/-- What a blanking rule finds for a small frame. -/
structure Blanking.Small (blanking : Blanking) : Prop where
  period : blanking.period ≠ 0
  total : blanking.total < 200000
  fieldTotal : blanking.fieldTotal < 1000000

theorem Frame.small_ordinary? {frame : Frame} (small : frame.Small) {blanking : Blanking}
    (found : frame.ordinary? = some blanking) : blanking.Small := by
  obtain ⟨_, _, activeWidth, fieldLines, _, syncLines⟩ := small
  simp only [ordinary?] at found
  split at found
  · contradiction
  · split at found
    · contradiction
    · next instant =>
        cases found
        generalize (1000000000 - 550 * 1000 * frame.fieldRate) * 2 /
          (((frame.fieldLines + 3) * 2 + frame.interlace) * frame.fieldRate) = line at instant
        have least := Nat.div_le_self (550 * 1000) line
        have shareLe : max (30 * 1000 - 300 * line / 1000) (20 * 1000) ≤ 30000 := by omega
        generalize max (30 * 1000 - 300 * line / 1000) (20 * 1000) = share at shareLe
        have blank : frame.activeWidth * share / (100 * 1000 - share) ≤
            frame.activeWidth * 30000 / 70000 :=
          Nat.div_le_div (Nat.mul_le_mul_left _ shareLe) (by omega) (by decide)
        refine ⟨instant, ?_, ?_⟩ <;> dsimp only <;> omega

theorem Frame.small_reduced? {frame : Frame} (small : frame.Small) {blanking : Blanking}
    (found : frame.reduced? = some blanking) : blanking.Small := by
  obtain ⟨_, _, activeWidth, fieldLines, _, syncLines⟩ := small
  simp only [reduced?] at found
  split at found
  · contradiction
  · split at found
    · contradiction
    · next instant =>
        cases found
        have least := Nat.div_le_self (460 * 1000)
          ((1000000000 - 460 * 1000 * frame.fieldRate) / (frame.fieldLines * frame.fieldRate))
        exact ⟨instant, by dsimp only; omega, by dsimp only; omega⟩

theorem Blanking.checkedClock_eq {blanking : Blanking} (small : blanking.Small) :
    blanking.checkedClock = .ok blanking.clock := by
  have total := small.total
  unfold checkedClock
  refine below_bind (by omega) (divided_bind small.period ?_)
  exact minus_eq (Nat.mod_le _ _)

end Blankings

section Modes

theorem Blanking.checkedMode?_eq {frame : Frame} {blanking : Blanking} (smallFrame : frame.Small)
    (small : blanking.Small) (interlaced : Bool) (polarities : Flags) :
    blanking.checkedMode? frame interlaced polarities =
      .ok (blanking.mode? frame interlaced polarities) := by
  have activeLines := smallFrame.activeLines
  have syncLines := smallFrame.syncLines
  have fieldTotal := small.fieldTotal
  refine ok_step (checkedClock_eq small) ?_
  refine below_bind (by omega) (below_bind (by omega) ?_)
  cases interlaced with
  | false =>
      simp only [Bool.false_eq_true, if_false, pure_eq, ok_bind, Int.natCast_add]
      rfl
  | true =>
      refine below_bind (by omega) ?_
      simp only [pure_eq, Int.natCast_add, Int.natCast_mul]
      rfl

theorem checkedMode?_eq {request : Request} (fits : request.Fits) (reduced : Bool) :
    checkedMode? request reduced = .ok (mode? request reduced) := by
  have small := Frame.small_ofRequest fits
  rw [mode?_eq_bind]
  unfold checkedMode?
  by_cases empty : request.width = 0 ∨ request.height = 0
  · rw [if_pos empty, if_pos empty, pure_eq]
  · rw [if_neg empty, if_neg empty]
    refine ok_step (Frame.checkedOfRequest_eq fits) ?_
    generalize Frame.ofRequest request = frame at small
    have blanking? : (if reduced then frame.checkedReduced? else frame.checkedOrdinary?) =
        .ok (if reduced then frame.reduced? else frame.ordinary?) := by
      cases reduced with
      | false => exact frame.checkedOrdinary?_eq small
      | true => exact frame.checkedReduced?_eq small
    have smallBlanking (blanking : Blanking)
        (found : (if reduced then frame.reduced? else frame.ordinary?) = some blanking) :
        blanking.Small := by
      cases reduced with
      | false => exact frame.small_ordinary? small found
      | true => exact frame.small_reduced? small found
    refine ok_step blanking? ?_
    generalize (if reduced then frame.reduced? else frame.ordinary?) = found at smallBlanking
    cases found with
    | none => rfl
    | some blanking =>
        rw [Option.bind_some]
        exact Blanking.checkedMode?_eq small (smallBlanking blanking rfl) _ _

theorem fits_mode? {request : Request} {reduced : Bool} {mode : Mode}
    (found : mode? request reduced = some mode) : mode.Fits := by
  rw [mode?_eq_bind] at found
  split at found
  · contradiction
  · obtain ⟨blanking, _, found⟩ := Option.bind_eq_some_iff.mp found
    simp only [Blanking.mode?, bind, Option.bind_eq_some_iff] at found
    obtain ⟨_, clock, _, horizontal, _, vertical, same⟩ := found
    cases same
    exact ⟨narrow?_lt clock, fits_narrowAxis? horizontal, fits_narrowAxis? vertical⟩

end Modes

end Cvt

end Edid
