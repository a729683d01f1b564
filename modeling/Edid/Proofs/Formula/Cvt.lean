import Mathlib.Tactic.Linarith
import Mathlib.Tactic.Ring
import Edid.Proofs.Formula.Rounding
import Edid.Proofs.Machine.Cvt

/-!
# What the coordinated video timings give

A mode of this formula comes from its line period. Whole lines of vertical blanking and whole steps
of 250 kHz make it slower than it was asked to be: by the rate over the lines of a frame, and by
250000 over the pixels of a frame. In a large frame that is less than half a frame a second.
-/

set_option autoImplicit false

namespace Edid.Cvt

open Formula

/-- How a mode follows from a request and the blanking found for it. -/
structure Yields (request : Request) (reduced : Bool) (blanking : Blanking) (mode : Mode) :
    Prop where
  blanking_eq : (if reduced then (Frame.ofRequest request).reduced?
    else (Frame.ofRequest request).ordinary?) = some blanking
  width : mode.width = (Frame.ofRequest request).activeWidth
  syncStart : mode.horizontal.syncStart = blanking.syncStart
  syncEnd : mode.horizontal.syncEnd = blanking.syncEnd
  total : mode.horizontal.total = blanking.total
  height : mode.height = (Frame.ofRequest request).activeLines
  pulseStart : mode.vertical.syncStart = mode.height + 3
  pulseEnd : mode.vertical.syncEnd = mode.height + 3 + (Frame.ofRequest request).syncLines
  lines : mode.vertical.total =
    if request.interlaced then blanking.fieldTotal * 2 else blanking.fieldTotal
  clock : mode.clock = blanking.clock
  interlaced : mode.flags.interlaced = request.interlaced
  doubleScan : mode.flags.doubleScan = false

theorem exists_yields_of_mode? {request : Request} {reduced : Bool} {mode : Mode}
    (found : mode? request reduced = some mode) :
    ∃ blanking, Yields request reduced blanking mode := by
  rw [mode?_eq_bind] at found
  split at found
  · contradiction
  · obtain ⟨blanking, blanked, found⟩ := Option.bind_eq_some_iff.mp found
    simp only [Blanking.mode?, bind, Option.bind_eq_some_iff] at found
    obtain ⟨clock, clocked, horizontal, across, vertical, down, same⟩ := found
    cases same
    obtain ⟨width, syncStart, syncEnd, total⟩ := edges_narrowAxis? across
    obtain ⟨height, pulseStart, pulseEnd, lines⟩ := edges_narrowAxis? down
    have exact := (narrow?_eq_some_iff.mp clocked).1
    exact ⟨blanking, {
      blanking_eq := blanked
      width := (Int.ofNat_inj.mp width).symm
      syncStart := (Int.ofNat_inj.mp syncStart).symm
      syncEnd := (Int.ofNat_inj.mp syncEnd).symm
      total := (Int.ofNat_inj.mp total).symm
      height := (Int.ofNat_inj.mp height).symm
      pulseStart := by
        rw [← Int.ofNat_inj, ← pulseStart, height]
        rfl
      pulseEnd := by
        rw [← Int.ofNat_inj, ← pulseEnd, height]
        rfl
      lines := by
        rw [← Int.ofNat_inj, ← lines]
        split <;> rfl
      clock := (Int.ofNat_inj.mp exact).symm
      interlaced := rfl
      doubleScan := by cases reduced <;> rfl }⟩

/-! ## Ordinary blanking -/

/-- The clock is rounded down by less than a quarter of a megahertz. -/
theorem Blanking.clock_bounds {blanking : Blanking} (positive : 0 < blanking.period) :
    blanking.clock * blanking.period ≤ blanking.total * 1000000 ∧
      blanking.total * 1000000 < (blanking.clock + 250) * blanking.period := by
  have down := Nat.div_mul_le_self (blanking.total * 1000000) blanking.period
  have up := Nat.lt_mul_div_succ (blanking.total * 1000000) positive
  rw [Nat.mul_comm blanking.period] at up
  rw [clock]
  constructor
  · exact (Nat.mul_le_mul_right _ (Nat.sub_le _ _)).trans down
  · exact up.trans_le (Nat.mul_le_mul_right _ (by omega))

/-- What ordinary blanking finds, with so many cells of eight pixels on either side of the end of the
pulse. The pulse takes eight percent of the line and begins with a cell, behind where that share of
it would. -/
structure OrdinaryBlanking (frame : Frame) (blanking : Blanking) (cells : Nat) : Prop where
  syncStart : blanking.syncStart = (blanking.syncEnd - blanking.total * 8 / 100) / 8 * 8 + 8
  syncEnd : blanking.syncEnd = frame.activeWidth + 8 * cells
  total : blanking.total = frame.activeWidth + 16 * cells
  /-- A fifth of the line is blank, up to the rounding to sixteen pixels. -/
  least : frame.activeWidth ≤ 64 * cells + 63
  /-- Not more than three tenths of the line are blank. -/
  most : 112 * cells ≤ 3 * frame.activeWidth
  lines : frame.fieldLines + 3 + frame.syncLines + 3 ≤ blanking.fieldTotal

theorem exists_ordinaryBlanking {frame : Frame} {blanking : Blanking}
    (found : frame.ordinary? = some blanking) :
    ∃ cells, OrdinaryBlanking frame blanking cells := by
  simp only [Frame.ordinary?] at found
  split at found
  · contradiction
  · split at found
    · contradiction
    · cases found
      generalize 300 * _ / 1000 = slope
      generalize share_eq : max (30 * 1000 - slope) (20 * 1000) = share
      have fifth : frame.activeWidth * 20000 / 80000 ≤
          frame.activeWidth * share / (100 * 1000 - share) :=
        Nat.div_le_div (Nat.mul_le_mul_left _ (by omega)) (by omega) (by omega)
      have threeTenths : frame.activeWidth * share / (100 * 1000 - share) ≤
          frame.activeWidth * 30000 / 70000 :=
        Nat.div_le_div (Nat.mul_le_mul_left _ (by omega)) (by omega) (by decide)
      generalize frame.activeWidth * share / (100 * 1000 - share) = blank at fifth threeTenths
      exact ⟨blank / 16, by dsimp only; omega, by dsimp only; omega, by dsimp only; omega,
        by omega, by omega, by dsimp only; omega⟩

theorem le_total_of_ordinary? {frame : Frame} {blanking : Blanking}
    (found : frame.ordinary? = some blanking) :
    5 * frame.activeWidth ≤ 4 * blanking.total + 63 := by
  obtain ⟨cells, rule⟩ := exists_ordinaryBlanking found
  have total := rule.total
  have least := rule.least
  omega

/-- What fits gives a mode. -/
theorem Blanking.exists_mode? {blanking : Blanking} {frame : Frame} (polarities : Flags)
    (clock : blanking.clock < clockBound)
    (horizontal : Axis.Fits ⟨frame.activeWidth, blanking.syncStart, blanking.syncEnd,
      blanking.total⟩)
    (vertical : Axis.Fits ⟨frame.activeLines, frame.activeLines + 3,
      frame.activeLines + 3 + frame.syncLines, blanking.fieldTotal⟩) :
    ∃ mode, blanking.mode? frame false polarities = some mode := by
  have across := narrowAxis?_natCast horizontal
  have down := narrowAxis?_natCast vertical
  push_cast at down
  simp only [Blanking.mode?, narrow?_natCast clock, across, if_neg Bool.false_ne_true, down]
  exact ⟨_, rfl⟩

section Progressive

variable {request : Request} (progressive : request.Progressive)
include progressive

theorem Frame.ofRequest_progressive (running : request.refresh ≠ 0) :
    Frame.ofRequest request =
      { fieldRate := request.refresh
        interlace := 0
        activeWidth := request.width - request.width % 8
        fieldLines := request.height
        activeLines := request.height
        syncLines := pulseLines request.width request.height } := by
  simp [Frame.ofRequest, progressive.margins, progressive.interlaced, running]

theorem Yields.size {reduced : Bool} {blanking : Blanking} {mode : Mode}
    (yields : Yields request reduced blanking mode) (running : request.refresh ≠ 0) :
    mode.width = request.width - request.width % 8 ∧ mode.height = request.height := by
  have width := yields.width
  have height := yields.height
  rw [Frame.ofRequest_progressive progressive running] at width height
  exact ⟨width, height⟩

/-- The line period shares what is left of a second, and the lines follow from the period. -/
theorem ordinary_bounds {blanking : Blanking} (running : request.refresh ≠ 0)
    (found : (Frame.ofRequest request).ordinary? = some blanking) :
    0 < blanking.period ∧
      blanking.period * ((request.height + 3) * request.refresh) + 550000 * request.refresh ≤
        1000000000 ∧
      1000000000 < (blanking.period + 1) * ((request.height + 3) * request.refresh) +
        550000 * request.refresh ∧
      blanking.fieldTotal = request.height + max (550000 / blanking.period + 1)
        (pulseLines request.width request.height + 3) + 3 := by
  rw [Frame.ofRequest_progressive progressive running] at found
  simp only [Frame.ordinary?] at found
  split at found
  · contradiction
  · next time =>
      split at found
      · contradiction
      · next nonzero =>
          cases found
          have lines : ((request.height + 3) * 2 + 0) * request.refresh =
              (request.height + 3) * request.refresh * 2 := by ring
          rw [lines] at time nonzero ⊢
          rw [Nat.mul_div_mul_right _ _ (by decide)] at nonzero ⊢
          dsimp only
          generalize (request.height + 3) * request.refresh = rows at time nonzero ⊢
          generalize rest : 1000000000 - 550 * 1000 * request.refresh = available at time nonzero ⊢
          have low := Nat.div_mul_le_self available rows
          have high : available < (available / rows + 1) * rows :=
            lt_of_lt_of_eq (Nat.lt_mul_div_succ available (by omega)) (Nat.mul_comm _ _)
          exact ⟨Nat.pos_of_ne_zero nonzero, by omega, by omega, rfl⟩

theorem exists_ordinary? (running : request.refresh ≠ 0)
    (time : (request.height + 3) * request.refresh + 550000 * request.refresh ≤ 1000000000) :
    ∃ blanking, (Frame.ofRequest request).ordinary? = some blanking := by
  rw [Frame.ofRequest_progressive progressive running]
  simp only [Frame.ordinary?]
  have rows : ((request.height + 3) * 2 + 0) * request.refresh =
      2 * ((request.height + 3) * request.refresh) := by ring
  have positive : 0 < (request.height + 3) * request.refresh := Nat.mul_pos (by omega) (by omega)
  rw [rows]
  generalize (request.height + 3) * request.refresh = rows at time positive ⊢
  have period : 1 ≤ (1000000000 - 550 * 1000 * request.refresh) * 2 / (2 * rows) :=
    (Nat.le_div_iff_mul_le (by omega)).mpr (by omega)
  rw [if_neg (by omega), if_neg (by omega)]
  exact ⟨_, rfl⟩

section Pictures

/-! Pictures of up to 16384 pixels and 8192 lines, at up to 85 Hz, always have a mode. -/

variable (width : request.width ≤ 16384) (height : request.height ≤ 8192)
  (running : request.refresh ≠ 0) (usual : request.refresh ≤ 85)
include width height running usual

theorem bounds_of_ordinary? {blanking : Blanking}
    (found : (Frame.ofRequest request).ordinary? = some blanking) :
    blanking.clock < clockBound ∧ blanking.syncStart ≤ blanking.syncEnd + 8 ∧
      blanking.syncEnd ≤ blanking.total ∧ blanking.total < 32768 ∧
      blanking.fieldTotal < 32768 := by
  obtain ⟨positive, _, kept, lines⟩ := ordinary_bounds progressive running found
  obtain ⟨cells, rule⟩ := exists_ordinaryBlanking found
  have edges := And.intro rule.syncStart (And.intro rule.syncEnd rule.total)
  have most := rule.most
  rw [Frame.ofRequest_progressive progressive running] at edges most
  dsimp only at edges most
  have rows : (request.height + 3) * request.refresh ≤ 8195 * 85 :=
    Nat.mul_le_mul (by omega) usual
  have long : 100 ≤ blanking.period := by
    by_contra short
    have few := Nat.mul_le_mul (show blanking.period + 1 ≤ 100 by omega) rows
    omega
  have pulse := pulseLines_le request.width request.height
  have porch : 550000 / blanking.period ≤ 5500 :=
    Nat.div_le_of_le_mul (Nat.mul_le_mul_right 5500 long)
  have slow := (Blanking.clock_bounds positive).1
  have clock := Nat.mul_le_mul_left blanking.clock long
  refine ⟨?_, by omega, by omega, by omega, by omega⟩
  rw [clockBound]
  omega

theorem exists_mode? (nonempty : request.width ≠ 0 ∧ request.height ≠ 0) :
    ∃ mode, mode? request false = some mode := by
  have rows : (request.height + 3) * request.refresh ≤ 8195 * 85 :=
    Nat.mul_le_mul (by omega) usual
  obtain ⟨blanking, found⟩ := exists_ordinary? progressive running (by omega)
  obtain ⟨clock, syncStart, syncEnd, total, lines⟩ :=
    bounds_of_ordinary? progressive width height running usual found
  have pulse := pulseLines_le request.width request.height
  rw [mode?_eq_bind, if_neg (by omega), if_neg Bool.false_ne_true, found, Option.bind_some,
    Frame.ofRequest_progressive progressive running, progressive.interlaced]
  apply Blanking.exists_mode? _ clock
  · constructor <;> dsimp only <;> omega
  · constructor <;> dsimp only <;> omega

end Pictures

/-- In a large frame the least time of the vertical sync and back porch decides the lines. The lines
of a second then fill it, but for what rounding the period takes from each line of the picture and
what rounding the lines adds to each frame. -/
theorem near_fieldTotal {blanking : Blanking}
    (tall : 616 ≤ request.height ∧ request.height ≤ 2400)
    (usual : 60 ≤ request.refresh ∧ request.refresh ≤ 123)
    (found : (Frame.ofRequest request).ordinary? = some blanking) :
    2 * request.refresh ≤ blanking.period ∧ request.height + 3 ≤ blanking.fieldTotal ∧
      1000000000 < blanking.period * (request.refresh * blanking.fieldTotal) +
        (request.height + 3) * request.refresh ∧
      blanking.period * (request.refresh * blanking.fieldTotal) ≤
        1000000000 + blanking.period * request.refresh := by
  obtain ⟨positive, spent, kept, lines⟩ := ordinary_bounds progressive (by omega) found
  generalize blanking.period = period at positive spent kept lines ⊢
  generalize blanking.fieldTotal = fieldTotal at lines ⊢
  have few : (request.height + 3) * request.refresh ≤ 2403 * 123 :=
    Nat.mul_le_mul (by omega) usual.2
  have many : 619 * 60 ≤ (request.height + 3) * request.refresh :=
    Nat.mul_le_mul (by omega) usual.1
  have long := Nat.mul_le_mul_left (period + 1) few
  have short := Nat.mul_le_mul_left period many
  have pulse := pulseLines_le request.width request.height
  have porch : 13 ≤ 550000 / period := (Nat.le_div_iff_mul_le positive).mpr (by omega)
  rw [Nat.max_eq_left (by omega)] at lines
  have least := Nat.mul_le_mul_left request.refresh (Nat.mul_div_le 550000 period)
  have most := Nat.mul_lt_mul_of_pos_left (Nat.lt_mul_div_succ 550000 positive)
    (show 0 < request.refresh by omega)
  subst lines
  refine ⟨by omega, by omega, by linarith, by linarith⟩

/-- A large frame runs at the rate it was asked for. -/
theorem refresh_of_yields {blanking : Blanking} {mode : Mode}
    (yields : Yields request false blanking mode) (wide : 1096 ≤ request.width)
    (tall : 616 ≤ request.height ∧ request.height ≤ 2400)
    (usual : 60 ≤ request.refresh ∧ request.refresh ≤ 123) :
    mode.refresh = request.refresh := by
  obtain ⟨long, rows, above, below⟩ := near_fieldTotal progressive tall usual yields.blanking_eq
  obtain ⟨slow, fast⟩ := Blanking.clock_bounds (show 0 < blanking.period by omega)
  have line := le_total_of_ordinary? yields.blanking_eq
  rw [Frame.ofRequest_progressive progressive (by omega)] at line
  dsimp only at line
  have down := yields.lines
  rw [progressive.interlaced, if_neg Bool.false_ne_true] at down
  rw [← yields.clock, ← yields.total] at slow fast
  rw [← yields.total] at line
  rw [← down] at rows above below
  generalize blanking.period = period at long above below slow fast
  -- Half of all pixels outweigh what rounding the lines and the clock can cost.
  have frame : 1352 * 370 ≤ mode.horizontal.total * (mode.vertical.total - 2 * request.refresh) :=
    Nat.mul_le_mul (by omega) (by omega)
  rw [Nat.mul_sub, Nat.le_sub_iff_add_le (Nat.mul_le_mul_left _ (by omega))] at frame
  have picture : 2 * request.refresh * (request.height + 3) ≤ period * mode.vertical.total :=
    Nat.mul_le_mul long rows
  apply Mode.refresh_eq_of_between (yields.interlaced.trans progressive.interlaced)
    yields.doubleScan
  · exact Nat.mul_pos (by omega) (by omega)
  · omega
  · apply Nat.le_of_mul_le_mul_left _ (show 0 < period by omega)
    have lines := Nat.mul_le_mul_left mode.horizontal.total below
    have frame := Nat.mul_le_mul_left period frame
    linarith
  · apply Nat.lt_of_mul_lt_mul_left (a := period)
    have lines := Nat.mul_lt_mul_of_pos_left above (show 0 < mode.horizontal.total by omega)
    have picture := Nat.mul_le_mul_left mode.horizontal.total picture
    linarith

end Progressive

end Edid.Cvt
