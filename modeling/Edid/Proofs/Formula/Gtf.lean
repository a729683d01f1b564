import Mathlib.Tactic.Linarith
import Mathlib.Tactic.Ring
import Edid.Proofs.Formula.Rounding

/-!
# What the generalized timing formula gives

Every field of a mode that the formula gives comes from the line rate. The quotient behind the line
rate, the lines of the vertical blanking and the clock are each rounded, and for the sizes and rates
that displays ask for these losses together stay below half a frame a second.
-/

set_option autoImplicit false

namespace Edid.Gtf

open Formula

/-- How a mode follows from a request and a curve at a line rate. -/
structure Yields (request : Request) (curve : Curve) (lineRate : Nat) (mode : Mode) : Prop where
  lineRate_eq : (Frame.ofRequest request).lineRate? = some lineRate
  duty_lt : curve.duty lineRate < 100000
  width : mode.width = (Frame.ofRequest request).width
  syncStart : (mode.horizontal.syncStart : Int) + syncPixels mode.horizontal.total =
    mode.horizontal.syncEnd
  syncEnd : (mode.horizontal.syncEnd : Int) = (Frame.ofRequest request).width +
    (blankPixels (Frame.ofRequest request).activeWidth (curve.duty lineRate)).tdiv 2
  total : (mode.horizontal.total : Int) = (Frame.ofRequest request).activeWidth +
    blankPixels (Frame.ofRequest request).activeWidth (curve.duty lineRate)
  height : mode.height = (Frame.ofRequest request).height
  pulseStart : mode.vertical.syncStart = mode.height + 1
  pulseEnd : mode.vertical.syncEnd = mode.height + 4
  lines : mode.vertical.total = if request.interlaced then
    (Frame.ofRequest request).fieldTotal lineRate * 2
      else (Frame.ofRequest request).fieldTotal lineRate
  clock : mode.clock = mode.horizontal.total * lineRate / 1000
  interlaced : mode.flags.interlaced = request.interlaced
  doubleScan : mode.flags.doubleScan = false

theorem exists_yields_of_mode? {request : Request} {curve : Curve} {mode : Mode}
    (found : mode? request curve = some mode) : ∃ lineRate, Yields request curve lineRate mode := by
  rw [mode?] at found
  split at found
  · contradiction
  · obtain ⟨lineRate, rated, found⟩ := Option.bind_eq_some_iff.mp found
    split at found
    · contradiction
    · next part =>
        simp only [Frame.mode?, bind, Option.bind_eq_some_iff] at found
        obtain ⟨clock, clocked, horizontal, across, vertical, down, same⟩ := found
        cases same
        obtain ⟨width, syncStart, syncEnd, total⟩ := edges_narrowAxis? across
        obtain ⟨height, pulseStart, pulseEnd, lines⟩ := edges_narrowAxis? down
        rw [total, ← Int.natCast_mul, Int.natCast_tdiv_eq_ediv] at clocked
        rw [total] at syncStart syncEnd
        have clock := (narrow?_eq_some_iff.mp clocked).1
        exact ⟨lineRate, {
          lineRate_eq := rated
          duty_lt := Int.not_le.mp part
          width := (Int.ofNat_inj.mp width).symm
          syncStart := by
            dsimp only
            omega
          syncEnd := by
            dsimp only
            omega
          total := total.symm
          height := (Int.ofNat_inj.mp height).symm
          pulseStart := by
            dsimp only [Mode.height]
            omega
          pulseEnd := by
            dsimp only [Mode.height]
            omega
          lines := by
            rw [← Int.ofNat_inj, ← lines]
            split <;> rfl
          clock := by
            dsimp only
            omega
          interlaced := rfl
          doubleScan := by
            dsimp only
            split <;> rfl }⟩

/-! ## Lines of the default curve -/

section Blank

variable {activeWidth : Nat} {duty : Int}

/-- A duty below zero takes pixels away from the picture. It takes at most one of several equal parts
if the duty is so much smaller than the rest of the line. -/
theorem le_blankShare {parts : Nat} (moderate : -(parts * duty) ≤ 100000 - duty)
    (part : duty < 100000) :
    -(activeWidth : Int) ≤ parts * (activeWidth * duty).tdiv (100000 - duty) := by
  rcases Int.le_total 0 duty with positive | negative
  · have blank : 0 ≤ (activeWidth * duty).tdiv (100000 - duty) :=
      Int.tdiv_nonneg (Int.mul_nonneg (Int.natCast_nonneg _) positive) (by omega)
    have added := Int.mul_nonneg (Int.natCast_nonneg parts) blank
    omega
  · have scaled : ((parts * duty.natAbs : Nat) : Int) = -(parts * duty) := by
      rw [Int.natCast_mul, Int.ofNat_natAbs_of_nonpos negative, Int.mul_neg]
    have share : parts * (activeWidth * duty.natAbs) ≤ (100000 - duty).natAbs * activeWidth := by
      rw [Nat.mul_left_comm, Nat.mul_comm]
      exact Nat.mul_le_mul_right _ (by omega)
    have taken : ((activeWidth * duty).tdiv (100000 - duty)).natAbs =
        activeWidth * duty.natAbs / (100000 - duty).natAbs := by
      rw [Int.natAbs_tdiv, Int.natAbs_mul, Int.natAbs_natCast]
      rfl
    have most : (parts * (activeWidth * duty).tdiv (100000 - duty)).natAbs ≤ activeWidth := by
      rw [Int.natAbs_mul, Int.natAbs_natCast, taken]
      exact (Nat.mul_div_le_mul_div_assoc _ _ _).trans (Nat.div_le_of_le_mul share)
    omega

theorem le_blankPixels (moderate : -100000 ≤ duty) (part : duty < 100000) :
    -(activeWidth : Int) ≤ 2 * blankPixels activeWidth duty := by
  have share : -(activeWidth : Int) ≤ (2 : Nat) * (activeWidth * duty).tdiv (100000 - duty) :=
    le_blankShare (by omega) part
  rw [blankPixels]
  generalize (activeWidth * duty).tdiv (100000 - duty) = ideal at share
  rcases Int.le_total 0 (ideal + 8) with positive | negative
  · have rounded := Int.tdiv_nonneg positive (show (0 : Int) ≤ 16 by decide)
    omega
  · have rounded : ((ideal + 8).tdiv 16).natAbs = (ideal + 8).natAbs / 16 := Int.natAbs_tdiv _ 16
    omega

end Blank

theorem duty_standard (lineRate : Nat) :
    Curve.standard.duty lineRate = 30000 - (300000000 / lineRate : Nat) :=
  rfl

/-- At the line rates of common displays the default curve keeps more than half of the line. -/
theorem Yields.le_total {request : Request} {lineRate : Nat} {mode : Mode}
    (yields : Yields request Curve.standard lineRate mode) (fast : 8400 ≤ lineRate) :
    (Frame.ofRequest request).activeWidth ≤ 2 * mode.horizontal.total := by
  have slope : 300000000 / lineRate ≤ 300000000 / 8400 := Nat.div_le_div_left fast (by decide)
  have part := yields.duty_lt
  have moderate : -100000 ≤ Curve.standard.duty lineRate := by
    rw [duty_standard]
    omega
  have blank : -((Frame.ofRequest request).activeWidth : Int) ≤
      2 * blankPixels (Frame.ofRequest request).activeWidth (Curve.standard.duty lineRate) :=
    le_blankPixels moderate part
  have total := yields.total
  omega

/-! ## The rate of a mode -/

section Progressive

variable {request : Request} (progressive : request.Progressive)
include progressive

theorem Frame.ofRequest_progressive :
    Frame.ofRequest request =
      { fieldRate := request.refresh
        interlace := 0
        width := (request.width + 4) / 8 * 8
        activeWidth := (request.width + 4) / 8 * 8
        height := request.height
        fieldLines := request.height } := by
  simp [Frame.ofRequest, progressive.margins, progressive.interlaced]

/-- The line rate, between two quotients of what is left of a second. -/
theorem lineRate_bounds {lineRate : Nat} (slow : request.refresh ≤ 1000)
    (rated : (Frame.ofRequest request).lineRate? = some lineRate) :
    ∃ available, 500 * available + 550 * request.refresh ≤ 1000000 ∧
      1000000 < 500 * available + 550 * request.refresh + 500 ∧
      lineRate * available ≤ 2000 * ((request.height + 1) * request.refresh) ∧
      2000 * ((request.height + 1) * request.refresh) < (lineRate + 1) * available := by
  simp only [Frame.ofRequest_progressive progressive, Frame.lineRate?] at rated
  split at rated
  · contradiction
  · split at rated
    · contradiction
    · next nonzero _ =>
        cases rated
        have product : ((request.height + 1) * 2 + 0) * 1000 * request.refresh =
            2000 * ((request.height + 1) * request.refresh) := by ring
        rw [product]
        refine ⟨(1000000 - 550 * request.refresh) / 500, by omega, by omega,
          Nat.div_mul_le_self _ _, ?_⟩
        exact lt_of_lt_of_eq (Nat.lt_mul_div_succ _ (Nat.pos_of_ne_zero nonzero)) (Nat.mul_comm _ _)

/-- The line rate is that of the lines of a whole field, up to half a line in each. -/
theorem near_lineRate {lineRate : Nat} (slow : request.refresh ≤ 1000)
    (rated : (Frame.ofRequest request).lineRate? = some lineRate) {lines : Nat}
    (field : lines = (Frame.ofRequest request).fieldTotal lineRate) :
    1000000 * lineRate ≤
        1000000 * (request.refresh * lines) + 499999 * request.refresh + 500 * lineRate ∧
      1000000 * (request.refresh * lines) ≤
        1000000 * lineRate + 1000000 + 499450 * request.refresh := by
  obtain ⟨available, spent, kept, low, high⟩ := lineRate_bounds progressive slow rated
  rw [Frame.ofRequest_progressive progressive, Frame.fieldTotal] at field
  dsimp only at field
  generalize sync_eq : (550 * lineRate / 1000 + 500) / 1000 = sync at field
  have above : request.refresh * (550 * lineRate) ≤ request.refresh * (1000000 * sync + 499999) :=
    Nat.mul_le_mul_left _ (by omega)
  have below : request.refresh * (1000000 * sync) ≤ request.refresh * (550 * lineRate + 500000) :=
    Nat.mul_le_mul_left _ (by omega)
  have short : lineRate * 1000000 ≤ lineRate * (500 * available + 550 * request.refresh + 500) :=
    Nat.mul_le_mul_left _ kept.le
  have long : (lineRate + 1) * (500 * available + 550 * request.refresh) ≤
      (lineRate + 1) * 1000000 := Nat.mul_le_mul_left _ spent
  subst field
  constructor <;> linarith

/-- Sixty retraces leave 1934 half milliseconds of a second, and the lines of sixty pictures have to
fit there. -/
theorem lt_lineRate {lineRate : Nat} (usual : 60 ≤ request.refresh ∧ request.refresh ≤ 123)
    (rated : (Frame.ofRequest request).lineRate? = some lineRate) :
    120000 * (request.height + 1) < 1934 * (lineRate + 1) := by
  obtain ⟨available, spent, _, _, high⟩ := lineRate_bounds progressive (by omega) rated
  have picture : (request.height + 1) * 60 ≤ (request.height + 1) * request.refresh :=
    Nat.mul_le_mul_left _ usual.1
  have brief : (lineRate + 1) * available ≤ (lineRate + 1) * 1934 :=
    Nat.mul_le_mul_left _ (by omega)
  omega

/-- The lines and the line rate of a request that displays make. -/
theorem lineRate_of_tall {lineRate : Nat} (tall : 139 ≤ request.height)
    (usual : 60 ≤ request.refresh ∧ request.refresh ≤ 123)
    (rated : (Frame.ofRequest request).lineRate? = some lineRate) :
    8400 ≤ lineRate ∧ 145 ≤ (Frame.ofRequest request).fieldTotal lineRate := by
  have fast := lt_lineRate progressive usual rated
  rw [Frame.ofRequest_progressive progressive, Frame.fieldTotal]
  dsimp only
  omega

/-- Over the range of rates and heights that displays ask for, the clock is within half a frame of
the rate. Rounding the clock costs a thousand frames over the pixels of a line, whatever curve gave
the line its length. -/
theorem refresh_of_yields {curve : Curve} {lineRate : Nat} {mode : Mode}
    (yields : Yields request curve lineRate mode) (tall : 139 ≤ request.height)
    (usual : 60 ≤ request.refresh ∧ request.refresh ≤ 123) (wide : 100 ≤ mode.horizontal.total) :
    mode.refresh = request.refresh := by
  have lines : mode.vertical.total = (Frame.ofRequest request).fieldTotal lineRate := by
    rw [yields.lines, if_neg (by rw [progressive.interlaced]; exact Bool.false_ne_true)]
  obtain ⟨fast, slow⟩ := near_lineRate progressive (by omega) yields.lineRate_eq lines
  obtain ⟨_, many⟩ := lineRate_of_tall progressive tall usual yields.lineRate_eq
  rw [← lines] at many
  have rate : request.refresh * mode.vertical.total ≤ 123 * mode.vertical.total :=
    Nat.mul_le_mul_right _ usual.2
  have clock : mode.clock * 1000 ≤ mode.horizontal.total * lineRate ∧
      mode.horizontal.total * lineRate ≤ mode.clock * 1000 + 999 := by
    rw [yields.clock]
    omega
  -- Twice the lines of a second, against the odd multiples around the rate.
  have high : 2 * lineRate < 2 * (request.refresh * mode.vertical.total) + mode.vertical.total := by
    omega
  have low : 2 * (request.refresh * mode.vertical.total) + 20 ≤
      2 * lineRate + mode.vertical.total := by
    omega
  have shorter := Nat.mul_lt_mul_of_pos_left high (show 0 < mode.horizontal.total by omega)
  have longer := Nat.mul_le_mul_left mode.horizontal.total low
  apply Mode.refresh_eq_of_between (yields.interlaced.trans progressive.interlaced)
    yields.doubleScan
  · exact Nat.mul_pos (by omega) (by omega)
  · omega
  · linarith
  · linarith

/-- On the default curve no width that a display can ask for becomes a short line. -/
theorem Yields.long {lineRate : Nat} {mode : Mode}
    (yields : Yields request Curve.standard lineRate mode) (wide : 248 ≤ request.width)
    (tall : 139 ≤ request.height) (usual : 60 ≤ request.refresh ∧ request.refresh ≤ 123) :
    124 ≤ mode.horizontal.total := by
  obtain ⟨fast, _⟩ := lineRate_of_tall progressive tall usual yields.lineRate_eq
  have kept := yields.le_total fast
  rw [Frame.ofRequest_progressive progressive] at kept
  dsimp only at kept
  omega

/-- In the range of standard timing codes the default curve gives exactly the rate it was asked for,
at any size from theirs upward. -/
theorem refresh_of_standardMode? {mode : Mode} (wide : 248 ≤ request.width)
    (tall : 139 ≤ request.height) (usual : 60 ≤ request.refresh ∧ request.refresh ≤ 123)
    (found : standardMode? request = some mode) : mode.refresh = request.refresh := by
  obtain ⟨lineRate, yields⟩ := exists_yields_of_mode? found
  have long : 124 ≤ mode.horizontal.total := yields.long progressive wide tall usual
  exact refresh_of_yields progressive yields tall usual (by omega)

end Progressive

/-- The clock of this mode is off by more than four tenths of a frame. -/
theorem refresh_of_standardMode?_ribbon :
    ∃ mode, standardMode? ⟨8000, 146, 121, false, false⟩ = some mode ∧ mode.clock = 177828 ∧
      10 * (mode.clock * 1000) > (10 * 121 + 4) * (mode.horizontal.total * mode.vertical.total) ∧
      mode.refresh = 121 := by
  have found : standardMode? ⟨8000, 146, 121, false, false⟩ = some (.timing 177828
      ⟨8000, 7920, 8664, 9328⟩ ⟨146, 147, 150, 157⟩ .negativePositive) := by decide +kernel
  exact ⟨_, found, rfl, by decide,
    refresh_of_standardMode? ⟨rfl, rfl⟩ (by decide) (by decide) (by decide) found⟩

end Edid.Gtf
