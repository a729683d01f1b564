import Mathlib.Tactic.Ring
import Edid.Proofs.Formula.Edges
import Edid.Standard.Dmt

/-!
# The vertical interval of coordinated timings

The coordinated formula gives a tube time to return to the first line, and a panel time to get ready:
550 microseconds of pulse and back porch, or 460 microseconds of reduced blanking. It counts lines
for that time before it knows the clock. Each rounding on the way makes the interval longer: there is
one line more than the quotient says, and both the clock and its step are rounded down.

The pulse tells the aspect ratio of the picture. Two of the five ratios are looked for among fewer
heights than have them, and the sizes that are passed over get the pulse of no ratio.
-/

set_option autoImplicit false

namespace Edid.Cvt

open Formula

/-! ## The least time -/

/-- Nanoseconds that the vertical interval has to last. -/
def leastTime (reduced : Bool) : Nat :=
  if reduced then 460000 else 550000

section Rules

variable {frame : Frame} {blanking : Blanking}

/-- The lines of the interval are enough at the line period that they were counted for. Without
reduced blanking the front porch is not among them. -/
theorem exists_lines_lasting {reduced : Bool}
    (found : (if reduced then frame.reduced? else frame.ordinary?) = some blanking) :
    ∃ lines, blanking.fieldTotal = frame.fieldLines + (if reduced then 0 else 3) + lines ∧
      leastTime reduced < lines * blanking.period := by
  have enough {time period lines : Nat} (running : period ≠ 0) (more : time / period + 1 ≤ lines) :
      time < lines * period :=
    (Nat.div_lt_iff_lt_mul (Nat.pos_of_ne_zero running)).mp more
  cases reduced with
  | false =>
      simp only [Bool.false_eq_true, if_false, Frame.ordinary?] at found
      split at found
      · contradiction
      · split at found
        · contradiction
        · next running =>
            cases found
            have lasting :=
              enough running (Nat.le_max_left (550 * 1000 / _ + 1) (frame.syncLines + 3))
            refine ⟨_, ?_, lasting⟩
            simp only [Bool.false_eq_true, if_false]
            omega
  | true =>
      simp only [if_true, Frame.reduced?] at found
      split at found
      · contradiction
      · split at found
        · contradiction
        · next running =>
            cases found
            exact ⟨_, rfl, enough running (Nat.le_max_left _ (3 + frame.syncLines + 6))⟩

/-- The clock makes a line last at least as long as the line period. -/
theorem Blanking.time_mul_clock_le {time lines : Nat} (lasting : time < lines * blanking.period) :
    time * blanking.clock ≤ lines * blanking.total * 1000000 := by
  have running : 0 < blanking.period := Nat.pos_of_mul_pos_left (Nat.zero_lt_of_lt lasting)
  calc
    time * blanking.clock ≤ lines * blanking.period * blanking.clock :=
      Nat.mul_le_mul_right _ lasting.le
    _ = lines * (blanking.clock * blanking.period) := by ring
    _ ≤ lines * (blanking.total * 1000000) :=
      Nat.mul_le_mul_left _ (Blanking.clock_bounds running).1
    _ = lines * blanking.total * 1000000 := (Nat.mul_assoc _ _ _).symm

end Rules

section Modes

variable {request : Request} {reduced : Bool} {mode : Mode}

/-- Frame by frame, the interval lasts for its least time at the clock of the mode. -/
theorem leastTime_of_mode? (frames : request.interlaced = false)
    (found : mode? request reduced = some mode) :
    if reduced then
      460000 * (mode.clock : Int) ≤
        ((mode.vertical.total : Int) - mode.vertical.active) * mode.horizontal.total * 1000000
    else
      550000 * (mode.clock : Int) ≤
        ((mode.vertical.total : Int) - mode.vertical.syncStart) * mode.horizontal.total * 1000000 := by
  obtain ⟨blanking, yields⟩ := exists_yields_of_mode? found
  obtain ⟨lines, fieldTotal, lasting⟩ := exists_lines_lasting yields.blanking_eq
  have time := Blanking.time_mul_clock_le lasting
  rw [← yields.clock, ← yields.total] at time
  have active : mode.vertical.active ≤ (Frame.ofRequest request).fieldLines := by
    have lines := Frame.activeLines_ofRequest request
    rw [frames, if_neg Bool.false_ne_true, ← yields.height] at lines
    exact lines
  have pulseStart : mode.vertical.syncStart = mode.vertical.active + 3 := yields.pulseStart
  have total : mode.vertical.total = blanking.fieldTotal := by
    rw [yields.lines, frames, if_neg Bool.false_ne_true]
  -- What is behind the start of the interval has those lines at least.
  have longer {behind : Int} (enough : (lines : Int) ≤ behind) :
      ((leastTime reduced * mode.clock : Nat) : Int) ≤
        behind * mode.horizontal.total * 1000000 :=
    calc
      ((leastTime reduced * mode.clock : Nat) : Int) ≤
          (lines : Int) * mode.horizontal.total * 1000000 := by exact_mod_cast time
      _ ≤ behind * mode.horizontal.total * 1000000 :=
        Int.mul_le_mul_of_nonneg_right
          (Int.mul_le_mul_of_nonneg_right enough (Int.natCast_nonneg _)) (by decide)
  cases reduced with
  | false =>
      rw [if_neg Bool.false_ne_true] at fieldTotal ⊢
      exact longer (by omega)
  | true =>
      rw [if_pos rfl] at fieldTotal ⊢
      exact longer (by omega)

/-- The interval of this mode is less than 25 nanoseconds longer than it has to be. -/
theorem leastTime_of_mode?_margins :
    ∃ mode, mode? ⟨1440, 2160, 85, true, false⟩ true = some mode ∧
      460000 * (mode.clock : Int) ≤
        ((mode.vertical.total : Int) - mode.vertical.active) * mode.horizontal.total * 1000000 ∧
      ((mode.vertical.total : Int) - mode.vertical.active) * mode.horizontal.total * 1000000 <
        460025 * mode.clock := by
  have found : mode? ⟨1440, 2160, 85, true, false⟩ true = some (.timing 326000
      ⟨1488, 1536, 1568, 1648⟩ ⟨2236, 2239, 2249, 2327⟩ .positiveNegative) := by decide +kernel
  exact ⟨_, found, leastTime_of_mode? rfl found, by decide⟩

end Modes

/-! ## The pulse -/

/-- The lines of the pulse for each aspect ratio. -/
def ratioLines (width height : Nat) : Nat :=
  if 3 * width = 4 * height then 4
  else if 9 * width = 16 * height then 5
  else if 5 * width = 8 * height then 6
  else if 4 * width = 5 * height then 7
  else if 3 * width = 5 * height then 7
  else 10

/-- The sizes of ratio 16:10 and 15:9 that are passed over: the ratios are tested as they are written,
at heights that ten and nine divide. In lowest terms they are 8:5 and 5:3. -/
def Overlooked (width height : Nat) : Prop :=
  5 * width = 8 * height ∧ height % 10 ≠ 0 ∨ 3 * width = 5 * height ∧ height % 9 ≠ 0

/-- Whether a rounded quotient is the width is a comparison of products where the quotient is exact. -/
theorem pulseLines_products (width height : Nat) :
    pulseLines width height =
      if 3 * width = 4 * height then 4
      else if 9 * width = 16 * height then 5
      else if 5 * width = 8 * height ∧ height % 10 = 0 then 6
      else if 4 * width = 5 * height then 7
      else if 3 * width = 5 * height ∧ height % 9 = 0 then 7
      else 10 := by
  have standard : height % 3 = 0 ∧ height * 4 / 3 = width ↔ 3 * width = 4 * height := by omega
  have wide : height % 9 = 0 ∧ height * 16 / 9 = width ↔ 9 * width = 16 * height := by omega
  have office : height % 10 = 0 ∧ height * 16 / 10 = width ↔
      5 * width = 8 * height ∧ height % 10 = 0 := by omega
  have tall : height % 4 = 0 ∧ height * 5 / 4 = width ↔ 4 * width = 5 * height := by omega
  have broad : height % 9 = 0 ∧ height * 15 / 9 = width ↔
      3 * width = 5 * height ∧ height % 9 = 0 := by omega
  simp only [pulseLines, standard, wide, office, tall, broad]

instance (width height : Nat) : Decidable (Overlooked width height) :=
  inferInstanceAs (Decidable (_ ∨ _))

theorem pulseLines_eq {width height : Nat} (kept : ¬ Overlooked width height) :
    pulseLines width height = ratioLines width height := by
  have office : 5 * width = 8 * height ∧ height % 10 = 0 ↔ 5 * width = 8 * height :=
    and_iff_left_of_imp fun ratio => by_contra fun other => kept (.inl ⟨ratio, other⟩)
  have broad : 3 * width = 5 * height ∧ height % 9 = 0 ↔ 3 * width = 5 * height :=
    and_iff_left_of_imp fun ratio => by_contra fun other => kept (.inr ⟨ratio, other⟩)
  simp only [pulseLines_products, ratioLines, office, broad]

/-- No size has two ratios. -/
theorem pulseLines_of_overlooked {width height : Nat} (overlooked : Overlooked width height) :
    pulseLines width height = 10 ∧ ratioLines width height < 10 := by
  rw [pulseLines_products, ratioLines]
  rcases overlooked with ⟨ratio, other⟩ | ⟨ratio, other⟩
  · have standard : ¬ 3 * width = 4 * height := by omega
    have wide : ¬ 9 * width = 16 * height := by omega
    have tall : ¬ 4 * width = 5 * height := by omega
    have office : ¬ (5 * width = 8 * height ∧ height % 10 = 0) := fun both => other both.2
    have broad : ¬ (3 * width = 5 * height ∧ height % 9 = 0) := by omega
    rw [if_neg standard, if_neg wide, if_neg office, if_neg tall, if_neg broad, if_neg standard,
      if_neg wide, if_pos ratio]
    decide
  · have standard : ¬ 3 * width = 4 * height := by omega
    have wide : ¬ 9 * width = 16 * height := by omega
    have office : ¬ 5 * width = 8 * height := by omega
    have tall : ¬ 4 * width = 5 * height := by omega
    have broad : ¬ (3 * width = 5 * height ∧ height % 9 = 0) := fun both => other both.2
    rw [if_neg standard, if_neg wide, if_neg fun both => office both.1, if_neg tall, if_neg broad,
      if_neg standard, if_neg wide, if_neg office, if_neg tall, if_pos ratio]
    decide

/-- The pulse tells the ratio of the requested size exactly, unless that is passed over. -/
theorem pulse_of_mode? {request : Request} {reduced : Bool} {mode : Mode}
    (found : mode? request reduced = some mode) :
    (mode.vertical.syncEnd = mode.vertical.syncStart + ratioLines request.width request.height ↔
        ¬ Overlooked request.width request.height) ∧
      (Overlooked request.width request.height →
        mode.vertical.syncEnd = mode.vertical.syncStart + 10) := by
  obtain ⟨blanking, yields⟩ := exists_yields_of_mode? found
  have pulse : mode.vertical.syncEnd =
      mode.vertical.syncStart + pulseLines request.width request.height := by
    rw [yields.pulseStart, yields.pulseEnd]
    rfl
  by_cases overlooked : Overlooked request.width request.height
  · obtain ⟨lines, less⟩ := pulseLines_of_overlooked overlooked
    rw [lines] at pulse
    exact ⟨iff_of_false (by omega) (not_not_intro overlooked), fun _ => pulse⟩
  · rw [pulseLines_eq overlooked] at pulse
    exact ⟨iff_of_true pulse overlooked, fun passed => absurd passed overlooked⟩

/-- Ten divides the height of this picture, and the pulse tells its ratio. -/
theorem pulse_of_mode?_wxga :
    ∃ mode, mode? ⟨1280, 800, 60, false, false⟩ true = some mode ∧
      mode.vertical.syncEnd = mode.vertical.syncStart + 6 := by
  have found : mode? ⟨1280, 800, 60, false, false⟩ true = some (.timing 71000
      ⟨1280, 1328, 1360, 1440⟩ ⟨800, 803, 809, 823⟩ .positiveNegative) := by decide +kernel
  exact ⟨_, found, (pulse_of_mode? found).1.mpr (by decide)⟩

/-- The picture is 15:9, and the listed timing for it is a coordinated one with the pulse of that ratio.
The formula gives the same timing with a pulse that is three lines longer. -/
theorem wideXga_pulse_overlooked :
    ∃ mode listed, mode? ⟨1280, 768, 60, false, false⟩ false = some mode ∧
      3 * 1280 = 5 * 768 ∧ ratioLines 1280 768 = 7 ∧
      mode.vertical.syncEnd = mode.vertical.syncStart + 10 ∧
      Dmt.find? 1280 768 60 false = some listed ∧
      listed.vertical.syncEnd = listed.vertical.syncStart + 7 ∧
      mode = { listed with vertical := { listed.vertical with syncEnd := mode.vertical.syncEnd } } := by
  refine ⟨.timing 79500 ⟨1280, 1344, 1472, 1664⟩ ⟨768, 771, 781, 798⟩ .negativePositive,
    .timing 79500 ⟨1280, 1344, 1472, 1664⟩ ⟨768, 771, 778, 798⟩ .negativePositive, ?_⟩
  decide +kernel

end Edid.Cvt
