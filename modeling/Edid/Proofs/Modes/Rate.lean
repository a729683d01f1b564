import Mathlib.Algebra.Order.Round
import Mathlib.Data.Rat.Floor
import Edid.Proofs.Machine.Parse
import Edid.Proofs.Modes.Regular

/-!
# Refresh rates and their 32 bits

The refresh rate of a mode is the exact rate rounded to the nearest integer, as long as that has 32
bits. Every source but one keeps to frames that are large enough for its clock. DisplayID gives
clock and totals freely, and the rate of a tiny frame at a high clock does not fit.
-/

set_option autoImplicit false

namespace Edid

/-! ## Exact rates -/

/-- The quotient of integers is that of rationals, rounded with a half going up. -/
theorem roundDiv_eq_round (numerator : Nat) {denominator : Nat} (positive : 0 < denominator) :
    (roundDiv numerator denominator : Int) = round ((numerator : ℚ) / denominator) := by
  have nonzero : (denominator : ℚ) ≠ 0 := Nat.cast_ne_zero.mpr positive.ne'
  have doubled : (numerator : ℚ) / denominator + 1 / 2 =
      ((2 * numerator + denominator : Nat) : ℚ) / ((2 * denominator : Nat) : ℚ) := by
    push_cast
    field_simp
  have halved : (2 * numerator + denominator) / 2 = numerator + denominator / 2 := by omega
  rw [round_eq, doubled, Rat.floor_natCast_div_natCast, ← Int.natCast_ediv, ← Nat.div_div_eq_div_mul,
    halved, roundDiv]

theorem roundDiv_le {numerator denominator bound : Nat} (positive : 0 < denominator)
    (small : numerator ≤ bound * denominator) : roundDiv numerator denominator ≤ bound := by
  have half : denominator / 2 < denominator := Nat.div_lt_self positive (by decide)
  apply Nat.le_of_lt_succ
  apply (Nat.div_lt_iff_lt_mul positive).mpr
  calc
    numerator + denominator / 2 < bound * denominator + denominator :=
      Nat.add_lt_add_of_le_of_lt small half
    _ = (bound + 1) * denominator := (Nat.succ_mul bound denominator).symm

namespace Mode

/-- Frames a second, or fields of an interlaced mode, without rounding. -/
def rate (mode : Mode) : ℚ :=
  (if mode.flags.interlaced then 2 else 1) * (if mode.flags.doubleScan then 1 / 2 else 1) *
    (1000 * mode.clock) / (mode.horizontal.total * mode.vertical.total)

theorem rate_eq_div (mode : Mode) :
    mode.rate = (mode.refreshNumerator : ℚ) / mode.refreshDenominator := by
  simp only [rate, refreshNumerator, refreshDenominator]
  cases mode.flags.interlaced <;> cases mode.flags.doubleScan <;>
    simp only [Bool.false_eq_true, if_false, if_true] <;> push_cast <;> ring

theorem refreshDenominator_pos {mode : Mode} (wide : mode.horizontal.total ≠ 0)
    (high : mode.vertical.total ≠ 0) : 0 < mode.refreshDenominator := by
  have pixels := Nat.mul_pos (Nat.pos_of_ne_zero wide) (Nat.pos_of_ne_zero high)
  rw [refreshDenominator]
  split
  · omega
  · exact pixels

theorem round_rate {mode : Mode} (positive : 0 < mode.refreshDenominator) :
    round mode.rate = (roundDiv mode.refreshNumerator mode.refreshDenominator : Nat) := by
  rw [rate_eq_div, roundDiv_eq_round _ positive]

/-- What is kept of the rounded rate are its low 32 bits. -/
theorem refresh_eq_round_rate_mod {mode : Mode} (wide : mode.horizontal.total ≠ 0)
    (high : mode.vertical.total ≠ 0) : (mode.refresh : Int) = round mode.rate % 0x100000000 := by
  rw [round_rate (refreshDenominator_pos wide high), refresh, if_neg (not_or.mpr ⟨wide, high⟩)]
  exact Int.natCast_mod _ _

/-- No more than two billion frames a second. -/
def Paced (mode : Mode) : Prop :=
  mode.clock ≤ 2000000 * (mode.horizontal.total * mode.vertical.total)

instance (mode : Mode) : Decidable mode.Paced :=
  inferInstanceAs (Decidable (_ ≤ _))

theorem Paced.round_rate_lt {mode : Mode} (paced : mode.Paced) (wide : mode.horizontal.total ≠ 0)
    (high : mode.vertical.total ≠ 0) : round mode.rate < 0x100000000 := by
  have positive := refreshDenominator_pos wide high
  have slow : mode.refreshNumerator ≤ 4000000000 * mode.refreshDenominator := by
    rw [Paced] at paced
    simp only [refreshNumerator, refreshDenominator]
    split <;> split <;> omega
  have rounded := roundDiv_le positive slow
  rw [round_rate positive]
  omega

end Mode

/-! ## Sources -/

namespace Mode

theorem paced_of_line {mode : Mode} (line : mode.clock ≤ 1000000 * mode.horizontal.total)
    (high : mode.vertical.total ≠ 0) : mode.Paced := by
  calc
    mode.clock ≤ 1000000 * mode.horizontal.total := line
    _ ≤ 2000000 * (mode.horizontal.total * mode.vertical.total) :=
      Nat.mul_le_mul (by decide) (Nat.le_mul_of_pos_right _ (Nat.pos_of_ne_zero high))

/-- More lines at the same clock are fewer frames. -/
theorem paced_of_frame {small large : Mode} (paced : small.Paced) (clock : large.clock = small.clock)
    (across : large.horizontal.total = small.horizontal.total)
    (down : small.vertical.total ≤ large.vertical.total) : large.Paced := by
  rw [Paced, clock, across]
  exact Nat.le_trans paced (Nat.mul_le_mul_left _ (Nat.mul_le_mul_left _ down))

theorem fieldTotal_cvt_pos {frame : Cvt.Frame} {reduced : Bool} {blanking : Cvt.Blanking}
    (found : (if reduced then frame.reduced? else frame.ordinary?) = some blanking) :
    0 < blanking.fieldTotal := by
  cases reduced with
  | false =>
      simp only [Bool.false_eq_true, if_false, Cvt.Frame.ordinary?] at found
      split at found
      · contradiction
      · split at found
        · contradiction
        · cases found
          exact Nat.succ_pos _
  | true =>
      simp only [if_true, Cvt.Frame.reduced?] at found
      split at found
      · contradiction
      · split at found
        · contradiction
        · cases found
          dsimp only
          omega

theorem paced_cvt {request : Formula.Request} {reduced : Bool} {mode : Mode}
    (found : Cvt.mode? request reduced = some mode) : mode.Paced := by
  rw [Cvt.mode?_eq_bind] at found
  split at found
  · contradiction
  · obtain ⟨blanking, blanked, found⟩ := Option.bind_eq_some_iff.mp found
    have lines := fieldTotal_cvt_pos blanked
    simp only [Cvt.Blanking.mode?, bind, Option.bind_eq_some_iff] at found
    obtain ⟨clock, clocked, horizontal, across, vertical, down, same⟩ := found
    cases same
    have exact := (Formula.narrow?_eq_some_iff.mp clocked).1
    have width := Formula.total_narrowAxis? across
    have height := Formula.total_narrowAxis? down
    apply paced_of_line
    · have quotient := Nat.div_le_self (blanking.total * 1000000) blanking.period
      rw [Cvt.Blanking.clock] at exact
      dsimp only
      omega
    · dsimp only
      split at height <;> omega

/-- The lines of a field fit, although they cover at least 550 microseconds. -/
theorem paced_gtf {request : Formula.Request} {curve : Gtf.Curve} {mode : Mode}
    (found : Gtf.mode? request curve = some mode) : mode.Paced := by
  rw [Gtf.mode?] at found
  split at found
  · contradiction
  · obtain ⟨lineRate, _, found⟩ := Option.bind_eq_some_iff.mp found
    split at found
    · contradiction
    · simp only [Gtf.Frame.mode?, bind, Option.bind_eq_some_iff] at found
      obtain ⟨clock, clocked, horizontal, across, vertical, down, same⟩ := found
      cases same
      have height := Formula.total_narrowAxis? down
      have fits := (Formula.fits_narrowAxis? down).total
      rw [Gtf.Frame.fieldTotal] at height
      rw [Formula.total_narrowAxis? across, ← Int.natCast_mul, Int.natCast_tdiv_eq_ediv] at clocked
      have exact := (Formula.narrow?_eq_some_iff.mp clocked).1
      have rate : lineRate ≤ 1000000000 := by
        split at height <;> omega
      have long := Nat.mul_le_mul_left horizontal.total rate
      apply paced_of_line
      · dsimp only
        omega
      · dsimp only
        split at height <;> omega

theorem le_total_axis (active blank offset width : Nat) :
    active ≤ (DetailedTiming.axis active blank offset width).total := by
  rw [DetailedTiming.axis]
  dsimp only
  split <;> omega

theorem le_totals_mode (timing : DetailedTiming) (workarounds : Workarounds) :
    timing.hactive ≤ (timing.mode workarounds).horizontal.total ∧
      timing.vactive ≤ (timing.mode workarounds).vertical.total := by
  have field := le_total_axis timing.vactive timing.vblank timing.vsyncOffset timing.vsyncWidth
  refine ⟨le_total_axis _ _ _ _, ?_⟩
  rw [DetailedTiming.mode]
  dsimp only
  split
  · rw [DetailedTiming.frameOfField]
    dsimp only
    omega
  · exact field

/-- A picture of 64 by 64 is large enough for every clock. -/
theorem paced_timing {timing : DetailedTiming} {context : TimingContext}
    {workarounds : Workarounds} {mode : Mode}
    (found : timing.mode? context workarounds = some mode) (narrow : mode.clock < 0x100000000) :
    mode.Paced := by
  rw [DetailedTiming.mode?] at found
  split at found
  · next usable =>
      obtain ⟨bare, made, rfl⟩ := Option.map_eq_some_iff.mp found
      rw [DetailedTiming.bareMode?] at made
      split at made
      · have paced : bare.Paced := paced_cvt made
        exact paced
      · cases made
        simp only [DetailedTiming.usable, Bool.and_eq_true, decide_eq_true_eq] at usable
        obtain ⟨⟨⟨⟨width, height⟩, _⟩, _⟩, _⟩ := usable
        obtain ⟨across, down⟩ := le_totals_mode timing workarounds
        have pixels := Nat.mul_le_mul (Nat.le_trans width across) (Nat.le_trans height down)
        exact Nat.le_trans (Nat.le_of_lt narrow)
          (Nat.le_trans (by decide) (Nat.mul_le_mul_left 2000000 pixels))
  · contradiction

theorem paced_of_mem_dmt : ∀ mode ∈ Dmt.modes, mode.Paced := by
  decide +kernel

theorem paced_of_mem_established : ∀ mode ∈ Established.modes, mode.Paced := by
  decide +kernel

theorem paced_of_mem_formats :
    ∀ entry ∈ ctaFormats ++ hdmiFormats, ∀ clock ∈ entry.2.clocks,
      { entry.2 with clock := clock }.Paced := by
  decide +kernel

/-- A match is exact across and may add lines. -/
theorem exists_entry_of_format? {mode format : Mode} {rule : ClockRule}
    (found : mode.format? rule = some format) :
    (∃ entry ∈ ctaFormats ++ hdmiFormats, entry.2 = format) ∧
      mode.horizontal.total = format.horizontal.total ∧
      format.vertical.total ≤ mode.vertical.total := by
  obtain ⟨entry, variant, rfl, agreed, ⟨cta, listed⟩ | ⟨hdmi, rfl⟩⟩ :=
    exists_variant_of_format? found
  · obtain ⟨across, down, _⟩ := eq_of_agrees agreed
    obtain ⟨amount, _, rfl⟩ := List.mem_map.mp listed
    rw [across, down]
    exact ⟨⟨entry, List.mem_append_left _ cta, rfl⟩, rfl, Nat.le_add_right _ _⟩
  · obtain ⟨across, down, _⟩ := eq_of_agrees agreed
    rw [across, down]
    exact ⟨⟨entry, List.mem_append_right _ hdmi, rfl⟩, rfl, Nat.le_refl _⟩

theorem Sourced.paced {mode : Mode} (sourced : mode.Sourced) (narrow : mode.clock < 0x100000000) :
    mode.Paced := by
  induction sourced with
  | detailed found => exact paced_timing found narrow
  | cvt found => exact paced_cvt found
  | gtf found => exact paced_gtf found
  | monitor member => exact paced_of_mem_dmt _ member
  | established member => exact paced_of_mem_established _ member
  | ctaFormat member =>
      exact paced_of_mem_formats _ (List.mem_append_left _ member) _ List.mem_cons_self
  | hdmiFormat member =>
      exact paced_of_mem_formats _ (List.mem_append_right _ member) _ List.mem_cons_self
  | trimmed _ ih => exact ih narrow
  | @snapped mode _ ih =>
      rw [snapClock] at narrow ⊢
      split
      · next unmatched =>
          rw [unmatched] at narrow
          exact ih narrow
      · next format found =>
          -- The clock is one of the format now, and the frame at least as large as there.
          obtain ⟨⟨entry, member, rfl⟩, across, down⟩ := exists_entry_of_format? found
          dsimp only
          split
          · have paced := paced_of_mem_formats entry member _ List.mem_cons_self
            exact paced_of_frame paced rfl across down
          · have paced := paced_of_mem_formats entry member _
              (List.mem_cons_of_mem _ List.mem_cons_self)
            exact paced_of_frame paced rfl across down

theorem paced_alternateMode? {mode other : Mode} (found : alternateMode? mode = some other) :
    other.Paced := by
  obtain ⟨format, matched, _, half⟩ := alternateMode?_eq_some_iff.mp found
  obtain ⟨⟨entry, member, rfl⟩, _⟩ := exists_entry_of_format? matched
  have paced := paced_of_mem_formats entry member
  rcases half with ⟨_, rfl⟩ | ⟨_, rfl⟩
  · exact paced _ (List.mem_cons_of_mem _ List.mem_cons_self)
  · exact paced _ List.mem_cons_self

end Mode

/-! ## Lists -/

section Lists

/-- Every mode with a clock of 32 bits is paced. -/
abbrev AllPaced (modes : List Mode) : Prop :=
  ∀ mode ∈ modes, mode.clock < 0x100000000 → mode.Paced

theorem Extends.paced {old new : List Mode} (grown : Extends old new) (paced : AllPaced old) :
    AllPaced new := by
  obtain ⟨added, sourced, rfl⟩ := grown
  exact List.forall_mem_append.mpr ⟨paced, fun mode member => (sourced mode member).paced⟩

variable (blob : Blob) (context : TimingContext) (workarounds : Workarounds) {modes : List Mode}

theorem paced_baseModes : AllPaced (baseModes blob context workarounds) := by
  apply (extends_baseModes blob context workarounds).paced
  intro mode member
  obtain ⟨source, sourced, preferred, rfl⟩ :=
    exists_sourced_of_mem_detailedModes blob context workarounds member
  exact sourced.paced

theorem paced_addFormatModes (paced : AllPaced modes) : AllPaced (addFormatModes blob modes) := by
  have listed := (extends_formats modes (videoBlocks blob)).paced paced
  apply List.forall_mem_append.mpr ⟨listed, _⟩
  intro mode member
  rcases sourced_or_inLayout_of_mem_hdmiModes member with sourced | ⟨plain, present, layout, rfl⟩
  · exact sourced.paced
  · exact listed plain present

theorem paced_addAlternateModes (paced : AllPaced modes) :
    AllPaced (addAlternateModes blob modes) := by
  obtain ⟨added, appended, halves⟩ := addAlternateModes_eq_append blob modes
  rw [appended]
  apply List.forall_mem_append.mpr ⟨paced, _⟩
  intro other member _
  obtain ⟨mode, _, found⟩ := halves other member
  exact Mode.paced_alternateMode? found

/-- Only DisplayID timings can be too fast, and nothing but the mark is changed in them. -/
theorem paced_or_displayId_of_mem_collectModes {mode : Mode}
    (member : mode ∈ collectModes blob workarounds) :
    (mode.clock < 0x100000000 → mode.Paced) ∨
      ∃ source ∈ displayIdModes blob, mode = source.withPreferred mode.preferred := by
  let context := TimingContext.ofBlob blob
  have base := paced_baseModes blob context workarounds
  have listed := paced_addAlternateModes blob (paced_addFormatModes blob base)
  obtain ⟨added, sourced, inferred⟩ := extends_addInferredModes context blob
    (addAlternateModes blob (addFormatModes blob (baseModes blob context workarounds)) ++
      displayIdModes blob)
  obtain ⟨source, present, preferred, rfl⟩ := exists_of_mem_correctPreferred member
  rw [inferred, List.mem_append, List.mem_append] at present
  rcases present with (early | displayId) | late
  · exact .inl (listed source early)
  · exact .inr ⟨source, displayId, rfl⟩
  · exact .inl (sourced source late).paced

end Lists

/-- The highest clock of a timing needs frames of 40 pixels for its rate to fit. -/
theorem DisplayId.Timing.pixels_lt_of_round_rate {timing : DisplayId.Timing} {mode : Mode}
    (found : timing.mode? = some mode) (fast : 0x100000000 ≤ round mode.rate) :
    mode.horizontal.total * mode.vertical.total < 40 := by
  obtain ⟨⟨_, _, flags⟩, _⟩ := Mode.fields_of_displayId found
  have clock : mode.clock ≤ 167772160 := by
    have low := (timing.byte 0).toNat_lt
    have middle := (timing.byte 1).toNat_lt
    have high := (timing.byte 2).toNat_lt
    simp only [mode?, bind, Option.bind_eq_some_iff] at found
    obtain ⟨_, _, _, _, same⟩ := found
    cases same
    simp only [littleEndian]
    omega
  by_contra many
  have numerator : mode.refreshNumerator = mode.clock * 1000 := by
    rw [Mode.refreshNumerator, flags]
    rfl
  have denominator : mode.refreshDenominator = mode.horizontal.total * mode.vertical.total := by
    rw [Mode.refreshDenominator, flags]
    rfl
  have positive : 0 < mode.refreshDenominator := by omega
  have slow : mode.refreshNumerator ≤ 4294967295 * mode.refreshDenominator := by omega
  have rounded := roundDiv_le positive slow
  rw [Mode.round_rate positive] at fast
  omega

/-- The refresh rate of a mode is what the exact rate rounds to, unless that has more than 32 bits.
Only a DisplayID timing with less than 40 pixels in a frame can be that fast. -/
theorem refresh_of_parse {policy : RepairPolicy} {bytes : List Byte} {display : Display}
    (parsed : parse policy bytes = .ok display) :
    ∀ mode ∈ display.modes, mode.horizontal.total ≠ 0 → mode.vertical.total ≠ 0 →
      (mode.refresh : Int) = round mode.rate % 0x100000000 ∧
        ((mode.refresh : Int) ≠ round mode.rate →
          ∃ source ∈ displayIdModes display.blob, mode = source.withPreferred mode.preferred ∧
            mode.horizontal.total * mode.vertical.total < 40) := by
  rw [modes_of_parse parsed]
  intro mode member wide high
  have kept := Mode.refresh_eq_round_rate_mod wide high
  refine ⟨kept, fun lost => ?_⟩
  have positive : 0 ≤ round mode.rate := by
    rw [Mode.round_rate (Mode.refreshDenominator_pos wide high)]
    exact Int.natCast_nonneg _
  have fast : 0x100000000 ≤ round mode.rate := by omega
  rcases paced_or_displayId_of_mem_collectModes _ _ member with paced | ⟨source, listed, marked⟩
  · have fits := (checkedCollectModes_eq _ _).2 mode member
    have slow := (paced fits.clock).round_rate_lt wide high
    omega
  · obtain ⟨timing, found⟩ := exists_timing_of_mem_displayIdModes listed
    have few := timing.pixels_lt_of_round_rate found
    rw [marked] at fast ⊢
    exact ⟨source, listed, rfl, few fast⟩

/-- A display whose only timing has two pixels in a line and two lines, at the highest clock that
can be stored. -/
def pinhole : Blob where
  base := Vector.ofFn fun position =>
    (Block.header.toList ++ List.replicate 10 0 ++ [1, 3, 0x80] ++ List.replicate 105 0 ++
      [1, 0x81]).getD position.val 0
  extensions :=
    [Vector.ofFn fun position =>
      ([Block.displayIdTag, 0x12, 23, 0, 0, 3, 0, 20, 0xff, 0xff, 0xff] ++ List.replicate 17 0 ++
        [0xc3] ++ List.replicate 98 0 ++ [0x90]).getD position.val 0]
  count_eq := by decide +kernel

theorem parse_pinhole : parse .standard pinhole.toBytes = .ok (Display.ofBlob pinhole false) :=
  parse_of_isValid (by decide +kernel) (by decide +kernel)

/-- The exact rate needs 36 bits. -/
theorem exists_mode_pinhole :
    ∃ mode ∈ (Display.ofBlob pinhole false).modes,
      mode.horizontal.total = 2 ∧ mode.vertical.total = 2 ∧ mode.refresh = 3288334336 ∧
        round mode.rate = 41943040000 := by
  have listed : ∃ mode ∈ (Display.ofBlob pinhole false).modes,
      mode.horizontal.total = 2 ∧ mode.vertical.total = 2 ∧ mode.refresh = 3288334336 ∧
        mode.refreshNumerator = 41943040000 * mode.refreshDenominator ∧
        mode.refreshDenominator ≠ 0 := by decide +kernel
  obtain ⟨mode, member, wide, high, refresh, numerator, denominator⟩ := listed
  refine ⟨mode, member, wide, high, refresh, ?_⟩
  have nonzero : (mode.refreshDenominator : ℚ) ≠ 0 := Nat.cast_ne_zero.mpr denominator
  have exact : mode.rate = (41943040000 : Int) := by
    rw [Mode.rate_eq_div, numerator, Nat.cast_mul, mul_div_cancel_right₀ _ nonzero]
    rfl
  rw [exact, round_intCast]

theorem refresh_of_parse_pinhole :
    ∃ display, parse .standard pinhole.toBytes = .ok display ∧
      ∃ mode ∈ display.modes, (mode.refresh : Int) = round mode.rate % 0x100000000 ∧
        ∃ source ∈ displayIdModes display.blob, mode = source.withPreferred mode.preferred := by
  obtain ⟨mode, member, wide, high, refresh, exact⟩ := exists_mode_pinhole
  have width : mode.horizontal.total ≠ 0 := by omega
  have height : mode.vertical.total ≠ 0 := by omega
  have lost : (mode.refresh : Int) ≠ round mode.rate := by
    rw [refresh, exact]
    decide
  obtain ⟨kept, fast⟩ := refresh_of_parse parse_pinhole mode member width height
  obtain ⟨source, listed, marked, _⟩ := fast lost
  exact ⟨_, parse_pinhole, mode, member, kept, source, listed, marked⟩

/-- The mode of the pinhole reports less than a tenth of its rate. -/
theorem pinhole_wraps_rate :
    ∃ display, parse .standard pinhole.toBytes = .ok display ∧
      ∃ mode ∈ display.modes, mode.horizontal.total ≠ 0 ∧ mode.vertical.total ≠ 0 ∧
        mode.refresh = 3288334336 ∧ round mode.rate = 41943040000 := by
  obtain ⟨mode, member, wide, high, refresh, exact⟩ := exists_mode_pinhole
  have width : mode.horizontal.total ≠ 0 := by omega
  have height : mode.vertical.total ≠ 0 := by omega
  exact ⟨_, parse_pinhole, mode, member, width, height, refresh, exact⟩

end Edid
