import Edid.Proofs.Formula.Cvt
import Edid.Proofs.Formula.Gtf
import Edid.Proofs.Machine.Gtf

/-!
# Both timing formulas in machine words

For a request in machine words, whatever its size and rate, the coordinated formula gives in words
what it gives in numbers. So does the generalized one, on any curve that a range descriptor can carry,
but for one product. The clock is taken from the pixels of a second before the line is known to fit
a mode. Where a curve leaves less than one five-hundredth of the line for the picture, so many pixels
can be too many for 64 bits. What fits a mode is kept as it was computed.
-/

set_option autoImplicit false

namespace Edid

open Formula Machine

namespace Gtf

/-- The line is so long that its pixels of a second do not fit a signed word of 64 bits. -/
def Outgrows (request : Request) (curve : Curve) : Prop :=
  ∃ lineRate, Rated request curve lineRate ∧
    0x8000000000000000 ≤ (Frame.ofRequest request).pixelRate curve lineRate

/-- Rounding to sixteen pixels, in either direction. -/
theorem blankPixels_near (activeWidth : Nat) (duty : Int) :
    (activeWidth * duty).tdiv (100000 - duty) - 7 ≤ blankPixels activeWidth duty ∧
      blankPixels activeWidth duty ≤ (activeWidth * duty).tdiv (100000 - duty) + 23 := by
  rw [blankPixels]
  generalize (activeWidth * duty).tdiv (100000 - duty) = ideal
  rcases Int.le_total 0 (ideal + 8) with positive | negative
  · rw [Int.tdiv_eq_ediv_of_nonneg positive]
    omega
  · have opposite := Int.tdiv_eq_ediv_of_nonneg (b := 16) (Int.neg_nonneg_of_nonpos negative)
    rw [Int.neg_tdiv] at opposite
    omega

section Requests

variable {request : Request} (fits : request.Fits) {curve : Curve} {lineRate : Nat}
  (rated : Rated request curve lineRate)
include fits rated

/-- The blanking takes no more of the line than there is, up to its rounding. -/
theorem neg_le_pixelRate :
    -0x8000000000000000 ≤ (Frame.ofRequest request).pixelRate curve lineRate := by
  obtain ⟨_, rate⟩ := Frame.lineRate?_le (Frame.small_ofRequest fits) rated.lineRate_eq
  have part := rated.duty_lt
  have share : -((Frame.ofRequest request).activeWidth : Int) ≤ (1 : Nat) *
      ((Frame.ofRequest request).activeWidth * curve.duty lineRate).tdiv
        (100000 - curve.duty lineRate) := le_blankShare (by omega) part
  have near := (blankPixels_near (Frame.ofRequest request).activeWidth (curve.duty lineRate)).1
  have total : -7 ≤ (Frame.ofRequest request).activeWidth +
      blankPixels (Frame.ofRequest request).activeWidth (curve.duty lineRate) := by omega
  have product := Int.mul_le_mul_of_nonneg_right total (Int.natCast_nonneg lineRate)
  rw [Frame.pixelRate]
  omega

/-- A line of which a five-hundredth is left for the picture has room for its pixels of a second. -/
theorem pixelRate_lt (left : curve.duty lineRate ≤ 99800) :
    (Frame.ofRequest request).pixelRate curve lineRate < 0x8000000000000000 := by
  have small := Frame.small_ofRequest fits
  obtain ⟨_, rate⟩ := Frame.lineRate?_le small rated.lineRate_eq
  have narrow := small.activeWidth
  have scaled : (Frame.ofRequest request).activeWidth * curve.duty lineRate ≤
      499 * (Frame.ofRequest request).activeWidth * (100000 - curve.duty lineRate) :=
    calc
      (Frame.ofRequest request).activeWidth * curve.duty lineRate ≤
          (Frame.ofRequest request).activeWidth * (499 * (100000 - curve.duty lineRate)) :=
        Int.mul_le_mul_of_nonneg_left (by omega) (Int.natCast_nonneg _)
      _ = 499 * (Frame.ofRequest request).activeWidth * (100000 - curve.duty lineRate) := by ring
  have share := Int.tdiv_le_of_le_mul (show 0 < 100000 - curve.duty lineRate by omega) scaled
  have near := (blankPixels_near (Frame.ofRequest request).activeWidth (curve.duty lineRate)).2
  have total : (Frame.ofRequest request).activeWidth +
      blankPixels (Frame.ofRequest request).activeWidth (curve.duty lineRate) ≤ 33948024 := by
    split at share <;> omega
  have product := Int.mul_le_mul_of_nonneg_right total (Int.natCast_nonneg lineRate)
  rw [Frame.pixelRate]
  omega

end Requests

/-- Whatever the request is, a mode of it fits. -/
theorem fits_of_mode? {request : Request} {curve : Curve} {mode : Mode}
    (found : mode? request curve = some mode) : mode.Fits := by
  obtain ⟨_, _, made⟩ := exists_rated_of_mode? found
  exact (Frame.fits_mode? made).1

section Words

variable {request : Request} (fits : request.Fits) {curve : Curve} (words : curve.Fits)
include fits words

/-- A line that outgrows its word has less than a five-hundredth left for the picture. The word is the
first fault, and the line would be too long for a mode. -/
theorem checkedMode?_of_outgrows (outgrows : Outgrows request curve) :
    checkedMode? request curve = .error .overflow ∧ mode? request curve = none ∧
      ∃ lineRate, (Frame.ofRequest request).lineRate? = some lineRate ∧
        99800 < curve.duty lineRate := by
  obtain ⟨lineRate, rated, long⟩ := outgrows
  have small := Frame.small_ofRequest fits
  obtain ⟨positive, rate⟩ := Frame.lineRate?_le small rated.lineRate_eq
  obtain ⟨_, bounded⟩ := curve.checkedDuty_eq words positive
  refine ⟨?_, ?_, lineRate, rated.lineRate_eq, ?_⟩
  · rcases checkedMode?_spec fits words with ⟨unrated, _⟩ | ⟨other, again, checked, _⟩
    · exact absurd rated (unrated lineRate)
    · cases rated.lineRate_eq.symm.trans again.lineRate_eq
      rw [checked]
      exact Frame.checkedMode?_eq_error small rate rated.duty_lt bounded long request
  · refine Option.eq_none_iff_forall_ne_some.mpr fun mode found => ?_
    obtain ⟨other, yields⟩ := exists_yields_of_mode? found
    cases rated.lineRate_eq.symm.trans yields.lineRate_eq
    have short := (fits_of_mode? found).horizontal.total
    have pixels : mode.horizontal.total * lineRate ≤ 65535 * 250000000000 :=
      Nat.mul_le_mul (Nat.le_of_lt_succ short) rate
    rw [Frame.pixelRate, ← yields.total] at long
    omega
  · by_contra left
    exact Int.not_lt.mpr long (pixelRate_lt fits rated (Int.not_lt.mp left))

theorem checkedMode?_of_not_outgrows (kept : ¬ Outgrows request curve) :
    checkedMode? request curve = .ok (mode? request curve) := by
  refine checkedMode?_eq_of_room fits words fun lineRate rated =>
    ⟨neg_le_pixelRate fits rated, ?_⟩
  by_contra long
  exact kept ⟨lineRate, rated, Int.not_lt.mp long⟩

end Words

/-- The default curve leaves seven tenths of the line for the picture. -/
theorem checkedMode?_standard {request : Request} (fits : request.Fits) :
    checkedMode? request Curve.standard = .ok (standardMode? request) := by
  have words : Curve.standard.Fits := by constructor <;> decide
  refine checkedMode?_of_not_outgrows fits words fun outgrows => ?_
  obtain ⟨_, _, lineRate, _, little⟩ := checkedMode?_of_outgrows fits words outgrows
  have taken := Int.natCast_nonneg (300000000 / lineRate)
  rw [duty_standard] at little
  omega

end Gtf

/-! ## Both formulas -/

/-- No word overflows and no divisor is zero, but for the pixels of a second of a line that is longer
than any mode; and a mode has the values that were computed. -/
theorem formulas_in_words {request : Request} (fits : request.Fits) {curve : Gtf.Curve}
    (words : curve.Fits) (reduced : Bool) :
    Cvt.checkedMode? request reduced = .ok (Cvt.mode? request reduced) ∧
      (∀ mode, Cvt.mode? request reduced = some mode →
        mode.Fits ∧ ∃ blanking, Cvt.Yields request reduced blanking mode) ∧
      (¬ Gtf.Outgrows request curve →
        Gtf.checkedMode? request curve = .ok (Gtf.mode? request curve)) ∧
      (Gtf.Outgrows request curve →
        Gtf.checkedMode? request curve = .error .overflow ∧ Gtf.mode? request curve = none ∧
          ∃ lineRate, (Gtf.Frame.ofRequest request).lineRate? = some lineRate ∧
            99800 < curve.duty lineRate) ∧
      ∀ mode, Gtf.mode? request curve = some mode →
        mode.Fits ∧ ∃ lineRate, Gtf.Yields request curve lineRate mode :=
  ⟨Cvt.checkedMode?_eq fits reduced,
    fun _ found => ⟨Cvt.fits_mode? found, Cvt.exists_yields_of_mode? found⟩,
    Gtf.checkedMode?_of_not_outgrows fits words, Gtf.checkedMode?_of_outgrows fits words,
    fun _ found => ⟨Gtf.fits_of_mode? found, Gtf.exists_yields_of_mode? found⟩⟩

/-- The curve with the largest coefficients leaves a line with 94 pixels in all. -/
theorem formulas_in_words_steepest :
    ∃ mode, Gtf.mode? ⟨1280, 720, 50, true, true⟩ ⟨65535, 255, 255, 255⟩ = some mode ∧
      mode.horizontal.total = 94 ∧
      Gtf.checkedMode? ⟨1280, 720, 50, true, true⟩ ⟨65535, 255, 255, 255⟩ = .ok (some mode) ∧
      Cvt.checkedMode? ⟨1280, 720, 50, true, true⟩ true =
        .ok (Cvt.mode? ⟨1280, 720, 50, true, true⟩ true) := by
  have made : Gtf.mode? ⟨1280, 720, 50, true, true⟩ ⟨65535, 255, 255, 255⟩ = some (.timing 3715
      ⟨1280, 656, 664, 94⟩ ⟨360, 361, 364, 790⟩
      { Flags.positiveNegative with interlaced := true }) := by decide +kernel
  have fits : (Request.mk 1280 720 50 true true).Fits := by constructor <;> decide
  have words : (Gtf.Curve.mk 65535 255 255 255).Fits := by constructor <;> decide
  obtain ⟨coordinated, _, computed, faulty, _⟩ := formulas_in_words fits words true
  have kept := computed fun outgrows =>
    Option.some_ne_none _ (made.symm.trans (faulty outgrows).2.1)
  exact ⟨_, made, rfl, kept.trans (congrArg _ made), coordinated⟩

/-- At 1817 Hz half a millisecond of a second is left for the picture, and this curve leaves one part
of 100000 of its line. -/
theorem sliver_outgrows_word :
    (Request.mk 65535 17000 1817 false false).Fits ∧ (Gtf.Curve.mk 65535 201 255 0).Fits ∧
      Gtf.checkedMode? ⟨65535, 17000, 1817, false, false⟩ ⟨65535, 201, 255, 0⟩ =
        .error .overflow := by
  exact ⟨by constructor <;> decide, by constructor <;> decide, by decide +kernel⟩

end Edid
