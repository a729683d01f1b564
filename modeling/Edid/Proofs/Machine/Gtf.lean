import Edid.Formula.Gtf
import Edid.Proofs.Machine.Cvt

/-!
# The generalized timing formula in machine words

A supplied curve can make the share of a line that is blank come close to all of it, and the line
then so long that its pixels of a second overflow a word of 64 bits. All other intermediate numbers
stay within one, whatever the request and the curve are. Requests up to 2400 by 2400 at 200 Hz keep
the pixels of a second within it as well.
-/

set_option autoImplicit false

namespace Edid

/-- A request that the formula is safe for. -/
structure Formula.Request.Moderate (request : Formula.Request) : Prop where
  width : request.width ≤ 2400
  height : request.height ≤ 2400
  refresh : request.refresh ≤ 200

theorem Formula.Request.Moderate.fits {request : Formula.Request} (moderate : request.Moderate) :
    request.Fits :=
  ⟨Nat.lt_of_le_of_lt moderate.width (by decide), Nat.lt_of_le_of_lt moderate.height (by decide),
    Nat.lt_of_le_of_lt moderate.refresh (by decide)⟩

namespace Gtf

open Formula Machine

/-- Coefficients in the words of a range descriptor. -/
structure Curve.Fits (curve : Curve) : Prop where
  m : curve.m < 0x10000
  twoC : curve.twoC < 0x100
  k : curve.k < 0x100
  twoJ : curve.twoJ < 0x100

/-- What a frame of a request in machine words stays within. -/
structure Frame.Small (frame : Frame) : Prop where
  fieldRate : frame.fieldRate < 0x200000000
  interlace : frame.interlace ≤ 1
  width : frame.width ≤ 65536
  activeWidth : frame.activeWidth ≤ 67896
  height : frame.height < 0x10000
  fieldLines : frame.fieldLines ≤ 67895

structure Frame.Moderate (frame : Frame) : Prop where
  fieldRate : frame.fieldRate ≤ 400
  interlace : frame.interlace ≤ 1
  width : frame.width ≤ 2404
  activeWidth : frame.activeWidth ≤ 2500
  height : frame.height ≤ 2400
  fieldLines : frame.fieldLines ≤ 2500

section Frames

theorem Frame.checkedOfRequest_eq {request : Request} (fits : request.Fits) :
    Frame.checkedOfRequest request = .ok (Frame.ofRequest request) := by
  obtain ⟨width, height, refresh⟩ := fits
  simp only [Frame.checkedOfRequest, Frame.ofRequest]
  cases request.interlaced <;> cases request.margins <;> simp (disch := omega) [below_eq]

theorem Frame.small_ofRequest {request : Request} (fits : request.Fits) :
    (Frame.ofRequest request).Small := by
  obtain ⟨width, height, refresh⟩ := fits
  simp only [Frame.ofRequest]
  cases request.interlaced <;> cases request.margins <;>
    simp only [if_true, if_false, Bool.false_eq_true] <;> constructor <;> dsimp only <;> omega

theorem Frame.moderate_ofRequest {request : Request} (moderate : request.Moderate) :
    (Frame.ofRequest request).Moderate := by
  obtain ⟨width, height, refresh⟩ := moderate
  simp only [Frame.ofRequest]
  cases request.interlaced <;> cases request.margins <;>
    simp only [if_true, if_false, Bool.false_eq_true] <;> constructor <;> dsimp only <;> omega

/-- A rate that leaves time is at most 1817 fields a second. -/
theorem Frame.halfLines_le {frame : Frame} (small : frame.Small)
    (time : (1000000 - 550 * frame.fieldRate) / 500 ≠ 0) :
    ((frame.fieldLines + 1) * 2 + frame.interlace) * 1000 * frame.fieldRate ≤
      135793000 * 1817 := by
  obtain ⟨_, interlace, _, _, _, fieldLines⟩ := small
  exact Nat.mul_le_mul (by omega) (by omega)

theorem Frame.checkedLineRate?_eq {frame : Frame} (small : frame.Small) :
    frame.checkedLineRate? = .ok frame.lineRate? := by
  have ⟨fieldRate, interlace, _, _, _, fieldLines⟩ := small
  simp only [lineRate?]
  unfold checkedLineRate?
  refine below_bind (by omega) (within_bind (by omega) ?_)
  refine below_bind (by omega) (below_bind (by omega) (below_bind (by omega) ?_))
  by_cases none : (1000000 - 550 * frame.fieldRate) / 500 = 0
  · have late : (1000000 - (550 * frame.fieldRate : Nat) : Int).tdiv 500 ≤ 0 := by
      rcases Int.le_total 0 (1000000 - (550 * frame.fieldRate : Nat)) with positive | negative
      · rw [Int.tdiv_eq_ediv_of_nonneg positive]
        omega
      · have opposite := Int.tdiv_nonneg (Int.neg_nonneg_of_nonpos negative)
          (show (0 : Int) ≤ 500 by decide)
        rw [Int.neg_tdiv] at opposite
        omega
    rw [if_pos none, if_pos late, pure_eq]
  · have available : (1000000 - (550 * frame.fieldRate : Nat) : Int).tdiv 500 =
        ((1000000 - 550 * frame.fieldRate) / 500 : Nat) := by
      rw [Int.tdiv_eq_ediv_of_nonneg (by omega)]
      omega
    have product := halfLines_le small none
    rw [available, if_neg none, if_neg (by omega), Int.toNat_natCast]
    refine below_bind (by omega) (below_bind (by omega) (divided_bind none ?_))
    rw [pure_eq]

theorem Frame.exists_of_lineRate? {frame : Frame} {lineRate : Nat}
    (found : frame.lineRate? = some lineRate) :
    lineRate ≠ 0 ∧ (1000000 - 550 * frame.fieldRate) / 500 ≠ 0 ∧
      lineRate = ((frame.fieldLines + 1) * 2 + frame.interlace) * 1000 * frame.fieldRate /
        ((1000000 - 550 * frame.fieldRate) / 500) := by
  simp only [lineRate?] at found
  split at found
  · contradiction
  · next time =>
      split at found
      · contradiction
      · next positive =>
          cases found
          exact ⟨positive, time, rfl⟩

theorem Frame.lineRate?_le {frame : Frame} (small : frame.Small) {lineRate : Nat}
    (found : frame.lineRate? = some lineRate) : lineRate ≠ 0 ∧ lineRate ≤ 250000000000 := by
  obtain ⟨positive, time, rfl⟩ := exists_of_lineRate? found
  have product := halfLines_le small time
  exact ⟨positive, Nat.le_trans (Nat.div_le_self _ _) (Nat.le_trans product (by decide))⟩

theorem Frame.lineRate?_le_of_moderate {frame : Frame} (moderate : frame.Moderate) {lineRate : Nat}
    (found : frame.lineRate? = some lineRate) : lineRate ≤ 1300000 := by
  obtain ⟨fieldRate, interlace, _, _, _, fieldLines⟩ := moderate
  have product : ((frame.fieldLines + 1) * 2 + frame.interlace) * 1000 * frame.fieldRate ≤
      5003000 * 400 := Nat.mul_le_mul (by omega) fieldRate
  have available : 1560 ≤ (1000000 - 550 * frame.fieldRate) / 500 := by omega
  obtain ⟨_, _, rfl⟩ := exists_of_lineRate? found
  have quotient := Nat.div_le_div product available (by decide)
  exact Nat.le_trans quotient (by decide)

end Frames

section Lines

theorem Frame.checkedFieldTotal_eq {frame : Frame} (small : frame.Small) {lineRate : Nat}
    (rate : lineRate ≤ 250000000000) :
    frame.checkedFieldTotal lineRate = .ok (frame.fieldTotal lineRate) := by
  have fieldLines := small.fieldLines
  unfold checkedFieldTotal fieldTotal
  refine below_bind (by omega) (below_bind (by omega) (below_bind (by omega) ?_))
  exact below_eq (by omega)

theorem Frame.fieldTotal_le {frame : Frame} (small : frame.Small) {lineRate : Nat}
    (rate : lineRate ≤ 250000000000) : frame.fieldTotal lineRate ≤ 140000000 := by
  have fieldLines := small.fieldLines
  rw [fieldTotal]
  omega

private theorem natAbs_tdiv_le (value divisor : Int) :
    (value.tdiv divisor).natAbs ≤ value.natAbs := by
  rw [Int.natAbs_tdiv]
  exact Nat.div_le_self _ _

theorem Curve.checkedDuty_eq {curve : Curve} (fits : curve.Fits) {lineRate : Nat}
    (positive : lineRate ≠ 0) :
    curve.checkedDuty lineRate = .ok (curve.duty lineRate) ∧
      (curve.duty lineRate).natAbs ≤ 70000000000 := by
  obtain ⟨m, twoC, k, twoJ⟩ := fits
  have gradient : curve.k * curve.m ≤ 255 * 65535 := Nat.mul_le_mul (by omega) (by omega)
  have spanned : (((curve.twoC : Int) - curve.twoJ) * curve.k).natAbs ≤ 255 * 255 := by
    rw [Int.natAbs_mul]
    exact Nat.mul_le_mul (by omega) (by omega)
  have scaled := natAbs_tdiv_le (((curve.twoC : Int) - curve.twoJ) * curve.k) 256
  have halved :=
    natAbs_tdiv_le ((((curve.twoC : Int) - curve.twoJ) * curve.k).tdiv 256 + curve.twoJ) 2
  have slope := Nat.div_le_self (curve.k * curve.m / 256 * 1000000) lineRate
  have falling := Int.natCast_nonneg (curve.k * curve.m / 256 * 1000000 / lineRate)
  simp only [duty]
  refine ⟨?_, by omega⟩
  unfold checkedDuty
  refine within_bind (by omega) (within_bind (by omega) (within_bind (by omega) ?_))
  refine below_bind (by omega) (within_bind (by omega) (below_bind (by omega) ?_))
  exact divided_bind positive (within_eq (by omega))

theorem blankShare_le {activeWidth : Nat} {duty : Int} (part : duty < 100000) :
    ((activeWidth * duty).tdiv (100000 - duty)).natAbs ≤ activeWidth * 100000 := by
  rw [Int.natAbs_tdiv, Int.natAbs_mul, Int.natAbs_natCast]
  apply Nat.div_le_of_le_mul
  have share : duty.natAbs ≤ (100000 - duty).natAbs * 100000 := by omega
  calc
    activeWidth * duty.natAbs ≤ activeWidth * ((100000 - duty).natAbs * 100000) :=
      Nat.mul_le_mul_left _ share
    _ = (100000 - duty).natAbs * (activeWidth * 100000) := by
      rw [Nat.mul_left_comm]

theorem checkedBlankPixels_eq {activeWidth : Nat} {duty : Int} (narrow : activeWidth ≤ 67896)
    (part : duty < 100000) (bounded : duty.natAbs ≤ 70000000000) :
    checkedBlankPixels activeWidth duty = .ok (blankPixels activeWidth duty) ∧
      (blankPixels activeWidth duty).natAbs ≤ activeWidth * 100000 + 16 := by
  have product : (activeWidth * duty).natAbs ≤ 67896 * 70000000000 := by
    rw [Int.natAbs_mul]
    exact Nat.mul_le_mul narrow bounded
  have share : ((activeWidth * duty).tdiv (100000 - duty)).natAbs ≤ activeWidth * 100000 :=
    blankShare_le part
  have rounded : (((activeWidth * duty).tdiv (100000 - duty) + 8).tdiv 16).natAbs =
      ((activeWidth * duty).tdiv (100000 - duty) + 8).natAbs / 16 := Int.natAbs_tdiv _ 16
  simp only [blankPixels]
  refine ⟨?_, by omega⟩
  unfold checkedBlankPixels
  refine within_bind (by omega) (within_bind (by omega) ?_)
  refine quotient_bind (by omega) (by omega) (within_bind (by omega) ?_)
  exact within_eq (by omega)

theorem checkedSyncPixels_eq {total : Int} (bounded : total.natAbs ≤ 7000000000) :
    checkedSyncPixels total = .ok (syncPixels total) ∧
      (syncPixels total).natAbs ≤ 56000000032 := by
  have share := natAbs_tdiv_le (total * 8) 100
  have rounded : (((total * 8).tdiv 100 + 4).tdiv 8).natAbs = ((total * 8).tdiv 100 + 4).natAbs / 8 :=
    Int.natAbs_tdiv _ 8
  simp only [syncPixels]
  refine ⟨?_, by omega⟩
  unfold checkedSyncPixels
  exact within_bind (by omega) (within_bind (by omega) (within_eq (by omega)))

end Lines

section Modes

/-- The pixels of a second at a line rate. The clock is a thousandth of them. -/
def Frame.pixelRate (frame : Frame) (curve : Curve) (lineRate : Nat) : Int :=
  (frame.activeWidth + blankPixels frame.activeWidth (curve.duty lineRate)) * lineRate

theorem Frame.checkedMode?_eq {frame : Frame} (small : frame.Small) {lineRate : Nat}
    (rate : lineRate ≤ 250000000000) {curve : Curve} (part : curve.duty lineRate < 100000)
    (bounded : (curve.duty lineRate).natAbs ≤ 70000000000)
    (room : -0x8000000000000000 ≤ frame.pixelRate curve lineRate ∧
      frame.pixelRate curve lineRate < 0x8000000000000000) (request : Request) :
    frame.checkedMode? request curve lineRate (curve.duty lineRate) =
      .ok (frame.mode? request curve lineRate) := by
  have ⟨_, _, width, activeWidth, height, _⟩ := small
  obtain ⟨blank, blankLe⟩ := checkedBlankPixels_eq activeWidth part bounded
  have fieldTotal := frame.fieldTotal_le small rate
  simp only [Frame.mode?]
  unfold Frame.checkedMode?
  refine ok_step (frame.checkedFieldTotal_eq small rate) (ok_step blank ?_)
  rw [pixelRate] at room
  generalize blankPixels frame.activeWidth (curve.duty lineRate) = blank at blankLe room ⊢
  generalize frame.fieldTotal lineRate = fieldTotal at fieldTotal ⊢
  have long : (frame.activeWidth + blank : Int).natAbs ≤ 7000000000 := by omega
  obtain ⟨sync, syncLe⟩ := checkedSyncPixels_eq long
  have half := natAbs_tdiv_le blank 2
  refine within_bind (by omega) (within_bind room (ok_step sync ?_))
  refine within_bind (by omega) (within_bind (by omega) (within_bind (by omega) ?_))
  refine below_bind (by omega) (below_bind (by omega) ?_)
  cases request.interlaced with
  | false =>
      simp only [Bool.false_eq_true, if_false, pure_eq, ok_bind, Int.natCast_add]
      rfl
  | true =>
      refine below_bind (by omega) ?_
      simp only [pure_eq, Int.natCast_add, Int.natCast_mul]
      rfl

/-- The fault of a line whose pixels of a second do not fit. -/
theorem Frame.checkedMode?_eq_error {frame : Frame} (small : frame.Small) {lineRate : Nat}
    (rate : lineRate ≤ 250000000000) {curve : Curve} (part : curve.duty lineRate < 100000)
    (bounded : (curve.duty lineRate).natAbs ≤ 70000000000)
    (long : 0x8000000000000000 ≤ frame.pixelRate curve lineRate) (request : Request) :
    frame.checkedMode? request curve lineRate (curve.duty lineRate) = .error .overflow := by
  have activeWidth := small.activeWidth
  obtain ⟨blank, blankLe⟩ := checkedBlankPixels_eq activeWidth part bounded
  unfold Frame.checkedMode?
  refine ok_step (frame.checkedFieldTotal_eq small rate) (ok_step blank ?_)
  rw [pixelRate] at long
  refine within_bind (by omega) ?_
  rw [i64, within, if_neg (by omega)]
  rfl

/-- The request is not empty, its rate leaves time for the picture, and the curve leaves some of the
line. -/
structure Rated (request : Request) (curve : Curve) (lineRate : Nat) : Prop where
  nonempty : ¬ (request.width = 0 ∨ request.height = 0 ∨ request.refresh = 0)
  lineRate_eq : (Frame.ofRequest request).lineRate? = some lineRate
  duty_lt : curve.duty lineRate < 100000

/-- Until the line rate is known the machine does as the formula says. -/
theorem checkedMode?_spec {request : Request} (fits : request.Fits) {curve : Curve}
    (words : curve.Fits) :
    (∀ lineRate, ¬ Rated request curve lineRate) ∧ checkedMode? request curve = .ok none ∧
        mode? request curve = none ∨
      ∃ lineRate, Rated request curve lineRate ∧
        checkedMode? request curve = (Frame.ofRequest request).checkedMode? request curve lineRate
          (curve.duty lineRate) ∧
        mode? request curve = (Frame.ofRequest request).mode? request curve lineRate := by
  have small := Frame.small_ofRequest fits
  have framed := Frame.checkedOfRequest_eq fits
  have rated := Frame.checkedLineRate?_eq small
  simp only [mode?]
  unfold checkedMode?
  by_cases empty : request.width = 0 ∨ request.height = 0 ∨ request.refresh = 0
  · rw [if_pos empty, if_pos empty, pure_eq]
    exact .inl ⟨fun _ rated => rated.nonempty empty, rfl, rfl⟩
  · rw [if_neg empty, if_neg empty, framed, ok_bind, rated, ok_bind]
    cases found : (Frame.ofRequest request).lineRate? with
    | none =>
        refine .inl ⟨fun lineRate rated => ?_, rfl, rfl⟩
        cases found.symm.trans rated.lineRate_eq
    | some lineRate =>
        have known := (curve.checkedDuty_eq words (Frame.lineRate?_le small found).1).1
        dsimp only
        rw [known, ok_bind, Option.bind_some]
        by_cases whole : 100000 ≤ curve.duty lineRate
        · rw [if_pos whole, if_pos whole, pure_eq]
          refine .inl ⟨fun other rated => ?_, rfl, rfl⟩
          cases found.symm.trans rated.lineRate_eq
          exact Int.not_le.mpr rated.duty_lt whole
        · rw [if_neg whole, if_neg whole]
          exact .inr ⟨lineRate, ⟨empty, found, Int.not_le.mp whole⟩, rfl, rfl⟩

/-- The machine gives what the formula says if it has room for the pixels of a second. -/
theorem checkedMode?_eq_of_room {request : Request} (fits : request.Fits) {curve : Curve}
    (words : curve.Fits)
    (room : ∀ lineRate, Rated request curve lineRate →
      -0x8000000000000000 ≤ (Frame.ofRequest request).pixelRate curve lineRate ∧
        (Frame.ofRequest request).pixelRate curve lineRate < 0x8000000000000000) :
    checkedMode? request curve = .ok (mode? request curve) := by
  rcases checkedMode?_spec fits words with ⟨_, checked, none⟩ | ⟨lineRate, rated, checked, made⟩
  · rw [checked, none]
  · have small := Frame.small_ofRequest fits
    obtain ⟨positive, rate⟩ := Frame.lineRate?_le small rated.lineRate_eq
    obtain ⟨_, bounded⟩ := curve.checkedDuty_eq words positive
    rw [checked, made]
    exact Frame.checkedMode?_eq small rate rated.duty_lt bounded (room lineRate rated) request

theorem checkedMode?_eq {request : Request} (moderate : request.Moderate) {curve : Curve}
    (fits : curve.Fits) : checkedMode? request curve = .ok (mode? request curve) := by
  refine checkedMode?_eq_of_room moderate.fits fits fun lineRate rated => ?_
  have moderateFrame := Frame.moderate_ofRequest moderate
  have small := Frame.small_ofRequest moderate.fits
  have rate := Frame.lineRate?_le_of_moderate moderateFrame rated.lineRate_eq
  obtain ⟨positive, _⟩ := Frame.lineRate?_le small rated.lineRate_eq
  obtain ⟨_, bounded⟩ := curve.checkedDuty_eq fits positive
  obtain ⟨_, blank⟩ := checkedBlankPixels_eq small.activeWidth rated.duty_lt bounded
  have narrow := moderateFrame.activeWidth
  have product : ((Frame.ofRequest request).pixelRate curve lineRate).natAbs ≤
      250002516 * 1300000 := by
    rw [Frame.pixelRate, Int.natAbs_mul]
    exact Nat.mul_le_mul (by omega) (by omega)
  omega

theorem exists_rated_of_mode? {request : Request} {curve : Curve} {mode : Mode}
    (found : mode? request curve = some mode) :
    ∃ lineRate, Rated request curve lineRate ∧
      (Frame.ofRequest request).mode? request curve lineRate = some mode := by
  unfold mode? at found
  split at found
  · contradiction
  · next nonempty =>
      obtain ⟨lineRate, rated, found⟩ := Option.bind_eq_some_iff.mp found
      split at found
      · contradiction
      · next part => exact ⟨lineRate, ⟨nonempty, rated, Int.not_le.mp part⟩, found⟩

theorem Frame.fits_mode? {frame : Frame} {request : Request} {curve : Curve} {lineRate : Nat}
    {mode : Mode} (found : frame.mode? request curve lineRate = some mode) :
    mode.Fits ∧ mode.clock = mode.horizontal.total * lineRate / 1000 := by
  simp only [Frame.mode?, bind, Option.bind_eq_some_iff] at found
  obtain ⟨clock, clocked, horizontal, across, vertical, down, same⟩ := found
  cases same
  refine ⟨⟨narrow?_lt clocked, fits_narrowAxis? across, fits_narrowAxis? down⟩, ?_⟩
  rw [total_narrowAxis? across, ← Int.natCast_mul, Int.natCast_tdiv_eq_ediv] at clocked
  have exact := (narrow?_eq_some_iff.mp clocked).1
  dsimp only
  omega

/-- A mode for a moderate request fits, with room for the rounding of its line rate. -/
theorem fits_mode? {request : Request} (moderate : request.Moderate) {curve : Curve} {mode : Mode}
    (found : mode? request curve = some mode) :
    mode.Fits ∧ mode.clock + mode.horizontal.total / 2 < 0x100000000 := by
  obtain ⟨lineRate, rated, made⟩ := exists_rated_of_mode? found
  obtain ⟨fits, clock⟩ := Frame.fits_mode? made
  have rate :=
    Frame.lineRate?_le_of_moderate (Frame.moderate_ofRequest moderate) rated.lineRate_eq
  have slow : mode.horizontal.total * lineRate ≤ 65535 * 1300000 :=
    Nat.mul_le_mul (Nat.le_of_lt_succ fits.horizontal.total) rate
  have total := fits.horizontal.total
  exact ⟨fits, by omega⟩

end Modes

end Gtf

end Edid
