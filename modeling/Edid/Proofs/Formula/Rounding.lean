import Edid.Proofs.Machine.Mode

/-!
# Rounded rates

A rate is rounded to the nearest integer. It is a given rate exactly if twice the frames of a second
lie between the odd multiples around it, which is how the formulas below are held against what they
were asked for.
-/

set_option autoImplicit false

namespace Edid

theorem roundDiv_eq_of_between {numerator denominator quotient : Nat}
    (low : 2 * quotient * denominator ≤ 2 * numerator + denominator)
    (high : 2 * numerator < (2 * quotient + 1) * denominator) :
    roundDiv numerator denominator = quotient := by
  have doubled : 2 * quotient * denominator = 2 * (quotient * denominator) := Nat.mul_assoc _ _ _
  rw [Nat.succ_mul (2 * quotient), doubled] at high
  rw [doubled] at low
  apply Nat.div_eq_of_lt_le
  · omega
  · rw [Nat.succ_mul]
    omega

/-- A mode that shows every line once, frame by frame, runs at a rate if its clock is within half a
frame of it. -/
theorem Mode.refresh_eq_of_between {mode : Mode} {rate : Nat}
    (frames : mode.flags.interlaced = false) (once : mode.flags.doubleScan = false)
    (pixels : 0 < mode.horizontal.total * mode.vertical.total) (small : rate < 0x100000000)
    (low : 2 * rate * (mode.horizontal.total * mode.vertical.total) ≤
      2 * (mode.clock * 1000) + mode.horizontal.total * mode.vertical.total)
    (high : 2 * (mode.clock * 1000) <
      (2 * rate + 1) * (mode.horizontal.total * mode.vertical.total)) :
    mode.refresh = rate := by
  have wide := Nat.pos_of_mul_pos_right pixels
  have tall := Nat.pos_of_mul_pos_left pixels
  have numerator : mode.refreshNumerator = mode.clock * 1000 := by
    simp [refreshNumerator, frames]
  have denominator : mode.refreshDenominator = mode.horizontal.total * mode.vertical.total := by
    simp [refreshDenominator, once]
  rw [refresh, if_neg (by omega), numerator, denominator, roundDiv_eq_of_between low high]
  exact Nat.mod_eq_of_lt small

namespace Formula

/-- A request for a picture without margins, frame by frame. -/
structure Request.Progressive (request : Request) : Prop where
  margins : request.margins = false
  interlaced : request.interlaced = false

end Formula

end Edid
