import Edid.Proofs.Formula.Edges

/-!
# Reduced blanking

A mode with reduced blanking shares what is left of a second among the lines of the picture alone, so
its line period, and with it the clock, can be told from the height and the rate. Up to 16384 pixels
and 8192 lines, at up to 85 Hz, there is always such a mode. From a height of 64 lines upward, and at
50 Hz or more, its clock is not rounded down to nothing.
-/

set_option autoImplicit false

namespace Edid.Cvt

open Formula

section Progressive

variable {request : Request} (progressive : request.Progressive)
include progressive

/-- The line period shares what the blanking leaves of a second, and the lines follow from the period. -/
theorem reduced_bounds {blanking : Blanking} (running : request.refresh ≠ 0)
    (found : (Frame.ofRequest request).reduced? = some blanking) :
    0 < blanking.period ∧
      blanking.period * (request.height * request.refresh) + 460000 * request.refresh ≤
        1000000000 ∧
      1000000000 < (blanking.period + 1) * (request.height * request.refresh) +
        460000 * request.refresh ∧
      blanking.fieldTotal = request.height + max (460000 / blanking.period + 1)
        (3 + pulseLines request.width request.height + 6) := by
  rw [Frame.ofRequest_progressive progressive running] at found
  simp only [Frame.reduced?] at found
  split at found
  · contradiction
  · next time =>
      split at found
      · contradiction
      · next nonzero =>
          cases found
          dsimp only
          generalize request.height * request.refresh = rows at time nonzero ⊢
          generalize rest : 1000000000 - 460 * 1000 * request.refresh = available at time nonzero ⊢
          have low := Nat.div_mul_le_self available rows
          have high : available < (available / rows + 1) * rows :=
            lt_of_lt_of_eq (Nat.lt_mul_div_succ available (by omega)) (Nat.mul_comm _ _)
          exact ⟨Nat.pos_of_ne_zero nonzero, by omega, by omega, rfl⟩

theorem exists_reduced? (running : request.refresh ≠ 0) (tall : request.height ≠ 0)
    (time : request.height * request.refresh + 460000 * request.refresh ≤ 1000000000) :
    ∃ blanking, (Frame.ofRequest request).reduced? = some blanking := by
  rw [Frame.ofRequest_progressive progressive running]
  simp only [Frame.reduced?]
  have positive : 0 < request.height * request.refresh := Nat.mul_pos (by omega) (by omega)
  generalize request.height * request.refresh = rows at time positive ⊢
  have period : 1 ≤ (1000000000 - 460 * 1000 * request.refresh) / rows :=
    (Nat.le_div_iff_mul_le positive).mpr (by omega)
  rw [if_neg (by omega), if_neg (by omega)]
  exact ⟨_, rfl⟩

/-- With 64 lines a line lasts at most 305312 nanoseconds, and with its blanking it has more pixels
than a step of the clock takes. -/
theorem Yields.clock_pos_of_reduced {blanking : Blanking} {mode : Mode}
    (yields : Yields request true blanking mode) (tall : 64 ≤ request.height)
    (usual : 50 ≤ request.refresh) : 0 < mode.clock := by
  obtain ⟨positive, spent, _⟩ := reduced_bounds progressive (by omega) yields.blanking_eq
  have total := (edges_of_reduced? yields.blanking_eq).2.2.1
  have rows : 64 * 50 ≤ request.height * request.refresh := Nat.mul_le_mul tall usual
  have short := Nat.mul_le_mul_left blanking.period rows
  have fast := (Blanking.clock_bounds positive).2
  rw [← yields.clock] at fast
  by_contra stopped
  rw [Nat.eq_zero_of_not_pos stopped] at fast
  omega

theorem exists_reducedMode? (width : request.width ≤ 16384)
    (height : request.height ≤ 8192) (running : request.refresh ≠ 0)
    (usual : request.refresh ≤ 85) (nonempty : request.width ≠ 0 ∧ request.height ≠ 0) :
    ∃ mode, mode? request true = some mode := by
  have rows : request.height * request.refresh ≤ 8192 * 85 := Nat.mul_le_mul height usual
  obtain ⟨blanking, found⟩ := exists_reduced? progressive running nonempty.2 (by omega)
  obtain ⟨positive, _, kept, lines⟩ := reduced_bounds progressive running found
  obtain ⟨syncStart, syncEnd, total, _⟩ := edges_of_reduced? found
  rw [Frame.ofRequest_progressive progressive running] at syncStart syncEnd total
  dsimp only at syncStart syncEnd total
  have long : 1000 ≤ blanking.period := by
    by_contra short
    have few := Nat.mul_le_mul (show blanking.period + 1 ≤ 1000 by omega) rows
    omega
  have porch : 460000 / blanking.period ≤ 460 :=
    Nat.div_le_of_le_mul (Nat.mul_le_mul_right 460 long)
  have pulse := pulseLines_le request.width request.height
  have slow := (Blanking.clock_bounds positive).1
  have clock := Nat.mul_le_mul_left blanking.clock long
  rw [mode?_eq_bind, if_neg (by omega), if_pos rfl, found, Option.bind_some,
    Frame.ofRequest_progressive progressive running, progressive.interlaced]
  apply Blanking.exists_mode?
  · rw [clockBound]
    omega
  · constructor <;> dsimp only <;> omega
  · constructor <;> dsimp only <;> omega

end Progressive

end Edid.Cvt
