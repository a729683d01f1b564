import Edid.Modes.Inferred
import Edid.Proofs.Machine.Arithmetic

/-!
# Modes in machine words

The clock of a mode has 32 bits and its edges have 16. The rates of every such mode can be
computed in 64 bits, and its area in 32.
-/

set_option autoImplicit false

namespace Edid

structure Axis.Fits (axis : Axis) : Prop where
  active : axis.active < 0x10000
  syncStart : axis.syncStart < 0x10000
  syncEnd : axis.syncEnd < 0x10000
  total : axis.total < 0x10000

structure Mode.Fits (mode : Mode) : Prop where
  clock : mode.clock < 0x100000000
  horizontal : mode.horizontal.Fits
  vertical : mode.vertical.Fits

instance (axis : Axis) : Decidable axis.Fits :=
  decidable_of_iff (axis.active < 0x10000 ∧ axis.syncStart < 0x10000 ∧
    axis.syncEnd < 0x10000 ∧ axis.total < 0x10000)
    ⟨fun ⟨active, syncStart, syncEnd, total⟩ => ⟨active, syncStart, syncEnd, total⟩,
      fun fits => ⟨fits.active, fits.syncStart, fits.syncEnd, fits.total⟩⟩

instance (mode : Mode) : Decidable mode.Fits :=
  decidable_of_iff (mode.clock < 0x100000000 ∧ mode.horizontal.Fits ∧ mode.vertical.Fits)
    ⟨fun ⟨clock, horizontal, vertical⟩ => ⟨clock, horizontal, vertical⟩,
      fun fits => ⟨fits.clock, fits.horizontal, fits.vertical⟩⟩

theorem Mode.fits_withPreferred {mode : Mode} (fits : mode.Fits) (preferred : Bool) :
    (mode.withPreferred preferred).Fits :=
  ⟨fits.clock, fits.horizontal, fits.vertical⟩

theorem Mode.fits_inLayout {mode : Mode} (fits : mode.Fits) (layout : StereoLayout) :
    (mode.inLayout layout).Fits :=
  ⟨fits.clock, fits.horizontal, fits.vertical⟩

namespace Formula

theorem narrow?_eq_some_iff {bound result : Nat} {value : Int} :
    narrow? bound value = some result ↔ value = result ∧ result < bound := by
  rw [narrow?]
  split
  · rw [Option.some.injEq]
    omega
  · simp only [reduceCtorEq, false_iff]
    omega

theorem narrow?_lt {bound result : Nat} {value : Int} (found : narrow? bound value = some result) :
    result < bound :=
  (narrow?_eq_some_iff.mp found).2

theorem narrow?_natCast {bound value : Nat} (below : value < bound) :
    narrow? bound value = some value :=
  narrow?_eq_some_iff.mpr ⟨rfl, below⟩

theorem fits_narrowAxis? {active syncStart syncEnd total : Int} {axis : Axis}
    (found : narrowAxis? active syncStart syncEnd total = some axis) : axis.Fits := by
  simp only [narrowAxis?, bind, Option.bind_eq_some_iff] at found
  obtain ⟨_, first, _, second, _, third, _, fourth, same⟩ := found
  cases same
  exact ⟨narrow?_lt first, narrow?_lt second, narrow?_lt third, narrow?_lt fourth⟩

/-- What fits is kept as it is. -/
theorem edges_narrowAxis? {active syncStart syncEnd total : Int} {axis : Axis}
    (found : narrowAxis? active syncStart syncEnd total = some axis) :
    active = axis.active ∧ syncStart = axis.syncStart ∧ syncEnd = axis.syncEnd ∧
      total = axis.total := by
  simp only [narrowAxis?, bind, Option.bind_eq_some_iff] at found
  obtain ⟨_, first, _, second, _, third, _, fourth, same⟩ := found
  cases same
  exact ⟨(narrow?_eq_some_iff.mp first).1, (narrow?_eq_some_iff.mp second).1,
    (narrow?_eq_some_iff.mp third).1, (narrow?_eq_some_iff.mp fourth).1⟩

theorem narrowAxis?_natCast {axis : Axis} (fits : axis.Fits) :
    narrowAxis? axis.active axis.syncStart axis.syncEnd axis.total = some axis := by
  have kept {value : Nat} (below : value < 0x10000) : narrow? edgeBound value = some value :=
    narrow?_natCast below
  rw [narrowAxis?, kept fits.active, kept fits.syncStart, kept fits.syncEnd, kept fits.total]
  rfl

theorem total_narrowAxis? {active syncStart syncEnd total : Int} {axis : Axis}
    (found : narrowAxis? active syncStart syncEnd total = some axis) : total = axis.total :=
  (edges_narrowAxis? found).2.2.2

end Formula

open Machine

namespace Mode

section Rates

def checkedRefresh (mode : Mode) : Checked Nat := do
  if mode.horizontal.total = 0 ∨ mode.vertical.total = 0 then
    return 0
  else
    let pixels ← u64 (mode.horizontal.total * mode.vertical.total)
    let clock ← if mode.flags.interlaced then u64 (mode.clock * 2) else pure mode.clock
    let denominator ← if mode.flags.doubleScan then u64 (pixels * 2) else pure pixels
    let numerator ← u64 (clock * 1000)
    let rounded ← u64 (numerator + (← divided denominator 2))
    -- The quotient is cut to 32 bits, which no mode can make fail.
    return (← divided rounded denominator) % 0x100000000

def checkedLineRate (mode : Mode) : Checked Nat := do
  if mode.horizontal.total = 0 then
    return 0
  else
    let rounded ← u32 (mode.clock + (← divided mode.horizontal.total 2))
    divided rounded mode.horizontal.total

def checkedArea (mode : Mode) : Checked Nat :=
  u32 (mode.width * mode.height)

def checkedIsReducedBlanking (mode : Mode) : Checked Bool := do
  let blank ← i32 (mode.horizontal.total - mode.horizontal.active)
  let behind ← i32 (mode.horizontal.syncEnd - mode.horizontal.active)
  let pulse ← i32 (mode.horizontal.syncEnd - mode.horizontal.syncStart)
  let porch ← i32 (mode.vertical.syncStart - mode.vertical.active)
  return blank = 160 && behind = 80 && pulse = 32 && porch = 3

private theorem pixels_lt {mode : Mode} (fits : mode.Fits) :
    mode.horizontal.total * mode.vertical.total < 0x10000 * 0x10000 :=
  Nat.mul_lt_mul_of_lt_of_lt fits.horizontal.total fits.vertical.total

theorem checkedRefresh_eq {mode : Mode} (fits : mode.Fits) :
    mode.checkedRefresh = .ok mode.refresh := by
  have clock := fits.clock
  have few := pixels_lt fits
  by_cases empty : mode.horizontal.total = 0 ∨ mode.vertical.total = 0
  · simp only [checkedRefresh, if_pos empty, refresh, pure_eq]
  · have some : 0 < mode.horizontal.total * mode.vertical.total :=
      Nat.mul_pos (by omega) (by omega)
    simp only [checkedRefresh, refresh, if_neg empty, refreshNumerator, refreshDenominator,
      roundDiv]
    generalize mode.horizontal.total * mode.vertical.total = pixels at few some ⊢
    cases mode.flags.interlaced <;> cases mode.flags.doubleScan <;>
      simp (disch := omega) [below_eq, divided_eq, Nat.mul_comm]

theorem checkedLineRate_eq {mode : Mode}
    (small : mode.clock + mode.horizontal.total / 2 < 0x100000000) :
    mode.checkedLineRate = .ok mode.lineRate := by
  by_cases empty : mode.horizontal.total = 0
  · simp only [checkedLineRate, lineRate, if_pos empty, pure_eq]
  · simp (disch := omega) only [checkedLineRate, lineRate, if_neg empty, divided_eq,
      ok_bind, below_eq, roundDiv]

theorem checkedArea_eq {mode : Mode} (fits : mode.Fits) :
    mode.checkedArea = .ok mode.area := by
  have small : mode.width * mode.height < 0x10000 * 0x10000 :=
    Nat.mul_lt_mul_of_lt_of_lt fits.horizontal.active fits.vertical.active
  exact below_eq small

theorem checkedIsReducedBlanking_eq {mode : Mode} (fits : mode.Fits) :
    mode.checkedIsReducedBlanking = .ok mode.isReducedBlanking := by
  have ⟨_, ⟨active, syncStart, syncEnd, total⟩, ⟨lines, syncLine, _, _⟩⟩ := fits
  simp (disch := omega) only [checkedIsReducedBlanking, within_eq, ok_bind, pure_eq,
    isReducedBlanking]
  congr 1
  rw [Bool.eq_iff_iff]
  simp only [Bool.and_eq_true, decide_eq_true_eq]
  omega

end Rates

section Panel

def checkedTrimIfPanel (mode : Mode) : Checked Mode := do
  if mode.width = 1368 ∧ mode.height = 768 then
    let syncStart ← minus mode.horizontal.syncStart 1
    let syncEnd ← minus mode.horizontal.syncEnd 1
    return { mode with
      horizontal := { mode.horizontal with
        active := 1366, syncStart := syncStart, syncEnd := syncEnd } }
  else
    return mode

theorem checkedTrimIfPanel_eq {mode : Mode} (syncStart : 1 ≤ mode.horizontal.syncStart)
    (syncEnd : 1 ≤ mode.horizontal.syncEnd) : mode.checkedTrimIfPanel = .ok mode.trimIfPanel := by
  simp only [checkedTrimIfPanel, trimIfPanel, trimmedToPanel, minus_eq syncStart,
    minus_eq syncEnd, ok_bind, pure_eq]
  split <;> rfl

end Panel

end Mode

section Lists

/-- Every mode of a list fits. -/
abbrev AllFit (modes : List Mode) : Prop :=
  ∀ mode ∈ modes, mode.Fits

theorem allFit_nil : AllFit [] :=
  List.forall_mem_nil _

theorem allFit_append {left right : List Mode} (leftFit : AllFit left) (rightFit : AllFit right) :
    AllFit (left ++ right) := fun mode member =>
  (List.mem_append.mp member).elim (leftFit mode) (rightFit mode)

theorem allFit_toList {found : Option Mode} (fits : ∀ mode, found = some mode → mode.Fits) :
    AllFit found.toList := fun mode member => fits mode (Option.mem_toList.mp member)

theorem allFit_filterMap {α : Type} {f : α → Option Mode} {items : List α}
    (fits : ∀ item mode, f item = some mode → mode.Fits) : AllFit (items.filterMap f) := by
  intro mode member
  obtain ⟨item, _, found⟩ := List.mem_filterMap.mp member
  exact fits item mode found

theorem allFit_flatMap {α : Type} {f : α → List Mode} {items : List α}
    (fit : ∀ item, AllFit (f item)) : AllFit (items.flatMap f) := by
  intro mode member
  obtain ⟨item, _, listed⟩ := List.mem_flatMap.mp member
  exact fit item mode listed

def checkedHasSizeAndRefresh (modes : List Mode) (width height rate : Nat) : Checked Bool :=
  modes.anyM fun mode => do
    return mode.width == width && mode.height == height && (← mode.checkedRefresh) == rate

def checkedAccepts (modes : List Mode) (candidate : Mode) : Checked Bool := do
  let rate ← candidate.checkedRefresh
  if ← checkedHasSizeAndRefresh modes candidate.width candidate.height rate then
    return false
  else
    return modes.any fun mode =>
      candidate.width ≤ mode.width && candidate.height ≤ mode.height

theorem checkedHasSizeAndRefresh_eq {modes : List Mode} (fit : AllFit modes)
    (width height rate : Nat) :
    checkedHasSizeAndRefresh modes width height rate =
      .ok (hasSizeAndRefresh modes width height rate) := by
  refine anyM_ok fun mode member => ?_
  rw [Mode.checkedRefresh_eq (fit mode member)]
  rfl

theorem checkedAccepts_eq {modes : List Mode} (fit : AllFit modes)
    {candidate : Mode} (fits : candidate.Fits) :
    checkedAccepts modes candidate = .ok (accepts modes candidate) := by
  simp only [checkedAccepts, Mode.checkedRefresh_eq fits, ok_bind,
    checkedHasSizeAndRefresh_eq fit, accepts]
  cases hasSizeAndRefresh modes candidate.width candidate.height candidate.refresh <;>
    simp

end Lists

end Edid
