import Mathlib.Tactic.MkIffOfInductiveProp
import Edid.Proofs.Formula.Cvt
import Edid.Proofs.Formula.Gtf

/-!
# Where a formula puts the sync pulse

Both formulas end the horizontal pulse in the middle of the blanking, which has whole cells of eight
pixels on either side. The coordinated formula begins the pulse with a cell, behind where eight
percent of the line would, and blanks a fifth of the line at least. So the pulse stays clear of the
picture, and it is never as short as the one of reduced blanking where the blanking is. The
generalized formula rounds the pulse by itself, and a pulse that is longer than half of the blanking
begins in the picture.
-/

set_option autoImplicit false

namespace Edid

namespace Axis

/-- The pulse lasts, and it lies between the picture and the end. -/
@[mk_iff]
structure Ordered (axis : Axis) : Prop where
  front : axis.active ≤ axis.syncStart
  pulse : axis.syncStart < axis.syncEnd
  back : axis.syncEnd ≤ axis.total

/-- There is a porch on either side of the pulse. -/
structure Spaced (axis : Axis) : Prop where
  front : axis.active < axis.syncStart
  pulse : axis.syncStart < axis.syncEnd
  back : axis.syncEnd < axis.total

instance (axis : Axis) : Decidable axis.Ordered :=
  decidable_of_iff _ axis.ordered_iff.symm

/-- The pulse ends in the middle of the blanking, with so many cells on either side. -/
@[mk_iff]
structure Halved (axis : Axis) (cells : Nat) : Prop where
  syncEnd : axis.syncEnd = axis.active + 8 * cells
  total : axis.total = axis.active + 16 * cells

end Axis

/-- Reduced blanking is known by ten cells on either side and a pulse of four. -/
theorem Mode.isReducedBlanking_iff (mode : Mode) :
    mode.isReducedBlanking = true ↔
      mode.horizontal.Halved 10 ∧ mode.horizontal.syncEnd = mode.horizontal.syncStart + 32 ∧
        mode.vertical.syncStart = mode.vertical.active + 3 := by
  simp only [isReducedBlanking, Axis.halved_iff, Bool.and_eq_true, decide_eq_true_eq]
  omega

namespace Cvt

open Formula

/-! ## The coordinated formula -/

section Rules

variable {frame : Frame} {blanking : Blanking}

theorem edges_of_reduced? (found : frame.reduced? = some blanking) :
    blanking.syncStart = frame.activeWidth + 48 ∧ blanking.syncEnd = frame.activeWidth + 80 ∧
      blanking.total = frame.activeWidth + 160 ∧
      frame.fieldLines + 3 + frame.syncLines + 6 ≤ blanking.fieldTotal := by
  simp only [Frame.reduced?] at found
  split at found
  · contradiction
  · split at found
    · contradiction
    · cases found
      exact ⟨rfl, rfl, rfl, by dsimp only; omega⟩

/-- Either rule leaves room for the pulse with three lines before it and three behind. -/
theorem le_fieldTotal {reduced : Bool}
    (found : (if reduced then frame.reduced? else frame.ordinary?) = some blanking) :
    frame.fieldLines + 3 + frame.syncLines + 3 ≤ blanking.fieldTotal := by
  cases reduced with
  | false =>
      obtain ⟨_, rule⟩ := exists_ordinaryBlanking found
      exact rule.lines
  | true =>
      obtain ⟨_, _, _, lines⟩ := edges_of_reduced? found
      omega

end Rules

section Frames

variable (request : Request)

theorem Frame.activeWidth_ofRequest :
    (Frame.ofRequest request).activeWidth % 8 = 0 ∧
      request.width ≤ (Frame.ofRequest request).activeWidth + 7 := by
  simp only [Frame.ofRequest]
  generalize (request.width - request.width % 8) * 18 / 1000 = margin
  split <;> omega

/-- A frame of two fields can have one line more than they have. -/
theorem Frame.activeLines_ofRequest :
    (Frame.ofRequest request).activeLines ≤
      if request.interlaced then 2 * (Frame.ofRequest request).fieldLines + 1
      else (Frame.ofRequest request).fieldLines := by
  simp only [Frame.ofRequest]
  cases request.interlaced <;> simp only [if_true, if_false, Bool.false_eq_true] <;> omega

theorem pulseLines_pos (width height : Nat) : 0 < pulseLines width height := by
  unfold pulseLines
  repeat' split
  all_goals decide

end Frames

section Modes

variable {request : Request} {reduced : Bool} {mode : Mode} {blanking : Blanking}

theorem Yields.reduced_edges (yields : Yields request true blanking mode) :
    mode.horizontal.Halved 10 ∧ mode.horizontal.syncStart = mode.horizontal.active + 48 := by
  have width : mode.horizontal.active = (Frame.ofRequest request).activeWidth := yields.width
  obtain ⟨syncStart, syncEnd, total, _⟩ := edges_of_reduced? yields.blanking_eq
  rw [← yields.syncStart, ← width] at syncStart
  rw [← yields.syncEnd, ← width] at syncEnd
  rw [← yields.total, ← width] at total
  exact ⟨⟨syncEnd, total⟩, syncStart⟩

theorem Yields.ordinary_edges (yields : Yields request false blanking mode) :
    ∃ cells, mode.horizontal.Halved cells ∧
      mode.horizontal.active ≤ 64 * cells + 63 ∧ 112 * cells ≤ 3 * mode.horizontal.active ∧
      mode.horizontal.syncStart =
        (mode.horizontal.syncEnd - mode.horizontal.total * 8 / 100) / 8 * 8 + 8 := by
  have width : mode.horizontal.active = (Frame.ofRequest request).activeWidth := yields.width
  obtain ⟨cells, rule⟩ := exists_ordinaryBlanking yields.blanking_eq
  rw [width, yields.syncStart, yields.syncEnd, yields.total]
  refine ⟨cells, ⟨?_, ?_⟩, rule.least, rule.most, rule.syncStart⟩
  · rw [yields.syncEnd, rule.syncEnd, width]
  · rw [yields.total, rule.total, width]

/-- The rule that made a mode can be told from its edges. Ten cells on either side of the end of the
pulse are three tenths of the line at most if the rule is the ordinary one, and eight percent of so
long a line are more than a reduced pulse. -/
theorem isReducedBlanking_of_mode? (found : mode? request reduced = some mode) :
    mode.isReducedBlanking = reduced := by
  obtain ⟨blanking, yields⟩ := exists_yields_of_mode? found
  cases reduced with
  | true =>
      obtain ⟨halved, syncStart⟩ := yields.reduced_edges
      have pulse : mode.horizontal.syncEnd = mode.horizontal.syncStart + 32 := by
        rw [halved.syncEnd, syncStart]
      exact mode.isReducedBlanking_iff.mpr ⟨halved, pulse, yields.pulseStart⟩
  | false =>
      obtain ⟨cells, ⟨_, sixteens⟩, _, most, syncStart⟩ := yields.ordinary_edges
      refine Bool.eq_false_iff.mpr fun known => ?_
      obtain ⟨⟨syncEnd, total⟩, pulse, _⟩ := mode.isReducedBlanking_iff.mp known
      have ten : cells = 10 := by omega
      omega

/-- Three of the four marks of reduced blanking are not enough. -/
theorem isReducedBlanking_of_mode?_portrait :
    ∃ mode, mode? ⟨648, 79, 292, false, false⟩ false = some mode ∧ mode.horizontal.Halved 10 ∧
      mode.vertical.syncStart = mode.vertical.active + 3 ∧ mode.isReducedBlanking = false := by
  have found : mode? ⟨648, 79, 292, false, false⟩ false = some (.timing 23000
      ⟨648, 672, 728, 808⟩ ⟨79, 82, 92, 98⟩ .negativePositive) := by decide +kernel
  exact ⟨_, found, ⟨rfl, rfl⟩, rfl, isReducedBlanking_of_mode? found⟩

theorem Yields.vertical_spaced (yields : Yields request reduced blanking mode) :
    mode.vertical.Spaced := by
  have height : mode.vertical.active = (Frame.ofRequest request).activeLines := yields.height
  have pulseStart : mode.vertical.syncStart = mode.vertical.active + 3 := yields.pulseStart
  have pulseEnd : mode.vertical.syncEnd =
      mode.vertical.active + 3 + (Frame.ofRequest request).syncLines := yields.pulseEnd
  have lasting : 0 < (Frame.ofRequest request).syncLines := pulseLines_pos _ _
  have active := Frame.activeLines_ofRequest request
  have room := le_fieldTotal yields.blanking_eq
  have lines := yields.lines
  refine ⟨by omega, by omega, ?_⟩
  cases interlaced : request.interlaced <;>
    simp only [interlaced, if_true, if_false, Bool.false_eq_true] at active lines <;> omega

theorem Yields.horizontal_spaced (yields : Yields request reduced blanking mode)
    (wide : 248 ≤ request.width) : mode.horizontal.Spaced := by
  cases reduced with
  | true =>
      obtain ⟨⟨syncEnd, total⟩, syncStart⟩ := yields.reduced_edges
      exact ⟨by omega, by omega, by omega⟩
  | false =>
      have width : mode.horizontal.active = (Frame.ofRequest request).activeWidth := yields.width
      obtain ⟨steps, near⟩ := Frame.activeWidth_ofRequest request
      rw [← width] at steps near
      obtain ⟨cells, ⟨syncEnd, total⟩, least, _, syncStart⟩ := yields.ordinary_edges
      exact ⟨by omega, by omega, by omega⟩

/-- From the least width of a standard timing code upward every pulse has a porch on either side. -/
theorem spaced_of_mode? (wide : 248 ≤ request.width) (found : mode? request reduced = some mode) :
    mode.horizontal.Spaced ∧ mode.vertical.Spaced := by
  obtain ⟨blanking, yields⟩ := exists_yields_of_mode? found
  exact ⟨yields.horizontal_spaced wide, yields.vertical_spaced⟩

/-- A field of this frame has half a line of the picture less than it shows. -/
theorem spaced_of_mode?_odd :
    ∃ mode, mode? ⟨255, 139, 60, true, true⟩ false = some mode ∧ mode.height = 141 ∧
      mode.horizontal.Spaced ∧ mode.vertical.Spaced := by
  have found : mode? ⟨255, 139, 60, true, true⟩ false = some (.timing 2750
      ⟨248, 256, 272, 296⟩ ⟨141, 144, 154, 174⟩
      { Flags.negativePositive with interlaced := true }) := by decide +kernel
  exact ⟨_, found, rfl, spaced_of_mode? (by decide) found⟩

end Modes

end Cvt

namespace Gtf

open Formula

/-! ## The generalized formula -/

theorem syncPixels_natCast (total : Nat) :
    syncPixels total = ((total * 8 / 100 + 4) / 8 * 8 : Nat) := by
  simp only [syncPixels]
  norm_cast

section Lines

variable {axis : Axis} (pulse : (axis.syncStart : Int) + syncPixels axis.total = axis.syncEnd)
include pulse

/-- A line of less than fifty pixels has no pulse. -/
theorem syncStart_lt_syncEnd_iff : axis.syncStart < axis.syncEnd ↔ 50 ≤ axis.total := by
  rw [syncPixels_natCast] at pulse
  omega

/-- The pulse takes eight percent of the line, to the nearest cell. It stays out of the picture if
the cells in front of its end are as many. -/
theorem active_le_syncStart_iff {cells : Nat} (halved : axis.Halved cells) :
    axis.active ≤ axis.syncStart ↔ axis.active < 84 * cells + 50 := by
  obtain ⟨syncEnd, total⟩ := halved
  rw [syncPixels_natCast] at pulse
  omega

end Lines

theorem blankPixels_natCast (activeWidth : Nat) {duty : Nat} (part : duty < 100000) :
    blankPixels activeWidth duty =
      (16 * ((activeWidth * duty / (100000 - duty) + 8) / 16) : Nat) := by
  have rest : (100000 - duty : Int) = (100000 - duty : Nat) := by omega
  rw [blankPixels, rest, Nat.mul_comm 16]
  norm_cast

section Blank

variable {activeWidth : Nat}

/-- A line that should lose up to 23 pixels of the picture loses none, as blanking is rounded. -/
theorem exists_cells {duty : Int} (little : -23 ≤ (activeWidth * duty).tdiv (100000 - duty)) :
    ∃ cells : Nat, blankPixels activeWidth duty = 16 * cells := by
  rw [blankPixels]
  generalize (activeWidth * duty).tdiv (100000 - duty) = ideal at little ⊢
  have kept : 0 ≤ (ideal + 8).tdiv 16 := by
    rcases Int.le_total 0 (ideal + 8) with positive | negative
    · exact Int.tdiv_nonneg positive (by decide)
    · have rounded : ((ideal + 8).tdiv 16).natAbs = (ideal + 8).natAbs / 16 :=
        Int.natAbs_tdiv _ 16
      omega
  exact ⟨((ideal + 8).tdiv 16).toNat, by omega⟩

/-! The default curve has thirty percent of a line blank, less what the line rate takes. -/

/-- Where the line rate takes more than there is, a narrow picture should not lose more than that. -/
theorem exists_cells_of_narrow {taken : Nat} (narrow : activeWidth < 288) (few : taken ≤ 34542) :
    ∃ cells : Nat, blankPixels activeWidth (30000 - taken) = 16 * cells := by
  have share : -(activeWidth : Int) ≤ (13 : Nat) *
      (activeWidth * (30000 - taken : Int)).tdiv (100000 - (30000 - taken)) :=
    le_blankShare (by omega) (by omega)
  exact exists_cells (by omega)

/-- The cells on either side are no fewer than for any less share of the line. -/
theorem exists_cells_of_taken {taken : Nat} (few : taken ≤ 30000) :
    ∃ cells : Nat, blankPixels activeWidth (30000 - taken) = 16 * cells ∧
      ∀ less, less + taken ≤ 30000 → (activeWidth * less / (100000 - less) + 8) / 16 ≤ cells := by
  have blank := blankPixels_natCast activeWidth (show 30000 - taken < 100000 by omega)
  rw [Int.ofNat_sub few] at blank
  refine ⟨_, blank, fun less enough => ?_⟩
  have share : activeWidth * less / (100000 - less) ≤
      activeWidth * (30000 - taken) / (100000 - (30000 - taken)) :=
    Nat.div_le_div (Nat.mul_le_mul_left _ (by omega)) (by omega) (by omega)
  omega

end Blank

section Progressive

variable {request : Request} (progressive : request.Progressive) {curve : Curve} {lineRate : Nat}
  {mode : Mode}
include progressive

theorem Yields.halved (yields : Yields request curve lineRate mode) {cells : Nat}
    (blank : blankPixels mode.horizontal.active (curve.duty lineRate) = 16 * cells) :
    mode.horizontal.Halved cells := by
  have width : mode.horizontal.active = (Frame.ofRequest request).width := yields.width
  have same : (Frame.ofRequest request).activeWidth = (Frame.ofRequest request).width := by
    rw [Frame.ofRequest_progressive progressive]
  have syncEnd := yields.syncEnd
  have total := yields.total
  rw [same, ← width, blank] at syncEnd total
  rw [Int.tdiv_eq_ediv_of_nonneg (by omega)] at syncEnd
  exact ⟨by omega, by omega⟩

/-- At less than 4546 lines a second the pulse of three lines would outlast the blanking. -/
theorem Yields.vertical_ordered (yields : Yields request curve lineRate mode)
    (fast : 4546 ≤ lineRate) : mode.vertical.Ordered := by
  have height : mode.vertical.active = (Frame.ofRequest request).height := yields.height
  have pulseStart : mode.vertical.syncStart = mode.vertical.active + 1 := yields.pulseStart
  have pulseEnd : mode.vertical.syncEnd = mode.vertical.active + 4 := yields.pulseEnd
  have lines := yields.lines
  rw [progressive.interlaced, if_neg Bool.false_ne_true, Frame.fieldTotal] at lines
  rw [Frame.ofRequest_progressive progressive] at height lines
  dsimp only at height lines
  exact ⟨by omega, by omega, by omega⟩

end Progressive

end Gtf

end Edid
