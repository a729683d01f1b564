import Edid.Proofs.Formula.Edges
import Edid.Proofs.Modes.Standard

/-!
# The front porch of standard timings

Where a display expects the first GTF curve, a standard timing code is answered by a listed timing,
by the mode of the panel or by a mode of the curve. The edges of each are in order, but for the one
that ends the front porch of the curve's modes. The curve blanks the less of a line the fewer lines
there are in a second, and the pulse takes eight percent of the line all the same. So in small
pictures the pulse can be longer than the half of the blanking that it has to fit in, and then it
begins before the picture ends. From 584 pixels upward a picture has lines enough.
-/

set_option autoImplicit false

namespace Edid

namespace StandardRequest

variable {request : StandardRequest} {context : TimingContext} {mode : Mode}

/-! ## Listed timings and the panel -/

theorem ordered_of_mem_dmt :
    ∀ mode ∈ Dmt.modes, mode.horizontal.Ordered ∧ mode.vertical.Ordered := by
  decide +kernel

theorem ordered_of_listed? (found : request.listed? context = some mode) :
    mode.horizontal.Ordered ∧ mode.vertical.Ordered := by
  obtain ⟨reduced, found⟩ := exists_find?_of_listed? found
  exact ordered_of_mem_dmt mode (List.mem_of_find?_eq_some found)

theorem ordered_of_panel (panel : request.isPanel = true)
    (found : Cvt.mode? request.formulaRequest false = some mode) :
    mode.trimmedToPanel.horizontal.Ordered ∧ mode.trimmedToPanel.vertical.Ordered := by
  obtain ⟨⟨width, height⟩, refresh⟩ := isPanel_iff.mp panel
  have made : Cvt.mode? ⟨1366, 768, 60, false, false⟩ false = some (.timing 84750
      ⟨1360, 1432, 1568, 1776⟩ ⟨768, 771, 781, 798⟩ .negativePositive) := by decide +kernel
  rw [formulaRequest, width, height, refresh, made] at found
  cases found
  decide

/-! ## The first curve -/

/-- The blanking has whole cells on either side of the middle. In a picture of 584 pixels at least
they are enough for the pulse: up to 608 pixels seven are, and from 616 pixels upward there are so
many lines that sixteen percent of each are blank. -/
theorem exists_cells_of_lineRate? (usual : request.Usual) (other : request.isPanel = false)
    {lineRate : Nat}
    (rated : (Gtf.Frame.ofRequest request.formulaRequest).lineRate? = some lineRate) :
    ∃ cells : Nat, Gtf.blankPixels request.width (Gtf.Curve.standard.duty lineRate) = 16 * cells ∧
      (584 ≤ request.width → request.width < 84 * cells + 50) := by
  have lines : 120000 * (request.height + 1) < 1934 * (lineRate + 1) :=
    Gtf.lt_lineRate request.progressive usual.refresh rated
  have shape := usual.shape
  have steps := usual.steps other
  have slope (rate : Nat) (positive : 0 < rate) (fast : rate ≤ lineRate) :
      300000000 / lineRate ≤ 300000000 / rate := Nat.div_le_div_left fast positive
  rw [Gtf.duty_standard]
  generalize 300000000 / lineRate = taken at slope ⊢
  rcases Nat.lt_or_ge lineRate 10000 with slow | fast
  · have tall := usual.height.1
    obtain ⟨cells, blank⟩ := Gtf.exists_cells_of_narrow (show request.width < 288 by omega)
      (slope 8685 (by decide) (by omega))
    exact ⟨cells, blank, fun wide => by omega⟩
  · obtain ⟨cells, blank, least⟩ := Gtf.exists_cells_of_taken (slope 10000 (by decide) fast)
    refine ⟨cells, blank, fun wide => ?_⟩
    rcases Nat.lt_or_ge request.width 616 with narrow | wider
    · have few := slope 20413 (by decide) (by omega)
      have seven : 7 ≤ cells := le_trans (by omega) (least 15304 (by omega))
      omega
    · have fewer := slope 21530 (by decide) (by omega)
      have sixteenPercent := least 16000 (by omega)
      omega

theorem edges_of_firstCurve (usual : request.Usual) (other : request.isPanel = false)
    (found : Gtf.standardMode? request.formulaRequest = some mode) :
    mode.vertical.Ordered ∧ mode.horizontal.syncStart < mode.horizontal.syncEnd ∧
      mode.horizontal.syncEnd ≤ mode.horizontal.total ∧
      (mode.horizontal.active ≤ mode.horizontal.syncStart ↔
        25 * mode.horizontal.active < 21 * mode.horizontal.total + 200) ∧
      (584 ≤ request.width → mode.horizontal.active ≤ mode.horizontal.syncStart) := by
  obtain ⟨lineRate, yields⟩ := Gtf.exists_yields_of_mode? found
  have width : mode.horizontal.active = request.width := (size_of_gtf usual other found).1
  have long := yields.long request.progressive usual.width usual.height.1 usual.refresh
  have fast := (Gtf.lineRate_of_tall request.progressive usual.height.1 usual.refresh
    yields.lineRate_eq).1
  obtain ⟨cells, blank, enough⟩ := exists_cells_of_lineRate? usual other yields.lineRate_eq
  rw [← width] at blank enough
  have halved := yields.halved request.progressive blank
  have front := Gtf.active_le_syncStart_iff yields.syncStart halved
  have pulse := (Gtf.syncStart_lt_syncEnd_iff yields.syncStart).mpr (by omega)
  obtain ⟨syncEnd, total⟩ := halved
  refine ⟨yields.vertical_ordered request.progressive (by omega), pulse, by omega, ?_, ?_⟩
  · rw [front]
    omega
  · intro wide
    exact front.mpr (enough (by omega))

/-- The mode is one of the first curve, and so little of its line is blank that the pulse, which
takes eight percent of the line, does not fit in half of it. -/
structure Crowded (request : StandardRequest) (context : TimingContext) (mode : Mode) : Prop where
  other : request.isPanel = false
  unlisted : request.listed? context = none
  narrow : request.width ≤ 576
  blank : 21 * mode.horizontal.total + 200 ≤ 25 * mode.horizontal.active

end StandardRequest

/-! ## What a code gives -/

open StandardRequest

/-- All edges are in order but in a crowded line, where the pulse begins before the picture ends. -/
theorem edges_of_standardMode? {code : Byte × Byte} {context : TimingContext} {modes : List Mode}
    {mode : Mode} (level : context.level = .gtf)
    (found : standardMode? code context modes = some mode) :
    mode.vertical.Ordered ∧ mode.horizontal.syncStart < mode.horizontal.syncEnd ∧
      mode.horizontal.syncEnd ≤ mode.horizontal.total ∧
      ∃ request, ofCode? code context.revision = some request ∧
        (mode.horizontal.syncStart < mode.horizontal.active ↔ request.Crowded context mode) := by
  obtain ⟨request, read, _, answered⟩ := standardMode?_eq_some_iff.mp found
  have usual := usual_ofCode? read
  rw [StandardRequest.mode?] at answered
  split at answered
  · next panel =>
      obtain ⟨wide, made, rfl⟩ := Option.map_eq_some_iff.mp answered
      obtain ⟨horizontal, vertical⟩ := ordered_of_panel panel made
      refine ⟨vertical, horizontal.pulse, horizontal.back, request, read, ?_⟩
      exact iff_of_false (Nat.not_lt.mpr horizontal.front) fun crowded =>
        Bool.false_ne_true (crowded.other.symm.trans panel)
  · next other =>
      replace other := Bool.eq_false_of_not_eq_true other
      rcases Option.or_eq_some_iff.mp answered with listed | ⟨unlisted, synthesized⟩
      · obtain ⟨horizontal, vertical⟩ := ordered_of_listed? listed
        refine ⟨vertical, horizontal.pulse, horizontal.back, request, read, ?_⟩
        exact iff_of_false (Nat.not_lt.mpr horizontal.front) fun crowded =>
          Option.some_ne_none mode (listed.symm.trans crowded.unlisted)
      · rw [synthesized?, level] at synthesized
        obtain ⟨vertical, pulse, back, front, broad⟩ := edges_of_firstCurve usual other synthesized
        refine ⟨vertical, pulse, back, request, read, ?_⟩
        rw [← Nat.not_le, front, Nat.not_lt]
        constructor
        · intro blank
          have steps := usual.steps other
          have narrow : ¬ 584 ≤ request.width := fun wide =>
            Nat.not_lt.mpr blank (front.mp (broad wide))
          exact ⟨other, unlisted, by omega, blank⟩
        · exact Crowded.blank

/-- A display of continuous frequency that asks for 416 by 234 pixels at 60 Hz. -/
def viewfinder : Blob where
  base := Vector.ofFn fun position =>
    (Block.header.toList ++ List.replicate 10 0 ++ [1, 3, 0x80, 0, 0, 0, 1] ++
      List.replicate 13 0 ++ [0x15, 0xc0] ++ List.replicate 14 1 ++ List.replicate 73 0 ++
      [0x9e]).getD position.val 0
  extensions := []
  count_eq := by decide +kernel

/-- The narrowest of the broad pictures: it has no front porch, but the pulse is behind it. -/
theorem edges_of_standardMode?_viewfinder :
    ∃ mode, standardMode? (0x2a, 0xc0) (TimingContext.ofBlob viewfinder) [] = some mode ∧
      mode.horizontal.syncStart = mode.horizontal.active ∧ mode.vertical.Ordered ∧
      mode.horizontal.syncStart < mode.horizontal.syncEnd ∧
      mode.horizontal.syncEnd ≤ mode.horizontal.total := by
  have found : standardMode? (0x2a, 0xc0) (TimingContext.ofBlob viewfinder) [] = some (.timing 14207
      ⟨584, 584, 640, 696⟩ ⟨328, 329, 332, 340⟩ .negativePositive) := by decide +kernel
  obtain ⟨vertical, pulse, back, _⟩ := edges_of_standardMode? (by decide +kernel) found
  exact ⟨_, found, rfl, vertical, pulse, back⟩

theorem parse_viewfinder :
    parse .standard viewfinder.toBytes = .ok (Display.ofBlob viewfinder false) :=
  parse_of_isValid (by decide +kernel) (by decide +kernel)

/-- The pulse begins sixteen pixels before the picture ends. -/
theorem viewfinder_pulse_in_picture :
    ∃ display, parse .standard viewfinder.toBytes = .ok display ∧
      ∃ mode, display.modes = [mode] ∧ (TimingContext.ofBlob viewfinder).level = .gtf ∧
        standardMode? (0x15, 0xc0) (TimingContext.ofBlob viewfinder) [] = some mode ∧
        mode.horizontal.active = 416 ∧ mode.horizontal.syncStart = 400 := by
  refine ⟨_, parse_viewfinder, ?_⟩
  refine ⟨.timing 6765 ⟨416, 400, 440, 464⟩ ⟨234, 235, 238, 243⟩ .negativePositive, ?_⟩
  decide +kernel

end Edid
