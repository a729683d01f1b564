import Edid.Proofs.Descriptor.DetailedTiming
import Edid.Proofs.Formula.Reduced
import Edid.Proofs.Machine.Detailed

/-!
# Edges of detailed timings

A detailed timing is a mode if it has a picture of 64 pixels and lines and both sync pulses. Then the
edges are in order whatever its other fields say. A total that ends before its own pulse is put behind
it, doubling a field keeps the order of its lines, and a reduced blanking mode that takes the place of
the timing has edges of its own. The fields are so narrow that no edge leaves 16 bits on the way.
-/

set_option autoImplicit false

namespace Edid

open Machine

theorem Axis.Spaced.ordered {axis : Axis} (spaced : axis.Spaced) : axis.Ordered :=
  ⟨spaced.front.le, spaced.pulse, spaced.back.le⟩

/-- The mode runs, it has a picture of 64 pixels and lines at least, and its edges are in order. -/
structure Mode.Viewable (mode : Mode) : Prop where
  clock : 0 < mode.clock
  width : 64 ≤ mode.width
  height : 64 ≤ mode.height
  horizontal : mode.horizontal.Ordered
  vertical : mode.vertical.Ordered

namespace DetailedTiming

/-! ## Edges -/

/-- The pulse lies behind the picture, and the total behind the pulse, where it is put if need be. -/
theorem ordered_axis (active blank offset : Nat) {width : Nat} (lasting : width ≠ 0) :
    (axis active blank offset width).Ordered := by
  simp only [axis]
  split
  · next short => exact ⟨by dsimp only; omega, by dsimp only; omega, by dsimp only; omega⟩
  · next enough => exact ⟨by dsimp only; omega, by dsimp only; omega, by dsimp only; omega⟩

theorem ordered_frameOfField {field : Axis} (ordered : field.Ordered) :
    (frameOfField field).Ordered := by
  obtain ⟨front, pulse, back⟩ := ordered
  exact ⟨by simp only [frameOfField]; omega, by simp only [frameOfField]; omega,
    by simp only [frameOfField]; omega⟩

/-! ## Modes -/

/-- What a timing needs to be a mode. -/
structure Shown (timing : DetailedTiming) : Prop where
  hactive : 64 ≤ timing.hactive
  vactive : 64 ≤ timing.vactive
  flat : timing.stereo = false
  hsyncWidth : timing.hsyncWidth ≠ 0
  vsyncWidth : timing.vsyncWidth ≠ 0

theorem usable_iff_shown {timing : DetailedTiming} : timing.usable = true ↔ timing.Shown := by
  simp only [usable, Bool.and_eq_true, Bool.not_eq_true', decide_eq_true_eq]
  exact ⟨fun ⟨⟨⟨⟨wide, tall⟩, flat⟩, across⟩, down⟩ => ⟨wide, tall, flat, across, down⟩,
    fun ⟨wide, tall, flat, across, down⟩ => ⟨⟨⟨⟨wide, tall⟩, flat⟩, across⟩, down⟩⟩

section Timings

variable {timing : DetailedTiming} {workarounds : Workarounds}

theorem viewable_mode (shown : timing.Shown) (running : 0 < timing.pixelClock)
    (workarounds : Workarounds) : (timing.mode workarounds).Viewable := by
  have vertical := ordered_axis timing.vactive timing.vblank timing.vsyncOffset shown.vsyncWidth
  have tall := shown.vactive
  refine ⟨?_, shown.hactive, ?_, ordered_axis _ _ _ shown.hsyncWidth, ?_⟩
  · simp only [mode]
    split
    · decide
    · omega
  · simp only [Mode.height, mode]
    split
    · simp only [frameOfField, axis]
      omega
    · exact tall
  · simp only [mode]
    split
    · exact ordered_frameOfField vertical
    · exact vertical

/-- The request for the mode that takes the place of a timing. -/
theorem progressive_replacement (timing : DetailedTiming) :
    Formula.Request.Progressive { width := timing.hactive, height := timing.vactive, refresh := 60 } :=
  ⟨rfl, rfl⟩

/-- Rounding the width to eight pixels leaves 64. -/
theorem viewable_of_replacement (shown : timing.Shown) {mode : Mode}
    (found : Cvt.mode? { width := timing.hactive, height := timing.vactive, refresh := 60 } true =
      some mode) :
    mode.Viewable := by
  obtain ⟨blanking, yields⟩ := Cvt.exists_yields_of_mode? found
  have progressive := timing.progressive_replacement
  obtain ⟨width, height⟩ := yields.size progressive (show 60 ≠ 0 by decide)
  obtain ⟨⟨syncEnd, total⟩, syncStart⟩ := yields.reduced_edges
  have wide := shown.hactive
  have tall := shown.vactive
  refine ⟨yields.clock_pos_of_reduced progressive tall (show 50 ≤ 60 by decide), ?_, ?_,
    ⟨by omega, by omega, by omega⟩, yields.vertical_spaced.ordered⟩
  · rw [width]
    dsimp only
    omega
  · rw [height]
    exact tall

theorem viewable_of_bareMode? (shown : timing.Shown) (running : 0 < timing.pixelClock) {mode : Mode}
    (found : timing.bareMode? workarounds = some mode) : mode.Viewable := by
  rw [bareMode?] at found
  split at found
  · exact viewable_of_replacement shown found
  · cases found
    exact viewable_mode shown running workarounds

/-- Every size that a timing can have leaves time for a reduced blanking mode at 60 Hz. -/
theorem exists_bareMode? (shown : timing.Shown) (fits : timing.Fits) (workarounds : Workarounds) :
    ∃ mode, timing.bareMode? workarounds = some mode := by
  have wide := shown.hactive
  have tall := shown.vactive
  have narrow := fits.hactive
  have low := fits.vactive
  rw [bareMode?]
  split
  · exact Cvt.exists_reducedMode? timing.progressive_replacement
      (show timing.hactive ≤ 16384 by omega) (show timing.vactive ≤ 8192 by omega)
      (show 60 ≠ 0 by decide) (show 60 ≤ 85 by decide)
      ⟨show timing.hactive ≠ 0 by omega, show timing.vactive ≠ 0 by omega⟩
  · exact ⟨_, rfl⟩

end Timings

end DetailedTiming

/-! ## Descriptors -/

section Descriptors

variable {descriptor : Descriptor} {context : TimingContext} {workarounds : Workarounds}

theorem detailedMode?_eq_some_iff {mode : Mode} :
    detailedMode? descriptor context workarounds = some mode ↔
      ∃ timing bare, DetailedTiming.ofDescriptor? descriptor = some timing ∧ timing.Shown ∧
        timing.bareMode? workarounds = some bare ∧
        mode = { bare with
          widthMm := (timing.sizeMm context workarounds).1
          heightMm := (timing.sizeMm context workarounds).2 } := by
  rw [detailedMode?, Option.bind_eq_some_iff]
  constructor
  · rintro ⟨timing, read, found⟩
    rw [DetailedTiming.mode?] at found
    split at found
    · next usable =>
        obtain ⟨bare, made, rfl⟩ := Option.map_eq_some_iff.mp found
        exact ⟨timing, bare, read, DetailedTiming.usable_iff_shown.mp usable, made, rfl⟩
    · contradiction
  · rintro ⟨timing, bare, read, shown, made, rfl⟩
    refine ⟨timing, read, ?_⟩
    rw [DetailedTiming.mode?, if_pos (DetailedTiming.usable_iff_shown.mpr shown), made]
    rfl

end Descriptors

/-- A descriptor is decoded without leaving a machine word, if the centimetres that are known of the
display fit bytes. What comes of it fits the words of a mode, runs, and has a picture of 64 pixels and
lines at least and all its edges in order, under any workarounds; and something comes of it exactly if
it is a timing with such a picture and both pulses that is not stereo. -/
theorem viewable_of_detailedMode? (descriptor : Descriptor) (context : TimingContext)
    (workarounds : Workarounds) :
    (context.widthCm < 0x100 → context.heightCm < 0x100 →
      checkedDetailedMode? descriptor context workarounds =
        .ok (detailedMode? descriptor context workarounds)) ∧
    (∀ mode, detailedMode? descriptor context workarounds = some mode →
      mode.Fits ∧ mode.Viewable) ∧
    ((∃ mode, detailedMode? descriptor context workarounds = some mode) ↔
      ∃ timing, DetailedTiming.ofDescriptor? descriptor = some timing ∧ timing.Shown) := by
  refine ⟨fun width height => checkedDetailedMode?_eq descriptor width height workarounds,
    ?_, ?_, ?_⟩
  · intro mode found
    refine ⟨fits_detailedMode? found, ?_⟩
    obtain ⟨timing, bare, read, shown, made, rfl⟩ := detailedMode?_eq_some_iff.mp found
    have running := DetailedTiming.pixelClock_pos_of_ofDescriptor? read
    have viewable := DetailedTiming.viewable_of_bareMode? shown running made
    exact ⟨viewable.clock, viewable.width, viewable.height, viewable.horizontal, viewable.vertical⟩
  · rintro ⟨mode, found⟩
    obtain ⟨timing, bare, read, shown, _⟩ := detailedMode?_eq_some_iff.mp found
    exact ⟨timing, read, shown⟩
  · rintro ⟨timing, read, shown⟩
    have fits := DetailedTiming.fits_ofDescriptor? read
    obtain ⟨bare, made⟩ := DetailedTiming.exists_bareMode? shown fits workarounds
    exact ⟨_, detailedMode?_eq_some_iff.mpr ⟨timing, bare, read, shown, made, rfl⟩⟩

/-- A field of 540 lines, interlaced, whose totals end before its pulses. -/
def camcorder : Descriptor :=
  #v[0x01, 0x1d, 0x80, 100, 0x70, 0x1c, 0x04, 0x20, 0x58, 0x2c, 0x25, 0, 0, 0, 0, 0, 0, 0x9e]

/-- What is known of the display that holds the descriptor. -/
def camcorderContext : TimingContext where
  version := 1
  revision := 3
  level := .dmt
  supportsReduced := true
  curve := none
  widthCm := 16
  heightCm := 9
  firstDetailedPreferred := true

/-- Its totals are put behind the pulses and its lines are doubled, and where reduced blanking is forced
on the display a mode of 1920 pixels and 540 lines takes its place. -/
theorem viewable_of_detailedMode?_camcorder :
    (∃ mode, detailedMode? camcorder camcorderContext .none = some mode ∧
      mode.horizontal = ⟨1920, 2008, 2052, 2053⟩ ∧ mode.vertical = ⟨1080, 1084, 1094, 1097⟩ ∧
      mode.Viewable) ∧
    ∃ mode, checkedDetailedMode? camcorder camcorderContext { forceReducedBlanking := true } =
        .ok (some mode) ∧
      mode.horizontal = ⟨1920, 1968, 2000, 2080⟩ ∧ mode.height = 540 ∧ mode.Viewable := by
  have spelled : ∃ mode, detailedMode? camcorder camcorderContext .none = some mode ∧
      mode.horizontal = ⟨1920, 2008, 2052, 2053⟩ ∧
      mode.vertical = ⟨1080, 1084, 1094, 1097⟩ := by decide +kernel
  have replaced : ∃ mode,
      detailedMode? camcorder camcorderContext { forceReducedBlanking := true } = some mode ∧
      mode.horizontal = ⟨1920, 1968, 2000, 2080⟩ ∧ mode.height = 540 := by decide +kernel
  obtain ⟨mode, found, across, down⟩ := spelled
  obtain ⟨other, made, width, height⟩ := replaced
  obtain ⟨_, viewable, _⟩ := viewable_of_detailedMode? camcorder camcorderContext .none
  obtain ⟨checked, others, _⟩ :=
    viewable_of_detailedMode? camcorder camcorderContext { forceReducedBlanking := true }
  exact ⟨⟨mode, found, across, down, (viewable mode found).2⟩,
    other, (checked (by decide) (by decide)).trans (congrArg _ made), width, height,
    (others other made).2⟩

end Edid
