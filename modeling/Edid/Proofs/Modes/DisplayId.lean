import Mathlib.Tactic.MkIffOfInductiveProp
import Edid.Proofs.Machine.DisplayId
import Edid.Proofs.Parse

/-!
# Edges of DisplayID timings

A DisplayID timing stores the picture, the blanking, the front porch and the pulse of a line as numbers
of their own, and those of a frame likewise. None of them is zero, as they are stored less one, and a
timing is a mode exactly if every edge fits 16 bits. But nothing holds the porch and the pulse against
the blanking that they are a part of. A total that comes before the end of its pulse is neither refused
nor put behind it, as it is in the detailed timings of the base block.
-/

set_option autoImplicit false

namespace Edid

namespace Axis

/-- The pulse lasts, there is a porch in front of it, and the line or the frame does not end with the
picture. -/
structure Blanked (axis : Axis) : Prop where
  front : axis.active < axis.syncStart
  pulse : axis.syncStart < axis.syncEnd
  blank : axis.active < axis.total

/-- The pulse lasts, there is a porch in front of it, and the total is not in front of its end. -/
@[mk_iff]
structure Consistent (axis : Axis) : Prop where
  front : axis.active < axis.syncStart
  pulse : axis.syncStart < axis.syncEnd
  back : axis.syncEnd ≤ axis.total

instance (axis : Axis) : Decidable axis.Consistent :=
  decidable_of_iff _ axis.consistent_iff.symm

end Axis

namespace DisplayId

/-! ## One direction -/

/-- One direction of a timing: the picture and the blanking behind it, and in the blanking the front
porch and the pulse. -/
structure Interval where
  active : Nat
  blank : Nat
  porch : Nat
  pulse : Nat
  deriving DecidableEq

namespace Interval

/-- Nothing is missing. -/
structure Positive (interval : Interval) : Prop where
  active : 0 < interval.active
  blank : 0 < interval.blank
  porch : 0 < interval.porch
  pulse : 0 < interval.pulse

/-- Every edge fits 16 bits. -/
def Narrow (interval : Interval) : Prop :=
  interval.active + interval.porch + interval.pulse < 0x10000 ∧
    interval.active + interval.blank < 0x10000

/-- The blanking has room for the porch and the pulse. -/
def Roomy (interval : Interval) : Prop :=
  interval.porch + interval.pulse ≤ interval.blank

instance (interval : Interval) : Decidable interval.Narrow :=
  inferInstanceAs (Decidable (_ ∧ _))

instance (interval : Interval) : Decidable interval.Roomy :=
  inferInstanceAs (Decidable (_ ≤ _))

def axis (interval : Interval) : Axis where
  active := interval.active
  syncStart := interval.active + interval.porch
  syncEnd := interval.active + interval.porch + interval.pulse
  total := interval.active + interval.blank

theorem axis?_eq_some_iff (interval : Interval) {axis : Axis} :
    axis? interval.active interval.blank interval.porch interval.pulse = some axis ↔
      interval.Narrow ∧ axis = interval.axis := by
  rw [axis?, Option.ite_none_right_eq_some, Option.some_inj]
  constructor
  · rintro ⟨⟨_, narrow⟩, rfl⟩
    exact ⟨narrow, rfl⟩
  · rintro ⟨narrow, rfl⟩
    exact ⟨⟨Nat.lt_of_le_of_lt (Nat.le_add_right _ _) narrow.2, narrow⟩, rfl⟩

theorem Positive.blanked {interval : Interval} (positive : interval.Positive) :
    interval.axis.Blanked :=
  ⟨Nat.lt_add_of_pos_right positive.porch, Nat.lt_add_of_pos_right positive.pulse,
    Nat.lt_add_of_pos_right positive.blank⟩

theorem Positive.consistent_iff {interval : Interval} (positive : interval.Positive) :
    interval.axis.Consistent ↔ interval.Roomy := by
  obtain ⟨front, pulse, _⟩ := positive.blanked
  constructor
  · intro consistent
    have back := consistent.back
    simp only [axis] at back
    rw [Roomy]
    omega
  · intro roomy
    rw [Roomy] at roomy
    exact ⟨front, pulse, by simp only [axis]; omega⟩

end Interval

/-! ## Timings -/

namespace Timing

/-- The pixels of a line. -/
def line (t : Timing) : Interval where
  active := Byte.word (t.byte 4) (t.byte 5) + 1
  blank := Byte.word (t.byte 6) (t.byte 7) + 1
  porch := Byte.word (t.byte 8) (t.byte 9) % 0x8000 + 1
  pulse := Byte.word (t.byte 10) (t.byte 11) + 1

/-- The lines of a frame. -/
def frame (t : Timing) : Interval where
  active := Byte.word (t.byte 12) (t.byte 13) + 1
  blank := Byte.word (t.byte 14) (t.byte 15) + 1
  porch := Byte.word (t.byte 16) (t.byte 17) % 0x8000 + 1
  pulse := Byte.word (t.byte 18) (t.byte 19) + 1

theorem positive_line (t : Timing) : t.line.Positive :=
  ⟨Nat.succ_pos _, Nat.succ_pos _, Nat.succ_pos _, Nat.succ_pos _⟩

theorem positive_frame (t : Timing) : t.frame.Positive :=
  ⟨Nat.succ_pos _, Nat.succ_pos _, Nat.succ_pos _, Nat.succ_pos _⟩

theorem axes_of_mode? {t : Timing} {mode : Mode} (found : t.mode? = some mode) :
    t.line.Narrow ∧ t.frame.Narrow ∧ mode.horizontal = t.line.axis ∧
      mode.vertical = t.frame.axis := by
  simp only [mode?, bind, Option.bind_eq_some_iff] at found
  obtain ⟨horizontal, across, vertical, down, same⟩ := found
  obtain ⟨line, width⟩ := (Interval.axis?_eq_some_iff t.line).mp across
  obtain ⟨frame, height⟩ := (Interval.axis?_eq_some_iff t.frame).mp down
  cases same
  exact ⟨line, frame, width, height⟩

theorem exists_mode? {t : Timing} (line : t.line.Narrow) (frame : t.frame.Narrow) :
    ∃ mode, t.mode? = some mode := by
  have across := (Interval.axis?_eq_some_iff t.line).mpr ⟨line, rfl⟩
  have down := (Interval.axis?_eq_some_iff t.frame).mpr ⟨frame, rfl⟩
  simp only [Timing.line] at across
  simp only [Timing.frame] at down
  simp only [mode?, across, down]
  exact ⟨_, rfl⟩

end Timing

end DisplayId

/-! ## Blobs -/

/-- The timings of all blocks that hold such, in the order in which they are stored. -/
def Blob.displayIdTimings (blob : Blob) : List DisplayId.Timing :=
  (blob.displayIdBlocks.filter fun block => block.tag == DisplayId.detailedTimingTag).flatMap
    fun block => DisplayId.timings block.payload

theorem displayIdModes_eq_filterMap (blob : Blob) :
    displayIdModes blob = blob.displayIdTimings.filterMap DisplayId.Timing.mode? := by
  rw [displayIdModes, Blob.displayIdTimings, List.filterMap_flatMap]

/-- Every mode of a DisplayID timing has a porch, a pulse and some blanking in both directions, and its
edges are consistent exactly if the blanking of its timing has room for the other two. A timing gives a
mode whenever its edges fit 16 bits, with room or without. -/
theorem edges_displayIdModes (blob : Blob) :
    (∀ mode ∈ displayIdModes blob, mode.horizontal.Blanked ∧ mode.vertical.Blanked ∧
      ∃ timing ∈ blob.displayIdTimings, timing.mode? = some mode ∧
        (mode.horizontal.Consistent ↔ timing.line.Roomy) ∧
        (mode.vertical.Consistent ↔ timing.frame.Roomy)) ∧
    ∀ timing ∈ blob.displayIdTimings,
      (∃ mode ∈ displayIdModes blob, timing.mode? = some mode) ↔
        timing.line.Narrow ∧ timing.frame.Narrow := by
  rw [displayIdModes_eq_filterMap]
  refine ⟨fun mode member => ?_, fun timing listed => ⟨?_, ?_⟩⟩
  · obtain ⟨timing, listed, found⟩ := List.mem_filterMap.mp member
    obtain ⟨_, _, across, down⟩ := DisplayId.Timing.axes_of_mode? found
    have line := timing.positive_line
    have frame := timing.positive_frame
    rw [across, down]
    exact ⟨line.blanked, frame.blanked, timing, listed, found, line.consistent_iff,
      frame.consistent_iff⟩
  · rintro ⟨mode, _, found⟩
    obtain ⟨line, frame, _⟩ := DisplayId.Timing.axes_of_mode? found
    exact ⟨line, frame⟩
  · rintro ⟨line, frame⟩
    obtain ⟨mode, found⟩ := DisplayId.Timing.exists_mode? line frame
    exact ⟨mode, List.mem_filterMap.mpr ⟨timing, listed, found⟩, found⟩

/-- A display with two timings of 1920 by 1080 at 148.5 MHz, both with a porch of 88 pixels and a pulse
of 44. The first line has 280 pixels behind the picture, the second one 100. -/
def marquee : Blob where
  base := Vector.ofFn fun position =>
    (Block.header.toList ++ List.replicate 10 0 ++ [1, 3, 0x80] ++ List.replicate 105 0 ++
      [1, 0x81]).getD position.val 0
  extensions :=
    [Vector.ofFn fun position =>
      ([Block.displayIdTag, 0x12, 43, 0, 0, 3, 0, 40,
        0x01, 0x3a, 0x00, 0, 0x7f, 0x07, 0x17, 0x01, 0x57, 0x80, 0x2b, 0x00,
        0x37, 0x04, 0x2c, 0x00, 0x03, 0x80, 0x04, 0x00,
        0x01, 0x3a, 0x00, 0, 0x7f, 0x07, 0x63, 0x00, 0x57, 0x80, 0x2b, 0x00,
        0x37, 0x04, 0x2c, 0x00, 0x03, 0x80, 0x04, 0x00, 0xbb] ++
        List.replicate 78 0 ++ [0x90]).getD position.val 0]
  count_eq := by decide +kernel

/-- The blanking of the first line has room. -/
theorem edges_displayIdModes_marquee :
    ∃ mode ∈ displayIdModes marquee, mode.horizontal = ⟨1920, 2008, 2052, 2200⟩ ∧
      mode.vertical.Blanked ∧ ∃ timing ∈ marquee.displayIdTimings, timing.mode? = some mode ∧
        timing.line.Roomy ∧ timing.line.Narrow := by
  have listed : ∃ mode ∈ displayIdModes marquee,
      mode.horizontal = ⟨1920, 2008, 2052, 2200⟩ := by decide +kernel
  obtain ⟨mode, member, across⟩ := listed
  have consistent : mode.horizontal.Consistent := by
    rw [across]
    decide
  obtain ⟨modes, timings⟩ := edges_displayIdModes marquee
  obtain ⟨_, down, timing, stored, found, line, _⟩ := modes mode member
  have narrow := (timings timing stored).mp ⟨mode, member, found⟩
  exact ⟨mode, member, across, down, timing, stored, found, line.mp consistent, narrow.1⟩

/-- The second line of the marquee ends before its pulse does, and the mode is there all the same. -/
theorem marquee_line_cut_short :
    ∃ display, parse .standard marquee.toBytes = .ok display ∧
      ∃ mode ∈ displayIdModes marquee, mode ∈ display.modes ∧
        mode.horizontal = ⟨1920, 2008, 2052, 2020⟩ ∧ ¬ mode.horizontal.Consistent := by
  refine ⟨Display.ofBlob marquee false, parse_of_isValid (by decide +kernel) (by decide +kernel), ?_⟩
  decide +kernel

end Edid
