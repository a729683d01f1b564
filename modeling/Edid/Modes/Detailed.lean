import Edid.Descriptor.DetailedTiming
import Edid.Formula.Cvt
import Edid.Modes.Context
import Edid.Vic.Matching
import Edid.Workaround

/-!
# Modes of detailed timings

A detailed timing gives a mode in full. Timings that are too small, stereo or without a sync
pulse are left out. Totals that end before their own sync pulse are moved behind it, and some
interlaced formats are described by the height of a field, which is doubled.
-/

set_option autoImplicit false

namespace Edid

namespace DetailedTiming

/-- The edges for a size, its blanking and a sync pulse in it. -/
def axis (active blank offset width : Nat) : Axis :=
  let syncEnd := active + offset + width
  { active := active
    syncStart := active + offset
    syncEnd := syncEnd
    total := if active + blank < syncEnd then syncEnd + 1 else active + blank }

/-- Sizes of a field whose formats are sometimes described by it. -/
def fieldSizes : List (Nat × Nat) :=
  [(1920, 540), (720, 240), (1440, 240), (2880, 240), (720, 288), (1440, 288), (2880, 288)]

/-- A frame of two fields. The total of an interlaced format is odd. -/
def frameOfField (field : Axis) : Axis where
  active := field.active * 2
  syncStart := field.syncStart * 2
  syncEnd := field.syncEnd * 2
  total := field.total * 2 + 1

/-- The clock of a display that gives one it does not run at, in units of 10 kHz. -/
def slowClock : Nat := 1088

def flags (timing : DetailedTiming) (workarounds : Workarounds) : Flags :=
  { Flags.polarities
      (timing.hsyncPositive || workarounds.detailedSyncPositive)
      (timing.vsyncPositive || workarounds.detailedSyncPositive) with
    interlaced := timing.interlaced }

/-- The mode that the fields spell out. -/
def mode (timing : DetailedTiming) (workarounds : Workarounds) : Mode :=
  let vertical :=
    axis timing.vactive timing.vblank timing.vsyncOffset timing.vsyncWidth
  { clock := (if workarounds.clockTooHigh then slowClock else timing.pixelClock) * 10
    horizontal := axis timing.hactive timing.hblank timing.hsyncOffset timing.hsyncWidth
    vertical :=
      if timing.interlaced && fieldSizes.contains (timing.hactive, timing.vactive) then
        frameOfField vertical
      else
        vertical
    flags := timing.flags workarounds }

/-- The mode of a timing without its physical size: what its fields spell out or, for a display
that needs it, a reduced blanking mode of the same size. -/
def bareMode? (timing : DetailedTiming) (workarounds : Workarounds) : Option Mode :=
  if workarounds.forceReducedBlanking then
    Cvt.mode? { width := timing.hactive, height := timing.vactive, refresh := 60 } true
  else
    some (timing.mode workarounds)

/-- The timing has a picture and both sync pulses, and is no stereo timing. -/
def usable (timing : DetailedTiming) : Bool :=
  64 ≤ timing.hactive && 64 ≤ timing.vactive && !timing.stereo && timing.hsyncWidth ≠ 0 &&
    timing.vsyncWidth ≠ 0

/-- The physical size in millimetres. -/
def sizeMm (timing : DetailedTiming) (context : TimingContext) (workarounds : Workarounds) :
    Nat × Nat :=
  if workarounds.detailedUseMaximumSize then (context.widthCm * 10, context.heightCm * 10)
  else if workarounds.detailedInCm then (timing.widthMm * 10, timing.heightMm * 10)
  else (timing.widthMm, timing.heightMm)

/-- The mode of a usable timing. -/
def mode? (timing : DetailedTiming) (context : TimingContext) (workarounds : Workarounds) :
    Option Mode :=
  if timing.usable then
    (timing.bareMode? workarounds).map fun mode =>
      let (widthMm, heightMm) := timing.sizeMm context workarounds
      { mode with widthMm := widthMm, heightMm := heightMm }
  else
    none

end DetailedTiming

/-- The mode of a detailed timing descriptor. -/
def detailedMode? (descriptor : Descriptor) (context : TimingContext)
    (workarounds : Workarounds) : Option Mode :=
  (DetailedTiming.ofDescriptor? descriptor).bind fun timing => timing.mode? context workarounds

/-- Marks the first mode of a list as preferred. -/
def preferFirst : List Mode → List Mode
  | [] => []
  | first :: rest => first.withPreferred true :: rest

/-- The modes of all detailed timings, with their clocks snapped to the formats they are. -/
def detailedModes (blob : Blob) (context : TimingContext) (workarounds : Workarounds) :
    List Mode :=
  let modes := blob.descriptors.filterMap fun descriptor =>
    detailedMode? descriptor context workarounds
  (if context.firstDetailedPreferred then preferFirst modes else modes).map Mode.snapClock

end Edid
