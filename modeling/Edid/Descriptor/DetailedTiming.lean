import Edid.Descriptor

/-!
# Detailed timings

The fields of a detailed timing descriptor. Most numbers are split: their low eight bits have a
byte of their own, their upper bits share one with others. Bytes 15 and 16 hold borders and are
not read.
-/

set_option autoImplicit false

namespace Edid

/-- Sizes and offsets in pixels and lines, the clock in units of 10 kHz. -/
structure DetailedTiming where
  pixelClock : Nat
  hactive : Nat
  hblank : Nat
  vactive : Nat
  vblank : Nat
  hsyncOffset : Nat
  hsyncWidth : Nat
  vsyncOffset : Nat
  vsyncWidth : Nat
  widthMm : Nat
  heightMm : Nat
  /-- Interlace, stereo and sync bits. -/
  misc : Byte
  deriving DecidableEq, Repr

namespace DetailedTiming

def hsyncPositive (timing : DetailedTiming) : Bool :=
  timing.misc.bit 1

def vsyncPositive (timing : DetailedTiming) : Bool :=
  timing.misc.bit 2

def stereo (timing : DetailedTiming) : Bool :=
  timing.misc.bit 5

def interlaced (timing : DetailedTiming) : Bool :=
  timing.misc.bit 7

/-- The fields of a detailed timing; `none` for a display descriptor. -/
def ofDescriptor? (d : Descriptor) : Option DetailedTiming :=
  if d.isTiming then
    some
      { pixelClock := Byte.word (d.byte 0) (d.byte 1)
        hactive := (d.byte 2).toNat + 256 * (d.byte 4).high
        hblank := (d.byte 3).toNat + 256 * (d.byte 4).low
        vactive := (d.byte 5).toNat + 256 * (d.byte 7).high
        vblank := (d.byte 6).toNat + 256 * (d.byte 7).low
        hsyncOffset := (d.byte 8).toNat + 256 * ((d.byte 11).toNat / 64)
        hsyncWidth := (d.byte 9).toNat + 256 * ((d.byte 11).toNat / 16 % 4)
        vsyncOffset := (d.byte 10).high + 16 * ((d.byte 11).toNat / 4 % 4)
        vsyncWidth := (d.byte 10).low + 16 * ((d.byte 11).toNat % 4)
        widthMm := (d.byte 12).toNat + 256 * (d.byte 14).high
        heightMm := (d.byte 13).toNat + 256 * (d.byte 14).low
        misc := d.byte 17 }
  else
    none

end DetailedTiming

end Edid
