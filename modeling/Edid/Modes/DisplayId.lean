import Edid.DisplayId
import Edid.Mode

/-!
# Modes of DisplayID

Detailed timings in DisplayID data blocks are 20 bytes each. Their numbers are stored less one,
and are no mode if an edge does not fit 16 bits. A block whose length is not a multiple of 20
holds none.
-/

set_option autoImplicit false

namespace Edid

namespace DisplayId

abbrev Timing := Vector Byte 20

namespace Timing

/-- A timing is not empty, so that numerals are positions in it. -/
instance positions : @NeZero Nat Zero.ofOfNat0 20 :=
  ⟨by decide⟩

def byte (t : Timing) (position : Fin 20) : Byte :=
  t[position.val]

end Timing

/-- The timings in a payload. -/
def timings (payload : List Byte) : List Timing :=
  if payload.length % 20 = 0 then go (payload.length / 20) payload else []
where
  go : Nat → List Byte → List Timing
    | 0, _ => []
    | count + 1, bytes =>
        match splitFront? 20 bytes with
        | some (timing, rest) => timing :: go count rest
        | none => []

/-- The edges, if each fits 16 bits. -/
def axis? (active blank offset width : Nat) : Option Axis :=
  if active < 0x10000 ∧ active + offset + width < 0x10000 ∧ active + blank < 0x10000 then
    some ⟨active, active + offset, active + offset + width, active + blank⟩
  else
    none

/-- The mode of a timing. The top bit of each offset is the polarity of its sync pulse. -/
def Timing.mode? (t : Timing) : Option Mode := do
  let horizontal ←
    axis? (Byte.word (t.byte 4) (t.byte 5) + 1) (Byte.word (t.byte 6) (t.byte 7) + 1)
      (Byte.word (t.byte 8) (t.byte 9) % 0x8000 + 1) (Byte.word (t.byte 10) (t.byte 11) + 1)
  let vertical ←
    axis? (Byte.word (t.byte 12) (t.byte 13) + 1) (Byte.word (t.byte 14) (t.byte 15) + 1)
      (Byte.word (t.byte 16) (t.byte 17) % 0x8000 + 1) (Byte.word (t.byte 18) (t.byte 19) + 1)
  some
    { clock := (littleEndian [t.byte 0, t.byte 1, t.byte 2] + 1) * 10
      horizontal := horizontal
      vertical := vertical
      flags := Flags.polarities ((t.byte 9).bit 7) ((t.byte 17).bit 7)
      preferred := (t.byte 3).bit 7 }

end DisplayId

/-- The modes of all DisplayID detailed timings. -/
def displayIdModes (blob : Blob) : List Mode :=
  (blob.displayIdBlocks.filter fun block => block.tag == DisplayId.detailedTimingTag).flatMap
    fun block => (DisplayId.timings block.payload).filterMap DisplayId.Timing.mode?

end Edid
