import Edid.Descriptor
import Edid.Formula.Gtf

/-!
# Range limits

The rates, the pixel clock and the width that a display accepts, and the formula it expects for
timings it does not list. Revision 4 lets each rate reach past 255 and refines the clock of a
CVT display in steps of 250 kHz.
-/

set_option autoImplicit false

namespace Edid

/-- Which formula a range descriptor announces. -/
inductive RangeKind where
  | defaultGtf
  /-- Limits alone. -/
  | limitsOnly
  /-- A second GTF curve, in use from a line rate in kHz on. -/
  | secondaryGtf (start : Nat) (curve : Gtf.Curve)
  | cvt
  | other (code : Byte)
  deriving DecidableEq, Repr

structure RangeLimits where
  minRefresh : Nat
  maxRefresh : Nat
  /-- Line rates in kHz. -/
  minLineRate : Nat
  maxLineRate : Nat
  /-- In kHz; zero if not limited. -/
  maxClock : Nat
  /-- Active pixels of a line; zero if not limited. -/
  maxWidth : Nat
  kind : RangeKind
  deriving DecidableEq, Repr

namespace RangeKind

def ofDescriptor (d : Descriptor) : RangeKind :=
  match (d.byte 10).toNat with
  | 0 => .defaultGtf
  | 1 => .limitsOnly
  | 2 =>
      .secondaryGtf ((d.byte 12).toNat * 2)
        { m := Byte.word (d.byte 14) (d.byte 15)
          twoC := (d.byte 13).toNat
          k := (d.byte 16).toNat
          twoJ := (d.byte 17).toNat }
  | 4 => .cvt
  | _ => .other (d.byte 10)

/-- The second curve, if there is one. -/
def curve? : RangeKind → Option (Nat × Gtf.Curve)
  | .secondaryGtf start curve => some (start, curve)
  | _ => none

end RangeKind

namespace RangeLimits

/-- A rate, moved up by 255 if its offset bit is set. Offsets exist from revision 4 on. -/
def rate (d : Descriptor) (revision : Nat) (value : Byte) (offsetBit : Nat) : Nat :=
  value.toNat + if 4 ≤ revision && (d.byte 4).bit offsetBit then 255 else 0

/-- The greatest pixel clock in kHz. The byte counts 10 MHz; without the refinement the limit is
half a step wider. -/
def clockLimit (d : Descriptor) (refined : Bool) : Nat :=
  let step := (d.byte 9).toNat
  if step = 0 ∨ step = 255 then 0
  else if refined then step * 10000 - (d.byte 12).toNat / 4 * 250
  else step * 10000 + 5001

/-- The limits in a range descriptor; `none` for other descriptors. -/
def ofDescriptor? (d : Descriptor) (revision : Nat) : Option RangeLimits :=
  if d.isKind .rangeLimits then
    let kind := RangeKind.ofDescriptor d
    let refined := decide (4 ≤ revision) && decide (kind = .cvt)
    some
      { minRefresh := rate d revision (d.byte 5) 0
        maxRefresh := rate d revision (d.byte 6) 1
        minLineRate := rate d revision (d.byte 7) 2
        maxLineRate := rate d revision (d.byte 8) 3
        maxClock := clockLimit d refined
        maxWidth :=
          if refined && d.byte 13 != 0 then 8 * Byte.word (d.byte 13) (d.byte 12 % 4) else 0
        kind := kind }
  else
    none

end RangeLimits

/-- The reduced blanking bit of a CVT range descriptor. It is read whatever the descriptor
holds there. -/
def Descriptor.reducedBlankingBit (d : Descriptor) : Bool :=
  (d.byte 15).bit 4

end Edid
