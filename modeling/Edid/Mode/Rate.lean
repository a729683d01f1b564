import Edid.Mode

/-!
# Rates of a mode

Refresh and line rates are quotients of the pixel clock, rounded to the nearest integer with a
half going up. A mode with a zero total has no rate, which is reported as zero.
-/

set_option autoImplicit false

namespace Edid

/-- The quotient rounded to the nearest integer, a half going up. -/
def roundDiv (numerator denominator : Nat) : Nat :=
  (numerator + denominator / 2) / denominator

namespace Mode

/-- Twice the frames for interlaced modes, which show a field at a time. -/
def refreshNumerator (mode : Mode) : Nat :=
  (if mode.flags.interlaced then 2 * mode.clock else mode.clock) * 1000

/-- Pixels of a frame, counted twice when every line is shown twice. -/
def refreshDenominator (mode : Mode) : Nat :=
  let pixels := mode.horizontal.total * mode.vertical.total
  if mode.flags.doubleScan then 2 * pixels else pixels

/-- Vertical refresh rate in Hz, kept to 32 bits. -/
def refresh (mode : Mode) : Nat :=
  if mode.horizontal.total = 0 ∨ mode.vertical.total = 0 then 0
  else roundDiv mode.refreshNumerator mode.refreshDenominator % 0x100000000

/-- Line rate in kHz. -/
def lineRate (mode : Mode) : Nat :=
  if mode.horizontal.total = 0 then 0 else roundDiv mode.clock mode.horizontal.total

/-- The blanking is exactly that of CVT reduced blanking: 160 pixels, with a sync pulse of 32
that ends halfway, and three lines before the vertical pulse. -/
def isReducedBlanking (mode : Mode) : Bool :=
  mode.horizontal.total = mode.horizontal.active + 160 &&
    mode.horizontal.syncEnd = mode.horizontal.active + 80 &&
    mode.horizontal.syncEnd = mode.horizontal.syncStart + 32 &&
    mode.vertical.syncStart = mode.vertical.active + 3

end Mode

end Edid
