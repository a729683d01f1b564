import Edid.Mode

/-!
# Requests for a synthesized mode

Timing formulas are given a size and a refresh rate and find the rest. Their results have to fit
the widths that modes are exchanged in: 16 bits for an edge, 32 for a clock.
-/

set_option autoImplicit false

namespace Edid

namespace Formula

/-- What a timing formula starts from. Margins surround the active part by 1.8 percent. -/
structure Request where
  width : Nat
  height : Nat
  refresh : Nat
  margins : Bool := false
  interlaced : Bool := false
  deriving DecidableEq, Repr

/-- The integer as a number below a bound, if it is one. -/
def narrow? (bound : Nat) (value : Int) : Option Nat :=
  if 0 ≤ value ∧ value < bound then some value.toNat else none

/-- What an edge of 16 bits and a clock of 32 bits stay below. -/
def edgeBound : Nat := 0x10000
def clockBound : Nat := 0x100000000

/-- The four edges, if each fits 16 bits. -/
def narrowAxis? (active syncStart syncEnd total : Int) : Option Axis := do
  let active ← narrow? edgeBound active
  let syncStart ← narrow? edgeBound syncStart
  let syncEnd ← narrow? edgeBound syncEnd
  let total ← narrow? edgeBound total
  some { active, syncStart, syncEnd, total }

end Formula

end Edid
