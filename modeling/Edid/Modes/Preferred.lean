import Edid.Mode.Rate
import Edid.Standard.Dmt
import Edid.Vic.Matching
import Edid.Workaround

/-!
# Preferred modes and modes without data

Choosing the preferred mode for a display whose own choice is known to be wrong, and the modes
to assume of a display that delivers no data at all.
-/

set_option autoImplicit false

namespace Edid

/-- The mode is to be preferred to another: it is larger, or as large and nearer to the rate. -/
def Mode.isBetter (target : Nat) (mode other : Mode) : Bool :=
  other.area < mode.area ||
    (mode.area = other.area && distance mode.refresh target < distance other.refresh target)

/-- The position of the first mode that no other is better than, behind a first candidate. -/
def bestFrom (target : Nat) (best : Mode) (bestPosition : Nat) : List (Mode × Nat) → Nat
  | [] => bestPosition
  | (mode, position) :: rest =>
      if mode.isBetter target best then bestFrom target mode position rest
      else bestFrom target best bestPosition rest

/-- The position of the largest mode, of several the one nearest to the rate, of several of
those the first. -/
def bestPosition (target : Nat) : List Mode → Nat
  | [] => 0
  | first :: rest => bestFrom target first 0 (rest.zipIdx 1)

/-- Makes the mode at a position the only preferred one. -/
def preferOnly (position : Nat) (modes : List Mode) : List Mode :=
  modes.zipIdx.map fun (mode, index) => mode.withPreferred (index == position)

/-- Prefers the largest mode on displays that need it. A wish for 75 Hz goes before one for
60 Hz. -/
def correctPreferred (workarounds : Workarounds) (modes : List Mode) : List Mode :=
  if workarounds.preferLargestAt75 then preferOnly (bestPosition 75 modes) modes
  else if workarounds.preferLargestAt60 then preferOnly (bestPosition 60 modes) modes
  else modes

/-- Marks every mode of the given size as preferred. -/
def preferSize (width height : Nat) (modes : List Mode) : List Mode :=
  modes.map fun mode =>
    if mode.width = width ∧ mode.height = height then mode.withPreferred true else mode

/-- Modes that almost every display shows: monitor timings up to 61 Hz, up to the given size
if neither side of it is zero. -/
def fallbackModes (width height : Nat) : List Mode :=
  let bounded := width ≠ 0 && height ≠ 0
  Dmt.modes.filter fun mode =>
    (!bounded || (mode.width ≤ width && mode.height ≤ height)) && mode.refresh ≤ 61

end Edid
