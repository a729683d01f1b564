import Edid.Mode.Rate
import Edid.Text.Digits

/-!
# Mode lines

The one-line text form of a mode, as display configurations write it: quoted name, clock in MHz
with three places, the eight edges, then the flags in a fixed order. Composite sync, stereo
layouts, aspect ratio and physical size are not written.
-/

set_option autoImplicit false

namespace Edid.Mode

open Text

/-- Width and height, with a mark for interlaced modes. -/
def name (mode : Mode) : String :=
  decimal mode.width ++ "x" ++ decimal mode.height ++ (if mode.interlaced then "i" else "")

/-- The words for the flags that are set. -/
def flagWords (flags : Flags) : List String :=
  ([(flags.hsyncPositive, "+hsync"), (flags.hsyncNegative, "-hsync"),
    (flags.vsyncPositive, "+vsync"), (flags.vsyncNegative, "-vsync"),
    (flags.interlaced, "interlace"), (flags.doubleScan, "doublescan"),
    (flags.doubleClock, "dblclk")].filter (·.1)).map (·.2)

/-- The numbers of a mode line behind the clock. -/
def edges (mode : Mode) : List Nat :=
  [mode.horizontal.active, mode.horizontal.syncStart, mode.horizontal.syncEnd,
    mode.horizontal.total, mode.vertical.active, mode.vertical.syncStart, mode.vertical.syncEnd,
    mode.vertical.total]

def line (mode : Mode) : String :=
  let clock := decimal (mode.clock / 1000) ++ "." ++ decimalPadded 3 '0' (mode.clock % 1000)
  " ".intercalate
    (("\"" ++ mode.name ++ "\"") :: clock :: mode.edges.map decimal ++ flagWords mode.flags)

end Edid.Mode
