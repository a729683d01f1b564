/-!
# Display modes

A mode is one video timing: a pixel clock and, for each scan direction, where the active part
ends, where the sync pulse begins and ends, and the total. Horizontal values are pixels,
vertical values lines, the clock is in kHz. Modes are plain values; nothing points back to the
bytes they came from. Nothing here assumes that the edges are in order.
-/

set_option autoImplicit false

namespace Edid

/-- The four edges of one scan direction, counted from the start of the active part. -/
structure Axis where
  active : Nat := 0
  syncStart : Nat := 0
  syncEnd : Nat := 0
  total : Nat := 0
  deriving DecidableEq, Repr, Inhabited

namespace Axis

/-- Adds lines or pixels between the active part and the sync pulse. -/
def lengthenPorch (axis : Axis) (amount : Nat) : Axis :=
  { axis with
    syncStart := axis.syncStart + amount
    syncEnd := axis.syncEnd + amount
    total := axis.total + amount }

end Axis

/-- Sync polarity and scan of a mode. Either polarity can be unstated. -/
structure Flags where
  hsyncPositive : Bool := false
  hsyncNegative : Bool := false
  vsyncPositive : Bool := false
  vsyncNegative : Bool := false
  interlaced : Bool := false
  doubleScan : Bool := false
  compositeSync : Bool := false
  doubleClock : Bool := false
  deriving DecidableEq, Repr, Inhabited

namespace Flags

/-- Exactly one polarity for each sync pulse. -/
def polarities (horizontal vertical : Bool) : Flags where
  hsyncPositive := horizontal
  hsyncNegative := !horizontal
  vsyncPositive := vertical
  vsyncNegative := !vertical

def positive : Flags :=
  polarities true true

def negative : Flags :=
  polarities false false

/-- The polarities of an ordinary CVT or GTF mode. -/
def negativePositive : Flags :=
  polarities false true

/-- The polarities of a reduced blanking mode. -/
def positiveNegative : Flags :=
  polarities true false

def positiveInterlaced : Flags :=
  { positive with interlaced := true }

def negativeInterlaced : Flags :=
  { negative with interlaced := true }

def positiveNegativeInterlaced : Flags :=
  { positiveNegative with interlaced := true }

def negativeDoubled : Flags :=
  { negative with doubleClock := true }

def negativeInterlacedDoubled : Flags :=
  { negativeInterlaced with doubleClock := true }

end Flags

/-- How the two pictures of a stereo mode share a frame. -/
inductive StereoLayout where
  | framePacking
  | topAndBottom
  | sideBySideHalf
  deriving DecidableEq, Repr

/-- A set of stereo layouts; empty for a plain mode. -/
structure Stereo where
  framePacking : Bool := false
  topAndBottom : Bool := false
  sideBySideHalf : Bool := false
  deriving DecidableEq, Repr, Inhabited

def Stereo.none : Stereo := {}

def Stereo.insert (stereo : Stereo) : StereoLayout → Stereo
  | .framePacking => { stereo with framePacking := true }
  | .topAndBottom => { stereo with topAndBottom := true }
  | .sideBySideHalf => { stereo with sideBySideHalf := true }

/-- Picture aspect ratios that a CTA format can state. -/
inductive Aspect where
  | r4x3
  | r16x9
  | r64x27
  | r256x135
  deriving DecidableEq, Repr

structure Mode where
  clock : Nat := 0
  horizontal : Axis := {}
  vertical : Axis := {}
  flags : Flags := {}
  stereo : Stereo := {}
  aspect : Option Aspect := none
  /-- The mode the display likes best. -/
  preferred : Bool := false
  /-- The mode comes from the display or a standard, not from a user. -/
  driver : Bool := true
  widthMm : Nat := 0
  heightMm : Nat := 0
  deriving DecidableEq, Repr, Inhabited

namespace Mode

def width (mode : Mode) : Nat :=
  mode.horizontal.active

def height (mode : Mode) : Nat :=
  mode.vertical.active

def interlaced (mode : Mode) : Bool :=
  mode.flags.interlaced

def withPreferred (mode : Mode) (preferred : Bool) : Mode :=
  { mode with preferred := preferred }

/-- The mode in a further stereo layout. -/
def inLayout (mode : Mode) (layout : StereoLayout) : Mode :=
  { mode with stereo := mode.stereo.insert layout }

/-- Active area in pixels. -/
def area (mode : Mode) : Nat :=
  mode.width * mode.height

end Mode

end Edid
