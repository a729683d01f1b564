import Edid.Vic.Set

/-!
# What a display can do

The summary of a display that its blocks add up to, timings apart. A number that is not declared
is zero.
-/

set_option autoImplicit false

namespace Edid

/-- Pixel encodings that the display accepts. -/
structure ColorFormats where
  rgb444 : Bool := false
  ycbcr444 : Bool := false
  ycbcr422 : Bool := false
  ycbcr420 : Bool := false
  deriving DecidableEq, Repr, Inhabited

/-- Depths beyond 24 bits for a pixel. -/
structure DeepColor where
  bits30 : Bool := false
  bits36 : Bool := false
  bits48 : Bool := false
  deriving DecidableEq, Repr, Inhabited

/-- The control channel of HDMI 2. -/
structure ControlChannel where
  supported : Bool := false
  readRequest : Bool := false
  scrambling : Bool := false
  /-- Scrambling below 340 MHz. -/
  lowRateScrambling : Bool := false
  deriving DecidableEq, Repr, Inhabited

/-- Lanes and gigabits a second for each; zero if there is no fixed rate link. -/
structure FixedRateLink where
  lanes : Nat := 0
  ratePerLane : Nat := 0
  deriving DecidableEq, Repr, Inhabited

/-- Limits of display stream compression. -/
structure Compression where
  supported : Bool := false
  native420 : Bool := false
  allBitsPerPixel : Bool := false
  /-- The greatest depth of a component beyond eight bits. -/
  bitsPerComponent : Nat := 0
  slices : Nat := 0
  /-- Pixel clock of a slice in MHz. -/
  sliceClock : Nat := 0
  link : FixedRateLink := {}
  chunkKilobytes : Nat := 0
  deriving DecidableEq, Repr, Inhabited

/-- Static metadata for high dynamic range. -/
structure DynamicRange where
  /-- Transfer functions, a bit for each. -/
  transferFunctions : Nat
  metadataType : Nat
  maxLight : Nat := 0
  maxAverageLight : Nat := 0
  minLight : Nat := 0
  deriving DecidableEq, Repr

/-- How long the display holds back pictures and sound, in the coding of the data block. -/
structure Delays where
  video : Nat := 0
  audio : Nat := 0
  deriving DecidableEq, Repr, Inhabited

/-- The delays of progressive and of interlaced modes, if they are given. -/
structure Latency where
  progressivePresent : Bool := false
  interlacedPresent : Bool := false
  progressive : Delays := {}
  interlaced : Delays := {}
  deriving DecidableEq, Repr, Inhabited

structure Capabilities where
  widthMm : Nat := 0
  heightMm : Nat := 0
  bitsPerColor : Nat := 0
  colorFormats : ColorFormats := {}
  ctaRevision : Nat := 0
  nonDesktop : Bool := false
  /-- Refresh rates that a display without a timing formula accepts. -/
  refreshRange : Option (Nat × Nat) := none
  name : Option String := none
  hdmi : Bool := false
  dualLinkDvi : Bool := false
  /-- In kHz. -/
  maxTmdsClock : Nat := 0
  infoframe : Bool := false
  rgbRangeSelectable : Bool := false
  deepColor : DeepColor := {}
  controlChannel : ControlChannel := {}
  /-- Formats that are shown with chroma at a quarter of the resolution only. -/
  y420Only : VicSet := .empty
  /-- Formats that can also be shown that way. -/
  y420Also : VicSet := .empty
  /-- A bit for each short descriptor of a video data block, for the formats of the latter. -/
  y420Map : Nat := 0
  y420DeepColor : DeepColor := {}
  link : FixedRateLink := {}
  compression : Compression := {}
  dynamicRange : Option DynamicRange := none
  latency : Latency := {}
  deriving DecidableEq, Repr

/-- A delay in milliseconds, at most half a second. -/
def Delays.milliseconds (coded : Nat) : Nat :=
  min (2 * (coded - 1)) 500

/-- How long sound has to wait for the picture, in milliseconds. Without latency fields, or
where a stream is not supported at all, it does not wait. -/
def Latency.audioDelay (latency : Latency) (interlaced : Bool) : Nat :=
  if !latency.progressivePresent then 0
  else
    let delays :=
      if interlaced && latency.interlacedPresent then latency.interlaced else latency.progressive
    if delays.audio = 255 ∨ delays.video = 255 then 0
    else Delays.milliseconds delays.video - Delays.milliseconds delays.audio

end Edid
