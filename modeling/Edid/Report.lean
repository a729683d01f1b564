import Edid.Capabilities.Audio
import Edid.Mode.Line
import Edid.Parse

/-!
# Reports

A display as lines of text: who made it and what it can do, an empty line, and then its modes.
What the display does not declare gets no line.
-/

set_option autoImplicit false

namespace Edid

namespace Report

open Text

/-- A set as its name and, in brackets, the names of its members. -/
def memberList (name : String) (members : List (Bool × String)) : String :=
  let present := (members.filter (·.1)).map (·.2)
  name ++ "(" ++ (if present.isEmpty then "0x0" else " | ".intercalate present) ++ ")"

def workarounds (found : Workarounds) : String :=
  memberList "Quirks"
    [(found.preferLargestAt60, "PREFER_LARGE_60"), (found.clockTooHigh, "CLOCK_135_TOO_HIGH"),
      (found.preferLargestAt75, "PREFER_LARGE_75"), (found.detailedInCm, "DETAILED_IN_CM"),
      (found.detailedUseMaximumSize, "DETAILED_USE_MAXIMUM_SIZE"),
      (found.detailedSyncPositive, "DETAILED_SYNC_PP"),
      (found.forceReducedBlanking, "FORCE_REDUCED_BLANKING"), (found.force8Bits, "FORCE_8BPC"),
      (found.force12Bits, "FORCE_12BPC"), (found.force6Bits, "FORCE_6BPC"),
      (found.force10Bits, "FORCE_10BPC"), (found.nonDesktop, "NON_DESKTOP")]

def colorFormats (formats : ColorFormats) : String :=
  memberList "ColorFormats"
    [(formats.rgb444, "RGB444"), (formats.ycbcr444, "YCRCB444"), (formats.ycbcr422, "YCRCB422"),
      (formats.ycbcr420, "YCRCB420")]

def deepColor (deep : DeepColor) : String :=
  memberList "DeepColor"
    [(deep.bits30, "DC_30"), (deep.bits36, "DC_36"), (deep.bits48, "DC_48")]

def identity (identity : Identity) (corrupt : Bool) : String :=
  identity.manufacturer ++ " product " ++ hexadecimalMarked 4 identity.product ++ " serial " ++
    hexadecimalMarked 8 identity.serial ++ ", week " ++ decimal identity.week ++ " of " ++
    decimal identity.year ++ ", EDID " ++ decimal identity.version ++ "." ++
    decimal identity.revision ++ (if corrupt then " (repaired)" else "")

def size (capabilities : Capabilities) : String :=
  "size: " ++ decimal capabilities.widthMm ++ "x" ++ decimal capabilities.heightMm ++ " mm, " ++
    decimal capabilities.bitsPerColor ++ " bpc, color formats " ++
    colorFormats capabilities.colorFormats

def hdmi (capabilities : Capabilities) : String :=
  "HDMI: max TMDS " ++ decimal capabilities.maxTmdsClock ++ " kHz, deep color " ++
    deepColor capabilities.deepColor ++ ", SCDC " ++
    (if capabilities.controlChannel.supported then "true" else "false")

def dynamicRange (range : DynamicRange) : String :=
  "HDR: EOTF " ++ hexadecimalMarked 2 range.transferFunctions ++ ", max CLL " ++
    decimal range.maxLight

def audioFormat (format : AudioFormat) : String :=
  "audio: format " ++ decimal format.coding ++ " channels " ++ decimal (format.channels + 1) ++
    " rates " ++ hexadecimalMarked 2 format.rates

/-- The audio formats; none where the CTA-861 data cannot be read. -/
def audioFormats (blob : Blob) : List String :=
  match blob.audioFormats with
  | .ok formats => formats.map audioFormat
  | .error _ => []

/-- Everything but the modes. -/
def summary (display : Display) : List String :=
  let capabilities := display.capabilities
  [identity display.identity display.corrupt] ++
    (if display.workarounds = Workarounds.none then []
      else ["quirks: " ++ workarounds display.workarounds]) ++
    (capabilities.name.map ("name: " ++ ·)).toList ++
    [size capabilities] ++
    (capabilities.refreshRange.map fun (least, greatest) =>
      "refresh range: " ++ decimal least ++ "-" ++ decimal greatest ++ " Hz").toList ++
    (if capabilities.nonDesktop then ["non-desktop display"] else []) ++
    (if capabilities.hdmi then [hdmi capabilities] else []) ++
    (capabilities.dynamicRange.map dynamicRange).toList ++
    audioFormats display.blob

/-- A mode with its rate, marked if it is preferred. -/
def mode (mode : Mode) : String :=
  (if mode.preferred then "*" else " ") ++ " " ++ decimalPadded 3 ' ' mode.refresh ++ " Hz  " ++
    mode.line

def modes (modes : List Mode) : List String :=
  modes.map mode

def display (display : Display) : List String :=
  summary display ++ [""] ++ modes display.modes

end Report

end Edid
