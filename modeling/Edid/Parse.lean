import Edid.Capabilities.OfBlob
import Edid.Modes.Detailed
import Edid.Modes.DisplayId
import Edid.Modes.Formats
import Edid.Modes.Inferred
import Edid.Modes.Listed
import Edid.Modes.Preferred
import Edid.Modes.Standard

/-!
# Decoding an EDID

From bytes to what they say: every block is validated, extensions that fail are dropped, and the
blocks that are left are decoded. Only the base block can make decoding fail.
-/

set_option autoImplicit false

namespace Edid

/-- What an EDID says. -/
structure Display where
  /-- The blob after repair, without the extensions that were dropped. -/
  blob : Blob
  identity : Identity
  workarounds : Workarounds
  capabilities : Capabilities
  /-- In the order of the sources they come from, the most trusted source first. -/
  modes : List Mode
  /-- Some block was repaired, forgiven or dropped. -/
  corrupt : Bool
  deriving DecidableEq

/-- The modes of the base block and its descriptors, without those that range limits imply. -/
def baseModes (blob : Blob) (context : TimingContext) (workarounds : Workarounds) : List Mode :=
  addStandardModes blob context (detailedModes blob context workarounds ++ cvtModes blob) ++
    establishedModes blob

/-- Every mode of a blob. Later sources see what earlier ones have added. -/
def collectModes (blob : Blob) (workarounds : Workarounds) : List Mode :=
  let context := TimingContext.ofBlob blob
  let listed := addAlternateModes blob (addFormatModes blob (baseModes blob context workarounds))
  correctPreferred workarounds
    (addInferredModes blob context (listed ++ displayIdModes blob))

/-- The capabilities of a blob with what its formats add and its workarounds change. -/
def collectCapabilities (blob : Blob) (workarounds : Workarounds) : Capabilities :=
  let context := TimingContext.ofBlob blob
  ((Capabilities.ofBlob blob workarounds).absorbFormats blob
    (baseModes blob context workarounds)).forceBits workarounds

/-- Decodes a blob whose blocks have been validated. -/
def Display.ofBlob (blob : Blob) (corrupt : Bool) : Display :=
  let workarounds := Workarounds.ofBlob blob
  { blob := blob
    identity := blob.identity
    workarounds := workarounds
    capabilities := collectCapabilities blob workarounds
    modes := collectModes blob workarounds
    corrupt := corrupt }

namespace Display

/-- The first of the preferred modes. -/
def preferredMode? (display : Display) : Option Mode :=
  display.modes.find? (·.preferred)

/-- How long sound has to wait for the picture of a mode, in milliseconds. -/
def audioDelay (display : Display) (mode : Mode) : Nat :=
  display.capabilities.latency.audioDelay mode.interlaced

end Display

/-- Validates and decodes a blob. -/
def parseBlob (policy : RepairPolicy) (blob : Blob) : Except Error Display :=
  let base := blob.base.validateBase policy
  let extensions := blob.extensions.map Block.validateExtension
  let corrupt := base.corrupt || extensions.any (·.corrupt)
  (base.toExcept 0).map fun block =>
    Display.ofBlob (Blob.ofKept block ((extensions.filter (·.ok)).map (·.block))) corrupt

/-- Validates and decodes bytes. -/
def parse (policy : RepairPolicy) (bytes : List Byte) : Except Error Display :=
  (Blob.ofBytes bytes).bind (parseBlob policy)

/-- Validates and decodes a hex dump. -/
def parseText (codec : Text.Hex.Codec) (policy : RepairPolicy) (text : String) :
    Except Error Display :=
  (Blob.ofText codec text).bind (parseBlob policy)

end Edid
