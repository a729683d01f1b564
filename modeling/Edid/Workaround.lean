import Edid.Blob

/-!
# Workarounds

Displays whose data is known to be wrong, and what is done about each. A display is recognized
by its manufacturer and product; the first entry of the table counts, and a product number of
zero is a number like any other.
-/

set_option autoImplicit false

namespace Edid

/-- What is done differently for a display. -/
structure Workarounds where
  /-- Prefer the largest mode, at the rate nearest to 60 Hz. -/
  preferLargestAt60 : Bool := false
  /-- Detailed timings give a clock that the panel does not run at. -/
  clockTooHigh : Bool := false
  /-- Prefer the largest mode, at the rate nearest to 75 Hz. -/
  preferLargestAt75 : Bool := false
  /-- Detailed timings give their size in centimetres. -/
  detailedInCm : Bool := false
  /-- Take the size of the base block for detailed timings. -/
  detailedUseMaximumSize : Bool := false
  /-- Take both sync pulses of detailed timings for positive. -/
  detailedSyncPositive : Bool := false
  /-- Put a reduced blanking mode in place of each detailed timing. -/
  forceReducedBlanking : Bool := false
  force8Bits : Bool := false
  force12Bits : Bool := false
  force6Bits : Bool := false
  force10Bits : Bool := false
  /-- A headset or another display that no desktop belongs on. -/
  nonDesktop : Bool := false
  deriving DecidableEq, Repr

namespace Workarounds

def none : Workarounds := {}

/-- A display that needs workarounds. -/
structure Entry where
  vendor : String
  product : Nat
  workarounds : Workarounds
  deriving Repr

def table : List Entry :=
  [⟨"ACR", 44358, { preferLargestAt60 := true }⟩,
   ⟨"API", 0x7602, { preferLargestAt60 := true }⟩,
   ⟨"AEO", 0, { force6Bits := true }⟩,
   ⟨"BOE", 0x078b, { force6Bits := true }⟩,
   ⟨"CPT", 0x17df, { force6Bits := true }⟩,
   ⟨"SDC", 0x3652, { force6Bits := true }⟩,
   ⟨"BOE", 0x0771, { force6Bits := true }⟩,
   ⟨"MAX", 1516, { preferLargestAt60 := true }⟩,
   ⟨"MAX", 0x077e, { preferLargestAt60 := true }⟩,
   ⟨"EPI", 59264, { clockTooHigh := true }⟩,
   ⟨"EPI", 8232, { preferLargestAt60 := true }⟩,
   ⟨"FCM", 13600, { preferLargestAt75 := true, detailedInCm := true }⟩,
   ⟨"LGD", 764, { force10Bits := true }⟩,
   ⟨"LPL", 0, { detailedUseMaximumSize := true }⟩,
   ⟨"LPL", 0x2a00, { detailedUseMaximumSize := true }⟩,
   ⟨"SAM", 541, { detailedSyncPositive := true }⟩,
   ⟨"SAM", 596, { preferLargestAt60 := true }⟩,
   ⟨"SAM", 638, { preferLargestAt60 := true }⟩,
   ⟨"SNY", 0x2541, { force12Bits := true }⟩,
   ⟨"VSC", 5020, { forceReducedBlanking := true }⟩,
   ⟨"MED", 0x07b8, { preferLargestAt75 := true }⟩,
   ⟨"SDC", 18514, { force6Bits := true }⟩,
   ⟨"SEC", 0xd033, { force8Bits := true }⟩,
   ⟨"ETR", 13896, { force8Bits := true }⟩,
   ⟨"VLV", 0x91a8, { nonDesktop := true }⟩,
   ⟨"VLV", 0x91b0, { nonDesktop := true }⟩,
   ⟨"VLV", 0x91b1, { nonDesktop := true }⟩,
   ⟨"VLV", 0x91b2, { nonDesktop := true }⟩,
   ⟨"VLV", 0x91b3, { nonDesktop := true }⟩,
   ⟨"VLV", 0x91b4, { nonDesktop := true }⟩,
   ⟨"VLV", 0x91b5, { nonDesktop := true }⟩,
   ⟨"VLV", 0x91b6, { nonDesktop := true }⟩,
   ⟨"VLV", 0x91b7, { nonDesktop := true }⟩,
   ⟨"VLV", 0x91b8, { nonDesktop := true }⟩,
   ⟨"VLV", 0x91b9, { nonDesktop := true }⟩,
   ⟨"VLV", 0x91ba, { nonDesktop := true }⟩,
   ⟨"VLV", 0x91bb, { nonDesktop := true }⟩,
   ⟨"VLV", 0x91bc, { nonDesktop := true }⟩,
   ⟨"VLV", 0x91bd, { nonDesktop := true }⟩,
   ⟨"VLV", 0x91be, { nonDesktop := true }⟩,
   ⟨"VLV", 0x91bf, { nonDesktop := true }⟩,
   ⟨"HVR", 0xaa01, { nonDesktop := true }⟩,
   ⟨"HVR", 0xaa02, { nonDesktop := true }⟩,
   ⟨"OVR", 0x0001, { nonDesktop := true }⟩,
   ⟨"OVR", 0x0003, { nonDesktop := true }⟩,
   ⟨"OVR", 0x0004, { nonDesktop := true }⟩,
   ⟨"OVR", 0x0012, { nonDesktop := true }⟩,
   ⟨"ACR", 0x7fce, { nonDesktop := true }⟩,
   ⟨"HPN", 0x3515, { nonDesktop := true }⟩,
   ⟨"LEN", 0x0408, { nonDesktop := true }⟩,
   ⟨"LEN", 0xb800, { nonDesktop := true }⟩,
   ⟨"FUJ", 0x1970, { nonDesktop := true }⟩,
   ⟨"DEL", 0x7fce, { nonDesktop := true }⟩,
   ⟨"SEC", 0x144a, { nonDesktop := true }⟩,
   ⟨"AUS", 0xc102, { nonDesktop := true }⟩,
   ⟨"SNY", 0x0704, { nonDesktop := true }⟩,
   ⟨"SEN", 0x1019, { nonDesktop := true }⟩,
   ⟨"SVR", 0x1019, { nonDesktop := true }⟩]

/-- The workarounds for a display. -/
def find (manufacturerId : Byte × Byte) (product : Nat) : Workarounds :=
  match table.find? fun entry =>
      entry.vendor == vendorName manufacturerId && entry.product == product with
  | some entry => entry.workarounds
  | .none => Workarounds.none

/-- The workarounds for the display that a blob describes. -/
def ofBlob (blob : Blob) : Workarounds :=
  find blob.manufacturerId blob.product

/-- The colour depth that is forced on the display. If several are, the deepest counts. -/
def forcedBits? (workarounds : Workarounds) : Option Nat :=
  if workarounds.force12Bits then some 12
  else if workarounds.force10Bits then some 10
  else if workarounds.force8Bits then some 8
  else if workarounds.force6Bits then some 6
  else .none

end Workarounds

end Edid
