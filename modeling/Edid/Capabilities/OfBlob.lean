import Edid.Capabilities.Hdmi
import Edid.Cta.Collection
import Edid.Descriptor.Codes
import Edid.Descriptor.RangeLimits
import Edid.Workaround

/-!
# The capabilities of a blob

An analog display, or one before revision 3, reports its size, its range and its name. All
others add what their CTA-861 data says, and from revision 4 on the depth and the encodings that
the base block gives.
-/

set_option autoImplicit false

namespace Edid.Capabilities

/-- The refresh rates of the last descriptor that gives limits alone. -/
def refreshRange? (blob : Blob) : Option (Nat × Nat) :=
  if blob.isNewerThan 1 1 then
    (blob.descriptors.filterMap fun descriptor =>
      match RangeLimits.ofDescriptor? descriptor blob.revision with
      | some range =>
          if range.kind = .limitsOnly then some (range.minRefresh, range.maxRefresh) else none
      | none => none).getLast?
  else
    none

/-- The name in the last name descriptor. -/
def name? (blob : Blob) : Option String :=
  (blob.descriptors.filter (·.isKind .name)).getLast?.map Descriptor.text

/-- What every display reports. -/
def ofBase (blob : Blob) (workarounds : Workarounds) : Capabilities where
  widthMm := blob.widthCm * 10
  heightMm := blob.heightCm * 10
  nonDesktop := workarounds.nonDesktop
  refreshRange := refreshRange? blob
  name := name? blob

/-- Adds the CTA-861 data of a blob. The encodings are those of its header. -/
def absorbCta (capabilities : Capabilities) (blob : Blob) : Capabilities :=
  let rgb : ColorFormats := { rgb444 := true }
  match blob.cta? with
  | none => { capabilities with colorFormats := rgb }
  | some collection =>
      blob.ctaBlocks.foldl absorb
        { capabilities with
          ctaRevision := collection.revision
          colorFormats :=
            { rgb with
              ycbcr444 := collection.capabilityBits.bit 5
              ycbcr422 := collection.capabilityBits.bit 4 } }

/-- Bits for a colour by the depth field of the input definition. -/
def inputDepth (input : Byte) : Nat :=
  match input.toNat / 16 % 8 with
  | 1 => 6
  | 2 => 8
  | 3 => 10
  | 4 => 12
  | 5 => 14
  | 6 => 16
  | _ => 0

/-- The depth and the encodings that revision 4 puts into the base block. The depth replaces
what was found before, the encodings are added to it. -/
def absorbInput (capabilities : Capabilities) (blob : Blob) : Capabilities :=
  { capabilities with
    bitsPerColor := inputDepth blob.input
    colorFormats :=
      { capabilities.colorFormats with
        ycbcr444 := capabilities.colorFormats.ycbcr444 || blob.features.bit 3
        ycbcr422 := capabilities.colorFormats.ycbcr422 || blob.features.bit 4 } }

/-- The capabilities that a blob declares. -/
def ofBlob (blob : Blob) (workarounds : Workarounds) : Capabilities :=
  let capabilities := ofBase blob workarounds
  if blob.revision < 3 || !blob.isDigital then capabilities
  else
    let capabilities := capabilities.absorbCta blob
    if 4 ≤ blob.revision then capabilities.absorbInput blob
    else if capabilities.bitsPerColor = 0 && blob.input.bit 0 then
      { capabilities with bitsPerColor := 8 }
    else
      capabilities

/-- Applies a forced colour depth. -/
def forceBits (capabilities : Capabilities) (workarounds : Workarounds) : Capabilities :=
  match workarounds.forcedBits? with
  | some bits => { capabilities with bitsPerColor := bits }
  | none => capabilities

end Edid.Capabilities
