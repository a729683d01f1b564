import Edid.Capabilities.Basic
import Edid.Cta.DataBlock

/-!
# Capabilities in data blocks

What each kind of CTA-861 data block adds to the summary. Bytes that a short block lacks read
as zero; where zero would say something, the length is tested first.
-/

set_option autoImplicit false

namespace Edid

namespace FixedRateLink

/-- The link for a four-bit code. -/
def ofCode (code : Nat) : FixedRateLink :=
  match code with
  | 1 => ⟨3, 3⟩
  | 2 => ⟨3, 6⟩
  | 3 => ⟨4, 6⟩
  | 4 => ⟨4, 8⟩
  | 5 => ⟨4, 10⟩
  | 6 => ⟨4, 12⟩
  | _ => ⟨0, 0⟩

end FixedRateLink

namespace Compression

/-- Slices and the clock of each, by a four-bit code. -/
def slicing (code : Nat) : Nat × Nat :=
  match code with
  | 1 => (1, 340)
  | 2 => (2, 340)
  | 3 => (4, 340)
  | 4 => (8, 340)
  | 5 => (8, 400)
  | 6 => (12, 400)
  | 7 => (16, 400)
  | _ => (0, 0)

/-- Bytes 11 to 13 of an HDMI Forum block. Without the version bit nothing else is read. -/
def ofBlock (block : Cta.DataBlock) : Compression :=
  let flags := block.byte 11
  if !flags.bit 7 then {}
  else
    let (slices, sliceClock) := slicing (block.byte 12).low
    { supported := true
      native420 := flags.bit 6
      allBitsPerPixel := flags.bit 3
      bitsPerComponent :=
        if flags.bit 2 then 16 else if flags.bit 1 then 12 else if flags.bit 0 then 10 else 0
      slices := slices
      sliceClock := sliceClock
      link := FixedRateLink.ofCode (block.byte 12).high
      chunkKilobytes := (block.byte 13).toNat % 64 }

end Compression

namespace DynamicRange

def ofBlock (block : Cta.DataBlock) : DynamicRange where
  transferFunctions := (block.byte 2).low
  metadataType := (block.byte 3).toNat % 2
  maxLight := (block.byte 4).toNat
  maxAverageLight := (block.byte 5).toNat
  minLight := (block.byte 6).toNat

end DynamicRange

namespace Latency

def ofBlock (block : Cta.DataBlock) : Latency where
  progressivePresent := (block.byte 8).bit 7
  interlacedPresent := (block.byte 8).bit 6
  progressive := ⟨(block.byte 9).toNat, (block.byte 10).toNat⟩
  interlaced := ⟨(block.byte 11).toNat, (block.byte 12).toNat⟩

end Latency

namespace DeepColor

/-- Three bits of a byte, the shallowest depth first. -/
def ofBits (byte : Byte) (lowest : Nat) : DeepColor :=
  ⟨byte.bit lowest, byte.bit (lowest + 1), byte.bit (lowest + 2)⟩

/-- Bits for a colour at the greatest depth. -/
def bitsPerColor (deep : DeepColor) : Nat :=
  if deep.bits48 then 16 else if deep.bits36 then 12 else if deep.bits30 then 10 else 8

end DeepColor

namespace Capabilities

/-- The vendor block of HDMI 1.4. -/
def absorbHdmi (capabilities : Capabilities) (block : Cta.DataBlock) : Capabilities :=
  let deep := DeepColor.ofBits (block.byte 6) 4
  { capabilities with
    hdmi := true
    dualLinkDvi :=
      if 6 ≤ block.length then (block.byte 6).bit 0 else capabilities.dualLinkDvi
    maxTmdsClock :=
      if 7 ≤ block.length then (block.byte 7).toNat * 5000 else capabilities.maxTmdsClock
    latency := if 8 ≤ block.length then Latency.ofBlock block else capabilities.latency
    deepColor := if 6 ≤ block.length then deep else capabilities.deepColor
    bitsPerColor := if 6 ≤ block.length then deep.bitsPerColor else 8 }

/-- The control channel bits of byte 6. A display that has the channel once keeps it. -/
def absorbControlChannel (channel : ControlChannel) (block : Cta.DataBlock) : ControlChannel :=
  let flags := block.byte 6
  let announced :=
    if flags.bit 7 then { channel with supported := true, readRequest := flags.bit 6 }
    else channel
  if block.byte 5 ≠ 0 && announced.supported then
    { announced with scrambling := true, lowRateScrambling := flags.bit 3 }
  else
    announced

/-- The vendor block of HDMI 2. Its clock counts only beyond what HDMI 1.4 reaches. -/
def absorbHdmiForum (capabilities : Capabilities) (block : Cta.DataBlock) : Capabilities :=
  let clock := (block.byte 5).toNat * 5000
  let linked := block.byte 7 ≠ 0
  { capabilities with
    infoframe := true
    controlChannel := absorbControlChannel capabilities.controlChannel block
    maxTmdsClock := if 340000 < clock then clock else capabilities.maxTmdsClock
    link := if linked then FixedRateLink.ofCode (block.byte 7).high else capabilities.link
    compression := if linked then Compression.ofBlock block else capabilities.compression
    y420DeepColor := DeepColor.ofBits (block.byte 7) 0 }

/-- The map of formats that can be shown at quarter chroma resolution. An empty map stands for
all of them; at most 64 bits are kept. -/
def absorbY420Map (capabilities : Capabilities) (block : Cta.DataBlock) : Capabilities :=
  let bytes := block.payload.drop 1
  let map := if bytes.isEmpty then 0xffffffffffffffff else littleEndian (bytes.take 8)
  { capabilities with
    y420Map := map
    colorFormats :=
      { capabilities.colorFormats with
        ycbcr420 := capabilities.colorFormats.ycbcr420 || map ≠ 0 } }

/-- Adds what a data block of any kind says. -/
def absorb (capabilities : Capabilities) (block : Cta.DataBlock) : Capabilities :=
  if block.isHdmi then capabilities.absorbHdmi block
  else if block.isHdmiForum then capabilities.absorbHdmiForum block
  else if block.isY420CapabilityMap then capabilities.absorbY420Map block
  else if block.isVideoCapability then
    { capabilities with rgbRangeSelectable := (block.byte 2).bit 6 }
  else if block.isHdrStaticMetadata then
    { capabilities with dynamicRange := some (DynamicRange.ofBlock block) }
  else capabilities

end Capabilities

end Edid
