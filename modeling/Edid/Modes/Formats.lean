import Edid.Capabilities.Basic
import Edid.Cta.Collection
import Edid.Modes.Stereo
import Edid.Vic.Matching

/-!
# Modes of CTA-861 data

The formats of video data blocks and of quarter-chroma blocks in the order of the blocks, then
what the last HDMI block adds in view of all of them. Along the way the formats that can be
shown at quarter chroma resolution are recorded. Data before revision 3 has no such blocks.
-/

set_option autoImplicit false

namespace Edid

namespace Cta.DataBlock

/-- The formats that a data block lists. -/
def formats (block : DataBlock) : List Mode :=
  if block.tag = videoTag then block.payload.filterMap shortDescriptorFormat?
  else if block.isY420Video then (block.payload.drop 1).filterMap shortDescriptorFormat?
  else []

/-- The codes of the formats that are shown at quarter chroma resolution only. -/
def y420OnlyCodes (block : DataBlock) : List Vic :=
  if block.isY420Video then
    ((block.payload.drop 1).map shortDescriptorCode).filter fun code => (ctaFormat? code).isSome
  else
    []

/-- The codes of the formats of a video data block that a map selects. Bits are counted anew
in each block and reach the first 64 of its descriptors. -/
def y420AlsoCodes (map : Nat) (block : DataBlock) : List Vic :=
  if block.tag = videoTag then
    (block.payload.zipIdx.filter fun (descriptor, position) =>
      position < 64 && map.testBit position && (shortDescriptorFormat? descriptor).isSome).map
        fun (descriptor, _) => shortDescriptorCode descriptor
  else
    []

end Cta.DataBlock

/-- The data blocks of revision 3 data. -/
def videoBlocks (blob : Blob) : List Cta.DataBlock :=
  match blob.cta? with
  | none => []
  | some collection => if collection.revision < 3 then [] else blob.ctaBlocks

/-- The short descriptors of the last video data block. -/
def lastVideoPayload (blocks : List Cta.DataBlock) : List Byte :=
  match (blocks.filter fun block => block.tag == Cta.DataBlock.videoTag).getLast? with
  | some block => block.payload
  | none => []

/-- The modes that the last HDMI block adds to a list. -/
def hdmiModes (blocks : List Cta.DataBlock) (listed : List Mode) : List Mode :=
  match (blocks.filter Cta.DataBlock.isHdmi).getLast? with
  | some block => (HdmiVideo.ofBlock block).modes (lastVideoPayload blocks) listed
  | none => []

/-- Adds the modes of the CTA-861 data. -/
def addFormatModes (blob : Blob) (modes : List Mode) : List Mode :=
  let blocks := videoBlocks blob
  let listed := modes ++ blocks.flatMap Cta.DataBlock.formats
  listed ++ hdmiModes blocks listed

/-- Records what the formats of the CTA-861 data say about the display. The list decides
whether the HDMI block adds anything, which only a display with infoframes does. -/
def Capabilities.absorbFormats (capabilities : Capabilities) (blob : Blob) (modes : List Mode) :
    Capabilities :=
  let blocks := videoBlocks blob
  let listed := modes ++ blocks.flatMap Cta.DataBlock.formats
  let only := blocks.flatMap Cta.DataBlock.y420OnlyCodes
  let also := blocks.flatMap (Cta.DataBlock.y420AlsoCodes capabilities.y420Map)
  { capabilities with
    y420Only := capabilities.y420Only.insertAll only
    y420Also := capabilities.y420Also.insertAll also
    colorFormats :=
      { capabilities.colorFormats with
        ycbcr420 := capabilities.colorFormats.ycbcr420 || !only.isEmpty }
    infoframe := capabilities.infoframe || !(hdmiModes blocks listed).isEmpty }

/-- The other half of a mode that is one of the two clocks of a format. Porches are those of
the table, stereo layouts those of the mode. -/
def alternateMode? (mode : Mode) : Option Mode :=
  (mode.format? .samePeriod).bind fun format =>
    let other := format.alternateClock
    if format.clock = other then none
    else if mode.clock = format.clock then
      some { format with stereo := mode.stereo, clock := other }
    else if mode.clock = other then some { format with stereo := mode.stereo }
    else none

/-- Adds the other half of every pair to a list, for displays with CTA-861 data. -/
def addAlternateModes (blob : Blob) (modes : List Mode) : List Mode :=
  if blob.cta?.isSome then modes ++ modes.filterMap alternateMode? else modes

end Edid
