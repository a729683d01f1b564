import Edid.Cta.DataBlock
import Edid.Mode.Rate
import Edid.Standard.Formats

/-!
# Formats and stereo layouts of an HDMI block

The vendor block of HDMI 1.4 lists formats by the codes that HDMI gives them, and says in which
stereo layouts the formats of the video data block can be shown: some layouts for whole groups
of formats, others one by one. It is read as far as its lengths reach; a group that is cut off
is left out as a whole.
-/

set_option autoImplicit false

namespace Edid

/-- A format that every stereo display must accept in some layout. -/
structure MandatoryStereo where
  width : Nat
  height : Nat
  refresh : Nat
  interlaced : Bool
  layout : StereoLayout
  deriving DecidableEq, Repr

namespace MandatoryStereo

def table : List MandatoryStereo :=
  [⟨1920, 1080, 24, false, .topAndBottom⟩,
   ⟨1920, 1080, 24, false, .framePacking⟩,
   ⟨1920, 1080, 50, true, .sideBySideHalf⟩,
   ⟨1920, 1080, 60, true, .sideBySideHalf⟩,
   ⟨1280, 720, 50, false, .topAndBottom⟩,
   ⟨1280, 720, 50, false, .framePacking⟩,
   ⟨1280, 720, 60, false, .topAndBottom⟩,
   ⟨1280, 720, 60, false, .framePacking⟩]

def covers (mandatory : MandatoryStereo) (mode : Mode) : Bool :=
  mode.width == mandatory.width && mode.height == mandatory.height &&
    mode.interlaced == mandatory.interlaced && mode.refresh == mandatory.refresh

end MandatoryStereo

/-- The stereo modes that a stereo display must accept, given its plain ones. -/
def mandatoryStereoModes (modes : List Mode) : List Mode :=
  modes.flatMap fun mode =>
    (MandatoryStereo.table.filter (·.covers mode)).map fun mandatory =>
      mode.inLayout mandatory.layout

/-- What an HDMI block says about video. -/
structure HdmiVideo where
  /-- The display shows stereo pictures. -/
  stereo : Bool := false
  /-- HDMI codes of further formats. -/
  codes : List Byte := []
  /-- Layouts for all the formats at `positions` of the video data block. -/
  layouts : List StereoLayout := []
  positions : List Nat := []
  /-- Layouts for single formats of the video data block. -/
  entries : List (Nat × StereoLayout) := []
  deriving DecidableEq, Repr

namespace HdmiVideo

/-- The layouts among sixteen bits of structures that are supported. -/
def layoutsOf (structures : Nat) : List StereoLayout :=
  ([(0, .framePacking), (6, .topAndBottom), (8, .sideBySideHalf)].filter
    fun (position, _) => structures.testBit position).map (·.2)

/-- The formats among the first sixteen that a mask selects, in ascending order. -/
def positionsOf (mask : Nat) : List Nat :=
  (List.range 16).filter mask.testBit

/-- Single entries: a position over a structure, and a detail byte if the structure is above
seven. Side by side is supported with horizontal subsampling only. -/
def readEntries : List Byte → List (Nat × StereoLayout)
  | [] => []
  | entry :: rest =>
      if entry.low ≤ 7 then
        match entry.low with
        | 0 => (entry.high, .framePacking) :: readEntries rest
        | 6 => (entry.high, .topAndBottom) :: readEntries rest
        | _ => readEntries rest
      else
        match rest with
        | [] => []
        | detail :: rest =>
            if entry.low = 8 ∧ detail.high = 1 then
              (entry.high, .sideBySideHalf) :: readEntries rest
            else
              readEntries rest

/-- Adds the stereo part, `bytes` in all. A multi-stereo value of one puts two bytes of
structures in front of the entries, two a mask of positions as well. -/
def withStereoPart (video : HdmiVideo) (multi : Nat) (bytes : List Byte) : HdmiVideo :=
  match multi, bytes with
  | 1, high :: low :: rest =>
      { video with
        layouts := layoutsOf (Byte.wordBigEndian high low)
        positions := List.range 16
        entries := readEntries rest }
  | 1, _ => video
  | 2, high :: low :: maskHigh :: maskLow :: rest =>
      { video with
        layouts := layoutsOf (Byte.wordBigEndian high low)
        positions := positionsOf (Byte.wordBigEndian maskHigh maskLow)
        entries := readEntries rest }
  | 2, _ => video
  | _, _ => { video with entries := readEntries bytes }

/-- The video fields behind the latency fields: stereo bits, two lengths, codes, stereo part. -/
def readFields : List Byte → HdmiVideo
  | flags :: lengths :: rest =>
      let codeCount := lengths.toNat / 32
      let stereoLength := lengths.toNat % 32
      let video : HdmiVideo := { stereo := flags.bit 7, codes := rest.take codeCount }
      let stereoPart := rest.drop codeCount
      if stereoPart.length < stereoLength then video
      else
        video.withStereoPart (if flags.bit 7 then flags.toNat / 32 % 4 else 0)
          (stereoPart.take stereoLength)
  | _ => {}

/-- What an HDMI block says about video; nothing without its video bit. Two pairs of latency
bytes come first if their bits are set. -/
def ofBlock (block : Cta.DataBlock) : HdmiVideo :=
  match block.payload.drop 7 with
  | flags :: rest =>
      if flags.bit 5 then
        readFields
          (rest.drop ((if flags.bit 7 then 2 else 0) + if flags.bit 6 then 2 else 0))
      else
        {}
  | [] => {}

/-- The format at a position of a video data block, in a stereo layout. -/
def stereoFormat? (descriptors : List Byte) (position : Nat) (layout : StereoLayout) :
    Option Mode :=
  (descriptors[position]?.bind shortDescriptorFormat?).map fun mode => mode.inLayout layout

/-- The modes that the block adds to a list, given the short descriptors of the video data
block that it refers to. -/
def modes (video : HdmiVideo) (descriptors : List Byte) (listed : List Mode) : List Mode :=
  (if video.stereo then mandatoryStereoModes listed else []) ++
    video.codes.filterMap hdmiFormat? ++
    (video.positions.flatMap fun position =>
      video.layouts.filterMap fun layout => stereoFormat? descriptors position layout) ++
    video.entries.filterMap fun (position, layout) => stereoFormat? descriptors position layout

end HdmiVideo

end Edid
