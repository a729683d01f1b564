import Edid.Proofs.Cta.Container
import Edid.Proofs.Machine.Stereo

/-!
# HDMI blocks from their fields

An HDMI block with video is a choice of fields, most of which can be missing, written one behind the
other. Which modes belong to a choice is said by the fields alone. Whatever is chosen, what is read is
what was written, and the block adds its modes in the order of its fields.
-/

set_option autoImplicit false

namespace Edid

/-! ## Formats and copies -/

namespace Mode

def framePacked (mode : Mode) : Mode :=
  { mode with stereo := { mode.stereo with framePacking := true } }

def topAndBottom (mode : Mode) : Mode :=
  { mode with stereo := { mode.stereo with topAndBottom := true } }

def sideBySide (mode : Mode) : Mode :=
  { mode with stereo := { mode.stereo with sideBySideHalf := true } }

/-- The copies of a mode that every stereo display must accept. -/
def mandatoryCopies (mode : Mode) : List Mode :=
  match mode.flags.interlaced, mode.horizontal.active, mode.vertical.active, mode.refresh with
  | true, 1920, 1080, 50 | true, 1920, 1080, 60 => [mode.sideBySide]
  | false, 1920, 1080, 24 | false, 1280, 720, 50 | false, 1280, 720, 60 =>
      [mode.topAndBottom, mode.framePacked]
  | _, _, _, _ => []

/-- The formats that HDMI numbers from one on: 2160 lines at 30, 25 and 24 Hz, and wider at 24 Hz. -/
def ofHdmiCode? (code : Byte) : Option Mode :=
  let format (horizontal : Axis) (aspect : Aspect) : Mode :=
    { clock := 297000
      horizontal := horizontal
      vertical := ⟨2160, 2168, 2178, 2250⟩
      flags := { hsyncPositive := true, vsyncPositive := true }
      aspect := some aspect }
  if code = 1 then some (format ⟨3840, 4016, 4104, 4400⟩ .r16x9)
  else if code = 2 then some (format ⟨3840, 4896, 4984, 5280⟩ .r16x9)
  else if code = 3 then some (format ⟨3840, 5116, 5204, 5500⟩ .r16x9)
  else if code = 4 then some (format ⟨4096, 5116, 5204, 5500⟩ .r256x135)
  else none

/-- The format at a position of a video data block. Codes from 129 to 192 are those from 1 to 64. -/
def ofPosition? (descriptors : List Byte) (position : Nat) : Option Mode :=
  descriptors[position]?.bind fun descriptor =>
    let code :=
      if descriptor.toNat < 129 ∨ 192 < descriptor.toNat then descriptor.toNat
      else descriptor.toNat - 128
    (ctaFormats.find? fun format => format.1.toNat == code).map (·.2)

end Mode

/-! ## Fields -/

/-- A stereo structure for a single format of the video data block. Structures from eight on come
with a byte of details. -/
inductive StereoEntry where
  | short (position : BitVec 4) (form : BitVec 3)
  | long (position : BitVec 4) (form : BitVec 3) (detail : Byte)
  deriving DecidableEq

namespace StereoEntry

def position : StereoEntry → Nat
  | .short position _ => position.toNat
  | .long position _ _ => position.toNat

/-- A position over a structure. -/
def head (position : BitVec 4) (code : Nat) : Byte :=
  UInt8.ofNat (16 * position.toNat + code)

def bytes : StereoEntry → List Byte
  | .short position form => [head position form.toNat]
  | .long position form detail => [head position (8 + form.toNat), detail]

/-- The copy of a mode in the layout of the entry, if it is one that is supported: structures 0 and 6,
and structure 8 with horizontal subsampling. -/
def copy? (entry : StereoEntry) (mode : Mode) : Option Mode :=
  match entry with
  | .short _ form =>
      if form.toNat = 0 then some mode.framePacked
      else if form.toNat = 6 then some mode.topAndBottom
      else none
  | .long _ form detail =>
      if form.toNat = 0 ∧ detail.toNat / 16 = 1 then some mode.sideBySide else none

end StereoEntry

/-- Stereo structures for several formats of the video data block: for none, for the first sixteen,
or for those of a mask. -/
inductive StereoGroup where
  | none
  | all (structures : UInt16)
  | masked (structures mask : UInt16)
  deriving DecidableEq

/-- A word with its more significant byte first. -/
def wordBytes (word : UInt16) : List Byte :=
  [UInt8.ofNat (word.toNat / 256), UInt8.ofNat (word.toNat % 256)]

namespace StereoGroup

/-- The two bits that tell which of the fields are there. -/
def code : StereoGroup → Nat
  | .none => 0
  | .all _ => 1
  | .masked _ _ => 2

theorem code_lt (group : StereoGroup) : group.code < 3 := by
  cases group <;> simp [code]

def bytes : StereoGroup → List Byte
  | .none => []
  | .all structures => wordBytes structures
  | .masked structures mask => wordBytes structures ++ wordBytes mask

/-- Bits 0, 6 and 8 of the structures are for layouts that are supported. -/
def structures : StereoGroup → Nat
  | .none => 0
  | .all structures => structures.toNat
  | .masked structures _ => structures.toNat

/-- The copies of a mode in the layouts of the group. -/
def copies (group : StereoGroup) (mode : Mode) : List Mode :=
  (if group.structures.testBit 0 then [mode.framePacked] else []) ++
    (if group.structures.testBit 6 then [mode.topAndBottom] else []) ++
    if group.structures.testBit 8 then [mode.sideBySide] else []

def positions : StereoGroup → List Nat
  | .none => []
  | .all _ => List.range 16
  | .masked _ mask => (List.range 16).filter mask.toNat.testBit

end StereoGroup

/-- What an HDMI block with video holds. -/
structure HdmiFields where
  address : Byte × Byte
  support : Byte
  maxClock : Byte
  /-- Kinds of content, below the bit for video. -/
  content : BitVec 5
  latency : Option (Byte × Byte)
  interlacedLatency : Option (Byte × Byte)
  /-- Missing if the display shows no stereo pictures. -/
  group? : Option StereoGroup
  /-- How to read the physical size, below the stereo bits. -/
  sizing : BitVec 5
  codes : List Byte
  entries : List StereoEntry
  deriving DecidableEq

namespace HdmiFields

variable (fields : HdmiFields)

def group : StereoGroup :=
  fields.group?.getD .none

def presence : Byte :=
  UInt8.ofNat (128 * fields.latency.isSome.toNat + 64 * fields.interlacedLatency.isSome.toNat + 32 +
    fields.content.toNat)

def latencies : List Byte :=
  (fields.latency.toList ++ fields.interlacedLatency.toList).flatMap fun (video, audio) =>
    [video, audio]

def stereoFlags : Byte :=
  UInt8.ofNat (128 * fields.group?.isSome.toNat + 32 * fields.group.code + fields.sizing.toNat)

def stereoPart : List Byte :=
  fields.group.bytes ++ fields.entries.flatMap StereoEntry.bytes

def lengths : Byte :=
  UInt8.ofNat (32 * fields.codes.length + fields.stereoPart.length)

def payload : List Byte :=
  [0x03, 0x0c, 0x00, fields.address.1, fields.address.2, fields.support, fields.maxClock,
    fields.presence] ++
    (fields.latencies ++
      fields.stereoFlags :: fields.lengths :: (fields.codes ++ fields.stereoPart))

/-- The fields fit a data block, and the codes their count of three bits. -/
structure Storable (fields : HdmiFields) : Prop where
  codes : fields.codes.length ≤ 7
  payload : fields.payload.length ≤ 31

def block (storable : fields.Storable) : Cta.DataBlock :=
  ⟨Cta.DataBlock.vendorTag, fields.payload, storable.payload⟩

/-- The modes that the fields add to a list, given the formats of the video data block: the stereo
copies that a stereo display must accept, the known formats of HDMI, each format of the group in
each layout of it, and one copy for each single entry. -/
def modes (format? : Nat → Option Mode) (listed : List Mode) : List Mode :=
  (if fields.group?.isSome then listed.flatMap Mode.mandatoryCopies else []) ++
    fields.codes.filterMap Mode.ofHdmiCode? ++
    (fields.group.positions.flatMap fun position =>
      (format? position).toList.flatMap fields.group.copies) ++
    fields.entries.filterMap fun entry => (format? entry.position).bind entry.copy?

end HdmiFields

/-! ## Reading what was written -/

namespace StereoEntry

def layout? : StereoEntry → Option StereoLayout
  | .short _ form =>
      if form.toNat = 0 then some .framePacking
      else if form.toNat = 6 then some .topAndBottom
      else none
  | .long _ form detail =>
      if form.toNat = 0 ∧ detail.high = 1 then some .sideBySideHalf else none

/-- The format and the layout that are read. -/
def said? (entry : StereoEntry) : Option (Nat × StereoLayout) :=
  entry.layout?.map fun layout => (entry.position, layout)

end StereoEntry

def StereoGroup.layouts (group : StereoGroup) : List StereoLayout :=
  HdmiVideo.layoutsOf group.structures

/-- What is read from the fields about video. -/
def HdmiFields.video (fields : HdmiFields) : HdmiVideo where
  stereo := fields.group?.isSome
  codes := fields.codes
  layouts := fields.group.layouts
  positions := fields.group.positions
  entries := fields.entries.filterMap StereoEntry.said?

theorem wordBigEndian_wordBytes (word : UInt16) :
    Byte.wordBigEndian (UInt8.ofNat (word.toNat / 256)) (UInt8.ofNat (word.toNat % 256)) =
      word.toNat := by
  have small := word.toNat_lt
  simp only [Byte.wordBigEndian, UInt8.toNat_ofNat']
  omega

namespace StereoEntry

theorem high_head (position : BitVec 4) {code : Nat} (small : code < 16) :
    (head position code).high = position.toNat := by
  have inside := position.isLt
  rw [head, Byte.high, UInt8.toNat_ofNat']
  omega

theorem low_head (position : BitVec 4) {code : Nat} (small : code < 16) :
    (head position code).low = code := by
  rw [head, Byte.low, UInt8.toNat_ofNat']
  omega

theorem layoutOf?_short (position : BitVec 4) (form : BitVec 3) (detail : Byte) :
    HdmiVideo.layoutOf? (head position form.toNat) detail = (short position form).said? := by
  have inside := form.isLt
  have small : form.toNat < 16 := by omega
  have notEight : form.toNat ≠ 8 := by omega
  rw [HdmiVideo.layoutOf?, high_head position small, low_head position small, said?, layout?]
  simp only [notEight, false_and, if_false]
  split
  · rfl
  · split <;> rfl

theorem layoutOf?_long (position : BitVec 4) (form : BitVec 3) (detail : Byte) :
    HdmiVideo.layoutOf? (head position (8 + form.toNat)) detail =
      (long position form detail).said? := by
  have inside := form.isLt
  have small : 8 + form.toNat < 16 := by omega
  have first : 8 + form.toNat = 8 ↔ form.toNat = 0 := by omega
  rw [HdmiVideo.layoutOf?, high_head position small, low_head position small, if_neg (by omega),
    if_neg (by omega), said?, layout?]
  simp only [first]
  split <;> rfl

end StereoEntry

/-- Entries are read one by one, each as long as its structure tells. -/
theorem readEntries_bytes (entries : List StereoEntry) :
    HdmiVideo.readEntries (entries.flatMap StereoEntry.bytes) =
      entries.filterMap StereoEntry.said? := by
  have steps : HdmiVideo.readSteps (entries.flatMap StereoEntry.bytes) =
      entries.map StereoEntry.said? := by
    induction entries with
    | nil => rfl
    | cons entry rest ih =>
        rw [List.flatMap_cons, List.map_cons, ← ih]
        cases entry with
        | short position form =>
            have inside := form.isLt
            have short : (StereoEntry.head position form.toNat).low ≤ 7 := by
              rw [StereoEntry.low_head position (by omega)]
              omega
            rw [← StereoEntry.layoutOf?_short position form 0]
            exact HdmiVideo.readSteps_short short _
        | long position form detail =>
            have inside := form.isLt
            have long : ¬(StereoEntry.head position (8 + form.toNat)).low ≤ 7 := by
              rw [StereoEntry.low_head position (by omega)]
              omega
            rw [← StereoEntry.layoutOf?_long position form detail]
            exact HdmiVideo.readSteps_long long detail _
  rw [HdmiVideo.readEntries_eq_filterMap, steps, List.filterMap_map, Function.id_comp]

theorem withStereoPart_bytes (video : HdmiVideo) (group : StereoGroup) (rest : List Byte)
    (flat : video.layouts = []) (nowhere : video.positions = []) :
    video.withStereoPart group.code (group.bytes ++ rest) =
      { video with
        layouts := group.layouts
        positions := group.positions
        entries := HdmiVideo.readEntries rest } := by
  cases group with
  | none =>
      obtain ⟨stereo, codes, layouts, positions, entries⟩ := video
      cases flat
      cases nowhere
      rfl
  | all structures =>
      have word := wordBigEndian_wordBytes structures
      rw [StereoGroup.layouts, StereoGroup.structures, ← word]
      rfl
  | masked structures mask =>
      have word := wordBigEndian_wordBytes structures
      have selected := wordBigEndian_wordBytes mask
      rw [StereoGroup.layouts, StereoGroup.structures, StereoGroup.positions, ← word, ← selected]
      rfl

namespace HdmiFields

variable {fields : HdmiFields}

theorem bits_presence (fields : HdmiFields) :
    fields.presence.bit 7 = fields.latency.isSome ∧
      fields.presence.bit 6 = fields.interlacedLatency.isSome ∧ fields.presence.bit 5 = true := by
  have bits : ∀ progressive interlaced : Bool, ∀ content < 32,
      let presence : Byte :=
        UInt8.ofNat (128 * progressive.toNat + 64 * interlaced.toNat + 32 + content)
      presence.bit 7 = progressive ∧ presence.bit 6 = interlaced ∧ presence.bit 5 = true := by
    decide
  exact bits _ _ _ fields.content.isLt

theorem bits_stereoFlags (fields : HdmiFields) :
    fields.stereoFlags.bit 7 = fields.group?.isSome ∧
      (if fields.stereoFlags.bit 7 then fields.stereoFlags.toNat / 32 % 4 else 0) =
        fields.group.code := by
  have bits : ∀ present : Bool, ∀ code < 3, ∀ sizing < 32,
      let flags : Byte := UInt8.ofNat (128 * present.toNat + 32 * code + sizing)
      flags.bit 7 = present ∧ flags.toNat / 32 % 4 = code := by
    decide
  obtain ⟨bit, two⟩ := bits fields.group?.isSome _ fields.group.code_lt _ fields.sizing.isLt
  change fields.stereoFlags.bit 7 = _ at bit
  change fields.stereoFlags.toNat / 32 % 4 = _ at two
  refine ⟨bit, ?_⟩
  rw [bit, two]
  cases found : fields.group? with
  | none =>
      rw [group, found]
      rfl
  | some _ => rfl

theorem length_latencies (fields : HdmiFields) :
    fields.latencies.length =
      (if fields.latency.isSome then 2 else 0) +
        if fields.interlacedLatency.isSome then 2 else 0 := by
  rw [latencies]
  cases fields.latency <;> cases fields.interlacedLatency <;> rfl

theorem toNat_lengths (storable : fields.Storable) :
    fields.lengths.toNat / 32 = fields.codes.length ∧
      fields.lengths.toNat % 32 = fields.stereoPart.length := by
  have few := storable.codes
  have whole := storable.payload
  simp only [payload, List.length_append, List.length_cons, List.length_nil] at whole
  rw [lengths, UInt8.toNat_ofNat']
  omega

/-- Both counts of the fields are in one byte, and what they count follows without a gap. -/
theorem readFields_stereo (storable : fields.Storable) :
    HdmiVideo.readFields
        (fields.stereoFlags :: fields.lengths :: (fields.codes ++ fields.stereoPart)) =
      fields.video := by
  obtain ⟨count, length⟩ := toNat_lengths storable
  obtain ⟨present, code⟩ := bits_stereoFlags fields
  rw [HdmiVideo.readFields, count, length, code, present, List.take_left, List.drop_left,
    if_neg (Nat.lt_irrefl _), List.take_length, stereoPart, withStereoPart_bytes _ _ _ rfl rfl,
    readEntries_bytes]
  rfl

theorem ofBlock_block (storable : fields.Storable) :
    HdmiVideo.ofBlock (fields.block storable) = fields.video := by
  obtain ⟨progressive, interlaced, video⟩ := bits_presence fields
  have behind : (fields.block storable).payload.drop 7 =
      fields.presence :: (fields.latencies ++
        fields.stereoFlags :: fields.lengths :: (fields.codes ++ fields.stereoPart)) := rfl
  rw [HdmiVideo.ofBlock, behind]
  change (if fields.presence.bit 5 then _ else _) = _
  rw [if_pos video, progressive, interlaced, ← length_latencies, List.drop_left]
  exact readFields_stereo storable

theorem isHdmi_block (storable : fields.Storable) : (fields.block storable).isHdmi = true := by
  have long : 5 ≤ (fields.block storable).length :=
    Nat.le_add_left 5 _
  rw [Cta.DataBlock.isHdmi, Bool.and_eq_true, Bool.and_eq_true]
  exact ⟨⟨decide_eq_true rfl, decide_eq_true long⟩, decide_eq_true rfl⟩

end HdmiFields

/-! ## Modes for what was read -/

theorem Mode.inLayout_framePacking (mode : Mode) :
    mode.inLayout .framePacking = mode.framePacked :=
  rfl

theorem Mode.inLayout_topAndBottom (mode : Mode) :
    mode.inLayout .topAndBottom = mode.topAndBottom :=
  rfl

theorem Mode.inLayout_sideBySideHalf (mode : Mode) :
    mode.inLayout .sideBySideHalf = mode.sideBySide :=
  rfl

theorem mandatoryStereoModes_eq (listed : List Mode) :
    mandatoryStereoModes listed = listed.flatMap Mode.mandatoryCopies := by
  rw [mandatoryStereoModes]
  congr 1
  funext mode
  rw [Mode.mandatoryCopies]
  -- One case for each mode of the table, and one for all others.
  split <;>
    simp_all [MandatoryStereo.table, MandatoryStereo.covers, Mode.width, Mode.height,
      Mode.interlaced, Mode.inLayout_framePacking, Mode.inLayout_topAndBottom,
      Mode.inLayout_sideBySideHalf]

theorem hdmiFormat?_eq (code : Byte) : hdmiFormat? code = Mode.ofHdmiCode? code := by
  by_cases one : code = 1
  · subst one
    rfl
  by_cases two : code = 2
  · subst two
    rfl
  by_cases three : code = 3
  · subst three
    rfl
  by_cases four : code = 4
  · subst four
    rfl
  simp [hdmiFormat?, hdmiFormats, List.lookup_cons, Mode.ofHdmiCode?, beq_false_of_ne, one, two,
    three, four]

theorem lookup_eq_map_find? {α β : Type} [BEq α] (key : α) (items : List (α × β)) :
    items.lookup key = (items.find? fun item => key == item.1).map (·.2) := by
  induction items with
  | nil => rfl
  | cons item rest ih =>
      rw [List.lookup_cons, List.find?_cons, ih]
      cases key == item.1 <;> rfl

theorem toNat_shortDescriptorCode (descriptor : Byte) :
    (shortDescriptorCode descriptor).toNat =
      if descriptor.toNat < 129 ∨ 192 < descriptor.toNat then descriptor.toNat
      else descriptor.toNat - 128 := by
  rw [shortDescriptorCode]
  split
  · next native =>
      rw [if_neg (by omega)]
      exact UInt8.toNat_sub_of_le _ _ (UInt8.le_iff_toNat_le.mpr (by simpa using by omega))
  · next plain => rw [if_pos (by omega)]

theorem bind_shortDescriptorFormat? (descriptors : List Byte) (position : Nat) :
    descriptors[position]?.bind shortDescriptorFormat? = Mode.ofPosition? descriptors position := by
  rw [Mode.ofPosition?]
  congr 1
  funext descriptor
  rw [shortDescriptorFormat?, ctaFormat?, lookup_eq_map_find?, ← toNat_shortDescriptorCode]
  congr 2
  funext format
  rw [Bool.eq_iff_iff, beq_iff_eq, beq_iff_eq, UInt8.toNat_inj, eq_comm]

theorem StereoGroup.map_layouts (group : StereoGroup) (mode : Mode) :
    group.layouts.map mode.inLayout = group.copies mode := by
  rw [layouts, HdmiVideo.layoutsOf, copies]
  cases first : group.structures.testBit 0 <;> cases second : group.structures.testBit 6 <;>
    cases third : group.structures.testBit 8 <;>
    simp [first, second, third, Mode.inLayout_framePacking, Mode.inLayout_topAndBottom,
      Mode.inLayout_sideBySideHalf]

theorem StereoEntry.map_layout? (entry : StereoEntry) (mode : Mode) :
    entry.layout?.map mode.inLayout = entry.copy? mode := by
  cases entry with
  | short position form =>
      simp only [layout?, copy?]
      split
      · rfl
      · split <;> rfl
  | long position form detail =>
      simp only [layout?, copy?, Byte.high]
      by_cases half : form.toNat = 0 ∧ detail.toNat / 16 = 1 <;> simp [half]
      rfl

/-- Each format that is known gives a copy in each of its layouts. -/
theorem HdmiFields.modes_video (fields : HdmiFields) (descriptors : List Byte) (listed : List Mode) :
    fields.video.modes descriptors listed =
      fields.modes (Mode.ofPosition? descriptors) listed := by
  have grouped (position : Nat) :
      (fields.group.layouts.filterMap fun layout =>
        HdmiVideo.stereoFormat? descriptors position layout) =
          (Mode.ofPosition? descriptors position).toList.flatMap fields.group.copies := by
    simp only [HdmiVideo.stereoFormat?, bind_shortDescriptorFormat?]
    cases Mode.ofPosition? descriptors position with
    | none => simp
    | some mode => simp [← StereoGroup.map_layouts]
  have single : (fields.video.entries.filterMap fun entry =>
      HdmiVideo.stereoFormat? descriptors entry.1 entry.2) =
        fields.entries.filterMap fun entry =>
          (Mode.ofPosition? descriptors entry.position).bind entry.copy? := by
    rw [video, List.filterMap_filterMap]
    congr 1
    funext entry
    simp only [HdmiVideo.stereoFormat?, bind_shortDescriptorFormat?, StereoEntry.said?,
      ← funext entry.map_layout?]
    cases entry.layout? with
    | none => simp
    | some layout => exact Option.map_eq_bind
  rw [HdmiVideo.modes, modes, ← single, mandatoryStereoModes_eq]
  simp only [video, grouped, funext hdmiFormat?_eq]
  rfl

/-! ## In a collection -/

theorem getLast?_filter {α : Type} {test : α → Bool} {front back : List α} {item : α}
    (passes : test item = true) (last : ∀ other ∈ back, test other = false) :
    ((front ++ item :: back).filter test).getLast? = some item := by
  have none : back.filter test = [] :=
    List.filter_eq_nil_iff.mpr fun other member => Bool.eq_false_iff.mp (last other member)
  rw [List.filter_append, List.filter_cons_of_pos passes, none, List.getLast?_concat]

theorem lastVideoPayload_eq {front behind : List Cta.DataBlock} {video : Cta.DataBlock}
    (listing : video.tag = Cta.DataBlock.videoTag)
    (others : ∀ block ∈ behind, block.tag ≠ Cta.DataBlock.videoTag) :
    lastVideoPayload (front ++ video :: behind) = video.payload := by
  have last : ∀ block ∈ behind, (block.tag == Cta.DataBlock.videoTag) = false :=
    fun block member => beq_eq_false_iff_ne.mpr (others block member)
  have placed : ((front ++ video :: behind).filter fun block =>
      block.tag == Cta.DataBlock.videoTag).getLast? = some video :=
    getLast?_filter (beq_iff_eq.mpr listing) last
  rw [lastVideoPayload, placed]

theorem hdmiModes_eq {front behind : List Cta.DataBlock} {block : Cta.DataBlock}
    (vendor : block.isHdmi = true) (last : ∀ other ∈ behind, other.isHdmi = false)
    (listed : List Mode) :
    hdmiModes (front ++ block :: behind) listed =
      (HdmiVideo.ofBlock block).modes (lastVideoPayload (front ++ block :: behind)) listed := by
  rw [hdmiModes, getLast?_filter vendor last]

/-- Behind the formats of all data blocks stand the modes of the HDMI block in the order of its
fields, whatever is chosen for them. Positions are those of the video data block, which is the last
one of its kind and comes before. The data is of revision 3 or later, and no other HDMI block comes
behind. -/
theorem addFormatModes_of_fields {blob : Blob} {revision : Byte} {fields : HdmiFields}
    (storable : fields.Storable) {front middle back blocks : List Cta.DataBlock}
    {video : Cta.DataBlock} (reads : Cta.ReadsAs blob revision blocks) (recent : 3 ≤ revision.toNat)
    (arranged : blocks = front ++ video :: (middle ++ fields.block storable :: back))
    (listing : video.tag = Cta.DataBlock.videoTag)
    (others : ∀ block ∈ middle ++ back, block.tag ≠ Cta.DataBlock.videoTag)
    (last : ∀ block ∈ back, block.isHdmi = false) (modes : List Mode) :
    addFormatModes blob modes =
      modes ++ blocks.flatMap Cta.DataBlock.formats ++
        fields.modes (Mode.ofPosition? video.payload)
          (modes ++ blocks.flatMap Cta.DataBlock.formats) := by
  have read : videoBlocks blob = blocks := by
    rw [reads.videoBlocks_eq, if_neg (Nat.not_lt_of_le recent)]
  have behind : ∀ block ∈ middle ++ fields.block storable :: back,
      block.tag ≠ Cta.DataBlock.videoTag := by
    intro block member
    rcases List.mem_append.mp member with before | here
    · exact others block (List.mem_append_left _ before)
    · rcases List.mem_cons.mp here with rfl | after
      · exact (by decide : Cta.DataBlock.vendorTag ≠ Cta.DataBlock.videoTag)
      · exact others block (List.mem_append_right _ after)
  have positions : lastVideoPayload blocks = video.payload := by
    rw [arranged, lastVideoPayload_eq listing behind]
  have regrouped : blocks = (front ++ video :: middle) ++ fields.block storable :: back := by
    rw [arranged, List.append_assoc, List.cons_append]
  have added (listed : List Mode) :
      hdmiModes blocks listed = fields.modes (Mode.ofPosition? video.payload) listed := by
    rw [regrouped, hdmiModes_eq (HdmiFields.isHdmi_block storable) last, ← regrouped, positions,
      HdmiFields.ofBlock_block, HdmiFields.modes_video]
  rw [addFormatModes, read, added]

/-- All fields at once: both latencies, three codes with one that is unknown, layouts for the first
and the third format, and entries of both lengths, one of them for a format that is not there. -/
def theaterFields : HdmiFields where
  address := (0x10, 0x00)
  support := 0x80
  maxClock := 0
  content := 0#5
  latency := some (21, 31)
  interlacedLatency := some (41, 51)
  group? := some (.masked 0x0141 0x0005)
  sizing := 0#5
  codes := [1, 3, 9]
  entries := [.long 1#4 0#3 0x10, .short 3#4 6#3, .short 9#4 0#3, .long 0#4 7#3 0xff]

theorem storable_theaterFields : theaterFields.Storable :=
  ⟨by decide, by decide⟩

def theaterVideo : Cta.DataBlock :=
  ⟨Cta.DataBlock.videoTag, [16, 4, 19, 32], by decide⟩

def theaterSpeakers : Cta.DataBlock :=
  ⟨Cta.DataBlock.speakerTag, [0x4f, 0, 0], by decide⟩

def theaterBlocks : List Cta.DataBlock :=
  [theaterVideo, theaterSpeakers, theaterFields.block storable_theaterFields]

/-- An HDMI block without video. -/
def bareHdmi : Cta.DataBlock :=
  ⟨Cta.DataBlock.vendorTag, [0x03, 0x0c, 0x00, 0x20, 0x00], by decide⟩

/-- An extension with data blocks of a revision. -/
def theaterExtension (revision : Byte) (blocks : List Cta.DataBlock) : Block :=
  Vector.ofFn fun position =>
    ([Block.ctaTag, revision, UInt8.ofNat (4 + (Cta.DataBlock.stored blocks).length), 0] ++
      Cta.DataBlock.stored blocks).getD position.val 0

def theaterBase : Block :=
  Vector.ofFn fun position =>
    (Block.header.toList ++ List.replicate 10 0 ++ [1, 3, 0x80] ++ List.replicate 105 0 ++
      [1, 0x81]).getD position.val 0

theorem extensionCount_theaterBase : theaterBase.extensionCount = 1 := by
  decide +kernel

def theater (revision : Byte) (blocks : List Cta.DataBlock) : Blob :=
  .single theaterBase (theaterExtension revision blocks) extensionCount_theaterBase

/-- The four formats, the copies that must be accepted, two formats of HDMI, three copies of the first
and the third format, and one each of the second and the fourth. -/
theorem addFormatModes_of_fields_theater :
    let modes := addFormatModes (theater 3 theaterBlocks) []
    modes = theaterBlocks.flatMap Cta.DataBlock.formats ++
        theaterFields.modes (Mode.ofPosition? theaterVideo.payload)
          (theaterBlocks.flatMap Cta.DataBlock.formats) ∧
      modes.map (fun mode => (mode.width, mode.height, mode.refresh, mode.stereo)) =
        [(1920, 1080, 60, {}), (1280, 720, 60, {}), (1280, 720, 50, {}), (1920, 1080, 24, {}),
          (1280, 720, 60, { topAndBottom := true }), (1280, 720, 60, { framePacking := true }),
          (1280, 720, 50, { topAndBottom := true }), (1280, 720, 50, { framePacking := true }),
          (1920, 1080, 24, { topAndBottom := true }), (1920, 1080, 24, { framePacking := true }),
          (3840, 2160, 30, {}), (3840, 2160, 24, {}),
          (1920, 1080, 60, { framePacking := true }), (1920, 1080, 60, { topAndBottom := true }),
          (1920, 1080, 60, { sideBySideHalf := true }),
          (1280, 720, 50, { framePacking := true }), (1280, 720, 50, { topAndBottom := true }),
          (1280, 720, 50, { sideBySideHalf := true }),
          (1280, 720, 60, { sideBySideHalf := true }),
          (1920, 1080, 24, { topAndBottom := true })] := by
  have holds : (theaterExtension 3 theaterBlocks).HoldsCta 3 theaterBlocks :=
    { room := by decide
      split := ⟨0, (theaterExtension 3 theaterBlocks).toList.drop 41, by decide +kernel⟩ }
  have reads : Cta.ReadsAs (theater 3 theaterBlocks) 3 theaterBlocks :=
    Cta.readsAs_of_holdsCta (Blob.holdsCta_single _ holds)
  have arranged : theaterBlocks =
      [] ++ theaterVideo ::
        ([theaterSpeakers] ++ theaterFields.block storable_theaterFields :: []) := rfl
  have others : ∀ block ∈ [theaterSpeakers] ++ [], block.tag ≠ Cta.DataBlock.videoTag := by decide
  have listed := addFormatModes_of_fields storable_theaterFields reads (by decide) arranged rfl
    others (List.forall_mem_nil _) []
  exact ⟨listed, by decide +kernel⟩

/-- Another HDMI block behind takes the place of the first, and data before revision 3 adds
nothing. -/
theorem theater_overruled :
    let formats := theaterBlocks.flatMap Cta.DataBlock.formats
    let copies := theaterFields.modes (Mode.ofPosition? theaterVideo.payload) formats
    Cta.ReadsAs (theater 3 (theaterBlocks ++ [bareHdmi])) 3 (theaterBlocks ++ [bareHdmi]) ∧
      addFormatModes (theater 3 (theaterBlocks ++ [bareHdmi])) [] ≠ formats ++ copies ∧
      Cta.ReadsAs (theater 2 theaterBlocks) 2 theaterBlocks ∧
      addFormatModes (theater 2 theaterBlocks) [] ≠ formats ++ copies := by
  have holds : (theaterExtension 3 (theaterBlocks ++ [bareHdmi])).HoldsCta 3
      (theaterBlocks ++ [bareHdmi]) :=
    { room := by decide
      split := ⟨0, (theaterExtension 3 (theaterBlocks ++ [bareHdmi])).toList.drop 47,
        by decide +kernel⟩ }
  have older : (theaterExtension 2 theaterBlocks).HoldsCta 2 theaterBlocks :=
    { room := by decide
      split := ⟨0, (theaterExtension 2 theaterBlocks).toList.drop 41, by decide +kernel⟩ }
  exact ⟨Cta.readsAs_of_holdsCta (Blob.holdsCta_single _ holds), by decide +kernel,
    Cta.readsAs_of_holdsCta (Blob.holdsCta_single _ older), by decide +kernel⟩

end Edid
