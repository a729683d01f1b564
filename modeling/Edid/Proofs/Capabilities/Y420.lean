import Edid.Proofs.Capabilities.Kind
import Edid.Proofs.Modes.Stereo
import Edid.Proofs.Vic.Set

/-!
# Formats at quarter chroma resolution

A format is recorded as one that can be shown at quarter chroma resolution along with its mode,
so that the display always lists it. The map of such formats is applied to every video data block
anew: a bit stands for a position in each of them and not in all of them together.
-/

set_option autoImplicit false

namespace Edid

/-! ## Recorded codes -/

/-- A map picks a code from short descriptors: one of the first 64 stands for it and has its bit
in the map. -/
def Picks (map : Nat) (descriptors : List Byte) (code : Vic) : Prop :=
  ∃ position descriptor, position < 64 ∧ map.testBit position = true ∧
    descriptors[position]? = some descriptor ∧ shortDescriptorCode descriptor = code ∧
    (ctaFormat? code).isSome = true

namespace Cta.DataBlock

variable {block : DataBlock} {code : Vic} {map : Nat}

theorem tag_of_isY420Video (quarter : block.isY420Video = true) : block.tag = extendedTag :=
  tag_of_extended? (of_decide_eq_true quarter)

theorem mem_y420AlsoCodes_iff :
    code ∈ block.y420AlsoCodes map ↔ block.tag = videoTag ∧ Picks map block.payload code := by
  rw [y420AlsoCodes]
  split
  · next video =>
      simp only [List.mem_map, List.mem_filter, Bool.and_eq_true, decide_eq_true_eq,
        shortDescriptorFormat?]
      constructor
      · rintro ⟨⟨descriptor, position⟩, ⟨placed, ⟨near, set⟩, known⟩, rfl⟩
        have found := List.mk_mem_zipIdx_iff_getElem?.mp placed
        exact ⟨video, position, descriptor, near, set, found, rfl, known⟩
      · rintro ⟨_, position, descriptor, near, set, found, rfl, known⟩
        have placed := List.mk_mem_zipIdx_iff_getElem?.mpr found
        exact ⟨(descriptor, position), ⟨placed, ⟨near, set⟩, known⟩, rfl⟩
  · next other =>
      constructor
      · intro member
        contradiction
      · rintro ⟨video, _⟩
        contradiction

/-- A code is recorded only along with the format that it stands for. -/
theorem exists_format_of_mem_y420OnlyCodes (member : code ∈ block.y420OnlyCodes) :
    ∃ format ∈ block.formats, ctaFormat? code = some format := by
  rw [y420OnlyCodes] at member
  split at member
  · next quarter =>
      have other : ¬ block.tag = videoTag := by
        rw [tag_of_isY420Video quarter]
        decide
      obtain ⟨listed, known⟩ := List.mem_filter.mp member
      obtain ⟨descriptor, present, rfl⟩ := List.mem_map.mp listed
      obtain ⟨format, found⟩ := Option.isSome_iff_exists.mp known
      refine ⟨format, ?_, found⟩
      rw [formats, if_neg other, if_pos quarter]
      exact List.mem_filterMap.mpr ⟨descriptor, present, found⟩
  · contradiction

theorem exists_format_of_mem_y420AlsoCodes (member : code ∈ block.y420AlsoCodes map) :
    ∃ format ∈ block.formats, ctaFormat? code = some format := by
  obtain ⟨video, position, descriptor, _, _, found, rfl, known⟩ := mem_y420AlsoCodes_iff.mp member
  obtain ⟨format, standing⟩ := Option.isSome_iff_exists.mp known
  refine ⟨format, ?_, standing⟩
  rw [formats, if_pos video]
  exact List.mem_filterMap.mpr ⟨descriptor, List.mem_of_getElem? found, standing⟩

end Cta.DataBlock

/-! ## The summary -/

section Summary

variable (blob : Blob) (workarounds : Workarounds)

/-- A forced depth replaces the depth and nothing else. -/
theorem Capabilities.forceBits_eq (capabilities : Capabilities) :
    capabilities.forceBits workarounds =
      { capabilities with
        bitsPerColor := (capabilities.forceBits workarounds).bitsPerColor } := by
  rw [forceBits]
  cases workarounds.forcedBits? with
  | none => rfl
  | some bits => rfl

theorem contains_y420Only_iff {code : Vic} :
    (collectCapabilities blob workarounds).y420Only.contains code = true ↔
      ∃ block ∈ videoBlocks blob, code ∈ block.y420OnlyCodes := by
  have start := (Capabilities.unrecorded_ofBlob blob workarounds).only
  rw [collectCapabilities, Capabilities.forceBits_eq]
  simp only [Capabilities.absorbFormats, start]
  rw [VicSet.contains_insertAll_iff, VicSet.contains_empty, List.mem_flatMap]
  simp only [Bool.false_eq_true, false_or]

theorem contains_y420Also_iff {code : Vic} :
    (collectCapabilities blob workarounds).y420Also.contains code = true ↔
      ∃ block ∈ videoBlocks blob,
        code ∈ block.y420AlsoCodes (collectCapabilities blob workarounds).y420Map := by
  have start := (Capabilities.unrecorded_ofBlob blob workarounds).also
  rw [collectCapabilities, Capabilities.forceBits_eq]
  simp only [Capabilities.absorbFormats, start]
  rw [VicSet.contains_insertAll_iff, VicSet.contains_empty, List.mem_flatMap]
  simp only [Bool.false_eq_true, false_or]

end Summary

/-! ## The mode list -/

section Modes

theorem Extends.mem {old new : List Mode} (grown : Extends old new) {mode : Mode}
    (member : mode ∈ old) : mode ∈ new := by
  obtain ⟨added, _, rfl⟩ := grown
  exact List.mem_append_left added member

/-- Later steps keep what the data blocks list, apart from the mark. -/
theorem exists_mem_collectModes_of_formats {blob : Blob} (workarounds : Workarounds)
    {block : Cta.DataBlock} {format : Mode} (present : block ∈ videoBlocks blob)
    (listed : format ∈ block.formats) :
    ∃ preferred, format.withPreferred preferred ∈ collectModes blob workarounds := by
  let context := TimingContext.ofBlob blob
  have inFormats : format ∈ addFormatModes blob (baseModes blob context workarounds) := by
    have added := List.mem_flatMap.mpr ⟨block, present, listed⟩
    exact List.mem_append_left _ (List.mem_append_right _ added)
  have inAlternates := subset_addAlternateModes blob _ inFormats
  have inInferred := (extends_addInferredModes context blob _).mem
    (List.mem_append_left (displayIdModes blob) inAlternates)
  exact exists_mem_correctPreferred workarounds inInferred

end Modes

/-- Every format that a display records as one that can be shown at quarter chroma resolution, only
there or also there, is among its modes. -/
theorem y420_listed_of_parse {policy : RepairPolicy} {bytes : List Byte} {display : Display}
    (parsed : parse policy bytes = .ok display) :
    ∀ code, display.capabilities.y420Only.contains code = true ∨
        display.capabilities.y420Also.contains code = true →
      ∃ format preferred, ctaFormat? code = some format ∧
        format.withPreferred preferred ∈ display.modes := by
  rw [capabilities_of_parse parsed, modes_of_parse parsed]
  intro code recorded
  have found : ∃ block ∈ videoBlocks display.blob, ∃ format ∈ block.formats,
      ctaFormat? code = some format := by
    rcases recorded with only | also
    · obtain ⟨block, present, member⟩ := (contains_y420Only_iff _ _).mp only
      exact ⟨block, present, Cta.DataBlock.exists_format_of_mem_y420OnlyCodes member⟩
    · obtain ⟨block, present, member⟩ := (contains_y420Also_iff _ _).mp also
      exact ⟨block, present, Cta.DataBlock.exists_format_of_mem_y420AlsoCodes member⟩
  obtain ⟨block, present, format, listed, known⟩ := found
  obtain ⟨preferred, member⟩ :=
    exists_mem_collectModes_of_formats display.workarounds present listed
  exact ⟨format, preferred, known, member⟩

/-- A display with two video data blocks, a map for the second position, and a format that is shown
at quarter chroma resolution only. -/
def ultraHd : Blob where
  base := Vector.ofFn fun position =>
    (Block.header.toList ++ List.replicate 10 0 ++ [1, 3, 0x80] ++ List.replicate 105 0 ++
      [1, 0x81]).getD position.val 0
  extensions :=
    [Vector.ofFn fun position =>
      ([Block.ctaTag, 3, 15, 0, 0x41, 0x10, 0x42, 0x1f, 0x04, 0xe2, 0x0f, 0x02, 0xe2, 0x0e, 0x61] ++
        List.replicate 112 0 ++ [0xf2]).getD position.val 0]
  count_eq := by decide +kernel

theorem parse_ultraHd :
    parse .standard ultraHd.toBytes = .ok (Display.ofBlob ultraHd false) :=
  parse_of_isValid (by decide +kernel) (by decide +kernel)

/-- The map picks the second short descriptor of the second block, and not the second of all. -/
theorem capabilities_ultraHd :
    let capabilities := (Display.ofBlob ultraHd false).capabilities
    capabilities.y420Only.contains 97 = true ∧ capabilities.y420Also.contains 4 = true ∧
      capabilities.y420Also.contains 31 = false ∧ capabilities.y420Map = 2 := by
  decide +kernel

theorem y420_listed_of_parse_ultraHd :
    ∃ display, parse .standard ultraHd.toBytes = .ok display ∧
      display.capabilities.y420Only.contains 97 = true ∧
      display.capabilities.y420Also.contains 4 = true ∧
      (∃ format preferred, ctaFormat? 97 = some format ∧
        format.withPreferred preferred ∈ display.modes) ∧
      ∃ format preferred, ctaFormat? 4 = some format ∧
        format.withPreferred preferred ∈ display.modes := by
  have listed := y420_listed_of_parse parse_ultraHd
  obtain ⟨only, also, _⟩ := capabilities_ultraHd
  exact ⟨_, parse_ultraHd, only, also, listed 97 (.inl only), listed 4 (.inr also)⟩

/-! ## Counting short descriptors -/

/-- Video data blocks are read from readable data of revision 3 or later. -/
theorem exists_collection_of_videoBlocks {blob : Blob} (nonempty : videoBlocks blob ≠ []) :
    ∃ collection, blob.cta? = some collection ∧ 3 ≤ collection.revision ∧
      collection.dataBlocks = .ok (videoBlocks blob) := by
  cases found : blob.cta? with
  | none => simp [videoBlocks, found] at nonempty
  | some collection =>
      by_cases early : collection.revision < 3
      · simp [videoBlocks, found, early] at nonempty
      · cases read : collection.dataBlocks with
        | error error => simp [videoBlocks, Blob.ctaBlocks, found, read] at nonempty
        | ok blocks =>
            have same : videoBlocks blob = blocks := by
              simp [videoBlocks, Blob.ctaBlocks, found, read, early]
            exact ⟨collection, rfl, Nat.le_of_not_lt early, same ▸ read⟩

/-- The short descriptors of all video data blocks, one behind the other. -/
def shortDescriptors (blocks : List Cta.DataBlock) : List Byte :=
  (blocks.filter fun block => block.tag == Cta.DataBlock.videoTag).flatMap (·.payload)

/-- With a single video data block, counting anew in each comes to counting through them all. -/
theorem exists_picks_iff {blocks : List Cta.DataBlock} {map : Nat} {code : Vic}
    (single : (blocks.filter fun block => block.tag == Cta.DataBlock.videoTag).length ≤ 1) :
    (∃ block ∈ blocks, block.tag = Cta.DataBlock.videoTag ∧ Picks map block.payload code) ↔
      Picks map (shortDescriptors blocks) code := by
  have among {block : Cta.DataBlock} :
      block ∈ blocks.filter (fun block => block.tag == Cta.DataBlock.videoTag) ↔
        block ∈ blocks ∧ block.tag = Cta.DataBlock.videoTag := by
    rw [List.mem_filter, beq_iff_eq]
  rw [shortDescriptors]
  generalize blocks.filter (fun block => block.tag == Cta.DataBlock.videoTag) = videos at among single
  cases videos with
  | nil =>
      constructor
      · rintro ⟨block, present, video, _⟩
        exact absurd (among.mpr ⟨present, video⟩) List.not_mem_nil
      · rintro ⟨_, _, _, _, found, _⟩
        contradiction
  | cons first rest =>
      obtain rfl : rest = [] := by
        cases rest with
        | nil => rfl
        | cons second others => simp at single
      rw [List.flatMap_singleton]
      constructor
      · rintro ⟨block, present, video, picked⟩
        cases List.mem_singleton.mp (among.mpr ⟨present, video⟩)
        exact picked
      · intro picked
        obtain ⟨present, video⟩ := among.mp List.mem_cons_self
        exact ⟨first, present, video, picked⟩

/-- A format is recorded as one that can also be shown at quarter chroma resolution exactly if the
map picks it from a video data block, counting anew in each. Where there is no more than one, that
is counting through the collection. -/
theorem y420Also_of_parse {policy : RepairPolicy} {bytes : List Byte} {display : Display}
    (parsed : parse policy bytes = .ok display) (code : Vic) :
    let blocks := videoBlocks display.blob
    let map := display.capabilities.y420Map
    (display.capabilities.y420Also.contains code = true ↔
      ∃ block ∈ blocks, block.tag = Cta.DataBlock.videoTag ∧ Picks map block.payload code) ∧
    ((blocks.filter fun block => block.tag == Cta.DataBlock.videoTag).length ≤ 1 →
      (display.capabilities.y420Also.contains code = true ↔
        Picks map (shortDescriptors blocks) code)) := by
  intro blocks map
  have anew : display.capabilities.y420Also.contains code = true ↔
      ∃ block ∈ blocks, block.tag = Cta.DataBlock.videoTag ∧ Picks map block.payload code := by
    simp only [blocks, map, capabilities_of_parse parsed]
    rw [contains_y420Also_iff]
    exact exists_congr fun block => and_congr_right fun _ => Cta.DataBlock.mem_y420AlsoCodes_iff
  exact ⟨anew, fun single => anew.trans (exists_picks_iff single)⟩

theorem y420Also_of_parse_ultraHd :
    ∃ display, parse .standard ultraHd.toBytes = .ok display ∧
      ∃ block ∈ videoBlocks display.blob, block.tag = Cta.DataBlock.videoTag ∧
        Picks display.capabilities.y420Map block.payload 4 := by
  obtain ⟨_, also, _⟩ := capabilities_ultraHd
  exact ⟨_, parse_ultraHd, (y420Also_of_parse parse_ultraHd 4).1.mp also⟩

/-- The second short descriptor of the collection has its bit in the map and is not recorded; the
second one of the second video data block, which has no bit of its own, is. -/
theorem y420Also_counts_anew :
    ∃ display collection blocks, parse .standard ultraHd.toBytes = .ok display ∧
      display.blob.cta? = some collection ∧ 3 ≤ collection.revision ∧
      collection.dataBlocks = .ok blocks ∧
      ¬ ∀ code, display.capabilities.y420Also.contains code = true ↔
        Picks display.capabilities.y420Map (shortDescriptors blocks) code := by
  obtain ⟨_, _, unrecorded, map⟩ := capabilities_ultraHd
  have second : (shortDescriptors (videoBlocks ultraHd))[1]? = some 31 := by decide +kernel
  have nonempty : videoBlocks ultraHd ≠ [] := by
    intro none
    rw [none, shortDescriptors, List.filter_nil, List.flatMap_nil] at second
    cases second
  obtain ⟨collection, found, recent, read⟩ := exists_collection_of_videoBlocks nonempty
  refine ⟨_, collection, _, parse_ultraHd, found, recent, read, ?_⟩
  intro through
  apply Bool.eq_false_iff.mp unrecorded
  rw [through, map]
  exact ⟨1, 31, by decide, by decide, second, by decide, by decide⟩

end Edid
