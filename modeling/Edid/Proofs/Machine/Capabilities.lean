import Edid.Proofs.Machine.Cta
import Edid.Proofs.Machine.Descriptor

/-!
# Capabilities in machine words

Sizes and clocks are products of a byte, the map of quarter-chroma formats has a bit for each of
64 descriptors, and a set of codes is kept in four words. Delays are signed on the way.
-/

set_option autoImplicit false

namespace Edid

open Machine

section Words

theorem littleEndian_concat (bytes : List Byte) (byte : Byte) :
    littleEndian (bytes ++ [byte]) = 2 ^ (8 * bytes.length) * byte.toNat + littleEndian bytes := by
  induction bytes with
  | nil => simp [littleEndian]
  | cons first rest ih =>
      have place : 2 ^ (8 * (rest.length + 1)) = 256 * 2 ^ (8 * rest.length) := by
        rw [Nat.mul_add, Nat.pow_add, Nat.mul_comm]
      rw [List.cons_append, littleEndian, ih, littleEndian, List.length_cons, place,
        Nat.mul_add, Nat.mul_assoc, Nat.add_left_comm]

theorem littleEndian_lt (bytes : List Byte) : littleEndian bytes < 2 ^ (8 * bytes.length) := by
  induction bytes with
  | nil => decide
  | cons first rest ih =>
      have small := first.toNat_lt
      have place : 2 ^ (8 * (rest.length + 1)) = 256 * 2 ^ (8 * rest.length) := by
        rw [Nat.mul_add, Nat.pow_add, Nat.mul_comm]
      rw [littleEndian, List.length_cons, place]
      omega

end Words

namespace VicSet

/-- Sets the bit of a code in the word that has it. -/
def checkedInsert (set : VicSet) (code : Vic) : Checked VicSet := do
  let _ ← read [0, 64, 128, 192] (code.toNat / 64)
  let _ ← bitOf 64 (code.toNat % 64)
  return set.insert code

theorem checkedInsertAll_eq (set : VicSet) (codes : List Vic) :
    codes.foldlM checkedInsert set = .ok (set.insertAll codes) := by
  refine (foldlM_ok (fun _ => True) trivial fun state code _ _ => ⟨?_, trivial⟩).1
  have small := code.toNat_lt
  have word : code.toNat / 64 < [0, 64, 128, 192].length := by
    simp only [List.length_cons, List.length_nil]
    omega
  exact ok_step (read_eq word) (bitOf_bind (Nat.mod_lt _ (by decide)) (pure_eq _))

end VicSet

section Delays

structure Delays.Fits (delays : Delays) : Prop where
  video : delays.video < 0x100
  audio : delays.audio < 0x100

structure Latency.Fits (latency : Latency) : Prop where
  progressive : latency.progressive.Fits
  interlaced : latency.interlaced.Fits

def Delays.checkedMilliseconds (coded : Nat) : Checked Int := do
  if coded = 0 then
    return 0
  else
    return min (← i32 (2 * (← i32 (coded - 1)))) 500

/-- How long sound has to wait, if both streams are supported. -/
def Delays.checkedLead (delays : Delays) : Checked Nat := do
  if delays.audio = 255 ∨ delays.video = 255 then
    return 0
  else
    let video ← checkedMilliseconds delays.video
    let audio ← checkedMilliseconds delays.audio
    return (max (← i32 (video - audio)) 0).toNat

def Latency.checkedAudioDelay (latency : Latency) (interlaced : Bool) : Checked Nat := do
  if !latency.progressivePresent then
    return 0
  else
    let delays ← read [latency.progressive, latency.interlaced]
      (if interlaced && latency.interlacedPresent then 1 else 0)
    delays.checkedLead

theorem Latency.fits_ofBlock (block : Cta.DataBlock) : (Latency.ofBlock block).Fits :=
  ⟨⟨(block.byte 9).toNat_lt, (block.byte 10).toNat_lt⟩,
    ⟨(block.byte 11).toNat_lt, (block.byte 12).toNat_lt⟩⟩

theorem Latency.fits_default : ({} : Latency).Fits :=
  ⟨⟨by decide, by decide⟩, ⟨by decide, by decide⟩⟩

theorem Delays.checkedMilliseconds_eq {coded : Nat} (small : coded < 0x100) :
    checkedMilliseconds coded = .ok (milliseconds coded : Int) := by
  rw [checkedMilliseconds, milliseconds]
  split
  · next zero =>
      rw [zero]
      rfl
  · refine within_bind (by omega) (within_bind (by omega) ?_)
    rw [pure_eq]
    congr 1
    omega

theorem Delays.milliseconds_le (coded : Nat) : milliseconds coded ≤ 500 :=
  Nat.min_le_right _ _

theorem Delays.checkedLead_eq {delays : Delays} (fits : delays.Fits) :
    delays.checkedLead = .ok (if delays.audio = 255 ∨ delays.video = 255 then 0
      else milliseconds delays.video - milliseconds delays.audio) := by
  have video := milliseconds_le delays.video
  have audio := milliseconds_le delays.audio
  rw [checkedLead]
  split
  · rfl
  · refine ok_step (checkedMilliseconds_eq fits.video) ?_
    refine ok_step (checkedMilliseconds_eq fits.audio) (within_bind (by omega) ?_)
    rw [pure_eq]
    congr 1
    omega

theorem Latency.checkedAudioDelay_eq {latency : Latency} (fits : latency.Fits)
    (interlaced : Bool) :
    latency.checkedAudioDelay interlaced = .ok (latency.audioDelay interlaced) := by
  rw [checkedAudioDelay, audioDelay]
  split
  · rfl
  · cases interlaced && latency.interlacedPresent with
    | true => exact ok_step rfl (Delays.checkedLead_eq fits.interlaced)
    | false => exact ok_step rfl (Delays.checkedLead_eq fits.progressive)

end Delays

namespace Capabilities

section Blocks

def checkedAbsorbHdmi (capabilities : Capabilities) (block : Cta.DataBlock) :
    Checked Capabilities := do
  let clock ← (if 7 ≤ block.length then u32 ((block.byte 7).toNat * 5000)
    else pure capabilities.maxTmdsClock)
  return { capabilities.absorbHdmi block with maxTmdsClock := clock }

def checkedAbsorbHdmiForum (capabilities : Capabilities) (block : Cta.DataBlock) :
    Checked Capabilities := do
  let clock ← (if block.byte 5 = 0 then pure 0 else u32 ((block.byte 5).toNat * 5000))
  return { capabilities.absorbHdmiForum block with
    maxTmdsClock := if 340000 < clock then clock else capabilities.maxTmdsClock }

/-- The bytes of a map, at most eight, each moved to its place. -/
def checkedY420Map (block : Cta.DataBlock) (count : Nat) : Checked Nat :=
  (List.range count).foldlM (fun map index => do
    let byte := block.byte (← size (2 + index))
    let place ← bitOf 64 (← size (8 * index))
    return place * byte.toNat ||| map) 0

def checkedAbsorbY420Map (capabilities : Capabilities) (block : Cta.DataBlock) :
    Checked Capabilities := do
  let map ← (if block.length - 1 = 0 then pure 0xffffffffffffffff
    else checkedY420Map block (min (block.length - 1) 8))
  return { capabilities with
    y420Map := map
    colorFormats :=
      { capabilities.colorFormats with
        ycbcr420 := capabilities.colorFormats.ycbcr420 || map ≠ 0 } }

def checkedAbsorb (capabilities : Capabilities) (block : Cta.DataBlock) :
    Checked Capabilities := do
  if block.isHdmi then capabilities.checkedAbsorbHdmi block
  else if block.isHdmiForum then capabilities.checkedAbsorbHdmiForum block
  else if block.isY420CapabilityMap then capabilities.checkedAbsorbY420Map block
  else if block.isVideoCapability then
    return { capabilities with rgbRangeSelectable := (block.byte 2).bit 6 }
  else if block.isHdrStaticMetadata then
    return { capabilities with dynamicRange := some (DynamicRange.ofBlock block) }
  else return capabilities

theorem checkedAbsorbHdmi_eq (capabilities : Capabilities) (block : Cta.DataBlock) :
    capabilities.checkedAbsorbHdmi block = .ok (capabilities.absorbHdmi block) := by
  have small := (block.byte 7).toNat_lt
  rw [checkedAbsorbHdmi, absorbHdmi]
  split
  · exact below_bind (by omega) (pure_eq _)
  · rfl

theorem checkedAbsorbHdmiForum_eq (capabilities : Capabilities) (block : Cta.DataBlock) :
    capabilities.checkedAbsorbHdmiForum block = .ok (capabilities.absorbHdmiForum block) := by
  have small := (block.byte 5).toNat_lt
  rw [checkedAbsorbHdmiForum, absorbHdmiForum]
  split
  · next none =>
      rw [none]
      rfl
  · exact below_bind (by omega) (pure_eq _)

theorem checkedY420Map_eq (block : Cta.DataBlock) {count : Nat} (few : count ≤ 8)
    (inside : count + 1 ≤ block.length) :
    checkedY420Map block count = .ok (littleEndian ((block.payload.drop 1).take count)) := by
  induction count with
  | zero => rfl
  | succ count ih =>
      have long : count < (block.payload.drop 1).length := by
        rw [List.length_drop]
        exact Nat.lt_sub_of_add_lt inside
      have length : ((block.payload.drop 1).take count).length = count := by
        rw [List.length_take]
        omega
      have byte : block.byte (2 + count) = (block.payload.drop 1)[count] := by
        rw [List.getElem_drop, Nat.add_comm, block.byte_succ, List.getD_eq_getElem?_getD,
          Nat.add_comm, List.getElem?_eq_getElem, Option.getD_some]
      have small := littleEndian_lt ((block.payload.drop 1).take count)
      have value := littleEndian_concat ((block.payload.drop 1).take count)
        (block.payload.drop 1)[count]
      rw [length] at small value
      rw [← List.take_append_getElem long, value, ← byte, Nat.two_pow_add_eq_or_of_lt small]
      rw [checkedY420Map, List.range_succ, List.foldlM_append]
      refine ok_step (ih (by omega) (by omega)) ?_
      refine (bind_pure _).trans ?_
      exact below_bind (by omega) (below_bind (by omega) (bitOf_bind (by omega) (pure_eq _)))

theorem checkedAbsorbY420Map_eq (capabilities : Capabilities) (block : Cta.DataBlock) :
    capabilities.checkedAbsorbY420Map block = .ok (capabilities.absorbY420Map block) := by
  have length : (block.payload.drop 1).length = block.length - 1 := List.length_drop
  rw [absorbY420Map]
  by_cases none : block.length - 1 = 0
  · have empty : (block.payload.drop 1).isEmpty = true :=
      List.isEmpty_iff.mpr (List.eq_nil_of_length_eq_zero (length.trans none))
    rw [checkedAbsorbY420Map, if_pos none, empty]
    rfl
  · have some : (block.payload.drop 1).isEmpty = false :=
      List.isEmpty_eq_false_iff.mpr fun nil => none (length.symm.trans (by rw [nil]; rfl))
    have bytes : (block.payload.drop 1).take 8 =
        (block.payload.drop 1).take (min (block.length - 1) 8) := by
      rw [← length, Nat.min_comm]
      exact List.take_eq_take_min
    have map := checkedY420Map_eq block (Nat.min_le_right (block.length - 1) 8) (by omega)
    rw [checkedAbsorbY420Map, if_neg none, some, bytes]
    exact ok_step map (pure_eq _)

/-- No data block but that of HDMI says anything about delays. -/
theorem checkedAbsorb_eq {capabilities : Capabilities} (fits : capabilities.latency.Fits)
    (block : Cta.DataBlock) :
    capabilities.checkedAbsorb block = .ok (capabilities.absorb block) ∧
      (capabilities.absorb block).latency.Fits := by
  rw [checkedAbsorb, absorb]
  split
  · refine ⟨capabilities.checkedAbsorbHdmi_eq block, ?_⟩
    rw [absorbHdmi]
    dsimp only
    split
    · exact Latency.fits_ofBlock block
    · exact fits
  · split
    · exact ⟨capabilities.checkedAbsorbHdmiForum_eq block, fits⟩
    · split
      · exact ⟨capabilities.checkedAbsorbY420Map_eq block, fits⟩
      · split
        · exact ⟨rfl, fits⟩
        · split
          · exact ⟨rfl, fits⟩
          · exact ⟨rfl, fits⟩

theorem checkedAbsorb_all {capabilities : Capabilities} (fits : capabilities.latency.Fits)
    (blocks : List Cta.DataBlock) :
    blocks.foldlM checkedAbsorb capabilities = .ok (blocks.foldl absorb capabilities) ∧
      (blocks.foldl absorb capabilities).latency.Fits :=
  foldlM_ok (fun state : Capabilities => state.latency.Fits) fits fun _ block _ holds =>
    checkedAbsorb_eq holds block

end Blocks

section Blobs

def checkedRefreshRange? (blob : Blob) : Checked (Option (Nat × Nat)) := do
  if blob.isNewerThan 1 1 then
    let ranges ← (← blob.checkedDescriptors).filterMapM fun descriptor => do
      match ← RangeLimits.checkedOfDescriptor? descriptor blob.revision with
      | some range =>
          return if range.kind = .limitsOnly then some (range.minRefresh, range.maxRefresh)
            else none
      | none => return none
    return ranges.getLast?
  else
    return none

def checkedName? (blob : Blob) : Checked (Option String) := do
  match ((← blob.checkedDescriptors).filter (·.isKind .name)).getLast? with
  | some descriptor =>
      let run ← slice descriptor.toList 5 descriptor.toList.length
      return some (Text.Utf8.text (run.takeWhile (· != 0x0a)))
  | none => return none

def checkedOfBase (blob : Blob) (workarounds : Workarounds) : Checked Capabilities := do
  return {
    widthMm := ← u32 (blob.widthCm * 10)
    heightMm := ← u32 (blob.heightCm * 10)
    nonDesktop := workarounds.nonDesktop
    refreshRange := ← checkedRefreshRange? blob
    name := ← checkedName? blob }

def checkedAbsorbCta (capabilities : Capabilities) (blob : Blob) : Checked Capabilities := do
  let rgb : ColorFormats := { rgb444 := true }
  match ← blob.checkedCta? with
  | none => return { capabilities with colorFormats := rgb }
  | some collection =>
      (← blob.checkedCtaBlocks).foldlM checkedAbsorb
        { capabilities with
          ctaRevision := collection.revision
          colorFormats :=
            { rgb with
              ycbcr444 := collection.capabilityBits.bit 5
              ycbcr422 := collection.capabilityBits.bit 4 } }

def checkedOfBlob (blob : Blob) (workarounds : Workarounds) : Checked Capabilities := do
  let capabilities ← checkedOfBase blob workarounds
  if blob.revision < 3 || !blob.isDigital then
    return capabilities
  else
    let capabilities ← capabilities.checkedAbsorbCta blob
    return if 4 ≤ blob.revision then capabilities.absorbInput blob
      else if capabilities.bitsPerColor = 0 && blob.input.bit 0 then
        { capabilities with bitsPerColor := 8 }
      else
        capabilities

theorem checkedRefreshRange?_eq (blob : Blob) :
    checkedRefreshRange? blob = .ok (refreshRange? blob) := by
  rw [checkedRefreshRange?, refreshRange?]
  split
  · refine ok_step blob.checkedDescriptors_eq ?_
    refine ok_step (filterMapM_ok fun descriptor _ => ?_) (pure_eq _)
    refine ok_step (RangeLimits.checkedOfDescriptor?_eq descriptor blob.revision) ?_
    cases RangeLimits.ofDescriptor? descriptor blob.revision <;> rfl
  · rfl

theorem checkedName?_eq (blob : Blob) : checkedName? blob = .ok (name? blob) := by
  rw [checkedName?, name?]
  refine ok_step blob.checkedDescriptors_eq ?_
  cases (blob.descriptors.filter (·.isKind .name)).getLast? with
  | none => rfl
  | some descriptor =>
      have inside : 5 ≤ descriptor.toList.length := by simp
      refine ok_step (slice_eq ⟨inside, Nat.le_refl _⟩) ?_
      rw [List.take_length]
      rfl

theorem checkedOfBase_eq (blob : Blob) (workarounds : Workarounds) :
    checkedOfBase blob workarounds = .ok (ofBase blob workarounds) := by
  have width := (blob.base.byte 21).toNat_lt
  have height := (blob.base.byte 22).toNat_lt
  refine below_bind (by rw [Blob.widthCm]; omega) (below_bind (by rw [Blob.heightCm]; omega) ?_)
  exact ok_step (checkedRefreshRange?_eq blob) (ok_step (checkedName?_eq blob) (pure_eq _))

theorem checkedAbsorbCta_eq {capabilities : Capabilities} (fits : capabilities.latency.Fits)
    (blob : Blob) :
    capabilities.checkedAbsorbCta blob = .ok (capabilities.absorbCta blob) ∧
      (capabilities.absorbCta blob).latency.Fits := by
  rw [absorbCta]
  cases found : blob.cta? with
  | none => exact ⟨ok_step (blob.checkedCta?_eq.trans (by rw [found])) rfl, fits⟩
  | some collection =>
      refine ⟨ok_step (blob.checkedCta?_eq.trans (by rw [found])) ?_,
        (checkedAbsorb_all (by exact fits) _).2⟩
      exact ok_step blob.checkedCtaBlocks_eq (checkedAbsorb_all (by exact fits) _).1

theorem checkedOfBlob_eq (blob : Blob) (workarounds : Workarounds) :
    checkedOfBlob blob workarounds = .ok (ofBlob blob workarounds) ∧
      (ofBlob blob workarounds).latency.Fits := by
  have none : (ofBase blob workarounds).latency.Fits := Latency.fits_default
  obtain ⟨absorbed, held⟩ := checkedAbsorbCta_eq none blob
  have base := checkedOfBase_eq blob workarounds
  rw [ofBlob]
  dsimp only
  split
  · next silent => exact ⟨ok_step base (by rw [if_pos silent, pure_eq]), none⟩
  · next speaks =>
      refine ⟨ok_step base ?_, ?_⟩
      · rw [if_neg speaks]
        exact ok_step absorbed (pure_eq _)
      · split
        · exact held
        · split
          · exact held
          · exact held

end Blobs

section Formats

/-- The codes of a quarter-chroma block, with a count of them in a signed word. -/
def checkedY420OnlyCodes (block : Cta.DataBlock) : Checked (List Vic × Nat) := do
  if block.isY420Video then
    let codes := (← slice block.payload 1 block.length).map shortDescriptorCode
    let known ← codes.mapM fun code => do
      return if (← checkedCtaFormat? code).isSome then some code else none
    known.foldlM (checkedAdd 0x80000000) ([], 0)
  else
    return ([], 0)

/-- A descriptor behind the first 64 has no bit. -/
def checkedY420AlsoCodes (map : Nat) (block : Cta.DataBlock) : Checked (List Vic) := do
  if block.tag = Cta.DataBlock.videoTag then
    block.payload.zipIdx.filterMapM fun (descriptor, position) => do
      if (← checkedShortDescriptorFormat? descriptor).isNone ∨ 64 ≤ position then
        return none
      else
        let _ ← bitOf 64 position
        return if map.testBit position then some (shortDescriptorCode descriptor) else none
  else
    return []

def checkedAbsorbFormats (capabilities : Capabilities) (blob : Blob) (modes : List Mode) :
    Checked Capabilities := do
  let blocks ← checkedVideoBlocks blob
  let listed := modes ++ (← blocks.flatMapM Cta.DataBlock.checkedFormats)
  let only ← blocks.flatMapM fun block => do return (← checkedY420OnlyCodes block).1
  let also ← blocks.flatMapM (checkedY420AlsoCodes capabilities.y420Map)
  let (_, added) ← checkedHdmiModes blocks listed
  return { capabilities with
    y420Only := ← only.foldlM VicSet.checkedInsert capabilities.y420Only
    y420Also := ← also.foldlM VicSet.checkedInsert capabilities.y420Also
    colorFormats :=
      { capabilities.colorFormats with
        ycbcr420 := capabilities.colorFormats.ycbcr420 || !only.isEmpty }
    infoframe := capabilities.infoframe || 0 < added }

theorem checkedY420OnlyCodes_eq (block : Cta.DataBlock) :
    checkedY420OnlyCodes block =
      .ok (block.y420OnlyCodes, block.y420OnlyCodes.length) := by
  rw [checkedY420OnlyCodes, Cta.DataBlock.y420OnlyCodes]
  split
  · next special =>
      have short := block.payload_le
      have known : ∀ codes : List Vic, codes.mapM (fun code => do
          return if (← checkedCtaFormat? code).isSome then some code else none) =
          (.ok (codes.map fun code => if (ctaFormat? code).isSome then some code else none) :
            Checked (List (Option Vic))) :=
        fun codes => mapM_ok fun code _ => ok_step (checkedCtaFormat?_eq code) (pure_eq _)
      refine ok_step (Cta.DataBlock.slice_payload special) (ok_step (known _) ?_)
      refine Eq.trans (checkedAdd_all _ ?_) ?_
      · simp only [List.length_map, List.length_drop]
        omega
      · rw [List.filterMap_map, ← List.filterMap_eq_filter, List.nil_append, Nat.zero_add]
        rfl
  · rfl

theorem checkedY420AlsoCodes_eq (map : Nat) (block : Cta.DataBlock) :
    checkedY420AlsoCodes map block = .ok (block.y420AlsoCodes map) := by
  rw [checkedY420AlsoCodes, Cta.DataBlock.y420AlsoCodes]
  split
  · rw [← List.filterMap_eq_filter, List.map_filterMap]
    refine filterMapM_ok fun entry _ => ?_
    obtain ⟨descriptor, position⟩ := entry
    refine ok_step (checkedShortDescriptorFormat?_eq descriptor) ?_
    by_cases skipped : (shortDescriptorFormat? descriptor).isNone ∨ 64 ≤ position
    · rw [if_pos skipped]
      rcases skipped with unknown | behind
      · simp [Option.guard, Option.isNone_iff_eq_none.mp unknown]
      · simp [Option.guard, Nat.not_lt_of_le behind]
    · obtain ⟨known, inside⟩ := not_or.mp skipped
      rw [if_neg skipped]
      refine bitOf_bind (by omega) ?_
      have known : (shortDescriptorFormat? descriptor).isSome = true :=
        Option.isSome_iff_ne_none.mpr fun none => known (Option.isNone_iff_eq_none.mpr none)
      by_cases chosen : map.testBit position
      · simp [Option.guard, known, Nat.lt_of_not_le inside, chosen]
      · simp [Option.guard, chosen]
  · rfl

theorem checkedAbsorbFormats_eq {capabilities : Capabilities} (blob : Blob) {modes : List Mode}
    (fit : AllFit modes) (few : modes.length ≤ 0x80000) :
    capabilities.checkedAbsorbFormats blob modes =
      .ok (capabilities.absorbFormats blob modes) := by
  refine ok_step (checkedVideoBlocks_eq blob) ?_
  refine ok_step (flatMapM_ok fun block _ => block.checkedFormats_eq) ?_
  refine ok_step (flatMapM_ok fun block _ =>
    ok_step (checkedY420OnlyCodes_eq block) (pure_eq _)) ?_
  refine ok_step (flatMapM_ok fun block _ => checkedY420AlsoCodes_eq _ block) ?_
  refine ok_step (checkedHdmiModes_eq _ (allFit_listed fit _) (length_listed_lt few blob)) ?_
  refine ok_step (VicSet.checkedInsertAll_eq _ _) (ok_step (VicSet.checkedInsertAll_eq _ _) ?_)
  have some (added : List Mode) : decide (0 < added.length) = !added.isEmpty := by
    cases added <;> simp
  dsimp only
  rw [some, absorbFormats, pure_eq]

theorem latency_forceBits (capabilities : Capabilities) (workarounds : Workarounds) :
    (capabilities.forceBits workarounds).latency = capabilities.latency := by
  rw [forceBits]
  split
  · rfl
  · rfl

end Formats

end Capabilities

end Edid
