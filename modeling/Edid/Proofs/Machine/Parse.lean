import Edid.Proofs.Machine.Capabilities
import Edid.Proofs.Machine.Detailed
import Edid.Proofs.Machine.Inferred
import Edid.Proofs.Parse

/-!
# Parsing in machine words

Parsing and the questions about its result, carried out in machine words on any bytes, never
fault: nothing is read outside of a run, every number fits its word and nothing is divided by
zero. Nothing is said about what the numbers mean here; they are those of exact arithmetic.
-/

set_option autoImplicit false

namespace Edid

open Machine

namespace Block

section Validation

def checkedDefect? (block : Block) : Checked (Option Defect) := do
  let expected := 0 - byteSum (← slice block.toList 0 127)
  let found ← block.checkedByte 127
  let tag ← block.checkedByte 0
  if expected ≠ found then
    return if tag = ctaTag then none else some (.badChecksum expected found)
  else if tag = 0 then
    let version ← block.checkedByte 18
    return if version ≠ 1 then some (.badVersion version) else none
  else
    return none

def checkedValidateBody (block : Block) (headerRepaired : Bool) : Checked Validation := do
  return {
    block := block
    headerRepaired := headerRepaired
    checksumForgiven := block.checksum ≠ block.byte 127 && block.tag = ctaTag
    defect := ← block.checkedDefect? }

/-- The header is copied over a part of the block that has its length. -/
def checkedWithHeader (block : Block) : Checked Block := do
  let front ← slice block.toList 0 header.toList.length
  if front.length = header.toList.length then return block.withHeader else .error .outside

def checkedValidateBase (policy : RepairPolicy) (block : Block) : Checked Validation := do
  if block.headerScore = 8 then
    block.checkedValidateBody false
  else if policy.threshold ≤ block.headerScore then
    (← block.checkedWithHeader).checkedValidateBody true
  else
    return {
      block := block
      headerRepaired := false
      checksumForgiven := false
      defect := some (.badHeader block.headerScore) }

theorem checkedDefect?_eq (block : Block) : block.checkedDefect? = .ok block.defect? := by
  have front : slice block.toList 0 127 = .ok (block.toList.take 127) :=
    slice_eq ⟨Nat.zero_le _, by simp⟩
  rw [defect?]
  refine ok_step front (ok_step (block.checkedByte_eq (by decide : 127 < 128)) ?_)
  refine ok_step (block.checkedByte_eq (by decide : 0 < 128)) ?_
  change (if block.checksum ≠ block.byte 127 then _ else _) = _
  split
  · rfl
  · by_cases base : block.tag = 0
    · change (if block.tag = 0 then _ else _) = _
      rw [if_pos base]
      refine ok_step (block.checkedByte_eq (by decide : 18 < 128)) ?_
      simp only [base, true_and]
      rfl
    · change (if block.tag = 0 then _ else _) = _
      rw [if_neg base, if_neg (fun both => base both.1), pure_eq]

theorem checkedValidateBody_eq (block : Block) (headerRepaired : Bool) :
    block.checkedValidateBody headerRepaired = .ok (block.validateBody headerRepaired) :=
  ok_step block.checkedDefect?_eq (pure_eq _)

theorem checkedWithHeader_eq (block : Block) : block.checkedWithHeader = .ok block.withHeader := by
  have whole : header.toList.length ≤ block.toList.length := by simp
  have length : ((block.toList.take header.toList.length).drop 0).length =
      header.toList.length := by
    rw [List.drop_zero, List.length_take, Nat.min_eq_left whole]
  refine ok_step (slice_eq ⟨Nat.zero_le _, whole⟩) ?_
  rw [if_pos length, pure_eq]

theorem checkedValidateBase_eq (policy : RepairPolicy) (block : Block) :
    block.checkedValidateBase policy = .ok (block.validateBase policy) := by
  rw [checkedValidateBase, validateBase]
  split
  · exact block.checkedValidateBody_eq false
  · split
    · exact ok_step block.checkedWithHeader_eq (checkedValidateBody_eq _ true)
    · rfl

end Validation

end Block

section Modes

def checkedBaseModes (blob : Blob) (context : TimingContext) (workarounds : Workarounds) :
    Checked (List Mode) := do
  let detailed ← checkedDetailedModes blob context workarounds
  let coded ← checkedCvtModes blob
  let listed ← checkedAddStandardModes blob context (detailed ++ coded)
  return listed ++ (← checkedEstablishedModes blob)

def checkedCollectModes (blob : Blob) (workarounds : Workarounds) : Checked (List Mode) := do
  let context ← TimingContext.checkedOfBlob blob
  let base ← checkedBaseModes blob context workarounds
  let listed ← checkedAddAlternateModes blob (← checkedAddFormatModes blob base)
  let sections ← checkedDisplayIdModes blob
  checkedCorrectPreferred workarounds
    (← checkedAddInferredModes blob context (listed ++ sections))

theorem checkedBaseModes_eq (blob : Blob) {context : TimingContext} (known : context.Fits)
    (workarounds : Workarounds) :
    checkedBaseModes blob context workarounds = .ok (baseModes blob context workarounds) ∧
      AllFit (baseModes blob context workarounds) := by
  have fit : AllFit (detailedModes blob context workarounds ++ cvtModes blob) :=
    allFit_append (allFit_detailedModes blob context workarounds) (allFit_cvtModes blob)
  obtain ⟨standard, standardFit⟩ := checkedAddStandardModes_eq blob known fit
  refine ⟨?_, allFit_append standardFit (allFit_establishedModes blob)⟩
  refine ok_step (checkedDetailedModes_eq blob known workarounds) ?_
  refine ok_step (checkedCvtModes_eq blob) (ok_step standard ?_)
  exact ok_step (checkedEstablishedModes_eq blob) (pure_eq _)

/-- Every mode that is listed on the way fits, which is what the next source relies on. -/
theorem checkedCollectModes_eq (blob : Blob) (workarounds : Workarounds) :
    checkedCollectModes blob workarounds = .ok (collectModes blob workarounds) ∧
      AllFit (collectModes blob workarounds) := by
  obtain ⟨base, baseFit⟩ :=
    checkedBaseModes_eq blob (TimingContext.fits_ofBlob blob) workarounds
  have few := length_baseModes_le blob (TimingContext.ofBlob blob) workarounds
  have listedFit := allFit_addAlternateModes blob (allFit_addFormatModes blob baseFit)
  have allFit := allFit_append listedFit (allFit_displayIdModes blob)
  obtain ⟨inferred, inferredFit⟩ :=
    checkedAddInferredModes_eq blob (TimingContext.ofBlob blob) allFit
  refine ⟨?_, allFit_correctPreferred inferredFit⟩
  refine ok_step (TimingContext.checkedOfBlob_eq blob) (ok_step base ?_)
  refine ok_step (checkedAddFormatModes_eq blob baseFit few) ?_
  refine ok_step (checkedAddAlternateModes_eq blob _) ?_
  refine ok_step (checkedDisplayIdModes_eq blob) (ok_step inferred ?_)
  exact checkedCorrectPreferred_eq workarounds inferredFit

end Modes

section Decoding

def checkedCollectCapabilities (blob : Blob) (workarounds : Workarounds) :
    Checked Capabilities := do
  let context ← TimingContext.checkedOfBlob blob
  let capabilities ← Capabilities.checkedOfBlob blob workarounds
  let base ← checkedBaseModes blob context workarounds
  return (← capabilities.checkedAbsorbFormats blob base).forceBits workarounds

def Display.checkedOfBlob (blob : Blob) (corrupt : Bool) : Checked Display := do
  let workarounds ← Workarounds.checkedOfBlob blob
  return {
    blob := blob
    identity := ← blob.checkedIdentity
    workarounds := workarounds
    capabilities := ← checkedCollectCapabilities blob workarounds
    modes := ← checkedCollectModes blob workarounds
    corrupt := corrupt }

/-- An extension is named by the position behind its own, since the base block comes first. -/
def checkedExtensions (extensions : List Block) : Checked (List Block.Validation) :=
  extensions.zipIdx.mapM fun (extension, position) => do
    let _ ← size (position + 1)
    extension.checkedValidateBody false

/-- Validates and decodes the blocks of a blob. -/
def checkedParseBlocks (policy : RepairPolicy) (blocks : List Block) :
    Checked (Except Error Display) := do
  let base ← (← read blocks 0).checkedValidateBase policy
  match base.toExcept 0 with
  | .error fault => return .error fault
  | .ok block =>
      let extensions ← checkedExtensions (← slice blocks 1 blocks.length)
      let kept := (extensions.filter (·.ok)).map (·.block)
      -- Room for all blocks is made in advance.
      let _ ← size (1 + kept.length)
      let display ← Display.checkedOfBlob (Blob.ofKept block kept)
        (base.corrupt || extensions.any (·.corrupt))
      return .ok display

/-- Validates and decodes bytes. -/
def checkedParse (policy : RepairPolicy) (bytes : List Byte) :
    Checked (Except Error Display) := do
  match ← Blob.checkedBlocks bytes with
  | .error fault => return .error fault
  | .ok blocks => checkedParseBlocks policy blocks

theorem checkedCollectCapabilities_eq (blob : Blob) (workarounds : Workarounds) :
    checkedCollectCapabilities blob workarounds =
        .ok (collectCapabilities blob workarounds) ∧
      (collectCapabilities blob workarounds).latency.Fits := by
  obtain ⟨base, baseFit⟩ :=
    checkedBaseModes_eq blob (TimingContext.fits_ofBlob blob) workarounds
  have few := length_baseModes_le blob (TimingContext.ofBlob blob) workarounds
  obtain ⟨declared, held⟩ := Capabilities.checkedOfBlob_eq blob workarounds
  constructor
  · refine ok_step (TimingContext.checkedOfBlob_eq blob) (ok_step declared (ok_step base ?_))
    exact ok_step (Capabilities.checkedAbsorbFormats_eq blob baseFit few) (pure_eq _)
  · rw [collectCapabilities, Capabilities.latency_forceBits]
    exact held

theorem Display.checkedOfBlob_eq (blob : Blob) (corrupt : Bool) :
    Display.checkedOfBlob blob corrupt = .ok (Display.ofBlob blob corrupt) := by
  refine ok_step (Workarounds.checkedOfBlob_eq blob) (ok_step blob.checkedIdentity_eq ?_)
  refine ok_step (checkedCollectCapabilities_eq blob _).1 ?_
  exact ok_step (checkedCollectModes_eq blob _).1 (pure_eq _)

theorem checkedExtensions_eq {extensions : List Block} (few : extensions.length ≤ 255) :
    checkedExtensions extensions = .ok (extensions.map Block.validateExtension) := by
  have each : ∀ entry ∈ extensions.zipIdx,
      (do
        let _ ← size (entry.2 + 1)
        entry.1.checkedValidateBody false) =
      (.ok entry.1.validateExtension : Checked Block.Validation) := by
    intro entry member
    have inside := List.snd_lt_of_mem_zipIdx member
    exact below_bind (by omega) (entry.1.checkedValidateBody_eq false)
  have places : extensions.zipIdx.map (Block.validateExtension ∘ Prod.fst) =
      extensions.map Block.validateExtension := by
    rw [← List.map_map, List.zipIdx_map_fst]
  exact (mapM_ok each).trans (congrArg Except.ok places)

theorem checkedParseBlocks_eq (policy : RepairPolicy) (blob : Blob) :
    checkedParseBlocks policy blob.blocks = .ok (parseBlob policy blob) := by
  have behind : slice blob.blocks 1 blob.blocks.length = .ok blob.extensions := by
    rw [slice_eq ⟨by simp [Blob.blocks], Nat.le_refl _⟩, List.take_length]
    rfl
  have few := blob.length_extensions_le
  have kept := List.length_filter_le (·.ok) (blob.extensions.map Block.validateExtension)
  rw [List.length_map] at kept
  rw [parseBlob]
  have front : read blob.blocks 0 = .ok blob.base := rfl
  refine ok_step front ?_
  refine ok_step (blob.base.checkedValidateBase_eq policy) ?_
  dsimp only
  cases (blob.base.validateBase policy).toExcept 0 with
  | error fault => rfl
  | ok block =>
      refine ok_step behind (ok_step (checkedExtensions_eq few) ?_)
      refine below_bind (by rw [List.length_map]; omega) ?_
      exact ok_step (Display.checkedOfBlob_eq _ _) (pure_eq _)

theorem checkedParse_eq (policy : RepairPolicy) (bytes : List Byte) :
    checkedParse policy bytes = .ok (parse policy bytes) := by
  refine ok_step (Blob.checkedBlocks_eq bytes) ?_
  rw [parse]
  cases Blob.ofBytes bytes with
  | error fault => rfl
  | ok blob => exact checkedParseBlocks_eq policy blob

end Decoding

section Questions

def Display.checkedAudioDelay (display : Display) (mode : Mode) : Checked Nat :=
  display.capabilities.latency.checkedAudioDelay mode.interlaced

theorem fits_latency_of_parse {policy : RepairPolicy} {bytes : List Byte} {display : Display}
    (parsed : parse policy bytes = .ok display) : display.capabilities.latency.Fits := by
  obtain ⟨blob, _, decoded⟩ := parse_ok_iff.mp parsed
  obtain ⟨_, rfl⟩ := parseBlob_ok_iff.mp decoded
  exact (checkedCollectCapabilities_eq _ _).2

/-- Machine words suffice to parse any bytes under any policy, and to answer every question
about sound and connection that the result allows. -/
theorem parse_without_fault (policy : RepairPolicy) (bytes : List Byte) :
    checkedParse policy bytes = .ok (parse policy bytes) ∧
      ∀ display, parse policy bytes = .ok display →
        display.blob.checkedAudioFormats = .ok display.blob.audioFormats ∧
        display.blob.checkedSpeakers = .ok display.blob.speakers ∧
        display.blob.checkedHasAudio = .ok display.blob.hasAudio ∧
        display.blob.checkedIsHdmi = .ok display.blob.isHdmi ∧
        ∀ mode, display.checkedAudioDelay mode = .ok (display.audioDelay mode) := by
  refine ⟨checkedParse_eq policy bytes, fun display parsed => ?_⟩
  refine ⟨display.blob.checkedAudioFormats_eq, display.blob.checkedSpeakers_eq,
    display.blob.checkedHasAudio_eq, display.blob.checkedIsHdmi_eq, fun mode => ?_⟩
  exact Latency.checkedAudioDelay_eq (fits_latency_of_parse parsed) mode.interlaced

theorem parse_without_fault_worn :
    ∃ display, checkedParse .standard worn.toBytes = .ok (.ok display) ∧
      display.modes.length = 17 ∧ display.workarounds = { preferLargestAt60 := true } ∧
      display.capabilities.bitsPerColor = 12 ∧
      display.blob.checkedAudioFormats = .ok display.blob.audioFormats ∧
      display.blob.audioFormats.toOption = some [⟨1, 1, 7, 7⟩] ∧
      display.blob.checkedSpeakers = .ok display.blob.speakers ∧
      display.blob.speakers.toOption = some (some 1) ∧
      display.blob.checkedHasAudio = .ok true ∧ display.blob.checkedIsHdmi = .ok true ∧
      display.checkedAudioDelay {} = .ok 60 := by
  obtain ⟨parsed, answered⟩ := parse_without_fault .standard worn.toBytes
  obtain ⟨formats, speakers, audio, connection, delay⟩ := answered _ parse_worn
  obtain ⟨count, _, wrong, _, depth, _⟩ := display_worn
  obtain ⟨heard, placed, plays, hdmi, late⟩ :
      worn.cleaned.audioFormats.toOption = some [⟨1, 1, 7, 7⟩] ∧
        worn.cleaned.speakers.toOption = some (some 1) ∧
        worn.cleaned.hasAudio = true ∧ worn.cleaned.isHdmi = true ∧
        (Display.ofBlob worn.cleaned worn.damaged).audioDelay {} = 60 := by
    decide +kernel
  exact ⟨_, parsed.trans (congrArg Except.ok parse_worn), count, wrong, depth, formats, heard,
    speakers, placed, audio.trans (congrArg Except.ok plays),
    connection.trans (congrArg Except.ok hdmi), (delay {}).trans (congrArg Except.ok late)⟩

end Questions

end Edid
