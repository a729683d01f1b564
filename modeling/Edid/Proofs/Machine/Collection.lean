import Edid.Capabilities.Audio
import Edid.Proofs.Machine.DisplayId

/-!
# Data block collections in machine words

The end of a collection is a byte of it, cut down to the bytes that are there. The walk over the
data blocks holds its position and the last byte of each data block against that end.
-/

set_option autoImplicit false

namespace Edid

open Machine

namespace Cta

section Walk

/-- A header and the payload behind it, of which a header can announce at most 31 bytes. -/
def DataBlock.checkedOfRun (run : List Byte) : Checked DataBlock := do
  let header ← read run 0
  let payload ← slice run 1 run.length
  if short : payload.length ≤ 31 then
    return ⟨⟨header.toNat / 32, headerTag_lt header⟩, payload, short⟩
  else
    .error .outside

/-- The data block at a position and the position behind it. -/
def checkedNext? (bytes : List Byte) (stop position : Nat) :
    Checked (Option (DataBlock × Nat)) := do
  if stop ≤ position then
    return none
  else
    let header ← read bytes position
    let length := header.toNat % 32
    let last ← size (position + length)
    if stop ≤ last then
      return none
    else
      let run ← slice bytes position (← size (last + 1))
      return some (← DataBlock.checkedOfRun run, ← size (position + (← size (length + 1))))

theorem advances_checkedNext? (bytes : List Byte) (stop : Nat) :
    Advances stop (checkedNext? bytes stop) := by
  intro position next data found
  rw [checkedNext?] at found
  split at found
  · cases found
  · obtain ⟨header, _, found⟩ := ok_of_bind found
    obtain ⟨last, fits, found⟩ := ok_of_bind found
    obtain ⟨_, rfl⟩ := below_eq_ok_iff.mp fits
    split at found
    · cases found
    · next inside =>
        obtain ⟨_, _, found⟩ := ok_of_bind found
        obtain ⟨_, _, found⟩ := ok_of_bind found
        obtain ⟨_, _, found⟩ := ok_of_bind found
        obtain ⟨_, fits, found⟩ := ok_of_bind found
        obtain ⟨_, rfl⟩ := below_eq_ok_iff.mp fits
        obtain ⟨_, fits, found⟩ := ok_of_bind found
        obtain ⟨_, rfl⟩ := below_eq_ok_iff.mp fits
        cases found
        omega

theorem DataBlock.checkedOfRun_cons (header : Byte) {payload : List Byte}
    (short : payload.length ≤ 31) :
    checkedOfRun (header :: payload) =
      .ok ⟨⟨header.toNat / 32, headerTag_lt header⟩, payload, short⟩ := by
  have behind : slice (header :: payload) 1 (header :: payload).length = .ok payload := by
    rw [slice_eq ⟨by simp, Nat.le_refl _⟩, List.take_length]
    rfl
  refine ok_step rfl (ok_step behind ?_)
  rw [dif_pos short, pure_eq]

/-- One step takes the first data block from what is left of a collection. -/
theorem checkedNext?_spec {bytes : List Byte} {stop : Nat} (inside : stop ≤ bytes.length)
    {position : Nat} (near : position ≤ 0x1000) :
    checkedNext? bytes stop position = .ok none ∧
        DataBlock.readAll ((bytes.take stop).drop position) = [] ∨
      ∃ data next, checkedNext? bytes stop position = .ok (some (data, next)) ∧
        next = position + data.bytes.length ∧
        DataBlock.readAll ((bytes.take stop).drop position) =
          data :: DataBlock.readAll ((bytes.take stop).drop next) := by
  rw [checkedNext?]
  by_cases behind : stop ≤ position
  · have none : (bytes.take stop).drop position = [] :=
      List.drop_of_length_le (by rw [List.length_take]; omega)
    rw [if_pos behind, none, DataBlock.readAll]
    exact Or.inl ⟨rfl, rfl⟩
  · have before : position < stop := Nat.lt_of_not_le behind
    have header : read bytes position = .ok bytes[position] := read_eq (by omega)
    rw [if_neg behind, drop_take_eq_cons before inside, DataBlock.readAll,
      length_drop_take inside]
    dsimp only
    by_cases cut : stop - (position + 1) < bytes[position].toNat % 32
    · rw [if_pos cut]
      refine Or.inl ⟨ok_step header (below_bind (by omega) ?_), rfl⟩
      rw [if_pos (by omega), pure_eq]
    · have kept : position + 1 + bytes[position].toNat % 32 ≤ stop := by omega
      rw [if_neg cut, List.drop_drop]
      refine Or.inr ⟨_, _, ?_, ?_, rfl⟩
      · refine ok_step header (below_bind (by omega) ?_)
        rw [if_neg (by omega)]
        refine below_bind (by omega) (ok_step (slice_eq (by omega)) ?_)
        have run : (bytes.take (position + bytes[position].toNat % 32 + 1)).drop position =
            bytes[position] ::
              ((bytes.take stop).drop (position + 1)).take (bytes[position].toNat % 32) := by
          rw [Nat.add_right_comm, drop_take_eq_cons (by omega) (by omega), take_drop_take kept]
        rw [run]
        refine ok_step (DataBlock.checkedOfRun_cons _ ?_) (below_bind (by omega) ?_)
        · exact DataBlock.length_headerPayload_le _ _
        · refine below_bind (by omega) ?_
          rw [← Nat.add_assoc, Nat.add_right_comm, pure_eq]
      · simp only [DataBlock.bytes, List.length_cons, List.length_take, length_drop_take inside]
        omega

/-- The walk finds the data blocks in what is left of a collection. -/
theorem walk_checkedNext? {bytes : List Byte} {stop : Nat} (inside : stop ≤ bytes.length)
    (short : stop ≤ 0x1000) {position : Nat} (near : position ≤ 0x1000) :
    walk stop (checkedNext? bytes stop) (advances_checkedNext? bytes stop) position =
      .ok (DataBlock.readAll ((bytes.take stop).drop position)) := by
  have each : ∀ position ≤ 0x1000,
      checkedNext? bytes stop position = .ok none ∧
          DataBlock.readAll ((bytes.take stop).drop position) = [] ∨
        ∃ data next, checkedNext? bytes stop position = .ok (some (data, next)) ∧
          DataBlock.readAll ((bytes.take stop).drop position) =
            data :: DataBlock.readAll ((bytes.take stop).drop next) := by
    intro position near
    obtain finished | ⟨data, next, found, _, taken⟩ := checkedNext?_spec inside near
    · exact .inl finished
    · exact .inr ⟨data, next, found, taken⟩
  exact walk_ok _ short each near

end Walk

namespace Collection

def checkedBounds (collection : Collection) : Checked (Except Error (Nat × Nat)) := do
  if collection.tag = DisplayId.ctaTag then
    return .ok (3, ← size (3 + (collection.byte 2).toNat))
  else
    return collection.bounds

def checkedDataBlocks (collection : Collection) : Checked (Except Error (List DataBlock)) := do
  match ← collection.checkedBounds with
  | .error error => return .error error
  | .ok (start, stop) =>
      let stop := min stop collection.bytes.length
      return .ok (← walk stop (checkedNext? collection.bytes stop)
        (advances_checkedNext? collection.bytes stop) start)

theorem checkedBounds_eq (collection : Collection) :
    collection.checkedBounds = .ok collection.bounds := by
  have small := (collection.byte 2).toNat_lt
  rw [checkedBounds]
  split
  · next displayId =>
      rw [bounds]
      dsimp only
      rw [if_pos displayId]
      exact below_bind (by omega) (pure_eq _)
  · rfl

theorem bounds_lt {collection : Collection} {start stop : Nat}
    (found : collection.bounds = .ok (start, stop)) : start ≤ 4 ∧ stop ≤ 258 := by
  have small := (collection.byte 2).toNat_lt
  rw [bounds] at found
  dsimp only at found
  generalize (if (collection.byte 2).toNat = 0 then 127 else (collection.byte 2).toNat) = last
    at found
  split at found
  · cases found
    omega
  · split at found
    · split at found
      · next inside =>
          cases found
          exact ⟨Nat.le_refl _, Nat.le_trans inside.2 (by decide)⟩
      · cases found
    · cases found

theorem checkedDataBlocks_eq (collection : Collection) :
    collection.checkedDataBlocks = .ok collection.dataBlocks := by
  rw [dataBlocks]
  refine ok_step collection.checkedBounds_eq ?_
  cases found : collection.bounds with
  | error error => rfl
  | ok bounds =>
      obtain ⟨start, stop⟩ := bounds
      obtain ⟨near, short⟩ := bounds_lt found
      have inside : min stop collection.bytes.length ≤ collection.bytes.length :=
        Nat.min_le_right _ _
      have cut : collection.bytes.take (min stop collection.bytes.length) =
          collection.bytes.take stop := List.take_eq_take_min.symm
      refine ok_step (walk_checkedNext? inside (Nat.le_trans (Nat.min_le_left _ _) (by omega))
        (by omega : start ≤ 0x1000)) ?_
      rw [cut]
      rfl

end Collection

end Cta

namespace Blob

section Collections

def checkedCta? (blob : Blob) : Checked (Option Cta.Collection) := do
  match ← blob.checkedFindExtension? Block.ctaTag 0 with
  | some (extension, _) => return some ⟨extension.toList⟩
  | none =>
      let blocks ← blob.checkedDisplayIdBlocks
      return (blocks.find? fun block => block.tag == DisplayId.ctaTag).map
        fun block => ⟨block.bytes⟩

def checkedCtaBlocks (blob : Blob) : Checked (List Cta.DataBlock) := do
  match ← blob.checkedCta? with
  | none => return []
  | some collection =>
      match ← collection.checkedDataBlocks with
      | .ok blocks => return blocks
      | .error _ => return []

theorem checkedCta?_eq (blob : Blob) : blob.checkedCta? = .ok blob.cta? := by
  rw [cta?]
  refine ok_step (blob.checkedFindExtension?_eq _ _) ?_
  cases blob.findExtension? Block.ctaTag 0 with
  | some found => rfl
  | none => exact ok_step blob.checkedDisplayIdBlocks_eq (pure_eq _)

theorem checkedCtaBlocks_eq (blob : Blob) : blob.checkedCtaBlocks = .ok blob.ctaBlocks := by
  rw [ctaBlocks]
  refine ok_step blob.checkedCta?_eq ?_
  cases blob.cta? with
  | none => rfl
  | some collection =>
      refine ok_step collection.checkedDataBlocks_eq ?_
      dsimp only
      cases collection.dataBlocks <;> rfl

end Collections

section Audio

def checkedAudioDetails (blob : Blob) : Checked (Except Error (List Cta.DataBlock)) := do
  match ← blob.checkedCta? with
  | none => return .ok []
  | some collection =>
      if collection.revision < 3 then return .ok [] else collection.checkedDataBlocks

def checkedAudioFormats (blob : Blob) : Checked (Except Error (List AudioFormat)) := do
  return (← blob.checkedAudioDetails).map fun blocks =>
    match blocks.find? fun block => block.tag == Cta.DataBlock.audioTag with
    | some block => (triples block.payload).map AudioFormat.ofBytes
    | none => []

def checkedSpeakers (blob : Blob) : Checked (Except Error (Option Byte)) := do
  return (← blob.checkedAudioDetails).map fun blocks =>
    (blocks.find? fun block =>
      block.tag == Cta.DataBlock.speakerTag && block.length == 3).map (·.byte 1)

def checkedHasAudio (blob : Blob) : Checked Bool := do
  match ← blob.checkedCta? with
  | none => return false
  | some collection =>
      if collection.capabilityBits.bit 6 then
        return true
      else
        return (← blob.checkedCtaBlocks).any fun block => block.tag == Cta.DataBlock.audioTag

def checkedIsHdmi (blob : Blob) : Checked Bool := do
  return (← blob.checkedCtaBlocks).any Cta.DataBlock.isHdmi

theorem checkedAudioDetails_eq (blob : Blob) :
    blob.checkedAudioDetails = .ok blob.audioDetails := by
  rw [audioDetails]
  refine ok_step blob.checkedCta?_eq ?_
  cases blob.cta? with
  | none => rfl
  | some collection =>
      dsimp only
      split
      · rfl
      · exact collection.checkedDataBlocks_eq

theorem checkedAudioFormats_eq (blob : Blob) :
    blob.checkedAudioFormats = .ok blob.audioFormats :=
  ok_step blob.checkedAudioDetails_eq (pure_eq _)

theorem checkedSpeakers_eq (blob : Blob) : blob.checkedSpeakers = .ok blob.speakers :=
  ok_step blob.checkedAudioDetails_eq (pure_eq _)

theorem checkedHasAudio_eq (blob : Blob) : blob.checkedHasAudio = .ok blob.hasAudio := by
  rw [hasAudio]
  refine ok_step blob.checkedCta?_eq ?_
  cases blob.cta? with
  | none => rfl
  | some collection =>
      dsimp only
      split
      · next basic =>
          rw [basic]
          rfl
      · next silent =>
          refine ok_step blob.checkedCtaBlocks_eq ?_
          rw [Bool.not_eq_true] at silent
          rw [silent, Bool.false_or, pure_eq]

theorem checkedIsHdmi_eq (blob : Blob) : blob.checkedIsHdmi = .ok blob.isHdmi :=
  ok_step blob.checkedCtaBlocks_eq (pure_eq _)

end Audio

end Blob

end Edid
