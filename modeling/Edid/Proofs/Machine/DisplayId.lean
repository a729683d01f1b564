import Edid.Modes.DisplayId
import Edid.Proofs.Machine.Blob
import Edid.Proofs.Machine.Mode

/-!
# DisplayID in machine words

A section says how many bytes it has, and each of its data blocks how many of them it takes. The
walk over the data blocks keeps a position, which is held against the end before each read.
-/

set_option autoImplicit false

namespace Edid

open Machine

namespace DisplayId

section Sections

/-- Where the data blocks of a valid section end. -/
def checkedSectionEnd? (block : Block) : Checked (Option Nat) := do
  let available ← minus (← minus 128 1) 1
  let bytes ← block.checkedByte 2
  let length ← size ((← size (4 + bytes.toNat)) + 1)
  if available < length then
    return none
  else
    let covered ← slice block.toList 1 (← size (1 + length))
    if byteSum covered ≠ 0 then return none
    else return some (← size (5 + bytes.toNat))

/-- A data block with its header of three bytes. -/
def DataBlock.checkedOfRun (run : List Byte) : Checked DataBlock := do
  return ⟨← read run 0, ← read run 1, ← slice run 3 run.length⟩

/-- The data block at a position and the position behind it. -/
def checkedNext? (block : Block) (stop position : Nat) : Checked (Option (DataBlock × Nat)) := do
  let front ← size (position + 3)
  if stop < front then
    return none
  else
    let count ← block.checkedByte (← size (position + 2))
    let next ← size (front + count.toNat)
    if count = 0 ∨ stop < next then
      return none
    else
      let run ← slice block.toList position next
      return some (← DataBlock.checkedOfRun run, next)

theorem advances_checkedNext? (block : Block) (stop : Nat) :
    Advances stop (checkedNext? block stop) := by
  intro position next data found
  rw [checkedNext?] at found
  obtain ⟨front, fits, found⟩ := ok_of_bind found
  obtain ⟨_, rfl⟩ := below_eq_ok_iff.mp fits
  split at found
  · cases found
  · obtain ⟨_, _, found⟩ := ok_of_bind found
    obtain ⟨count, _, found⟩ := ok_of_bind found
    obtain ⟨following, fits, found⟩ := ok_of_bind found
    obtain ⟨_, rfl⟩ := below_eq_ok_iff.mp fits
    split at found
    · cases found
    · next inside =>
        obtain ⟨_, _, found⟩ := ok_of_bind found
        obtain ⟨_, _, found⟩ := ok_of_bind found
        cases found
        omega

/-- The data blocks of a section, if it is valid. -/
def checkedSection? (block : Block) : Checked (Option (List DataBlock)) := do
  match ← checkedSectionEnd? block with
  | none => return none
  | some stop =>
      return some (← walk stop (checkedNext? block stop) (advances_checkedNext? block stop) 5)

/-- Where the data blocks of a valid section end, without words. -/
def sectionEnd? (block : Block) : Option Nat :=
  (sectionPayload? block).map fun _ => 5 + (block.byte 2).toNat

theorem checkedSectionEnd?_eq (block : Block) :
    checkedSectionEnd? block = .ok (sectionEnd? block) := by
  have small := (block.byte 2).toNat_lt
  have byte : block.checkedByte 2 = .ok (block.byte 2) := block.checkedByte_eq (by decide)
  rw [sectionEnd?, sectionPayload?]
  refine minus_bind (by decide) (minus_bind (by decide) (ok_step byte ?_))
  refine below_bind (by omega) (below_bind (by omega) ?_)
  by_cases long : 121 < (block.byte 2).toNat
  · rw [if_pos (by omega), if_pos long]
    rfl
  · rw [if_neg (by omega), if_neg long]
    refine below_bind (by omega) (ok_step (slice_eq ⟨by omega, by simp; omega⟩) ?_)
    have covered : (block.toList.take (1 + (4 + (block.byte 2).toNat + 1))).drop 1 =
        (block.toList.drop 1).take ((block.byte 2).toNat + 5) := by
      rw [List.drop_take]
      congr 1
      omega
    rw [covered]
    split
    · rfl
    · exact below_bind (by omega) (pure_eq _)

theorem sectionEnd?_eq_some {block : Block} {stop : Nat} (found : sectionEnd? block = some stop) :
    5 ≤ stop ∧ stop ≤ 126 ∧
      sectionPayload? block = some ((block.toList.take stop).drop 5) := by
  obtain ⟨payload, some, rfl⟩ := Option.map_eq_some_iff.mp found
  have same := some
  rw [sectionPayload?] at same
  split at same
  · contradiction
  · split at same
    · contradiction
    · cases same
      refine ⟨by omega, by omega, ?_⟩
      rw [some, List.drop_take, Nat.add_sub_cancel_left]

theorem sectionEnd?_eq_none {block : Block} (missing : sectionEnd? block = none) :
    sectionPayload? block = none :=
  Option.map_eq_none_iff.mp missing

theorem DataBlock.readAll_of_short {bytes : List Byte} (short : bytes.length < 3) :
    readAll bytes = [] := by
  match bytes with
  | [] | [_] | [_, _] => rw [readAll]; simp
  | _ :: _ :: _ :: _ =>
      simp only [List.length_cons] at short
      omega

theorem DataBlock.checkedOfRun_cons (tag revision count : Byte) (payload : List Byte) :
    checkedOfRun (tag :: revision :: count :: payload) = .ok ⟨tag, revision, payload⟩ := by
  refine ok_step rfl (ok_step rfl (ok_step (slice_eq ⟨by simp, Nat.le_refl _⟩) ?_))
  rw [List.take_length]
  rfl

/-- One step takes the first data block from what is left of a section. -/
theorem checkedNext?_spec (block : Block) {stop : Nat} (inside : stop ≤ 126) {position : Nat}
    (near : position ≤ 126) :
    checkedNext? block stop position = .ok none ∧
        DataBlock.readAll ((block.toList.take stop).drop position) = [] ∨
      ∃ data next, checkedNext? block stop position = .ok (some (data, next)) ∧
        next = position + data.bytes.length ∧
        DataBlock.readAll ((block.toList.take stop).drop position) =
          data :: DataBlock.readAll ((block.toList.take stop).drop next) := by
  have length : block.toList.length = 128 := Vector.length_toList
  have whole : stop ≤ block.toList.length := by omega
  rw [checkedNext?]
  by_cases short : stop < position + 3
  · refine Or.inl ⟨below_bind (by omega) (by rw [if_pos short]; rfl), ?_⟩
    exact DataBlock.readAll_of_short (by rw [length_drop_take whole]; omega)
  · have count := block[position + 2].toNat_lt
    have byte : block.checkedByte (position + 2) = .ok block[position + 2] :=
      block.checkedByte_eq (by omega)
    have front (limit : Nat) (behind : position + 3 ≤ limit) (fits : limit ≤ 128) :
        (block.toList.take limit).drop position =
          block[position] :: block[position + 1] :: block[position + 2] ::
            (block.toList.take limit).drop (position + 3) := by
      rw [drop_take_eq_cons (by omega) (by omega), drop_take_eq_cons (by omega) (by omega),
        drop_take_eq_cons (by omega) (by omega)]
      rfl
    rw [front stop (by omega) (by omega), DataBlock.readAll, length_drop_take whole]
    by_cases cut : block[position + 2] = 0 ∨ stop - (position + 3) < block[position + 2].toNat
    · refine Or.inl ⟨?_, if_pos cut⟩
      refine below_bind (by omega) ?_
      rw [if_neg short]
      refine below_bind (by omega) (ok_step byte (below_bind (by omega) ?_))
      rw [if_pos (cut.imp_right fun beyond => by omega)]
      rfl
    · obtain ⟨some, room⟩ := not_or.mp cut
      have kept : position + 3 + block[position + 2].toNat ≤ stop := by omega
      refine Or.inr ⟨⟨block[position], block[position + 1],
        ((block.toList.take stop).drop (position + 3)).take block[position + 2].toNat⟩,
        position + 3 + block[position + 2].toNat, ?_, ?_, ?_⟩
      · refine below_bind (by omega) ?_
        rw [if_neg short]
        refine below_bind (by omega) (ok_step byte (below_bind (by omega) ?_))
        rw [if_neg (not_or.mpr ⟨some, by omega⟩)]
        refine ok_step (slice_eq (by omega)) ?_
        rw [front _ (by omega) (by omega), take_drop_take kept]
        exact ok_step (DataBlock.checkedOfRun_cons _ _ _ _) (pure_eq _)
      · simp only [DataBlock.bytes, List.length_cons, List.length_take, length_drop_take whole]
        omega
      · rw [if_neg cut, List.drop_drop]

/-- The walk finds the data blocks in what is left of a section. -/
theorem walk_checkedNext? (block : Block) {stop : Nat} (inside : stop ≤ 126) {position : Nat}
    (near : position ≤ 126) :
    walk stop (checkedNext? block stop) (advances_checkedNext? block stop) position =
      .ok (DataBlock.readAll ((block.toList.take stop).drop position)) := by
  have each : ∀ position ≤ 126,
      checkedNext? block stop position = .ok none ∧
          DataBlock.readAll ((block.toList.take stop).drop position) = [] ∨
        ∃ data next, checkedNext? block stop position = .ok (some (data, next)) ∧
          DataBlock.readAll ((block.toList.take stop).drop position) =
            data :: DataBlock.readAll ((block.toList.take stop).drop next) := by
    intro position near
    obtain finished | ⟨data, next, found, _, taken⟩ := checkedNext?_spec block inside near
    · exact .inl finished
    · exact .inr ⟨data, next, found, taken⟩
  exact walk_ok _ inside each near

theorem checkedSection?_eq (block : Block) :
    checkedSection? block = .ok ((sectionPayload? block).map DataBlock.readAll) := by
  refine ok_step (checkedSectionEnd?_eq block) ?_
  cases found : sectionEnd? block with
  | none =>
      rw [sectionEnd?_eq_none found]
      rfl
  | some stop =>
      obtain ⟨start, inside, payload⟩ := sectionEnd?_eq_some found
      rw [payload]
      exact ok_step (walk_checkedNext? block inside (by decide)) (pure_eq _)

end Sections

section Timings

/-- The edges for stored numbers, which are one less than what they stand for. -/
def checkedAxis? (active blank offset width : Nat) : Checked (Option Axis) := do
  let active ← u32 (active + 1)
  let blank ← u32 (blank + 1)
  let offset ← u32 (offset + 1)
  let width ← u32 (width + 1)
  let syncStart ← u32 (active + offset)
  let syncEnd ← u32 (syncStart + width)
  let total ← u32 (active + blank)
  if active < 0x10000 ∧ syncStart < 0x10000 ∧ syncEnd < 0x10000 ∧ total < 0x10000 then
    return some ⟨active, syncStart, syncEnd, total⟩
  else
    return none

def Timing.checkedMode? (t : Timing) : Checked (Option Mode) := do
  let clock ← u32 ((← u32 (littleEndian [t.byte 0, t.byte 1, t.byte 2] + 1)) * 10)
  let horizontal? ←
    checkedAxis? (Byte.word (t.byte 4) (t.byte 5)) (Byte.word (t.byte 6) (t.byte 7))
      (Byte.word (t.byte 8) (t.byte 9) % 0x8000) (Byte.word (t.byte 10) (t.byte 11))
  let vertical? ←
    checkedAxis? (Byte.word (t.byte 12) (t.byte 13)) (Byte.word (t.byte 14) (t.byte 15))
      (Byte.word (t.byte 16) (t.byte 17) % 0x8000) (Byte.word (t.byte 18) (t.byte 19))
  return do
    let horizontal ← horizontal?
    let vertical ← vertical?
    some
      { clock := clock
        horizontal := horizontal
        vertical := vertical
        flags := Flags.polarities ((t.byte 9).bit 7) ((t.byte 17).bit 7)
        preferred := (t.byte 3).bit 7 }

theorem word_lt (first second : Byte) : Byte.word first second < 0x10000 := by
  have low := first.toNat_lt
  have high := second.toNat_lt
  rw [Byte.word]
  omega

theorem checkedAxis?_eq {active blank offset width : Nat} (activeSmall : active < 0x10000)
    (blankSmall : blank < 0x10000) (offsetSmall : offset < 0x10000)
    (widthSmall : width < 0x10000) :
    checkedAxis? active blank offset width =
      .ok (axis? (active + 1) (blank + 1) (offset + 1) (width + 1)) := by
  refine below_bind (by omega) (below_bind (by omega) (below_bind (by omega) ?_))
  refine below_bind (by omega) (below_bind (by omega) (below_bind (by omega) ?_))
  refine below_bind (by omega) ?_
  rw [axis?]
  split
  · rw [if_pos (by omega), pure_eq]
  · rw [if_neg (by omega), pure_eq]

theorem fits_axis? {active blank offset width : Nat} {axis : Axis}
    (found : axis? active blank offset width = some axis) : axis.Fits := by
  rw [axis?] at found
  split at found
  · next small =>
      cases found
      exact ⟨small.1, by dsimp only; omega, small.2.1, small.2.2⟩
  · contradiction

theorem Timing.checkedMode?_eq (t : Timing) : t.checkedMode? = .ok t.mode? := by
  have low := (t.byte 0).toNat_lt
  have middle := (t.byte 1).toNat_lt
  have high := (t.byte 2).toNat_lt
  have clock : littleEndian [t.byte 0, t.byte 1, t.byte 2] < 0x1000000 := by
    simp only [littleEndian]
    omega
  refine below_bind (by omega) (below_bind (by omega) ?_)
  refine ok_step (checkedAxis?_eq (word_lt _ _) (word_lt _ _) ?_ (word_lt _ _)) ?_
  · exact Nat.lt_of_le_of_lt (Nat.mod_le _ _) (word_lt _ _)
  refine ok_step (checkedAxis?_eq (word_lt _ _) (word_lt _ _) ?_ (word_lt _ _)) (pure_eq _)
  exact Nat.lt_of_le_of_lt (Nat.mod_le _ _) (word_lt _ _)

theorem Timing.fits_mode? {t : Timing} {mode : Mode} (found : t.mode? = some mode) :
    mode.Fits := by
  have low := (t.byte 0).toNat_lt
  have middle := (t.byte 1).toNat_lt
  have high := (t.byte 2).toNat_lt
  simp only [Timing.mode?, bind, Option.bind_eq_some_iff] at found
  obtain ⟨horizontal, across, vertical, down, same⟩ := found
  cases same
  refine ⟨?_, fits_axis? across, fits_axis? down⟩
  simp only [littleEndian]
  omega

end Timings

end DisplayId

section Blobs

def Blob.checkedDisplayIdBlocks (blob : Blob) : Checked (List DisplayId.DataBlock) := do
  let sections ← mapWhileM DisplayId.checkedSection?
    (blob.extensions.filter fun extension => extension.tag == Block.displayIdTag)
  return sections.flatten

def checkedDisplayIdModes (blob : Blob) : Checked (List Mode) := do
  let blocks ← blob.checkedDisplayIdBlocks
  (blocks.filter fun block => block.tag == DisplayId.detailedTimingTag).flatMapM fun block =>
    (DisplayId.timings block.payload).filterMapM DisplayId.Timing.checkedMode?

theorem mapWhile_map {α β γ : Type} (f : α → Option β) (g : β → γ) (items : List α) :
    mapWhile (fun item => (f item).map g) items = (mapWhile f items).map g := by
  induction items with
  | nil => rfl
  | cons item rest ih =>
      rw [mapWhile, mapWhile]
      cases f item with
      | none => rfl
      | some image => exact congrArg (g image :: ·) ih

theorem Blob.checkedDisplayIdBlocks_eq (blob : Blob) :
    blob.checkedDisplayIdBlocks = .ok blob.displayIdBlocks := by
  refine ok_step (mapWhileM_ok fun extension _ => DisplayId.checkedSection?_eq extension) ?_
  rw [mapWhile_map]
  rfl

theorem checkedDisplayIdModes_eq (blob : Blob) :
    checkedDisplayIdModes blob = .ok (displayIdModes blob) :=
  ok_step blob.checkedDisplayIdBlocks_eq (flatMapM_ok fun _ _ =>
    filterMapM_ok fun t _ => DisplayId.Timing.checkedMode?_eq t)

theorem allFit_displayIdModes (blob : Blob) : AllFit (displayIdModes blob) :=
  allFit_flatMap fun _ => allFit_filterMap fun _ _ => DisplayId.Timing.fits_mode?

end Blobs

end Edid
