import Edid.Modes.Stereo
import Edid.Proofs.Machine.Formats
import Edid.Proofs.Machine.Length

/-!
# HDMI blocks in machine words

The fields of an HDMI block have no fixed places: flags, counts and lengths in it move what
follows. An offset is kept that only grows, and is held against the length of the block. What is
read at offsets is what the fields read from front to back say.
-/

set_option autoImplicit false

namespace Edid

open Machine

namespace Cta.DataBlock

section Bytes

theorem byte_succ (block : DataBlock) (position : Nat) :
    block.byte (position + 1) = block.payload.getD position 0 :=
  rfl

theorem getElem?_payload (block : DataBlock) (position : Nat) :
    block.payload[position]? =
      if block.length < position + 1 then none else some (block.byte (position + 1)) := by
  rw [byte_succ, length, List.getD_eq_getElem?_getD]
  split
  · exact List.getElem?_eq_none (by omega)
  · rw [List.getElem?_eq_getElem (by omega), Option.getD_some]

theorem drop_payload_eq_cons (block : DataBlock) {position : Nat}
    (inside : position < block.length) :
    block.payload.drop position = block.byte (position + 1) :: block.payload.drop (position + 1) := by
  rw [List.drop_eq_getElem_cons inside, byte_succ, List.getD_eq_getElem?_getD,
    List.getElem?_eq_getElem inside, Option.getD_some]

theorem drop_payload_eq_nil (block : DataBlock) {position : Nat}
    (outside : block.length ≤ position) : block.payload.drop position = [] :=
  List.drop_of_length_le outside

/-- A part of the payload that is not empty begins with the byte at its start. -/
theorem part_eq_cons (block : DataBlock) {start count : Nat}
    (inside : start + (count + 1) ≤ block.length) :
    (block.payload.drop start).take (count + 1) =
      block.byte (start + 1) :: (block.payload.drop (start + 1)).take count := by
  rw [block.drop_payload_eq_cons (by omega), List.take_succ_cons]

end Bytes

end Cta.DataBlock

theorem mapWhile_range' {bytes : List Byte} {start count : Nat} :
    mapWhile (fun index => bytes[index]?) (List.range' start count) =
      (bytes.drop start).take count := by
  induction count generalizing start with
  | zero => rfl
  | succ count ih =>
      rw [List.range'_succ, mapWhile]
      by_cases inside : start < bytes.length
      · rw [List.getElem?_eq_getElem inside, List.drop_eq_getElem_cons inside,
          List.take_succ_cons]
        exact congrArg (bytes[start] :: ·) ih
      · rw [List.getElem?_eq_none (by omega), List.drop_of_length_le (by omega)]
        rfl

namespace HdmiVideo

section Codes

/-- The codes behind the two lengths, as far as the block reaches. -/
def checkedCodes (block : Cta.DataBlock) (offset count : Nat) : Checked (List Byte) :=
  mapWhileM (fun index => do
    let position ← size ((← size (9 + offset)) + index)
    return if block.length < position then none else some (block.byte position))
    (List.range' 0 count)

theorem checkedCodes_eq (block : Cta.DataBlock) {offset count : Nat} (near : offset ≤ 0x1000)
    (few : count ≤ 0x1000) :
    checkedCodes block offset count = .ok ((block.payload.drop (8 + offset)).take count) := by
  have each : ∀ index ∈ List.range' 0 count,
      (do
        let position ← size ((← size (9 + offset)) + index)
        return if block.length < position then none else some (block.byte position)) =
      (.ok (block.payload.drop (8 + offset))[index]? : Checked (Option Byte)) := by
    intro index member
    have small := (List.mem_range'_1.mp member).2
    refine below_bind (by omega) (below_bind (by omega) ?_)
    have next : 9 + offset + index = 8 + offset + index + 1 := by omega
    rw [List.getElem?_drop, block.getElem?_payload, next, pure_eq]
  refine (mapWhileM_ok each).trans ?_
  rw [mapWhile_range', List.drop_zero]

end Codes

section Entries

/-- The layout of a single entry whose structure byte, and detail byte if it has one, are given. -/
def layoutOf? (entry detail : Byte) : Option (Nat × StereoLayout) :=
  if entry.low = 0 then some (entry.high, .framePacking)
  else if entry.low = 6 then some (entry.high, .topAndBottom)
  else if entry.low = 8 ∧ detail.high = 1 then some (entry.high, .sideBySideHalf)
  else none

/-- The single entries one by one, those that say nothing included. -/
def readSteps : List Byte → List (Option (Nat × StereoLayout))
  | [] => []
  | entry :: rest =>
      if entry.low ≤ 7 then layoutOf? entry 0 :: readSteps rest
      else
        match rest with
        | [] => []
        | detail :: rest => layoutOf? entry detail :: readSteps rest

theorem readSteps_short {entry : Byte} (short : entry.low ≤ 7) (rest : List Byte) :
    readSteps (entry :: rest) = layoutOf? entry 0 :: readSteps rest := by
  cases rest <;> simp only [readSteps, if_pos short]

theorem readSteps_cut {entry : Byte} (long : ¬entry.low ≤ 7) : readSteps [entry] = [] := by
  rw [readSteps, if_neg long]

theorem readSteps_long {entry : Byte} (long : ¬entry.low ≤ 7) (detail : Byte)
    (rest : List Byte) :
    readSteps (entry :: detail :: rest) = layoutOf? entry detail :: readSteps rest := by
  rw [readSteps, if_neg long]

theorem readEntries_eq_filterMap (bytes : List Byte) :
    readEntries bytes = (readSteps bytes).filterMap id := by
  fun_induction readEntries bytes with
  | case1 => rfl
  | case2 entry rest short zero ih => simp [readSteps_short short, layoutOf?, zero, ih]
  | case3 entry rest short six ih => simp [readSteps_short short, layoutOf?, six, ih]
  | case4 entry rest short other further ih =>
      have notZero : entry.low ≠ 0 := other
      have notSix : entry.low ≠ 6 := further
      have notEight : entry.low ≠ 8 := by omega
      simp [readSteps_short short, layoutOf?, notZero, notSix, notEight, ih]
  | case5 entry long => rw [readSteps_cut long, List.filterMap_nil]
  | case6 entry long detail rest both ih =>
      simp [readSteps_long long, layoutOf?, both.1, both.2, ih]
  | case7 entry long detail rest other ih =>
      have notZero : entry.low ≠ 0 := by omega
      have notSix : entry.low ≠ 6 := by omega
      simp [readSteps_long long, layoutOf?, notZero, notSix, other, ih]

theorem layoutOf?_of_short {entry : Byte} (short : entry.low ≤ 7) (detail : Byte) :
    layoutOf? entry detail = layoutOf? entry 0 := by
  have notEight : entry.low ≠ 8 := by omega
  simp [layoutOf?, notEight]

/-- The entry at an index of the entries, and the index of the next. -/
def checkedNext? (block : Cta.DataBlock) (offset count index : Nat) :
    Checked (Option (Option (Nat × StereoLayout) × Nat)) := do
  if count ≤ index then
    return none
  else
    let entry := block.byte (← size ((← size (8 + offset)) + index))
    let following ← size (index + 1)
    if 7 < entry.low ∧ following = count then
      return none
    else
      let detail := block.byte (← size ((← size (9 + offset)) + index))
      let next ← size (index + if 7 < entry.low then 2 else 1)
      return some (layoutOf? entry detail, next)

theorem advances_checkedNext? (block : Cta.DataBlock) (offset count : Nat) :
    Advances count (checkedNext? block offset count) := by
  intro index next item found
  rw [checkedNext?] at found
  split at found
  · cases found
  · obtain ⟨_, _, found⟩ := ok_of_bind found
    obtain ⟨position, _, found⟩ := ok_of_bind found
    obtain ⟨_, fits, found⟩ := ok_of_bind found
    obtain ⟨_, rfl⟩ := below_eq_ok_iff.mp fits
    split at found
    · cases found
    · next inside =>
        obtain ⟨_, _, found⟩ := ok_of_bind found
        obtain ⟨_, _, found⟩ := ok_of_bind found
        obtain ⟨_, fits, found⟩ := ok_of_bind found
        obtain ⟨_, rfl⟩ := below_eq_ok_iff.mp fits
        cases found
        split <;> omega

theorem checkedNext?_of_lt (block : Cta.DataBlock) {offset count : Nat} (near : offset ≤ 0x1000)
    (few : count ≤ 0x1000) {index : Nat} (inside : index < count) :
    checkedNext? block offset count index =
      .ok (if 7 < (block.byte (8 + offset + index)).low ∧ index + 1 = count then none
        else some (layoutOf? (block.byte (8 + offset + index)) (block.byte (9 + offset + index)),
          index + if 7 < (block.byte (8 + offset + index)).low then 2 else 1)) := by
  rw [checkedNext?, if_neg (Nat.not_le_of_lt inside)]
  refine below_bind (by omega) (below_bind (by omega) (below_bind (by omega) ?_))
  split
  · rfl
  · refine below_bind (by omega) (below_bind (by omega) (below_bind ?_ (pure_eq _)))
    split <;> omega

/-- One step takes the first entry from what is left of the entries. -/
theorem checkedNext?_spec (block : Cta.DataBlock) {offset count : Nat} (near : offset ≤ 0x1000)
    (few : count ≤ 0x1000) (inside : 7 + offset + count ≤ block.length) {index : Nat}
    (close : index ≤ count) :
    checkedNext? block offset count index = .ok none ∧
        readSteps ((block.payload.drop (7 + offset + index)).take (count - index)) = [] ∨
      ∃ item next, checkedNext? block offset count index = .ok (some (item, next)) ∧
        readSteps ((block.payload.drop (7 + offset + index)).take (count - index)) =
          item :: readSteps ((block.payload.drop (7 + offset + next)).take (count - next)) := by
  rcases Nat.eq_or_lt_of_le close with rfl | before
  · rw [checkedNext?, if_pos (Nat.le_refl _), Nat.sub_self]
    exact Or.inl ⟨rfl, rfl⟩
  · obtain ⟨rest, left⟩ : ∃ rest, count - index = rest + 1 := ⟨count - index - 1, by omega⟩
    have entryAt : 7 + offset + index + 1 = 8 + offset + index := by omega
    have detailAt : 8 + offset + index + 1 = 9 + offset + index := by omega
    rw [checkedNext?_of_lt block near few before, left, block.part_eq_cons (by omega), entryAt]
    by_cases short : (block.byte (8 + offset + index)).low ≤ 7
    · have next : count - (index + 1) = rest := by omega
      have place : 7 + offset + (index + 1) = 8 + offset + index := by omega
      rw [if_neg (by omega), if_neg (by omega), readSteps_short short, layoutOf?_of_short short]
      refine Or.inr ⟨_, _, rfl, ?_⟩
      rw [next, place]
    · cases rest with
      | zero =>
          rw [if_pos (by omega), List.take_zero, readSteps_cut short]
          exact Or.inl ⟨rfl, rfl⟩
      | succ rest =>
          have next : count - (index + 2) = rest := by omega
          have place : 7 + offset + (index + 2) = 9 + offset + index := by omega
          rw [if_neg (by omega), if_pos (by omega), block.part_eq_cons (by omega), detailAt,
            readSteps_long short]
          refine Or.inr ⟨_, _, rfl, ?_⟩
          rw [next, place]

/-- The single entries, from the first one on. -/
def checkedEntries (block : Cta.DataBlock) (offset count : Nat) :
    Checked (List (Nat × StereoLayout)) := do
  let steps ← walk count (checkedNext? block offset count)
    (advances_checkedNext? block offset count) 0
  return steps.filterMap id

theorem checkedEntries_eq (block : Cta.DataBlock) {offset count : Nat} (near : offset ≤ 0x1000)
    (few : count ≤ 0x1000) (inside : 7 + offset + count ≤ block.length) :
    checkedEntries block offset count =
      .ok (readEntries ((block.payload.drop (7 + offset)).take count)) := by
  rw [readEntries_eq_filterMap]
  exact ok_step (walk_ok _ (Nat.le_refl _) (fun _ close => checkedNext?_spec block near few inside close)
    (Nat.zero_le _)) (pure_eq _)

end Entries

section StereoPart

/-- How many bytes of the stereo part come before the entries. -/
def groupLength (multi : Nat) : Nat :=
  match multi with
  | 1 => 2
  | 2 => 4
  | _ => 0

def checkedPositions (mask : Nat) : Checked (List Nat) :=
  (List.range 16).filterMapM fun position => do
    let _ ← bitOf 16 position
    return if mask.testBit position then some position else none

/-- The layouts and positions for groups of formats. -/
def checkedGroup (video : HdmiVideo) (block : Cta.DataBlock) (multi offset : Nat) :
    Checked HdmiVideo := do
  match multi with
  | 1 =>
      let high := block.byte (← size (8 + offset))
      let low := block.byte (← size (9 + offset))
      return { video with
        layouts := layoutsOf (Byte.wordBigEndian high low)
        positions := ← checkedPositions 0xffff }
  | 2 =>
      let high := block.byte (← size (8 + offset))
      let low := block.byte (← size (9 + offset))
      let maskHigh := block.byte (← size (10 + offset))
      let maskLow := block.byte (← size (11 + offset))
      return { video with
        layouts := layoutsOf (Byte.wordBigEndian high low)
        positions := ← checkedPositions (Byte.wordBigEndian maskHigh maskLow) }
  | _ => return video

/-- Adds the stereo part that begins at an offset. -/
def checkedStereoPart (video : HdmiVideo) (block : Cta.DataBlock) (multi offset length : Nat) :
    Checked HdmiVideo := do
  let available ← size (block.length + 1)
  let needed ← size ((← size (8 + offset)) + length)
  if available < needed ∨ length < groupLength multi then
    return video
  else
    let grouped ← checkedGroup video block multi offset
    let offset ← size (offset + groupLength multi)
    let count ← minus length (groupLength multi)
    return { grouped with entries := ← checkedEntries block offset count }

theorem checkedPositions_eq (mask : Nat) : checkedPositions mask = .ok (positionsOf mask) := by
  have each : ∀ position ∈ List.range 16,
      (bitOf 16 position >>= fun _ =>
        pure (if mask.testBit position then some position else none)) =
      (.ok (if mask.testBit position then some position else none) : Checked (Option Nat)) :=
    fun position member => bitOf_bind (List.mem_range.mp member) (pure_eq _)
  refine (filterMapM_ok each).trans ?_
  rw [positionsOf, ← List.filterMap_eq_filter]
  congr 2

theorem positionsOf_all : positionsOf 0xffff = List.range 16 := by
  decide

theorem groupLength_le (multi : Nat) : groupLength multi ≤ 4 := by
  match multi with
  | 0 | 1 | 2 | _ + 3 => simp [groupLength]

theorem withStereoPart_of_short (video : HdmiVideo) {multi : Nat} {bytes : List Byte}
    (short : bytes.length < groupLength multi) : video.withStereoPart multi bytes = video := by
  match multi, bytes with
  | 1, [] | 1, [_] => rfl
  | 2, [] | 2, [_] | 2, [_, _] | 2, [_, _, _] => rfl
  | 1, _ :: _ :: _ | 2, _ :: _ :: _ :: _ :: _ =>
      simp only [groupLength, List.length_cons] at short
      omega
  | 0, _ | _ + 3, _ => exact absurd short (Nat.not_lt_zero _)

theorem withStereoPart_nil {video : HdmiVideo} (none : video.entries = []) (multi : Nat) :
    video.withStereoPart multi [] = video := by
  match multi with
  | 1 | 2 => rfl
  | 0 | _ + 3 =>
      rw [withStereoPart, readEntries, ← none]
      all_goals simp

theorem checkedGroup_all (video : HdmiVideo) (block : Cta.DataBlock) {offset : Nat}
    (near : offset ≤ 0x800) :
    checkedGroup video block 1 offset = .ok { video with
      layouts := layoutsOf
        (Byte.wordBigEndian (block.byte (8 + offset)) (block.byte (9 + offset)))
      positions := List.range 16 } := by
  rw [← positionsOf_all]
  exact below_bind (by omega) (below_bind (by omega)
    (ok_step (checkedPositions_eq _) (pure_eq _)))

theorem checkedGroup_masked (video : HdmiVideo) (block : Cta.DataBlock) {offset : Nat}
    (near : offset ≤ 0x800) :
    checkedGroup video block 2 offset = .ok { video with
      layouts := layoutsOf
        (Byte.wordBigEndian (block.byte (8 + offset)) (block.byte (9 + offset)))
      positions := positionsOf
        (Byte.wordBigEndian (block.byte (10 + offset)) (block.byte (11 + offset))) } :=
  below_bind (by omega) (below_bind (by omega) (below_bind (by omega)
    (below_bind (by omega) (ok_step (checkedPositions_eq _) (pure_eq _)))))

/-- The stereo part when the block holds all of it. -/
theorem checkedWholePart_eq (video : HdmiVideo) (block : Cta.DataBlock) (multi : Nat)
    {offset length : Nat} (near : offset ≤ 0x800) (few : length ≤ 0x800)
    (inside : 7 + offset + length ≤ block.length) (enough : groupLength multi ≤ length) :
    (do
      let grouped ← checkedGroup video block multi offset
      let offset ← size (offset + groupLength multi)
      let count ← minus length (groupLength multi)
      return { grouped with entries := ← checkedEntries block offset count }) =
    .ok (video.withStereoPart multi ((block.payload.drop (7 + offset)).take length)) := by
  have entries (skipped : Nat) (fits : skipped ≤ length) :
      checkedEntries block (offset + skipped) (length - skipped) =
        .ok (readEntries ((block.payload.drop (7 + offset + skipped)).take (length - skipped))) := by
    rw [checkedEntries_eq block (by omega) (by omega) (by omega), Nat.add_assoc]
  have first : 7 + offset + 1 = 8 + offset := by omega
  have second : 8 + offset + 1 = 9 + offset := by omega
  have third : 9 + offset + 1 = 10 + offset := by omega
  have fourth : 10 + offset + 1 = 11 + offset := by omega
  match multi with
  | 0 | _ + 3 =>
      -- Without a group all bytes are entries.
      refine ok_step rfl (below_bind (by omega) (minus_bind (Nat.zero_le _) ?_))
      exact ok_step (entries 0 (Nat.zero_le _)) (pure_eq _)
  | 1 =>
      have two : 2 ≤ length := enough
      obtain ⟨count, rfl⟩ : ∃ count, length = count + 1 + 1 := ⟨length - 2, by omega⟩
      rw [block.part_eq_cons (by omega), first, block.part_eq_cons (by omega), second]
      refine ok_step (checkedGroup_all video block near) (below_bind (by omega) ?_)
      refine minus_bind enough (ok_step (entries 2 enough) ?_)
      have place : 7 + offset + 2 = 9 + offset := by omega
      have rest : count + 1 + 1 - 2 = count := by omega
      rw [place, rest]
      rfl
  | 2 =>
      have four : 4 ≤ length := enough
      obtain ⟨count, rfl⟩ : ∃ count, length = count + 1 + 1 + 1 + 1 := ⟨length - 4, by omega⟩
      rw [block.part_eq_cons (by omega), first, block.part_eq_cons (by omega), second,
        block.part_eq_cons (by omega), third, block.part_eq_cons (by omega), fourth]
      refine ok_step (checkedGroup_masked video block near) (below_bind (by omega) ?_)
      refine minus_bind enough (ok_step (entries 4 enough) ?_)
      have place : 7 + offset + 4 = 11 + offset := by omega
      have rest : count + 1 + 1 + 1 + 1 - 4 = count := by omega
      rw [place, rest]
      rfl

theorem checkedStereoPart_eq (video : HdmiVideo) (none : video.entries = [])
    (block : Cta.DataBlock) (multi : Nat) {offset length : Nat} (near : offset ≤ 0x800)
    (few : length ≤ 0x800) :
    checkedStereoPart video block multi offset length =
      .ok (if (block.payload.drop (7 + offset)).length < length then video
        else video.withStereoPart multi ((block.payload.drop (7 + offset)).take length)) := by
  have short : block.length ≤ 31 := block.payload_le
  have group := groupLength_le multi
  have left : (block.payload.drop (7 + offset)).length = block.length - (7 + offset) :=
    List.length_drop
  refine below_bind (by omega) (below_bind (by omega) (below_bind (by omega) ?_))
  by_cases cut : block.length + 1 < 8 + offset + length ∨ length < groupLength multi
  · rw [if_pos cut]
    split
    · rfl
    · next reached =>
        rw [left] at reached
        by_cases few : length < groupLength multi
        · rw [withStereoPart_of_short]
          · rfl
          · exact Nat.lt_of_le_of_lt (List.length_take_le _ _) few
        · have empty : length = 0 := by omega
          rw [empty, List.take_zero, withStereoPart_nil none]
          rfl
  · have inside : 7 + offset + length ≤ block.length := by omega
    rw [if_neg cut, if_neg (by omega)]
    exact checkedWholePart_eq video block multi near few inside (by omega)

end StereoPart

section Fields

/-- How many bytes of latencies come before the video fields. -/
def latencyLength (flags : Byte) : Nat :=
  (if flags.bit 7 then 2 else 0) + if flags.bit 6 then 2 else 0

def checkedLatencyLength (flags : Byte) : Checked Nat := do
  let progressive ← (if flags.bit 7 then size (0 + 2) else pure 0)
  if flags.bit 6 then size (progressive + 2) else return progressive

/-- The video fields behind so many bytes of latencies. -/
def checkedFields (block : Cta.DataBlock) (skipped : Nat) : Checked HdmiVideo := do
  let needed ← size ((← size (8 + skipped)) + 2)
  if block.length < needed then
    return {}
  else
    let offset ← size (skipped + 1)
    let flags := block.byte (← size (8 + offset))
    let offset ← size (offset + 1)
    let lengths := block.byte (← size (8 + offset))
    let codes ← checkedCodes block offset (lengths.toNat / 32)
    let behind ← size (1 + lengths.toNat / 32)
    let offset ← size (offset + behind)
    checkedStereoPart { stereo := flags.bit 7, codes := codes } block
      (if flags.bit 7 then flags.toNat / 32 % 4 else 0) offset (lengths.toNat % 32)

def checkedOfBlock (block : Cta.DataBlock) : Checked HdmiVideo := do
  if block.length < 8 then
    return {}
  else if (block.byte 8).bit 5 then
    checkedFields block (← checkedLatencyLength (block.byte 8))
  else
    return {}

theorem checkedLatencyLength_eq (flags : Byte) :
    checkedLatencyLength flags = .ok (latencyLength flags) := by
  rw [checkedLatencyLength, latencyLength]
  cases flags.bit 7 <;> cases flags.bit 6 <;> rfl

theorem latencyLength_le (flags : Byte) : latencyLength flags ≤ 4 := by
  rw [latencyLength]
  split <;> split <;> omega

theorem readFields_of_short {bytes : List Byte} (short : bytes.length < 2) :
    readFields bytes = {} := by
  match bytes with
  | [] | [_] => rfl
  | _ :: _ :: _ =>
      simp only [List.length_cons] at short
      omega

theorem checkedFields_eq (block : Cta.DataBlock) {skipped : Nat} (near : skipped ≤ 4) :
    checkedFields block skipped = .ok (readFields (block.payload.drop (8 + skipped))) := by
  refine below_bind (by omega) (below_bind (by omega) ?_)
  by_cases short : block.length < 8 + skipped + 2
  · rw [if_pos short, readFields_of_short]
    · rfl
    · have left : (block.payload.drop (8 + skipped)).length = block.length - (8 + skipped) :=
        List.length_drop
      omega
  · have lengths := (block.byte (10 + skipped)).toNat_lt
    have flagsAt : 8 + (skipped + 1) = 9 + skipped := by omega
    have lengthsAt : 8 + (skipped + 1 + 1) = 10 + skipped := by omega
    have first : 8 + skipped + 1 = 9 + skipped := by omega
    have second : 9 + skipped + 1 = 10 + skipped := by omega
    rw [if_neg short, block.drop_payload_eq_cons (by omega), first,
      block.drop_payload_eq_cons (by omega), second]
    refine below_bind (by omega) (below_bind (by omega) (below_bind (by omega) ?_))
    refine below_bind (by omega) ?_
    dsimp only
    rw [flagsAt, lengthsAt]
    refine ok_step (checkedCodes_eq block (by omega) (by omega)) ?_
    refine below_bind (by omega) (below_bind (by omega) ?_)
    have behind : 7 + (skipped + 1 + 1 + (1 + (block.byte (10 + skipped)).toNat / 32)) =
        10 + skipped + (block.byte (10 + skipped)).toNat / 32 := by omega
    rw [checkedStereoPart_eq _ rfl block _ (by omega) (by omega), lengthsAt, behind,
      ← List.drop_drop]
    rfl

theorem checkedOfBlock_eq (block : Cta.DataBlock) :
    checkedOfBlock block = .ok (ofBlock block) := by
  rw [checkedOfBlock, ofBlock]
  by_cases short : block.length < 8
  · rw [if_pos short, block.drop_payload_eq_nil (by omega)]
    rfl
  · rw [if_neg short, block.drop_payload_eq_cons (by omega)]
    dsimp only
    split
    · refine ok_step (checkedLatencyLength_eq _) ?_
      rw [checkedFields_eq block (latencyLength_le _), List.drop_drop]
      rfl
    · rfl

end Fields

section Bounds

/-- How much an HDMI block can list. -/
structure Small (video : HdmiVideo) : Prop where
  codes : video.codes.length ≤ 31
  layouts : video.layouts.length ≤ 3
  positions : video.positions.length ≤ 16
  entries : video.entries.length ≤ 31

theorem length_readEntries_le (bytes : List Byte) : (readEntries bytes).length ≤ bytes.length := by
  fun_induction readEntries bytes <;> simp only [List.length_cons, List.length_nil] <;> omega

theorem length_layoutsOf_le (structures : Nat) : (layoutsOf structures).length ≤ 3 := by
  rw [layoutsOf, List.length_map]
  exact List.length_filter_le _ _

theorem small_withStereoPart {video : HdmiVideo} (small : video.Small) (multi : Nat)
    {bytes : List Byte} (short : bytes.length ≤ 31) : (video.withStereoPart multi bytes).Small := by
  unfold withStereoPart
  split
  · next high low rest =>
      have entries := length_readEntries_le rest
      simp only [List.length_cons] at short
      exact ⟨small.codes, length_layoutsOf_le _, by simp, by dsimp only; omega⟩
  · exact small
  · next high low maskHigh maskLow rest =>
      have entries := length_readEntries_le rest
      simp only [List.length_cons] at short
      exact ⟨small.codes, length_layoutsOf_le _, List.length_filter_le _ _, by dsimp only; omega⟩
  · exact small
  · exact ⟨small.codes, small.layouts, small.positions,
      Nat.le_trans (length_readEntries_le _) short⟩

theorem small_readFields {bytes : List Byte} (short : bytes.length ≤ 31) :
    (readFields bytes).Small := by
  unfold readFields
  split
  · next flags lengths rest =>
      simp only [List.length_cons] at short
      have listed : HdmiVideo.Small
          { stereo := flags.bit 7, codes := rest.take (lengths.toNat / 32) } :=
        ⟨Nat.le_trans (List.length_take_le' _ _) (by omega), by simp, by simp, by simp⟩
      dsimp only
      split
      · exact listed
      · refine small_withStereoPart listed _ ?_
        rw [List.length_take, List.length_drop]
        omega
  · constructor <;> simp

theorem small_ofBlock (block : Cta.DataBlock) : (ofBlock block).Small := by
  have short : block.payload.length ≤ 31 := block.payload_le
  rw [ofBlock]
  split
  · next flags rest found =>
      have length : rest.length + 1 = block.payload.length - 7 := by
        rw [← List.length_cons, ← found, List.length_drop]
      split
      · refine small_readFields ?_
        rw [List.length_drop]
        omega
      · constructor <;> simp
  · constructor <;> simp

end Bounds

end HdmiVideo

section Modes

def checkedShortDescriptorFormat? (descriptor : Byte) : Checked (Option Mode) :=
  checkedCtaFormat? (shortDescriptorCode descriptor)

def checkedMandatoryStereoModes (modes : List Mode) : Checked (List Mode) :=
  modes.flatMapM fun mode => do
    let rate ← mode.checkedRefresh
    return (MandatoryStereo.table.filter fun mandatory =>
      mode.width == mandatory.width && mode.height == mandatory.height &&
        mode.interlaced == mandatory.interlaced && rate == mandatory.refresh).map
          fun mandatory => mode.inLayout mandatory.layout

namespace HdmiVideo

def checkedStereoFormat? (descriptors : List Byte) (position : Nat) (layout : StereoLayout) :
    Checked (Option Mode) := do
  match descriptors[position]? with
  | none => return none
  | some descriptor =>
      return (← checkedShortDescriptorFormat? descriptor).map fun mode => mode.inLayout layout

/-- The modes that are added, with a count of them. -/
def checkedModes (video : HdmiVideo) (descriptors : List Byte) (listed : List Mode) :
    Checked (List Mode × Nat) := do
  let mandatory ← (if video.stereo then checkedMandatoryStereoModes listed else pure [])
  let added ← size (0 + mandatory.length)
  let coded ← video.codes.mapM checkedHdmiFormat?
  let grouped ← video.positions.flatMapM fun position =>
    video.layouts.mapM fun layout => checkedStereoFormat? descriptors position layout
  let single ← video.entries.mapM fun entry => checkedStereoFormat? descriptors entry.1 entry.2
  (coded ++ grouped ++ single).foldlM (checkedAdd 0x100000000) (mandatory, added)

end HdmiVideo

theorem checkedShortDescriptorFormat?_eq (descriptor : Byte) :
    checkedShortDescriptorFormat? descriptor = .ok (shortDescriptorFormat? descriptor) :=
  checkedCtaFormat?_eq _

theorem fits_shortDescriptorFormat? {descriptor : Byte} {mode : Mode}
    (found : shortDescriptorFormat? descriptor = some mode) : mode.Fits :=
  fits_ctaFormat? found

theorem checkedMandatoryStereoModes_eq {modes : List Mode} (fit : AllFit modes) :
    checkedMandatoryStereoModes modes = .ok (mandatoryStereoModes modes) :=
  flatMapM_ok fun mode member => ok_step (Mode.checkedRefresh_eq (fit mode member)) (pure_eq _)

theorem allFit_mandatoryStereoModes {modes : List Mode} (fit : AllFit modes) :
    AllFit (mandatoryStereoModes modes) := by
  intro stereo member
  obtain ⟨mode, plain, member⟩ := List.mem_flatMap.mp member
  obtain ⟨mandatory, _, rfl⟩ := List.mem_map.mp member
  exact Mode.fits_inLayout (fit mode plain) mandatory.layout

theorem length_mandatoryStereoModes_le (modes : List Mode) :
    (mandatoryStereoModes modes).length ≤ modes.length * 8 := by
  refine length_flatMap_le (Nat.le_refl _) fun mode _ => ?_
  rw [List.length_map]
  exact List.length_filter_le _ _

namespace HdmiVideo

/-- The formats of a block in the order in which they are added, unknown ones included. -/
def options (video : HdmiVideo) (descriptors : List Byte) : List (Option Mode) :=
  video.codes.map hdmiFormat? ++
    (video.positions.flatMap fun position =>
      video.layouts.map fun layout => stereoFormat? descriptors position layout) ++
    video.entries.map fun entry => stereoFormat? descriptors entry.1 entry.2

theorem filterMap_options (video : HdmiVideo) (descriptors : List Byte) (listed : List Mode) :
    (if video.stereo then mandatoryStereoModes listed else []) ++
      (video.options descriptors).filterMap id = video.modes descriptors listed := by
  simp only [options, modes, List.filterMap_append, List.filterMap_flatMap, List.filterMap_map,
    List.append_assoc]
  rfl

theorem length_options_le {video : HdmiVideo} (small : video.Small) (descriptors : List Byte) :
    (video.options descriptors).length ≤ 110 := by
  have codes := small.codes
  have entries := small.entries
  have grouped : video.positions.length * video.layouts.length ≤ 16 * 3 :=
    Nat.mul_le_mul small.positions small.layouts
  simp only [options, List.length_append, List.length_map, List.length_flatMap, List.map_const',
    List.sum_replicate_nat]
  omega

theorem fits_stereoFormat? {descriptors : List Byte} {position : Nat} {layout : StereoLayout}
    {mode : Mode} (found : stereoFormat? descriptors position layout = some mode) : mode.Fits := by
  obtain ⟨plain, known, rfl⟩ := Option.map_eq_some_iff.mp found
  obtain ⟨descriptor, _, format⟩ := Option.bind_eq_some_iff.mp known
  exact Mode.fits_inLayout (fits_shortDescriptorFormat? format) layout

theorem allFit_modes (video : HdmiVideo) (descriptors : List Byte) {listed : List Mode}
    (fit : AllFit listed) : AllFit (video.modes descriptors listed) := by
  have mandatory : AllFit (if video.stereo then mandatoryStereoModes listed else []) := by
    split
    · exact allFit_mandatoryStereoModes fit
    · exact allFit_nil
  have coded : AllFit (video.codes.filterMap hdmiFormat?) :=
    allFit_filterMap fun _ _ => fits_hdmiFormat?
  have grouped : AllFit (video.positions.flatMap fun position =>
      video.layouts.filterMap fun layout => stereoFormat? descriptors position layout) :=
    allFit_flatMap fun _ => allFit_filterMap fun _ _ => fits_stereoFormat?
  refine allFit_append (allFit_append (allFit_append mandatory coded) grouped) ?_
  exact allFit_filterMap fun _ _ => fits_stereoFormat?

theorem checkedStereoFormat?_eq (descriptors : List Byte) (position : Nat)
    (layout : StereoLayout) :
    checkedStereoFormat? descriptors position layout =
      .ok (stereoFormat? descriptors position layout) := by
  rw [checkedStereoFormat?, stereoFormat?]
  cases descriptors[position]? with
  | none => rfl
  | some descriptor => exact ok_step (checkedShortDescriptorFormat?_eq descriptor) (pure_eq _)

theorem checkedModes_eq {video : HdmiVideo} (small : video.Small) (descriptors : List Byte)
    {listed : List Mode} (fit : AllFit listed) (few : listed.length < 0x1000000) :
    video.checkedModes descriptors listed =
      .ok (video.modes descriptors listed, (video.modes descriptors listed).length) := by
  have mandatory : (if video.stereo then checkedMandatoryStereoModes listed else pure []) =
      .ok (if video.stereo then mandatoryStereoModes listed else []) := by
    split
    · exact checkedMandatoryStereoModes_eq fit
    · rfl
  have short : (if video.stereo then mandatoryStereoModes listed else []).length <
      0x8000000 := by
    split
    · exact Nat.lt_of_le_of_lt (length_mandatoryStereoModes_le listed) (by omega)
    · decide
  have limited := length_options_le small descriptors
  rw [← filterMap_options, List.length_append]
  refine ok_step mandatory (below_bind (by omega) ?_)
  refine ok_step (mapM_ok fun code _ => checkedHdmiFormat?_eq code) ?_
  refine ok_step (flatMapM_ok fun position _ => mapM_ok fun layout _ =>
    checkedStereoFormat?_eq descriptors position layout) ?_
  refine ok_step (mapM_ok fun entry _ => checkedStereoFormat?_eq descriptors entry.1 entry.2) ?_
  refine Eq.trans (checkedAdd_all (video.options descriptors) (by dsimp only; omega)) ?_
  rw [Nat.zero_add]

end HdmiVideo

end Modes

end Edid
