import Edid.Proofs.Machine.Stereo

/-!
# What is read from an HDMI block

A data block reads as zero past its end, which would hide a length that is not looked at. Here the
fields of an HDMI block are read by position through any access to bytes. No access is ever made
past the end: whatever stands there, and even if it is an error to look, the fields are the same.
-/

set_option autoImplicit false

namespace Edid

open Machine

namespace HdmiVideo

/-! ## Reading by position -/

section Access

-- Positions count from the header, the length counts what is behind it.
variable (byteAt : Nat → Checked Byte) (length : Nat)

/-- The codes from an offset on, up to the first that is not in the block. -/
def readCodes (offset count : Nat) : Checked (List Byte) :=
  mapWhileM (fun index => do
    if length < 9 + offset + index then
      return none
    else
      return some (← byteAt (9 + offset + index)))
    (List.range' 0 count)

/-- The layout of an entry. Its details are looked at for structure 8 only. -/
def readLayout? (entry : Byte) (position : Nat) : Checked (Option (Nat × StereoLayout)) := do
  if entry.low = 0 then
    return some (entry.high, .framePacking)
  else if entry.low = 6 then
    return some (entry.high, .topAndBottom)
  else if entry.low = 8 then
    let detail ← byteAt position
    return if detail.high = 1 then some (entry.high, .sideBySideHalf) else none
  else
    return none

/-- The entry at an index, and the index of the next. -/
def readStep? (offset count index : Nat) :
    Checked (Option (Option (Nat × StereoLayout) × Nat)) := do
  if count ≤ index then
    return none
  else
    let entry ← byteAt (8 + offset + index)
    if 7 < entry.low ∧ index + 1 = count then
      return none
    else
      let layout? ← readLayout? byteAt entry (9 + offset + index)
      return some (layout?, index + if 7 < entry.low then 2 else 1)

theorem advances_readStep? (offset count : Nat) :
    Advances count (readStep? byteAt offset count) := by
  intro index next item found
  rw [readStep?] at found
  split at found
  · cases found
  · obtain ⟨entry, _, found⟩ := ok_of_bind found
    split at found
    · cases found
    · obtain ⟨_, _, found⟩ := ok_of_bind found
      cases found
      split <;> omega

/-- The layouts and positions for groups of formats. -/
def readGroup (video : HdmiVideo) (multi offset : Nat) : Checked HdmiVideo := do
  if multi = 1 then
    let high ← byteAt (8 + offset)
    let low ← byteAt (9 + offset)
    return { video with
      layouts := layoutsOf (Byte.wordBigEndian high low)
      positions := positionsOf 0xffff }
  else if multi = 2 then
    let high ← byteAt (8 + offset)
    let low ← byteAt (9 + offset)
    let maskHigh ← byteAt (10 + offset)
    let maskLow ← byteAt (11 + offset)
    return { video with
      layouts := layoutsOf (Byte.wordBigEndian high low)
      positions := positionsOf (Byte.wordBigEndian maskHigh maskLow) }
  else
    return video

def readStereoPart (video : HdmiVideo) (multi offset size : Nat) : Checked HdmiVideo := do
  if length + 1 < 8 + offset + size ∨ size < groupLength multi then
    return video
  else
    let grouped ← readGroup byteAt video multi offset
    let offset := offset + groupLength multi
    let count := size - groupLength multi
    let steps ←
      walk count (readStep? byteAt offset count) (advances_readStep? byteAt offset count) 0
    return { grouped with entries := steps.filterMap id }

/-- The video fields behind so many bytes of latencies. -/
def readFieldsAt (skipped : Nat) : Checked HdmiVideo := do
  if length < 8 + skipped + 2 then
    return {}
  else
    let flags ← byteAt (9 + skipped)
    let lengths ← byteAt (10 + skipped)
    let codes ← readCodes byteAt length (skipped + 2) (lengths.toNat / 32)
    readStereoPart byteAt length { stereo := flags.bit 7, codes := codes }
      (if flags.bit 7 then flags.toNat / 32 % 4 else 0) (skipped + 2 + (1 + lengths.toNat / 32))
      (lengths.toNat % 32)

/-- What an HDMI block says about video. -/
def readVideo : Checked HdmiVideo := do
  if length < 8 then
    return {}
  else
    let presence ← byteAt 8
    if presence.bit 5 then readFieldsAt byteAt length (latencyLength presence) else return {}

end Access

/-! ## Bytes of the block are enough -/

section Inside

variable {block : Cta.DataBlock} {byteAt : Nat → Checked Byte}

/-- The access gives the bytes of a block; nothing is said about what is behind them. -/
def Gives (byteAt : Nat → Checked Byte) (block : Cta.DataBlock) : Prop :=
  ∀ position ≤ block.length, byteAt position = .ok (block.byte position)

theorem readCodes_eq (gives : Gives byteAt block) {offset count : Nat} (near : offset ≤ 0x800)
    (few : count ≤ 0x800) :
    readCodes byteAt block.length offset count = checkedCodes block offset count := by
  rw [checkedCodes_eq block (by omega) (by omega)]
  have each : ∀ index ∈ List.range' 0 count,
      (do
        if block.length < 9 + offset + index then
          return none
        else
          return some (← byteAt (9 + offset + index)) : Checked (Option Byte)) =
        .ok (block.payload.drop (8 + offset))[index]? := by
    intro index _
    have next : 9 + offset + index = 8 + offset + index + 1 := by omega
    rw [List.getElem?_drop, block.getElem?_payload, next]
    split
    · rfl
    · next inside => exact ok_step (gives _ (Nat.le_of_not_lt inside)) (pure_eq _)
  refine (mapWhileM_ok each).trans ?_
  rw [mapWhile_range', List.drop_zero]

theorem readLayout?_eq (gives : Gives byteAt block) {entry : Byte} {position : Nat}
    (inside : entry.low = 8 → position ≤ block.length) :
    readLayout? byteAt entry position = .ok (layoutOf? entry (block.byte position)) := by
  rw [readLayout?, layoutOf?]
  by_cases packed : entry.low = 0
  · rw [if_pos packed, if_pos packed, pure_eq]
  · by_cases stacked : entry.low = 6
    · rw [if_neg packed, if_neg packed, if_pos stacked, if_pos stacked, pure_eq]
    · rw [if_neg packed, if_neg packed, if_neg stacked, if_neg stacked]
      by_cases beside : entry.low = 8
      · rw [if_pos beside]
        refine ok_step (gives position (inside beside)) ?_
        simp only [beside, true_and, pure_eq]
      · rw [if_neg beside, if_neg fun both => beside both.1, pure_eq]

/-- A detail byte that would be behind the last entry is not looked at. -/
theorem readStep?_eq (gives : Gives byteAt block) {offset count : Nat} (near : offset ≤ 0x800)
    (few : count ≤ 0x800) (inside : 7 + offset + count ≤ block.length) (index : Nat) :
    readStep? byteAt offset count index = checkedNext? block offset count index := by
  by_cases behind : count ≤ index
  · rw [readStep?, checkedNext?, if_pos behind, if_pos behind]
  · have before : index < count := Nat.lt_of_not_le behind
    rw [checkedNext?_of_lt block (by omega) (by omega) before, readStep?, if_neg behind]
    refine ok_step (gives _ (by omega)) ?_
    split
    · rfl
    · next complete =>
        have detailed : (block.byte (8 + offset + index)).low = 8 →
            9 + offset + index ≤ block.length := by
          intro eight
          omega
        exact ok_step (readLayout?_eq gives detailed) (pure_eq _)

theorem readGroup_eq (gives : Gives byteAt block) (video : HdmiVideo) {multi offset : Nat}
    (near : offset ≤ 0x800) (inside : 7 + offset + groupLength multi ≤ block.length) :
    readGroup byteAt video multi offset = checkedGroup video block multi offset := by
  rw [readGroup]
  split
  · next all =>
      subst all
      rw [groupLength] at inside
      rw [checkedGroup_all video block near, positionsOf_all]
      exact ok_step (gives _ (by omega)) (ok_step (gives _ (by omega)) (pure_eq _))
  · split
    · next masked =>
        subst masked
        rw [groupLength] at inside
        rw [checkedGroup_masked video block near]
        refine ok_step (gives _ (by omega)) (ok_step (gives _ (by omega)) ?_)
        exact ok_step (gives _ (by omega)) (ok_step (gives _ (by omega)) (pure_eq _))
    · next notAll notMasked =>
        rw [checkedGroup]
        · exact notAll
        · exact notMasked

/-- Both walks see the same entries, since their steps are the same. -/
theorem walk_readStep?_eq (gives : Gives byteAt block) {offset count : Nat} (near : offset ≤ 0x800)
    (few : count ≤ 0x800) (inside : 7 + offset + count ≤ block.length) :
    (do
      let steps ←
        walk count (readStep? byteAt offset count) (advances_readStep? byteAt offset count) 0
      return steps.filterMap id : Checked (List (Nat × StereoLayout))) =
      checkedEntries block offset count := by
  have same : readStep? byteAt offset count = checkedNext? block offset count :=
    funext (readStep?_eq gives near few inside)
  simp only [checkedEntries, same]

theorem readStereoPart_eq (gives : Gives byteAt block) (video : HdmiVideo) {multi offset size : Nat}
    (near : offset ≤ 0x400) (few : size ≤ 0x400) :
    readStereoPart byteAt block.length video multi offset size =
      checkedStereoPart video block multi offset size := by
  have short : block.length ≤ 31 := block.payload_le
  have group := groupLength_le multi
  symm
  refine below_bind (by omega) (below_bind (by omega) (below_bind (by omega) ?_))
  rw [readStereoPart]
  split
  · rfl
  · next whole =>
      have inside : 7 + offset + groupLength multi ≤ block.length := by omega
      rw [readGroup_eq gives video (by omega) inside]
      refine bind_congr fun grouped => ?_
      refine below_bind (by omega) (minus_bind (by omega) ?_)
      rw [← walk_readStep?_eq gives (by omega) (by omega) (by omega)]
      simp only [bind_assoc, pure_bind]

theorem readFieldsAt_eq (gives : Gives byteAt block) {skipped : Nat} (near : skipped ≤ 4) :
    readFieldsAt byteAt block.length skipped = checkedFields block skipped := by
  symm
  refine below_bind (by omega) (below_bind (by omega) ?_)
  rw [readFieldsAt]
  split
  · rfl
  · have flagsAt : 8 + (skipped + 1) = 9 + skipped := by omega
    have lengthsAt : 8 + (skipped + 1 + 1) = 10 + skipped := by omega
    have lengths := (block.byte (10 + skipped)).toNat_lt
    rw [gives (9 + skipped) (by omega), gives (10 + skipped) (by omega), ok_bind, ok_bind,
      readCodes_eq gives (by omega) (by omega)]
    refine below_bind (by omega) (below_bind (by omega) (below_bind (by omega) ?_))
    refine below_bind (by omega) ?_
    dsimp only
    rw [flagsAt, lengthsAt]
    refine bind_congr fun codes => ?_
    refine below_bind (by omega) (below_bind (by omega) ?_)
    exact (readStereoPart_eq gives _ (by omega) (by omega)).symm

theorem readVideo_eq (gives : Gives byteAt block) :
    readVideo byteAt block.length = .ok (ofBlock block) := by
  rw [← checkedOfBlock_eq, readVideo, checkedOfBlock]
  split
  · rfl
  · rw [gives 8 (by omega), ok_bind]
    split
    · rw [checkedLatencyLength_eq, ok_bind]
      exact readFieldsAt_eq gives (latencyLength_le _)
    · rfl

theorem gives_read (block : Cta.DataBlock) : Gives (read block.bytes) block := by
  intro position inside
  have stored : position < block.bytes.length := Nat.lt_succ_of_le inside
  rw [read_eq stored, Cta.DataBlock.byte, List.getD_eq_getElem?_getD,
    List.getElem?_eq_getElem stored, Option.getD_some]

theorem gives_getD (block : Cta.DataBlock) (fill : Byte) :
    Gives (fun position => .ok (block.bytes.getD position fill)) block := by
  intro position inside
  have stored : position < block.bytes.length := Nat.lt_succ_of_le inside
  have found : block.bytes.getD position fill = block.byte position := by
    rw [Cta.DataBlock.byte, List.getD_eq_getElem?_getD, List.getD_eq_getElem?_getD,
      List.getElem?_eq_getElem stored, Option.getD_some, Option.getD_some]
  exact congrArg Except.ok found

end Inside

/-! ## The end of the entries -/

/-- From a position on, the walk ends after so many steps, be it in a fault. -/
inductive StopsIn {α : Type} (next? : Nat → Checked (Option (α × Nat))) : Nat → Nat → Prop where
  | fault {position : Nat} {fault : Fault} : next? position = .error fault → StopsIn next? position 0
  | done {position : Nat} : next? position = .ok none → StopsIn next? position 0
  | step {position next steps : Nat} {item : α} :
      next? position = .ok (some (item, next)) → StopsIn next? next steps →
        StopsIn next? position (steps + 1)

theorem exists_stopsIn {α : Type} {stop : Nat} {next? : Nat → Checked (Option (α × Nat))}
    (advances : Advances stop next?) (position : Nat) :
    ∃ steps ≤ stop - position, StopsIn next? position steps := by
  induction left : stop - position using Nat.strongRecOn generalizing position with
  | ind left ih =>
      cases found : next? position with
      | error fault => exact ⟨0, Nat.zero_le _, .fault found⟩
      | ok result =>
          cases result with
          | none => exact ⟨0, Nat.zero_le _, .done found⟩
          | some pair =>
              obtain ⟨item, next⟩ := pair
              obtain ⟨onward, kept⟩ := advances found
              obtain ⟨steps, few, stops⟩ := ih (stop - next) (by omega) next rfl
              exact ⟨steps + 1, by omega, .step found stops⟩

/-! ## Modes -/

/-- The modes of an HDMI block that is read by position. -/
def readModes (byteAt : Nat → Checked Byte) (length : Nat) (descriptors : List Byte)
    (listed : List Mode) : Checked (List Mode) := do
  return (← readVideo byteAt length).modes descriptors listed

theorem readModes_eq {block : Cta.DataBlock} {byteAt : Nat → Checked Byte}
    (gives : Gives byteAt block) (descriptors : List Byte) (listed : List Mode) :
    readModes byteAt block.length descriptors listed =
      .ok ((ofBlock block).modes descriptors listed) :=
  ok_step (readVideo_eq gives) (pure_eq _)

/-- Whatever an HDMI block holds, its modes can be read without a look past its end, and are the
same for every value that such a look would give. The walk over the entries ends for every access,
after no more steps than there are bytes for entries. -/
theorem readModes_inside (block : Cta.DataBlock) (descriptors : List Byte) (listed : List Mode) :
    readModes (read block.bytes) block.length descriptors listed =
        .ok ((ofBlock block).modes descriptors listed) ∧
      (∀ fill, readModes (fun position => .ok (block.bytes.getD position fill)) block.length
          descriptors listed = .ok ((ofBlock block).modes descriptors listed)) ∧
      ∀ byteAt offset count, ∃ steps ≤ count, StopsIn (readStep? byteAt offset count) 0 steps :=
  ⟨readModes_eq (gives_read block) descriptors listed,
    fun fill => readModes_eq (gives_getD block fill) descriptors listed,
    fun byteAt offset count => exists_stopsIn (advances_readStep? byteAt offset count) 0⟩

end HdmiVideo

end Edid
