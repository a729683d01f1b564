import Edid.Proofs.Parse

/-!
# Which bytes are refused

The reasons for which bytes are no EDID can be told from the bytes of the base block and the
length alone, in a fixed order: too short for a base block, too short for its extensions, too
little of a header, a wrong sum, a wrong version. Any other bytes are decoded, and only the
announced ones count.
-/

set_option autoImplicit false

namespace Edid

/-- Why a base block of these bytes is refused, if it is. Sum and version are looked at with the
header in place. -/
def baseRefusal? (threshold : Nat) (base : List Byte) : Option Error :=
  let score := (Block.header.toList.zip base).countP fun (expected, found) => expected == found
  let repaired := Block.header.toList ++ base.drop 8
  if score < 8 ∧ score < threshold then
    some (.badBlock 0 (base.all (· == 0)) (.badHeader score))
  else if byteSum repaired ≠ 0 then
    some (.badBlock 0 false (.badChecksum (0 - byteSum (repaired.take 127)) (base.getD 127 0)))
  else if base.getD 18 0 ≠ 1 then
    some (.badBlock 0 false (.badVersion (base.getD 18 0)))
  else
    none

/-- Why bytes are refused, if they are. -/
def refusal? (threshold : Nat) (bytes : List Byte) : Option Error :=
  if bytes.length < 128 then
    some (.truncated 128 bytes.length)
  else if bytes.length < Blob.announcedLength bytes then
    some (.truncated (Blob.announcedLength bytes) bytes.length)
  else
    baseRefusal? threshold (bytes.take 128)

/-! ## The base block -/

namespace Block

theorem allZero_validateBody_withHeader (block : Block) (repaired : Bool) :
    (block.withHeader.validateBody repaired).allZero = false := by
  rw [Validation.allZero, validateBody, isAllZero_of_headerScore (headerScore_withHeader block),
    Bool.and_false]

theorem toExcept_validateBase (threshold : Nat) (block : Block) :
    (block.validateBase (.ofScore threshold)).toExcept 0 =
      match baseRefusal? threshold block.toList with
      | some error => .error error
      | none => .ok block.withHeader := by
  have score : (header.toList.zip block.toList).countP
      (fun (expected, found) => expected == found) = block.headerScore := rfl
  have zeros : block.toList.all (· == 0) = block.isAllZero := Vector.all_toList ..
  have version : block.toList.getD 18 0 = block.withHeader.byte 18 :=
    (block.getD_toList 18).trans (block.byte_withHeader (by decide)).symm
  have found : block.toList.getD 127 0 = block.withHeader.byte 127 :=
    (block.getD_toList 127).trans (block.byte_withHeader (by decide)).symm
  simp only [baseRefusal?, score, zeros, version, found, ← toList_withHeader]
  by_cases few : block.headerScore < 8 ∧ block.headerScore < threshold
  · have below : block.headerScore < (RepairPolicy.ofScore threshold).threshold :=
      Nat.lt_min.mpr few.symm
    rw [if_pos few, validateBase_of_lt below]
    rfl
  · have enough : (RepairPolicy.ofScore threshold).threshold ≤ block.headerScore := by
      have atMost := block.headerScore_le
      change min threshold 8 ≤ block.headerScore
      omega
    -- The header in place makes the tag zero, so no checksum is forgiven.
    have tag := tag_of_headerScore (headerScore_withHeader block)
    rw [if_neg few, validateBase_of_le enough, Validation.toExcept,
      allZero_validateBody_withHeader]
    simp only [validateBody, defect?_of_tag tag, Block.sum, checksum]
    by_cases sum : byteSum block.withHeader.toList = 0
    · by_cases version : block.withHeader.byte 18 = 1 <;> simp [sum, version]
    · simp [sum]

end Block

/-! ## The whole -/

theorem refusal?_append (threshold : Nat) (base : Block) (rest : List Byte) :
    refusal? threshold (base.toList ++ rest) =
      if rest.length < 128 * base.extensionCount then
        some (.truncated (128 * (1 + base.extensionCount)) (base.toList ++ rest).length)
      else
        baseRefusal? threshold base.toList := by
  have length : (base.toList ++ rest).length = 128 + rest.length := by simp
  have front : (base.toList ++ rest).take 128 = base.toList := List.take_left' (by simp)
  rw [refusal?, Blob.announcedLength_append, front, length, if_neg (by omega)]
  by_cases cut : rest.length < 128 * base.extensionCount
  · rw [if_pos cut, if_pos (by omega)]
  · rw [if_neg cut, if_neg (by omega)]

theorem parse_error_iff {threshold : Nat} {bytes : List Byte} {error : Error} :
    parse (.ofScore threshold) bytes = .error error ↔ refusal? threshold bytes = some error := by
  by_cases short : bytes.length < 128
  · simp [parse, refusal?, short, Blob.ofBytes_of_short short, Except.bind]
  · obtain ⟨base, rest, rfl⟩ := Block.exists_eq_append (Nat.le_of_not_lt short)
    rw [refusal?_append, parse]
    by_cases cut : rest.length < 128 * base.extensionCount
    · simp [cut, Blob.ofBytes_of_cut cut, Except.bind]
    · obtain ⟨blob, read, rfl⟩ := Blob.exists_ofBytes (Nat.le_of_not_lt cut)
      rw [if_neg cut, read, Except.bind, parseBlob_error_iff, Block.toExcept_validateBase]
      cases baseRefusal? threshold blob.base.toList <;> simp

theorem exists_parse_iff {threshold : Nat} {bytes : List Byte} :
    (∃ display, parse (.ofScore threshold) bytes = .ok display) ↔
      refusal? threshold bytes = none := by
  constructor
  · rintro ⟨display, parsed⟩
    cases refused : refusal? threshold bytes with
    | none => rfl
    | some error => cases parsed.symm.trans (parse_error_iff.mpr refused)
  · intro unrefused
    cases parsed : parse (.ofScore threshold) bytes with
    | ok display => exact ⟨display, rfl⟩
    | error error => cases unrefused.symm.trans (parse_error_iff.mp parsed)

/-- Bytes that are not refused are as long as they announce. -/
theorem announcedLength_le_of_refusal? {threshold : Nat} {bytes : List Byte}
    (unrefused : refusal? threshold bytes = none) :
    128 ≤ bytes.length ∧ Blob.announcedLength bytes ≤ bytes.length := by
  by_cases short : bytes.length < 128
  · simp [refusal?, short] at unrefused
  · by_cases cut : bytes.length < Blob.announcedLength bytes
    · simp [refusal?, short, cut] at unrefused
    · omega

/-- Bytes are refused exactly for the first reason that `refusal?` finds, and decoded if it finds
none. What stands in the extensions can then make no difference to that, and what stands behind
them makes no difference at all. -/
theorem parse_refuses_iff (threshold : Nat) (bytes : List Byte) :
    (∀ error, parse (.ofScore threshold) bytes = .error error ↔
      refusal? threshold bytes = some error) ∧
    ((∃ display, parse (.ofScore threshold) bytes = .ok display) ↔
      refusal? threshold bytes = none) ∧
    (refusal? threshold bytes = none →
      (∀ behind : List Byte, Blob.announcedLength bytes ≤ 128 + behind.length →
        ∃ display, parse (.ofScore threshold) (bytes.take 128 ++ behind) = .ok display) ∧
      ∀ other : List Byte,
        other.take (Blob.announcedLength bytes) = bytes.take (Blob.announcedLength bytes) →
        parse (.ofScore threshold) other = parse (.ofScore threshold) bytes) := by
  refine ⟨fun error => parse_error_iff, exists_parse_iff, fun unrefused => ⟨?_, ?_⟩⟩
  · intro behind enough
    obtain ⟨base, rest, rfl⟩ :=
      Block.exists_eq_append (announcedLength_le_of_refusal? unrefused).1
    have front : (base.toList ++ rest).take 128 = base.toList := List.take_left' (by simp)
    rw [Blob.announcedLength_append] at enough
    rw [refusal?_append] at unrefused
    rw [front, exists_parse_iff, refusal?_append, if_neg (by omega)]
    split at unrefused
    · cases unrefused
    · exact unrefused
  · intro other same
    have whole := (announcedLength_le_of_refusal? unrefused).2
    rw [parse, parse, Blob.ofBytes_congr whole same]

/-- The worn blob lacks one byte of its header: it is refused if all must be there, and else
decoded, whatever bytes follow. -/
theorem parse_refuses_iff_worn :
    parse (.ofScore 8) worn.toBytes = .error (.badBlock 0 false (.badHeader 7)) ∧
      parse (.ofScore 7) (worn.toBytes ++ [0]) = parse (.ofScore 7) worn.toBytes := by
  have length : Blob.announcedLength worn.toBytes = worn.toBytes.length := by decide +kernel
  refine ⟨((parse_refuses_iff 8 worn.toBytes).1 _).mpr (by decide +kernel), ?_⟩
  refine ((parse_refuses_iff 7 worn.toBytes).2.2 (by decide +kernel)).2 _ ?_
  rw [length, List.take_left, List.take_length]

end Edid
