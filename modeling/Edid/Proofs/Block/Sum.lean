import Edid.Block

/-!
# Sums of blocks

A block passes its checksum exactly if its bytes sum to zero, and a new extension count leaves
the sum as it was.
-/

set_option autoImplicit false

namespace Edid

theorem byteSum_append (left right : List Byte) :
    byteSum (left ++ right) = byteSum left + byteSum right := by
  induction left with
  | nil => simp [byteSum]
  | cons byte rest ih =>
      simp only [List.cons_append, byteSum, ih]
      exact (UInt8.add_assoc byte (byteSum rest) (byteSum right)).symm

/-- The order of the bytes does not matter. -/
theorem byteSum_perm {left right : List Byte} (same : left.Perm right) :
    byteSum left = byteSum right := by
  induction same with
  | nil => rfl
  | cons byte _ ih => rw [byteSum, byteSum, ih]
  | swap first second rest =>
      simp only [byteSum]
      grind
  | trans _ _ first second => exact first.trans second

/-- A byte that is replaced changes the sum by what it changes itself. -/
theorem byteSum_set (bytes : List Byte) (position : Nat) (value : Byte)
    (inside : position < bytes.length) :
    byteSum (bytes.set position value) = byteSum bytes + (value - bytes[position]) := by
  induction bytes generalizing position with
  | nil => simp at inside
  | cons byte rest ih =>
      cases position with
      | zero =>
          simp only [List.set_cons_zero, byteSum, List.getElem_cons_zero]
          grind
      | succ position =>
          have shorter : position < rest.length := by simpa using inside
          simp only [List.set_cons_succ, byteSum, List.getElem_cons_succ, ih position shorter]
          grind

namespace Block

theorem sum_eq_take_add (block : Block) :
    block.sum = byteSum (block.toList.take 127) + block.byte 127 := by
  have last : block.toList.drop 127 = [block.byte 127] := by
    rw [List.drop_eq_getElem_cons (by simp), List.drop_of_length_le (by simp),
      Vector.getElem_toList]
    rfl
  have parts := byteSum_append (block.toList.take 127) (block.toList.drop 127)
  rw [List.take_append_drop, last] at parts
  simpa [sum, byteSum] using parts

/-- The last byte is the right checksum exactly if the block sums to zero. -/
theorem checksum_eq_iff {block : Block} : block.checksum = block.byte 127 ↔ block.sum = 0 := by
  rw [sum_eq_take_add, checksum]
  constructor <;> intro equal <;> grind

/-! ## A new extension count -/

theorem toList_withExtensionCount (block : Block) (count : Byte) :
    (block.withExtensionCount count).toList =
      (block.toList.set 127 (block.byte 127 + (block.byte 126 - count))).set 126 count := by
  rw [withExtensionCount, Vector.toList_set, Vector.toList_set]

@[simp] theorem byte_withExtensionCount_126 (block : Block) (count : Byte) :
    (block.withExtensionCount count).byte 126 = count :=
  Vector.getElem_set_self _

@[simp] theorem byte_withExtensionCount_127 (block : Block) (count : Byte) :
    (block.withExtensionCount count).byte 127 =
      block.byte 127 + (block.byte 126 - count) :=
  (Vector.getElem_set_ne _ _ (by decide)).trans (Vector.getElem_set_self _)

/-- The bytes before the last two stay what they were. -/
theorem getElem_withExtensionCount (block : Block) (count : Byte) {position : Nat}
    (before : position < 126) :
    (block.withExtensionCount count)[position] = block[position] := by
  simp only [withExtensionCount]
  rw [Vector.getElem_set_ne _ _ (by omega), Vector.getElem_set_ne _ _ (by omega)]

@[simp] theorem sum_withExtensionCount (block : Block) (count : Byte) :
    (block.withExtensionCount count).sum = block.sum := by
  rw [sum, sum, toList_withExtensionCount, byteSum_set _ _ _ (by simp),
    byteSum_set _ _ _ (by simp)]
  simp only [List.getElem_set_ne (show 127 ≠ 126 by decide), Vector.getElem_toList]
  change block.sum + (block.byte 127 + (block.byte 126 - count) - block.byte 127) +
    (count - block.byte 126) = block.sum
  grind

theorem ext_of_front {left right : Block}
    (front : ∀ position, (before : position < 126) → left[position] = right[position])
    (count : left.byte 126 = right.byte 126) (last : left.byte 127 = right.byte 127) :
    left = right := by
  apply Vector.ext
  intro position inside
  rcases Nat.lt_or_ge position 126 with before | behind
  · exact front position before
  · have atEnd : position = 126 ∨ position = 127 := by omega
    rcases atEnd with rfl | rfl
    · exact count
    · exact last

theorem withExtensionCount_self (block : Block) :
    block.withExtensionCount (block.byte 126) = block := by
  refine ext_of_front (fun _ before => getElem_withExtensionCount _ _ before)
    (byte_withExtensionCount_126 _ _) ?_
  rw [byte_withExtensionCount_127]
  grind

/-- Of two new counts only the second remains. -/
@[simp] theorem withExtensionCount_withExtensionCount (block : Block) (first second : Byte) :
    (block.withExtensionCount first).withExtensionCount second =
      block.withExtensionCount second := by
  refine ext_of_front (fun _ before => ?_) (by simp) ?_
  · simp only [getElem_withExtensionCount _ _ before]
  · simp only [byte_withExtensionCount_127, byte_withExtensionCount_126]
    grind

end Block

end Edid
