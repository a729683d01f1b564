import Edid.Cta.DataBlock

/-!
# CTA-861 data blocks and their bytes

Data blocks that are stored one behind the other are read back in order, and every byte run consists
of the data blocks that are read from it and a rest without any.
-/

set_option autoImplicit false

namespace Edid.Cta.DataBlock

/-- Data blocks one behind the other. -/
def stored (blocks : List DataBlock) : List Byte :=
  blocks.flatMap DataBlock.bytes

theorem toNat_header (block : DataBlock) :
    block.header.toNat = 32 * block.tag.val + block.length := by
  have tag := block.tag.isLt
  have length := block.payload_le
  rw [header, UInt8.toNat_ofNat', DataBlock.length]
  omega

theorem readAll_bytes_append (block : DataBlock) (rest : List Byte) :
    readAll (block.bytes ++ rest) = block :: readAll rest := by
  have small : block.length ≤ 31 := block.payload_le
  have tag : block.header.toNat / 32 = block.tag.val := by
    rw [toNat_header]
    omega
  have length : block.header.toNat % 32 = block.payload.length := by
    rw [toNat_header, ← DataBlock.length]
    omega
  have enough : ¬ (block.payload ++ rest).length < block.payload.length := by
    rw [List.length_append]
    omega
  rw [bytes, List.cons_append, readAll]
  simp only [length, tag, if_neg enough, List.take_left, List.drop_left]

/-- Stored data blocks are read back, and reading goes on behind them. -/
theorem readAll_stored_append (blocks : List DataBlock) (rest : List Byte) :
    readAll (stored blocks ++ rest) = blocks ++ readAll rest := by
  induction blocks with
  | nil => rfl
  | cons block blocks ih =>
      rw [stored, List.flatMap_cons, List.append_assoc, readAll_bytes_append]
      exact congrArg (block :: ·) ih

/-- The last one is read back up to the very end. -/
theorem readAll_stored (blocks : List DataBlock) : readAll (stored blocks) = blocks := by
  have read := readAll_stored_append blocks []
  rwa [List.append_nil, readAll, List.append_nil] at read

theorem bytes_of_header {header : Byte} {rest : List Byte}
    (enough : ¬ rest.length < header.toNat % 32) :
    (DataBlock.mk ⟨header.toNat / 32, headerTag_lt header⟩ (rest.take (header.toNat % 32))
      (length_headerPayload_le header rest)).bytes = header :: rest.take (header.toNat % 32) := by
  have length : (rest.take (header.toNat % 32)).length = header.toNat % 32 := by
    rw [List.length_take]
    exact Nat.min_eq_left (Nat.le_of_not_lt enough)
  rw [bytes, DataBlock.header, DataBlock.length, length, Nat.div_add_mod, UInt8.ofNat_toNat]

/-- Every run consists of the data blocks that are read from it and a rest without any. -/
theorem exists_rest (bytes : List Byte) :
    ∃ rest, bytes = stored (readAll bytes) ++ rest ∧ readAll rest = [] := by
  induction bytes using readAll.induct with
  | case1 => exact ⟨[], by rw [readAll]; rfl, by rw [readAll]⟩
  | case2 header rest length short =>
      have none : readAll (header :: rest) = [] := by rw [readAll, if_pos short]
      exact ⟨header :: rest, by rw [none]; rfl, none⟩
  | case3 header rest length enough ih =>
      obtain ⟨left, split, none⟩ := ih
      refine ⟨left, ?_, none⟩
      rw [readAll, if_neg enough, stored, List.flatMap_cons, List.append_assoc,
        bytes_of_header enough, List.cons_append, ← stored, ← split, List.take_append_drop]

theorem stored_perm {blocks others : List DataBlock} (perm : blocks.Perm others) :
    (stored blocks).Perm (stored others) :=
  perm.flatMap_right _

end Edid.Cta.DataBlock
