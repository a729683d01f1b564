import Edid.DisplayId
import Edid.Proofs.Blob.Bytes
import Edid.Proofs.Block.Sum

/-!
# DisplayID sections and their bytes

Data blocks that are stored one behind the other are read back in order. A section is found in
its extension wherever its payload leaves room for both checksums, whatever the rest of the
extension holds.
-/

set_option autoImplicit false

namespace Edid

namespace DisplayId

namespace DataBlock

/-- A data block that can be stored: its length is a byte, and a length of zero would end the
reading. -/
structure Storable (block : DataBlock) : Prop where
  nonempty : block.payload ≠ []
  length_le : block.payload.length ≤ 255

/-- Data blocks one behind the other. -/
def stored (blocks : List DataBlock) : List Byte :=
  blocks.flatMap DataBlock.bytes

theorem readAll_bytes_append {block : DataBlock} (storable : block.Storable) (rest : List Byte) :
    readAll (block.bytes ++ rest) = block :: readAll rest := by
  have length : (UInt8.ofNat block.payload.length).toNat = block.payload.length := by
    have small := storable.length_le
    rw [UInt8.toNat_ofNat']
    omega
  have some : UInt8.ofNat block.payload.length ≠ 0 := by
    intro zero
    rw [zero] at length
    exact storable.nonempty (List.length_eq_zero_iff.mp length.symm)
  have enough : ¬ (UInt8.ofNat block.payload.length = 0 ∨
      (block.payload ++ rest).length < (UInt8.ofNat block.payload.length).toNat) := by
    rw [length, List.length_append]
    rintro (zero | short)
    · exact some zero
    · omega
  rw [bytes, List.cons_append, List.cons_append, List.cons_append, readAll, if_neg enough, length,
    List.take_left, List.drop_left]

/-- Stored data blocks are read back, and reading goes on behind them. -/
theorem readAll_stored_append {blocks : List DataBlock}
    (storable : ∀ block ∈ blocks, block.Storable) (rest : List Byte) :
    readAll (stored blocks ++ rest) = blocks ++ readAll rest := by
  induction blocks with
  | nil => rfl
  | cons block blocks ih =>
      obtain ⟨first, others⟩ := List.forall_mem_cons.mp storable
      rw [stored, List.flatMap_cons, List.append_assoc, readAll_bytes_append first]
      exact congrArg (block :: ·) (ih others)

theorem exists_of_readAll_eq_cons {bytes : List Byte} {block : DataBlock} {after : List DataBlock}
    (read : readAll bytes = block :: after) :
    ∃ rest, bytes = block.bytes ++ rest ∧ block.Storable ∧ readAll rest = after := by
  unfold readAll at read
  split at read
  · next tag revision length rest =>
      split at read
      · contradiction
      · next enough =>
          obtain ⟨some, fits⟩ := not_or.mp enough
          injection read with same later
          subst same
          have size : (rest.take length.toNat).length = length.toNat := by
            rw [List.length_take]
            exact Nat.min_eq_left (Nat.le_of_not_lt fits)
          refine ⟨rest.drop length.toNat, ?_, ⟨?_, ?_⟩, later⟩
          · rw [bytes, size, UInt8.ofNat_toNat, List.cons_append, List.cons_append,
              List.cons_append, List.take_append_drop]
          · intro empty
            apply some
            have zero := congrArg List.length empty
            rw [size] at zero
            exact UInt8.toNat_inj.mp zero
          · rw [size]
            exact Nat.le_of_lt_succ length.toNat_lt
  · contradiction

/-- Data blocks are read only where they are stored. -/
theorem exists_of_readAll_eq_append {bytes : List Byte} {before after : List DataBlock}
    {block : DataBlock} (read : readAll bytes = before ++ block :: after) :
    ∃ rest, bytes = stored before ++ (block.bytes ++ rest) ∧
      (∀ other ∈ before, other.Storable) ∧ block.Storable := by
  induction before generalizing bytes with
  | nil =>
      obtain ⟨rest, split, storable, _⟩ := exists_of_readAll_eq_cons read
      exact ⟨rest, split, List.forall_mem_nil _, storable⟩
  | cons first before ih =>
      obtain ⟨tail, rfl, storable, later⟩ := exists_of_readAll_eq_cons read
      obtain ⟨rest, rfl, others, last⟩ := ih later
      refine ⟨rest, ?_, List.forall_mem_cons.mpr ⟨storable, others⟩, last⟩
      rw [stored, stored, List.flatMap_cons, List.append_assoc]

end DataBlock

/-- The bytes of a section, its checksum included. -/
def sectionBytes (version product count checksum : Byte) (payload : List Byte) : List Byte :=
  version :: UInt8.ofNat payload.length :: product :: count :: (payload ++ [checksum])

/-- The order of the bytes of a payload does not matter to the sum of a section. -/
theorem sectionBytes_perm (version product count checksum : Byte) {payload other : List Byte}
    (perm : payload.Perm other) :
    (sectionBytes version product count checksum payload).Perm
      (sectionBytes version product count checksum other) := by
  rw [sectionBytes, sectionBytes, perm.length_eq]
  exact (((perm.append_right [checksum]).cons count).cons product).cons _ |>.cons version

end DisplayId

namespace Block

open DisplayId

/-- The extension holds a section with that payload. Section and checksum end before the last
byte of the extension, and the bytes of the section sum to zero. What its header says apart from
the length is left open, and so is what follows. -/
structure HoldsSection (extension : Block) (payload : List Byte) : Prop where
  room : payload.length ≤ 121
  split : ∃ version product count checksum rest,
    extension.toList =
        displayIdTag :: (sectionBytes version product count checksum payload ++ rest) ∧
      byteSum (sectionBytes version product count checksum payload) = 0

theorem HoldsSection.tag_eq {extension : Block} {payload : List Byte}
    (holds : extension.HoldsSection payload) : extension.tag = displayIdTag := by
  obtain ⟨_, _, _, _, _, split, _⟩ := holds.split
  rw [tag, ← extension.getD_toList 0, split]
  rfl

/-- A section is found behind its first byte, whatever that is. -/
theorem sectionPayload?_of_split {block : Block} {payload rest : List Byte}
    {first version product count checksum : Byte} (room : payload.length ≤ 121)
    (split : block.toList =
      first :: (sectionBytes version product count checksum payload ++ rest))
    (sum : byteSum (sectionBytes version product count checksum payload) = 0) :
    sectionPayload? block = some payload := by
  have size : (block.byte 2).toNat = payload.length := by
    rw [← block.getD_toList 2, split]
    change (UInt8.ofNat payload.length).toNat = payload.length
    rw [UInt8.toNat_ofNat']
    omega
  have covered : (block.toList.drop 1).take (payload.length + 5) =
      sectionBytes version product count checksum payload := by
    have length : (sectionBytes version product count checksum payload).length =
        payload.length + 5 := by simp [sectionBytes]
    rw [split, List.drop_succ_cons, List.drop_zero, List.take_left' length]
  have content : (block.toList.drop 5).take payload.length = payload := by
    rw [split, sectionBytes]
    simp only [List.cons_append, List.drop_succ_cons, List.drop_zero, List.append_assoc]
    exact List.take_left
  have small : ¬ 121 < payload.length := Nat.not_lt_of_le room
  simp only [sectionPayload?, size]
  rw [if_neg small, covered, if_neg (not_not_intro sum), content]

theorem HoldsSection.sectionPayload?_eq {extension : Block} {payload : List Byte}
    (holds : extension.HoldsSection payload) : sectionPayload? extension = some payload := by
  obtain ⟨_, _, _, _, _, split, sum⟩ := holds.split
  exact sectionPayload?_of_split holds.room split sum

/-- The tag of the extension is not part of its section. -/
theorem HoldsSection.sectionPayload?_of_tail {extension block : Block} {payload : List Byte}
    (holds : extension.HoldsSection payload) (same : block.toList.tail = extension.toList.tail) :
    sectionPayload? block = some payload := by
  obtain ⟨version, product, count, checksum, rest, split, sum⟩ := holds.split
  obtain ⟨first, tail, whole⟩ : ∃ first tail, block.toList = first :: tail :=
    List.exists_cons_of_length_eq_add_one block.length_toList
  rw [whole, split, List.tail_cons, List.tail_cons] at same
  subst same
  exact sectionPayload?_of_split holds.room whole sum

theorem exists_toList_eq (block : Block) :
    ∃ first second third fourth fifth rest,
      block.toList = first :: second :: third :: fourth :: fifth :: rest ∧ rest.length = 123 := by
  have length : block.toList.length = 128 := Vector.length_toList
  obtain ⟨first, tail, split⟩ := List.exists_cons_of_length_eq_add_one length
  rw [split, List.length_cons, Nat.add_right_cancel_iff] at length
  obtain ⟨second, tail, rfl⟩ := List.exists_cons_of_length_eq_add_one length
  rw [List.length_cons, Nat.add_right_cancel_iff] at length
  obtain ⟨third, tail, rfl⟩ := List.exists_cons_of_length_eq_add_one length
  rw [List.length_cons, Nat.add_right_cancel_iff] at length
  obtain ⟨fourth, tail, rfl⟩ := List.exists_cons_of_length_eq_add_one length
  rw [List.length_cons, Nat.add_right_cancel_iff] at length
  obtain ⟨fifth, rest, rfl⟩ := List.exists_cons_of_length_eq_add_one length
  rw [List.length_cons, Nat.add_right_cancel_iff] at length
  exact ⟨first, second, third, fourth, fifth, rest, split, length⟩

/-- A section is read only where it is held. -/
theorem holdsSection_iff {extension : Block} {payload : List Byte} :
    extension.HoldsSection payload ↔
      extension.tag = displayIdTag ∧ sectionPayload? extension = some payload := by
  constructor
  · intro holds
    exact ⟨holds.tag_eq, holds.sectionPayload?_eq⟩
  · rintro ⟨tag, read⟩
    obtain ⟨first, version, size, product, count, rest, split, length⟩ := extension.exists_toList_eq
    have first_eq : extension.tag = first := by
      rw [Block.tag, ← extension.getD_toList 0, split]
      rfl
    have size_eq : extension.byte 2 = size := by
      rw [← extension.getD_toList 2, split]
      rfl
    simp only [sectionPayload?, size_eq, split, List.drop_succ_cons, List.drop_zero] at read
    split at read
    · contradiction
    · next small =>
        split at read
        · contradiction
        · next sum =>
            cases read
            have covered : (rest.take size.toNat).length = size.toNat := by
              rw [List.length_take]
              omega
            obtain ⟨checksum, behind, last⟩ : ∃ checksum behind,
                rest.drop size.toNat = checksum :: behind := by
              apply List.exists_cons_of_length_pos
              rw [List.length_drop]
              omega
            have parts : rest = rest.take size.toNat ++ checksum :: behind := by
              rw [← last, List.take_append_drop]
            have content : rest.take (size.toNat + 1) = rest.take size.toNat ++ [checksum] := by
              rw [List.take_add, last, List.take_succ_cons, List.take_zero]
            refine ⟨by omega, version, product, count, checksum, behind, ?_, ?_⟩
            · rw [split, ← first_eq, tag, sectionBytes, covered, UInt8.ofNat_toNat]
              simp only [List.cons_append, List.append_assoc, List.nil_append, ← parts]
            · rw [sectionBytes, covered, UInt8.ofNat_toNat, ← content]
              exact Decidable.of_not_not sum

/-- Every payload that leaves room for the checksums can be stored. -/
theorem exists_holdsSection {payload : List Byte} (room : payload.length ≤ 121) :
    ∃ extension : Block, extension.HoldsSection payload := by
  let checksum := 0 - (UInt8.ofNat payload.length + byteSum payload)
  let bytes := displayIdTag :: (sectionBytes 0 0 0 checksum payload ++
    List.replicate (122 - payload.length) 0)
  have length : bytes.length = 128 := by
    simp only [bytes, sectionBytes, List.length_cons, List.length_append, List.length_replicate,
      List.length_nil]
    omega
  have sum : byteSum (sectionBytes 0 0 0 checksum payload) = 0 := by
    simp only [sectionBytes, byteSum, byteSum_append, checksum]
    grind
  exact ⟨⟨bytes.toArray, by simpa using length⟩, room, 0, 0, 0, checksum, _, rfl, sum⟩

end Block

end Edid
