import Edid.Blob

/-!
# Blobs and their bytes

The bytes of a blob say where it ends, so reading them back gives the blob, whatever follows. A
byte run is read as a blob exactly if it begins with the bytes of that blob, and it begins with
those of some blob exactly if it is as long as its byte 126 says.
-/

set_option autoImplicit false

namespace Edid

theorem splitFront?_append {α : Type} {count : Nat} (front : Vector α count) (rest : List α) :
    splitFront? count (front.toList ++ rest) = some (front, rest) := by
  have enough : count ≤ (front.toList ++ rest).length := by simp
  rw [splitFront?, dif_pos enough]
  have length : front.toList.length = count := by simp
  simp only [List.take_left' length, List.drop_left' length]
  rfl

namespace Block

/-! ## Blocks at the front of a byte run -/

theorem takeFirst?_append (block : Block) (rest : List Byte) :
    takeFirst? (block.toList ++ rest) = some (block, rest) :=
  splitFront?_append block rest

theorem takeFirst?_eq_none_iff {bytes : List Byte} :
    takeFirst? bytes = none ↔ bytes.length < 128 := by
  rw [takeFirst?, splitFront?]
  split <;> simp <;> omega

theorem takeFirst?_eq_some_iff {bytes rest : List Byte} {block : Block} :
    takeFirst? bytes = some (block, rest) ↔ bytes = block.toList ++ rest := by
  constructor
  · intro taken
    by_cases enough : 128 ≤ bytes.length
    · rw [takeFirst?, splitFront?, dif_pos enough] at taken
      cases taken
      exact (List.take_append_drop 128 bytes).symm
    · cases (takeFirst?_eq_none_iff.mpr (Nat.lt_of_not_le enough)).symm.trans taken
  · rintro rfl
    exact takeFirst?_append block rest

theorem exists_eq_append {bytes : List Byte} (enough : 128 ≤ bytes.length) :
    ∃ (block : Block) (rest : List Byte), bytes = block.toList ++ rest := by
  cases taken : takeFirst? bytes with
  | none => exact absurd (takeFirst?_eq_none_iff.mp taken) (Nat.not_lt_of_le enough)
  | some pair => exact ⟨pair.1, pair.2, takeFirst?_eq_some_iff.mp taken⟩

theorem takeMany?_append (blocks : List Block) (rest : List Byte) :
    takeMany? blocks.length (blocks.flatMap Vector.toList ++ rest) = some blocks := by
  induction blocks with
  | nil => rfl
  | cons block blocks ih =>
      simp [takeMany?, takeFirst?_append, ih]

theorem takeMany?_eq_none_iff {count : Nat} {bytes : List Byte} :
    takeMany? count bytes = none ↔ bytes.length < 128 * count := by
  induction count generalizing bytes with
  | zero => simp [takeMany?]
  | succ count ih =>
      rw [takeMany?]
      cases first : takeFirst? bytes with
      | none =>
          have short := takeFirst?_eq_none_iff.mp first
          simp only [true_iff]
          omega
      | some pair =>
          obtain ⟨block, rest⟩ := pair
          have parts := takeFirst?_eq_some_iff.mp first
          simp only [Option.map_eq_none_iff, ih, parts, List.length_append, Vector.length_toList]
          omega

theorem prefix_of_takeMany? {count : Nat} {bytes : List Byte} {blocks : List Block}
    (taken : takeMany? count bytes = some blocks) : blocks.flatMap Vector.toList <+: bytes := by
  induction count generalizing bytes blocks with
  | zero =>
      cases taken
      exact List.nil_prefix
  | succ count ih =>
      rw [takeMany?] at taken
      cases first : takeFirst? bytes with
      | none => simp [first] at taken
      | some pair =>
          obtain ⟨block, rest⟩ := pair
          simp only [first, Option.map_eq_some_iff] at taken
          obtain ⟨others, found, rfl⟩ := taken
          rw [takeFirst?_eq_some_iff.mp first, List.flatMap_cons]
          exact (List.prefix_append_right_inj _).mpr (ih found)

/-! ## Bytes of the first block -/

theorem getD_toList_append (block : Block) (rest : List Byte) (position : Fin 128) :
    (block.toList ++ rest).getD position.val 0 = block.byte position := by
  have inside : position.val < block.toList.length := by simp
  rw [List.getD_eq_getElem?_getD, List.getElem?_append_left inside,
    List.getElem?_eq_getElem inside, Vector.getElem_toList]
  rfl

theorem getD_toList (block : Block) (position : Fin 128) :
    block.toList.getD position.val 0 = block.byte position := by
  simpa using block.getD_toList_append [] position

end Block

namespace Blob

/-! ## Reading a blob -/

/-- Reading the bytes of a blob gives it back, and ignores what lies behind them. -/
theorem ofBytes_toBytes_append (blob : Blob) (rest : List Byte) :
    ofBytes (blob.toBytes ++ rest) = .ok blob := by
  have first : Block.takeFirst? (blob.toBytes ++ rest) =
      some (blob.base, blob.extensions.flatMap Vector.toList ++ rest) := by
    rw [toBytes, blocks, List.flatMap_cons, List.append_assoc, Block.takeFirst?_append]
  have many : Block.takeMany? blob.base.extensionCount
      (blob.extensions.flatMap Vector.toList ++ rest) = some blob.extensions := by
    rw [← blob.count_eq, Block.takeMany?_append]
  rw [ofBytes, first]
  simp only
  split
  · next none => simp [many] at none
  · next extensions some =>
      cases many.symm.trans some
      rfl

theorem ofBytes_toBytes (blob : Blob) : ofBytes blob.toBytes = .ok blob := by
  simpa using ofBytes_toBytes_append blob []

/-- The bytes are those of the blob, and maybe more behind them. -/
theorem ofBytes_eq_ok_iff {bytes : List Byte} {blob : Blob} :
    ofBytes bytes = .ok blob ↔ blob.toBytes <+: bytes := by
  constructor
  · intro read
    rw [ofBytes] at read
    cases first : Block.takeFirst? bytes with
    | none => simp [first] at read
    | some pair =>
        obtain ⟨base, rest⟩ := pair
        simp only [first] at read
        split at read
        · cases read
        · next extensions taken =>
            cases read
            rw [Block.takeFirst?_eq_some_iff.mp first, toBytes, blocks, List.flatMap_cons]
            exact (List.prefix_append_right_inj _).mpr (Block.prefix_of_takeMany? taken)
  · rintro ⟨rest, rfl⟩
    exact ofBytes_toBytes_append blob rest

/-! ## Where a blob ends -/

/-- How many bytes a blob takes that begins with these, a base block and the extensions that its
byte 126 announces. -/
def announcedLength (bytes : List Byte) : Nat :=
  128 * (1 + (bytes.getD 126 0).toNat)

theorem announcedLength_append (base : Block) (rest : List Byte) :
    announcedLength (base.toList ++ rest) = 128 * (1 + base.extensionCount) := by
  have count : (base.toList ++ rest).getD 126 0 = base.byte 126 := base.getD_toList_append rest 126
  rw [announcedLength, count, Block.extensionCount]

theorem length_toBytes (blob : Blob) :
    blob.toBytes.length = 128 * (1 + blob.base.extensionCount) := by
  have each : ∀ block ∈ blob.blocks, block.toList.length = 128 := by simp
  rw [toBytes, List.length_flatMap, List.map_congr_left each, List.map_const',
    List.sum_replicate_nat, ← blob.count_eq, blocks, List.length_cons]
  omega

theorem ofBytes_of_short {bytes : List Byte} (short : bytes.length < 128) :
    ofBytes bytes = .error (.truncated 128 bytes.length) := by
  rw [ofBytes, Block.takeFirst?_eq_none_iff.mpr short]

theorem ofBytes_of_cut {base : Block} {rest : List Byte}
    (cut : rest.length < 128 * base.extensionCount) :
    ofBytes (base.toList ++ rest) =
      .error (.truncated (128 * (1 + base.extensionCount)) (base.toList ++ rest).length) := by
  have none := Block.takeMany?_eq_none_iff.mpr cut
  rw [ofBytes, Block.takeFirst?_append]
  simp only
  split
  · rfl
  · next taken => cases none.symm.trans taken

theorem exists_ofBytes {base : Block} {rest : List Byte}
    (whole : 128 * base.extensionCount ≤ rest.length) :
    ∃ blob, ofBytes (base.toList ++ rest) = .ok blob ∧ blob.base = base := by
  rw [ofBytes, Block.takeFirst?_append]
  simp only
  split
  · next none => exact absurd (Block.takeMany?_eq_none_iff.mp none) (Nat.not_lt_of_le whole)
  · exact ⟨_, rfl, rfl⟩

/-- Only the announced bytes are looked at. -/
theorem ofBytes_congr {bytes other : List Byte} (whole : announcedLength bytes ≤ bytes.length)
    (same : other.take (announcedLength bytes) = bytes.take (announcedLength bytes)) :
    ofBytes other = ofBytes bytes := by
  have enough : 128 ≤ bytes.length := by
    rw [announcedLength] at whole
    omega
  obtain ⟨base, rest, rfl⟩ := Block.exists_eq_append enough
  have behind : 128 * base.extensionCount ≤ rest.length := by
    rw [announcedLength_append, List.length_append, Vector.length_toList] at whole
    omega
  obtain ⟨blob, read, rfl⟩ := exists_ofBytes behind
  rw [announcedLength_append, ← length_toBytes] at same
  have front := List.prefix_iff_eq_take.mp (ofBytes_eq_ok_iff.mp read)
  rw [read, ofBytes_eq_ok_iff, front, ← same]
  exact List.take_prefix _ _

end Blob

end Edid
