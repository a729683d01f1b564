import Edid.Proofs.Blob.Bytes
import Edid.Proofs.Blob.Kept
import Edid.Proofs.Machine.Arithmetic
import Edid.Workaround

/-!
# Blobs in machine words

Where the blocks of a blob end and where the parts of a block begin is computed from bytes that
nobody has looked at before.
-/

set_option autoImplicit false

namespace Edid

open Machine

namespace Block

section Runs

/-- A run of bytes copied to a block, which takes 128 of them. -/
def checkedCopy (run : List Byte) : Checked Block :=
  if whole : run.length = 128 then .ok ⟨run.toArray, by simp [whole]⟩ else .error .outside

/-- The runs of 128 bytes at the front of a byte run. -/
def runs : Nat → List Byte → List (List Byte)
  | 0, _ => []
  | count + 1, bytes => bytes.take 128 :: runs count (bytes.drop 128)

theorem exists_takeFirst? {bytes : List Byte} (enough : 128 ≤ bytes.length) :
    ∃ block, takeFirst? bytes = some (block, bytes.drop 128) ∧
      checkedCopy (bytes.take 128) = .ok block ∧ block.toList = bytes.take 128 := by
  have whole : (bytes.take 128).length = 128 := List.length_take_of_le enough
  refine ⟨⟨(bytes.take 128).toArray, by rw [List.size_toArray, whole]⟩, ?_, ?_, rfl⟩
  · rw [takeFirst?, splitFront?, dif_pos enough]
  · rw [checkedCopy, dif_pos whole]

theorem exists_takeMany? {count : Nat} {bytes : List Byte} (enough : 128 * count ≤ bytes.length) :
    ∃ blocks, takeMany? count bytes = some blocks ∧
      (runs count (bytes.take (128 * count))).mapM checkedCopy = .ok blocks := by
  induction count generalizing bytes with
  | zero => exact ⟨[], rfl, rfl⟩
  | succ count ih =>
      have front : 128 ≤ bytes.length := by omega
      obtain ⟨block, first, copied, _⟩ := exists_takeFirst? front
      have rest : 128 * count ≤ (bytes.drop 128).length := by
        rw [List.length_drop]
        omega
      obtain ⟨blocks, many, others⟩ := ih rest
      have front : (bytes.take (128 * (count + 1))).take 128 = bytes.take 128 := by
        rw [List.take_take, Nat.min_eq_left (by omega)]
      have behind : (bytes.take (128 * (count + 1))).drop 128 =
          (bytes.drop 128).take (128 * count) := by
        rw [List.drop_take, Nat.mul_succ, Nat.add_sub_cancel]
      refine ⟨block :: blocks, ?_, ?_⟩
      · simp only [takeMany?, first, many, Option.map_some]
      · rw [runs, front, behind, List.mapM_cons, copied, others]
        rfl

end Runs

section Slots

def checkedByte (block : Block) (position : Nat) : Checked Byte :=
  read block.toList position

def checkedDescriptorAt? (block : Block) (offset : Nat) : Checked (Option Descriptor) := do
  let _ ← size (offset + 18)
  return block.descriptorAt? offset

def checkedBaseSlots : Checked (List Nat) :=
  (List.range 4).mapM fun slot => do size (54 + (← size (18 * slot)))

def checkedExtensionSlots (block : Block) : Checked (List Nat) := do
  if block.tag = ctaTag then
    let start := (block.byte 2).toNat
    if 4 ≤ start ∧ start ≤ 127 then
      let room ← minus 127 start
      (List.range (room / 18)).mapM fun slot => do size (start + (← size (18 * slot)))
    else
      return []
  else if block.tag = timingBlockTag ∧ block.byte 1 = 1 then
    (List.range (min (block.byte 2).toNat 6)).mapM fun slot => do size (5 + (← size (18 * slot)))
  else
    return []

theorem checkedByte_eq (block : Block) {position : Nat} (inside : position < 128) :
    block.checkedByte position = .ok block[position] := by
  rw [checkedByte, read_eq (by simpa using inside), Vector.getElem_toList]

theorem checkedDescriptorAt?_eq (block : Block) {offset : Nat} (small : offset < 0x1000) :
    block.checkedDescriptorAt? offset = .ok (block.descriptorAt? offset) :=
  below_bind (by omega) (pure_eq _)

theorem checkedBaseSlots_eq : checkedBaseSlots = .ok baseSlots := by
  refine mapM_ok fun slot member => ?_
  have few := List.mem_range.mp member
  exact below_bind (by omega) (below_eq (by omega))

theorem lt_of_mem_baseSlots {slot : Nat} (member : slot ∈ baseSlots) : slot < 0x1000 := by
  obtain ⟨position, few, rfl⟩ := List.mem_map.mp member
  have := List.mem_range.mp few
  omega

theorem checkedExtensionSlots_eq (block : Block) :
    block.checkedExtensionSlots = .ok block.extensionSlots := by
  have start := (block.byte 2).toNat_lt
  rw [checkedExtensionSlots, extensionSlots]
  split
  · dsimp only
    split
    · refine minus_bind (by omega) (mapM_ok fun slot member => ?_)
      have few := List.mem_range.mp member
      exact below_bind (by omega) (below_eq (by omega))
    · rfl
  · split
    · refine mapM_ok fun slot member => ?_
      have few := List.mem_range.mp member
      exact below_bind (by omega) (below_eq (by omega))
    · rfl

theorem lt_of_mem_extensionSlots {block : Block} {slot : Nat}
    (member : slot ∈ block.extensionSlots) : slot < 0x1000 := by
  have start := (block.byte 2).toNat_lt
  rw [extensionSlots] at member
  split at member
  · dsimp only at member
    split at member
    · obtain ⟨position, few, rfl⟩ := List.mem_map.mp member
      have := List.mem_range.mp few
      omega
    · contradiction
  · split at member
    · obtain ⟨position, few, rfl⟩ := List.mem_map.mp member
      have := List.mem_range.mp few
      omega
    · contradiction

end Slots

end Block

section Vendor

def checkedVendorCode (identifier : Byte × Byte) : Checked (List Byte) :=
  let packed := Byte.wordBigEndian identifier.1 identifier.2
  [packed / 1024 % 32, packed / 32 % 32, packed % 32].mapM fun letter => do
    return UInt8.ofNat (← u8 (64 + letter))

def checkedVendorName (identifier : Byte × Byte) : Checked String := do
  let letters ← checkedVendorCode identifier
  return String.ofList (letters.map fun letter => Char.ofNat letter.toNat)

theorem checkedVendorCode_eq (identifier : Byte × Byte) :
    checkedVendorCode identifier = .ok (vendorCode identifier) := by
  simp only [checkedVendorCode, vendorCode]
  refine mapM_ok fun letter member => ?_
  have small : letter < 32 := by
    simp only [List.mem_cons, List.not_mem_nil, or_false] at member
    omega
  exact below_bind (by omega) (pure_eq _)

theorem checkedVendorName_eq (identifier : Byte × Byte) :
    checkedVendorName identifier = .ok (vendorName identifier) :=
  ok_step (checkedVendorCode_eq identifier) (pure_eq _)

end Vendor

namespace Blob

section Reading

/-- The blocks at the front of a byte run. -/
def checkedBlocks (bytes : List Byte) : Checked (Except Error (List Block)) := do
  if bytes.length < 128 then
    return .error (.truncated 128 bytes.length)
  else
    let announced ← read bytes 126
    let expected ← size (128 * (← size (1 + announced.toNat)))
    if bytes.length < expected then
      return .error (.truncated expected bytes.length)
    else
      let run ← slice bytes 0 expected
      return .ok (← (Block.runs (expected / 128) run).mapM Block.checkedCopy)

/-- What a byte run that holds a base block is read as. -/
theorem map_ofBytes {bytes rest : List Byte} {base : Block}
    (first : Block.takeFirst? bytes = some (base, rest)) :
    (ofBytes bytes).map blocks =
      match Block.takeMany? base.extensionCount rest with
      | none => .error (.truncated (128 * (1 + base.extensionCount)) bytes.length)
      | some extensions => .ok (base :: extensions) := by
  rw [ofBytes, first]
  dsimp only
  split
  · next none =>
      rw [none]
      rfl
  · next extensions some =>
      split
      · next none => cases some.symm.trans none
      · next others same =>
          cases some.symm.trans same
          rfl

theorem checkedBlocks_eq (bytes : List Byte) :
    checkedBlocks bytes = .ok ((ofBytes bytes).map blocks) := by
  rw [checkedBlocks]
  by_cases short : bytes.length < 128
  · rw [if_pos short, ofBytes_of_short short]
    rfl
  · rw [if_neg short]
    obtain ⟨base, first, _, front⟩ := Block.exists_takeFirst? (Nat.le_of_not_lt short)
    have announced : bytes[126]? = some (base.byte 126) := by
      have same : base.toList[126]? = bytes[126]? := by
        rw [front, List.getElem?_take_of_lt (by decide)]
      rw [← same, List.getElem?_eq_getElem (by simp)]
      rfl
    have few := (base.byte 126).toNat_lt
    rw [map_ofBytes first]
    refine ok_step (read_of_getElem? announced) ?_
    refine below_bind (by omega) (below_bind (by omega) ?_)
    by_cases cut : bytes.length < 128 * (1 + (base.byte 126).toNat)
    · have none : Block.takeMany? base.extensionCount (bytes.drop 128) = none :=
        Block.takeMany?_eq_none_iff.mpr (by rw [List.length_drop, Block.extensionCount]; omega)
      rw [if_pos cut, none]
      rfl
    · obtain ⟨all, many, copied⟩ := Block.exists_takeMany? (Nat.le_of_not_lt cut)
      have whole : Block.takeMany? (1 + (base.byte 126).toNat) bytes =
          (Block.takeMany? base.extensionCount (bytes.drop 128)).map (base :: ·) := by
        rw [Nat.add_comm, Block.takeMany?, first]
        rfl
      obtain ⟨extensions, rest, rfl⟩ := Option.map_eq_some_iff.mp (whole.symm.trans many)
      rw [if_neg cut, rest, Nat.mul_div_cancel_left _ (by decide : 0 < 128)]
      refine ok_step (slice_eq ⟨Nat.zero_le _, Nat.le_of_not_lt cut⟩) ?_
      rw [List.drop_zero, copied]
      rfl

end Reading

section Fields

def checkedIdentity (blob : Blob) : Checked Identity := do
  let manufacturer ← checkedVendorName blob.manufacturerId
  let year ← u16 (1990 + (blob.base.byte 17).toNat)
  return { blob.identity with manufacturer := manufacturer, year := year }

def checkedStandardTimings (blob : Blob) : Checked (List (Byte × Byte)) :=
  (List.finRange 8).mapM fun slot => do
    let offset ← size (38 + (← size (2 * slot.val)))
    return (← blob.base.checkedByte offset, ← blob.base.checkedByte (← size (offset + 1)))

theorem checkedIdentity_eq (blob : Blob) : blob.checkedIdentity = .ok blob.identity := by
  have year := (blob.base.byte 17).toNat_lt
  exact ok_step (checkedVendorName_eq _) (below_bind (by omega) (pure_eq _))

theorem checkedStandardTimings_eq (blob : Blob) :
    blob.checkedStandardTimings = .ok blob.standardTimings := by
  refine mapM_ok fun slot _ => ?_
  have few := slot.isLt
  refine below_bind (by omega) (below_bind (by omega) ?_)
  refine ok_step (blob.base.checkedByte_eq (by omega)) (below_bind (by omega) ?_)
  refine ok_step (blob.base.checkedByte_eq (by omega)) ?_
  have next : 38 + 2 * slot.val + 1 = 39 + 2 * slot.val := by omega
  simp only [next, pure_eq]

end Fields

section Descriptors

def checkedDescriptors (blob : Blob) : Checked (List Descriptor) := do
  let slots ← Block.checkedBaseSlots
  let front ← slots.filterMapM blob.base.checkedDescriptorAt?
  let behind ← blob.extensions.flatMapM fun extension => do
    let slots ← extension.checkedExtensionSlots
    slots.filterMapM extension.checkedDescriptorAt?
  return front ++ behind

def checkedFindExtension? (blob : Blob) (tag : Byte) (start : Nat) :
    Checked (Option (Block × Nat)) := do
  let found? := (blob.extensions.zipIdx.drop start).find? fun (extension, _) => extension.tag == tag
  match found? with
  | none => return none
  | some (extension, position) => return some (extension, ← size (position + 1))

theorem checkedDescriptors_eq (blob : Blob) :
    blob.checkedDescriptors = .ok blob.descriptors := by
  have front : Block.baseSlots.filterMapM blob.base.checkedDescriptorAt? =
      .ok (Block.baseSlots.filterMap blob.base.descriptorAt?) :=
    filterMapM_ok fun _ member =>
      blob.base.checkedDescriptorAt?_eq (Block.lt_of_mem_baseSlots member)
  have behind (extension : Block) :
      (extension.checkedExtensionSlots >>= fun slots =>
        slots.filterMapM extension.checkedDescriptorAt?) =
      .ok (extension.extensionSlots.filterMap extension.descriptorAt?) :=
    ok_step extension.checkedExtensionSlots_eq (filterMapM_ok fun _ member =>
      extension.checkedDescriptorAt?_eq (Block.lt_of_mem_extensionSlots member))
  refine ok_step Block.checkedBaseSlots_eq (ok_step front ?_)
  exact ok_step (flatMapM_ok fun extension _ => behind extension) (pure_eq _)

theorem checkedFindExtension?_eq (blob : Blob) (tag : Byte) (start : Nat) :
    blob.checkedFindExtension? tag start = .ok (blob.findExtension? tag start) := by
  have bounds (extension : Block) (next : Nat)
      (found : blob.findExtension? tag start = some (extension, next)) : next ≤ 255 :=
    Nat.le_trans (findExtension?_bounds found).2 blob.length_extensions_le
  simp only [findExtension?] at bounds ⊢
  unfold checkedFindExtension?
  dsimp only
  cases found : (blob.extensions.zipIdx.drop start).find? fun (extension, _) =>
      extension.tag == tag with
  | none => rfl
  | some candidate =>
      have small := bounds candidate.1 (candidate.2 + 1) (by rw [found]; rfl)
      exact below_bind (by omega) (pure_eq _)

end Descriptors

end Blob

namespace Workarounds

def checkedOfBlob (blob : Blob) : Checked Workarounds := do
  let name ← checkedVendorName blob.manufacturerId
  return match table.find? fun entry => entry.vendor == name && entry.product == blob.product with
    | some entry => entry.workarounds
    | .none => Workarounds.none

theorem checkedOfBlob_eq (blob : Blob) : checkedOfBlob blob = .ok (ofBlob blob) :=
  ok_step (checkedVendorName_eq _) (pure_eq _)

end Workarounds

end Edid
