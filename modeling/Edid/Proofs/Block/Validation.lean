import Edid.Block.Validation
import Edid.Proofs.Block.Sum

/-!
# What validation accepts

A base block is accepted exactly if enough of its header is in place and the block with all of
the header is in order; what is accepted is then that block, and it is accepted again without
damage. An extension is never changed.
-/

set_option autoImplicit false

namespace Edid.Block

/-! ## The header -/

/-- The whole header is in place exactly if the first eight bytes are those of the header. -/
theorem headerScore_eq_eight_iff {block : Block} :
    block.headerScore = 8 ↔
      ∀ (position : Nat) (inHeader : position < 8), block[position] = header[position] := by
  have length : (header.toList.zip block.toList).length = 8 := by simp
  have pairAt (position : Nat) (inHeader : position < 8)
      (inside : position < (header.toList.zip block.toList).length) :
      (header.toList.zip block.toList)[position] = (header[position], block[position]) := by
    rw [List.getElem_zip, Vector.getElem_toList, Vector.getElem_toList]
  have all := List.countP_eq_length (p := fun pair : Byte × Byte => pair.1 == pair.2)
    (l := header.toList.zip block.toList)
  rw [length] at all
  refine all.trans ⟨fun equal position inHeader => ?_, fun same pair member => ?_⟩
  · have found := equal _ (List.getElem_mem (length.symm ▸ inHeader))
    rw [pairAt position inHeader (length.symm ▸ inHeader), beq_iff_eq] at found
    exact found.symm
  · obtain ⟨position, inside, rfl⟩ := List.mem_iff_getElem.mp member
    rw [pairAt position (by omega) inside, beq_iff_eq]
    exact (same position (by omega)).symm

theorem headerScore_le (block : Block) : block.headerScore ≤ 8 := by
  have atMost := List.countP_le_length (p := fun pair : Byte × Byte => pair.1 == pair.2)
    (l := header.toList.zip block.toList)
  simpa [headerScore] using atMost

/-- Only the first eight bytes count. -/
theorem headerScore_congr {left right : Block}
    (same : ∀ (position : Nat) (inHeader : position < 8), left[position] = right[position]) :
    left.headerScore = right.headerScore := by
  have zipped : header.toList.zip left.toList = header.toList.zip right.toList := by
    apply List.ext_getElem (by simp)
    intro position inside _
    have inHeader : position < 8 := by simpa using inside
    simp [List.getElem_zip, same position inHeader]
  rw [headerScore, headerScore, zipped]

theorem getElem_withHeader (block : Block) {position : Nat} (inside : position < 128) :
    block.withHeader[position] =
      if inHeader : position < 8 then header[position] else block[position] := by
  simp [withHeader]

theorem toList_withHeader (block : Block) :
    block.withHeader.toList = header.toList ++ block.toList.drop 8 := by
  apply List.ext_getElem (by simp)
  intro position inside _
  have small : position < 128 := by simpa using inside
  rw [Vector.getElem_toList, getElem_withHeader block small]
  split
  · next inHeader =>
      rw [List.getElem_append_left (by simpa using inHeader), Vector.getElem_toList]
  · next behind =>
      have place : 8 + (position - 8) = position := by omega
      rw [List.getElem_append_right (by simpa using behind), List.getElem_drop]
      simp [place]

@[simp] theorem headerScore_withHeader (block : Block) : block.withHeader.headerScore = 8 := by
  rw [headerScore_eq_eight_iff]
  intro position inHeader
  rw [getElem_withHeader, dif_pos inHeader]

theorem withHeader_of_headerScore {block : Block} (complete : block.headerScore = 8) :
    block.withHeader = block := by
  apply Vector.ext
  intro position inside
  rw [getElem_withHeader]
  split
  · next inHeader => exact (headerScore_eq_eight_iff.mp complete position inHeader).symm
  · rfl

/-- The header marks a block as a base block. -/
theorem tag_of_headerScore {block : Block} (complete : block.headerScore = 8) : block.tag = 0 :=
  headerScore_eq_eight_iff.mp complete 0 (by decide)

/-- The header is not all zeros, so neither is a block that begins with it. -/
theorem isAllZero_of_headerScore {block : Block} (complete : block.headerScore = 8) :
    block.isAllZero = false := by
  have second : block[1] = 0xff := headerScore_eq_eight_iff.mp complete 1 (by decide)
  rw [isAllZero, Bool.eq_false_iff]
  intro zero
  have none := Vector.all_eq_true.mp zero 1 (by decide)
  rw [second] at none
  exact absurd none (by decide)

theorem byte_withHeader (block : Block) {position : Fin 128} (behind : 8 ≤ position.val) :
    block.withHeader.byte position = block.byte position := by
  rw [byte, getElem_withHeader, dif_neg (by omega), byte]

@[simp] theorem headerScore_withExtensionCount (block : Block) (count : Byte) :
    (block.withExtensionCount count).headerScore = block.headerScore :=
  headerScore_congr fun _ inHeader => getElem_withExtensionCount block count (by omega)

@[simp] theorem byte_withExtensionCount_18 (block : Block) (count : Byte) :
    (block.withExtensionCount count).byte 18 = block.byte 18 :=
  getElem_withExtensionCount block count (by decide)

/-- The header and the extension count lie apart. -/
theorem withHeader_withExtensionCount (block : Block) (count : Byte) :
    (block.withExtensionCount count).withHeader = block.withHeader.withExtensionCount count := by
  refine ext_of_front (fun position before => ?_) ?_ ?_
  · rw [getElem_withHeader, getElem_withExtensionCount _ _ before,
      getElem_withExtensionCount _ _ before, getElem_withHeader]
  · rw [byte_withHeader _ (by decide), byte_withExtensionCount_126, byte_withExtensionCount_126]
  · rw [byte_withHeader _ (by decide), byte_withExtensionCount_127, byte_withExtensionCount_127,
      byte_withHeader _ (by decide), byte_withHeader _ (by decide)]

/-! ## Base blocks -/

/-- A base block in order: nothing has to be repaired, forgiven or refused. -/
structure SoundBase (block : Block) : Prop where
  header : block.headerScore = 8
  sum : block.sum = 0
  version : block.byte 18 = 1

theorem defect?_eq_none_of_sum {block : Block} (sum : block.sum = 0)
    (version : block.tag = 0 → block.byte 18 = 1) : block.defect? = none := by
  rw [defect?, if_neg (not_not_intro (checksum_eq_iff.mpr sum)),
    if_neg fun bad => bad.2 (version bad.1)]

/-- A block that begins with zero cannot be forgiven its checksum. -/
theorem defect?_of_tag {block : Block} (base : block.tag = 0) :
    block.defect? =
      if block.sum ≠ 0 then some (.badChecksum block.checksum (block.byte 127))
      else if block.byte 18 ≠ 1 then some (.badVersion (block.byte 18))
      else none := by
  have noCta : ¬ (0 : Byte) = ctaTag := by decide
  simp only [defect?, base, ne_eq, checksum_eq_iff, noCta, if_false, true_and]

theorem defect?_eq_none_iff_of_tag {block : Block} (base : block.tag = 0) :
    block.defect? = none ↔ block.sum = 0 ∧ block.byte 18 = 1 := by
  rw [defect?_of_tag base]
  by_cases sum : block.sum = 0
  · by_cases version : block.byte 18 = 1 <;> simp [sum, version]
  · simp [sum]

theorem SoundBase.validateBase {block : Block} (sound : block.SoundBase) (policy : RepairPolicy) :
    block.validateBase policy = ⟨block, false, false, none⟩ := by
  have right : block.checksum = block.byte 127 := checksum_eq_iff.mpr sound.sum
  have none : block.defect? = Option.none :=
    defect?_eq_none_of_sum sound.sum fun _ => sound.version
  simp [Block.validateBase, sound.header, validateBody, right, none]

theorem SoundBase.withExtensionCount {block : Block} (sound : block.SoundBase) (count : Byte) :
    (block.withExtensionCount count).SoundBase where
  header := by rw [headerScore_withExtensionCount, sound.header]
  sum := by rw [sum_withExtensionCount, sound.sum]
  version := by rw [byte_withExtensionCount_18, sound.version]

/-- With enough of its header in place, a base block is judged with all of it in place. -/
theorem validateBase_of_le {policy : RepairPolicy} {block : Block}
    (enough : policy.threshold ≤ block.headerScore) :
    block.validateBase policy =
      block.withHeader.validateBody (decide (block.headerScore ≠ 8)) := by
  by_cases complete : block.headerScore = 8
  · rw [validateBase, if_pos complete, withHeader_of_headerScore complete,
      decide_eq_false (not_not_intro complete)]
  · rw [validateBase, if_neg complete, if_pos enough, decide_eq_true complete]

theorem validateBase_of_lt {policy : RepairPolicy} {block : Block}
    (few : block.headerScore < policy.threshold) :
    block.validateBase policy = ⟨block, false, false, some (.badHeader block.headerScore)⟩ := by
  have atMost := policy.threshold_le
  rw [validateBase, if_neg (by omega), if_neg (by omega)]

/-- What acceptance asks of a base block, the threshold and the rest. -/
theorem validateBase_ok_iff {policy : RepairPolicy} {block : Block} :
    (block.validateBase policy).ok = true ↔
      policy.threshold ≤ block.headerScore ∧ block.withHeader.SoundBase := by
  rcases Nat.lt_or_ge block.headerScore policy.threshold with few | enough
  · rw [validateBase_of_lt few]
    exact ⟨fun accepted => by simp [Validation.ok] at accepted,
      fun both => absurd both.1 (Nat.not_le_of_lt few)⟩
  · have complete := headerScore_withHeader block
    rw [validateBase_of_le enough, Validation.ok, Option.isNone_iff_eq_none, validateBody,
      defect?_eq_none_iff_of_tag (tag_of_headerScore complete)]
    exact ⟨fun ⟨sum, version⟩ => ⟨enough, complete, sum, version⟩,
      fun ⟨_, sound⟩ => ⟨sound.sum, sound.version⟩⟩

/-- An accepted base block comes out with its header in place. Its checksum was right. -/
theorem validateBase_of_ok {policy : RepairPolicy} {block : Block}
    (accepted : (block.validateBase policy).ok = true) :
    block.validateBase policy =
      ⟨block.withHeader, decide (block.headerScore ≠ 8), false, none⟩ := by
  obtain ⟨enough, sound⟩ := validateBase_ok_iff.mp accepted
  have right : block.withHeader.checksum = block.withHeader.byte 127 :=
    checksum_eq_iff.mpr sound.sum
  have none : block.withHeader.defect? = Option.none :=
    defect?_eq_none_of_sum sound.sum fun _ => sound.version
  simp [validateBase_of_le enough, validateBody, right, none]

theorem validateBase_ok_withExtensionCount {policy : RepairPolicy} {block : Block}
    (count : Byte) (accepted : (block.validateBase policy).ok = true) :
    ((block.withExtensionCount count).validateBase policy).ok = true := by
  obtain ⟨enough, sound⟩ := validateBase_ok_iff.mp accepted
  rw [validateBase_ok_iff, headerScore_withExtensionCount, withHeader_withExtensionCount]
  exact ⟨enough, sound.withExtensionCount count⟩

/-! ## Zeros -/

def blank : Block :=
  Vector.replicate 128 0

theorem isAllZero_iff {block : Block} : block.isAllZero = true ↔ block = blank := by
  constructor
  · intro zero
    apply Vector.ext
    intro position inside
    simpa [blank] using Vector.all_eq_true.mp zero position inside
  · rintro rfl
    exact Vector.all_eq_true.mpr (by simp [blank])

/-- A base block of zeros is refused: with the header in place it does not sum to zero. -/
theorem validateBase_of_isAllZero {policy : RepairPolicy} {block : Block}
    (zero : block.isAllZero = true) : (block.validateBase policy).ok = false := by
  have wrong : blank.withHeader.sum ≠ 0 := by decide +kernel
  rw [isAllZero_iff.mp zero, Bool.eq_false_iff]
  intro accepted
  exact wrong (validateBase_ok_iff.mp accepted).2.sum

/-! ## Outcomes -/

namespace Validation

theorem toExcept_of_not_ok {validation : Validation} (refused : validation.ok = false)
    (index : Nat) :
    ∃ reason, validation.defect = some reason ∧
      validation.toExcept index = .error (.badBlock index validation.allZero reason) := by
  cases found : validation.defect with
  | none => simp [ok, found] at refused
  | some reason => exact ⟨reason, rfl, by simp [toExcept, found]⟩

theorem toExcept_of_ok {validation : Validation} (accepted : validation.ok = true)
    (index : Nat) : validation.toExcept index = .ok validation.block := by
  have none : validation.defect = Option.none := by simpa [ok] using accepted
  simp [toExcept, none]

theorem corrupt_of_not_ok {validation : Validation} (refused : validation.ok = false) :
    validation.corrupt = true := by
  have some : validation.defect.isSome = true := by
    cases found : validation.defect with
    | none => simp [ok, found] at refused
    | some _ => rfl
  simp [corrupt, some]

end Validation

/-! ## Extensions -/

@[simp] theorem validateExtension_block (block : Block) : block.validateExtension.block = block :=
  rfl

@[simp] theorem validateExtension_corrupt_of_ok {block : Block}
    (accepted : block.validateExtension.ok = true) :
    block.validateExtension.corrupt = block.validateExtension.checksumForgiven := by
  have none : block.validateExtension.defect = Option.none := by
    simpa [Validation.ok] using accepted
  rw [Validation.corrupt, none]
  simp [validateExtension, validateBody]

/-- A CTA extension always passes: nothing but its checksum could be wrong, and that is
forgiven. -/
theorem validateExtension_ok_of_ctaTag {block : Block} (cta : block.tag = ctaTag) :
    block.validateExtension.ok = true := by
  have base : ¬ ctaTag = 0 := by decide
  simp [validateExtension, validateBody, Validation.ok, defect?, cta, base]

theorem validateExtension_corrupt_eq_false_iff {block : Block} :
    block.validateExtension.corrupt = false ↔
      block.validateExtension.ok = true ∧ block.sum = 0 := by
  cases accepted : block.validateExtension.ok with
  | false => simp [Validation.corrupt_of_not_ok accepted]
  | true =>
      have passed : block.defect? = none := Option.isNone_iff_eq_none.mp accepted
      rw [validateExtension_corrupt_of_ok accepted, ← checksum_eq_iff]
      simp only [validateExtension, validateBody, Bool.and_eq_false_iff, decide_eq_false_iff_not,
        ne_eq, Decidable.not_not, true_and]
      refine ⟨fun either => either.elim id fun noCta => ?_, .inl⟩
      -- In anything but a CTA extension a wrong checksum would have been a defect.
      by_cases right : block.checksum = block.byte 127
      · exact right
      · simp [defect?, right, noCta] at passed

end Edid.Block
