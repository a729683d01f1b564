import Edid.Blob
import Edid.Proofs.Block.Validation

/-!
# Blobs of what is left

A blob that is put together from an accepted base block and accepted extensions has the right
count and the right sum, and passes validation again.
-/

set_option autoImplicit false

namespace Edid.Blob

/-- Two blobs with the same blocks are equal. -/
theorem ext_blocks {left right : Blob} (base : left.base = right.base)
    (extensions : left.extensions = right.extensions) : left = right := by
  cases left
  cases right
  cases base
  cases extensions
  rfl

theorem ofKept_extensions {base : Block} {extensions : List Block}
    (few : extensions.length ≤ 255) : (ofKept base extensions).extensions = extensions :=
  List.take_of_length_le few

theorem ofKept_base {base : Block} {extensions : List Block} (few : extensions.length ≤ 255) :
    (ofKept base extensions).base =
      base.withExtensionCount (UInt8.ofNat extensions.length) := by
  change base.withExtensionCount (UInt8.ofNat (extensions.take 255).length) = _
  rw [List.take_of_length_le few]

theorem length_extensions_le (blob : Blob) : blob.extensions.length ≤ 255 := by
  have small := (blob.base.byte 126).toNat_lt
  have count := blob.count_eq
  rw [Block.extensionCount] at count
  omega

/-- The count that a blob announces is the byte of its base block. -/
theorem ofNat_length_extensions (blob : Blob) :
    UInt8.ofNat blob.extensions.length = blob.base.byte 126 := by
  rw [blob.count_eq, Block.extensionCount, UInt8.ofNat_toNat]

/-- Nothing is left out of a blob and nothing is rewritten if all of it is kept. -/
theorem ofKept_self (blob : Blob) : ofKept blob.base blob.extensions = blob := by
  apply ext_blocks
  · rw [ofKept_base blob.length_extensions_le, ofNat_length_extensions,
      Block.withExtensionCount_self]
  · exact ofKept_extensions blob.length_extensions_le

/-- A new count in the base block makes no difference, since it is rewritten. -/
@[simp] theorem ofKept_withExtensionCount (base : Block) (count : Byte)
    (extensions : List Block) :
    ofKept (base.withExtensionCount count) extensions = ofKept base extensions := by
  apply ext_blocks
  · exact Block.withExtensionCount_withExtensionCount _ _ _
  · rfl

theorem soundBase_ofKept {base : Block} (sound : base.SoundBase) (extensions : List Block) :
    (ofKept base extensions).base.SoundBase :=
  sound.withExtensionCount _

theorem isValid_ofKept {policy : RepairPolicy} {base : Block} {extensions : List Block}
    (sound : base.SoundBase)
    (accepted : ∀ extension ∈ extensions, extension.validateExtension.ok = true) :
    (ofKept base extensions).isValid policy = true := by
  rw [isValid, (soundBase_ofKept sound extensions).validateBase policy, Bool.and_eq_true]
  refine ⟨rfl, List.all_eq_true.mpr fun extension member => ?_⟩
  exact accepted extension (List.mem_of_mem_take member)

end Edid.Blob
