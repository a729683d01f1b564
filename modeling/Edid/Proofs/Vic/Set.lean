import Edid.Vic.Set

/-!
# Sets of codes and their members

A set holds the codes that were put into it and no others, and lists them in ascending order.
-/

set_option autoImplicit false

namespace Edid.VicSet

@[simp] theorem contains_empty (code : Vic) : empty.contains code = false :=
  BitVec.getLsbD_zero

theorem contains_insert_iff {set : VicSet} {code inserted : Vic} :
    (set.insert inserted).contains code = true ↔ set.contains code = true ∨ code = inserted := by
  have small : inserted.toNat < 256 := inserted.toNat_lt
  rw [contains, insert, BitVec.getLsbD_or, BitVec.getLsbD_twoPow, Bool.or_eq_true_iff,
    decide_eq_true small, Bool.true_and, decide_eq_true_iff, UInt8.toNat_inj, eq_comm (a := inserted)]
  rfl

theorem contains_insertAll_iff {set : VicSet} {codes : List Vic} {code : Vic} :
    (set.insertAll codes).contains code = true ↔ set.contains code = true ∨ code ∈ codes := by
  induction codes generalizing set with
  | nil => simp [insertAll]
  | cons first rest ih =>
      change ((set.insert first).insertAll rest).contains code = true ↔ _
      rw [ih, contains_insert_iff, List.mem_cons, or_assoc]

theorem contains_insertAll_empty_iff {codes : List Vic} {code : Vic} :
    (empty.insertAll codes).contains code = true ↔ code ∈ codes := by
  rw [contains_insertAll_iff, contains_empty]
  simp only [Bool.false_eq_true, false_or]

theorem isEmpty_iff {set : VicSet} : set.isEmpty = true ↔ ∀ code, set.contains code = false := by
  rw [isEmpty, beq_iff_eq]
  constructor
  · intro none code
    rw [contains, none]
    exact BitVec.getLsbD_zero
  · intro none
    apply BitVec.eq_of_getLsbD_eq
    intro position small
    have code := none (UInt8.ofNat position)
    rw [contains, UInt8.toNat_ofNat', Nat.mod_eq_of_lt small] at code
    rw [code]
    exact BitVec.getLsbD_zero.symm

theorem isEmpty_insertAll_empty {codes : List Vic} :
    (empty.insertAll codes).isEmpty = codes.isEmpty := by
  rw [Bool.eq_iff_iff, isEmpty_iff, List.isEmpty_iff, List.eq_nil_iff_forall_not_mem]
  refine forall_congr' fun code => ?_
  rw [← Bool.not_eq_true, contains_insertAll_empty_iff]

/-- A set is determined by what it contains. -/
theorem eq_of_contains {left right : VicSet}
    (same : ∀ code, left.contains code = right.contains code) : left = right := by
  have members : left.members = right.members := by
    apply BitVec.eq_of_getLsbD_eq
    intro position small
    have code := same (UInt8.ofNat position)
    rwa [contains, contains, UInt8.toNat_ofNat', Nat.mod_eq_of_lt small] at code
  cases left
  cases right
  exact congrArg mk members

theorem insertAll_empty_eq_iff {left right : List Vic} :
    empty.insertAll left = empty.insertAll right ↔ ∀ code, code ∈ left ↔ code ∈ right := by
  constructor
  · intro same code
    rw [← contains_insertAll_empty_iff, same, contains_insertAll_empty_iff]
  · intro same
    refine eq_of_contains fun code => ?_
    rw [Bool.eq_iff_iff, contains_insertAll_empty_iff, contains_insertAll_empty_iff, same]

section Members

theorem mem_toList_iff {set : VicSet} {code : Vic} :
    code ∈ set.toList ↔ set.contains code = true := by
  rw [toList, List.mem_filter]
  refine and_iff_right (List.mem_map.mpr ⟨code.toNat, ?_, UInt8.ofNat_toNat⟩)
  exact List.mem_range.mpr code.toNat_lt

theorem pairwise_toList (set : VicSet) : set.toList.Pairwise (· < ·) := by
  refine List.Pairwise.filter _ (List.pairwise_map.mpr ?_)
  refine List.pairwise_lt_range.imp_of_mem fun {left right} _ small before => ?_
  have bound := List.mem_range.mp small
  rwa [UInt8.lt_iff_toNat_lt, UInt8.toNat_ofNat', UInt8.toNat_ofNat', Nat.mod_eq_of_lt bound,
    Nat.mod_eq_of_lt (Nat.lt_trans before bound)]

theorem count_toList (set : VicSet) (code : Vic) :
    set.toList.count code = if set.contains code then 1 else 0 := by
  have once : set.toList.Nodup := set.pairwise_toList.imp UInt8.ne_of_lt
  rw [once.count]
  simp only [mem_toList_iff]

end Members

end Edid.VicSet
