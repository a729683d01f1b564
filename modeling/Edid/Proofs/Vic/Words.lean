import Edid.Proofs.Machine.Arithmetic
import Edid.Proofs.Vic.Set

/-!
# Sets of codes in machine words

A machine has no word with a bit for each code, and keeps a set in four words of 64 bits. Every
operation on the words gives what the set gives, or the words of the set that it gives.
-/

set_option autoImplicit false

namespace Edid.VicSet

open Machine

/-- Four words of 64 bits, the lowest codes in the first one. -/
abbrev Words := Vector (BitVec 64) 4

/-- The words that hold a set. -/
def words (set : VicSet) : Words :=
  Vector.ofFn fun index => set.members.extractLsb' (64 * index.val) 64

namespace Words

/-- Sets the bit of a code in the word that has it. -/
def checkedInsert (words : Words) (code : Vic) : Checked Words := do
  let word ← read words.toList (code.toNat / 64)
  let bit ← bitOf 64 (code.toNat % 64)
  return words.setIfInBounds (code.toNat / 64) (word ||| BitVec.ofNat 64 bit)

def checkedContains (words : Words) (code : Vic) : Checked Bool := do
  let word ← read words.toList (code.toNat / 64)
  let bit ← bitOf 64 (code.toNat % 64)
  return word &&& BitVec.ofNat 64 bit != 0

def isEmpty (words : Words) : Bool :=
  words.all (· == 0)

/-- Asks for every code, in ascending order. -/
def checkedToList (words : Words) : Checked (List Vic) :=
  ((List.range 256).map UInt8.ofNat).filterMapM fun code => do
    return if ← words.checkedContains code then some code else none

end Words

section Places

/-! The bit of a code is at its remainder in the word at its quotient. -/

theorem word_lt (code : Vic) : code.toNat / 64 < 4 :=
  Nat.div_lt_of_lt_mul code.toNat_lt

theorem bit_lt (code : Vic) : code.toNat % 64 < 64 :=
  Nat.mod_lt _ (by decide)

variable (set : VicSet)

theorem getLsbD_words {index position : Nat} (inside : index < 4) (small : position < 64) :
    set.words[index].getLsbD position = set.members.getLsbD (64 * index + position) := by
  rw [words, Vector.getElem_ofFn, BitVec.getLsbD_extractLsb', decide_eq_true small, Bool.true_and]

theorem getLsbD_words_of_code (code : Vic) (inside : code.toNat / 64 < 4) :
    set.words[code.toNat / 64].getLsbD (code.toNat % 64) = set.contains code := by
  rw [getLsbD_words set inside (bit_lt code), Nat.div_add_mod, contains]

theorem getLsbD_words_insert (code : Vic) {index position : Nat} (inside : index < 4)
    (small : position < 64) :
    (set.insert code).words[index].getLsbD position =
      (set.words[index].getLsbD position || decide (code.toNat = 64 * index + position)) := by
  have bounded : code.toNat < 256 := code.toNat_lt
  rw [getLsbD_words _ inside small, getLsbD_words _ inside small, insert, BitVec.getLsbD_or,
    BitVec.getLsbD_twoPow, decide_eq_true bounded, Bool.true_and]

theorem read_words {index : Nat} (inside : index < 4) :
    read set.words.toList index = .ok set.words[index] := by
  have listed : index < set.words.toList.length := by
    rwa [Vector.length_toList]
  rw [read_eq listed, Vector.getElem_toList]

theorem ofNat_two_pow {position : Nat} (small : position < 64) :
    BitVec.ofNat 64 (2 ^ position) = BitVec.twoPow 64 position := by
  rw [← BitVec.toNat_twoPow_of_lt small, BitVec.ofNat_toNat, BitVec.setWidth_eq]

theorem twoPow_ne_zero {position : Nat} (small : position < 64) : BitVec.twoPow 64 position ≠ 0 := by
  intro zero
  have positive := Nat.two_pow_pos position
  rw [← BitVec.toNat_twoPow_of_lt small, zero] at positive
  exact Nat.lt_irrefl 0 positive

end Places

section Operations

variable (set : VicSet)

theorem words_empty : empty.words = Vector.replicate 4 0 := by
  decide

theorem checkedInsert_words (code : Vic) :
    set.words.checkedInsert code = .ok (set.insert code).words := by
  have inside := word_lt code
  have small := bit_lt code
  refine ok_step (set.read_words inside) (bitOf_bind small ?_)
  rw [pure_eq, ofNat_two_pow small]
  congr 1
  apply Vector.ext
  intro index within
  apply BitVec.eq_of_getLsbD_eq
  intro position short
  rw [getLsbD_words_insert set code within short, Vector.getElem_setIfInBounds within]
  -- Only the word of the code is written, and only the bit of the code is new there.
  split
  · next same =>
      subst same
      have place : code.toNat % 64 = position ↔ code.toNat = 64 * (code.toNat / 64) + position := by
        omega
      rw [BitVec.getLsbD_or, BitVec.getLsbD_twoPow, decide_eq_true small, Bool.true_and,
        decide_eq_decide.mpr place]
  · next other =>
      have elsewhere : code.toNat ≠ 64 * index + position := by omega
      rw [decide_eq_false elsewhere, Bool.or_false]

theorem checkedInsertAll_words (codes : List Vic) :
    codes.foldlM Words.checkedInsert set.words = .ok (set.insertAll codes).words := by
  induction codes generalizing set with
  | nil => rfl
  | cons first rest ih =>
      rw [List.foldlM_cons]
      exact ok_step (set.checkedInsert_words first) (ih _)

theorem checkedContains_words (code : Vic) :
    set.words.checkedContains code = .ok (set.contains code) := by
  have inside := word_lt code
  have small := bit_lt code
  refine ok_step (set.read_words inside) (bitOf_bind small ?_)
  rw [pure_eq, ofNat_two_pow small, BitVec.and_twoPow, getLsbD_words_of_code set code inside]
  cases set.contains code with
  | false => rfl
  | true => exact congrArg Except.ok (bne_iff_ne.mpr (twoPow_ne_zero small))

theorem isEmpty_words : set.words.isEmpty = set.isEmpty := by
  rw [Bool.eq_iff_iff, Words.isEmpty, Vector.all_eq_true]
  constructor
  · intro clear
    rw [isEmpty_iff]
    intro code
    have inside := word_lt code
    rw [← getLsbD_words_of_code set code inside, beq_iff_eq.mp (clear _ inside)]
    exact BitVec.getLsbD_zero
  · intro none index inside
    rw [isEmpty, beq_iff_eq] at none
    rw [beq_iff_eq]
    apply BitVec.eq_of_getLsbD_eq
    intro position small
    rw [getLsbD_words set inside small, none]
    exact BitVec.getLsbD_zero.trans BitVec.getLsbD_zero.symm

theorem checkedToList_words : set.words.checkedToList = .ok set.toList := by
  have each (code : Vic) : (do return if ← set.words.checkedContains code then some code else none) =
      (.ok (Option.guard set.contains code) : Checked (Option Vic)) :=
    ok_step (set.checkedContains_words code) rfl
  rw [toList, ← List.filterMap_eq_filter]
  exact filterMapM_ok fun code _ => each code

end Operations

/-- Whatever codes are put into a set, how often and in what order, it contains these and no others, it
is empty exactly if there are none, and it lists each of them once and in ascending order. So two runs
give the same set exactly if they put the same codes into it. The four words of a machine, all zero at
the start, go through the run without a fault and answer every question as the set does. -/
theorem insertAll_holds_inserted (codes : List Vic) :
    (∀ code, (empty.insertAll codes).contains code = true ↔ code ∈ codes) ∧
    ((empty.insertAll codes).isEmpty = true ↔ codes = []) ∧
    (empty.insertAll codes).toList.Pairwise (· < ·) ∧
    (∀ code, (empty.insertAll codes).toList.count code = if code ∈ codes then 1 else 0) ∧
    (∀ others, empty.insertAll others = empty.insertAll codes ↔
      ∀ code, code ∈ others ↔ code ∈ codes) ∧
    ∃ words, codes.foldlM Words.checkedInsert (Vector.replicate 4 0) = .ok words ∧
      (∀ code, words.checkedContains code = .ok ((empty.insertAll codes).contains code)) ∧
      words.isEmpty = (empty.insertAll codes).isEmpty ∧
      words.checkedToList = .ok (empty.insertAll codes).toList := by
  have held : ∀ code, (empty.insertAll codes).contains code = true ↔ code ∈ codes :=
    fun _ => contains_insertAll_empty_iff
  have vacant : (empty.insertAll codes).isEmpty = true ↔ codes = [] := by
    rw [isEmpty_insertAll_empty, List.isEmpty_iff]
  have once : ∀ code, (empty.insertAll codes).toList.count code = if code ∈ codes then 1 else 0 := by
    intro code
    rw [count_toList]
    simp only [held]
  have run : codes.foldlM Words.checkedInsert (Vector.replicate 4 0) =
      .ok (empty.insertAll codes).words := by
    rw [← words_empty]
    exact checkedInsertAll_words empty codes
  exact ⟨held, vacant, pairwise_toList _, once, fun _ => insertAll_empty_eq_iff, _, run,
    checkedContains_words _, isEmpty_words _, checkedToList_words _⟩

/-- The last code of a word and the first one of the next. -/
example : [192, 63, 64, 255, 64].foldlM Words.checkedInsert (Vector.replicate 4 0) =
    .ok #v[0x8000000000000000, 1, 0, 0x8000000000000001] :=
  rfl

end Edid.VicSet
