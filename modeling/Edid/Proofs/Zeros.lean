import Edid.Proofs.Refusal
import Edid.Proofs.Retrieval.Mark

/-!
# Blocks of zeros

Zeros are what a read brings where nothing is attached, and errors tell such a block from a damaged
one. No block of zeros ever passes. But two of its bytes are those of a header, and where two are enough
the others are put in before the block is looked at: then it is refused for its sum, as one that is not
zero, by validation, by parsing and by reading alike. An error that does tell of zeros is always right.
-/

set_option autoImplicit false

namespace Edid

/-- The error tells of a block of zeros. -/
def Error.allZero : Error → Bool
  | .badBlock _ allZero _ => allZero
  | .range .. | .unsupportedExtension .. | .fetch .. | .truncated .. | .hex _ => false

/-- The error for a base block of zeros. Two of its bytes are those of a header, and with a whole header
it needs the checksum 6. -/
def blankError (policy : RepairPolicy) : Error :=
  if 2 < policy.threshold then .badBlock 0 true (.badHeader 2)
  else .badBlock 0 false (.badChecksum 6 0)

/-! ## Validation -/

namespace Block

theorem headerScore_blank : blank.headerScore = 2 := by
  decide

theorem allZero_validateBase (policy : RepairPolicy) (block : Block) :
    (block.validateBase policy).allZero = (block.isAllZero && decide (2 < policy.threshold)) := by
  have score (zero : block.isAllZero = true) : block.headerScore = 2 := by
    rw [isAllZero_iff.mp zero, headerScore_blank]
  rcases Nat.lt_or_ge block.headerScore policy.threshold with few | enough
  · rw [validateBase_of_lt few]
    cases zero : block.isAllZero with
    | false => simp [Validation.allZero, zero]
    | true =>
        rw [score zero] at few
        simp [Validation.allZero, zero, few]
  · rw [validateBase_of_le enough, allZero_validateBody_withHeader]
    cases zero : block.isAllZero with
    | false => rfl
    | true =>
        rw [score zero] at enough
        simp [Nat.not_lt_of_le enough]

theorem validateExtension_of_isAllZero {block : Block} (zero : block.isAllZero = true) :
    block.validateExtension.ok = false := by
  rw [isAllZero_iff.mp zero]
  decide +kernel

theorem allZero_validateExtension (block : Block) :
    block.validateExtension.allZero = block.isAllZero := by
  cases zero : block.isAllZero with
  | false => simp [Validation.allZero, zero]
  | true =>
      obtain ⟨reason, defect, _⟩ :=
        Validation.toExcept_of_not_ok (validateExtension_of_isAllZero zero) 0
      simp [Validation.allZero, defect, zero]

/-- What the error for a refused base block tells of it. -/
theorem allZero_of_toExcept {policy : RepairPolicy} {block : Block} {error : Error}
    (refused : (block.validateBase policy).toExcept 0 = .error error) :
    error.allZero = true ↔ block.isAllZero = true ∧ 2 < policy.threshold := by
  have told : error.allZero = (block.validateBase policy).allZero := by
    rw [Validation.toExcept] at refused
    split at refused
    · contradiction
    · cases refused
      rfl
  rw [told, allZero_validateBase, Bool.and_eq_true, decide_eq_true_eq]

theorem toExcept_validateBase_blank (policy : RepairPolicy) :
    (blank.validateBase policy).toExcept 0 = .error (blankError policy) := by
  rw [blankError]
  split
  · next few =>
      have zero : blank.isAllZero = true := isAllZero_iff.mpr rfl
      rw [validateBase_of_lt (headerScore_blank.symm ▸ few), headerScore_blank]
      simp [Validation.toExcept, Validation.allZero, zero]
  · next enough =>
      have defect (repaired : Bool) :
          (blank.withHeader.validateBody repaired).defect = some (.badChecksum 6 0) := by
        decide +kernel +revert
      rw [validateBase_of_le (headerScore_blank.symm ▸ Nat.le_of_not_lt enough), Validation.toExcept,
        defect, allZero_validateBody_withHeader]

end Block

/-! ## Parsing -/

/-- Bytes that are no EDID end too early or begin with a base block that does not pass. -/
theorem truncated_or_refused_of_parse {policy : RepairPolicy} {bytes : List Byte} {error : Error}
    (failed : parse policy bytes = .error error) :
    (∃ expected actual, error = .truncated expected actual) ∨
      ∃ (base : Block) (rest : List Byte), bytes = base.toList ++ rest ∧
        (base.validateBase policy).toExcept 0 = .error error := by
  rw [parse] at failed
  by_cases short : bytes.length < 128
  · rw [Blob.ofBytes_of_short short] at failed
    cases failed
    exact .inl ⟨_, _, rfl⟩
  · obtain ⟨base, rest, rfl⟩ := Block.exists_eq_append (Nat.le_of_not_lt short)
    by_cases cut : rest.length < 128 * base.extensionCount
    · rw [Blob.ofBytes_of_cut cut] at failed
      cases failed
      exact .inl ⟨_, _, rfl⟩
    · obtain ⟨blob, read, rfl⟩ := Blob.exists_ofBytes (Nat.le_of_not_lt cut)
      rw [read] at failed
      exact .inr ⟨_, rest, rfl, parseBlob_error_iff.mp failed⟩

/-- Zeros announce no extensions, so nothing is missing behind them. -/
theorem parse_of_blank {bytes : List Byte} (zeros : Block.blank.toList <+: bytes)
    (policy : RepairPolicy) : parse policy bytes = .error (blankError policy) := by
  obtain ⟨rest, rfl⟩ := zeros
  have whole : 128 * Block.blank.extensionCount ≤ rest.length := Nat.zero_le _
  obtain ⟨blob, read, base⟩ := Blob.exists_ofBytes whole
  rw [parse, read]
  exact parseBlob_error_iff.mpr (base ▸ Block.toExcept_validateBase_blank policy)

theorem allZero_of_parse {policy : RepairPolicy} {bytes : List Byte} {error : Error}
    (failed : parse policy bytes = .error error) :
    error.allZero = true ↔ Block.blank.toList <+: bytes ∧ 2 < policy.threshold := by
  constructor
  · intro told
    rcases truncated_or_refused_of_parse failed with ⟨_, _, rfl⟩ | ⟨base, rest, rfl, refused⟩
    · cases told
    · obtain ⟨zero, high⟩ := (Block.allZero_of_toExcept refused).mp told
      exact ⟨Block.isAllZero_iff.mp zero ▸ List.prefix_append _ _, high⟩
  · rintro ⟨zeros, high⟩
    cases failed.symm.trans (parse_of_blank zeros policy)
    rw [blankError, if_pos high]
    rfl

/-! ## Reading -/

namespace Retrieval

theorem getLast?_readingsFrom (start : Nat) (visits : List (List Answer)) (answers : List Answer)
    (last : Answer) :
    (readingsFrom start (visits ++ [answers ++ [last]])).getLast? =
      some ⟨start + visits.length, last⟩ := by
  induction visits generalizing start with
  | nil => simp [readingsFrom]
  | cons first visits ih =>
      rw [List.cons_append, readingsFrom, List.getLast?_append, ih, List.length_cons,
        Nat.add_right_comm start 1, Nat.add_assoc start]
      rfl

theorem Extensions.last_of_error {count : Nat} {visits : List (List Answer)} {error : Error}
    (outcome : Extensions count visits (.error error)) (start : Nat) :
    ∃ index, (readingsFrom start visits).getLast? = some ⟨index, .error error⟩ := by
  cases outcome with
  | fault => exact ⟨_, getLast?_readingsFrom start _ _ _⟩

section Outcomes

variable {policy : RepairPolicy} {visits : List (List Answer)}

/-- Where a reading fails and its last read brought a block all the same, that is the base block, and
it is refused. -/
theorem Outcome.refused_of_last {error : Error} {index : Nat} {block : Block}
    (outcome : Outcome policy visits (.error error))
    (last : (readingsFrom 0 visits).getLast? = some ⟨index, .ok block⟩) :
    index = 0 ∧ (block.validateBase policy).toExcept 0 = .error error := by
  -- A fault, of the base block or of an extension, leaves an answer without a block.
  cases outcome with
  | @baseFault refused _ _ _ =>
      have ends := getLast?_readingsFrom 0 [] refused (.error error)
      cases last.symm.trans ends
  | @noDisplay other reason _ defect =>
      have ends := getLast?_readingsFrom 0 [] [] (.ok other)
      cases last.symm.trans ends
      exact ⟨rfl, by rw [Block.Validation.toExcept, defect]⟩
  | @badBase refused other reason _ _ defect =>
      have ends := getLast?_readingsFrom 0 [] refused (.ok other)
      cases last.symm.trans ends
      exact ⟨rfl, by rw [Block.Validation.toExcept, defect]⟩
  | extensionFault _ _ _ extensions =>
      obtain ⟨place, ends⟩ := extensions.last_of_error 1
      rw [readingsFrom, List.getLast?_append, ends] at last
      cases last

/-- A reading that ends with a read of the base block fails unless that block passes. -/
theorem Outcome.ok_of_last {blob : Blob} {block : Block} (outcome : Outcome policy visits (.ok blob))
    (last : (readingsFrom 0 visits).getLast? = some ⟨0, .ok block⟩) :
    (block.validateBase policy).ok = true := by
  cases outcome with
  | @complete refused base extensions _ _ _ accepted _ _ =>
      rw [readingsFrom, List.getLast?_append] at last
      cases final : (readingsFrom 1 extensions).getLast? with
      | none =>
          rw [final] at last
          have ends : some (⟨0, .ok base⟩ : Reading) = some ⟨0, .ok block⟩ := by simpa using last
          cases ends
          exact accepted
      | some reading =>
          rw [final] at last
          cases last
          obtain ⟨offset, _, place, _⟩ := mem_readingsFrom_iff.mp (List.mem_of_getLast? final)
          omega

end Outcomes

section Sessions

variable {σ : Type} {source : BlockSource σ} {policy : RepairPolicy} {state : σ}

/-- A base block of zeros that is the last read is what the reading fails for. -/
theorem readBlob_of_last_blank
    (last : (readBlob source policy state).readings.getLast? = some ⟨0, .ok .blank⟩) :
    (readBlob source policy state).result = .error (blankError policy) := by
  obtain ⟨visits, readings, _, outcome⟩ := readBlob_outcome source policy state
  rw [readings] at last
  cases result : (readBlob source policy state).result with
  | ok blob =>
      rw [result] at outcome
      have bad : (Block.blank.validateBase policy).ok = false :=
        Block.validateBase_of_isAllZero (Block.isAllZero_iff.mpr rfl)
      cases bad.symm.trans (outcome.ok_of_last last)
  | error error =>
      rw [result] at outcome
      have refused := (outcome.refused_of_last last).2
      cases refused.symm.trans (Block.toExcept_validateBase_blank policy)
      rfl

theorem allZero_of_readBlob {error : Error} {index : Nat} {block : Block}
    (failed : (readBlob source policy state).result = .error error)
    (last : (readBlob source policy state).readings.getLast? = some ⟨index, .ok block⟩) :
    index = 0 ∧ (error.allZero = true ↔ block.isAllZero = true ∧ 2 < policy.threshold) := by
  obtain ⟨visits, readings, _, outcome⟩ := readBlob_outcome source policy state
  rw [readings] at last
  rw [failed] at outcome
  obtain ⟨base, refused⟩ := outcome.refused_of_last last
  exact ⟨base, Block.allZero_of_toExcept refused⟩

end Sessions

end Retrieval

/-! ## What is told of zeros -/

/-- No block of zeros passes. As an extension it is always told from others. As a base block, in what
validation says and in the error of a parse or of a reading that it ends, it is told from others exactly
if more than two bytes of a header are asked for, and else it counts as one with a wrong sum. Nothing but
zeros is taken for zeros. -/
theorem allZero_iff_isAllZero (policy : RepairPolicy) :
    (∀ block : Block,
      ((block.validateBase policy).allZero = true ↔
        block.isAllZero = true ∧ 2 < policy.threshold) ∧
      (block.validateExtension.allZero = true ↔ block.isAllZero = true) ∧
      (block.isAllZero = true →
        (block.validateBase policy).ok = false ∧ block.validateExtension.ok = false)) ∧
    (∀ bytes : List Byte,
      (Block.blank.toList <+: bytes → parse policy bytes = .error (blankError policy)) ∧
      ∀ error, parse policy bytes = .error error →
        (error.allZero = true ↔ Block.blank.toList <+: bytes ∧ 2 < policy.threshold)) ∧
    ∀ {σ : Type} (source : BlockSource σ) (state : σ) (index : Nat) (block : Block),
      (readBlob source policy state).readings.getLast? = some ⟨index, .ok block⟩ →
      (index = 0 → block.isAllZero = true →
        (readBlob source policy state).result = .error (blankError policy)) ∧
      ∀ error, (readBlob source policy state).result = .error error →
        index = 0 ∧ (error.allZero = true ↔ block.isAllZero = true ∧ 2 < policy.threshold) := by
  refine ⟨fun block => ⟨?_, ?_, fun zero => ⟨?_, ?_⟩⟩, fun bytes => ⟨fun zeros => ?_, ?_⟩, ?_⟩
  · rw [Block.allZero_validateBase, Bool.and_eq_true, decide_eq_true_eq]
  · rw [Block.allZero_validateExtension]
  · exact Block.validateBase_of_isAllZero zero
  · exact Block.validateExtension_of_isAllZero zero
  · exact parse_of_blank zeros policy
  · exact fun _ failed => allZero_of_parse failed
  · intro σ source state index block last
    refine ⟨fun base zero => ?_, fun error failed => Retrieval.allZero_of_readBlob failed last⟩
    rw [base, Block.isAllZero_iff.mp zero] at last
    exact Retrieval.readBlob_of_last_blank last

/-- A socket with nothing in it. -/
def unplugged : BlockSource Unit :=
  .ofFunction fun _ => .ok .blank

theorem last_readBlob_unplugged (policy : RepairPolicy) :
    (readBlob unplugged policy ()).readings.getLast? = some ⟨0, .ok .blank⟩ := by
  have only : (readBlob unplugged policy ()).readings = [⟨0, .ok .blank⟩] :=
    (Retrieval.readBlob_of_isAllZero rfl (Block.isAllZero_iff.mpr rfl)).1
  rw [only]
  rfl

/-- Six bytes of a header are asked for as a rule. -/
theorem allZero_iff_isAllZero_unplugged :
    (Block.blank.validateBase .standard).allZero = true ∧
      parse .standard (Block.blank.toList ++ [0xff]) = .error (.badBlock 0 true (.badHeader 2)) ∧
      ∃ error, (readBlob unplugged .standard ()).result = .error error ∧ error.allZero = true := by
  have zero : Block.blank.isAllZero = true := Block.isAllZero_iff.mpr rfl
  have high : 2 < RepairPolicy.standard.threshold := by decide
  obtain ⟨validation, bytes, readings⟩ := allZero_iff_isAllZero .standard
  obtain ⟨ends, told⟩ := readings unplugged () 0 .blank (last_readBlob_unplugged .standard)
  have failed := ends rfl zero
  exact ⟨(validation _).1.mpr ⟨zero, high⟩, (bytes _).1 (List.prefix_append _ _),
    _, failed, (told _ failed).2.mpr ⟨zero, high⟩⟩

/-- Where two bytes of a header are enough, the empty socket is taken for a damaged display. -/
theorem unplugged_taken_for_damaged :
    Block.blank.isAllZero = true ∧
      (Block.blank.validateBase (.ofScore 2)).allZero = false ∧
      parse (.ofScore 2) Block.blank.toList = .error (.badBlock 0 false (.badChecksum 6 0)) ∧
      (readBlob unplugged (.ofScore 2) ()).result =
        .error (.badBlock 0 false (.badChecksum 6 0)) := by
  have zero : Block.blank.isAllZero = true := Block.isAllZero_iff.mpr rfl
  refine ⟨zero, ?_, parse_of_blank (List.prefix_refl _) (.ofScore 2),
    Retrieval.readBlob_of_last_blank (last_readBlob_unplugged (.ofScore 2))⟩
  rw [Block.allZero_validateBase, zero]
  decide

end Edid

