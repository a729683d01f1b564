import Edid.Proofs.Parse
import Edid.Read

/-!
# How a reading goes

Every reading of a blob visits the blocks in order, the base block first, and each visit ends
with the first block that passes, with a transport error, or after four tries. What comes out is
told by the answers alone, whatever state machine gave them.
-/

set_option autoImplicit false

namespace Edid

/-- The readings are what the source answers, one after the other. -/
inductive Answered {σ : Type} (source : BlockSource σ) : σ → List Reading → σ → Prop where
  | done {state} : Answered source state [] state
  | next {state final index readings} :
      Answered source (source.read index state).2 readings final →
      Answered source state (⟨index, (source.read index state).1⟩ :: readings) final

theorem Answered.append {σ : Type} {source : BlockSource σ} {start middle final : σ}
    {first second : List Reading} (earlier : Answered source start first middle)
    (later : Answered source middle second final) :
    Answered source start (first ++ second) final := by
  induction earlier with
  | done => exact later
  | next _ ih => exact .next (ih later)

namespace Retrieval

/-! ## Answers -/

/-- An answer that brings a block which does not pass. -/
def Refused (validate : Block → Block.Validation) (answer : Answer) : Prop :=
  ∃ block, answer = .ok block ∧ (validate block).ok = false

/-- The block that an answer brings, after repair, if it passes. -/
def accepted? (validate : Block → Block.Validation) : Answer → Option Block
  | .ok block => if (validate block).ok then some (validate block).block else none
  | .error _ => none

/-- The block of the first answer that passes. -/
def firstAccepted? (validate : Block → Block.Validation) (answers : List Answer) :
    Option Block :=
  answers.findSome? (accepted? validate)

/-- Answers after which a block is read once more: all are refused, and the first one does not
end the reading by itself. -/
structure Fruitless (validate : Block → Block.Validation) (giveUp : Block → Bool)
    (answers : List Answer) : Prop where
  refused : ∀ answer ∈ answers, Refused validate answer
  goesOn : ∀ block, answers.head? = some (.ok block) → giveUp block = false

/-- The answers of an extension that is done with: at most three refused ones before one that
passes, or four refused ones. -/
inductive Settled (validate : Block → Block.Validation) : List Answer → Prop where
  | accepted {refused block} :
      (∀ answer ∈ refused, Refused validate answer) → refused.length ≤ 3 →
      (validate block).ok = true → Settled validate (refused ++ [.ok block])
  | exhausted {refused} :
      (∀ answer ∈ refused, Refused validate answer) → refused.length = 4 →
      Settled validate refused

/-- The readings of consecutive indices, given the answers that each of them got. -/
def readingsFrom : Nat → List (List Answer) → List Reading
  | _, [] => []
  | index, answers :: rest => answers.map (Reading.mk index) ++ readingsFrom (index + 1) rest

theorem firstAccepted?_of_refused {validate : Block → Block.Validation} {refused : List Answer}
    (all : ∀ answer ∈ refused, Refused validate answer) (last : List Answer) :
    firstAccepted? validate (refused ++ last) = firstAccepted? validate last := by
  have none : refused.findSome? (accepted? validate) = Option.none := by
    rw [List.findSome?_eq_none_iff]
    intro answer member
    obtain ⟨block, rfl, bad⟩ := all answer member
    simp [accepted?, bad]
  simp [firstAccepted?, List.findSome?_append, none]

/-! ## One block -/

/-- How the reading of one block goes: refused answers and a last one, which decides. -/
structure Course (validate : Block → Block.Validation) (giveUp : Block → Bool) (further : Nat)
    (refused : List Answer) (last : Answer) (result : Except Error Block.Validation) : Prop where
  fruitless : Fruitless validate giveUp refused
  few : refused.length ≤ further
  result_eq : result = last.map validate
  ends : ∀ block, last = .ok block → (validate block).ok = true ∨
    (refused = [] ∧ giveUp block = true) ∨ refused.length = further

section Block

variable {σ : Type} {source : BlockSource σ} {validate : Block → Block.Validation}
  {giveUp : Block → Bool} {index further : Nat} {state next : σ} {answer : Answer}

/-- The answer ends the reading of a block on which `further` tries are left. -/
def Ends (validate : Block → Block.Validation) (giveUp : Block → Bool) (further : Nat)
    (answer : Answer) : Prop :=
  ∀ block, answer = .ok block →
    (validate block).ok = true ∨ giveUp block = true ∨ further = 0

theorem readBlock_of_ends (read : source.read index state = (answer, next))
    (ends : Ends validate giveUp further answer) :
    readBlock source validate giveUp index further state =
      ⟨answer.map validate, [⟨index, answer⟩], next⟩ := by
  unfold readBlock
  rw [read]
  cases answer with
  | error error => rfl
  | ok block =>
      cases further with
      | zero => rfl
      | succ further =>
          have stops : ((validate block).ok || giveUp block) = true := by
            simpa using ends block rfl
          simp only [stops, if_true, Except.map]

theorem readBlock_of_refused {block : Block} (read : source.read index state = (.ok block, next))
    (bad : (validate block).ok = false) (goesOn : giveUp block = false) :
    readBlock source validate giveUp index (further + 1) state =
      (readBlock source validate (fun _ => false) index further next).after
        ⟨index, .ok block⟩ := by
  rw [readBlock]
  simp only [read, bad, goesOn, Bool.or_self, Bool.false_eq_true, if_false]

theorem answered_single (read : source.read index state = (answer, next)) :
    Answered source state [⟨index, answer⟩] next := by
  have step : Answered source state [⟨index, (source.read index state).1⟩]
      (source.read index state).2 := .next .done
  rwa [read] at step

theorem course_of_ends (ends : Ends validate giveUp further answer) :
    Course validate giveUp further [] answer (answer.map validate) where
  fruitless := ⟨by simp, by simp⟩
  few := Nat.zero_le further
  result_eq := rfl
  ends block same := (ends block same).imp_right fun other =>
    other.imp (fun up => ⟨rfl, up⟩) Eq.symm

/-- A refused block in front of the rest of the reading. -/
theorem Course.cons {block : Block} {refused : List Answer} {last : Answer}
    {result : Except Error Block.Validation}
    (bad : (validate block).ok = false) (goesOn : giveUp block = false)
    (course : Course validate (fun _ => false) further refused last result) :
    Course validate giveUp (further + 1) (.ok block :: refused) last result where
  fruitless := by
    refine ⟨fun answer member => ?_, fun first same => ?_⟩
    · rcases List.mem_cons.mp member with rfl | member
      · exact ⟨block, rfl, bad⟩
      · exact course.fruitless.refused answer member
    · simp only [List.head?_cons, Option.some.injEq, Except.ok.injEq] at same
      rwa [← same]
  few := Nat.succ_le_succ course.few
  result_eq := course.result_eq
  ends final same := by
    rcases course.ends final same with ok | ⟨_, up⟩ | full
    · exact .inl ok
    · exact absurd up Bool.false_ne_true
    · exact .inr (.inr (by simp [full]))

end Block

/-- Every reading of a block takes its course, and records what the source answered. -/
theorem readBlock_course {σ : Type} (source : BlockSource σ)
    (validate : Block → Block.Validation) (giveUp : Block → Bool) (index further : Nat)
    (state : σ) :
    ∃ refused last,
      (readBlock source validate giveUp index further state).readings =
        (refused ++ [last]).map (Reading.mk index) ∧
      Answered source state (readBlock source validate giveUp index further state).readings
        (readBlock source validate giveUp index further state).state ∧
      Course validate giveUp further refused last
        (readBlock source validate giveUp index further state).result := by
  -- Each refused block uses up a try. Only the first block can end the reading by itself, so
  -- the rest is read with another `giveUp`.
  induction further generalizing giveUp state with
  | zero =>
      have ends : Ends validate giveUp 0 (source.read index state).1 :=
        fun _ _ => .inr (.inr rfl)
      rw [readBlock_of_ends rfl ends]
      exact ⟨[], _, rfl, answered_single rfl, course_of_ends ends⟩
  | succ further ih =>
      by_cases ends : Ends validate giveUp (further + 1) (source.read index state).1
      · rw [readBlock_of_ends rfl ends]
        exact ⟨[], _, rfl, answered_single rfl, course_of_ends ends⟩
      · simp only [Ends, Classical.not_forall, not_or, Bool.not_eq_true] at ends
        obtain ⟨block, answer, bad, goesOn, _⟩ := ends
        have read : source.read index state = (.ok block, (source.read index state).2) :=
          Prod.ext answer rfl
        obtain ⟨refused, last, readings, answered, course⟩ :=
          ih (fun _ => false) (source.read index state).2
        rw [readBlock_of_refused read bad goesOn]
        refine ⟨.ok block :: refused, last, ?_, ?_, course.cons bad goesOn⟩
        · simp [Session.after, readings]
        · exact (answered_single read).append answered

/-! ## The extensions -/

/-- How the reading of `count` extensions goes: each of them is settled, or a transport error
ends the reading of one and with it the whole. -/
inductive Extensions : Nat → List (List Answer) → Except Error (List Block) → Prop where
  | complete {visits} :
      (∀ answers ∈ visits, Settled Block.validateExtension answers) →
      Extensions visits.length visits
        (.ok (visits.filterMap (firstAccepted? Block.validateExtension)))
  | fault {count settled refused error} :
      settled.length < count →
      (∀ answers ∈ settled, Settled Block.validateExtension answers) →
      (∀ answer ∈ refused, Refused Block.validateExtension answer) → refused.length ≤ 3 →
      Extensions count (settled ++ [refused ++ [.error error]]) (.error error)

/-- What a settled extension leaves. -/
def keptOf (validation : Block.Validation) : List Block :=
  if validation.ok then [validation.block] else []

theorem firstAccepted?_singleton (validate : Block → Block.Validation) (block : Block) :
    (firstAccepted? validate [.ok block]).toList = keptOf (validate block) := by
  by_cases ok : (validate block).ok = true <;> simp [firstAccepted?, accepted?, keptOf, ok]

/-- The last answer of a block that was read without a transport error settles it. -/
theorem Course.settled {validate : Block → Block.Validation} {refused : List Answer}
    {block : Block} {result : Except Error Block.Validation}
    (course : Course validate (fun _ => false) furtherTries refused (.ok block) result) :
    Settled validate (refused ++ [.ok block]) ∧
      (firstAccepted? validate (refused ++ [.ok block])).toList = keptOf (validate block) := by
  have all := course.fruitless.refused
  refine ⟨?_, ?_⟩
  · by_cases ok : (validate block).ok = true
    · exact .accepted all course.few ok
    · have full : refused.length = furtherTries := by
        rcases course.ends block rfl with good | ⟨_, up⟩ | full
        · exact absurd good ok
        · exact absurd up Bool.false_ne_true
        · exact full
      refine .exhausted (fun answer member => ?_) (by simp [full, furtherTries])
      rcases List.mem_append.mp member with earlier | last
      · exact all answer earlier
      · exact ⟨block, List.mem_singleton.mp last, Bool.not_eq_true _ ▸ ok⟩
  · rw [firstAccepted?_of_refused all, firstAccepted?_singleton]

theorem Extensions.cons {count : Nat} {answers : List Answer} {visits : List (List Answer)}
    {result : Except Error (List Block)} (settled : Settled Block.validateExtension answers)
    (rest : Extensions count visits result) :
    Extensions (count + 1) (answers :: visits)
      (result.map ((firstAccepted? Block.validateExtension answers).toList ++ ·)) := by
  cases rest with
  | complete all =>
      have allSettled : ∀ visit ∈ answers :: visits, Settled Block.validateExtension visit := by
        intro visit member
        rcases List.mem_cons.mp member with rfl | member
        · exact settled
        · exact all visit member
      have whole := Extensions.complete allSettled
      rw [List.filterMap_cons] at whole
      cases first : firstAccepted? Block.validateExtension answers <;>
        simpa [first, Except.map] using whole
  | @fault _ before refused error fewer all bad few =>
      have more : (answers :: before).length < _ + 1 := Nat.succ_lt_succ fewer
      refine Extensions.fault more ?_ bad few
      intro visit member
      rcases List.mem_cons.mp member with rfl | member
      · exact settled
      · exact all visit member

theorem readExtensions_visits {σ : Type} (source : BlockSource σ) (start count : Nat)
    (state : σ) :
    ∃ visits,
      (readExtensions source (List.range' start count) state).readings =
        readingsFrom start visits ∧
      Answered source state (readExtensions source (List.range' start count) state).readings
        (readExtensions source (List.range' start count) state).state ∧
      Extensions count visits
        (readExtensions source (List.range' start count) state).result := by
  induction count generalizing start state with
  | zero => exact ⟨[], rfl, .done, .complete (List.forall_mem_nil _)⟩
  | succ count ih =>
      obtain ⟨refused, last, readings, answered, course⟩ := readBlock_course source
        Block.validateExtension (fun _ => false) start furtherTries state
      rw [List.range'_succ, readExtensions]
      generalize readBlock source Block.validateExtension (fun _ => false) start furtherTries
        state = session at readings answered course ⊢
      obtain ⟨result, made, next⟩ := session
      simp only at readings answered course ⊢
      subst readings
      cases course.result_eq
      cases last with
      | error error =>
          refine ⟨[refused ++ [.error error]], by simp [Session.andThen, Except.map, readingsFrom],
            ?_, ?_⟩
          · simpa [Session.andThen, Except.map] using answered
          · have none : ([] : List (List Answer)).length < count + 1 := Nat.succ_pos count
            exact .fault none (List.forall_mem_nil _) course.fruitless.refused
              course.few
      | ok block =>
          obtain ⟨visits, later, rest, outcome⟩ := ih (start + 1) next
          obtain ⟨settled, kept⟩ := course.settled
          refine ⟨(refused ++ [.ok block]) :: visits, ?_, ?_, ?_⟩
          · simp [Session.andThen, Except.map, readingsFrom, later]
          · simpa [Session.andThen, Except.map] using answered.append rest
          · have whole := outcome.cons settled
            rw [kept] at whole
            exact whole

/-! ## The whole reading -/

/-- How the reading of a blob goes, given the answers that the base block and then each extension
got. A base block of zeros that is read first ends it, and so do four base blocks that do not
pass. -/
inductive Outcome (policy : RepairPolicy) : List (List Answer) → Except Error Blob → Prop where
  | baseFault {refused error} :
      Fruitless (Block.validateBase policy) Block.isAllZero refused → refused.length ≤ 3 →
      Outcome policy [refused ++ [.error error]] (.error error)
  | noDisplay {block reason} :
      block.isAllZero = true → (block.validateBase policy).defect = some reason →
      Outcome policy [[.ok block]]
        (.error (.badBlock 0 (block.validateBase policy).allZero reason))
  | badBase {refused block reason} :
      Fruitless (Block.validateBase policy) Block.isAllZero (refused ++ [.ok block]) →
      refused.length = 3 → (block.validateBase policy).defect = some reason →
      Outcome policy [refused ++ [.ok block]]
        (.error (.badBlock 0 (block.validateBase policy).allZero reason))
  | extensionFault {refused block visits error} :
      Fruitless (Block.validateBase policy) Block.isAllZero refused → refused.length ≤ 3 →
      (block.validateBase policy).ok = true →
      Extensions (block.validateBase policy).block.extensionCount visits (.error error) →
      Outcome policy ((refused ++ [.ok block]) :: visits) (.error error)
  | complete {refused block visits blob} :
      Fruitless (Block.validateBase policy) Block.isAllZero refused → refused.length ≤ 3 →
      (block.validateBase policy).ok = true →
      Extensions (block.validateBase policy).block.extensionCount visits (.ok blob.extensions) →
      blob.base = (block.validateBase policy).block.withExtensionCount
        (UInt8.ofNat blob.extensions.length) →
      Outcome policy ((refused ++ [.ok block]) :: visits) (.ok blob)

theorem ok_of_firstAccepted? {answers : List Answer} {block : Block}
    (found : firstAccepted? Block.validateExtension answers = some block) :
    block.validateExtension.ok = true := by
  obtain ⟨answer, _, accepted⟩ := List.exists_of_findSome?_eq_some found
  cases answer with
  | error error => simp [accepted?] at accepted
  | ok read =>
      simp only [accepted?, Block.validateExtension_block, Option.ite_none_right_eq_some,
        Option.some.injEq] at accepted
      exact accepted.2 ▸ accepted.1

theorem Extensions.ok_of_mem {count : Nat} {visits : List (List Answer)} {kept : List Block}
    (outcome : Extensions count visits (.ok kept)) :
    kept.length ≤ count ∧ ∀ block ∈ kept, block.validateExtension.ok = true := by
  cases outcome with
  | complete all =>
      refine ⟨List.length_filterMap_le _ _, fun block member => ?_⟩
      obtain ⟨answers, _, found⟩ := List.mem_filterMap.mp member
      exact ok_of_firstAccepted? found

theorem Outcome.sound {policy : RepairPolicy} {visits : List (List Answer)} {blob : Blob}
    (outcome : Outcome policy visits (.ok blob)) :
    blob.base.SoundBase ∧ blob.isValid policy = true := by
  cases outcome with
  | @complete refused block visits blob _ _ accepted extensions base =>
      have sound := (Block.validateBase_ok_iff.mp accepted).2
      rw [Block.validateBase_of_ok accepted] at base
      have soundBase : blob.base.SoundBase := base ▸ sound.withExtensionCount _
      refine ⟨soundBase, ?_⟩
      rw [← Blob.ofKept_self blob]
      exact Blob.isValid_ofKept soundBase extensions.ok_of_mem.2

/-- The reading of a base block that does not pass ends with an error. -/
theorem Course.outcome_of_bad {policy : RepairPolicy} {refused : List Answer} {block : Block}
    {result : Except Error Block.Validation}
    (course : Course (Block.validateBase policy) Block.isAllZero furtherTries refused
      (.ok block) result)
    (bad : (block.validateBase policy).ok = false) :
    ∃ error, (block.validateBase policy).toExcept 0 = .error error ∧
      Outcome policy [refused ++ [.ok block]] (.error error) := by
  obtain ⟨reason, defect, error⟩ := Block.Validation.toExcept_of_not_ok bad 0
  refine ⟨_, error, ?_⟩
  rcases course.ends block rfl with ok | ⟨rfl, zeros⟩ | full
  · exact absurd ok (Bool.not_eq_true _ ▸ bad)
  · exact .noDisplay zeros defect
  · refine .badBase ⟨fun answer member => ?_, fun first head => ?_⟩ full defect
    · rcases List.mem_append.mp member with earlier | last
      · exact course.fruitless.refused answer earlier
      · exact ⟨block, List.mem_singleton.mp last, bad⟩
    · refine course.fruitless.goesOn first ?_
      cases refused with
      | nil => simp [furtherTries] at full
      | cons answer rest => simpa using head

theorem readBlob_outcome {σ : Type} (source : BlockSource σ) (policy : RepairPolicy)
    (state : σ) :
    ∃ visits,
      (readBlob source policy state).readings = readingsFrom 0 visits ∧
      Answered source state (readBlob source policy state).readings
        (readBlob source policy state).state ∧
      Outcome policy visits (readBlob source policy state).result := by
  obtain ⟨refused, last, readings, answered, course⟩ := readBlock_course source
    (Block.validateBase policy) Block.isAllZero 0 furtherTries state
  simp only [readBlob, readBase]
  generalize readBlock source (Block.validateBase policy) Block.isAllZero 0 furtherTries state =
    session at readings answered course ⊢
  obtain ⟨result, made, next⟩ := session
  simp only at readings answered course ⊢
  subst readings
  cases course.result_eq
  cases last with
  | error error =>
      refine ⟨[refused ++ [.error error]], by simp [Session.andThen, Except.map, Except.bind,
        readingsFrom], ?_, ?_⟩
      · simpa [Session.andThen, Except.map, Except.bind] using answered
      · exact .baseFault course.fruitless course.few
  | ok block =>
      cases accepted : (block.validateBase policy).ok with
      | false =>
          obtain ⟨error, refusal, outcome⟩ := course.outcome_of_bad accepted
          refine ⟨[refused ++ [.ok block]], ?_, ?_, ?_⟩
          · simp [Session.andThen, Except.map, Except.bind, refusal, readingsFrom]
          · simpa [Session.andThen, Except.map, Except.bind, refusal] using answered
          · simpa [Session.andThen, Except.map, Except.bind, refusal] using outcome
      | true =>
          have pass := Block.Validation.toExcept_of_ok accepted 0
          obtain ⟨visits, later, rest, outcome⟩ := readExtensions_visits source 1
            (block.validateBase policy).block.extensionCount next
          refine ⟨(refused ++ [.ok block]) :: visits, ?_, ?_, ?_⟩
          · simp [Session.andThen, Except.map, Except.bind, pass, readingsFrom, later]
          · simpa [Session.andThen, Except.map, Except.bind, pass] using answered.append rest
          · simp only [Session.andThen, Except.map, Except.bind, pass]
            generalize (readExtensions source (List.range' 1
              (block.validateBase policy).block.extensionCount) next).result = result at outcome ⊢
            cases result with
            | error error =>
                exact .extensionFault course.fruitless course.few accepted outcome
            | ok kept =>
                have few : kept.length ≤ 255 := by
                  have count := outcome.ok_of_mem.1
                  have small := ((block.validateBase policy).block.byte 126).toNat_lt
                  rw [Block.extensionCount] at count
                  omega
                refine .complete course.fruitless course.few accepted ?_ ?_
                · rwa [Blob.ofKept_extensions few]
                · rw [Blob.ofKept_extensions few, Blob.ofKept_base few]

/-- A first read of zeros is the only one. -/
theorem readBlob_of_isAllZero {σ : Type} {source : BlockSource σ} {policy : RepairPolicy}
    {state : σ} {block : Block} (first : (source.read 0 state).1 = .ok block)
    (zeros : block.isAllZero = true) :
    (readBlob source policy state).readings = [⟨0, .ok block⟩] ∧
      ∃ reason, (readBlob source policy state).result =
        .error (.badBlock 0 (block.validateBase policy).allZero reason) := by
  have read : source.read 0 state = (.ok block, (source.read 0 state).2) := Prod.ext first rfl
  have ends : Ends (Block.validateBase policy) Block.isAllZero furtherTries (.ok block) := by
    intro other same
    cases same
    exact .inr (.inl zeros)
  have bad : (block.validateBase policy).ok = false := Block.validateBase_of_isAllZero zeros
  obtain ⟨reason, _, refusal⟩ := Block.Validation.toExcept_of_not_ok bad 0
  have base : readBase source policy state =
      ⟨.error (.badBlock 0 (block.validateBase policy).allZero reason), [⟨0, .ok block⟩],
        (source.read 0 state).2⟩ := by
    simp only [readBase, readBlock_of_ends read ends, Except.map, Except.bind, refusal]
  rw [readBlob, base]
  exact ⟨rfl, reason, rfl⟩

/-- Every reading of a blob makes its reads in order, from the base block on, and goes in one of
the ways that `Outcome` lists. It stops at once if the first read brings zeros. A blob that it
brings counts the extensions that were kept, its base block sums to zero, and it passes
validation. -/
theorem readBlob_goes {σ : Type} (source : BlockSource σ) (policy : RepairPolicy) (state : σ) :
    (∃ visits,
      (readBlob source policy state).readings = readingsFrom 0 visits ∧
      Answered source state (readBlob source policy state).readings
        (readBlob source policy state).state ∧
      Outcome policy visits (readBlob source policy state).result) ∧
    (∀ block, (source.read 0 state).1 = .ok block → block.isAllZero = true →
      (readBlob source policy state).readings = [⟨0, .ok block⟩] ∧
        ∃ reason, (readBlob source policy state).result =
          .error (.badBlock 0 (block.validateBase policy).allZero reason)) ∧
    ∀ blob, (readBlob source policy state).result = .ok blob →
      (blob.base.byte 126).toNat = blob.extensions.length ∧ blob.base.sum = 0 ∧
        blob.isValid policy = true := by
  obtain ⟨visits, readings, answered, outcome⟩ := readBlob_outcome source policy state
  refine ⟨⟨visits, readings, answered, outcome⟩,
    fun block first zeros => readBlob_of_isAllZero first zeros, fun blob read => ?_⟩
  rw [read] at outcome
  obtain ⟨soundBase, valid⟩ := outcome.sound
  exact ⟨blob.count_eq.symm, soundBase.sum, valid⟩

/-- The worn blob is read with its base block repaired and without its refused extension. -/
theorem readBlob_goes_worn :
    ∃ blob, (readBlob (.ofBlob worn) .standard ()).result = .ok blob ∧
      blob.extensions.length = 1 ∧ blob.base.sum = 0 ∧ blob.isValid .standard = true := by
  have brought : ((readBlob (.ofBlob worn) .standard ()).result.toOption.map
      fun blob => blob.extensions.length) = some 1 := by
    decide +kernel
  obtain ⟨blob, read, kept⟩ := Option.map_eq_some_iff.mp brought
  have result : (readBlob (.ofBlob worn) .standard ()).result = .ok blob := by
    cases found : (readBlob (.ofBlob worn) .standard ()).result with
    | error error =>
        rw [found] at read
        cases read
    | ok other =>
        rw [found] at read
        exact congrArg Except.ok (Option.some.inj read)
  obtain ⟨_, sum, valid⟩ := (readBlob_goes (.ofBlob worn) .standard ()).2.2 blob result
  exact ⟨blob, result, kept, sum, valid⟩

end Retrieval

end Edid
