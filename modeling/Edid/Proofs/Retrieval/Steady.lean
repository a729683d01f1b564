import Edid.Proofs.Retrieval

/-!
# Steady sources

A source that gives the blocks of one blob again and again leads to the same result as the blob
itself: the retries bring nothing new, and what is read is cleaned before it is parsed, so that
parsing finds nothing more to clean.
-/

set_option autoImplicit false

namespace Edid

theorem Answered.answer_eq {σ : Type} {source : BlockSource σ} {index : Nat} {answer : Answer}
    (steady : ∀ state, (source.read index state).1 = answer) {start final : σ}
    {readings : List Reading} (answered : Answered source start readings final) :
    ∀ reading ∈ readings, reading.index = index → reading.answer = answer := by
  induction answered with
  | done => simp
  | @next state final read readings _ ih =>
      intro reading member same
      rcases List.mem_cons.mp member with rfl | later
      · cases same
        exact steady state
      · exact ih reading later same

namespace Retrieval

/-- Every read of a block of the blob brings that block, whatever has been read before. Nothing
is said of other indices. -/
def Serves {σ : Type} (source : BlockSource σ) (blob : Blob) : Prop :=
  ∀ index block, blob.block? index = some block →
    ∀ state, (source.read index state).1 = .ok block

theorem serves_ofBlob (blob : Blob) : Serves (.ofBlob blob) blob := by
  intro index block found state
  simp [BlockSource.ofBlob, BlockSource.ofFunction, found]

section Steady

variable {σ : Type} {source : BlockSource σ}

theorem readBlock_of_steady {index : Nat} {block : Block}
    (steady : ∀ state, (source.read index state).1 = .ok block)
    (validate : Block → Block.Validation) (giveUp : Block → Bool) (further : Nat) (state : σ) :
    (readBlock source validate giveUp index further state).result = .ok (validate block) := by
  obtain ⟨refused, last, readings, answered, course⟩ :=
    readBlock_course source validate giveUp index further state
  have deciding : (⟨index, last⟩ : Reading) ∈
      (readBlock source validate giveUp index further state).readings := by
    simp [readings]
  have same : last = .ok block := answered.answer_eq steady _ deciding rfl
  rw [course.result_eq, same, Except.map]

theorem readExtensions_of_steady {start : Nat} {blocks : List Block}
    (steady : ∀ offset block, blocks[offset]? = some block →
      ∀ state, (source.read (start + offset) state).1 = .ok block) (state : σ) :
    (readExtensions source (List.range' start blocks.length) state).result =
      .ok (blocks.filter (·.validateExtension.ok)) := by
  induction blocks generalizing start state with
  | nil => rfl
  | cons block blocks ih =>
      have first := readBlock_of_steady (steady 0 block rfl) Block.validateExtension
        (fun _ => false) furtherTries state
      have later : ∀ offset other, blocks[offset]? = some other →
          ∀ state, (source.read (start + 1 + offset) state).1 = .ok other := by
        intro offset other found
        have moved := steady (offset + 1) other found
        rwa [← Nat.add_assoc, Nat.add_right_comm] at moved
      rw [Nat.add_zero] at first
      rw [List.length_cons, List.range'_succ, readExtensions, Session.andThen]
      simp only [first, ih later, Except.map, List.filter_cons]
      cases block.validateExtension.ok <;> simp

theorem readBlob_of_serves {blob : Blob} (serves : Serves source blob) (policy : RepairPolicy)
    (state : σ) :
    (readBlob source policy state).result =
      ((blob.base.validateBase policy).toExcept 0).map fun _ => blob.cleaned := by
  have base := readBlock_of_steady (serves 0 blob.base rfl) (Block.validateBase policy)
    Block.isAllZero furtherTries state
  rw [readBlob, readBase, Session.andThen]
  simp only [base, Except.bind]
  cases accepted : (blob.base.validateBase policy).ok with
  | false =>
      obtain ⟨reason, _, refusal⟩ := Block.Validation.toExcept_of_not_ok accepted 0
      rw [refusal]
      rfl
  | true =>
      -- The header ends before byte 126, so the repaired block announces what the blob has.
      have count : blob.base.withHeader.extensionCount = blob.extensions.length := by
        rw [blob.count_eq, Block.extensionCount, Block.byte_withHeader _ (by decide),
          Block.extensionCount]
      have behind : ∀ offset block, blob.extensions[offset]? = some block →
          ∀ state, (source.read (1 + offset) state).1 = .ok block := by
        intro offset block found
        refine serves (1 + offset) block ?_
        rwa [Nat.add_comm, Blob.block?, Blob.blocks, List.getElem?_cons_succ]
      rw [Block.Validation.toExcept_of_ok accepted, Block.validateBase_of_ok accepted]
      simp only [Except.map, count, readExtensions_of_steady behind]
      rfl

theorem readDisplay_of_serves {blob : Blob} (serves : Serves source blob) (policy : RepairPolicy)
    (state : σ) :
    (readDisplay source policy state).result =
      (parseBlob policy blob).map fun display =>
        { display with corrupt := display.blob.damaged } := by
  have read := readBlob_of_serves serves policy state
  cases accepted : (blob.base.validateBase policy).ok with
  | false =>
      obtain ⟨reason, _, refusal⟩ := Block.Validation.toExcept_of_not_ok accepted 0
      simp only [readDisplay, read, parseBlob, refusal, Except.map, Except.bind]
  | true =>
      have parsed : parseBlob policy blob = .ok (Display.ofBlob blob.cleaned blob.damaged) :=
        parseBlob_ok_iff.mpr ⟨accepted, rfl⟩
      rw [Block.Validation.toExcept_of_ok accepted] at read
      simp only [readDisplay, read, parsed, Except.map, Except.bind]
      rw [parseBlob_cleaned accepted,
        Display.ofBlob_corrupt blob.cleaned blob.cleaned.damaged blob.damaged]
      rfl

theorem Serves.answer_eq {blob : Blob} (serves : Serves source blob) {policy : RepairPolicy}
    {state : σ} {index : Nat} {block : Block} {answer : Answer}
    (found : blob.block? index = some block)
    (member : ⟨index, answer⟩ ∈ (readDisplay source policy state).readings) :
    answer = .ok block := by
  obtain ⟨visits, _, answered, _⟩ := readBlob_outcome source policy state
  exact answered.answer_eq (serves index block found) _ member rfl

theorem Serves.mem_readings {blob : Blob} (serves : Serves source blob) {policy : RepairPolicy}
    {state : σ} {index : Nat} {block : Block} (found : blob.block? index = some block)
    (visited : index ∈ (readDisplay source policy state).readings.map Reading.index) :
    ⟨index, .ok block⟩ ∈ (readDisplay source policy state).readings := by
  obtain ⟨⟨_, answer⟩, member, rfl⟩ := List.mem_map.mp visited
  exact serves.answer_eq found member ▸ member

/-- Reading a blob from a source that serves it and parsing the blob fail with the same error, or
both succeed and agree on all that is decoded. -/
theorem readDisplay_agrees {blob : Blob} (serves : Serves source blob) (policy : RepairPolicy)
    (state : σ) :
    (∃ error, (readDisplay source policy state).result = .error error ∧
      parseBlob policy blob = .error error) ∨
    ∃ read parsed, (readDisplay source policy state).result = .ok read ∧
      parseBlob policy blob = .ok parsed ∧
      read.blob = parsed.blob ∧ read.identity = parsed.identity ∧
      read.workarounds = parsed.workarounds ∧ read.capabilities = parsed.capabilities ∧
      read.modes = parsed.modes := by
  have read := readDisplay_of_serves serves policy state
  cases parsed : parseBlob policy blob with
  | error error =>
      rw [parsed] at read
      exact .inl ⟨error, read, rfl⟩
  | ok display =>
      rw [parsed] at read
      exact .inr ⟨_, display, read, rfl, rfl, rfl, rfl, rfl, rfl⟩

theorem readDisplay_agrees_worn :
    ∃ read parsed, (readDisplay (.ofBlob worn) .standard ()).result = .ok read ∧
      parseBlob .standard worn = .ok parsed ∧ read.blob = parsed.blob ∧
      read.modes = parsed.modes ∧ read.modes.length = 17 ∧
      read.workarounds = { preferLargestAt60 := true } ∧
      read.capabilities = parsed.capabilities ∧ read.capabilities.bitsPerColor = 12 := by
  have decoded : parseBlob .standard worn = .ok _ := parse_toBytes _ _ ▸ parse_worn
  obtain ⟨count, _, wrong, _, depth, _⟩ := display_worn
  rcases readDisplay_agrees (serves_ofBlob worn) .standard () with
    ⟨error, _, refused⟩ | ⟨read, parsed, result, same, blob, _, workarounds, capabilities, modes⟩
  · cases decoded.symm.trans refused
  · cases decoded.symm.trans same
    exact ⟨read, _, result, decoded, blob, modes, (congrArg List.length modes).trans count,
      workarounds.trans wrong, capabilities,
      (congrArg Capabilities.bitsPerColor capabilities).trans depth⟩

end Steady

end Retrieval

end Edid
