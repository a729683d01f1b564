import Edid.Proofs.Retrieval.Steady

/-!
# What the mark of a reading sees

A reading cleans the blob before it is parsed, and hands on nothing but the clean blob. A header
that was put right and an extension that was left out are then out of sight: of all damage, only
a checksum that was forgiven is still there to be marked.
-/

set_option autoImplicit false

namespace Edid.Retrieval

/-! ## Damage -/

/-- The base block that was accepted had its header put right. -/
def Repaired (policy : RepairPolicy) (readings : List Reading) : Prop :=
  ∃ block, ⟨0, .ok block⟩ ∈ readings ∧ (block.validateBase policy).ok = true ∧
    block.headerScore ≠ 8

/-- Some extension was asked for, and no read of it passed. -/
def Dropped (readings : List Reading) : Prop :=
  ∃ index, index ≠ 0 ∧ (∃ answer, ⟨index, answer⟩ ∈ readings) ∧
    ∀ block, ⟨index, .ok block⟩ ∈ readings → block.validateExtension.ok = false

/-- Some CTA extension was accepted in spite of its checksum. -/
def Forgiven (readings : List Reading) : Prop :=
  ∃ index block, index ≠ 0 ∧ ⟨index, .ok block⟩ ∈ readings ∧
    block.tag = Block.ctaTag ∧ block.byte 127 ≠ block.checksum

/-! ## What is kept of the readings -/

theorem mem_readingsFrom_iff {start index : Nat} {answer : Answer}
    {visits : List (List Answer)} :
    ⟨index, answer⟩ ∈ readingsFrom start visits ↔
      ∃ offset answers, index = start + offset ∧ visits[offset]? = some answers ∧
        answer ∈ answers := by
  induction visits generalizing start with
  | nil => simp [readingsFrom]
  | cons first rest ih =>
      have here : (⟨index, answer⟩ : Reading) ∈ first.map (Reading.mk start) ↔
          index = start ∧ answer ∈ first := by
        simp only [List.mem_map, Reading.mk.injEq]
        constructor
        · rintro ⟨_, member, same, rfl⟩
          exact ⟨same.symm, member⟩
        · rintro ⟨same, member⟩
          exact ⟨answer, member, same.symm, rfl⟩
      rw [readingsFrom, List.mem_append, here, ih]
      constructor
      · rintro (⟨same, member⟩ | ⟨offset, answers, same, found, member⟩)
        · exact ⟨0, first, same, rfl, member⟩
        · exact ⟨offset + 1, answers, by omega, found, member⟩
      · rintro ⟨offset, answers, same, found, member⟩
        cases offset with
        | zero =>
            cases found
            exact .inl ⟨same, member⟩
        | succ offset => exact .inr ⟨offset, answers, by omega, found, member⟩

/-- A settled extension has at most one answer that passes, the last. -/
theorem Settled.firstAccepted?_eq_some_iff {answers : List Answer} {block : Block}
    (settled : Settled Block.validateExtension answers)
    (passes : block.validateExtension.ok = true) :
    firstAccepted? Block.validateExtension answers = some block ↔ .ok block ∈ answers := by
  have absent {refused : List Answer}
      (all : ∀ answer ∈ refused, Refused Block.validateExtension answer) :
      .ok block ∉ refused := by
    intro member
    obtain ⟨other, same, bad⟩ := all _ member
    cases same
    exact absurd passes (Bool.not_eq_true _ ▸ bad)
  cases settled with
  | @accepted refused last all _ ok =>
      rw [firstAccepted?_of_refused all]
      simp [firstAccepted?, accepted?, ok, absent all, eq_comm]
  | @exhausted refused all _ =>
      have none := firstAccepted?_of_refused all []
      rw [List.append_nil] at none
      rw [none]
      simp [firstAccepted?, absent all]

theorem Extensions.mem_iff {count : Nat} {visits : List (List Answer)} {kept : List Block}
    {block : Block} (outcome : Extensions count visits (.ok kept))
    (passes : block.validateExtension.ok = true) :
    block ∈ kept ↔ ∃ answers ∈ visits, .ok block ∈ answers := by
  cases outcome with
  | complete all =>
      rw [List.mem_filterMap]
      refine exists_congr fun answers => and_congr_right fun member => ?_
      exact (all answers member).firstAccepted?_eq_some_iff passes

theorem Outcome.mem_extensions_iff {policy : RepairPolicy} {visits : List (List Answer)}
    {blob : Blob} {block : Block} (outcome : Outcome policy visits (.ok blob))
    (passes : block.validateExtension.ok = true) :
    block ∈ blob.extensions ↔
      ∃ index, index ≠ 0 ∧ ⟨index, .ok block⟩ ∈ readingsFrom 0 visits := by
  cases outcome with
  | complete _ _ _ extensions _ =>
      rw [extensions.mem_iff passes]
      constructor
      · rintro ⟨answers, visited, member⟩
        obtain ⟨offset, found⟩ := List.mem_iff_getElem?.mp visited
        exact ⟨offset + 1, by omega,
          mem_readingsFrom_iff.mpr ⟨offset + 1, answers, by omega, found, member⟩⟩
      · rintro ⟨index, extension, member⟩
        obtain ⟨offset, answers, same, found, member⟩ := mem_readingsFrom_iff.mp member
        cases offset with
        | zero => omega
        | succ offset => exact ⟨answers, List.mem_of_getElem? found, member⟩

/-- A CTA extension always passes, so one that was forgiven has been kept. -/
theorem Outcome.forgiven_iff {policy : RepairPolicy} {visits : List (List Answer)} {blob : Blob}
    (outcome : Outcome policy visits (.ok blob)) :
    Forgiven (readingsFrom 0 visits) ↔
      ∃ extension ∈ blob.extensions,
        extension.tag = Block.ctaTag ∧ extension.byte 127 ≠ extension.checksum := by
  constructor
  · rintro ⟨index, block, extension, member, cta, wrong⟩
    have passes := Block.validateExtension_ok_of_ctaTag cta
    exact ⟨block, (outcome.mem_extensions_iff passes).mpr ⟨index, extension, member⟩, cta, wrong⟩
  · rintro ⟨block, member, cta, wrong⟩
    have passes := Block.validateExtension_ok_of_ctaTag cta
    obtain ⟨index, extension, read⟩ := (outcome.mem_extensions_iff passes).mp member
    exact ⟨index, block, extension, read, cta, wrong⟩

/-! ## The mark -/

section Mark

variable {σ : Type} {source : BlockSource σ} {policy : RepairPolicy} {state : σ}

/-- A blob that was read is clean already, and parsing takes it as it is. -/
theorem readDisplay_of_readBlob {blob : Blob}
    (read : (readBlob source policy state).result = .ok blob) :
    (readDisplay source policy state).result = .ok (Display.ofBlob blob blob.damaged) ∧
      blob.base.SoundBase ∧ blob.cleaned = blob := by
  obtain ⟨visits, _, _, outcome⟩ := readBlob_outcome source policy state
  rw [read] at outcome
  obtain ⟨sound, valid⟩ := outcome.sound
  rw [Blob.isValid, Bool.and_eq_true, List.all_eq_true] at valid
  have clean := Blob.cleaned_of_passing sound.header valid.2
  have parsed : parseBlob policy blob = .ok (Display.ofBlob blob blob.damaged) :=
    parseBlob_ok_iff.mpr ⟨valid.1, by rw [clean]⟩
  refine ⟨?_, sound, clean⟩
  simp only [readDisplay, read, Except.bind, parsed]

theorem corrupt_iff_forgiven {display : Display}
    (read : (readDisplay source policy state).result = .ok display) :
    display.corrupt = true ↔ Forgiven (readDisplay source policy state).readings := by
  obtain ⟨visits, readings, _, outcome⟩ := readBlob_outcome source policy state
  have made : (readDisplay source policy state).readings = readingsFrom 0 visits := readings
  cases brought : (readBlob source policy state).result with
  | error error => simp [readDisplay, brought, Except.bind] at read
  | ok blob =>
      obtain ⟨same, sound, clean⟩ := readDisplay_of_readBlob brought
      cases same.symm.trans read
      have base : blob.base.withHeader.SoundBase := by
        rwa [Block.withHeader_of_headerScore sound.header]
      have damage := Blob.damaged_cleaned_iff base
      rw [clean] at damage
      rw [brought] at outcome
      rw [made, outcome.forgiven_iff, ← damage, Display.ofBlob]

/-- The mark of a reading tells of forgiven checksums only. It tells of all damage unless a header
was repaired or an extension dropped and no checksum forgiven. -/
theorem readDisplay_marks {display : Display}
    (read : (readDisplay source policy state).result = .ok display) :
    let readings := (readDisplay source policy state).readings
    (display.corrupt = true ↔ Forgiven readings) ∧
      ((display.corrupt = true ↔
          Repaired policy readings ∨ Dropped readings ∨ Forgiven readings) ↔
        (Repaired policy readings ∨ Dropped readings → Forgiven readings)) := by
  intro readings
  have mark := corrupt_iff_forgiven read
  refine ⟨mark, fun all hidden => ?_, fun shown => mark.trans ⟨fun forgiven => ?_, ?_⟩⟩
  · exact mark.mp (all.mpr (hidden.imp_right .inl))
  · exact .inr (.inr forgiven)
  · rintro (repaired | dropped | forgiven)
    · exact shown (.inl repaired)
    · exact shown (.inr dropped)
    · exact forgiven

theorem readDisplay_marks_worn :
    ∃ display, (readDisplay (.ofBlob worn) .standard ()).result = .ok display ∧
      display.corrupt = true := by
  have decoded : parseBlob .standard worn = .ok _ := parse_toBytes _ _ ▸ parse_worn
  have read := readDisplay_of_serves (serves_ofBlob worn) .standard ()
  rw [decoded] at read
  have visited : 1 ∈ (readDisplay (.ofBlob worn) .standard ()).readings.map Reading.index := by
    decide +kernel
  have first := (serves_ofBlob worn).mem_readings (show worn.block? 1 = some _ from rfl) visited
  exact ⟨_, read, (readDisplay_marks read).1.mpr
    ⟨1, _, by decide, first, by decide +kernel, by decide +kernel⟩⟩

/-- A blob with a wrong byte in its header and a video timing block that is refused. -/
def neglected : Blob where
  base := Vector.ofFn fun position =>
    ((0x01 : Byte) :: List.replicate 6 0xff ++ List.replicate 11 0 ++ [1] ++ List.replicate 107 0 ++
      [1, 4]).getD position.val 0
  extensions := [Vector.ofFn fun position => [Block.timingBlockTag].getD position.val 0]
  count_eq := by decide +kernel

/-- A header was put right and an extension dropped, and nothing is marked. -/
theorem readDisplay_overlooks :
    ∃ display, (readDisplay (.ofBlob neglected) .standard ()).result = .ok display ∧
      display.corrupt = false ∧
      let readings := (readDisplay (.ofBlob neglected) .standard ()).readings
      Repaired .standard readings ∧ Dropped readings ∧
        ¬ (display.corrupt = true ↔
          Repaired .standard readings ∨ Dropped readings ∨ Forgiven readings) := by
  have serves := serves_ofBlob neglected
  have brought : (readBlob (.ofBlob neglected) .standard ()).result = .ok neglected.cleaned := by
    rw [readBlob_of_serves serves, Block.Validation.toExcept_of_ok (by decide +kernel), Except.map]
  have undamaged : neglected.cleaned.damaged = false := by decide +kernel
  have read := (readDisplay_of_readBlob brought).1
  rw [undamaged] at read
  have unmarked : (Display.ofBlob neglected.cleaned false).corrupt = false := by
    rw [Display.ofBlob]
  have visited : ∀ index ∈ [0, 1],
      index ∈ (readDisplay (.ofBlob neglected) .standard ()).readings.map Reading.index := by
    decide +kernel
  have base := serves.mem_readings (show neglected.block? 0 = some _ from rfl)
    (visited 0 (by decide))
  have extension := serves.mem_readings (show neglected.block? 1 = some _ from rfl)
    (visited 1 (by decide))
  have repaired : Repaired .standard
      (readDisplay (.ofBlob neglected) .standard ()).readings :=
    ⟨_, base, by decide +kernel, by decide +kernel⟩
  have dropped : Dropped (readDisplay (.ofBlob neglected) .standard ()).readings := by
    refine ⟨1, by decide, ⟨_, extension⟩, fun block member => ?_⟩
    obtain rfl := Except.ok.inj
      (serves.answer_eq (show neglected.block? 1 = some _ from rfl) member)
    decide +kernel
  refine ⟨_, read, unmarked, repaired, dropped, fun all => ?_⟩
  exact absurd (all.mpr (.inl repaired)) (Bool.eq_false_iff.mp unmarked)

end Mark

end Edid.Retrieval
