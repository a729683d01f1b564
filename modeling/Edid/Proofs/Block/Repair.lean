import Edid.Proofs.Block.Validation
import Mathlib.InformationTheory.Hamming

/-!
# Header repair corrects errors

A base block in order is known from all of its bytes behind the header, since the header is the same
in all of them. Damage to the header is made good exactly if few enough bytes are hit, whichever
they are and whatever stands there instead, and what comes out is the block that was sent.
-/

set_option autoImplicit false

namespace Edid.Block

/-- The block was received as another one, with errors in the header at most. -/
def ReceivedAs (sent received : Block) : Prop :=
  ∀ position : Fin 128, 8 ≤ position.val → received.byte position = sent.byte position

instance (sent received : Block) : Decidable (sent.ReceivedAs received) :=
  inferInstanceAs (Decidable (∀ position : Fin 128, 8 ≤ position.val →
    received.byte position = sent.byte position))

/-! ## Counting errors -/

/-- The score is the number of places where the byte of the header stands. -/
theorem headerScore_eq_card (block : Block) :
    block.headerScore =
      (Finset.univ.filter fun place : Fin 8 => header[place] = block[place]).card := by
  have pairs : header.toList.zip block.toList =
      (List.finRange 8).map fun place => (header[place], block[place]) := by
    apply List.ext_getElem (by simp)
    intro place inside _
    simp [List.getElem_zip]
  rw [headerScore, pairs, List.countP_map, List.countP_eq_length_filter]
  simp only [Function.comp_def, beq_eq_decide]
  rfl

/-- The errors in a received block. All of them are in its header. -/
theorem ReceivedAs.errors_eq {sent received : Block} (complete : sent.headerScore = 8)
    (damage : sent.ReceivedAs received) :
    (Finset.univ.filter fun position => received.byte position ≠ sent.byte position) =
      (Finset.univ.filter fun place : Fin 8 => ¬ header[place] = received[place]).map
        (Fin.castLEEmb (by decide)) := by
  ext position
  rw [Finset.mem_filter_univ, Finset.mem_map]
  constructor
  · intro differs
    have inHeader : position.val < 8 := by
      by_contra behind
      exact differs (damage position (Nat.le_of_not_lt behind))
    refine ⟨⟨position.val, inHeader⟩, Finset.mem_filter_univ _ |>.mpr fun same => differs ?_, rfl⟩
    exact same.symm.trans (headerScore_eq_eight_iff.mp complete position.val inHeader).symm
  · rintro ⟨place, member, rfl⟩ same
    have wrong := (Finset.mem_filter_univ place).mp member
    exact wrong ((headerScore_eq_eight_iff.mp complete place.val place.isLt).symm.trans same.symm)

/-- Every header byte is either in place or an error. -/
theorem ReceivedAs.hammingDist_add_headerScore {sent received : Block}
    (complete : sent.headerScore = 8) (damage : sent.ReceivedAs received) :
    hammingDist received.byte sent.byte + received.headerScore = 8 := by
  rw [hammingDist, damage.errors_eq complete, Finset.card_map, headerScore_eq_card, Nat.add_comm,
    Finset.card_filter_add_card_filter_not, Finset.card_univ, Fintype.card_fin]

/-! ## Making good -/

/-- Putting the header in place takes all errors out. -/
theorem ReceivedAs.withHeader_eq {sent received : Block} (complete : sent.headerScore = 8)
    (damage : sent.ReceivedAs received) : received.withHeader = sent := by
  apply Vector.ext
  intro position inside
  rw [getElem_withHeader]
  split
  · next inHeader => exact (headerScore_eq_eight_iff.mp complete position inHeader).symm
  · next behind => exact damage ⟨position, inside⟩ (Nat.le_of_not_lt behind)

/-- A block with a whole header and no other errors is the one that was sent. -/
theorem ReceivedAs.headerScore_eq_eight_iff {sent received : Block}
    (complete : sent.headerScore = 8) (damage : sent.ReceivedAs received) :
    received.headerScore = 8 ↔ received = sent := by
  constructor
  · intro whole
    rw [← withHeader_of_headerScore whole, damage.withHeader_eq complete]
  · rintro rfl
    exact complete

/-- Nothing is wrong with a base block that passes without a mark. -/
theorem soundBase_of_undamaged {policy : RepairPolicy} {block : Block}
    (accepted : (block.validateBase policy).ok = true)
    (undamaged : (block.validateBase policy).corrupt = false) : block.SoundBase := by
  have sound := (validateBase_ok_iff.mp accepted).2
  have complete : block.headerScore = 8 := by
    simpa [validateBase_of_ok accepted, Validation.corrupt] using undamaged
  rwa [withHeader_of_headerScore complete] at sound

/-- What becomes of a sound base block with errors in its header. -/
theorem SoundBase.validateBase_received {sent received : Block} (sound : sent.SoundBase)
    (damage : sent.ReceivedAs received) (policy : RepairPolicy) :
    received.validateBase policy =
      if policy.threshold ≤ received.headerScore then
        ⟨sent, decide (received ≠ sent), false, none⟩
      else
        ⟨received, false, false, some (.badHeader received.headerScore)⟩ := by
  have repaired := damage.withHeader_eq sound.header
  split
  · next enough =>
      have accepted : (received.validateBase policy).ok = true :=
        validateBase_ok_iff.mpr ⟨enough, repaired ▸ sound⟩
      have differs : received.headerScore ≠ 8 ↔ received ≠ sent :=
        not_congr (damage.headerScore_eq_eight_iff sound.header)
      rw [validateBase_of_ok accepted, repaired, decide_eq_decide.mpr differs]
  · next few => exact validateBase_of_lt (Nat.lt_of_not_le few)

/-- A base block that passes without a mark is recovered from every damage to its header, whatever
policy is asked, exactly if enough header bytes are left, so if there are few enough errors. The
mark tells whether there were any. A policy that asks for the whole header lets the undamaged block
pass and no other. -/
theorem validateBase_corrects_header {first : RepairPolicy} {sent : Block}
    (accepted : (sent.validateBase first).ok = true)
    (undamaged : (sent.validateBase first).corrupt = false) (policy : RepairPolicy)
    {received : Block} (damage : sent.ReceivedAs received) :
    ((received.validateBase policy).ok = true ↔ policy.threshold ≤ received.headerScore) ∧
      ((received.validateBase policy).ok = true ↔
        hammingDist received.byte sent.byte ≤ 8 - policy.threshold) ∧
      (policy.threshold = 8 → ((received.validateBase policy).ok = true ↔ received = sent)) ∧
      ((received.validateBase policy).ok = true →
        (received.validateBase policy).block = sent ∧
          ((received.validateBase policy).corrupt = true ↔ received ≠ sent)) := by
  have sound := soundBase_of_undamaged accepted undamaged
  have errors := damage.hammingDist_add_headerScore sound.header
  have whole := damage.headerScore_eq_eight_iff sound.header
  have bound := policy.threshold_le
  have passes : (received.validateBase policy).ok = true ↔
      policy.threshold ≤ received.headerScore := by
    rw [validateBase_ok_iff, damage.withHeader_eq sound.header]
    exact and_iff_left sound
  refine ⟨passes, passes.trans (by omega), fun strict => ?_, fun recovered => ?_⟩
  · rw [passes, strict, ← whole]
    omega
  · rw [sound.validateBase_received damage, if_pos (passes.mp recovered)]
    exact ⟨rfl, by simp [Validation.corrupt]⟩

/-- A base block that says nothing, in order. -/
def bare : Block :=
  ((Block.withHeader (.replicate 128 0)).setIfInBounds 18 1).setIfInBounds 127 5

/-- The same with two errors, of which one makes its tag that of a CTA extension. -/
def bareDamaged : Block :=
  (bare.setIfInBounds 0 ctaTag).setIfInBounds 5 0

theorem validateBase_corrects_header_bare :
    bare.ReceivedAs bareDamaged ∧ bareDamaged.tag = ctaTag ∧
      (bareDamaged.validateBase .standard).ok = true ∧
      (bareDamaged.validateBase .standard).block = bare ∧
      (bareDamaged.validateBase .standard).corrupt = true ∧
      (bareDamaged.validateBase (.ofScore 7)).ok = false := by
  have accepted : (bare.validateBase .standard).ok = true := by decide +kernel
  have undamaged : (bare.validateBase .standard).corrupt = false := by decide +kernel
  have damage : bare.ReceivedAs bareDamaged := by
    intro position behind
    have first : 0 ≠ position.val := by omega
    have sixth : 5 ≠ position.val := by omega
    rw [byte, bareDamaged, Vector.getElem_setIfInBounds_ne _ sixth,
      Vector.getElem_setIfInBounds_ne _ first, byte]
  have differs : bareDamaged ≠ bare := by
    intro same
    exact absurd (congrArg tag same) (by decide +kernel)
  obtain ⟨passes, _, _, recovers⟩ :=
    validateBase_corrects_header accepted undamaged .standard damage
  have recovered := passes.mpr (by decide +kernel)
  obtain ⟨strict, _⟩ := validateBase_corrects_header accepted undamaged (.ofScore 7) damage
  refine ⟨damage, by decide +kernel, recovered, (recovers recovered).1,
    (recovers recovered).2.mpr differs, ?_⟩
  rw [Bool.eq_false_iff, ne_eq, strict]
  decide +kernel

end Edid.Block
