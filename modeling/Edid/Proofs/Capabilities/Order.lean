import Edid.Proofs.Capabilities.Kind
import Edid.Proofs.Cta.Rearrangement
import Mathlib.Data.List.Perm.Basic

/-!
# Capabilities and the order of data blocks

Data blocks of different kinds declare different things, apart from the clock. An HDMI Forum block
sets it beyond what HDMI 1.4 reaches, but an HDMI block sets it whatever was declared before. The
order of the data blocks shows there and nowhere else.
-/

set_option autoImplicit false

namespace Edid

/-- Two members that pass a test which at most one passes are the same. -/
theorem eq_of_countP_le_one {α : Type} {test : α → Bool} {items : List α} {first second : α}
    (once : items.countP test ≤ 1) (firstMember : first ∈ items) (secondMember : second ∈ items)
    (firstPasses : test first = true) (secondPasses : test second = true) : first = second := by
  induction items with
  | nil => contradiction
  | cons head tail ih =>
      rw [List.countP_cons] at once
      have alone (passes : test head = true) : ∀ other ∈ tail, ¬ test other = true := by
        rw [if_pos passes] at once
        exact List.countP_eq_zero.mp (Nat.le_zero.mp (Nat.le_of_add_le_add_right once))
      rcases List.mem_cons.mp firstMember with rfl | firstLater
      · rcases List.mem_cons.mp secondMember with rfl | secondLater
        · rfl
        · exact absurd secondPasses (alone firstPasses second secondLater)
      · rcases List.mem_cons.mp secondMember with rfl | secondLater
        · exact absurd firstPasses (alone secondPasses first firstLater)
        · exact ih (Nat.le_of_add_right_le once) firstLater secondLater

namespace Cta

/-! ## Declared clocks -/

/-- The clock that a data block declares, in kHz. -/
def DataBlock.declaredClock? (block : DataBlock) : Option Nat :=
  match block.capabilityKind? with
  | some .hdmi => if 7 ≤ block.length then some ((block.byte 7).toNat * 5000) else none
  | some .hdmiForum =>
      let clock := (block.byte 5).toNat * 5000
      if 340000 < clock then some clock else none
  | _ => none

/-- The clock that is declared last; zero if there is none. -/
def lastClock (blocks : List DataBlock) : Nat :=
  (blocks.filterMap DataBlock.declaredClock?).getLast?.getD 0

/-- A single clock is the last one in any order. -/
theorem lastClock_of_perm {blocks others : List DataBlock}
    (perm : (blocks.filterMap DataBlock.declaredClock?).Perm
      (others.filterMap DataBlock.declaredClock?))
    (few : (blocks.filterMap DataBlock.declaredClock?).length ≤ 1) :
    lastClock blocks = lastClock others := by
  rw [lastClock, lastClock]
  cases clocks : blocks.filterMap DataBlock.declaredClock? with
  | nil =>
      rw [clocks] at perm
      rw [perm.nil_eq]
  | cons clock rest =>
      rw [clocks, List.length_cons] at few
      obtain rfl : rest = [] := List.length_eq_zero_iff.mp (Nat.le_zero.mp (Nat.le_of_succ_le_succ few))
      rw [clocks] at perm
      rw [List.singleton_perm.mp perm]

/-- No two data blocks declare the same kind of capability. -/
def DeclareOnce (blocks : List DataBlock) : Prop :=
  ∀ kind : CapabilityKind, blocks.countP (·.declares kind) ≤ 1

end Cta

namespace Capabilities

theorem maxTmdsClock_absorb (capabilities : Capabilities) (block : Cta.DataBlock) :
    (capabilities.absorb block).maxTmdsClock =
      block.declaredClock?.getD capabilities.maxTmdsClock := by
  rw [absorb_eq, Cta.DataBlock.declaredClock?]
  cases block.capabilityKind? with
  | none => rfl
  | some kind =>
      cases kind with
      | hdmi =>
          simp only [absorbAs, absorbHdmi]
          split <;> rfl
      | hdmiForum =>
          simp only [absorbAs, absorbHdmiForum]
          split <;> rfl
      | y420Map | videoCapability | dynamicRange => rfl

theorem maxTmdsClock_foldl_absorb (capabilities : Capabilities) (blocks : List Cta.DataBlock) :
    (blocks.foldl absorb capabilities).maxTmdsClock =
      (blocks.filterMap Cta.DataBlock.declaredClock?).getLast?.getD capabilities.maxTmdsClock :=
  foldl_absorb_replaced maxTmdsClock maxTmdsClock_absorb capabilities blocks

/-! ## Everything but the clock -/

/-- A summary without its clock. -/
def clockless (capabilities : Capabilities) : Capabilities :=
  { capabilities with maxTmdsClock := 0 }

theorem eq_iff_clockless {left right : Capabilities} :
    left = right ↔
      left.clockless = right.clockless ∧ left.maxTmdsClock = right.maxTmdsClock := by
  constructor
  · rintro rfl
    exact ⟨rfl, rfl⟩
  · rintro ⟨rest, clock⟩
    calc
      left = { left.clockless with maxTmdsClock := left.maxTmdsClock } := rfl
      _ = { right.clockless with maxTmdsClock := right.maxTmdsClock } := by rw [rest, clock]
      _ = right := rfl

theorem clockless_absorb (capabilities : Capabilities) (block : Cta.DataBlock) :
    (capabilities.clockless.absorb block).clockless = (capabilities.absorb block).clockless := by
  rw [absorb_eq, absorb_eq]
  cases block.capabilityKind? with
  | none => rfl
  | some kind => cases kind <;> rfl

/-- Data blocks of different kinds do not get in each other's way. -/
theorem absorbAs_comm (capabilities : Capabilities) (first second : Cta.DataBlock)
    {kind other : Cta.CapabilityKind} (distinct : kind ≠ other) :
    ((capabilities.absorbAs first kind).absorbAs second other).clockless =
      ((capabilities.absorbAs second other).absorbAs first kind).clockless := by
  cases kind <;> cases other <;> first | contradiction | rfl

theorem absorb_comm (capabilities : Capabilities) {first second : Cta.DataBlock}
    (apart : ∀ kind, first.declares kind = true → second.declares kind = true → first = second) :
    ((capabilities.absorb first).absorb second).clockless =
      ((capabilities.absorb second).absorb first).clockless := by
  simp only [absorb_eq]
  cases known : first.capabilityKind? with
  | none => rfl
  | some kind =>
      cases otherKnown : second.capabilityKind? with
      | none => rfl
      | some other =>
          by_cases same : kind = other
          · subst same
            have equal := apart kind (Cta.DataBlock.declares_of_capabilityKind? known)
              (Cta.DataBlock.declares_of_capabilityKind? otherKnown)
            rw [equal]
          · exact absorbAs_comm capabilities first second same

theorem clockless_foldl_absorb (capabilities : Capabilities) (blocks : List Cta.DataBlock) :
    (blocks.foldl absorb capabilities).clockless =
      blocks.foldl (fun summary block => (summary.absorb block).clockless)
        capabilities.clockless := by
  induction blocks generalizing capabilities with
  | nil => rfl
  | cons block blocks ih =>
      rw [List.foldl_cons, List.foldl_cons, ih, clockless_absorb]

/-- Where no kind is declared twice, the order of data blocks shows in the clock only. -/
theorem foldl_absorb_perm {blocks others : List Cta.DataBlock} (perm : blocks.Perm others)
    (once : Cta.DeclareOnce blocks) (capabilities : Capabilities) :
    (blocks.foldl absorb capabilities).clockless =
      (others.foldl absorb capabilities).clockless := by
  rw [clockless_foldl_absorb, clockless_foldl_absorb]
  apply perm.foldl_eq'
  intro first firstMember second secondMember summary
  rw [clockless_absorb, clockless_absorb]
  apply absorb_comm
  intro kind firstDeclares secondDeclares
  exact eq_of_countP_le_one (once kind) firstMember secondMember firstDeclares secondDeclares

/-! ## The summary of a blob -/

/-- Adds what the base block says once the CTA-861 data is known. -/
def absorbDepth (capabilities : Capabilities) (blob : Blob) : Capabilities :=
  if 4 ≤ blob.revision then capabilities.absorbInput blob
  else if capabilities.bitsPerColor = 0 && blob.input.bit 0 then
    { capabilities with bitsPerColor := 8 }
  else
    capabilities

theorem ofBlob_of_declaresMore {blob : Blob} (more : ¬ blob.declaresBaseOnly = true)
    (workarounds : Workarounds) :
    ofBlob blob workarounds = ((ofBase blob workarounds).absorbCta blob).absorbDepth blob :=
  if_neg more

theorem maxTmdsClock_absorbDepth (capabilities : Capabilities) (blob : Blob) :
    (capabilities.absorbDepth blob).maxTmdsClock = capabilities.maxTmdsClock := by
  rw [absorbDepth]
  split
  · rfl
  · split <;> rfl

theorem clockless_absorbDepth (capabilities : Capabilities) (blob : Blob) :
    (capabilities.absorbDepth blob).clockless = capabilities.clockless.absorbDepth blob := by
  rw [absorbDepth, absorbDepth]
  split
  · rfl
  · split
    · next shallow => exact (if_pos shallow).symm
    · next deep => exact (if_neg deep).symm

theorem maxTmdsClock_absorbCta (capabilities : Capabilities) (blob : Blob) :
    (capabilities.absorbCta blob).maxTmdsClock =
      (blob.ctaBlocks.filterMap Cta.DataBlock.declaredClock?).getLast?.getD
        capabilities.maxTmdsClock := by
  rw [absorbCta]
  cases found : blob.cta? with
  | none =>
      rw [Blob.ctaBlocks, found]
      rfl
  | some collection => exact maxTmdsClock_foldl_absorb _ _

/-- The clock of a summary is the one that is declared last. -/
theorem maxTmdsClock_ofBlob {blob : Blob} (more : ¬ blob.declaresBaseOnly = true)
    (workarounds : Workarounds) :
    (ofBlob blob workarounds).maxTmdsClock = Cta.lastClock blob.ctaBlocks := by
  rw [ofBlob_of_declaresMore more, maxTmdsClock_absorbDepth, maxTmdsClock_absorbCta]
  rfl

variable {left right : Blob}

theorem ofBase_congr (base : left.base = right.base)
    (descriptors : left.descriptors = right.descriptors) (workarounds : Workarounds) :
    ofBase left workarounds = ofBase right workarounds := by
  rw [ofBase, ofBase, refreshRange?, refreshRange?, name?, name?, descriptors]
  cases left
  cases right
  cases base
  rfl

theorem absorbDepth_congr (base : left.base = right.base) (capabilities : Capabilities) :
    capabilities.absorbDepth left = capabilities.absorbDepth right := by
  cases left
  cases right
  cases base
  rfl

theorem declaresBaseOnly_congr (base : left.base = right.base) :
    left.declaresBaseOnly = right.declaresBaseOnly := by
  cases left
  cases right
  cases base
  rfl

theorem clockless_absorbCta (rearranged : left.Rearranged right)
    (once : Cta.DeclareOnce left.ctaBlocks) (capabilities : Capabilities) :
    (capabilities.absorbCta left).clockless = (capabilities.absorbCta right).clockless := by
  obtain ⟨collection, other, found, otherFound, revision, bits⟩ := rearranged.exists_collections
  rw [absorbCta, absorbCta, found, otherFound]
  simp only [revision, bits]
  exact foldl_absorb_perm rearranged.ctaBlocks_perm once _

theorem clockless_ofBlob (rearranged : left.Rearranged right)
    (once : Cta.DeclareOnce left.ctaBlocks) (workarounds : Workarounds) :
    (ofBlob left workarounds).clockless = (ofBlob right workarounds).clockless := by
  have base := rearranged.base
  have start := ofBase_congr base rearranged.descriptors_eq workarounds
  by_cases baseOnly : left.declaresBaseOnly = true
  · have otherBaseOnly := (declaresBaseOnly_congr base).symm.trans baseOnly
    rw [ofBlob_of_declaresBaseOnly baseOnly, ofBlob_of_declaresBaseOnly otherBaseOnly, start]
  · have more : ¬ right.declaresBaseOnly = true := by
      rw [← declaresBaseOnly_congr base]
      exact baseOnly
    rw [ofBlob_of_declaresMore baseOnly, ofBlob_of_declaresMore more, clockless_absorbDepth,
      clockless_absorbDepth, start, clockless_absorbCta rearranged once, absorbDepth_congr base]

/-- The order of the data blocks changes nothing but the clock, which is the one that is declared
last. Where no more than one is declared, nothing changes. -/
theorem ofBlob_rearranged (rearranged : left.Rearranged right)
    (once : Cta.DeclareOnce left.ctaBlocks) (workarounds : Workarounds) :
    let summary := ofBlob left workarounds
    let other := ofBlob right workarounds
    summary.clockless = other.clockless ∧
      (summary = other ↔ left.declaresBaseOnly = true ∨
        Cta.lastClock left.ctaBlocks = Cta.lastClock right.ctaBlocks) ∧
      ((left.ctaBlocks.filterMap Cta.DataBlock.declaredClock?).length ≤ 1 → summary = other) := by
  intro summary other
  have rest := clockless_ofBlob rearranged once workarounds
  have same : summary = other ↔ left.declaresBaseOnly = true ∨
      Cta.lastClock left.ctaBlocks = Cta.lastClock right.ctaBlocks := by
    by_cases baseOnly : left.declaresBaseOnly = true
    · have otherBaseOnly := (declaresBaseOnly_congr rearranged.base).symm.trans baseOnly
      have start := ofBase_congr rearranged.base rearranged.descriptors_eq workarounds
      have equal : summary = other := by
        simp only [summary, other, ofBlob_of_declaresBaseOnly baseOnly,
          ofBlob_of_declaresBaseOnly otherBaseOnly, start]
      exact iff_of_true equal (.inl baseOnly)
    · have more : ¬ right.declaresBaseOnly = true := by
        rw [← declaresBaseOnly_congr rearranged.base]
        exact baseOnly
      rw [eq_iff_clockless, or_iff_right baseOnly, maxTmdsClock_ofBlob baseOnly,
        maxTmdsClock_ofBlob more]
      exact and_iff_right rest
  refine ⟨rest, same, ?_⟩
  intro few
  have clocks := rearranged.ctaBlocks_perm.filterMap Cta.DataBlock.declaredClock?
  exact same.mpr (.inr (Cta.lastClock_of_perm clocks few))

end Capabilities

/-- An HDMI Forum block with a clock of 600 MHz. -/
def forumBlock : Cta.DataBlock :=
  ⟨Cta.DataBlock.vendorTag, [0xd8, 0x5d, 0xc4, 0x01, 0x78, 0x00, 0x00], by decide⟩

/-- An HDMI block that gives no clock. -/
def hdmiBlock : Cta.DataBlock :=
  ⟨Cta.DataBlock.vendorTag, [0x03, 0x0c, 0x00, 0x10, 0x00, 0x00, 0x00], by decide⟩

/-- An extension with two data blocks of 16 bytes together. Its checksum is right for those above. -/
def receiverExtension (first second : Cta.DataBlock)
    (fits : (Cta.DataBlock.stored [first, second]).length = 16) : Block :=
  ⟨([Block.ctaTag, 3, 20, 0] ++
      (Cta.DataBlock.stored [first, second] ++ (List.replicate 107 0 ++ [0x88]))).toArray, by
    simp [fits]⟩

def forumFirst : Block :=
  receiverExtension forumBlock hdmiBlock (by decide)

def hdmiFirst : Block :=
  receiverExtension hdmiBlock forumBlock (by decide)

/-- The base block of a digital display with one extension. -/
def receiverBase : Block :=
  ⟨(Block.header.toList ++ (List.replicate 10 0 ++ ([1, 3, 0x80] ++
      (List.replicate 105 0 ++ [1, 0x81])))).toArray, by simp⟩

def receiver (extension : Block) : Blob where
  base := receiverBase
  extensions := [extension]
  count_eq := List.length_singleton.trans (by decide)

theorem toList_receiverExtension (first second : Cta.DataBlock)
    (fits : (Cta.DataBlock.stored [first, second]).length = 16) :
    (receiverExtension first second fits).toList = [Block.ctaTag, 3, 20, 0] ++
      (Cta.DataBlock.stored [first, second] ++ (List.replicate 107 0 ++ [0x88])) :=
  rfl

theorem span_receiverExtension (first second : Cta.DataBlock)
    (fits : (Cta.DataBlock.stored [first, second]).length = 16) :
    CtaSpan [] (receiverExtension first second fits) []
      (.ofExtension (receiverExtension first second fits)) 4 20 :=
  .direct (List.forall_mem_nil _) rfl rfl

theorem ctaBlocks_receiver (first second : Cta.DataBlock)
    (fits : (Cta.DataBlock.stored [first, second]).length = 16) :
    (receiver (receiverExtension first second fits)).ctaBlocks = [first, second] := by
  have region := Block.between_of_split (toList_receiverExtension first second fits)
  rw [fits] at region
  have blocks := (span_receiverExtension first second fits).ctaBlocks_eq
    (show (receiver (receiverExtension first second fits)).extensions = _ from rfl)
  rw [blocks, ← Cta.DataBlock.readAll_stored [first, second], ← region]
  rfl

theorem rearranged_receiver : (receiver forumFirst).Rearranged (receiver hdmiFirst) := by
  have swap : Cta.Rearranged (Cta.DataBlock.stored [forumBlock, hdmiBlock])
      (Cta.DataBlock.stored [hdmiBlock, forumBlock]) :=
    ⟨_, _, [], .swap _ _ _, by rw [Cta.DataBlock.readAll], (List.append_nil _).symm,
      (List.append_nil _).symm⟩
  have differ : forumFirst.RearrangedAt 4 20 hdmiFirst :=
    .of_split (toList_receiverExtension _ _ _) (toList_receiverExtension _ _ _) swap
  exact ⟨rfl, [], _, _, [], _, 4, 20, rfl, rfl, span_receiverExtension _ _ _, differ⟩

theorem declareOnce_receiver : Cta.DeclareOnce (receiver forumFirst).ctaBlocks := by
  rw [forumFirst, ctaBlocks_receiver]
  intro kind
  cases kind <;> decide

theorem declaresMore_receiver (extension : Block) :
    ¬ (receiver extension).declaresBaseOnly = true := by
  have revision : receiverBase.byte 19 = 3 := by decide
  have digital : (receiverBase.byte 20).bit 7 = true := by decide
  change ¬ (decide ((receiverBase.byte 19).toNat < 3) || !(receiverBase.byte 20).bit 7) = true
  rw [revision, digital]
  decide

theorem Capabilities.ofBlob_rearranged_receiver :
    ∃ other : Blob, (receiver forumFirst).Rearranged other ∧
      other.ctaBlocks = [hdmiBlock, forumBlock] ∧
      Cta.DeclareOnce (receiver forumFirst).ctaBlocks ∧
      (ofBlob (receiver forumFirst) .none).clockless = (ofBlob other .none).clockless ∧
      ofBlob (receiver forumFirst) .none ≠ ofBlob other .none := by
  have span := span_receiverExtension forumBlock hdmiBlock (by decide)
  have found : (receiver forumFirst).cta? = some (.ofExtension forumFirst) := span.cta?_eq rfl
  have blocks : (receiver forumFirst).ctaBlocks = [forumBlock, hdmiBlock] :=
    ctaBlocks_receiver forumBlock hdmiBlock (by decide)
  have perm : (receiver forumFirst).ctaBlocks.Perm [hdmiBlock, forumBlock] :=
    blocks ▸ .swap hdmiBlock forumBlock []
  obtain ⟨other, rearranged, order⟩ := Blob.exists_rearranged found span.dataBlocks_eq perm
  obtain ⟨rest, same, _⟩ := ofBlob_rearranged rearranged declareOnce_receiver .none
  refine ⟨other, rearranged, order, declareOnce_receiver, rest, ?_⟩
  intro equal
  rcases same.mp equal with baseOnly | clocks
  · exact declaresMore_receiver forumFirst baseOnly
  · have different : Cta.lastClock [forumBlock, hdmiBlock] ≠
        Cta.lastClock [hdmiBlock, forumBlock] := by decide
    rw [blocks, order] at clocks
    exact different clocks

/-- An HDMI block that gives no clock takes away the one that was declared before it. -/
theorem Capabilities.receiver_loses_clock :
    (receiver forumFirst).Rearranged (receiver hdmiFirst) ∧
      Cta.DeclareOnce (receiver forumFirst).ctaBlocks ∧
      ofBlob (receiver forumFirst) .none ≠ ofBlob (receiver hdmiFirst) .none ∧
      (ofBlob (receiver forumFirst) .none).maxTmdsClock = 0 ∧
      (ofBlob (receiver hdmiFirst) .none).maxTmdsClock = 600000 := by
  have lost : (ofBlob (receiver forumFirst) .none).maxTmdsClock = 0 := by
    rw [maxTmdsClock_ofBlob (declaresMore_receiver forumFirst), forumFirst, ctaBlocks_receiver]
    decide
  have kept : (ofBlob (receiver hdmiFirst) .none).maxTmdsClock = 600000 := by
    rw [maxTmdsClock_ofBlob (declaresMore_receiver hdmiFirst), hdmiFirst, ctaBlocks_receiver]
    decide
  refine ⟨rearranged_receiver, declareOnce_receiver, ?_, lost, kept⟩
  intro same
  rw [same, kept] at lost
  contradiction

end Edid
