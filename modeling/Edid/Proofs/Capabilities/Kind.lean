import Edid.Capabilities.OfBlob

/-!
# Data blocks that declare capabilities

Five kinds of data blocks say what a display can do. A data block is absorbed as one of them or
not at all, whatever is known before, and none of them records a format.
-/

set_option autoImplicit false

namespace Edid

namespace Cta

/-- What a data block can declare. -/
inductive CapabilityKind where
  | hdmi
  | hdmiForum
  | y420Map
  | videoCapability
  | dynamicRange
  deriving DecidableEq, Repr

namespace DataBlock

def declares (block : DataBlock) : CapabilityKind → Bool
  | .hdmi => block.isHdmi
  | .hdmiForum => block.isHdmiForum
  | .y420Map => block.isY420CapabilityMap
  | .videoCapability => block.isVideoCapability
  | .dynamicRange => block.isHdrStaticMetadata

/-- The kind that a data block is absorbed as: the first that it declares. -/
def capabilityKind? (block : DataBlock) : Option CapabilityKind :=
  [.hdmi, .hdmiForum, .y420Map, .videoCapability, .dynamicRange].find? block.declares

theorem declares_of_capabilityKind? {block : DataBlock} {kind : CapabilityKind}
    (known : block.capabilityKind? = some kind) : block.declares kind = true :=
  List.find?_some known

theorem tag_of_extended? {block : DataBlock} {tag : Byte} (found : block.extended? = some tag) :
    block.tag = extendedTag := by
  rw [extended?] at found
  split at found
  · assumption
  · contradiction

/-- A map of formats is absorbed as one, since it is no vendor block. -/
theorem capabilityKind?_eq_y420Map_iff {block : DataBlock} :
    block.capabilityKind? = some .y420Map ↔ block.isY420CapabilityMap = true := by
  constructor
  · exact declares_of_capabilityKind?
  · intro isMap
    have extended : block.tag = extendedTag :=
      tag_of_extended? (of_decide_eq_true isMap)
    have other : ¬ block.tag = vendorTag := by
      rw [extended]
      decide
    have notHdmi : block.isHdmi = false := by simp [isHdmi, other]
    have notForum : block.isHdmiForum = false := by simp [isHdmiForum, other]
    simp only [capabilityKind?, List.find?_cons, declares, notHdmi, notForum, isMap]

end DataBlock

end Cta

namespace Capabilities

/-- Adds what a data block of the given kind says. -/
def absorbAs (capabilities : Capabilities) (block : Cta.DataBlock) :
    Cta.CapabilityKind → Capabilities
  | .hdmi => capabilities.absorbHdmi block
  | .hdmiForum => capabilities.absorbHdmiForum block
  | .y420Map => capabilities.absorbY420Map block
  | .videoCapability => { capabilities with rgbRangeSelectable := (block.byte 2).bit 6 }
  | .dynamicRange => { capabilities with dynamicRange := some (DynamicRange.ofBlock block) }

theorem absorb_eq (capabilities : Capabilities) (block : Cta.DataBlock) :
    capabilities.absorb block =
      match block.capabilityKind? with
      | some kind => capabilities.absorbAs block kind
      | none => capabilities := by
  rw [absorb, Cta.DataBlock.capabilityKind?]
  simp only [List.find?_cons, Cta.DataBlock.declares]
  cases block.isHdmi with
  | true => rfl
  | false =>
  cases block.isHdmiForum with
  | true => rfl
  | false =>
  cases block.isY420CapabilityMap with
  | true => rfl
  | false =>
  cases block.isVideoCapability with
  | true => rfl
  | false =>
  cases block.isHdrStaticMetadata with
  | true => rfl
  | false => rfl

/-- Where a data block replaces what a field says or leaves it, the last one that replaces it
counts. -/
theorem foldl_absorb_replaced {α : Type} (field : Capabilities → α)
    {declared? : Cta.DataBlock → Option α}
    (each : ∀ capabilities block,
      field (absorb capabilities block) = (declared? block).getD (field capabilities))
    (capabilities : Capabilities) (blocks : List Cta.DataBlock) :
    field (blocks.foldl absorb capabilities) =
      (blocks.filterMap declared?).getLast?.getD (field capabilities) := by
  induction blocks generalizing capabilities with
  | nil => rfl
  | cons block blocks ih =>
      rw [List.foldl_cons, ih, each, List.filterMap_cons]
      cases declared? block with
      | none => rfl
      | some value =>
          rw [List.getLast?_cons]
          rfl

/-- Where a data block sets a flag or leaves it, one that sets it is enough. -/
theorem foldl_absorb_accumulated (flag : Capabilities → Bool) {sets : Cta.DataBlock → Bool}
    (each : ∀ capabilities block,
      flag (absorb capabilities block) = (flag capabilities || sets block))
    (capabilities : Capabilities) (blocks : List Cta.DataBlock) :
    flag (blocks.foldl absorb capabilities) = (flag capabilities || blocks.any sets) := by
  induction blocks generalizing capabilities with
  | nil => rw [List.any_nil, Bool.or_false, List.foldl_nil]
  | cons block blocks ih => rw [List.foldl_cons, ih, each, List.any_cons, Bool.or_assoc]

/-- No format is recorded as one that can be shown at quarter chroma resolution. -/
structure Unrecorded (capabilities : Capabilities) : Prop where
  only : capabilities.y420Only = .empty
  also : capabilities.y420Also = .empty

namespace Unrecorded

variable {capabilities : Capabilities}

theorem absorb (unrecorded : capabilities.Unrecorded) (block : Cta.DataBlock) :
    (capabilities.absorb block).Unrecorded := by
  obtain ⟨only, also⟩ := unrecorded
  rw [absorb_eq]
  cases block.capabilityKind? with
  | none => exact ⟨only, also⟩
  | some kind => cases kind <;> exact ⟨only, also⟩

theorem foldl_absorb (unrecorded : capabilities.Unrecorded) (blocks : List Cta.DataBlock) :
    (blocks.foldl Capabilities.absorb capabilities).Unrecorded := by
  induction blocks generalizing capabilities with
  | nil => exact unrecorded
  | cons block blocks ih => exact ih (unrecorded.absorb block)

theorem absorbCta (unrecorded : capabilities.Unrecorded) (blob : Blob) :
    (capabilities.absorbCta blob).Unrecorded := by
  obtain ⟨only, also⟩ := unrecorded
  rw [Capabilities.absorbCta]
  split
  · exact ⟨only, also⟩
  · apply foldl_absorb
    exact ⟨only, also⟩

end Unrecorded

/-- What the data blocks declare names no formats; those are recorded from the formats alone. -/
theorem unrecorded_ofBlob (blob : Blob) (workarounds : Workarounds) :
    (ofBlob blob workarounds).Unrecorded := by
  have base : (ofBase blob workarounds).Unrecorded := ⟨rfl, rfl⟩
  obtain ⟨only, also⟩ := base.absorbCta blob
  rw [ofBlob]
  split
  · exact base
  · dsimp only
    split
    · exact ⟨only, also⟩
    · split
      · exact ⟨only, also⟩
      · exact ⟨only, also⟩

end Capabilities

/-- An analog display, or one before revision 3. -/
def Blob.declaresBaseOnly (blob : Blob) : Bool :=
  blob.revision < 3 || !blob.isDigital

theorem Capabilities.ofBlob_of_declaresBaseOnly {blob : Blob}
    (baseOnly : blob.declaresBaseOnly = true) (workarounds : Workarounds) :
    ofBlob blob workarounds = ofBase blob workarounds :=
  if_pos baseOnly

end Edid
