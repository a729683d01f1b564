import Edid.Capabilities.Audio
import Edid.Modes.Formats
import Edid.Proofs.Capabilities.Order
import Edid.Proofs.Cta.Container

/-!
# Views of CTA-861 data

The summary of a display and the questions about its sound and connection each walk the data blocks
on their own. They agree on what an HDMI display is and on what has sound. Data that ends where it
cannot is an error to those that ask for details of sound, and empty to all others.
-/

set_option autoImplicit false

namespace Edid

private theorem ok_ne_error {α : Type} {value : α} {error : Error} :
    (.ok value : Except Error α) ≠ .error error := by
  intro same
  cases same

private theorem map_eq_error_iff {α β : Type} {f : α → β} {result : Except Error α}
    {error : Error} : result.map f = .error error ↔ result = .error error := by
  cases result with
  | error other =>
      change Except.error other = .error error ↔ _
      rw [Except.error.injEq, Except.error.injEq]
  | ok value => exact iff_of_false ok_ne_error ok_ne_error

/-! ## Data that ends where it cannot -/

/-- The first CTA-861 extension is of revision 3 or later and gives an end of its data blocks that
lies inside its header or past its checksum. -/
def Blob.EndsWrong (blob : Blob) (stop : Nat) : Prop :=
  ∃ extension, blob.extensions.find? (·.tag == Block.ctaTag) = some extension ∧
    3 ≤ (extension.byte 1).toNat ∧ (extension.byte 2).toNat = stop ∧
    (1 ≤ stop ∧ stop ≤ 3 ∨ 128 ≤ stop)

namespace Cta.Collection

theorem bounds_ofExtension_eq_error_iff {extension : Block} (tag : extension.tag = Block.ctaTag)
    {error : Error} :
    (ofExtension extension).bounds = .error error ↔
      (1 ≤ (extension.byte 2).toNat ∧ (extension.byte 2).toNat ≤ 3 ∨
        128 ≤ (extension.byte 2).toNat) ∧ error = .range (extension.byte 2).toNat 128 := by
  have other : ¬ Block.ctaTag = DisplayId.ctaTag := by decide
  have size : (ofExtension extension).byte 2 = extension.byte 2 := byte_ofExtension extension 2
  have length : (ofExtension extension).bytes.length = 128 := extension.length_toList
  rw [bounds, tag_ofExtension, tag, size, length, if_neg other, if_pos rfl]
  generalize (extension.byte 2).toNat = stop
  by_cases zero : stop = 0
  · subst stop
    exact iff_of_false ok_ne_error (by omega)
  · simp only [if_neg zero]
    split
    · next inside => exact iff_of_false ok_ne_error (by omega)
    · next outside =>
        constructor
        · intro refused
          cases refused
          exact ⟨by omega, rfl⟩
        · rintro ⟨_, rfl⟩
          rfl

theorem bounds_ofDataBlock_ne_error {block : DisplayId.DataBlock}
    (tag : block.tag = DisplayId.ctaTag) (error : Error) :
    (ofDataBlock block).bounds ≠ .error error := by
  have same : (ofDataBlock block).tag = DisplayId.ctaTag := tag
  rw [bounds_of_displayIdTag same]
  exact ok_ne_error

end Cta.Collection

namespace Blob

variable {blob : Blob} {error : Error}

/-- Only an extension can give its end wrongly; a wrapped collection is as long as its data block. -/
theorem audioDetails_eq_error_iff :
    blob.audioDetails = .error error ↔
      ∃ stop, blob.EndsWrong stop ∧ error = .range stop 128 := by
  rw [audioDetails]
  cases direct : blob.extensions.find? (·.tag == Block.ctaTag) with
  | some extension =>
      have marked := List.find?_some direct
      have tag : extension.tag = Block.ctaTag := beq_iff_eq.mp marked
      have revision : (Cta.Collection.ofExtension extension).revision =
          (extension.byte 1).toNat :=
        congrArg UInt8.toNat (Cta.Collection.byte_ofExtension extension 1)
      rw [cta?_of_find direct]
      change (if (Cta.Collection.ofExtension extension).revision < 3 then Except.ok []
        else (Cta.Collection.ofExtension extension).dataBlocks) = .error error ↔ _
      rw [revision]
      split
      · next early =>
          apply iff_of_false ok_ne_error
          rintro ⟨stop, ⟨other, found, recent, _⟩, _⟩
          cases direct.symm.trans found
          omega
      · next recent =>
          rw [Cta.Collection.dataBlocks, map_eq_error_iff,
            Cta.Collection.bounds_ofExtension_eq_error_iff tag]
          constructor
          · rintro ⟨wrong, rfl⟩
            exact ⟨_, ⟨extension, direct, by omega, rfl, wrong⟩, rfl⟩
          · rintro ⟨stop, ⟨other, found, _, rfl, wrong⟩, rfl⟩
            cases direct.symm.trans found
            exact ⟨wrong, rfl⟩
  | none =>
      apply iff_of_false
      · rw [cta?_of_find_none direct]
        cases found : blob.displayIdBlocks.find? fun block => block.tag == DisplayId.ctaTag with
        | none => exact ok_ne_error
        | some block =>
            have marked := List.find?_some found
            have tag : block.tag = DisplayId.ctaTag := beq_iff_eq.mp marked
            change (if (Cta.Collection.ofDataBlock block).revision < 3 then Except.ok []
              else (Cta.Collection.ofDataBlock block).dataBlocks) ≠ .error error
            split
            · exact ok_ne_error
            · rw [ne_eq, Cta.Collection.dataBlocks, map_eq_error_iff]
              exact Cta.Collection.bounds_ofDataBlock_ne_error tag error
      · rintro ⟨stop, ⟨other, found, _⟩, _⟩
        cases direct.symm.trans found

theorem audioFormats_eq_error_iff :
    blob.audioFormats = .error error ↔ blob.audioDetails = .error error :=
  map_eq_error_iff

theorem speakers_eq_error_iff :
    blob.speakers = .error error ↔ blob.audioDetails = .error error :=
  map_eq_error_iff

theorem ctaBlocks_eq_nil_of_error (refused : blob.audioDetails = .error error) :
    blob.ctaBlocks = [] := by
  rw [audioDetails] at refused
  rw [ctaBlocks]
  cases found : blob.cta? with
  | none => rfl
  | some collection =>
      rw [found] at refused
      dsimp only at refused ⊢
      split at refused
      · contradiction
      · rw [refused]

theorem isHdmi_of_error (refused : blob.audioDetails = .error error) : blob.isHdmi = false := by
  rw [isHdmi, ctaBlocks_eq_nil_of_error refused, List.any_nil]

theorem addFormatModes_of_error (refused : blob.audioDetails = .error error) (modes : List Mode) :
    addFormatModes blob modes = modes := by
  have none : videoBlocks blob = [] := by
    rw [videoBlocks, ctaBlocks_eq_nil_of_error refused]
    split
    · rfl
    · split <;> rfl
  rw [addFormatModes, none]
  change modes ++ [] ++ [] = modes
  rw [List.append_nil, List.append_nil]

/-- Details of sound that are read at all are read from the data blocks that all others walk. -/
theorem subset_ctaBlocks_of_audioDetails {blocks : List Cta.DataBlock}
    (read : blob.audioDetails = .ok blocks) : blocks ⊆ blob.ctaBlocks := by
  rw [audioDetails] at read
  cases found : blob.cta? with
  | none =>
      rw [found] at read
      cases read
      exact List.nil_subset _
  | some collection =>
      rw [found] at read
      dsimp only at read
      split at read
      · cases read
        exact List.nil_subset _
      · rw [ctaBlocks, found]
        simp only [read]
        exact List.Subset.refl blocks

theorem hasAudio_of_audioFormats {formats : List AudioFormat}
    (read : blob.audioFormats = .ok formats) (some : formats ≠ []) : blob.hasAudio = true := by
  rw [audioFormats] at read
  cases content : blob.audioDetails with
  | error error =>
      rw [content] at read
      cases read
  | ok blocks =>
      rw [content] at read
      cases listed : blocks.find? fun block => block.tag == Cta.DataBlock.audioTag with
      | none =>
          simp only [Except.map, listed] at read
          cases read
          contradiction
      | some block =>
          have marked := List.find?_some listed
          have present := subset_ctaBlocks_of_audioDetails content
            (List.mem_of_find?_eq_some listed)
          have heard : (blob.ctaBlocks.any fun block => block.tag == Cta.DataBlock.audioTag) = true :=
            List.any_eq_true.mpr ⟨block, present, marked⟩
          rw [hasAudio]
          cases found : blob.cta? with
          | none =>
              rw [ctaBlocks, found] at present
              contradiction
          | some collection =>
              rw [heard]
              exact Bool.or_true _

end Blob

/-! ## HDMI displays -/

namespace Capabilities

theorem hdmi_absorb (capabilities : Capabilities) (block : Cta.DataBlock) :
    (capabilities.absorb block).hdmi = (capabilities.hdmi || block.isHdmi) := by
  rw [absorb_eq, Cta.DataBlock.capabilityKind?, List.find?_cons]
  cases declared : block.declares .hdmi with
  | true =>
      have isHdmi : block.isHdmi = true := declared
      rw [isHdmi, Bool.or_true]
      rfl
  | false =>
      have isHdmi : block.isHdmi = false := declared
      rw [isHdmi, Bool.or_false]
      cases known : [Cta.CapabilityKind.hdmiForum, .y420Map, .videoCapability, .dynamicRange].find?
          block.declares with
      | none => rfl
      | some kind =>
          have member := List.mem_of_find?_eq_some known
          cases kind with
          | hdmi => simp at member
          | hdmiForum | y420Map | videoCapability | dynamicRange => rfl

theorem hdmi_foldl_absorb (capabilities : Capabilities) (blocks : List Cta.DataBlock) :
    (blocks.foldl absorb capabilities).hdmi =
      (capabilities.hdmi || blocks.any Cta.DataBlock.isHdmi) :=
  foldl_absorb_accumulated hdmi hdmi_absorb capabilities blocks

theorem hdmi_absorbCta (capabilities : Capabilities) (blob : Blob) :
    (capabilities.absorbCta blob).hdmi = (capabilities.hdmi || blob.isHdmi) := by
  rw [absorbCta, Blob.isHdmi]
  cases found : blob.cta? with
  | none =>
      rw [Blob.ctaBlocks, found, List.any_nil, Bool.or_false]
  | some collection => exact hdmi_foldl_absorb _ _

theorem hdmi_absorbDepth (capabilities : Capabilities) (blob : Blob) :
    (capabilities.absorbDepth blob).hdmi = capabilities.hdmi := by
  rw [absorbDepth]
  split
  · rfl
  · split <;> rfl

theorem hdmi_ofBlob {blob : Blob} (more : ¬ blob.declaresBaseOnly = true)
    (workarounds : Workarounds) : (ofBlob blob workarounds).hdmi = blob.isHdmi := by
  rw [ofBlob_of_declaresMore more, hdmi_absorbDepth, hdmi_absorbCta]
  exact Bool.false_or _

end Capabilities

/-- The walks agree. A summary that counts extensions calls a display an HDMI display exactly if the
question does, and listed sound is heard. Details of sound and speakers are refused together,
exactly for data that ends where it cannot and with that end in the error; such data adds no modes
and makes no HDMI display. -/
theorem capability_views_agree (blob : Blob) (workarounds : Workarounds) :
    (3 ≤ blob.revision → blob.isDigital = true →
      (Capabilities.ofBlob blob workarounds).hdmi = blob.isHdmi) ∧
    (∀ formats, blob.audioFormats = .ok formats → formats ≠ [] → blob.hasAudio = true) ∧
    (∀ error, blob.audioFormats = .error error ↔ blob.speakers = .error error) ∧
    (∀ error, blob.audioFormats = .error error ↔
      ∃ stop, blob.EndsWrong stop ∧ error = .range stop 128) ∧
    (∀ error, blob.audioFormats = .error error →
      (∀ modes, addFormatModes blob modes = modes) ∧ blob.isHdmi = false) := by
  refine ⟨?_, ?_, ?_, ?_, ?_⟩
  · intro recent digital
    apply Capabilities.hdmi_ofBlob
    rw [Blob.declaresBaseOnly, digital, Bool.not_true, Bool.or_false, decide_eq_true_eq]
    exact Nat.not_lt_of_le recent
  · intro formats read some
    exact Blob.hasAudio_of_audioFormats read some
  · intro error
    rw [Blob.audioFormats_eq_error_iff, Blob.speakers_eq_error_iff]
  · intro error
    rw [Blob.audioFormats_eq_error_iff, Blob.audioDetails_eq_error_iff]
  · intro error read
    have refused := Blob.audioFormats_eq_error_iff.mp read
    exact ⟨Blob.addFormatModes_of_error refused, Blob.isHdmi_of_error refused⟩

/-- The base block of a digital display with one extension. -/
def soundingBase : Block :=
  Vector.ofFn fun position =>
    (Block.header.toList ++ List.replicate 10 0 ++ [1, 3, 0x80] ++ List.replicate 105 0 ++
      [1]).getD position.val 0

/-- A display whose extension gives this end for a block of sound and an HDMI block. -/
def sounding (stop : Byte) : Blob :=
  .single soundingBase
    (Vector.ofFn fun position =>
      [Block.ctaTag, 3, stop, 0, 0x23, 0x09, 0x07, 0x07, 0x65, 0x03, 0x0c, 0x00, 0x10,
        0x00].getD position.val 0)
    (by decide +kernel)

theorem capability_views_agree_sounding :
    3 ≤ (sounding 14).revision ∧ (sounding 14).isDigital = true ∧
      (Capabilities.ofBlob (sounding 14) .none).hdmi = true ∧
      (sounding 14).audioFormats = .ok [⟨1, 1, 7, 7⟩] ∧ (sounding 14).hasAudio = true ∧
      (sounding 2).EndsWrong 2 ∧ (sounding 2).audioFormats = .error (.range 2 128) ∧
      (sounding 2).speakers = .error (.range 2 128) ∧
      addFormatModes (sounding 2) [] = [] ∧ (sounding 2).isHdmi = false := by
  obtain ⟨hdmi, heard, _, _, _⟩ := capability_views_agree (sounding 14) .none
  obtain ⟨_, _, together, exactly, empty⟩ := capability_views_agree (sounding 2) .none
  have recent : 3 ≤ (sounding 14).revision := by decide +kernel
  have digital : (sounding 14).isDigital = true := by decide +kernel
  have asked : (sounding 14).isHdmi = true := by decide +kernel
  have listed : (sounding 14).audioFormats = .ok [⟨1, 1, 7, 7⟩] := by decide +kernel
  have wrong : (sounding 2).EndsWrong 2 :=
    ⟨_, List.find?_cons_of_pos (by decide +kernel), by decide +kernel, by decide +kernel, by decide⟩
  have refused := (exactly _).mpr ⟨2, wrong, rfl⟩
  obtain ⟨unchanged, other⟩ := empty _ refused
  exact ⟨recent, digital, (hdmi recent digital).trans asked, listed,
    heard _ listed (List.cons_ne_nil _ _), wrong, refused, (together _).mp refused, unchanged [],
    other⟩

end Edid
