import Edid.Proofs.Machine.Stereo

/-!
# Modes of CTA-861 data in machine words

The formats of the data blocks, what the last HDMI block adds to them, and the other halves of
pairs. All modes fit their words, and there are few enough for the HDMI block to count.
-/

set_option autoImplicit false

namespace Edid

open Machine

theorem Cta.DataBlock.length_pos_of_isY420Video {block : DataBlock}
    (special : block.isY420Video = true) : 1 ≤ block.length := by
  rw [isY420Video, extended?, decide_eq_true_eq] at special
  split at special
  · rw [length]
    cases found : block.payload with
    | nil =>
        rw [found] at special
        contradiction
    | cons => simp
  · contradiction

/-- The payload behind the further tag. -/
theorem Cta.DataBlock.slice_payload {block : DataBlock} (special : block.isY420Video = true) :
    slice block.payload 1 block.length = .ok (block.payload.drop 1) := by
  rw [slice_eq ⟨length_pos_of_isY420Video special, Nat.le_refl _⟩, length, List.take_length]

section Twins

def Cta.DataBlock.checkedFormats (block : DataBlock) : Checked (List Mode) := do
  if block.tag = videoTag then
    block.payload.filterMapM checkedShortDescriptorFormat?
  else if block.isY420Video then
    (← slice block.payload 1 block.length).filterMapM checkedShortDescriptorFormat?
  else
    return []

def checkedVideoBlocks (blob : Blob) : Checked (List Cta.DataBlock) := do
  match ← blob.checkedCta? with
  | none => return []
  | some collection =>
      if collection.revision < 3 then return [] else blob.checkedCtaBlocks

/-- The modes of the last HDMI block, with a count of them. -/
def checkedHdmiModes (blocks : List Cta.DataBlock) (listed : List Mode) :
    Checked (List Mode × Nat) := do
  match (blocks.filter Cta.DataBlock.isHdmi).getLast? with
  | some block =>
      (← HdmiVideo.checkedOfBlock block).checkedModes (lastVideoPayload blocks) listed
  | none => return ([], 0)

def checkedAddFormatModes (blob : Blob) (modes : List Mode) : Checked (List Mode) := do
  let blocks ← checkedVideoBlocks blob
  let listed := modes ++ (← blocks.flatMapM Cta.DataBlock.checkedFormats)
  let (added, _) ← checkedHdmiModes blocks listed
  return listed ++ added

def checkedAddAlternateModes (blob : Blob) (modes : List Mode) : Checked (List Mode) := do
  if (← blob.checkedCta?).isSome then
    return modes ++ (← modes.filterMapM checkedAlternateMode?)
  else
    return modes

end Twins

section Blocks

theorem Cta.DataBlock.checkedFormats_eq (block : DataBlock) :
    block.checkedFormats = .ok block.formats := by
  rw [checkedFormats, formats]
  split
  · exact filterMapM_ok fun descriptor _ => checkedShortDescriptorFormat?_eq descriptor
  · split
    · next special =>
        refine ok_step (slice_payload special) ?_
        exact filterMapM_ok fun descriptor _ => checkedShortDescriptorFormat?_eq descriptor
    · rfl

theorem Cta.DataBlock.allFit_formats (block : DataBlock) : AllFit block.formats := by
  rw [formats]
  split
  · exact allFit_filterMap fun _ _ => fits_shortDescriptorFormat?
  · split
    · exact allFit_filterMap fun _ _ => fits_shortDescriptorFormat?
    · exact allFit_nil

theorem checkedVideoBlocks_eq (blob : Blob) : checkedVideoBlocks blob = .ok (videoBlocks blob) := by
  rw [videoBlocks]
  refine ok_step blob.checkedCta?_eq ?_
  cases blob.cta? with
  | none => rfl
  | some collection =>
      dsimp only
      split
      · rfl
      · exact blob.checkedCtaBlocks_eq

/-- The modes of a base block and the formats behind it. -/
theorem allFit_listed {modes : List Mode} (fit : AllFit modes) (blocks : List Cta.DataBlock) :
    AllFit (modes ++ blocks.flatMap Cta.DataBlock.formats) :=
  allFit_append fit (allFit_flatMap Cta.DataBlock.allFit_formats)

theorem length_listed_lt {modes : List Mode} (few : modes.length ≤ 0x80000) (blob : Blob) :
    (modes ++ (videoBlocks blob).flatMap Cta.DataBlock.formats).length < 0x1000000 := by
  have formats := length_formats_le blob
  rw [List.length_append]
  omega

end Blocks

section Added

theorem checkedHdmiModes_eq (blocks : List Cta.DataBlock) {listed : List Mode}
    (fit : AllFit listed) (few : listed.length < 0x1000000) :
    checkedHdmiModes blocks listed =
      .ok (hdmiModes blocks listed, (hdmiModes blocks listed).length) := by
  rw [checkedHdmiModes, hdmiModes]
  cases (blocks.filter Cta.DataBlock.isHdmi).getLast? with
  | none => rfl
  | some block =>
      refine ok_step (HdmiVideo.checkedOfBlock_eq block) ?_
      exact HdmiVideo.checkedModes_eq (HdmiVideo.small_ofBlock block) _ fit few

theorem allFit_hdmiModes (blocks : List Cta.DataBlock) {listed : List Mode}
    (fit : AllFit listed) : AllFit (hdmiModes blocks listed) := by
  rw [hdmiModes]
  split
  · exact HdmiVideo.allFit_modes _ _ fit
  · exact allFit_nil

theorem checkedAddFormatModes_eq (blob : Blob) {modes : List Mode} (fit : AllFit modes)
    (few : modes.length ≤ 0x80000) :
    checkedAddFormatModes blob modes = .ok (addFormatModes blob modes) := by
  refine ok_step (checkedVideoBlocks_eq blob) ?_
  refine ok_step (flatMapM_ok fun block _ => block.checkedFormats_eq) ?_
  refine ok_step (checkedHdmiModes_eq _ (allFit_listed fit _) (length_listed_lt few blob)) ?_
  rfl

theorem allFit_addFormatModes (blob : Blob) {modes : List Mode} (fit : AllFit modes) :
    AllFit (addFormatModes blob modes) :=
  allFit_append (allFit_listed fit _) (allFit_hdmiModes _ (allFit_listed fit _))

theorem checkedAddAlternateModes_eq (blob : Blob) (modes : List Mode) :
    checkedAddAlternateModes blob modes = .ok (addAlternateModes blob modes) := by
  rw [addAlternateModes]
  refine ok_step blob.checkedCta?_eq ?_
  split
  · exact ok_step (filterMapM_ok fun mode _ => checkedAlternateMode?_eq mode) (pure_eq _)
  · rfl

theorem allFit_addAlternateModes (blob : Blob) {modes : List Mode} (fit : AllFit modes) :
    AllFit (addAlternateModes blob modes) := by
  rw [addAlternateModes]
  split
  · exact allFit_append fit (allFit_filterMap fun _ _ => fits_alternateMode?)
  · exact fit

end Added

end Edid
