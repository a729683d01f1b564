import Edid.Proofs.Capabilities.Y420

/-!
# Displays that declare their base block only

Of an analog display, or one before revision 3, no capability of an extension counts. What its
video data blocks list is decoded all the same, and recording the formats leaves three traces in a
summary that should have none of them.
-/

set_option autoImplicit false

namespace Edid

namespace Capabilities

theorem forceBits_none (capabilities : Capabilities) : capabilities.forceBits .none = capabilities :=
  rfl

/-- A summary with the traces of formats at quarter chroma resolution and of modes that the HDMI
block adds. -/
def traced (capabilities : Capabilities) (codes : List Vic) (added : List Mode) : Capabilities :=
  { capabilities with
    y420Only := VicSet.empty.insertAll codes
    colorFormats := { ycbcr420 := !codes.isEmpty }
    infoframe := !added.isEmpty }

theorem traced_eq_self_iff {capabilities : Capabilities} {codes : List Vic} {added : List Mode}
    (only : capabilities.y420Only = .empty) (formats : capabilities.colorFormats = {})
    (infoframe : capabilities.infoframe = false) :
    capabilities.traced codes added = capabilities ↔ codes = [] ∧ added = [] := by
  constructor
  · intro same
    have noCodes := congrArg (·.colorFormats.ycbcr420) same
    have noModes := congrArg (·.infoframe) same
    simp only [traced, formats, infoframe] at noCodes noModes
    exact ⟨by simpa using noCodes, by simpa using noModes⟩
  · rintro ⟨rfl, rfl⟩
    cases capabilities
    cases only
    cases formats
    cases infoframe
    rfl

end Capabilities

/-- The codes of all formats that are shown at quarter chroma resolution only. -/
def y420OnlyCodes (blob : Blob) : List Vic :=
  (videoBlocks blob).flatMap Cta.DataBlock.y420OnlyCodes

/-- What the HDMI block adds to a list and the formats of the video data blocks. -/
def addedByHdmi (blob : Blob) (modes : List Mode) : List Mode :=
  hdmiModes (videoBlocks blob) (modes ++ (videoBlocks blob).flatMap Cta.DataBlock.formats)

/-- Without a map no bit is set, and nothing is recorded as also shown. -/
theorem Cta.DataBlock.y420AlsoCodes_zero (block : Cta.DataBlock) : block.y420AlsoCodes 0 = [] := by
  apply List.eq_nil_iff_forall_not_mem.mpr
  intro code member
  obtain ⟨_, _, _, _, set, _⟩ := mem_y420AlsoCodes_iff.mp member
  rw [Nat.zero_testBit] at set
  contradiction

theorem Capabilities.absorbFormats_ofBase (blob : Blob) (workarounds : Workarounds)
    (modes : List Mode) :
    (ofBase blob workarounds).absorbFormats blob modes =
      (ofBase blob workarounds).traced (y420OnlyCodes blob) (addedByHdmi blob modes) := by
  have none : (videoBlocks blob).flatMap (Cta.DataBlock.y420AlsoCodes 0) = [] := by
    rw [List.flatMap_eq_nil_iff]
    intro block _
    exact block.y420AlsoCodes_zero
  have nothing : VicSet.empty.insertAll [] = .empty := rfl
  simp only [absorbFormats, traced, addedByHdmi, y420OnlyCodes, ofBase, none, nothing, Bool.false_or]

/-- Without workarounds, such a display has no depth, no HDMI and no map of formats. Its summary is
that of its base block but for three traces of its formats, and without them exactly if no format is
shown at quarter chroma resolution only and the HDMI block adds no mode. -/
theorem capabilities_of_parse_analog {policy : RepairPolicy} {bytes : List Byte} {display : Display}
    (parsed : parse policy bytes = .ok display)
    (baseOnly : display.blob.revision < 3 ∨ display.blob.isDigital = false)
    (ordinary : display.workarounds = .none) :
    let base := Capabilities.ofBase display.blob .none
    let codes := y420OnlyCodes display.blob
    let listed := baseModes display.blob (TimingContext.ofBlob display.blob) .none
    let added := addedByHdmi display.blob listed
    display.capabilities.bitsPerColor = 0 ∧ display.capabilities.hdmi = false ∧
      display.capabilities.y420Also = .empty ∧
      display.capabilities = base.traced codes added ∧
      (display.capabilities = base ↔ codes = [] ∧ added = []) := by
  intro base codes listed added
  have early : display.blob.declaresBaseOnly = true := by
    rcases baseOnly with old | analog
    · simp [Blob.declaresBaseOnly, old]
    · simp [Blob.declaresBaseOnly, analog]
  have traces : display.capabilities = base.traced codes added := by
    rw [capabilities_of_parse parsed, collectCapabilities, ordinary, Capabilities.forceBits_none,
      Capabilities.ofBlob_of_declaresBaseOnly early]
    exact Capabilities.absorbFormats_ofBase display.blob .none listed
  rw [traces]
  exact ⟨rfl, rfl, rfl, rfl, Capabilities.traced_eq_self_iff rfl rfl rfl⟩

/-- An analog display whose extension lists a format that is shown at quarter chroma resolution
only. -/
def projector : Blob where
  base := Vector.ofFn fun position =>
    (Block.header.toList ++ List.replicate 10 0 ++ [1, 3] ++ List.replicate 106 0 ++
      [1, 1]).getD position.val 0
  extensions :=
    [Vector.ofFn fun position =>
      ([Block.ctaTag, 3, 7, 0, 0xe2, 0x0e, 0x61] ++ List.replicate 120 0 ++ [0xa3]).getD position.val 0]
  count_eq := by decide +kernel

theorem parse_projector :
    parse .standard projector.toBytes = .ok (Display.ofBlob projector false) :=
  parse_of_isValid (by decide +kernel) (by decide +kernel)

theorem capabilities_projector :
    projector.isDigital = false ∧ (Display.ofBlob projector false).workarounds = .none ∧
      y420OnlyCodes projector = [97] ∧
      (Display.ofBlob projector false).capabilities.colorFormats = { ycbcr420 := true } ∧
      (Display.ofBlob projector false).capabilities.y420Only.contains 97 = true := by
  decide +kernel

theorem capabilities_of_parse_analog_projector :
    ∃ display, parse .standard projector.toBytes = .ok display ∧ display.blob.isDigital = false ∧
      display.workarounds = .none ∧ display.capabilities.bitsPerColor = 0 ∧
      display.capabilities ≠ Capabilities.ofBase display.blob .none := by
  obtain ⟨analog, ordinary, codes, _⟩ := capabilities_projector
  obtain ⟨depth, _, _, _, bare⟩ :=
    capabilities_of_parse_analog parse_projector (.inr analog) ordinary
  refine ⟨_, parse_projector, analog, ordinary, depth, ?_⟩
  intro same
  have none : y420OnlyCodes projector = [] := (bare.mp same).1
  rw [codes] at none
  contradiction

/-- An analog display without workarounds reports an encoding, and the format that is shown in it,
though its base block declares neither. -/
theorem projector_reports_quarter_chroma :
    ∃ display, parse .standard projector.toBytes = .ok display ∧ display.blob.isDigital = false ∧
      display.workarounds = .none ∧ display.capabilities.colorFormats ≠ {} ∧
      display.capabilities.y420Only.contains 97 = true := by
  obtain ⟨analog, ordinary, _, formats, listed⟩ := capabilities_projector
  refine ⟨_, parse_projector, analog, ordinary, ?_, listed⟩
  rw [formats]
  decide

end Edid
