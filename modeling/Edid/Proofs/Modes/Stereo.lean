import Edid.Proofs.Modes.Regular

/-!
# Stereo modes and the plain modes beside them

A display lists a stereo mode only along with the plain mode of the same timing. Stereo modes are
copies of listed modes, and the other half of a stereo mode stands beside the other half of its
plain one, since a match does not look at the layout.
-/

set_option autoImplicit false

namespace Edid

/-- Beside every mode of a list stands a plain one of the same timing. A plain mode is its own. -/
def Accompanied (modes : List Mode) : Prop :=
  ∀ mode ∈ modes, ∃ plain ∈ modes, plain.stereo = .none ∧ plain.SameTiming mode

theorem accompanied_of_flat {modes : List Mode} (flat : AllFlat modes) : Accompanied modes := by
  intro mode member
  exact ⟨mode, member, flat mode member, .refl mode⟩

namespace Accompanied

/-- What is added may stand beside modes that are listed and beside modes that are added. -/
theorem append {old added : List Mode} (accompanied : Accompanied old)
    (beside : ∀ mode ∈ added, ∃ plain ∈ old ++ added, plain.stereo = .none ∧ plain.SameTiming mode) :
    Accompanied (old ++ added) := by
  intro mode member
  rcases List.mem_append.mp member with listed | new
  · obtain ⟨plain, present, flat, same⟩ := accompanied mode listed
    exact ⟨plain, List.mem_append_left added present, flat, same⟩
  · exact beside mode new

theorem append_flat {old added : List Mode} (accompanied : Accompanied old) (flat : AllFlat added) :
    Accompanied (old ++ added) := by
  apply accompanied.append
  intro mode member
  exact ⟨mode, List.mem_append_right old member, flat mode member, .refl mode⟩

theorem of_extends {old new : List Mode} (grown : Extends old new) (accompanied : Accompanied old) :
    Accompanied new := by
  obtain ⟨added, sourced, rfl⟩ := grown
  exact accompanied.append_flat fun mode member => (sourced mode member).plain.stereo

end Accompanied

/-! ## Steps -/

section Steps

variable (blob : Blob) {modes : List Mode}

theorem accompanied_addFormatModes (flat : AllFlat modes) :
    Accompanied (addFormatModes blob modes) := by
  have listedFlat := (extends_formats modes (videoBlocks blob)).flat flat
  apply (accompanied_of_flat listedFlat).append
  intro mode member
  rcases sourced_or_inLayout_of_mem_hdmiModes member with sourced | ⟨plain, listed, layout, rfl⟩
  · exact ⟨mode, List.mem_append_right _ member, sourced.plain.stereo, .refl mode⟩
  · exact ⟨plain, List.mem_append_left _ listed, listedFlat plain listed, rfl, rfl, rfl, rfl, rfl⟩

/-- Modes of one timing have the same other half, each in its own layout. -/
theorem Mode.SameTiming.alternateMode?_eq {plain mode other : Mode} (same : plain.SameTiming mode)
    (found : alternateMode? mode = some other) :
    alternateMode? plain = some { other with stereo := plain.stereo } := by
  obtain ⟨format, matched, paired, half⟩ := alternateMode?_eq_some_iff.mp found
  rw [← same.format?_eq] at matched
  rw [← same.clock] at half
  apply alternateMode?_eq_some_iff.mpr
  refine ⟨format, matched, paired, ?_⟩
  rcases half with ⟨first, rfl⟩ | ⟨second, rfl⟩
  · exact .inl ⟨first, rfl⟩
  · exact .inr ⟨second, rfl⟩

theorem accompanied_addAlternateModes (accompanied : Accompanied modes) :
    Accompanied (addAlternateModes blob modes) := by
  rw [addAlternateModes]
  split
  · apply accompanied.append
    intro other member
    obtain ⟨mode, listed, found⟩ := List.mem_filterMap.mp member
    obtain ⟨plain, present, flat, same⟩ := accompanied mode listed
    have twin := List.mem_filterMap.mpr ⟨plain, present, same.alternateMode?_eq found⟩
    exact ⟨_, List.mem_append_right modes twin, flat, rfl, rfl, rfl, rfl, rfl⟩
  · exact accompanied

theorem flat_displayIdModes : AllFlat (displayIdModes blob) := by
  intro mode member
  obtain ⟨timing, found⟩ := exists_timing_of_mem_displayIdModes member
  exact (Mode.fields_of_displayId found).2.1

theorem exists_mem_preferOnly {mode : Mode} (position : Nat) (member : mode ∈ modes) :
    ∃ preferred, mode.withPreferred preferred ∈ preferOnly position modes := by
  obtain ⟨index, placed⟩ := List.mem_iff_getElem?.mp member
  have paired := List.mk_mem_zipIdx_iff_getElem?.mpr placed
  exact ⟨index == position, List.mem_map.mpr ⟨(mode, index), paired, rfl⟩⟩

theorem exists_mem_correctPreferred {mode : Mode} (workarounds : Workarounds)
    (member : mode ∈ modes) :
    ∃ preferred, mode.withPreferred preferred ∈ correctPreferred workarounds modes := by
  rw [correctPreferred]
  split
  · exact exists_mem_preferOnly _ member
  · split
    · exact exists_mem_preferOnly _ member
    · exact ⟨mode.preferred, member⟩

theorem accompanied_correctPreferred (workarounds : Workarounds) (accompanied : Accompanied modes) :
    Accompanied (correctPreferred workarounds modes) := by
  intro marked member
  obtain ⟨mode, listed, _, rfl⟩ := exists_of_mem_correctPreferred member
  obtain ⟨plain, present, flat, same⟩ := accompanied mode listed
  obtain ⟨_, present⟩ := exists_mem_correctPreferred workarounds present
  exact ⟨_, present, flat, same.clock, same.horizontal, same.vertical, same.aspect, same.flags⟩

end Steps

theorem accompanied_collectModes (blob : Blob) (workarounds : Workarounds) :
    Accompanied (collectModes blob workarounds) := by
  let context := TimingContext.ofBlob blob
  have formats := accompanied_addFormatModes blob (flat_baseModes blob context workarounds)
  have alternates := accompanied_addAlternateModes blob formats
  have listed := alternates.append_flat (flat_displayIdModes blob)
  have inferred := listed.of_extends (extends_addInferredModes context blob _)
  exact accompanied_correctPreferred workarounds inferred

/-- For every stereo mode of a display the display has the same mode without a layout. -/
theorem accompanied_of_parse {policy : RepairPolicy} {bytes : List Byte} {display : Display}
    (parsed : parse policy bytes = .ok display) :
    ∀ mode ∈ display.modes, mode.stereo ≠ .none →
      ∃ plain ∈ display.modes, plain.stereo = .none ∧ plain.clock = mode.clock ∧
        plain.horizontal = mode.horizontal ∧ plain.vertical = mode.vertical ∧
        plain.aspect = mode.aspect ∧ plain.flags = mode.flags := by
  rw [modes_of_parse parsed]
  intro mode member _
  obtain ⟨plain, present, flat, same⟩ := accompanied_collectModes _ _ mode member
  exact ⟨plain, present, flat, same.clock, same.horizontal, same.vertical, same.aspect, same.flags⟩

/-- The television lists the other half of its format in a stereo layout, and without one. -/
theorem accompanied_of_parse_television :
    ∃ display, parse .standard television.toBytes = .ok display ∧
      ∃ mode ∈ display.modes, mode.stereo = Stereo.none.insert .topAndBottom ∧ mode.clock = 74176 ∧
        ∃ plain ∈ display.modes, plain.stereo = .none ∧ plain.clock = 74176 := by
  have copied : ∃ mode ∈ (Display.ofBlob television false).modes,
      mode.stereo = Stereo.none.insert .topAndBottom ∧ mode.clock = 74176 := by decide +kernel
  obtain ⟨mode, member, stereo, clock⟩ := copied
  have layered : mode.stereo ≠ .none := by
    rw [stereo]
    decide
  obtain ⟨plain, present, flat, same, _⟩ := accompanied_of_parse parse_television mode member layered
  exact ⟨_, parse_television, mode, member, stereo, clock, plain, present, flat, same.trans clock⟩

end Edid
