import Edid.Proofs.Modes.Origin
import Edid.Proofs.Parse

/-!
# Sync, scan and layout of modes

Every mode of a display has one polarity for each sync pulse and at most one stereo layout, and
needs neither composite sync nor lines that are shown twice. Whatever comes from a source is like
that, and the copies that later steps make keep it.
-/

set_option autoImplicit false

namespace Edid

/-! ## Modes from their sources -/

namespace Flags

/-- One polarity for each sync pulse, both pulses on wires of their own, every line once. -/
structure Regular (flags : Flags) : Prop where
  hsync : flags.hsyncPositive ≠ flags.hsyncNegative
  vsync : flags.vsyncPositive ≠ flags.vsyncNegative
  doubleScan : flags.doubleScan = false
  compositeSync : flags.compositeSync = false

instance (flags : Flags) : Decidable flags.Regular :=
  decidable_of_iff (flags.hsyncPositive ≠ flags.hsyncNegative ∧
    flags.vsyncPositive ≠ flags.vsyncNegative ∧ flags.doubleScan = false ∧
    flags.compositeSync = false)
    ⟨fun ⟨hsync, vsync, doubleScan, compositeSync⟩ => ⟨hsync, vsync, doubleScan, compositeSync⟩,
      fun regular => ⟨regular.hsync, regular.vsync, regular.doubleScan, regular.compositeSync⟩⟩

theorem regular_polarities (horizontal vertical : Bool) :
    (polarities horizontal vertical).Regular := by
  cases horizontal <;> cases vertical <;> decide

theorem Regular.withInterlaced {flags : Flags} (regular : flags.Regular) (interlaced : Bool) :
    Regular { flags with interlaced := interlaced } :=
  ⟨regular.hsync, regular.vsync, regular.doubleScan, regular.compositeSync⟩

end Flags

namespace Mode

/-- What every source gives: neither marked nor stereo. -/
structure Plain (mode : Mode) : Prop where
  flags : mode.flags.Regular
  stereo : mode.stereo = .none
  preferred : mode.preferred = false
  driver : mode.driver = true

instance (mode : Mode) : Decidable mode.Plain :=
  decidable_of_iff (mode.flags.Regular ∧ mode.stereo = .none ∧ mode.preferred = false ∧
    mode.driver = true)
    ⟨fun ⟨flags, stereo, preferred, driver⟩ => ⟨flags, stereo, preferred, driver⟩,
      fun plain => ⟨plain.flags, plain.stereo, plain.preferred, plain.driver⟩⟩

theorem plain_cvt {request : Formula.Request} {reduced : Bool} {mode : Mode}
    (found : Cvt.mode? request reduced = some mode) : mode.Plain := by
  rw [Cvt.mode?_eq_bind] at found
  split at found
  · contradiction
  · obtain ⟨blanking, _, found⟩ := Option.bind_eq_some_iff.mp found
    simp only [Cvt.Blanking.mode?, bind, Option.bind_eq_some_iff] at found
    obtain ⟨clock, _, horizontal, _, vertical, _, same⟩ := found
    cases same
    refine ⟨Flags.Regular.withInterlaced ?_ request.interlaced, rfl, rfl, rfl⟩
    split
    · exact Flags.regular_polarities true false
    · exact Flags.regular_polarities false true

theorem plain_gtf {request : Formula.Request} {curve : Gtf.Curve} {mode : Mode}
    (found : Gtf.mode? request curve = some mode) : mode.Plain := by
  rw [Gtf.mode?] at found
  split at found
  · contradiction
  · obtain ⟨lineRate, _, found⟩ := Option.bind_eq_some_iff.mp found
    split at found
    · contradiction
    · simp only [Gtf.Frame.mode?, bind, Option.bind_eq_some_iff] at found
      obtain ⟨clock, _, horizontal, _, vertical, _, same⟩ := found
      cases same
      refine ⟨Flags.Regular.withInterlaced ?_ request.interlaced, rfl, rfl, rfl⟩
      split
      · exact Flags.regular_polarities false true
      · exact Flags.regular_polarities true false

theorem plain_timing {timing : DetailedTiming} {context : TimingContext}
    {workarounds : Workarounds} {mode : Mode}
    (found : timing.mode? context workarounds = some mode) : mode.Plain := by
  rw [DetailedTiming.mode?] at found
  split at found
  · obtain ⟨bare, made, rfl⟩ := Option.map_eq_some_iff.mp found
    have plain : bare.Plain := by
      rw [DetailedTiming.bareMode?] at made
      split at made
      · exact plain_cvt made
      · cases made
        exact ⟨(Flags.regular_polarities _ _).withInterlaced timing.interlaced, rfl, rfl, rfl⟩
    exact ⟨plain.flags, plain.stereo, plain.preferred, plain.driver⟩
  · contradiction

theorem plain_of_mem_dmt : ∀ mode ∈ Dmt.modes, mode.Plain := by
  decide +kernel

theorem plain_of_mem_established : ∀ mode ∈ Established.modes, mode.Plain := by
  decide +kernel

theorem plain_of_mem_ctaFormats : ∀ entry ∈ ctaFormats, entry.2.Plain := by
  decide +kernel

theorem plain_of_mem_hdmiFormats : ∀ entry ∈ hdmiFormats, entry.2.Plain := by
  decide +kernel

theorem Sourced.plain {mode : Mode} (sourced : mode.Sourced) : mode.Plain := by
  induction sourced with
  | detailed found => exact plain_timing found
  | cvt found => exact plain_cvt found
  | gtf found => exact plain_gtf found
  | monitor member => exact plain_of_mem_dmt _ member
  | established member => exact plain_of_mem_established _ member
  | ctaFormat member => exact plain_of_mem_ctaFormats _ member
  | hdmiFormat member => exact plain_of_mem_hdmiFormats _ member
  | trimmed _ ih => exact ⟨ih.flags, ih.stereo, ih.preferred, ih.driver⟩
  | @snapped mode _ ih =>
      rw [snapClock]
      split
      · exact ih
      · exact ⟨ih.flags, ih.stereo, ih.preferred, ih.driver⟩

end Mode

/-! ## Modes of a display -/

namespace Mode

/-- A mode that can stand in the list of a display: from a source, or made from one that can. -/
inductive Derived : Mode → Prop where
  | sourced {mode : Mode} : mode.Sourced → Derived mode
  | displayId {timing : DisplayId.Timing} {mode : Mode} :
      timing.mode? = some mode → Derived mode
  | marked {mode : Mode} (preferred : Bool) : Derived mode → Derived (mode.withPreferred preferred)
  | stereo {mode : Mode} (layout : StereoLayout) :
      Derived mode → mode.stereo = .none → Derived (mode.inLayout layout)
  | alternate {mode other : Mode} :
      Derived mode → alternateMode? mode = some other → Derived other

/-- What a display can be driven with, in at most one stereo layout. -/
structure Regular (mode : Mode) : Prop where
  flags : mode.flags.Regular
  stereo : mode.stereo = .none ∨ ∃ layout, mode.stereo = Stereo.none.insert layout
  driver : mode.driver = true

theorem Plain.regular {mode : Mode} (plain : mode.Plain) : mode.Regular :=
  ⟨plain.flags, .inl plain.stereo, plain.driver⟩

/-- A DisplayID timing states both polarities and nothing else of this. -/
theorem fields_of_displayId {timing : DisplayId.Timing} {mode : Mode}
    (found : timing.mode? = some mode) :
    (∃ horizontal vertical, mode.flags = .polarities horizontal vertical) ∧
      mode.stereo = .none ∧ mode.driver = true := by
  simp only [DisplayId.Timing.mode?, bind, Option.bind_eq_some_iff] at found
  obtain ⟨_, _, _, _, same⟩ := found
  cases same
  exact ⟨⟨_, _, rfl⟩, rfl, rfl⟩

theorem regular_of_displayId {timing : DisplayId.Timing} {mode : Mode}
    (found : timing.mode? = some mode) : mode.Regular := by
  obtain ⟨⟨horizontal, vertical, flags⟩, flat, driver⟩ := fields_of_displayId found
  refine ⟨?_, .inl flat, driver⟩
  rw [flags]
  exact Flags.regular_polarities horizontal vertical

theorem Derived.regular {mode : Mode} (derived : mode.Derived) : mode.Regular := by
  induction derived with
  | sourced sourced => exact sourced.plain.regular
  | displayId found => exact regular_of_displayId found
  | marked preferred _ ih => exact ⟨ih.flags, ih.stereo, ih.driver⟩
  | stereo layout _ flat ih =>
      refine ⟨ih.flags, .inr ⟨layout, ?_⟩, ih.driver⟩
      rw [inLayout, flat]
  | alternate _ found ih =>
      -- The layout is that of the mode, everything else comes from a table.
      obtain ⟨format, clock, sourced, rfl⟩ := exists_format_of_alternateMode? found
      exact ⟨sourced.plain.flags, ih.stereo, sourced.plain.driver⟩

end Mode

section Lists

abbrev AllDerived (modes : List Mode) : Prop :=
  ∀ mode ∈ modes, mode.Derived

abbrev AllFlat (modes : List Mode) : Prop :=
  ∀ mode ∈ modes, mode.stereo = .none

theorem Extends.derived {old new : List Mode} (grown : Extends old new) (derived : AllDerived old) :
    AllDerived new := by
  obtain ⟨added, sourced, rfl⟩ := grown
  exact List.forall_mem_append.mpr ⟨derived, fun mode member => .sourced (sourced mode member)⟩

theorem Extends.flat {old new : List Mode} (grown : Extends old new) (flat : AllFlat old) :
    AllFlat new := by
  obtain ⟨added, sourced, rfl⟩ := grown
  exact List.forall_mem_append.mpr ⟨flat, fun mode member => (sourced mode member).plain.stereo⟩

variable (blob : Blob) (context : TimingContext) (workarounds : Workarounds)

theorem derived_baseModes : AllDerived (baseModes blob context workarounds) := by
  apply (extends_baseModes blob context workarounds).derived
  intro mode member
  obtain ⟨source, sourced, preferred, rfl⟩ :=
    exists_sourced_of_mem_detailedModes blob context workarounds member
  exact .marked preferred (.sourced sourced)

theorem flat_baseModes : AllFlat (baseModes blob context workarounds) := by
  apply (extends_baseModes blob context workarounds).flat
  intro mode member
  obtain ⟨source, sourced, preferred, rfl⟩ :=
    exists_sourced_of_mem_detailedModes blob context workarounds member
  exact sourced.plain.stereo

variable {modes : List Mode}

theorem derived_addFormatModes (derived : AllDerived modes) (flat : AllFlat modes) :
    AllDerived (addFormatModes blob modes) := by
  have grown := extends_formats modes (videoBlocks blob)
  intro mode member
  rcases List.mem_append.mp member with listed | added
  · exact grown.derived derived mode listed
  · rcases sourced_or_inLayout_of_mem_hdmiModes added with sourced | ⟨plain, listed, layout, rfl⟩
    · exact .sourced sourced
    · exact .stereo layout (grown.derived derived plain listed) (grown.flat flat plain listed)

theorem derived_addAlternateModes (derived : AllDerived modes) :
    AllDerived (addAlternateModes blob modes) := by
  obtain ⟨added, appended, halves⟩ := addAlternateModes_eq_append blob modes
  rw [appended]
  refine List.forall_mem_append.mpr ⟨derived, fun other member => ?_⟩
  obtain ⟨mode, listed, found⟩ := halves other member
  exact .alternate (derived mode listed) found

theorem derived_displayIdModes : AllDerived (displayIdModes blob) := by
  intro mode member
  obtain ⟨timing, found⟩ := exists_timing_of_mem_displayIdModes member
  exact .displayId found

theorem derived_collectModes : AllDerived (collectModes blob workarounds) := by
  let context := TimingContext.ofBlob blob
  have base := derived_baseModes blob context workarounds
  have formats := derived_addFormatModes blob base (flat_baseModes blob context workarounds)
  have alternates := derived_addAlternateModes blob formats
  have listed := List.forall_mem_append.mpr ⟨alternates, derived_displayIdModes blob⟩
  have inferred := (extends_addInferredModes context blob _).derived listed
  intro mode member
  obtain ⟨source, present, preferred, rfl⟩ := exists_of_mem_correctPreferred member
  exact .marked preferred (inferred source present)

end Lists

theorem modes_of_parse {policy : RepairPolicy} {bytes : List Byte} {display : Display}
    (parsed : parse policy bytes = .ok display) :
    display.modes = collectModes display.blob display.workarounds := by
  obtain ⟨blob, _, decoded⟩ := parse_ok_iff.mp parsed
  obtain ⟨_, rfl⟩ := parseBlob_ok_iff.mp decoded
  rfl

/-- Every mode of a display is regular, whichever source it comes from and whatever is made of it
on the way. -/
theorem regular_of_parse {policy : RepairPolicy} {bytes : List Byte} {display : Display}
    (parsed : parse policy bytes = .ok display) :
    ∀ mode ∈ display.modes,
      mode.flags.hsyncPositive ≠ mode.flags.hsyncNegative ∧
      mode.flags.vsyncPositive ≠ mode.flags.vsyncNegative ∧
      (mode.stereo = .none ∨ ∃ layout, mode.stereo = Stereo.none.insert layout) ∧
      mode.flags.doubleScan = false ∧ mode.flags.compositeSync = false ∧ mode.driver = true := by
  rw [modes_of_parse parsed]
  intro mode member
  have regular := (derived_collectModes _ _ mode member).regular
  exact ⟨regular.flags.hsync, regular.flags.vsync, regular.stereo, regular.flags.doubleScan,
    regular.flags.compositeSync, regular.driver⟩

/-- A television that prefers 720 lines at 60 Hz, lists the same format once more and announces
stereo. -/
def television : Blob where
  base := Vector.ofFn fun position =>
    (Block.header.toList ++ List.replicate 10 0 ++ [1, 3, 0x80, 0, 0, 0, 2] ++ List.replicate 29 0 ++
      [0x01, 0x1d, 0x00, 0x72, 0x51, 0xd0, 0x1e, 0x20, 0x6e, 0x28, 0x55, 0, 0, 0, 0, 0, 0, 0x1e] ++
      List.replicate 54 0 ++ [1, 0x87]).getD position.val 0
  extensions :=
    [Vector.ofFn fun position =>
      ([Block.ctaTag, 3, 17, 0, 0x41, 0x04, 0x6a, 0x03, 0x0c, 0x00, 0x10, 0x00, 0x00, 0x00, 0x20, 0x80,
        0x00] ++ List.replicate 110 0 ++ [0x7c]).getD position.val 0]
  count_eq := by decide

theorem parse_television :
    parse .standard television.toBytes = .ok (Display.ofBlob television false) :=
  parse_of_isValid (by decide +kernel) (by decide +kernel)

theorem regular_of_parse_television :
    ∃ display, parse .standard television.toBytes = .ok display ∧
      ∃ mode ∈ display.modes, mode.stereo = Stereo.none.insert .framePacking ∧
        mode.flags.hsyncPositive ≠ mode.flags.hsyncNegative := by
  have copied : ∃ mode ∈ (Display.ofBlob television false).modes,
      mode.stereo = Stereo.none.insert .framePacking := by decide +kernel
  obtain ⟨mode, member, stereo⟩ := copied
  exact ⟨_, parse_television, mode, member, stereo, (regular_of_parse parse_television mode member).1⟩

end Edid
