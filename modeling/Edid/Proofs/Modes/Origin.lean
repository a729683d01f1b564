import Edid.Parse
import Edid.Proofs.Machine.Inferred
import Edid.Proofs.Machine.Stereo

/-!
# Where modes come from

Every mode starts out as a timing that is read, computed or listed. Sources put their modes behind
those that are there, whatever they look up in the list before. Only the first detailed timing
is marked on the way.
-/

set_option autoImplicit false

namespace Edid

namespace Mode

/-- A mode as it comes from a source other than DisplayID. -/
inductive Sourced : Mode → Prop where
  | detailed {timing : DetailedTiming} {context : TimingContext} {workarounds : Workarounds}
      {mode : Mode} : timing.mode? context workarounds = some mode → Sourced mode
  | cvt {request : Formula.Request} {reduced : Bool} {mode : Mode} :
      Cvt.mode? request reduced = some mode → Sourced mode
  | gtf {request : Formula.Request} {curve : Gtf.Curve} {mode : Mode} :
      Gtf.mode? request curve = some mode → Sourced mode
  | monitor {mode : Mode} : mode ∈ Dmt.modes → Sourced mode
  | established {mode : Mode} : mode ∈ Established.modes → Sourced mode
  | ctaFormat {entry : Vic × Mode} : entry ∈ ctaFormats → Sourced entry.2
  | hdmiFormat {entry : Vic × Mode} : entry ∈ hdmiFormats → Sourced entry.2
  | trimmed {mode : Mode} : Sourced mode → Sourced mode.trimmedToPanel
  | snapped {mode : Mode} : Sourced mode → Sourced mode.snapClock

/-- The modes agree in everything that formats are told apart by. -/
structure SameTiming (left right : Mode) : Prop where
  clock : left.clock = right.clock
  horizontal : left.horizontal = right.horizontal
  vertical : left.vertical = right.vertical
  aspect : left.aspect = right.aspect
  flags : left.flags = right.flags

namespace SameTiming

theorem refl (mode : Mode) : mode.SameTiming mode :=
  ⟨rfl, rfl, rfl, rfl, rfl⟩

/-- A match asks for neither the mark nor the layout of a mode. -/
theorem findCta?_eq {left right : Mode} (same : left.SameTiming right) (rule : ClockRule) :
    left.findCta? rule = right.findCta? rule := by
  obtain ⟨clock, horizontal, vertical, aspect, flags⟩ := same
  simp only [findCta?, clockFits, agrees, formatParts, clock, horizontal, vertical, aspect, flags,
    Bool.not_false, Bool.true_or]

theorem format?_eq {left right : Mode} (same : left.SameTiming right) (rule : ClockRule) :
    left.format? rule = right.format? rule := by
  rw [format?, format?, same.findCta?_eq]
  obtain ⟨clock, horizontal, vertical, aspect, flags⟩ := same
  simp only [findHdmi?, clockFits, agrees, formatParts, clock, horizontal, vertical, aspect, flags,
    Bool.not_false, Bool.true_or]

end SameTiming

theorem snapClock_withPreferred (mode : Mode) (preferred : Bool) :
    (mode.withPreferred preferred).snapClock = mode.snapClock.withPreferred preferred := by
  have same : (mode.withPreferred preferred).SameTiming mode := ⟨rfl, rfl, rfl, rfl, rfl⟩
  rw [snapClock, snapClock, same.format?_eq]
  cases mode.format? (.within snapTolerance) <;> rfl

end Mode

abbrev AllSourced (modes : List Mode) : Prop :=
  ∀ mode ∈ modes, mode.Sourced

/-! ## Lists that grow -/

/-- The second list is the first with modes behind it that are as they came from their source. -/
def Extends (old new : List Mode) : Prop :=
  ∃ added, AllSourced added ∧ new = old ++ added

namespace Extends

theorem append {old added : List Mode} (sourced : AllSourced added) : Extends old (old ++ added) :=
  ⟨added, sourced, rfl⟩

theorem refl (modes : List Mode) : Extends modes modes :=
  ⟨[], List.forall_mem_nil _, (List.append_nil modes).symm⟩

theorem trans {first second third : List Mode} (left : Extends first second)
    (right : Extends second third) : Extends first third := by
  obtain ⟨early, earlySourced, rfl⟩ := left
  obtain ⟨late, lateSourced, rfl⟩ := right
  exact ⟨early ++ late, List.forall_mem_append.mpr ⟨earlySourced, lateSourced⟩,
    List.append_assoc _ _ _⟩

theorem foldl {α : Type} {step : List Mode → α → List Mode} {items : List α}
    (grows : ∀ modes, ∀ item ∈ items, Extends modes (step modes item)) (modes : List Mode) :
    Extends modes (items.foldl step modes) := by
  induction items generalizing modes with
  | nil => exact refl modes
  | cons item rest ih =>
      have here := grows modes item List.mem_cons_self
      have behind := ih (fun modes other member => grows modes other (List.mem_cons_of_mem _ member))
        (step modes item)
      exact here.trans behind

end Extends

/-! ## Marks -/

section Marks

variable {modes : List Mode} {mode : Mode}

theorem exists_of_mem_preferFirst (member : mode ∈ preferFirst modes) :
    ∃ source ∈ modes, ∃ preferred, mode = source.withPreferred preferred := by
  cases modes with
  | nil => contradiction
  | cons first rest =>
      rcases List.mem_cons.mp member with rfl | behind
      · exact ⟨first, List.mem_cons_self, true, rfl⟩
      · exact ⟨mode, List.mem_cons_of_mem _ behind, mode.preferred, rfl⟩

theorem exists_of_mem_preferOnly {position : Nat} (member : mode ∈ preferOnly position modes) :
    ∃ source ∈ modes, ∃ preferred, mode = source.withPreferred preferred := by
  obtain ⟨⟨source, index⟩, placed, rfl⟩ := List.mem_map.mp member
  exact ⟨source, List.fst_mem_of_mem_zipIdx placed, _, rfl⟩

theorem exists_of_mem_correctPreferred {workarounds : Workarounds}
    (member : mode ∈ correctPreferred workarounds modes) :
    ∃ source ∈ modes, ∃ preferred, mode = source.withPreferred preferred := by
  rw [correctPreferred] at member
  split at member
  · exact exists_of_mem_preferOnly member
  · split at member
    · exact exists_of_mem_preferOnly member
    · exact ⟨mode, member, mode.preferred, rfl⟩

end Marks

/-! ## The base block -/

section Base

variable (blob : Blob) (context : TimingContext) (workarounds : Workarounds)

/-- The modes of all detailed timings, before the first one is marked. -/
def unmarkedModes : List Mode :=
  (blob.descriptors.filterMap fun descriptor =>
    detailedMode? descriptor context workarounds).map Mode.snapClock

theorem sourced_unmarkedModes : AllSourced (unmarkedModes blob context workarounds) := by
  intro snapped member
  obtain ⟨mode, listed, rfl⟩ := List.mem_map.mp member
  obtain ⟨descriptor, _, found⟩ := List.mem_filterMap.mp listed
  obtain ⟨timing, _, found⟩ := Option.bind_eq_some_iff.mp found
  exact .snapped (.detailed found)

theorem detailedModes_eq :
    detailedModes blob context workarounds =
      if context.firstDetailedPreferred then preferFirst (unmarkedModes blob context workarounds)
      else unmarkedModes blob context workarounds := by
  rw [detailedModes, unmarkedModes]
  split
  · cases blob.descriptors.filterMap fun descriptor =>
        detailedMode? descriptor context workarounds with
    | nil => rfl
    | cons first rest =>
        rw [preferFirst, List.map_cons, List.map_cons, preferFirst, Mode.snapClock_withPreferred]
  · rfl

theorem exists_sourced_of_mem_detailedModes {mode : Mode}
    (member : mode ∈ detailedModes blob context workarounds) :
    ∃ source : Mode, source.Sourced ∧ ∃ preferred, mode = source.withPreferred preferred := by
  have sourced := sourced_unmarkedModes blob context workarounds
  rw [detailedModes_eq] at member
  split at member
  · obtain ⟨source, listed, marked⟩ := exists_of_mem_preferFirst member
    exact ⟨source, sourced source listed, marked⟩
  · exact ⟨mode, sourced mode member, mode.preferred, rfl⟩

theorem sourced_cvtModes : AllSourced (cvtModes blob) := by
  intro mode member
  rw [cvtModes] at member
  split at member
  · obtain ⟨descriptor, _, member⟩ := List.mem_flatMap.mp member
    obtain ⟨code, _, member⟩ := List.mem_flatMap.mp member
    obtain ⟨rate, _, found⟩ := List.mem_filterMap.mp member
    exact .cvt found
  · contradiction

theorem sourced_dmt? {width height refresh : Nat} {reduced : Bool} {mode : Mode}
    (found : Dmt.find? width height refresh reduced = some mode) : mode.Sourced :=
  .monitor (List.mem_of_find?_eq_some found)

theorem sourced_synthesized? {request : StandardRequest} {context : TimingContext} {mode : Mode}
    (found : request.synthesized? context = some mode) : mode.Sourced := by
  rw [StandardRequest.synthesized?] at found
  cases level : context.level with
  | dmt =>
      rw [level] at found
      contradiction
  | gtf =>
      rw [level] at found
      exact .gtf found
  | secondaryGtf =>
      rw [level] at found
      obtain ⟨first, made, found⟩ := Option.bind_eq_some_iff.mp found
      split at found
      · split at found
        · exact .gtf found
        · cases found
          exact .gtf made
      · cases found
        exact .gtf made
  | cvt =>
      rw [level] at found
      exact .cvt found

theorem sourced_standardMode? {code : Byte × Byte} {context : TimingContext} {modes : List Mode}
    {mode : Mode} (found : standardMode? code context modes = some mode) : mode.Sourced := by
  obtain ⟨request, _, found⟩ := Option.bind_eq_some_iff.mp found
  split at found
  · contradiction
  · rw [StandardRequest.mode?] at found
    split at found
    · obtain ⟨wide, made, rfl⟩ := Option.map_eq_some_iff.mp found
      exact .trimmed (.cvt made)
    · rcases Option.or_eq_some_iff.mp found with listed | ⟨_, synthesized⟩
      · rcases Option.or_eq_some_iff.mp listed with reduced | ⟨_, ordinary⟩
        · split at reduced
          · exact sourced_dmt? reduced
          · contradiction
        · exact sourced_dmt? ordinary
      · exact sourced_synthesized? synthesized

theorem extends_addStandardModes (modes : List Mode) :
    Extends modes (addStandardModes blob context modes) := by
  apply Extends.foldl
  intro listed code _
  apply Extends.append
  intro mode member
  exact sourced_standardMode? (Option.mem_toList.mp member)

theorem sourced_establishedModes : AllSourced (establishedModes blob) := by
  intro mode member
  rcases List.mem_append.mp member with bits | sizes
  · obtain ⟨⟨announced, listed⟩, entry, chosen⟩ := List.mem_filterMap.mp bits
    dsimp only at chosen
    split at chosen
    · cases chosen
      exact .established (List.of_mem_zip entry).2
    · contradiction
  · split at sizes
    · obtain ⟨descriptor, _, sizes⟩ := List.mem_flatMap.mp sizes
      obtain ⟨size, _, found⟩ := List.mem_filterMap.mp sizes
      exact sourced_dmt? found
    · contradiction

theorem extends_baseModes :
    Extends (detailedModes blob context workarounds) (baseModes blob context workarounds) := by
  let detailed := detailedModes blob context workarounds
  have coded : Extends detailed (detailed ++ cvtModes blob) := .append (sourced_cvtModes blob)
  have standard := extends_addStandardModes blob context (detailed ++ cvtModes blob)
  exact (coded.trans standard).trans (.append (sourced_establishedModes blob))

end Base

/-! ## Extensions -/

section Extensions

theorem sourced_ctaFormat? {code : Vic} {mode : Mode} (found : ctaFormat? code = some mode) :
    mode.Sourced :=
  .ctaFormat (mem_of_lookup found)

theorem sourced_hdmiFormat? {code : Vic} {mode : Mode} (found : hdmiFormat? code = some mode) :
    mode.Sourced :=
  .hdmiFormat (mem_of_lookup found)

theorem sourced_format? {mode format : Mode} {rule : ClockRule}
    (found : mode.format? rule = some format) : format.Sourced := by
  obtain ⟨entry, _, rfl, _, ⟨cta, _⟩ | ⟨hdmi, _⟩⟩ := Mode.exists_variant_of_format? found
  · exact .ctaFormat cta
  · exact .hdmiFormat hdmi

theorem sourced_formats (block : Cta.DataBlock) : AllSourced block.formats := by
  intro mode member
  rw [Cta.DataBlock.formats] at member
  split at member
  · obtain ⟨descriptor, _, found⟩ := List.mem_filterMap.mp member
    exact sourced_ctaFormat? found
  · split at member
    · obtain ⟨descriptor, _, found⟩ := List.mem_filterMap.mp member
      exact sourced_ctaFormat? found
    · contradiction

theorem extends_formats (modes : List Mode) (blocks : List Cta.DataBlock) :
    Extends modes (modes ++ blocks.flatMap Cta.DataBlock.formats) := by
  apply Extends.append
  intro mode member
  obtain ⟨block, _, listed⟩ := List.mem_flatMap.mp member
  exact sourced_formats block mode listed

theorem mem_formats_of_lastVideoPayload {blocks : List Cta.DataBlock} {descriptor : Byte}
    {mode : Mode} (member : descriptor ∈ lastVideoPayload blocks)
    (found : shortDescriptorFormat? descriptor = some mode) :
    mode ∈ blocks.flatMap Cta.DataBlock.formats := by
  rw [lastVideoPayload] at member
  split at member
  · next block last =>
      obtain ⟨present, video⟩ := List.mem_filter.mp (List.mem_of_getLast? last)
      refine List.mem_flatMap.mpr ⟨block, present, ?_⟩
      rw [Cta.DataBlock.formats, if_pos (beq_iff_eq.mp video)]
      exact List.mem_filterMap.mpr ⟨descriptor, member, found⟩
  · contradiction

/-- Of its own, an HDMI block lists formats and stereo copies of what the video data block lists. -/
theorem HdmiVideo.sourced_or_inLayout_of_mem_options {video : HdmiVideo} {descriptors : List Byte}
    {mode : Mode} (member : some mode ∈ video.options descriptors) :
    mode.Sourced ∨ ∃ descriptor ∈ descriptors, ∃ plain layout,
      shortDescriptorFormat? descriptor = some plain ∧ mode = plain.inLayout layout := by
  have copied {position : Nat} {layout : StereoLayout}
      (found : stereoFormat? descriptors position layout = some mode) :
      ∃ descriptor ∈ descriptors, ∃ plain layout,
        shortDescriptorFormat? descriptor = some plain ∧ mode = plain.inLayout layout := by
    obtain ⟨plain, known, rfl⟩ := Option.map_eq_some_iff.mp found
    obtain ⟨descriptor, present, format⟩ := Option.bind_eq_some_iff.mp known
    exact ⟨descriptor, List.mem_of_getElem? present, plain, layout, format, rfl⟩
  rw [options, List.mem_append, List.mem_append] at member
  rcases member with (coded | grouped) | single
  · obtain ⟨code, _, found⟩ := List.mem_map.mp coded
    exact .inl (sourced_hdmiFormat? found)
  · obtain ⟨position, _, grouped⟩ := List.mem_flatMap.mp grouped
    obtain ⟨layout, _, found⟩ := List.mem_map.mp grouped
    exact .inr (copied found)
  · obtain ⟨entry, _, found⟩ := List.mem_map.mp single
    exact .inr (copied found)

/-- An HDMI block adds formats and stereo copies of what is listed. -/
theorem sourced_or_inLayout_of_mem_hdmiModes {modes : List Mode} {blocks : List Cta.DataBlock}
    {mode : Mode}
    (member : mode ∈ hdmiModes blocks (modes ++ blocks.flatMap Cta.DataBlock.formats)) :
    mode.Sourced ∨ ∃ plain ∈ modes ++ blocks.flatMap Cta.DataBlock.formats,
      ∃ layout, mode = plain.inLayout layout := by
  rw [hdmiModes] at member
  split at member
  · rw [← HdmiVideo.filterMap_options] at member
    rcases List.mem_append.mp member with mandatory | own
    · split at mandatory
      · obtain ⟨plain, listed, mandatory⟩ := List.mem_flatMap.mp mandatory
        obtain ⟨entry, _, rfl⟩ := List.mem_map.mp mandatory
        exact .inr ⟨plain, listed, entry.layout, rfl⟩
      · contradiction
    · obtain ⟨_, own, rfl⟩ := List.mem_filterMap.mp own
      rcases HdmiVideo.sourced_or_inLayout_of_mem_options own with
        sourced | ⟨descriptor, present, plain, layout, format, same⟩
      · exact .inl sourced
      · have listed := mem_formats_of_lastVideoPayload present format
        exact .inr ⟨plain, List.mem_append_right modes listed, layout, same⟩
  · contradiction

/-- A mode has another half if it is one of two formats that differ in the clock. -/
theorem alternateMode?_eq_some_iff {mode other : Mode} :
    alternateMode? mode = some other ↔
      ∃ format, mode.format? .samePeriod = some format ∧ format.clock ≠ format.alternateClock ∧
        (mode.clock = format.clock ∧
            other = { format with stereo := mode.stereo, clock := format.alternateClock } ∨
          mode.clock = format.alternateClock ∧ other = { format with stereo := mode.stereo }) := by
  rw [alternateMode?, Option.bind_eq_some_iff]
  apply exists_congr
  intro format
  apply and_congr_right
  intro _
  dsimp only
  by_cases alone : format.clock = format.alternateClock
  · simp only [alone, if_true, reduceCtorEq, ne_eq, not_true_eq_false, false_and]
  · rw [if_neg alone]
    by_cases first : mode.clock = format.clock
    · have second : ¬ mode.clock = format.alternateClock := fun same => alone (first.symm.trans same)
      simp [first, alone, eq_comm]
    · by_cases second : mode.clock = format.alternateClock <;>
        simp [first, second, alone, eq_comm]

theorem exists_format_of_alternateMode? {mode other : Mode}
    (found : alternateMode? mode = some other) :
    ∃ (format : Mode) (clock : Nat), format.Sourced ∧
      other = { format with stereo := mode.stereo, clock := clock } := by
  obtain ⟨format, matched, _, ⟨_, rfl⟩ | ⟨_, rfl⟩⟩ := alternateMode?_eq_some_iff.mp found
  · exact ⟨format, _, sourced_format? matched, rfl⟩
  · exact ⟨format, format.clock, sourced_format? matched, rfl⟩

theorem addAlternateModes_eq_append (blob : Blob) (modes : List Mode) :
    ∃ added, addAlternateModes blob modes = modes ++ added ∧
      ∀ other ∈ added, ∃ mode ∈ modes, alternateMode? mode = some other := by
  rw [addAlternateModes]
  split
  · exact ⟨_, rfl, fun other member => List.mem_filterMap.mp member⟩
  · exact ⟨[], (List.append_nil modes).symm, List.forall_mem_nil _⟩

theorem subset_addAlternateModes (blob : Blob) (modes : List Mode) :
    modes ⊆ addAlternateModes blob modes := by
  obtain ⟨added, appended, _⟩ := addAlternateModes_eq_append blob modes
  rw [appended]
  exact List.subset_append_left modes added

theorem exists_timing_of_mem_displayIdModes {blob : Blob} {mode : Mode}
    (member : mode ∈ displayIdModes blob) :
    ∃ timing : DisplayId.Timing, timing.mode? = some mode := by
  obtain ⟨block, _, member⟩ := List.mem_flatMap.mp member
  obtain ⟨timing, _, found⟩ := List.mem_filterMap.mp member
  exact ⟨timing, found⟩

end Extensions

/-! ## Range limits -/

section Inferred

variable (context : TimingContext) (range : RangeLimits)

theorem sourced_synthesizer? {synthesize : SizedRate → Option Mode}
    (known : synthesizer? context range = some synthesize) {size : SizedRate} {mode : Mode}
    (found : synthesize size = some mode) : mode.Sourced := by
  rw [synthesizer?] at known
  split at known
  · split at known
    · cases known
      exact .gtf found
    · contradiction
  · split at known
    · cases known
      exact .gtf found
    · contradiction
  · split at known
    · cases known
      exact .cvt found
    · contradiction
  · contradiction
  · contradiction

theorem sourced_candidates : AllSourced (candidates context range) := by
  intro mode member
  rcases List.mem_append.mp member with monitor | synthesized
  · exact .monitor monitor
  · rw [synthesizedModes] at synthesized
    split at synthesized
    · next synthesize known =>
        obtain ⟨wide, made, rfl⟩ := List.mem_map.mp synthesized
        obtain ⟨size, _, found⟩ := mem_of_mem_mapWhile made
        have sourced := sourced_synthesizer? context range known found
        rw [Mode.trimIfPanel]
        split
        · exact .trimmed sourced
        · exact sourced
    · contradiction

theorem extends_offer (modes : List Mode) {candidate : Mode} (sourced : candidate.Sourced) :
    Extends modes (offer context range modes candidate) := by
  rw [offer]
  split
  · exact Extends.append (List.forall_mem_singleton.mpr sourced)
  · exact Extends.refl modes

theorem extends_addInferredModes (blob : Blob) (modes : List Mode) :
    Extends modes (addInferredModes blob context modes) := by
  rw [addInferredModes]
  split
  · apply Extends.foldl
    intro modes range _
    apply Extends.foldl
    intro modes candidate member
    exact extends_offer context range modes (sourced_candidates context range candidate member)
  · exact Extends.refl modes

end Inferred

end Edid
