import Edid.Proofs.Modes.Regular

/-!
# Pairs of clocks

Most formats run at a rate of 60 Hz or a multiple and at 1000/1001 of it. A list with one of the
two halves gets the other, which is the format of the table again and is matched with it. A mode
may have been matched with a longer porch than that of the table, and then the halves differ in
their lines.
-/

set_option autoImplicit false

namespace Edid

/-! ## Formats told apart -/

namespace Mode

variable {mode : Mode} {rule : ClockRule} {entry : Vic × Mode}

/-- Only the porch may differ. -/
theorem exists_porch_of_isCta (matched : mode.isCta rule entry = true) :
    mode.horizontal = entry.2.horizontal ∧ mode.flags = entry.2.flags ∧
      ∃ amount ≤ extraLines entry.1, mode.vertical = entry.2.vertical.lengthenPorch amount := by
  obtain ⟨variant, listed, agreed⟩ := List.any_eq_true.mp (Bool.and_eq_true_iff.mp matched).2
  obtain ⟨amount, inside, rfl⟩ := List.mem_map.mp listed
  obtain ⟨across, down, flags⟩ := eq_of_agrees agreed
  exact ⟨across, flags, amount, Nat.le_of_lt_succ (List.mem_range.mp inside), down⟩

theorem mem_porchVariants (entry : Vic × Mode) : entry.2 ∈ porchVariants entry.1 entry.2 :=
  List.mem_map.mpr ⟨0, List.mem_range.mpr (Nat.succ_pos _), rfl⟩

theorem exists_ctaFormat_of_mem_hdmiFormats :
    ∀ entry ∈ hdmiFormats, ∃ cta ∈ ctaFormats, cta.2 = entry.2 := by
  decide +kernel

/-- Every HDMI format is a CTA format as well, so the second table never decides. -/
theorem format?_eq_findCta? (mode : Mode) (rule : ClockRule) :
    mode.format? rule = (mode.findCta? rule).map (·.2) := by
  rw [format?]
  cases cta : mode.findCta? rule with
  | some entry => rfl
  | none =>
      have hdmi : mode.findHdmi? rule = none := by
        rw [findHdmi?]
        split
        · rfl
        · next running =>
            rw [findCta?_eq_find? running, List.find?_eq_none] at cta
            refine List.find?_eq_none.mpr fun entry listed matched => ?_
            obtain ⟨fits, agreed⟩ := Bool.and_eq_true_iff.mp matched
            obtain ⟨twice, member, same⟩ := exists_ctaFormat_of_mem_hdmiFormats entry listed
            refine cta twice member (Bool.and_eq_true_iff.mpr ⟨same ▸ fits, ?_⟩)
            exact List.any_eq_true.mpr ⟨_, mem_porchVariants twice, same ▸ agreed⟩
      rw [hdmi]
      rfl

/-- No format is taken for an earlier one, at either of its clocks. Only formats with the same edges
along a line need to be compared. -/
theorem pairwise_ctaFormats :
    ctaFormats.Pairwise fun earlier later => later.2.horizontal = earlier.2.horizontal →
      ∀ clock ∈ later.2.clocks,
        ({ later.2 with clock := clock } : Mode).isCta .samePeriod earlier = false := by
  decide +kernel

theorem running_of_mem_ctaFormats :
    ∀ entry ∈ ctaFormats, ∀ clock ∈ entry.2.clocks, clock ≠ 0 := by
  decide +kernel

section Own

variable (member : entry ∈ ctaFormats) {clock : Nat} (own : clock ∈ entry.2.clocks)
include member own

theorem isCta_self : ({ entry.2 with clock := clock } : Mode).isCta .samePeriod entry = true := by
  have running := running_of_mem_ctaFormats entry member clock own
  refine Bool.and_eq_true_iff.mpr ⟨List.any_eq_true.mpr ⟨clock, own, ?_⟩, ?_⟩
  · simp [ClockRule.accepts, running]
  · refine List.any_eq_true.mpr ⟨entry.2, mem_porchVariants entry, ?_⟩
    simp [agrees, formatParts]

/-- Every format is found by its own timing, at either of its clocks. -/
theorem findCta?_self :
    ({ entry.2 with clock := clock } : Mode).findCta? .samePeriod = some entry := by
  rw [findCta?_eq_find? (running_of_mem_ctaFormats entry member clock own)]
  obtain ⟨front, behind, split⟩ := List.append_of_mem member
  refine List.find?_eq_some_iff_append.mpr
    ⟨isCta_self member own, front, behind, split, fun earlier listed => ?_⟩
  rw [Bool.not_eq_true', ← Bool.not_eq_true]
  intro matched
  -- An earlier entry that matched would have the same edges along a line.
  have apart := pairwise_ctaFormats
  rw [split, List.pairwise_append] at apart
  have lines := (exists_porch_of_isCta matched).1
  rw [apart.2.2 earlier listed entry List.mem_cons_self lines clock own] at matched
  contradiction

end Own

end Mode

/-! ## Halves -/

/-- The modes are one format at its two clocks, in one stereo layout. -/
structure Mode.Halves (entry : Vic × Mode) (mode other : Mode) : Prop where
  mode_eq : mode.findCta? .samePeriod = some entry
  other_eq : other.findCta? .samePeriod = some entry
  mode_clock : mode.clock ∈ entry.2.clocks
  other_clock : other.clock ∈ entry.2.clocks
  clock_ne : mode.clock ≠ other.clock
  stereo : mode.stereo = other.stereo

theorem Mode.Halves.symm {entry : Vic × Mode} {mode other : Mode}
    (halves : Halves entry mode other) : Halves entry other mode :=
  ⟨halves.other_eq, halves.mode_eq, halves.other_clock, halves.mode_clock, halves.clock_ne.symm,
    halves.stereo.symm⟩

theorem Mode.Halves.paired {entry : Vic × Mode} {mode other : Mode}
    (halves : Halves entry mode other) : entry.2.clock ≠ entry.2.alternateClock := by
  intro alone
  have single {clock : Nat} (own : clock ∈ entry.2.clocks) : clock = entry.2.alternateClock := by
    rw [Mode.clocks, alone] at own
    exact (List.mem_cons.mp own).elim id List.mem_singleton.mp
  exact halves.clock_ne ((single halves.mode_clock).trans (single halves.other_clock).symm)

section Alternate

variable {mode other : Mode} {entry : Vic × Mode}

/-- What is added for a mode is its format with the lines of the table. -/
theorem exists_halves_of_alternateMode? (found : alternateMode? mode = some other) :
    ∃ entry, Mode.Halves entry mode other ∧ other.horizontal = entry.2.horizontal ∧
      other.vertical = entry.2.vertical ∧ other.flags = entry.2.flags := by
  obtain ⟨format, matched, paired, half⟩ := alternateMode?_eq_some_iff.mp found
  rw [Mode.format?_eq_findCta?] at matched
  obtain ⟨entry, here, rfl⟩ := Option.map_eq_some_iff.mp matched
  have member := (Mode.isCta_of_findCta? here).1
  have first : entry.2.clock ∈ entry.2.clocks := List.mem_cons_self
  have second : entry.2.alternateClock ∈ entry.2.clocks :=
    List.mem_cons_of_mem _ List.mem_cons_self
  have there {clock : Nat} (own : clock ∈ entry.2.clocks) :
      Mode.findCta? { entry.2 with stereo := mode.stereo, clock := clock } .samePeriod =
        some entry := by
    have same : Mode.SameTiming { entry.2 with stereo := mode.stereo, clock := clock }
      { entry.2 with clock := clock } := ⟨rfl, rfl, rfl, rfl, rfl⟩
    rw [same.findCta?_eq, Mode.findCta?_self member own]
  rcases half with ⟨clock, rfl⟩ | ⟨clock, rfl⟩
  · exact ⟨entry, ⟨here, there second, clock ▸ first, second, clock ▸ paired, rfl⟩, rfl, rfl, rfl⟩
  · exact ⟨entry, ⟨here, there first, clock ▸ second, first, clock ▸ paired.symm, rfl⟩,
      rfl, rfl, rfl⟩

theorem exists_alternateMode? (found : mode.findCta? .samePeriod = some entry)
    (paired : entry.2.clock ≠ entry.2.alternateClock) (own : mode.clock ∈ entry.2.clocks) :
    ∃ other, alternateMode? mode = some other := by
  have matched : mode.format? .samePeriod = some entry.2 := by
    rw [Mode.format?_eq_findCta?, found]
    rfl
  rcases List.mem_cons.mp own with first | second
  · exact ⟨_, alternateMode?_eq_some_iff.mpr ⟨_, matched, paired, .inl ⟨first, rfl⟩⟩⟩
  · have second := List.mem_singleton.mp second
    exact ⟨_, alternateMode?_eq_some_iff.mpr ⟨_, matched, paired, .inr ⟨second, rfl⟩⟩⟩

/-- One pass is enough: the other half of a mode that was listed is added, that of one that was
added is listed. -/
theorem exists_halves_of_mem_addAlternateModes {blob : Blob} {modes : List Mode}
    (data : blob.cta?.isSome = true) (member : mode ∈ addAlternateModes blob modes)
    (found : mode.findCta? .samePeriod = some entry)
    (paired : entry.2.clock ≠ entry.2.alternateClock) (own : mode.clock ∈ entry.2.clocks) :
    ∃ other ∈ addAlternateModes blob modes, Mode.Halves entry mode other := by
  rw [addAlternateModes, if_pos data] at member ⊢
  rcases List.mem_append.mp member with listed | added
  · obtain ⟨other, alternate⟩ := exists_alternateMode? found paired own
    obtain ⟨known, halves, _⟩ := exists_halves_of_alternateMode? alternate
    obtain rfl := Option.some.inj (halves.mode_eq.symm.trans found)
    have added := List.mem_filterMap.mpr ⟨mode, listed, alternate⟩
    exact ⟨other, List.mem_append_right modes added, halves⟩
  · obtain ⟨source, listed, alternate⟩ := List.mem_filterMap.mp added
    obtain ⟨known, halves, _⟩ := exists_halves_of_alternateMode? alternate
    obtain rfl := Option.some.inj (halves.other_eq.symm.trans found)
    exact ⟨source, List.mem_append_left _ listed, halves.symm⟩

end Alternate

/-- With one half of a pair of clocks a list holds the other, which is matched with the same code
and has the same stereo layout, for modes that were listed as well as for those that were added. -/
theorem addAlternateModes_closed {blob : Blob} {modes : List Mode} {mode : Mode}
    (data : blob.cta?.isSome = true) (member : mode ∈ addAlternateModes blob modes) {code : Vic}
    (matched : mode.ctaCode? .samePeriod = some code) {format : Mode}
    (known : ctaFormat? code = some format) (paired : format.clock ≠ format.alternateClock)
    (own : mode.clock ∈ format.clocks) :
    ∃ other ∈ addAlternateModes blob modes,
      other.ctaCode? .samePeriod = some code ∧ other.clock ∈ format.clocks ∧
        other.clock ≠ mode.clock ∧ other.stereo = mode.stereo := by
  obtain ⟨entry, found, rfl⟩ := Option.map_eq_some_iff.mp matched
  rw [ctaFormat?_of_mem (Mode.isCta_of_findCta? found).1] at known
  cases known
  obtain ⟨other, present, halves⟩ :=
    exists_halves_of_mem_addAlternateModes data member found paired own
  have same : other.ctaCode? .samePeriod = some entry.1 := by
    rw [Mode.ctaCode?, halves.other_eq]
    rfl
  exact ⟨other, present, same, halves.other_clock, halves.clock_ne.symm, halves.stereo.symm⟩

/-- A console with a timing of 240 lines that has the longer of the two porches. -/
def console : Blob where
  base := Vector.ofFn fun position =>
    (Block.header.toList ++ List.replicate 10 0 ++ [1, 3, 0x80] ++ List.replicate 33 0 ++
      [0x18, 0x15, 0x40, 0x28, 0xb2, 0xf0, 0x17, 0, 0x4c, 0xf8, 0x53, 0, 0, 0, 0, 0, 0, 0x18] ++
      List.replicate 54 0 ++ [1, 0x84]).getD position.val 0
  extensions :=
    [Vector.ofFn fun position =>
      ([Block.ctaTag, 3, 4, 0] ++ List.replicate 123 0 ++ [0xf7]).getD position.val 0]
  count_eq := by decide

theorem parse_console : parse .standard console.toBytes = .ok (Display.ofBlob console false) :=
  parse_of_isValid (by decide +kernel) (by decide +kernel)

/-- The mode that the console lists itself. -/
def consoleMode : Mode :=
  .timing 54000 ⟨2880, 2956, 3204, 3432⟩ ⟨240, 245, 248, 263⟩ .negative

/-- The console lists one half, and the other is matched with the same code. -/
theorem addAlternateModes_closed_console :
    ∃ other ∈ addAlternateModes console [consoleMode],
      other.ctaCode? .samePeriod = some 12 ∧ other.clock = 54054 := by
  have data : console.cta?.isSome = true := by decide +kernel
  have listed := subset_addAlternateModes console _ (List.mem_singleton_self consoleMode)
  have matched : consoleMode.ctaCode? .samePeriod = some 12 := by decide +kernel
  have clocks : (ctaFormat? 12).map Mode.clocks = some [54000, 54054] := by decide +kernel
  obtain ⟨format, known, clocks⟩ := Option.map_eq_some_iff.mp clocks
  have pair := List.cons.inj clocks
  have paired : format.clock ≠ format.alternateClock := by
    rw [pair.1, (List.cons.inj pair.2).1]
    decide
  have own : consoleMode.clock ∈ format.clocks := by
    rw [clocks]
    exact List.mem_cons_self
  obtain ⟨other, present, same, clock, apart, _⟩ :=
    addAlternateModes_closed data listed matched known paired own
  rw [clocks] at clock
  refine ⟨other, present, same, ?_⟩
  exact List.mem_singleton.mp (List.mem_of_ne_of_mem apart clock)

/-! ## Lines -/

/-- Of the formats that allow another porch, those at two rates allow one more line. -/
theorem extraLines_of_paired :
    ∀ entry ∈ ctaFormats, entry.2.clock ≠ entry.2.alternateClock →
      extraLines entry.1 = 0 ∨ entry.1 ∈ [8, 9, 12, 13] ∧ extraLines entry.1 = 1 := by
  decide +kernel

/-- What is added is the other half of a mode in the list, with the lines of the table. Only four
formats let the mode have another line, which is lost then. -/
theorem halves_of_addAlternateModes (blob : Blob) (modes : List Mode) :
    ∃ added, addAlternateModes blob modes = modes ++ added ∧
      ∀ other ∈ added, ∃ mode ∈ modes, ∃ entry ∈ ctaFormats,
        mode.clock ∈ entry.2.clocks ∧ other.clock ∈ entry.2.clocks ∧ mode.clock ≠ other.clock ∧
          mode.horizontal = other.horizontal ∧ mode.flags = other.flags ∧
          mode.stereo = other.stereo ∧ other.vertical = entry.2.vertical ∧
          (mode.vertical = other.vertical ∨
            entry.1 ∈ [8, 9, 12, 13] ∧ mode.vertical = other.vertical.lengthenPorch 1) := by
  obtain ⟨added, appended, alternates⟩ := addAlternateModes_eq_append blob modes
  refine ⟨added, appended, fun other new => ?_⟩
  obtain ⟨mode, listed, alternate⟩ := alternates other new
  obtain ⟨entry, halves, horizontal, vertical, flags⟩ := exists_halves_of_alternateMode? alternate
  obtain ⟨member, matched⟩ := Mode.isCta_of_findCta? halves.mode_eq
  obtain ⟨across, sync, amount, few, down⟩ := Mode.exists_porch_of_isCta matched
  refine ⟨mode, listed, entry, member, halves.mode_clock, halves.other_clock, halves.clock_ne,
    across.trans horizontal.symm, sync.trans flags.symm, halves.stereo, vertical, ?_⟩
  rw [vertical, down]
  rcases extraLines_of_paired entry member halves.paired with none | ⟨code, one⟩
  · obtain rfl : amount = 0 := by omega
    exact .inl rfl
  · obtain rfl | rfl : amount = 0 ∨ amount = 1 := by omega
    · exact .inl rfl
    · exact .inr ⟨code, rfl⟩

/-- The console is given a half with one line less than the mode that it lists. -/
theorem console_loses_line :
    ∃ display, parse .standard console.toBytes = .ok display ∧ console.cta?.isSome = true ∧
      ∃ other, addAlternateModes console [consoleMode] = [consoleMode, other] ∧
        display.modes = [consoleMode, other] ∧ consoleMode.vertical.total = 263 ∧
        other.vertical.total = 262 := by
  refine ⟨_, parse_console, by decide +kernel, ?_⟩
  refine ⟨{ consoleMode with
    clock := 54054, vertical := ⟨240, 244, 247, 262⟩, aspect := some .r4x3 }, ?_⟩
  decide +kernel

end Edid
