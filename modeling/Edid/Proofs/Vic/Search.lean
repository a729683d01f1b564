import Mathlib.Data.List.Find
import Edid.Proofs.Modes.Pairs

/-!
# What a search for a format finds

A search goes through the formats in the order of their codes. A format is tried as it is listed,
then with one line more in its porch, again and again, until its total has reached a limit. This
finds the first format that a mode is, said in terms of its clock, flags, aspect ratio and edges.
The HDMI formats are searched after the CTA formats, and never decide.
-/

set_option autoImplicit false

namespace Edid

theorem Axis.lengthenPorch_lengthenPorch (axis : Axis) (first second : Nat) :
    (axis.lengthenPorch first).lengthenPorch second = axis.lengthenPorch (first + second) := by
  simp only [lengthenPorch, Nat.add_assoc]

/-! ## Line by line -/

/-- The total up to which the porch of a format is lengthened. -/
def porchLimit (code : Vic) : Nat :=
  if code ∈ [8, 9, 12, 13] then 263 else if code ∈ [23, 24, 27, 28] then 314 else 0

namespace Mode

def withPorch (format : Mode) (amount : Nat) : Mode :=
  { format with vertical := format.vertical.lengthenPorch amount }

theorem withPorch_withPorch (format : Mode) (first second : Nat) :
    (format.withPorch first).withPorch second = format.withPorch (first + second) := by
  simp only [withPorch, Axis.lengthenPorch_lengthenPorch]

/-- The mode agrees with the format or with one of those that it becomes line by line. -/
def agreesBelow (mode : Mode) (limit : Nat) (format : Mode) : Bool :=
  if mode.agrees format mode.formatParts then true
  else if format.vertical.total < limit then mode.agreesBelow limit (format.withPorch 1)
  else false
termination_by limit - format.vertical.total
decreasing_by
  simp only [withPorch, Axis.lengthenPorch]
  omega

theorem agreesBelow_iff {mode format : Mode} {limit : Nat} :
    mode.agreesBelow limit format = true ↔
      ∃ amount ≤ limit - format.vertical.total,
        mode.agrees (format.withPorch amount) mode.formatParts = true := by
  fun_induction agreesBelow mode limit format with
  | case1 format agreed =>
      exact ⟨fun _ => ⟨0, Nat.zero_le _, agreed⟩, fun _ => rfl⟩
  | case2 format differs short ih =>
      rw [ih]
      have total : (format.withPorch 1).vertical.total = format.vertical.total + 1 := rfl
      -- What is tried from here on has one line less to go, so the amounts are shifted by one.
      constructor
      · rintro ⟨amount, few, agreed⟩
        rw [withPorch_withPorch] at agreed
        exact ⟨1 + amount, by omega, agreed⟩
      · rintro ⟨amount, few, agreed⟩
        cases amount with
        | zero => exact absurd agreed differs
        | succ amount =>
            rw [Nat.add_comm, ← withPorch_withPorch] at agreed
            exact ⟨amount, by omega, agreed⟩
  | case3 format differs long =>
      constructor
      · exact fun impossible => absurd impossible Bool.false_ne_true
      · rintro ⟨amount, few, agreed⟩
        obtain rfl : amount = 0 := by omega
        exact absurd agreed differs

end Mode

/-- A format may have as many lines more as its total lacks of the limit. -/
theorem extraLines_eq_sub :
    ∀ entry ∈ ctaFormats, extraLines entry.1 = porchLimit entry.1 - entry.2.vertical.total := by
  decide +kernel

namespace Mode

theorem any_porchVariants_iff (mode : Mode) (entry : Vic × Mode) :
    ((porchVariants entry.1 entry.2).any fun variant => mode.agrees variant mode.formatParts) =
        true ↔
      ∃ amount ≤ extraLines entry.1,
        mode.agrees (entry.2.withPorch amount) mode.formatParts = true := by
  rw [porchVariants, List.any_map, List.any_eq_true]
  constructor
  · rintro ⟨amount, listed, agreed⟩
    exact ⟨amount, Nat.le_of_lt_succ (List.mem_range.mp listed), agreed⟩
  · rintro ⟨amount, few, agreed⟩
    exact ⟨amount, List.mem_range.mpr (Nat.lt_succ_of_le few), agreed⟩

/-- The search as it runs, one format after the other and each line by line. -/
def searchCta? (mode : Mode) (rule : ClockRule) : Option (Vic × Mode) :=
  if mode.clock = 0 then none
  else
    ctaFormats.find? fun (code, format) =>
      mode.clockFits rule format && mode.agreesBelow (porchLimit code) format

theorem searchCta?_eq_findCta? (mode : Mode) (rule : ClockRule) :
    mode.searchCta? rule = mode.findCta? rule := by
  rw [searchCta?, findCta?]
  split
  · rfl
  · apply List.find?_congr
    intro entry member
    have porches := mode.any_porchVariants_iff entry
    rw [extraLines_eq_sub entry member, ← agreesBelow_iff, Bool.coe_iff_coe] at porches
    exact congrArg (mode.clockFits rule entry.2 && ·) porches.symm

end Mode

/-! ## The first format -/

/-- In a list whose keys ascend, the first entry of a kind is the one with the least key. -/
theorem find?_eq_some_iff_of_ascending {entries : List (Vic × Mode)}
    (ascending : entries.Pairwise fun earlier later => earlier.1 < later.1)
    {kind : Vic × Mode → Bool} {entry : Vic × Mode} :
    entries.find? kind = some entry ↔
      entry ∈ entries ∧ kind entry = true ∧
        ∀ other ∈ entries, other.1 < entry.1 → kind other = false := by
  constructor
  · intro found
    obtain ⟨holds, front, behind, rfl, fails⟩ := List.find?_eq_some_iff_append.mp found
    refine ⟨List.mem_append_right front List.mem_cons_self, holds, ?_⟩
    intro other member less
    rcases List.mem_append.mp member with before | after
    · simpa using fails other before
    · have later := (List.pairwise_cons.mp (List.pairwise_append.mp ascending).2.1).1
      rcases List.mem_cons.mp after with rfl | after
      · exact absurd less (UInt8.lt_irrefl _)
      · exact absurd less (UInt8.lt_asymm (later other after))
  · rintro ⟨member, holds, fails⟩
    obtain ⟨front, behind, rfl⟩ := List.append_of_mem member
    refine List.find?_eq_some_iff_append.mpr ⟨holds, front, behind, rfl, ?_⟩
    intro other before
    have less := (List.pairwise_append.mp ascending).2.2 other before entry List.mem_cons_self
    simpa using fails other (List.mem_append_left _ before) less

theorem ascending_ctaFormats : ctaFormats.Pairwise fun earlier later => earlier.1 < later.1 := by
  have codes : (ctaFormats.map (·.1.toNat)).Pairwise (· < ·) := by
    rw [ctaCodes, List.pairwise_append]
    refine ⟨List.pairwise_lt_range', List.pairwise_lt_range', ?_⟩
    intro low front high back
    have := List.mem_range'_1.mp front
    have := List.mem_range'_1.mp back
    omega
  exact (List.pairwise_map.mp codes).imp UInt8.lt_iff_toNat_lt.mpr

namespace Mode

/-- The mode is a format, as far as a tolerance for its clock goes. -/
structure IsFormat (mode : Mode) (tolerance : Nat) (code : Vic) (format : Mode) : Prop where
  clock : distance mode.clock format.clock ≤ tolerance ∨
    distance mode.clock format.alternateClock ≤ tolerance
  flags : mode.flags = format.flags
  aspect : mode.aspect = none ∨ mode.aspect = format.aspect
  horizontal : mode.horizontal = format.horizontal
  vertical : ∃ amount, mode.vertical = format.vertical.lengthenPorch amount ∧
    (amount = 0 ∨ amount ≤ 1 ∧ code ∈ [8, 9, 12, 13] ∨ amount ≤ 2 ∧ code ∈ [23, 24, 27, 28])

theorem agrees_iff {mode format : Mode} :
    mode.agrees format mode.formatParts = true ↔
      mode.horizontal = format.horizontal ∧ mode.vertical = format.vertical ∧
        mode.flags = format.flags ∧ (mode.aspect = none ∨ mode.aspect = format.aspect) := by
  cases aspect : mode.aspect <;> simp [agrees, formatParts, aspect, and_assoc]

theorem clockFits_within_iff {mode format : Mode} {tolerance : Nat} :
    mode.clockFits (.within tolerance) format = true ↔
      distance mode.clock format.clock ≤ tolerance ∨
        distance mode.clock format.alternateClock ≤ tolerance := by
  simp [clockFits, clocks, ClockRule.accepts]

theorem le_extraLines_iff {amount : Nat} {code : Vic} :
    amount ≤ extraLines code ↔
      amount = 0 ∨ amount ≤ 1 ∧ code ∈ [8, 9, 12, 13] ∨
        amount ≤ 2 ∧ code ∈ [23, 24, 27, 28] := by
  have apart : code ∈ [8, 9, 12, 13] → code ∉ [23, 24, 27, 28] := by
    rintro one two
    simp only [List.mem_cons, List.not_mem_nil, or_false] at one two
    rcases one with rfl | rfl | rfl | rfl <;> contradiction
  rw [extraLines]
  split
  · next one =>
      simp only [one, apart one, and_true, and_false, or_false]
      omega
  · next notOne =>
      split
      · next two =>
          simp only [notOne, two, and_true, and_false, false_or]
          omega
      · next notTwo =>
          simp only [notOne, notTwo, and_false, or_false, Nat.le_zero]

theorem isCta_within_iff {mode : Mode} {tolerance : Nat} {entry : Vic × Mode} :
    mode.isCta (.within tolerance) entry = true ↔ mode.IsFormat tolerance entry.1 entry.2 := by
  rw [isCta, Bool.and_eq_true, clockFits_within_iff, any_porchVariants_iff]
  constructor
  · rintro ⟨clock, amount, few, agreed⟩
    obtain ⟨across, down, flags, aspect⟩ := agrees_iff.mp agreed
    exact ⟨clock, flags, aspect, across, amount, down, le_extraLines_iff.mp few⟩
  · rintro ⟨clock, flags, aspect, across, amount, down, few⟩
    exact ⟨clock, amount, le_extraLines_iff.mpr few, agrees_iff.mpr ⟨across, down, flags, aspect⟩⟩

end Mode

theorem isSome_ctaFormat?_iff {code : Vic} :
    (ctaFormat? code).isSome = true ↔
      1 ≤ code.toNat ∧ code.toNat ≤ 127 ∨ 193 ≤ code.toNat ∧ code.toNat ≤ 219 := by
  have listed : code.toNat ∈ ctaFormats.map (·.1.toNat) ↔
      1 ≤ code.toNat ∧ code.toNat ≤ 127 ∨ 193 ≤ code.toNat ∧ code.toNat ≤ 219 := by
    rw [ctaCodes, List.mem_append, List.mem_range'_1, List.mem_range'_1]
    omega
  rw [← listed]
  constructor
  · intro known
    obtain ⟨format, found⟩ := Option.isSome_iff_exists.mp known
    exact List.mem_map.mpr ⟨_, mem_of_lookup found, rfl⟩
  · intro member
    obtain ⟨entry, present, same⟩ := List.mem_map.mp member
    rw [← UInt8.toNat_inj.mp same, ctaFormat?_of_mem present]
    rfl

namespace Mode

theorem findCta?_within_eq_some_iff {mode : Mode} {tolerance : Nat} {entry : Vic × Mode} :
    mode.findCta? (.within tolerance) = some entry ↔
      mode.clock ≠ 0 ∧ entry ∈ ctaFormats ∧ mode.IsFormat tolerance entry.1 entry.2 ∧
        ∀ other ∈ ctaFormats, other.1 < entry.1 → ¬ mode.IsFormat tolerance other.1 other.2 := by
  by_cases stopped : mode.clock = 0
  · simp [findCta?, stopped]
  · rw [findCta?_eq_find? stopped, find?_eq_some_iff_of_ascending ascending_ctaFormats]
    simp only [isCta_within_iff, ← Bool.not_eq_true, ne_eq, stopped, not_false_eq_true, true_and]

/-- The search, which tries one format after another and each line by line, finds a code exactly if
its format is the first that the mode is, and none exactly if there is no such format. -/
theorem ctaCode?_finds_first (mode : Mode) (tolerance : Nat) :
    (mode.searchCta? (.within tolerance)).map (·.1) = mode.ctaCode? (.within tolerance) ∧
      (∀ code, mode.ctaCode? (.within tolerance) = some code ↔
        mode.clock ≠ 0 ∧ ∃ format, ctaFormat? code = some format ∧
          mode.IsFormat tolerance code format ∧
          ∀ earlier other, earlier < code → ctaFormat? earlier = some other →
            ¬ mode.IsFormat tolerance earlier other) ∧
      (mode.ctaCode? (.within tolerance) = none ↔
        mode.clock = 0 ∨
          ∀ code format, ctaFormat? code = some format → ¬ mode.IsFormat tolerance code format) ∧
      ∀ code, (ctaFormat? code).isSome = true ↔
        1 ≤ code.toNat ∧ code.toNat ≤ 127 ∨ 193 ≤ code.toNat ∧ code.toNat ≤ 219 := by
  refine ⟨?_, ?_, ?_, fun code => isSome_ctaFormat?_iff⟩
  · rw [searchCta?_eq_findCta?]
    rfl
  · intro code
    constructor
    · intro coded
      obtain ⟨entry, found, rfl⟩ := Option.map_eq_some_iff.mp coded
      obtain ⟨running, member, matched, first⟩ := findCta?_within_eq_some_iff.mp found
      refine ⟨running, entry.2, ctaFormat?_of_mem member, matched, ?_⟩
      intro earlier other less known
      exact first (earlier, other) (mem_of_lookup known) less
    · rintro ⟨running, format, known, matched, first⟩
      apply Option.map_eq_some_iff.mpr
      refine ⟨(code, format), findCta?_within_eq_some_iff.mpr ?_, rfl⟩
      refine ⟨running, mem_of_lookup known, matched, ?_⟩
      intro other member less
      exact first other.1 other.2 less (ctaFormat?_of_mem member)
  · rw [ctaCode?, Option.map_eq_none_iff]
    by_cases stopped : mode.clock = 0
    · simp [findCta?, stopped]
    · rw [findCta?_eq_find? stopped, List.find?_eq_none]
      constructor
      · intro fails
        refine .inr fun code format known matched => ?_
        exact fails (code, format) (mem_of_lookup known) (isCta_within_iff.mpr matched)
      · rintro (zero | fails)
        · exact absurd zero stopped
        · intro entry member matched
          exact fails entry.1 entry.2 (ctaFormat?_of_mem member) (isCta_within_iff.mp matched)

/-- A format of 312 lines may have two more and no third. -/
example :
    let format := Mode.timing 13500 ⟨720, 732, 795, 864⟩ ⟨288, 290, 293, 312⟩ .negativeDoubled
    (format.withPorch 2).ctaCode? (.within 0) = some 23 ∧
      (format.withPorch 3).ctaCode? (.within 0) = none := by
  decide +kernel

end Mode

/-! ## Without the HDMI formats -/

namespace Mode

theorem isSome_findCta?_of_findHdmi? {mode : Mode} {rule : ClockRule} {entry : Vic × Mode}
    (found : mode.findHdmi? rule = some entry) : (mode.findCta? rule).isSome = true := by
  have same := mode.format?_eq_findCta? rule
  rw [format?, found] at same
  cases cta : mode.findCta? rule with
  | some known => rfl
  | none =>
      rw [cta] at same
      contradiction

/-- The clock snapped to the CTA formats alone. -/
def snapClockToCta (mode : Mode) : Mode :=
  match mode.findCta? (.within snapTolerance) with
  | none => mode
  | some (_, format) =>
      let nearer :=
        if distance mode.clock format.clock < distance mode.clock format.alternateClock then
          format.clock
        else
          format.alternateClock
      { mode with clock := nearer }

theorem snapClockToCta_eq (mode : Mode) : mode.snapClockToCta = mode.snapClock := by
  rw [snapClockToCta, snapClock, format?_eq_findCta?]
  cases mode.findCta? (.within snapTolerance) <;> rfl

end Mode

/-- The other half of a mode that is a CTA format. -/
def ctaAlternateMode? (mode : Mode) : Option Mode :=
  (mode.findCta? .samePeriod).bind fun (_, format) =>
    let other := format.alternateClock
    if format.clock = other then none
    else if mode.clock = format.clock then
      some { format with stereo := mode.stereo, clock := other }
    else if mode.clock = other then some { format with stereo := mode.stereo }
    else none

theorem ctaAlternateMode?_eq (mode : Mode) : ctaAlternateMode? mode = alternateMode? mode := by
  rw [ctaAlternateMode?, alternateMode?, Mode.format?_eq_findCta?]
  cases mode.findCta? .samePeriod <;> rfl

/-- Adds the other halves of CTA formats alone. -/
def addCtaAlternateModes (blob : Blob) (modes : List Mode) : List Mode :=
  if blob.cta?.isSome then modes ++ modes.filterMap ctaAlternateMode? else modes

/-- Whatever is found among the HDMI formats, something is found among the CTA formats, so that
clocks are snapped and other halves are added as if there were no HDMI formats. -/
theorem hdmiFormats_never_decide :
    (∀ (mode : Mode) (rule : ClockRule),
      (mode.hdmiCode? rule).isSome = true → (mode.ctaCode? rule).isSome = true) ∧
      (∀ mode : Mode, mode.snapClock = mode.snapClockToCta) ∧
      ∀ (blob : Blob) (modes : List Mode),
        addAlternateModes blob modes = addCtaAlternateModes blob modes := by
  refine ⟨?_, fun mode => mode.snapClockToCta_eq.symm, ?_⟩
  · intro mode rule coded
    obtain ⟨code, coded⟩ := Option.isSome_iff_exists.mp coded
    obtain ⟨entry, found, _⟩ := Option.map_eq_some_iff.mp coded
    rw [Mode.ctaCode?, Option.isSome_map]
    exact Mode.isSome_findCta?_of_findHdmi? found
  · intro blob modes
    have same : ctaAlternateMode? = alternateMode? := funext ctaAlternateMode?_eq
    rw [addAlternateModes, addCtaAlternateModes, same]

/-- A cinema format, which HDMI numbers apart. -/
def cinema : Mode :=
  .timing 297000 ⟨4096, 5116, 5204, 5500⟩ ⟨2160, 2168, 2178, 2250⟩ .positive

theorem hdmiFormats_never_decide_cinema :
    cinema.hdmiCode? (.within 0) = some 4 ∧ (cinema.ctaCode? (.within 0)).isSome = true := by
  have coded : cinema.hdmiCode? (.within 0) = some 4 := by decide +kernel
  exact ⟨coded, hdmiFormats_never_decide.1 cinema (.within 0) (by rw [coded]; rfl)⟩

end Edid
