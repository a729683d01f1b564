import Edid.Modes.Formats
import Edid.Proofs.Machine.Mode

/-!
# Formats in machine words

A mode is compared with a format by clocks and by periods. A period is a quotient by a clock,
so neither clock may be zero.
-/

set_option autoImplicit false

namespace Edid

open Machine

section Tables

/-- The format at the place of a code in its table. -/
def checkedCtaFormat? (code : Vic) : Checked (Option Mode) := do
  if 1 ≤ code.toNat ∧ code.toNat ≤ 127 then
    let position ← minus code.toNat 1
    return (ctaFormats.take 127)[position]?.map (·.2)
  else if 193 ≤ code.toNat ∧ code.toNat ≤ 219 then
    let position ← minus code.toNat 193
    return (ctaFormats.drop 127)[position]?.map (·.2)
  else
    return none

def checkedHdmiFormat? (code : Vic) : Checked (Option Mode) := do
  if 1 ≤ code.toNat ∧ code.toNat ≤ 4 then
    let position ← minus code.toNat 1
    return hdmiFormats[position]?.map (·.2)
  else
    return none

/-! The tables hold their formats in the order of the codes, so that places can be computed. -/

theorem lookup_of_keys {entries : List (Vic × Mode)} {first count : Nat}
    (keys : entries.map (·.1.toNat) = List.range' first count) (code : Vic) :
    entries.lookup code =
      if first ≤ code.toNat ∧ code.toNat < first + count then
        entries[code.toNat - first]?.map (·.2)
      else none := by
  induction entries generalizing first count with
  | nil => simp
  | cons entry rest ih =>
      cases count with
      | zero => cases keys
      | succ count =>
          rw [List.map_cons, List.range'_succ, List.cons.injEq] at keys
          obtain ⟨key, keys⟩ := keys
          rw [List.lookup_cons]
          by_cases here : code.toNat = first
          · have same : (code == entry.1) = true :=
              beq_iff_eq.mpr (UInt8.toNat_inj.mp (here.trans key.symm))
            rw [same, if_pos (by omega), here, Nat.sub_self]
            rfl
          · have other : (code == entry.1) = false :=
              beq_eq_false_iff_ne.mpr fun same => here (by rw [same, key])
            rw [other, ih keys]
            by_cases behind : first + 1 ≤ code.toNat ∧ code.toNat < first + 1 + count
            · have next : code.toNat - first = code.toNat - (first + 1) + 1 := by omega
              rw [if_pos behind, if_pos (by omega), next, List.getElem?_cons_succ]
            · rw [if_neg behind, if_neg (by omega)]

theorem lookup_of_mem {entries : List (Vic × Mode)}
    (distinct : (entries.map (·.1.toNat)).Nodup) {entry : Vic × Mode} (member : entry ∈ entries) :
    entries.lookup entry.1 = some entry.2 := by
  induction entries with
  | nil => contradiction
  | cons front rest ih =>
      obtain ⟨fresh, distinct⟩ := List.nodup_cons.mp distinct
      rw [List.lookup_cons]
      rcases List.mem_cons.mp member with rfl | behind
      · simp
      · have other : (entry.1 == front.1) = false :=
          beq_eq_false_iff_ne.mpr fun same => fresh (List.mem_map.mpr ⟨entry, behind, by rw [same]⟩)
        rw [other]
        exact ih distinct behind

theorem ctaCodes_front : (ctaFormats.take 127).map (·.1.toNat) = List.range' 1 127 := by
  decide +kernel

theorem ctaCodes_back : (ctaFormats.drop 127).map (·.1.toNat) = List.range' 193 27 := by
  decide +kernel

theorem ctaCodes : ctaFormats.map (·.1.toNat) = List.range' 1 127 ++ List.range' 193 27 := by
  rw [← ctaCodes_front, ← ctaCodes_back, ← List.map_append, List.take_append_drop]

theorem hdmiCodes : hdmiFormats.map (·.1.toNat) = List.range' 1 4 := by
  decide +kernel

theorem checkedCtaFormat?_eq (code : Vic) : checkedCtaFormat? code = .ok (ctaFormat? code) := by
  have front := lookup_of_keys ctaCodes_front code
  have back := lookup_of_keys ctaCodes_back code
  have whole : ctaFormat? code =
      ((ctaFormats.take 127).lookup code).or ((ctaFormats.drop 127).lookup code) := by
    rw [← List.lookup_append, List.take_append_drop, ctaFormat?]
  rw [checkedCtaFormat?, whole, front, back]
  by_cases low : 1 ≤ code.toNat ∧ code.toNat ≤ 127
  · rw [if_pos low, if_pos (by omega), if_neg (by omega), Option.or_none]
    exact minus_bind low.1 (pure_eq _)
  · by_cases high : 193 ≤ code.toNat ∧ code.toNat ≤ 219
    · rw [if_neg low, if_pos high, if_neg (by omega), Option.none_or, if_pos (by omega)]
      exact minus_bind high.1 (pure_eq _)
    · rw [if_neg low, if_neg high, if_neg (by omega), Option.none_or, if_neg (by omega), pure_eq]

theorem checkedHdmiFormat?_eq (code : Vic) :
    checkedHdmiFormat? code = .ok (hdmiFormat? code) := by
  rw [checkedHdmiFormat?, hdmiFormat?, lookup_of_keys hdmiCodes]
  by_cases inside : 1 ≤ code.toNat ∧ code.toNat ≤ 4
  · rw [if_pos inside, if_pos (by omega)]
    exact minus_bind inside.1 (pure_eq _)
  · rw [if_neg inside, if_neg (by omega), pure_eq]

theorem fits_of_mem_ctaFormats : ∀ entry ∈ ctaFormats, entry.2.Fits := by
  decide +kernel

theorem fits_of_mem_hdmiFormats : ∀ entry ∈ hdmiFormats, entry.2.Fits := by
  decide +kernel

theorem mem_of_lookup {entries : List (Vic × Mode)} {code : Vic} {mode : Mode}
    (found : entries.lookup code = some mode) : (code, mode) ∈ entries := by
  obtain ⟨front, back, rfl, _⟩ := List.lookup_eq_some_iff.mp found
  exact List.mem_append_right _ List.mem_cons_self

theorem fits_ctaFormat? {code : Vic} {mode : Mode} (found : ctaFormat? code = some mode) :
    mode.Fits :=
  fits_of_mem_ctaFormats _ (mem_of_lookup found)

theorem fits_hdmiFormat? {code : Vic} {mode : Mode} (found : hdmiFormat? code = some mode) :
    mode.Fits :=
  fits_of_mem_hdmiFormats _ (mem_of_lookup found)

theorem ctaFormat?_of_mem {entry : Vic × Mode} (member : entry ∈ ctaFormats) :
    ctaFormat? entry.1 = some entry.2 := by
  refine lookup_of_mem ?_ member
  rw [ctaCodes]
  refine List.nodup_append.mpr ⟨List.nodup_range', List.nodup_range', ?_⟩
  intro low front high back
  have := List.mem_range'_1.mp front
  have := List.mem_range'_1.mp back
  omega

theorem hdmiFormat?_of_mem {entry : Vic × Mode} (member : entry ∈ hdmiFormats) :
    hdmiFormat? entry.1 = some entry.2 := by
  refine lookup_of_mem ?_ member
  rw [hdmiCodes]
  exact List.nodup_range'

end Tables

section Matching

namespace Mode

def checkedAlternateClock (mode : Mode) : Checked Nat := do
  let rate ← mode.checkedRefresh
  if rate % 6 ≠ 0 then
    return mode.clock
  else if mode.height = 240 ∨ mode.height = 480 then
    return (← u64 ((← u64 (mode.clock * 1001)) + 500)) / 1000 % 0x100000000
  else
    return (← u64 ((← u64 (mode.clock * 1000)) + 500)) / 1001 % 0x100000000

theorem checkedAlternateClock_eq {mode : Mode} (fits : mode.Fits) :
    mode.checkedAlternateClock = .ok mode.alternateClock := by
  have clock := fits.clock
  rw [alternateClock]
  refine ok_step (checkedRefresh_eq fits) ?_
  split
  · rfl
  · split
    · exact below_bind (by omega) (below_bind (by omega) (pure_eq _))
    · exact below_bind (by omega) (below_bind (by omega) (pure_eq _))

theorem alternateClock_lt {mode : Mode} (fits : mode.Fits) :
    mode.alternateClock < 0x100000000 := by
  rw [alternateClock]
  split
  · exact fits.clock
  · split <;> exact Nat.mod_lt _ (by decide)

end Mode

def Axis.checkedLengthenPorch (axis : Axis) (amount : Nat) : Checked Axis := do
  return { axis with
    syncStart := ← u16 (axis.syncStart + amount)
    syncEnd := ← u16 (axis.syncEnd + amount)
    total := ← u16 (axis.total + amount) }

def checkedPorchVariants (code : Vic) (format : Mode) : Checked (List Mode) :=
  (List.range (extraLines code + 1)).mapM fun amount => do
    return { format with vertical := ← format.vertical.checkedLengthenPorch amount }

/-- No format ends within two lines of what a word holds. -/
theorem roomy_of_mem_ctaFormats : ∀ entry ∈ ctaFormats,
    entry.2.vertical.syncStart ≤ 0xff00 ∧ entry.2.vertical.syncEnd ≤ 0xff00 ∧
      entry.2.vertical.total ≤ 0xff00 := by
  decide +kernel

theorem extraLines_le (code : Vic) : extraLines code ≤ 2 := by
  rw [extraLines]
  split
  · decide
  · split <;> decide

theorem checkedPorchVariants_eq {entry : Vic × Mode} (member : entry ∈ ctaFormats) :
    checkedPorchVariants entry.1 entry.2 = .ok (porchVariants entry.1 entry.2) := by
  obtain ⟨syncStart, syncEnd, total⟩ := roomy_of_mem_ctaFormats entry member
  have few := extraLines_le entry.1
  refine mapM_ok fun amount inside => ?_
  have small := List.mem_range.mp inside
  refine ok_step ?_ (pure_eq _)
  exact below_bind (by omega) (below_bind (by omega) (below_bind (by omega) (pure_eq _)))

def ClockRule.checkedAccepts (rule : ClockRule) (clock target : Nat) : Checked Bool := do
  match rule with
  | .within tolerance => return distance clock target ≤ tolerance
  | .samePeriod =>
      if target = 0 then
        return false
      else
        return (← divided 1000000000 clock) = (← divided 1000000000 target)

theorem ClockRule.checkedAccepts_eq (rule : ClockRule) {clock : Nat} (running : clock ≠ 0)
    (target : Nat) : rule.checkedAccepts clock target = .ok (rule.accepts clock target) := by
  cases rule with
  | within tolerance => rfl
  | samePeriod =>
      rw [checkedAccepts, accepts]
      split
      · next stopped => simp [stopped]
      · next moving =>
          refine divided_bind running (divided_bind moving ?_)
          simp only [pure_eq, periodOf, moving, ne_eq, not_false_eq_true, decide_true,
            Bool.true_and]
          rfl

namespace Mode

def checkedClockFits (mode : Mode) (rule : ClockRule) (format : Mode) : Checked Bool := do
  let alternate ← format.checkedAlternateClock
  [format.clock, alternate].anyM (rule.checkedAccepts mode.clock)

def checkedFindCta? (mode : Mode) (rule : ClockRule) : Checked (Option (Vic × Mode)) := do
  if mode.clock = 0 then
    return none
  else
    ctaFormats.findM? fun (code, _) => do
      match ← checkedCtaFormat? code with
      | none => return false
      | some format =>
          let fits ← mode.checkedClockFits rule format
          let variants ← checkedPorchVariants code format
          return fits && variants.any fun variant => mode.agrees variant mode.formatParts

def checkedFindHdmi? (mode : Mode) (rule : ClockRule) : Checked (Option (Vic × Mode)) := do
  if mode.clock = 0 then
    return none
  else
    hdmiFormats.findM? fun (code, _) => do
      match ← checkedHdmiFormat? code with
      | none => return false
      | some format =>
          return (← mode.checkedClockFits rule format) && mode.agrees format mode.formatParts

def checkedFormat? (mode : Mode) (rule : ClockRule) : Checked (Option Mode) := do
  let cta? ← mode.checkedFindCta? rule
  let hdmi? ← mode.checkedFindHdmi? rule
  return (cta?.or hdmi?).map (·.2)

theorem checkedClockFits_eq {mode : Mode} (running : mode.clock ≠ 0) (rule : ClockRule)
    {format : Mode} (fits : format.Fits) :
    mode.checkedClockFits rule format = .ok (mode.clockFits rule format) :=
  ok_step (checkedAlternateClock_eq fits) (anyM_ok fun target _ =>
    rule.checkedAccepts_eq running target)

theorem checkedFindCta?_eq (mode : Mode) (rule : ClockRule) :
    mode.checkedFindCta? rule = .ok (mode.findCta? rule) := by
  rw [checkedFindCta?, findCta?]
  split
  · rfl
  · next running =>
      refine findM?_ok fun entry member => ?_
      have listed : checkedCtaFormat? entry.1 = .ok (some entry.2) := by
        rw [checkedCtaFormat?_eq, ctaFormat?_of_mem member]
      refine ok_step listed ?_
      refine ok_step (checkedClockFits_eq running rule (fits_of_mem_ctaFormats entry member)) ?_
      exact ok_step (checkedPorchVariants_eq member) (pure_eq _)

theorem checkedFindHdmi?_eq (mode : Mode) (rule : ClockRule) :
    mode.checkedFindHdmi? rule = .ok (mode.findHdmi? rule) := by
  rw [checkedFindHdmi?, findHdmi?]
  split
  · rfl
  · next running =>
      refine findM?_ok fun entry member => ?_
      have listed : checkedHdmiFormat? entry.1 = .ok (some entry.2) := by
        rw [checkedHdmiFormat?_eq, hdmiFormat?_of_mem member]
      refine ok_step listed ?_
      exact ok_step (checkedClockFits_eq running rule (fits_of_mem_hdmiFormats entry member))
        (pure_eq _)

theorem checkedFormat?_eq (mode : Mode) (rule : ClockRule) :
    mode.checkedFormat? rule = .ok (mode.format? rule) :=
  ok_step (mode.checkedFindCta?_eq rule) (ok_step (mode.checkedFindHdmi?_eq rule) (pure_eq _))

theorem eq_of_agrees {mode format : Mode} (agreed : mode.agrees format mode.formatParts = true) :
    mode.horizontal = format.horizontal ∧ mode.vertical = format.vertical ∧
      mode.flags = format.flags := by
  simp only [agrees, formatParts, Bool.not_true, Bool.false_or, Bool.and_eq_true,
    beq_iff_eq] at agreed
  obtain ⟨⟨⟨⟨⟨across, down⟩, _⟩, flags⟩, _⟩, _⟩ := agreed
  exact ⟨across, down, flags⟩

/-- The mode is the CTA format, with any porch that it allows. -/
def isCta (mode : Mode) (rule : ClockRule) (entry : Vic × Mode) : Bool :=
  mode.clockFits rule entry.2 &&
    (porchVariants entry.1 entry.2).any fun variant => mode.agrees variant mode.formatParts

theorem findCta?_eq_find? {mode : Mode} {rule : ClockRule} (running : mode.clock ≠ 0) :
    mode.findCta? rule = ctaFormats.find? (mode.isCta rule) := by
  rw [findCta?, if_neg running]
  rfl

theorem isCta_of_findCta? {mode : Mode} {rule : ClockRule} {entry : Vic × Mode}
    (found : mode.findCta? rule = some entry) :
    entry ∈ ctaFormats ∧ mode.isCta rule entry = true := by
  rw [findCta?] at found
  split at found
  · contradiction
  · exact ⟨List.mem_of_find?_eq_some found, List.find?_some found⟩

/-- What a mode is matched with comes from one of the tables, and the mode agrees with it up to a
porch that the table allows. -/
theorem exists_variant_of_format? {mode format : Mode} {rule : ClockRule}
    (found : mode.format? rule = some format) :
    ∃ entry variant, entry.2 = format ∧ mode.agrees variant mode.formatParts = true ∧
      (entry ∈ ctaFormats ∧ variant ∈ porchVariants entry.1 format ∨
        entry ∈ hdmiFormats ∧ variant = format) := by
  obtain ⟨entry, matched, rfl⟩ := Option.map_eq_some_iff.mp found
  rcases Option.or_eq_some_iff.mp matched with cta | ⟨_, hdmi⟩
  · obtain ⟨member, both⟩ := isCta_of_findCta? cta
    obtain ⟨variant, listed, agreed⟩ := List.any_eq_true.mp (Bool.and_eq_true_iff.mp both).2
    exact ⟨entry, variant, rfl, agreed, .inl ⟨member, listed⟩⟩
  · rw [findHdmi?] at hdmi
    split at hdmi
    · contradiction
    · have both := List.find?_some hdmi
      have agreed := (Bool.and_eq_true_iff.mp both).2
      exact ⟨entry, entry.2, rfl, agreed, .inr ⟨List.mem_of_find?_eq_some hdmi, rfl⟩⟩

theorem fits_format? {mode format : Mode} {rule : ClockRule}
    (found : mode.format? rule = some format) : format.Fits := by
  obtain ⟨entry, _, rfl, _, ⟨cta, _⟩ | ⟨hdmi, _⟩⟩ := exists_variant_of_format? found
  · exact fits_of_mem_ctaFormats entry cta
  · exact fits_of_mem_hdmiFormats entry hdmi

end Mode

end Matching

section Clocks

def Mode.checkedSnapClock (mode : Mode) : Checked Mode := do
  match ← mode.checkedFormat? (.within snapTolerance) with
  | none => return mode
  | some format =>
      let alternate ← format.checkedAlternateClock
      return { mode with
        clock :=
          if distance mode.clock format.clock < distance mode.clock alternate then format.clock
          else alternate }

def checkedAlternateMode? (mode : Mode) : Checked (Option Mode) := do
  match ← mode.checkedFormat? .samePeriod with
  | none => return none
  | some format =>
      let other ← format.checkedAlternateClock
      return if format.clock = other then none
        else if mode.clock = format.clock then
          some { format with stereo := mode.stereo, clock := other }
        else if mode.clock = other then some { format with stereo := mode.stereo }
        else none

theorem Mode.checkedSnapClock_eq (mode : Mode) : mode.checkedSnapClock = .ok mode.snapClock := by
  rw [snapClock]
  refine ok_step (mode.checkedFormat?_eq _) ?_
  cases found : mode.format? (.within snapTolerance) with
  | none => rfl
  | some format => exact ok_step (checkedAlternateClock_eq (fits_format? found)) (pure_eq _)

theorem Mode.fits_snapClock {mode : Mode} (fits : mode.Fits) : mode.snapClock.Fits := by
  rw [snapClock]
  split
  · exact fits
  · next format found =>
      have format := fits_format? found
      refine ⟨?_, fits.horizontal, fits.vertical⟩
      dsimp only
      split
      · exact format.clock
      · exact alternateClock_lt format

theorem checkedAlternateMode?_eq (mode : Mode) :
    checkedAlternateMode? mode = .ok (alternateMode? mode) := by
  rw [alternateMode?]
  refine ok_step (mode.checkedFormat?_eq _) ?_
  cases found : mode.format? .samePeriod with
  | none => rfl
  | some format =>
      exact ok_step (Mode.checkedAlternateClock_eq (Mode.fits_format? found)) (pure_eq _)

theorem fits_alternateMode? {mode alternate : Mode} (found : alternateMode? mode = some alternate) :
    alternate.Fits := by
  obtain ⟨format, matched, found⟩ := Option.bind_eq_some_iff.mp found
  have fits := Mode.fits_format? matched
  dsimp only at found
  split at found
  · contradiction
  · split at found
    · cases found
      exact ⟨Mode.alternateClock_lt fits, fits.horizontal, fits.vertical⟩
    · split at found
      · cases found
        exact ⟨fits.clock, fits.horizontal, fits.vertical⟩
      · contradiction

end Clocks

end Edid
