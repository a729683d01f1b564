import Mathlib.Data.List.Find
import Edid.Proofs.Modes.Pairs

/-!
# Snapped clocks

A clock that is off by rounding is moved to the nearer of the two clocks of the format that the mode
is. Formats with the same edges along a line have clocks that are equal or far apart, so the mode is
that format afterwards by any comparison of clocks, and snapping it again changes nothing.
-/

set_option autoImplicit false

namespace Edid

theorem distance_self (clock : Nat) : distance clock clock = 0 := by
  simp [distance]

namespace Mode

/-! ## The nearer clock -/

section Nearer

def nearerClock (clock : Nat) (format : Mode) : Nat :=
  if distance clock format.clock < distance clock format.alternateClock then format.clock
  else format.alternateClock

variable (clock : Nat) (format : Mode)

theorem nearerClock_mem : nearerClock clock format ∈ format.clocks := by
  rw [nearerClock]
  split
  · exact List.mem_cons_self
  · exact List.mem_cons_of_mem _ List.mem_cons_self

theorem distance_nearerClock_le {own : Nat} (member : own ∈ format.clocks) :
    distance clock (nearerClock clock format) ≤ distance clock own := by
  rw [nearerClock]
  rcases List.mem_cons.mp member with rfl | alternate
  · split <;> omega
  · obtain rfl := List.mem_singleton.mp alternate
    split <;> omega

theorem nearerClock_of_mem {clock : Nat} {format : Mode} (member : clock ∈ format.clocks) :
    nearerClock clock format = clock := by
  have nearest := distance_nearerClock_le clock format member
  rw [distance_self, distance] at nearest
  omega

theorem nearerClock_of_tie {clock : Nat} {format : Mode}
    (tie : distance clock format.clock = distance clock format.alternateClock) :
    nearerClock clock format = format.alternateClock :=
  if_neg (by omega)

end Nearer

/-! ## Clocks of formats with the same edges -/

/-- Two clocks of formats with the same edges along a line are equal if they are within reach of one
clock, and both belong to both formats if they have the same period. -/
theorem clocks_apart :
    ∀ entry ∈ ctaFormats, ∀ other ∈ ctaFormats, other.2.horizontal = entry.2.horizontal →
      ∀ clock ∈ entry.2.clocks, ∀ own ∈ other.2.clocks,
        (distance clock own ≤ 2 * snapTolerance → clock = own) ∧
          (periodOf clock = periodOf own → clock ∈ other.2.clocks) := by
  decide +kernel

/-- A comparison of clocks that tells the clocks of a table apart. -/
inductive Sharp : ClockRule → Prop where
  | within : Sharp (.within snapTolerance)
  | samePeriod : Sharp .samePeriod

section Snapped

variable {mode : Mode} {entry : Vic × Mode} {clock : Nat}

theorem clockFits_iff {rule : ClockRule} {format : Mode} :
    mode.clockFits rule format = true ↔
      ∃ own ∈ format.clocks, rule.accepts mode.clock own = true :=
  List.any_eq_true

theorem accepts_within_iff {tolerance target : Nat} :
    (ClockRule.within tolerance).accepts clock target = true ↔
      distance clock target ≤ tolerance :=
  decide_eq_true_iff

/-- A clock of the table is accepted by its own formats alone. -/
theorem clockFits_own_iff (member : entry ∈ ctaFormats) (own : clock ∈ entry.2.clocks)
    {other : Vic × Mode} (listed : other ∈ ctaFormats)
    (across : other.2.horizontal = entry.2.horizontal) {rule : ClockRule} (sharp : Sharp rule) :
    ({ mode with clock := clock } : Mode).clockFits rule other.2 = true ↔
      clock ∈ other.2.clocks := by
  have apart := clocks_apart entry member other listed across clock own
  have running := running_of_mem_ctaFormats entry member clock own
  rw [clockFits_iff]
  constructor
  · rintro ⟨target, found, accepted⟩
    cases sharp with
    | within =>
        have near := accepts_within_iff.mp accepted
        rw [(apart target found).1 (Nat.le_trans near (by decide))]
        exact found
    | samePeriod =>
        have same := of_decide_eq_true (Bool.and_eq_true_iff.mp accepted).2
        exact (apart target found).2 same
  · intro shared
    refine ⟨clock, shared, ?_⟩
    cases sharp with
    | within =>
        rw [accepts_within_iff, distance_self]
        exact Nat.zero_le _
    | samePeriod => simp [ClockRule.accepts, running]

theorem clockFits_near_iff (member : entry ∈ ctaFormats) (own : clock ∈ entry.2.clocks)
    (near : distance mode.clock clock ≤ snapTolerance) {other : Vic × Mode}
    (listed : other ∈ ctaFormats) (across : other.2.horizontal = entry.2.horizontal) :
    mode.clockFits (.within snapTolerance) other.2 = true ↔ clock ∈ other.2.clocks := by
  have apart := clocks_apart entry member other listed across clock own
  rw [clockFits_iff]
  constructor
  · rintro ⟨target, found, accepted⟩
    have close := accepts_within_iff.mp accepted
    have both : distance clock target ≤ 2 * snapTolerance := by
      rw [distance] at near close ⊢
      omega
    rw [(apart target found).1 both]
    exact found
  · intro shared
    exact ⟨clock, shared, accepts_within_iff.mpr near⟩

/-- With the clock of its format a mode is the same formats by either comparison as it was with its
own clock within the tolerance. -/
theorem isCta_moved (member : entry ∈ ctaFormats) (own : clock ∈ entry.2.clocks)
    (near : distance mode.clock clock ≤ snapTolerance)
    (across : mode.horizontal = entry.2.horizontal) {rule : ClockRule} (sharp : Sharp rule)
    {other : Vic × Mode} (listed : other ∈ ctaFormats) :
    ({ mode with clock := clock } : Mode).isCta rule other =
      mode.isCta (.within snapTolerance) other := by
  -- Only formats with the edges of the mode have clocks that can be told apart.
  by_cases lines : mode.horizontal = other.2.horizontal
  · have same := lines.symm.trans across
    have moved :
        ({ mode with clock := clock } : Mode).clockFits rule other.2 = true ↔
          clock ∈ other.2.clocks := clockFits_own_iff member own listed same sharp
    have fits := clockFits_near_iff member own near listed same
    have clocks := Bool.coe_iff_coe.mp (moved.trans fits.symm)
    exact congrArg (· && _) clocks
  · have differs (candidate : Mode) {rule : ClockRule}
        (kept : candidate.horizontal = mode.horizontal) : candidate.isCta rule other = false := by
      rw [← Bool.not_eq_true]
      intro matched
      exact lines (kept.symm.trans (exists_porch_of_isCta matched).1)
    rw [differs { mode with clock := clock } rfl, differs mode rfl]

variable (found : mode.findCta? (.within snapTolerance) = some entry)
include found

theorem snapClock_of_findCta? :
    mode.snapClock = { mode with clock := nearerClock mode.clock entry.2 } := by
  rw [snapClock, format?_eq_findCta?, found]
  rfl

theorem distance_nearerClock_of_findCta? :
    distance mode.clock (nearerClock mode.clock entry.2) ≤ snapTolerance := by
  obtain ⟨_, matched⟩ := isCta_of_findCta? found
  obtain ⟨own, listed, accepted⟩ := clockFits_iff.mp (Bool.and_eq_true_iff.mp matched).1
  exact Nat.le_trans (distance_nearerClock_le mode.clock entry.2 listed)
    (accepts_within_iff.mp accepted)

/-- By either comparison the snapped mode is the format that it was snapped to. -/
theorem findCta?_snapClock {rule : ClockRule} (sharp : Sharp rule) :
    mode.snapClock.findCta? rule = some entry := by
  obtain ⟨member, matched⟩ := isCta_of_findCta? found
  have across := (exists_porch_of_isCta matched).1
  have own := nearerClock_mem mode.clock entry.2
  have near := distance_nearerClock_of_findCta? found
  have started : mode.clock ≠ 0 := by
    intro stopped
    rw [findCta?, if_pos stopped] at found
    contradiction
  have running := running_of_mem_ctaFormats entry member _ own
  rw [snapClock_of_findCta? found, findCta?_eq_find? running, ← found, findCta?_eq_find? started]
  exact List.find?_congr fun other listed => isCta_moved member own near across sharp listed

end Snapped

theorem snapClock_of_findCta?_none {mode : Mode}
    (unmatched : mode.findCta? (.within snapTolerance) = none) : mode.snapClock = mode := by
  rw [snapClock, format?_eq_findCta?, unmatched]
  rfl

theorem snapClock_snapClock (mode : Mode) : mode.snapClock.snapClock = mode.snapClock := by
  cases found : mode.findCta? (.within snapTolerance) with
  | none => rw [snapClock_of_findCta?_none found, snapClock_of_findCta?_none found]
  | some entry =>
      have own := nearerClock_mem mode.clock entry.2
      have again := snapClock_of_findCta? (findCta?_snapClock found .within)
      rw [again, snapClock_of_findCta? found]
      dsimp only
      rw [nearerClock_of_mem own]

/-- Snapping changes nothing but the clock, and nothing at all the second time. The clock of a mode
that is a format within 5 kHz goes to the nearer one of the format, no more than 5 kHz away, or to
the alternate one if both are as near; then the mode is that format by the period of its clock. -/
theorem snapClock_settles (mode : Mode) :
    { mode.snapClock with clock := mode.clock } = mode ∧
      mode.snapClock.snapClock = mode.snapClock ∧
      (mode.ctaCode? (.within 5) = none → mode.snapClock = mode) ∧
      ∀ code, mode.ctaCode? (.within 5) = some code →
        mode.snapClock.ctaCode? .samePeriod = some code ∧
        distance mode.clock mode.snapClock.clock ≤ 5 ∧
        ∃ format, ctaFormat? code = some format ∧ mode.snapClock.clock ∈ format.clocks ∧
          (∀ clock ∈ format.clocks,
            distance mode.clock mode.snapClock.clock ≤ distance mode.clock clock) ∧
          (distance mode.clock format.clock = distance mode.clock format.alternateClock →
            mode.snapClock.clock = format.alternateClock) := by
  refine ⟨?_, mode.snapClock_snapClock, ?_, ?_⟩
  · cases found : mode.findCta? (.within snapTolerance) with
    | none => rw [snapClock_of_findCta?_none found]
    | some entry => rw [snapClock_of_findCta? found]
  · intro unmatched
    exact snapClock_of_findCta?_none (Option.map_eq_none_iff.mp unmatched)
  · intro code coded
    obtain ⟨entry, found, rfl⟩ := Option.map_eq_some_iff.mp coded
    have member := (isCta_of_findCta? found).1
    have settled : mode.snapClock.ctaCode? .samePeriod = some entry.1 := by
      rw [ctaCode?, findCta?_snapClock found .samePeriod]
      rfl
    have snapped : mode.snapClock.clock = nearerClock mode.clock entry.2 := by
      rw [snapClock_of_findCta? found]
    rw [snapped]
    refine ⟨settled, distance_nearerClock_of_findCta? found, entry.2, ctaFormat?_of_mem member,
      nearerClock_mem mode.clock entry.2, ?_, nearerClock_of_tie⟩
    intro clock own
    exact distance_nearerClock_le mode.clock entry.2 own

/-- A picture of 480 lines, at 60 Hz as far as steps of 10 kHz allow. -/
def rounded480 : Mode :=
  .timing 27030 ⟨720, 736, 798, 858⟩ ⟨480, 489, 495, 525⟩ .negative

/-- Only with its clock snapped is it known by its period. -/
theorem snapClock_settles_rounded480 :
    rounded480.ctaCode? .samePeriod = none ∧ rounded480.snapClock.clock = 27027 ∧
      rounded480.snapClock.ctaCode? .samePeriod = some 2 := by
  have coded : rounded480.ctaCode? (.within 5) = some 2 := by decide +kernel
  obtain ⟨_, _, _, matched⟩ := snapClock_settles rounded480
  exact ⟨by decide +kernel, by decide +kernel, (matched 2 coded).1⟩

end Mode

end Edid
