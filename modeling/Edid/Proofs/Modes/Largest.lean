import Edid.Proofs.Modes.Preferred

/-!
# The largest mode

A workaround can put the largest mode in the place of the choice of the display. Of modes of one
size the one nearest to a rate counts, and of those that are as near the first. The search goes
through the list once and keeps the leader, so what it ends with has to be held against everything
it has passed.
-/

set_option autoImplicit false

namespace Edid

/-! ## Ranks -/

/-- One place of a list goes before another: its mode is larger, or as large and nearer to the rate,
or as good in both and earlier. -/
def Outranks (target : Nat) (left right : Mode × Nat) : Prop :=
  right.1.area < left.1.area ∨
    right.1.area = left.1.area ∧
      (distance left.1.refresh target < distance right.1.refresh target ∨
        distance left.1.refresh target = distance right.1.refresh target ∧ left.2 < right.2)

namespace Outranks

variable {target : Nat} {leader mode : Mode} {early late : Nat}

theorem trans {first second third : Mode × Nat} (left : Outranks target first second)
    (right : Outranks target second third) : Outranks target first third := by
  rw [Outranks] at left right ⊢
  omega

theorem of_isBetter (better : mode.isBetter target leader = true) :
    Outranks target (mode, late) (leader, early) := by
  simp only [Mode.isBetter, Bool.or_eq_true, Bool.and_eq_true, decide_eq_true_eq] at better
  rw [Outranks]
  dsimp only
  omega

/-- A leader that is no worse stays, as it was there before. -/
theorem of_not_isBetter (kept : ¬ mode.isBetter target leader = true) (before : early < late) :
    Outranks target (leader, early) (mode, late) := by
  simp only [Mode.isBetter, Bool.or_eq_true, Bool.and_eq_true, decide_eq_true_eq] at kept
  rw [Outranks]
  dsimp only
  omega

end Outranks

/-- The entry goes before all others of a list. -/
def Leads (target : Nat) (winner : Mode × Nat) (entries : List (Mode × Nat)) : Prop :=
  winner ∈ entries ∧ ∀ entry ∈ entries, entry = winner ∨ Outranks target winner entry

namespace Leads

variable {target : Nat} {winner : Mode × Nat} {entries : List (Mode × Nat)}

theorem perm (leads : Leads target winner entries) {others : List (Mode × Nat)}
    (same : entries.Perm others) : Leads target winner others :=
  ⟨same.mem_iff.mp leads.1, fun entry member => leads.2 entry (same.mem_iff.mpr member)⟩

/-- What goes after some entry of a list does not come into question. -/
theorem cons {better worse : Mode × Nat} (leads : Leads target winner entries)
    (present : better ∈ entries) (outranked : Outranks target better worse) :
    Leads target winner (worse :: entries) := by
  obtain ⟨listed, others⟩ := leads
  refine ⟨List.mem_cons_of_mem worse listed, List.forall_mem_cons.mpr ⟨.inr ?_, others⟩⟩
  rcases others better present with rfl | before
  · exact outranked
  · exact before.trans outranked

end Leads

/-! ## The search -/

theorem exists_leads_bestFrom (target : Nat) {rest : List (Mode × Nat)} {best : Mode}
    {position : Nat}
    (ascending : ((best, position) :: rest).Pairwise fun left right => left.2 < right.2) :
    ∃ winner,
      Leads target (winner, bestFrom target best position rest) ((best, position) :: rest) := by
  -- The leader changes from step to step, so it has to vary with the list.
  induction rest generalizing best position with
  | nil => exact ⟨best, List.mem_cons_self, List.forall_mem_singleton.mpr (.inl rfl)⟩
  | cons entry rest ih =>
      obtain ⟨mode, next⟩ := entry
      obtain ⟨before, behind⟩ := List.pairwise_cons.mp ascending
      obtain ⟨later, others⟩ := List.forall_mem_cons.mp before
      rw [bestFrom]
      split
      · next better =>
          obtain ⟨winner, leads⟩ := ih behind
          exact ⟨winner, leads.cons List.mem_cons_self (.of_isBetter better)⟩
      · next kept =>
          obtain ⟨winner, leads⟩ := ih (behind.tail.cons others)
          have all := leads.cons List.mem_cons_self (.of_not_isBetter kept later)
          exact ⟨winner, all.perm (.swap _ _ rest)⟩

theorem pairwise_zipIdx (modes : List Mode) (start : Nat) :
    (modes.zipIdx start).Pairwise fun left right => left.2 < right.2 := by
  induction modes generalizing start with
  | nil => exact .nil
  | cons mode rest ih =>
      exact (ih (start + 1)).cons fun entry member => List.le_snd_of_mem_zipIdx member

/-- The best position holds a mode, and no other position goes before it. -/
theorem exists_getElem?_bestPosition (target : Nat) {modes : List Mode} (listed : modes ≠ []) :
    ∃ best, modes[bestPosition target modes]? = some best ∧
      ∀ index mode, modes[index]? = some mode → index ≠ bestPosition target modes →
        Outranks target (best, bestPosition target modes) (mode, index) := by
  cases modes with
  | nil => contradiction
  | cons first rest =>
      obtain ⟨best, placed, others⟩ :=
        exists_leads_bestFrom target (pairwise_zipIdx (first :: rest) 0)
      refine ⟨best, List.mk_mem_zipIdx_iff_getElem?.mp placed, fun index mode here elsewhere => ?_⟩
      rcases others _ (List.mk_mem_zipIdx_iff_getElem?.mpr here) with same | outranked
      · exact (elsewhere (congrArg Prod.snd same)).elim
      · exact outranked

/-! ## The mark -/

theorem getElem?_preferOnly (position index : Nat) (modes : List Mode) :
    (preferOnly position modes)[index]? =
      modes[index]?.map (·.withPreferred (index == position)) := by
  rw [preferOnly, List.getElem?_map, List.getElem?_zipIdx, Option.map_map, Nat.zero_add]
  rfl

theorem map_withPreferred_preferOnly (position : Nat) (modes : List Mode) :
    (preferOnly position modes).map (·.withPreferred false) = modes.map (·.withPreferred false) := by
  apply List.ext_getElem?
  intro index
  rw [List.getElem?_map, List.getElem?_map, getElem?_preferOnly, Option.map_map]
  rfl

/-- The modes of a blob with the marks that their sources give them. -/
def uncorrectedModes (blob : Blob) (workarounds : Workarounds) : List Mode :=
  let context := TimingContext.ofBlob blob
  let listed := addAlternateModes blob (addFormatModes blob (baseModes blob context workarounds))
  addInferredModes blob context (listed ++ displayIdModes blob)

/-- On a display with a workaround that prefers the largest mode exactly one mode is marked. No other
goes before it by size, then rate, then position, and nothing but marks is changed. -/
theorem preferred_of_parse_prefersLargest {policy : RepairPolicy} {bytes : List Byte}
    {display : Display} (parsed : parse policy bytes = .ok display)
    (wrong : display.workarounds.prefersLargest = true) (listed : display.modes ≠ []) :
    (∃ position best, display.modes[position]? = some best ∧ best.preferred = true ∧
      ∀ index mode, display.modes[index]? = some mode → index ≠ position →
        mode.preferred = false ∧
          Outranks display.workarounds.targetRate (best, position) (mode, index)) ∧
    display.modes.map (·.withPreferred false) =
      (uncorrectedModes display.blob display.workarounds).map (·.withPreferred false) := by
  let target := display.workarounds.targetRate
  let modes := uncorrectedModes display.blob display.workarounds
  have marked : display.modes = preferOnly (bestPosition target modes) modes := by
    rw [modes_of_parse parsed]
    exact correctPreferred_of_prefersLargest wrong modes
  have present : modes ≠ [] := by
    intro none
    rw [marked, none] at listed
    exact listed rfl
  obtain ⟨best, placed, others⟩ := exists_getElem?_bestPosition target present
  rw [marked]
  refine ⟨⟨bestPosition target modes, best.withPreferred true, ?_, rfl, ?_⟩,
    map_withPreferred_preferOnly _ modes⟩
  · rw [getElem?_preferOnly, placed, beq_self_eq_true]
    rfl
  · intro index mode here elsewhere
    rw [getElem?_preferOnly] at here
    obtain ⟨source, there, rfl⟩ := Option.map_eq_some_iff.mp here
    have outranked := others index source there elsewhere
    exact ⟨beq_eq_false_iff_ne.mpr elsewhere, outranked⟩

/-- A display that likes 800 by 600 best and has the larger modes of 1024 by 768 at several rates. -/
def relic : Blob where
  base := Vector.ofFn fun position =>
    (Block.header.toList ++ [0x4c, 0x2d, 0x54, 0x02, 0, 0, 0, 0, 0, 0, 1, 3, 0x80, 0, 0, 0, 2] ++
      List.replicate 10 0 ++ [0x01, 0x1e] ++ List.replicate 17 0 ++
      [0xa0, 0x0f, 0x20, 0x00, 0x31, 0x58, 0x1c, 0x20, 0x28, 0x80, 0x14, 0, 0, 0, 0, 0, 0, 0x1e] ++
      List.replicate 55 0 ++ [0x24]).getD position.val 0
  extensions := []
  count_eq := by decide +kernel

theorem parse_relic : parse .standard relic.toBytes = .ok (Display.ofBlob relic false) :=
  parse_of_isValid (by decide +kernel) (by decide +kernel)

/-- Of four modes of one size the fifth of the list, at 60 Hz, is marked in place of the first. -/
theorem preferred_of_parse_prefersLargest_relic :
    ∃ display best, parse .standard relic.toBytes = .ok display ∧
      display.modes[4]? = some best ∧ best.preferred = true ∧
      ∀ index mode, display.modes[index]? = some mode → index ≠ 4 →
        mode.preferred = false ∧ Outranks 60 (best, 4) (mode, index) := by
  have wrong : (Display.ofBlob relic false).workarounds.prefersLargest = true := by decide +kernel
  have target : (Display.ofBlob relic false).workarounds.targetRate = 60 := by decide +kernel
  have fifth : (Display.ofBlob relic false).modes[4]?.map (·.preferred) = some true := by
    decide +kernel
  obtain ⟨fifthMode, there, marked⟩ := Option.map_eq_some_iff.mp fifth
  have listed := List.ne_nil_of_mem (List.mem_of_getElem? there)
  obtain ⟨⟨position, best, placed, preferred, others⟩, _⟩ :=
    preferred_of_parse_prefersLargest parse_relic wrong listed
  have here : position = 4 := by
    refine Decidable.byContradiction fun elsewhere => ?_
    have unmarked := (others 4 fifthMode there (Ne.symm elsewhere)).1
    exact Bool.false_ne_true (unmarked.symm.trans marked)
  subst here
  rw [target] at others
  exact ⟨_, best, parse_relic, placed, preferred, others⟩

end Edid
