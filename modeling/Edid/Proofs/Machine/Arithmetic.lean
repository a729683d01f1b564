import Edid.Byte
import Edid.Machine
import Mathlib.Algebra.Group.Nat.Defs

/-!
# Arithmetic of a machine

Runs have ends, and a position outside of one is a fault as well. What a computation over a list or a
walk over a run does without a fault is what the plain one does.
-/

set_option autoImplicit false

namespace Edid.Machine

section Bits

/-- The word with one bit set, of a word that has so many bits. -/
def bitOf (bits position : Nat) : Checked Nat :=
  if position < bits then .ok (2 ^ position) else .error .overflow

theorem bitOf_eq {bits position : Nat} (inside : position < bits) :
    bitOf bits position = .ok (2 ^ position) :=
  if_pos inside

theorem bitOf_bind {α : Type} {result : Checked α} {bits position : Nat} {next : Nat → Checked α}
    (inside : position < bits) (rest : next (2 ^ position) = result) :
    bitOf bits position >>= next = result := by
  rw [bitOf_eq inside]
  exact rest

end Bits

section Runs

variable {α : Type}

def read (items : List α) (position : Nat) : Checked α :=
  match items[position]? with
  | some item => .ok item
  | none => .error .outside

/-- The part of a run from one position up to another. -/
def slice (items : List α) (start stop : Nat) : Checked (List α) :=
  if start ≤ stop ∧ stop ≤ items.length then .ok ((items.take stop).drop start)
  else .error .outside

theorem read_eq {items : List α} {position : Nat} (inside : position < items.length) :
    read items position = .ok items[position] := by
  simp [read, inside]

theorem read_of_getElem? {items : List α} {position : Nat} {item : α}
    (found : items[position]? = some item) : read items position = .ok item := by
  rw [read, found]

theorem slice_eq {items : List α} {start stop : Nat}
    (inside : start ≤ stop ∧ stop ≤ items.length) :
    slice items start stop = .ok ((items.take stop).drop start) :=
  if_pos inside

/-! A part of a run begins with what is read at its start, and its front is a part as well. -/

theorem drop_take_eq_cons {items : List α} {position stop : Nat} (before : position < stop)
    (inside : stop ≤ items.length) :
    (items.take stop).drop position =
      items[position] :: (items.take stop).drop (position + 1) := by
  rw [List.drop_eq_getElem_cons (by rw [List.length_take]; omega), List.getElem_take]

theorem take_drop_take {items : List α} {position count stop : Nat}
    (inside : position + count ≤ stop) :
    ((items.take stop).drop position).take count =
      (items.take (position + count)).drop position := by
  rw [List.drop_take, List.drop_take, List.take_take, Nat.add_sub_cancel_left,
    Nat.min_eq_left (by omega)]

theorem drop_take_append {items : List α} {start middle stop : Nat} (first : start ≤ middle)
    (second : middle ≤ stop) :
    (items.take middle).drop start ++ (items.take stop).drop middle =
      (items.take stop).drop start := by
  have front : ((items.take stop).drop start).take (middle - start) =
      (items.take middle).drop start := by
    rw [take_drop_take (by omega), Nat.add_sub_cancel' first]
  have behind : ((items.take stop).drop start).drop (middle - start) =
      (items.take stop).drop middle := by
    rw [List.drop_drop, Nat.add_sub_cancel' first]
  rw [← front, ← behind, List.take_append_drop]

theorem length_drop_take {items : List α} {position stop : Nat} (inside : stop ≤ items.length) :
    ((items.take stop).drop position).length = stop - position := by
  rw [List.length_drop, List.length_take, Nat.min_eq_left inside]

end Runs

section Traversals

variable {α β σ : Type}

/-- What follows a computation without fault goes on with its value. -/
theorem ok_step {first : Checked α} {value : α} {next : α → Checked β} {result : Checked β}
    (done : first = .ok value) (rest : next value = result) : first >>= next = result := by
  rw [done]
  exact rest

@[simp] theorem ok_bind (value : α) (next : α → Checked β) :
    ((Except.ok value : Checked α) >>= next) = next value :=
  rfl

@[simp] theorem pure_eq (value : α) : (pure value : Checked α) = .ok value :=
  rfl

theorem mapM_ok {f : α → Checked β} {g : α → β} {items : List α}
    (each : ∀ item ∈ items, f item = .ok (g item)) : items.mapM f = .ok (items.map g) := by
  induction items with
  | nil => rfl
  | cons item rest ih =>
      have others : ∀ other ∈ rest, f other = .ok (g other) :=
        fun other member => each other (List.mem_cons_of_mem _ member)
      rw [List.mapM_cons, each item List.mem_cons_self, ih others]
      rfl

theorem filterMapM_ok {f : α → Checked (Option β)} {g : α → Option β} {items : List α}
    (each : ∀ item ∈ items, f item = .ok (g item)) :
    items.filterMapM f = .ok (items.filterMap g) := by
  induction items with
  | nil => rfl
  | cons item rest ih =>
      have others : ∀ other ∈ rest, f other = .ok (g other) :=
        fun other member => each other (List.mem_cons_of_mem _ member)
      rw [List.filterMapM_cons, each item List.mem_cons_self, ih others, List.filterMap_cons]
      cases g item <;> rfl

theorem flatMapM_ok {f : α → Checked (List β)} {g : α → List β} {items : List α}
    (each : ∀ item ∈ items, f item = .ok (g item)) :
    items.flatMapM f = .ok (items.flatMap g) := by
  induction items with
  | nil => rfl
  | cons item rest ih =>
      have others : ∀ other ∈ rest, f other = .ok (g other) :=
        fun other member => each other (List.mem_cons_of_mem _ member)
      rw [List.flatMapM_cons, each item List.mem_cons_self, ih others]
      rfl

theorem anyM_ok {f : α → Checked Bool} {g : α → Bool} {items : List α}
    (each : ∀ item ∈ items, f item = .ok (g item)) : items.anyM f = .ok (items.any g) := by
  induction items with
  | nil => rfl
  | cons item rest ih =>
      have others : ∀ other ∈ rest, f other = .ok (g other) :=
        fun other member => each other (List.mem_cons_of_mem _ member)
      rw [List.anyM_cons, each item List.mem_cons_self, ih others, List.any_cons]
      cases g item <;> rfl

theorem findM?_ok {f : α → Checked Bool} {g : α → Bool} {items : List α}
    (each : ∀ item ∈ items, f item = .ok (g item)) : items.findM? f = .ok (items.find? g) := by
  induction items with
  | nil => rfl
  | cons item rest ih =>
      have others : ∀ other ∈ rest, f other = .ok (g other) :=
        fun other member => each other (List.mem_cons_of_mem _ member)
      rw [List.findM?, each item List.mem_cons_self, List.find?_cons, ok_bind, ih others]
      cases g item <;> rfl

/-- A fold whose steps are carried out from states that keep an invariant. -/
theorem foldlM_ok {f : σ → α → Checked σ} {g : σ → α → σ} {items : List α} {start : σ}
    (invariant : σ → Prop) (holds : invariant start)
    (each : ∀ state, ∀ item ∈ items, invariant state →
      f state item = .ok (g state item) ∧ invariant (g state item)) :
    items.foldlM f start = .ok (items.foldl g start) ∧ invariant (items.foldl g start) := by
  induction items generalizing start with
  | nil => exact ⟨rfl, holds⟩
  | cons item rest ih =>
      obtain ⟨step, kept⟩ := each start item List.mem_cons_self holds
      obtain ⟨folded, held⟩ := ih kept fun state other member =>
        each state other (List.mem_cons_of_mem _ member)
      refine ⟨?_, held⟩
      rw [List.foldlM_cons, step, ok_bind, folded, List.foldl_cons]

/-- The images of the longest leading run on which a computation gives one. -/
def mapWhileM (f : α → Checked (Option β)) : List α → Checked (List β)
  | [] => return []
  | item :: rest => do
      match ← f item with
      | some image => return image :: (← mapWhileM f rest)
      | none => return []

theorem mapWhileM_ok {f : α → Checked (Option β)} {g : α → Option β} {items : List α}
    (each : ∀ item ∈ items, f item = .ok (g item)) :
    mapWhileM f items = .ok (mapWhile g items) := by
  induction items with
  | nil => rfl
  | cons item rest ih =>
      have others : ∀ other ∈ rest, f other = .ok (g other) :=
        fun other member => each other (List.mem_cons_of_mem _ member)
      rw [mapWhileM, each item List.mem_cons_self, ok_bind, mapWhile]
      cases g item with
      | none => rfl
      | some image =>
          simp only [ih others]
          rfl

/-- Adds what is found to a list, and one to a count of it that has to stay below a bound. -/
def checkedAdd (bound : Nat) (state : List α × Nat) (found : Option α) :
    Checked (List α × Nat) := do
  match found with
  | none => return state
  | some item => return (state.1 ++ [item], ← below bound (state.2 + 1))

theorem checkedAdd_all {bound : Nat} (options : List (Option α)) {state : List α × Nat}
    (room : state.2 + options.length < bound) :
    options.foldlM (checkedAdd bound) state =
      .ok (state.1 ++ options.filterMap id, state.2 + (options.filterMap id).length) := by
  induction options generalizing state with
  | nil => simp
  | cons found rest ih =>
      rw [List.length_cons] at room
      rw [List.foldlM_cons]
      cases found with
      | none => exact ok_step rfl (ih (by omega))
      | some item =>
          have counted : checkedAdd bound state (some item) =
              .ok (state.1 ++ [item], state.2 + 1) :=
            below_bind (by omega) (pure_eq _)
          refine ok_step counted ((ih (by dsimp only; omega)).trans ?_)
          simp [Nat.add_assoc, Nat.add_comm 1]

end Traversals

section Walks

variable {α β : Type}

theorem ok_of_bind {first : Checked α} {next : α → Checked β} {result : β}
    (done : first >>= next = .ok result) :
    ∃ value, first = .ok value ∧ next value = .ok result := by
  cases first with
  | error fault => contradiction
  | ok value => exact ⟨value, rfl, done⟩

theorem below_eq_ok_iff {bound value result : Nat} :
    below bound value = .ok result ↔ value < bound ∧ value = result := by
  rw [below]
  split
  · next fits => simp [fits]
  · next large => simp [large]

/-- Every step leads on, and not past the end. -/
def Advances (stop : Nat) (next? : Nat → Checked (Option (α × Nat))) : Prop :=
  ∀ ⦃position next : Nat⦄ ⦃item : α⦄, next? position = .ok (some (item, next)) →
    position < next ∧ next ≤ stop

/-- What the steps from a position on find, up to the first that finds nothing. -/
def walk (stop : Nat) (next? : Nat → Checked (Option (α × Nat))) (advances : Advances stop next?)
    (position : Nat) : Checked (List α) :=
  match found : next? position with
  | .error fault => .error fault
  | .ok none => .ok []
  | .ok (some (item, next)) =>
      have := advances found
      (walk stop next? advances next).map (item :: ·)
termination_by stop - position

/-- The steps of a walk: what they find from one position on, and the position where they end as
nothing is found there. -/
inductive Walked (next? : Nat → Checked (Option (α × Nat))) : Nat → List α → Nat → Prop where
  | done {position : Nat} : next? position = .ok none → Walked next? position [] position
  | step {position next last : Nat} {item : α} {items : List α} :
      next? position = .ok (some (item, next)) → Walked next? next items last →
      Walked next? position (item :: items) last

theorem exists_walked {stop : Nat} {next? : Nat → Checked (Option (α × Nat))}
    {advances : Advances stop next?} {position : Nat} {items : List α}
    (walked : walk stop next? advances position = .ok items) :
    ∃ last, Walked next? position items last := by
  fun_induction walk stop next? advances position generalizing items with
  | case1 position fault failed => contradiction
  | case2 position found =>
      cases walked
      exact ⟨position, .done found⟩
  | case3 position item next found _ ih =>
      cases later : walk stop next? advances next with
      | error fault =>
          rw [later] at walked
          contradiction
      | ok others =>
          rw [later] at walked
          cases walked
          obtain ⟨last, steps⟩ := ih later
          exact ⟨last, .step found steps⟩

theorem Walked.ended {next? : Nat → Checked (Option (α × Nat))} {start last : Nat}
    {items : List α} (walked : Walked next? start items last) : next? last = .ok none := by
  induction walked with
  | done found => exact found
  | step _ _ ih => exact ih

/-- Where every item stands in a run from the position of its step up to the next one, and not past
the end, the items stand there one behind the other. -/
theorem Walked.contiguous {next? : Nat → Checked (Option (α × Nat))} {run : List β}
    {layout : α → List β} {stop start last : Nat} {items : List α}
    (each : ∀ ⦃position next : Nat⦄ ⦃item : α⦄, position ≤ stop →
      next? position = .ok (some (item, next)) → next = position + (layout item).length ∧
        next ≤ stop ∧ (run.take next).drop position = layout item)
    (order : start ≤ stop) (walked : Walked next? start items last) :
    last = start + (items.flatMap layout).length ∧ last ≤ stop ∧
      (run.take last).drop start = items.flatMap layout := by
  induction walked with
  | @done position found => exact ⟨rfl, order, List.drop_eq_nil_of_le (List.length_take_le _ _)⟩
  | @step position next last item items found _ ih =>
      obtain ⟨length, kept, stands⟩ := each order found
      obtain ⟨total, bounded, behind⟩ := ih kept
      have onward : position ≤ next := by omega
      have further : next ≤ last := by omega
      rw [List.flatMap_cons, List.length_append, ← Nat.add_assoc, ← length]
      exact ⟨total, bounded, by rw [← stands, ← behind, drop_take_append onward further]⟩

/-- A walk whose steps take apart what is left at each position. -/
theorem walk_ok {stop limit : Nat} {next? : Nat → Checked (Option (α × Nat))}
    (advances : Advances stop next?) (bounded : stop ≤ limit) {rest : Nat → List α}
    (each : ∀ position ≤ limit,
      next? position = .ok none ∧ rest position = [] ∨
        ∃ item next, next? position = .ok (some (item, next)) ∧ rest position = item :: rest next)
    {position : Nat} (inside : position ≤ limit) :
    walk stop next? advances position = .ok (rest position) := by
  induction left : stop - position using Nat.strongRecOn generalizing position with
  | ind left ih =>
      rw [walk]
      rcases each position inside with ⟨found, done⟩ | ⟨item, next, found, more⟩
      · split
        · next fault failed => cases found.symm.trans failed
        · rw [done]
        · next other _ some => cases found.symm.trans some
      · obtain ⟨onward, kept⟩ := advances found
        split
        · next fault failed => cases found.symm.trans failed
        · next none => cases found.symm.trans none
        · next other further same =>
            cases found.symm.trans same
            rw [ih (stop - next) (by omega) (Nat.le_trans kept bounded) rfl, more]
            rfl

end Walks

end Edid.Machine
