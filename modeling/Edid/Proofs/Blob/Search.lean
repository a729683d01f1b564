import Edid.Blob

/-!
# Searches for extensions

A search gives the first extension with a tag from a position on, and the position behind it. When
it is resumed there over and over, it visits every extension with the tag, once and in the order of
the blob, and then finds none.
-/

set_option autoImplicit false

namespace Edid.Blob

/-- Searches from a position on, each resumed where the one before it says: what they find, each with
the position to resume at, and the position from which nothing is found. -/
inductive Searched (blob : Blob) (tag : Byte) : Nat → List (Block × Nat) → Nat → Prop where
  | done {start : Nat} : blob.findExtension? tag start = none → Searched blob tag start [] start
  | found {start next last : Nat} {extension : Block} {later : List (Block × Nat)} :
      blob.findExtension? tag start = some (extension, next) → Searched blob tag next later last →
      Searched blob tag start ((extension, next) :: later) last

/-- The extensions with a tag from a position on, each with the position behind it. -/
def tagged (blob : Blob) (tag : Byte) (start : Nat) : List (Block × Nat) :=
  ((blob.extensions.zipIdx.drop start).filter fun place => place.1.tag == tag).map
    fun place => (place.1, place.2 + 1)

section Steps

variable {blob : Blob} {tag : Byte} {start next : Nat} {extension : Block}

theorem findExtension?_eq :
    blob.findExtension? tag start =
      ((blob.extensions.zipIdx.drop start).find? fun place => place.1.tag == tag).map
        fun place => (place.1, place.2 + 1) :=
  rfl

theorem tagged_of_none (missing : blob.findExtension? tag start = none) :
    blob.tagged tag start = [] := by
  rw [findExtension?_eq, Option.map_eq_none_iff, List.find?_eq_none] at missing
  rw [tagged, List.map_eq_nil_iff, List.filter_eq_nil_iff]
  exact missing

/-- What is left behind an extension that is found is what a search from there on sees. -/
theorem tagged_of_some (found : blob.findExtension? tag start = some (extension, next)) :
    blob.tagged tag start = (extension, next) :: blob.tagged tag next := by
  rw [findExtension?_eq, Option.map_eq_some_iff] at found
  obtain ⟨⟨candidate, position⟩, hit, same⟩ := found
  obtain ⟨rfl, rfl⟩ := Prod.mk.inj same
  -- A position counts from the first extension, not from where the search began.
  obtain ⟨marked, skipped, rest, split, others⟩ := List.find?_eq_some_iff_append.mp hit
  have placed : position = start + skipped.length := by
    have standing : blob.extensions.zipIdx[start + skipped.length]? = some (candidate, position) := by
      rw [← List.getElem?_drop, split, List.getElem?_append_right (Nat.le_refl _), Nat.sub_self]
      rfl
    rw [List.getElem?_zipIdx, Option.map_eq_some_iff] at standing
    obtain ⟨_, _, same⟩ := standing
    have equal := congrArg Prod.snd same
    omega
  have behind : blob.extensions.zipIdx.drop (position + 1) = rest := by
    rw [placed, Nat.add_assoc, ← List.drop_drop, split, List.drop_append]
    simp
  have unmarked : skipped.filter (fun place => place.1.tag == tag) = [] := by
    rw [List.filter_eq_nil_iff]
    intro place member
    simpa using others place member
  rw [tagged, tagged, behind, split, List.filter_append, unmarked, List.nil_append,
    List.filter_cons, if_pos marked, List.map_cons]

end Steps

section Runs

variable (blob : Blob) (tag : Byte)

/-- Searches find what there is, and come to an end since each goes on behind the one before. -/
theorem exists_searched (start : Nat) :
    ∃ last, Searched blob tag start (blob.tagged tag start) last := by
  -- On the number of extensions that are not passed yet: a search may skip several at once.
  induction left : blob.extensions.length - start using Nat.strongRecOn generalizing start with
  | ind left ih =>
      cases found : blob.findExtension? tag start with
      | none =>
          rw [tagged_of_none found]
          exact ⟨start, .done found⟩
      | some pair =>
          obtain ⟨extension, next⟩ := pair
          obtain ⟨onward, inside⟩ := findExtension?_bounds found
          obtain ⟨last, later⟩ := ih (blob.extensions.length - next) (by omega) next rfl
          rw [tagged_of_some found]
          exact ⟨last, .found found later⟩

variable {blob tag}

theorem Searched.ended {start last : Nat} {visits : List (Block × Nat)}
    (searched : Searched blob tag start visits last) : blob.findExtension? tag last = none := by
  induction searched with
  | done missing => exact missing
  | found _ _ ih => exact ih

theorem Searched.resumptions_eq {start last : Nat} {visits : List (Block × Nat)}
    (searched : Searched blob tag start visits last) :
    blob.resumptions tag start = visits.map Prod.snd := by
  induction searched with
  | done missing =>
      rw [resumptions]
      split
      · rfl
      · next found => cases missing.symm.trans found
  | found hit _ ih =>
      rw [resumptions]
      split
      · next missing => cases missing.symm.trans hit
      · next found =>
          cases hit.symm.trans found
          rw [ih, List.map_cons]

end Runs

theorem mem_tagged_iff {blob : Blob} {tag : Byte} {extension : Block} {next : Nat} :
    (extension, next) ∈ blob.tagged tag 0 ↔
      ∃ position, next = position + 1 ∧ blob.extensions[position]? = some extension ∧
        extension.tag = tag := by
  simp only [tagged, List.drop_zero, List.mem_map, List.mem_filter, beq_iff_eq, Prod.mk.injEq]
  constructor
  · rintro ⟨⟨_, position⟩, ⟨placed, marked⟩, rfl, rfl⟩
    exact ⟨position, rfl, List.mk_mem_zipIdx_iff_getElem?.mp placed, marked⟩
  · rintro ⟨position, rfl, placed, marked⟩
    exact ⟨(extension, position), ⟨List.mk_mem_zipIdx_iff_getElem?.mpr placed, marked⟩, rfl, rfl⟩

theorem map_fst_tagged (blob : Blob) (tag : Byte) :
    (blob.tagged tag 0).map Prod.fst = blob.extensions.filter (·.tag == tag) := by
  have numbered : blob.extensions.zipIdx.map Prod.fst = blob.extensions := List.zipIdx_map_fst 0 _
  have filtered := List.filter_map (f := Prod.fst) (p := fun block : Block => block.tag == tag)
    (l := blob.extensions.zipIdx)
  rw [numbered] at filtered
  rw [filtered, tagged, List.drop_zero, List.map_map]
  rfl

theorem pairwise_tagged (blob : Blob) (tag : Byte) :
    ((blob.tagged tag 0).map Prod.snd).Pairwise (· < ·) := by
  have positions : (blob.extensions.zipIdx.map Prod.snd).Pairwise (· < ·) := by
    rw [List.zipIdx_map_snd]
    exact List.pairwise_lt_range'
  rw [tagged, List.drop_zero, List.map_map, List.pairwise_map]
  refine List.Pairwise.filter _ ((List.pairwise_map.mp positions).imp ?_)
  intro earlier later before
  exact Nat.succ_lt_succ before

/-- Repeated searches for a tag, from the first extension on, find the extensions that have it, in
their order and each at its own position, resume at positions that ascend, and end by finding none. -/
theorem findExtension?_visits (blob : Blob) (tag : Byte) :
    ∃ visits last, Searched blob tag 0 visits last ∧ blob.findExtension? tag last = none ∧
      visits.map Prod.fst = blob.extensions.filter (·.tag == tag) ∧
      (∀ extension next, (extension, next) ∈ visits ↔ ∃ position, next = position + 1 ∧
        blob.extensions[position]? = some extension ∧ extension.tag = tag) ∧
      (visits.map Prod.snd).Pairwise (· < ·) ∧
      blob.resumptions tag 0 = visits.map Prod.snd := by
  obtain ⟨last, searched⟩ := exists_searched blob tag 0
  exact ⟨_, last, searched, searched.ended, map_fst_tagged blob tag, fun _ _ => mem_tagged_iff,
    pairwise_tagged blob tag, searched.resumptions_eq⟩

end Edid.Blob
