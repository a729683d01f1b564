/-!
# Bytes

Blocks, descriptors and data blocks are runs of bytes. Fields are read with `Nat` arithmetic:
a byte is below 256, so a quotient or remainder by a power of two is a bit field and never
wraps. Words of several bytes are little endian unless a name says otherwise.
-/

set_option autoImplicit false

namespace Edid

abbrev Byte := UInt8

namespace Byte

/-- Bit `position` of a byte, counted from the least significant one. -/
def bit (byte : Byte) (position : Nat) : Bool :=
  byte.toNat.testBit position

/-- The upper four bits. -/
def high (byte : Byte) : Nat :=
  byte.toNat / 16

/-- The lower four bits. -/
def low (byte : Byte) : Nat :=
  byte.toNat % 16

/-- The value of two bytes, the less significant one first. -/
def word (first second : Byte) : Nat :=
  first.toNat + 256 * second.toNat

/-- The value of two bytes, the more significant one first. -/
def wordBigEndian (first second : Byte) : Nat :=
  256 * first.toNat + second.toNat

end Byte

/-- The sum of a run of bytes modulo 256. -/
def byteSum : List Byte → Byte
  | [] => 0
  | byte :: rest => byte + byteSum rest

/-- The value of a run of bytes, the least significant one first. -/
def littleEndian : List Byte → Nat
  | [] => 0
  | byte :: rest => byte.toNat + 256 * littleEndian rest

/-- Consecutive pairs. A single element left over at the end is dropped. -/
def pairs {α : Type} : List α → List (α × α)
  | first :: second :: rest => (first, second) :: pairs rest
  | _ => []

/-- Consecutive triples. One or two elements left over at the end are dropped. -/
def triples {α : Type} : List α → List (α × α × α)
  | first :: second :: third :: rest => (first, second, third) :: triples rest
  | _ => []

/-- The first `count` elements and what follows them, if there are that many. -/
def splitFront? {α : Type} (count : Nat) (items : List α) : Option (Vector α count × List α) :=
  if enough : count ≤ items.length then
    some (⟨(items.take count).toArray, by simp [enough]⟩, items.drop count)
  else
    none

/-- The image of the longest leading run on which `f` is defined. -/
def mapWhile {α β : Type} (f : α → Option β) : List α → List β
  | [] => []
  | item :: rest =>
      match f item with
      | some image => image :: mapWhile f rest
      | none => []

theorem mem_of_mem_mapWhile {α β : Type} {f : α → Option β} {items : List α} {image : β}
    (member : image ∈ mapWhile f items) : ∃ item ∈ items, f item = some image := by
  induction items with
  | nil => contradiction
  | cons item rest ih =>
      rw [mapWhile] at member
      split at member
      · next first found =>
          rcases List.mem_cons.mp member with rfl | behind
          · exact ⟨item, List.mem_cons_self, found⟩
          · obtain ⟨other, inside, found⟩ := ih behind
            exact ⟨other, List.mem_cons_of_mem _ inside, found⟩
      · contradiction

theorem mapWhile_append {α β : Type} {f : α → Option β} {front : List α}
    (defined : ∀ item ∈ front, ∃ image, f item = some image) (rest : List α) :
    mapWhile f (front ++ rest) = mapWhile f front ++ mapWhile f rest := by
  induction front with
  | nil => rfl
  | cons item front ih =>
      obtain ⟨first, others⟩ := List.forall_mem_cons.mp defined
      obtain ⟨image, found⟩ := first
      rw [List.cons_append, mapWhile, mapWhile, found, ih others]
      rfl

theorem exists_of_mapWhile_eq_append_cons {α β : Type} {f : α → Option β} {items : List α}
    {images others : List β} {image : β} (mapped : mapWhile f items = images ++ image :: others) :
    ∃ front item rest, items = front ++ item :: rest ∧ mapWhile f front = images ∧
      (∀ other ∈ front, ∃ defined ∈ images, f other = some defined) ∧ f item = some image := by
  induction images generalizing items with
  | nil =>
      cases items with
      | nil => contradiction
      | cons item rest =>
          rw [mapWhile] at mapped
          split at mapped
          · next found =>
              cases mapped
              exact ⟨[], item, rest, rfl, rfl, List.forall_mem_nil _, found⟩
          · contradiction
  | cons first images ih =>
      cases items with
      | nil => contradiction
      | cons item rest =>
          rw [mapWhile] at mapped
          split at mapped
          · next found =>
              rw [List.cons_append] at mapped
              injection mapped with same later
              subst same
              obtain ⟨front, last, behind, rfl, sameImages, defined, foundLast⟩ := ih later
              refine ⟨item :: front, last, behind, rfl, ?_, ?_, foundLast⟩
              · rw [mapWhile, found, sameImages]
              · intro other member
                rcases List.mem_cons.mp member with rfl | inside
                · exact ⟨_, List.mem_cons_self, found⟩
                · obtain ⟨image, listed, foundOther⟩ := defined other inside
                  exact ⟨image, List.mem_cons_of_mem _ listed, foundOther⟩
          · contradiction

end Edid
