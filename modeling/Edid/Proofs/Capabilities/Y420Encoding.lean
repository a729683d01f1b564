import Edid.Proofs.Capabilities.Order
import Edid.Proofs.Capabilities.Y420

/-!
# The encoding at quarter chroma resolution

A display accepts the encoding if some format can be shown in it. A map of formats replaces the one
before it, while the mark that the encoding is accepted is only ever set. So a map with bits leaves
its mark even where a later map has none.
-/

set_option autoImplicit false

namespace Edid

/-- The map of formats that a data block declares. An empty one stands for all formats. -/
def Cta.DataBlock.y420Map? (block : Cta.DataBlock) : Option Nat :=
  if block.isY420CapabilityMap then
    let bytes := block.payload.drop 1
    some (if bytes.isEmpty then 0xffffffffffffffff else littleEndian (bytes.take 8))
  else
    none

/-- The maps that count for the summary of a blob, in the order of the data blocks. -/
def Blob.y420Maps (blob : Blob) : List Nat :=
  if blob.declaresBaseOnly then [] else blob.ctaBlocks.filterMap Cta.DataBlock.y420Map?

namespace Capabilities

section Blocks

variable (capabilities : Capabilities) (block : Cta.DataBlock)

theorem y420_absorb :
    (capabilities.absorb block).y420Map = block.y420Map?.getD capabilities.y420Map ∧
      (capabilities.absorb block).colorFormats.ycbcr420 =
        (capabilities.colorFormats.ycbcr420 || block.y420Map?.any (· ≠ 0)) := by
  rw [absorb_eq, Cta.DataBlock.y420Map?]
  by_cases isMap : block.isY420CapabilityMap = true
  · rw [Cta.DataBlock.capabilityKind?_eq_y420Map_iff.mpr isMap, if_pos isMap]
    exact ⟨rfl, rfl⟩
  · rw [if_neg isMap, Option.getD_none, Option.any_none, Bool.or_false]
    cases known : block.capabilityKind? with
    | none => exact ⟨rfl, rfl⟩
    | some kind =>
        cases kind with
        | y420Map => exact absurd (Cta.DataBlock.capabilityKind?_eq_y420Map_iff.mp known) isMap
        | hdmi | hdmiForum | videoCapability | dynamicRange => exact ⟨rfl, rfl⟩

end Blocks

section Summary

variable (blob : Blob)

theorem y420_absorbCta (capabilities : Capabilities) :
    (capabilities.absorbCta blob).y420Map =
        (blob.ctaBlocks.filterMap Cta.DataBlock.y420Map?).getLast?.getD capabilities.y420Map ∧
      (capabilities.absorbCta blob).colorFormats.ycbcr420 =
        (blob.ctaBlocks.filterMap Cta.DataBlock.y420Map?).any (· ≠ 0) := by
  rw [absorbCta]
  cases found : blob.cta? with
  | none =>
      have none : blob.ctaBlocks = [] := by rw [Blob.ctaBlocks, found]
      rw [none]
      exact ⟨rfl, rfl⟩
  | some collection =>
      constructor
      · exact foldl_absorb_replaced y420Map (fun summary block => (y420_absorb summary block).1) _ _
      · rw [List.any_filterMap]
        exact (foldl_absorb_accumulated (·.colorFormats.ycbcr420)
          (fun summary block => (y420_absorb summary block).2) _ _).trans (Bool.false_or _)

theorem y420_absorbDepth (capabilities : Capabilities) :
    (capabilities.absorbDepth blob).y420Map = capabilities.y420Map ∧
      (capabilities.absorbDepth blob).colorFormats.ycbcr420 =
        capabilities.colorFormats.ycbcr420 := by
  rw [absorbDepth]
  split
  · exact ⟨rfl, rfl⟩
  · split <;> exact ⟨rfl, rfl⟩

/-- The last map counts, and for the mark any with bits. -/
theorem y420_ofBlob (workarounds : Workarounds) :
    (ofBlob blob workarounds).y420Map = blob.y420Maps.getLast?.getD 0 ∧
      (ofBlob blob workarounds).colorFormats.ycbcr420 = blob.y420Maps.any (· ≠ 0) := by
  rw [Blob.y420Maps]
  by_cases baseOnly : blob.declaresBaseOnly = true
  · rw [ofBlob_of_declaresBaseOnly baseOnly, if_pos baseOnly]
    exact ⟨rfl, rfl⟩
  · obtain ⟨map, mark⟩ := y420_absorbCta blob (ofBase blob workarounds)
    obtain ⟨sameMap, sameMark⟩ :=
      y420_absorbDepth blob ((ofBase blob workarounds).absorbCta blob)
    rw [ofBlob_of_declaresMore baseOnly, if_neg baseOnly, sameMap, map, sameMark, mark]
    exact ⟨rfl, rfl⟩

/-- Formats leave the map as it is, and add the mark if one is shown at quarter chroma resolution
only. -/
theorem y420_collectCapabilities (workarounds : Workarounds) :
    let summary := collectCapabilities blob workarounds
    summary.y420Map = blob.y420Maps.getLast?.getD 0 ∧
      summary.colorFormats.ycbcr420 = (blob.y420Maps.any (· ≠ 0) || !summary.y420Only.isEmpty) := by
  obtain ⟨map, mark⟩ := y420_ofBlob blob workarounds
  have start := (unrecorded_ofBlob blob workarounds).only
  rw [collectCapabilities, forceBits_eq]
  constructor
  · simp only [absorbFormats, map]
  · simp only [absorbFormats, start, mark, VicSet.isEmpty_insertAll_empty]

end Summary

end Capabilities

/-- The last map is one of the maps. -/
theorem Blob.exists_y420Map_of_last {blob : Blob} (bits : blob.y420Maps.getLast?.getD 0 ≠ 0) :
    ∃ map ∈ blob.y420Maps, map ≠ 0 := by
  cases last : blob.y420Maps.getLast? with
  | none =>
      rw [last] at bits
      contradiction
  | some final =>
      rw [last] at bits
      exact ⟨final, List.mem_of_getLast? last, bits⟩

/-- The map of formats is the last that is declared. The encoding is accepted exactly if some map has
bits or some format is shown at quarter chroma resolution only, so it agrees with the map and those
formats except behind a map with bits that another one without bits replaces. -/
theorem ycbcr420_of_parse {policy : RepairPolicy} {bytes : List Byte} {display : Display}
    (parsed : parse policy bytes = .ok display) :
    let maps := display.blob.y420Maps
    let summary := display.capabilities
    summary.y420Map = maps.getLast?.getD 0 ∧
      (summary.colorFormats.ycbcr420 = true ↔
        (∃ map ∈ maps, map ≠ 0) ∨ summary.y420Only.isEmpty = false) ∧
      ((summary.colorFormats.ycbcr420 = true ↔
          summary.y420Map ≠ 0 ∨ summary.y420Only.isEmpty = false) ↔
        (∀ map ∈ maps, map = 0) ∨ summary.y420Map ≠ 0 ∨ summary.y420Only.isEmpty = false) := by
  intro maps summary
  obtain ⟨map, mark⟩ := Capabilities.y420_collectCapabilities display.blob display.workarounds
  rw [← capabilities_of_parse parsed] at map mark
  have accepted : summary.colorFormats.ycbcr420 = true ↔
      (∃ map ∈ maps, map ≠ 0) ∨ summary.y420Only.isEmpty = false := by
    rw [mark, Bool.or_eq_true, List.any_eq_true, Bool.not_eq_true']
    simp only [decide_eq_true_eq, maps, summary]
  have declared (bits : summary.y420Map ≠ 0) : ∃ map ∈ maps, map ≠ 0 := by
    rw [map] at bits
    exact Blob.exists_y420Map_of_last bits
  refine ⟨map, accepted, ?_⟩
  rw [accepted]
  constructor
  · intro agrees
    by_cases bits : ∃ map ∈ maps, map ≠ 0
    · exact .inr (agrees.mp (.inl bits))
    · exact .inl fun map member => by_contra fun some => bits ⟨map, member, some⟩
  · rintro (none | agreed)
    · have noBits : ¬ ∃ map ∈ maps, map ≠ 0 := by
        rintro ⟨map, member, bits⟩
        exact bits (none map member)
      have noMap : ¬ summary.y420Map ≠ 0 := fun bits => noBits (declared bits)
      rw [or_iff_right noBits, or_iff_right noMap]
    · exact iff_of_true (agreed.imp_left declared) agreed

/-- A display with two maps of formats, of which the second has no bits. -/
def splitter : Blob where
  base := Vector.ofFn fun position =>
    (Block.header.toList ++ List.replicate 10 0 ++ [1, 3, 0x80] ++ List.replicate 105 0 ++
      [1, 0x81]).getD position.val 0
  extensions :=
    [Vector.ofFn fun position =>
      ([Block.ctaTag, 3, 12, 0, 0x41, 0x10, 0xe2, 0x0f, 0x01, 0xe2, 0x0f, 0x00] ++
        List.replicate 115 0 ++ [0xbb]).getD position.val 0]
  count_eq := by decide +kernel

theorem parse_splitter :
    parse .standard splitter.toBytes = .ok (Display.ofBlob splitter false) :=
  parse_of_isValid (by decide +kernel) (by decide +kernel)

theorem y420Maps_splitter :
    splitter.y420Maps = [1, 0] ∧
      (Display.ofBlob splitter false).capabilities.y420Only.isEmpty = true := by
  decide +kernel

theorem ycbcr420_of_parse_splitter :
    ∃ display, parse .standard splitter.toBytes = .ok display ∧ display.blob.y420Maps = [1, 0] ∧
      display.capabilities.y420Map = 0 ∧ display.capabilities.colorFormats.ycbcr420 = true := by
  obtain ⟨maps, _⟩ := y420Maps_splitter
  obtain ⟨map, accepted, _⟩ := ycbcr420_of_parse parse_splitter
  have bits : ∃ map ∈ splitter.y420Maps, map ≠ 0 := by
    rw [maps]
    exact ⟨1, List.mem_cons_self, by decide⟩
  refine ⟨_, parse_splitter, maps, map.trans ?_, accepted.mpr (.inl bits)⟩
  exact congrArg (·.getLast?.getD 0) maps

/-- The mark is set although no map has bits and no format is shown at quarter chroma resolution
only. -/
theorem splitter_keeps_mark :
    ∃ display, parse .standard splitter.toBytes = .ok display ∧
      ¬ (display.capabilities.colorFormats.ycbcr420 = true ↔
        display.capabilities.y420Map ≠ 0 ∨ display.capabilities.y420Only.isEmpty = false) := by
  refine ⟨_, parse_splitter, ?_⟩
  decide +kernel

end Edid
