import Edid.Cta.Collection
import Edid.Proofs.DisplayId.Section

/-!
# Where CTA-861 data stands

The data blocks of a blob fill a span of one of its extensions. What comes before the span tells
where it is, so it is found there whatever the data blocks are, and a blob whose CTA-861 data can be
read has such a span.
-/

set_option autoImplicit false

namespace Edid

/-- The bytes of a block between two positions. -/
def Block.between (block : Block) (start stop : Nat) : List Byte :=
  (block.toList.take stop).drop start

/-- The extension has a valid section, and no CTA-861 data in it. -/
def Block.LacksCta (extension : Block) : Prop :=
  ∃ payload, DisplayId.sectionPayload? extension = some payload ∧
    ∀ block ∈ DisplayId.DataBlock.readAll payload, block.tag ≠ DisplayId.ctaTag

namespace Cta.Collection

/-- The data of an extension. -/
def ofExtension (extension : Block) : Collection :=
  ⟨extension.toList⟩

/-- The data of a DisplayID data block. -/
def ofDataBlock (block : DisplayId.DataBlock) : Collection :=
  ⟨block.bytes⟩

end Cta.Collection

open DisplayId.DataBlock (stored)

/-- Where the data blocks stand in a blob with the extensions `front`, `carrier` and `behind`: in the
carrier, from one position up to another. They fill the first CTA-861 extension up to the end that
it gives. If there is no such extension, they fill the first CTA-861 data block of the DisplayID
sections, and the sections in front have to be valid. -/
inductive CtaSpan (front : List Block) (carrier : Block) (behind : List Block) :
    Cta.Collection → Nat → Nat → Prop where
  | direct {stop : Nat} :
      (∀ extension ∈ front, extension.tag ≠ Block.ctaTag) → carrier.tag = Block.ctaTag →
      (Cta.Collection.ofExtension carrier).bounds = .ok (4, stop) →
      CtaSpan front carrier behind (.ofExtension carrier) 4 stop
  | wrapped {before : List DisplayId.DataBlock} {wrapper : DisplayId.DataBlock}
      {rest : List Byte} :
      (∀ extension ∈ front ++ carrier :: behind, extension.tag ≠ Block.ctaTag) →
      (∀ extension ∈ front, extension.tag = Block.displayIdTag → extension.LacksCta) →
      (∀ block ∈ before, block.Storable ∧ block.tag ≠ DisplayId.ctaTag) →
      wrapper.Storable → wrapper.tag = DisplayId.ctaTag →
      carrier.HoldsSection (stored before ++ (wrapper.bytes ++ rest)) →
      CtaSpan front carrier behind (.ofDataBlock wrapper) (8 + (stored before).length)
        (8 + (stored before).length + wrapper.payload.length)

/-! ## Bytes between two positions -/

namespace Block

theorem between_of_split {block : Block} {front region behind : List Byte}
    (split : block.toList = front ++ (region ++ behind)) :
    block.between front.length (front.length + region.length) = region := by
  rw [between, split, List.drop_take, List.drop_left, Nat.add_sub_cancel_left, List.take_left]

theorem split_between (block : Block) {start stop : Nat} (order : start ≤ stop) :
    block.toList = block.toList.take start ++ (block.between start stop ++ block.toList.drop stop) := by
  have parts := List.take_append_drop start (block.toList.take stop)
  rw [List.take_take, Nat.min_eq_left order] at parts
  rw [between, ← List.append_assoc, parts, List.take_append_drop]

end Block

/-- What stands in front of the payload of a data block: the tag of the extension, the header of
the section, the data blocks that come before and the header of the data block. -/
def payloadFront (version size product count : Byte) (before : List DisplayId.DataBlock)
    (wrapper : DisplayId.DataBlock) : List Byte :=
  Block.displayIdTag :: version :: size :: product :: count ::
    (stored before ++ [wrapper.tag, wrapper.revision, UInt8.ofNat wrapper.payload.length])

theorem length_payloadFront (version size product count : Byte)
    (before : List DisplayId.DataBlock) (wrapper : DisplayId.DataBlock) :
    (payloadFront version size product count before wrapper).length =
      8 + (stored before).length := by
  simp only [payloadFront, List.length_cons, List.length_append, List.length_nil]
  omega

theorem payloadFront_append (version size product count checksum : Byte)
    (before : List DisplayId.DataBlock) (wrapper : DisplayId.DataBlock) (rest behind : List Byte) :
    payloadFront version size product count before wrapper ++
        (wrapper.payload ++ (rest ++ checksum :: behind)) =
      Block.displayIdTag :: version :: size :: product :: count ::
        (stored before ++ (wrapper.bytes ++ rest) ++ [checksum] ++ behind) := by
  simp only [payloadFront, DisplayId.DataBlock.bytes, List.cons_append, List.append_assoc,
    List.nil_append]

namespace Cta.Collection

/-! ## Data blocks between bounds -/

theorem bounds_of_displayIdTag {collection : Collection}
    (tag : collection.tag = DisplayId.ctaTag) :
    collection.bounds = .ok (3, 3 + (collection.byte 2).toNat) := by
  rw [bounds, if_pos tag]

theorem byte_ofExtension (extension : Block) (position : Fin 128) :
    (ofExtension extension).byte position.val = extension.byte position :=
  extension.getD_toList position

theorem tag_ofExtension (extension : Block) : (ofExtension extension).tag = extension.tag :=
  byte_ofExtension extension 0

theorem stop_of_bounds {extension : Block} (tag : extension.tag = Block.ctaTag)
    {start stop : Nat} (bounds : (ofExtension extension).bounds = .ok (start, stop)) :
    start = 4 ∧ 4 ≤ stop ∧ stop ≤ 127 ∧
      ((extension.byte 2).toNat = 0 ∨ (extension.byte 2).toNat = stop) := by
  have other : ¬ Block.ctaTag = DisplayId.ctaTag := by decide
  have size : (ofExtension extension).byte 2 = extension.byte 2 := byte_ofExtension extension 2
  rw [Collection.bounds, tag_ofExtension, tag, size, if_neg other, if_pos rfl] at bounds
  by_cases zero : (extension.byte 2).toNat = 0
  · simp only [zero, if_true] at bounds
    cases bounds
    exact ⟨rfl, by decide, by decide, .inl zero⟩
  · simp only [zero, if_false] at bounds
    split at bounds
    · next inside =>
        cases bounds
        exact ⟨rfl, inside.1, inside.2, .inr rfl⟩
    · contradiction

theorem exists_bounds_of_dataBlocks {collection : Collection} {blocks : List DataBlock}
    (read : collection.dataBlocks = .ok blocks) :
    ∃ start stop, collection.bounds = .ok (start, stop) := by
  rw [dataBlocks] at read
  cases bounds : collection.bounds with
  | error error =>
      rw [bounds] at read
      cases read
  | ok pair => exact ⟨pair.1, pair.2, rfl⟩

theorem dataBlocks_of_bounds {collection : Collection} {start stop : Nat}
    (bounds : collection.bounds = .ok (start, stop)) :
    collection.dataBlocks = .ok (DataBlock.readAll ((collection.bytes.take stop).drop start)) := by
  rw [dataBlocks, bounds]
  rfl

/-- The bounds of a wrapped collection are those of its payload. -/
theorem bounds_ofDataBlock {wrapper : DisplayId.DataBlock} (storable : wrapper.Storable)
    (tag : wrapper.tag = DisplayId.ctaTag) :
    (ofDataBlock wrapper).bounds = .ok (3, 3 + wrapper.payload.length) := by
  have small := storable.length_le
  have size : ((ofDataBlock wrapper).byte 2).toNat = wrapper.payload.length := by
    change (UInt8.ofNat wrapper.payload.length).toNat = wrapper.payload.length
    rw [UInt8.toNat_ofNat']
    omega
  have same : (ofDataBlock wrapper).tag = DisplayId.ctaTag := tag
  rw [bounds_of_displayIdTag same, size]

/-- The payload of a wrapped collection holds its data blocks. -/
theorem dataBlocks_ofDataBlock {wrapper : DisplayId.DataBlock} (storable : wrapper.Storable)
    (tag : wrapper.tag = DisplayId.ctaTag) :
    (ofDataBlock wrapper).dataBlocks = .ok (DataBlock.readAll wrapper.payload) := by
  rw [dataBlocks_of_bounds (bounds_ofDataBlock storable tag), List.drop_take,
    Nat.add_sub_cancel_left]
  exact congrArg (fun bytes => Except.ok (DataBlock.readAll bytes)) List.take_length

end Cta.Collection

/-! ## Finding the span -/

namespace Blob

theorem map_findExtension? (blob : Blob) (tag : Byte) :
    (blob.findExtension? tag 0).map (·.1) = blob.extensions.find? (·.tag == tag) := by
  have numbered : blob.extensions.zipIdx.map Prod.fst = blob.extensions := List.zipIdx_map_fst 0 _
  have searched := List.find?_map (f := Prod.fst) (p := fun block : Block => block.tag == tag)
    (l := blob.extensions.zipIdx)
  rw [numbered] at searched
  rw [searched, findExtension?, List.drop_zero, Option.map_map]
  rfl

theorem cta?_of_find {blob : Blob} {extension : Block}
    (found : blob.extensions.find? (·.tag == Block.ctaTag) = some extension) :
    blob.cta? = some ⟨extension.toList⟩ := by
  rw [← map_findExtension?] at found
  obtain ⟨⟨_, next⟩, hit, rfl⟩ := Option.map_eq_some_iff.mp found
  rw [cta?, hit]

theorem cta?_of_find_none {blob : Blob}
    (missing : blob.extensions.find? (·.tag == Block.ctaTag) = none) :
    blob.cta? = (blob.displayIdBlocks.find? fun block => block.tag == DisplayId.ctaTag).map
      fun block => ⟨block.bytes⟩ := by
  rw [← map_findExtension?, Option.map_eq_none_iff] at missing
  rw [cta?, missing]

variable {blob : Blob} {front behind : List Block} {carrier : Block}

/-- The data blocks of valid sections come before those of the sections behind them. -/
theorem displayIdBlocks_of_split {payload : List Byte}
    (split : blob.extensions = front ++ carrier :: behind)
    (valid : ∀ extension ∈ front, extension.tag = Block.displayIdTag → extension.LacksCta)
    (holds : carrier.HoldsSection payload) :
    ∃ earlier later,
      blob.displayIdBlocks = earlier ++ (DisplayId.DataBlock.readAll payload ++ later) ∧
        ∀ block ∈ earlier, block.tag ≠ DisplayId.ctaTag := by
  let sections := front.filter fun extension => extension.tag == Block.displayIdTag
  have lacking : ∀ extension ∈ sections, extension.LacksCta := by
    intro extension member
    obtain ⟨inside, marked⟩ := List.mem_filter.mp member
    exact valid extension inside (beq_iff_eq.mp marked)
  have defined : ∀ extension ∈ sections, ∃ image,
      DisplayId.sectionPayload? extension = some image := by
    intro extension member
    obtain ⟨image, found, _⟩ := lacking extension member
    exact ⟨image, found⟩
  let following := behind.filter fun extension => extension.tag == Block.displayIdTag
  have kept : ((carrier :: behind).filter fun extension => extension.tag == Block.displayIdTag) =
      carrier :: following := by
    rw [List.filter_cons, if_pos (beq_iff_eq.mpr holds.tag_eq)]
  have read : mapWhile DisplayId.sectionPayload? (carrier :: following) =
      payload :: mapWhile DisplayId.sectionPayload? following := by
    rw [mapWhile, holds.sectionPayload?_eq]
  refine ⟨((mapWhile DisplayId.sectionPayload? sections).map
      DisplayId.DataBlock.readAll).flatten,
    ((mapWhile DisplayId.sectionPayload? following).map DisplayId.DataBlock.readAll).flatten,
    ?_, ?_⟩
  · rw [displayIdBlocks, displayIdSections, split, List.filter_append, mapWhile_append defined,
      kept, read, List.map_append, List.map_cons, List.flatten_append, List.flatten_cons]
  · intro block member
    obtain ⟨_, listed, inside⟩ := List.mem_flatten.mp member
    obtain ⟨image, placed, rfl⟩ := List.mem_map.mp listed
    obtain ⟨extension, present, found⟩ := mem_of_mem_mapWhile placed
    obtain ⟨other, same, clear⟩ := lacking extension present
    cases found.symm.trans same
    exact clear block inside

theorem cta?_of_direct (split : blob.extensions = front ++ carrier :: behind)
    (free : ∀ extension ∈ front, extension.tag ≠ Block.ctaTag)
    (tag : carrier.tag = Block.ctaTag) : blob.cta? = some (.ofExtension carrier) := by
  apply cta?_of_find
  rw [split, List.find?_append, List.find?_eq_none.mpr]
  · rw [Option.none_or, List.find?_cons, tag, beq_self_eq_true]
  · intro extension member
    rw [beq_iff_eq]
    exact free extension member

theorem cta?_of_wrapped {before : List DisplayId.DataBlock} {wrapper : DisplayId.DataBlock}
    {rest : List Byte} (split : blob.extensions = front ++ carrier :: behind)
    (free : ∀ extension ∈ front ++ carrier :: behind, extension.tag ≠ Block.ctaTag)
    (valid : ∀ extension ∈ front, extension.tag = Block.displayIdTag → extension.LacksCta)
    (others : ∀ block ∈ before, block.Storable ∧ block.tag ≠ DisplayId.ctaTag)
    (storable : wrapper.Storable) (tag : wrapper.tag = DisplayId.ctaTag)
    (holds : carrier.HoldsSection (stored before ++ (wrapper.bytes ++ rest))) :
    blob.cta? = some (.ofDataBlock wrapper) := by
  obtain ⟨earlier, later, listed, clear⟩ := displayIdBlocks_of_split split valid holds
  rw [DisplayId.DataBlock.readAll_stored_append fun block member => (others block member).1,
    DisplayId.DataBlock.readAll_bytes_append storable, List.append_assoc, ← List.append_assoc]
    at listed
  have first : (blob.displayIdBlocks.find? fun block => block.tag == DisplayId.ctaTag) =
      some wrapper := by
    rw [listed, List.find?_append, List.find?_eq_none.mpr]
    · rw [Option.none_or, List.cons_append, List.find?_cons, tag, beq_self_eq_true]
    · intro block member
      rw [beq_iff_eq]
      rcases List.mem_append.mp member with inEarlier | inBefore
      · exact clear block inEarlier
      · exact (others block inBefore).2
  rw [cta?_of_find_none, first]
  · rfl
  · rw [split, List.find?_eq_none]
    intro extension member
    rw [beq_iff_eq]
    exact free extension member

end Blob

namespace CtaSpan

variable {front behind : List Block} {carrier : Block} {collection : Cta.Collection}
  {start stop : Nat}

theorem le (span : CtaSpan front carrier behind collection start stop) :
    start ≤ stop ∧ stop ≤ 128 := by
  cases span with
  | direct free tag bounds =>
      obtain ⟨_, after, before, _⟩ := Cta.Collection.stop_of_bounds tag bounds
      exact ⟨after, Nat.le_succ_of_le before⟩
  | wrapped free valid others storable tag holds =>
      have room := holds.room
      simp only [List.length_append, DisplayId.DataBlock.bytes, List.length_cons] at room
      omega

theorem cta?_eq (span : CtaSpan front carrier behind collection start stop) {blob : Blob}
    (split : blob.extensions = front ++ carrier :: behind) : blob.cta? = some collection := by
  cases span with
  | direct free tag bounds => exact Blob.cta?_of_direct split free tag
  | wrapped free valid others storable tag holds =>
      exact Blob.cta?_of_wrapped split free valid others storable tag holds

theorem dataBlocks_eq (span : CtaSpan front carrier behind collection start stop) :
    collection.dataBlocks = .ok (Cta.DataBlock.readAll (carrier.between start stop)) := by
  cases span with
  | direct free tag bounds => exact Cta.Collection.dataBlocks_of_bounds bounds
  | @wrapped before wrapper rest free valid others storable tag holds =>
      obtain ⟨_, version, product, count, checksum, behind, split, _⟩ := holds
      let size := UInt8.ofNat (stored before ++ (wrapper.bytes ++ rest)).length
      have parts :=
        payloadFront_append version size product count checksum before wrapper rest behind
      have region := Block.between_of_split (split.trans parts.symm)
      rw [length_payloadFront] at region
      rw [Cta.Collection.dataBlocks_ofDataBlock storable tag, region]

theorem ctaBlocks_eq (span : CtaSpan front carrier behind collection start stop) {blob : Blob}
    (split : blob.extensions = front ++ carrier :: behind) :
    blob.ctaBlocks = Cta.DataBlock.readAll (carrier.between start stop) := by
  rw [Blob.ctaBlocks, span.cta?_eq split]
  simp only [span.dataBlocks_eq]

end CtaSpan

/-! ## Every collection has a span -/

namespace Blob

variable {blob : Blob} {collection : Cta.Collection}

/-- The first CTA-861 data block of the sections stands in a valid one, behind valid ones that have
none. -/
theorem exists_section_of_find {wrapper : DisplayId.DataBlock}
    (found : (blob.displayIdBlocks.find? fun block => block.tag == DisplayId.ctaTag) =
      some wrapper) :
    ∃ front carrier behind payload before after, blob.extensions = front ++ carrier :: behind ∧
      (∀ extension ∈ front, extension.tag = Block.displayIdTag → extension.LacksCta) ∧
      carrier.HoldsSection payload ∧
      DisplayId.DataBlock.readAll payload = before ++ wrapper :: after ∧
      (∀ block ∈ before, block.tag ≠ DisplayId.ctaTag) ∧ wrapper.tag = DisplayId.ctaTag := by
  rw [displayIdBlocks, List.find?_flatten_eq_some_iff] at found
  obtain ⟨tag, earlier, before, after, later, sections, clear, clearBefore⟩ := found
  rw [displayIdSections, List.map_eq_append_iff] at sections
  obtain ⟨images, others, mapped, rfl, sections⟩ := sections
  obtain ⟨payload, others, rfl, read, _⟩ := List.map_eq_cons_iff.mp sections
  obtain ⟨valid, carrier, rest, kept, _, defined, image⟩ :=
    exists_of_mapWhile_eq_append_cons mapped
  obtain ⟨leading, trailing, extensions, rfl, marking⟩ := List.filter_eq_append_iff.mp kept
  obtain ⟨skipped, behind, rfl, unmarked, marked, _⟩ := List.filter_eq_cons_iff.mp marking
  refine ⟨leading ++ skipped, carrier, behind, payload, before, after, ?_, ?_, ?_, read, ?_,
    beq_iff_eq.mp tag⟩
  · rw [extensions, List.append_assoc]
  · intro extension member isDisplayId
    have asDisplayId : (extension.tag == Block.displayIdTag) = true := beq_iff_eq.mpr isDisplayId
    rcases List.mem_append.mp member with inLeading | inSkipped
    · obtain ⟨image, listed, same⟩ :=
        defined extension (List.mem_filter.mpr ⟨inLeading, asDisplayId⟩)
      refine ⟨image, same, ?_⟩
      intro block inside
      have other := clear _ (List.mem_map_of_mem listed) block inside
      simpa using other
    · exact absurd asDisplayId (unmarked extension inSkipped)
  · exact Block.holdsSection_iff.mpr ⟨beq_iff_eq.mp marked, image⟩
  · intro block inside
    have other := clearBefore block inside
    simpa using other

theorem exists_ctaSpan {blocks : List Cta.DataBlock} (found : blob.cta? = some collection)
    (read : collection.dataBlocks = .ok blocks) :
    ∃ front carrier behind start stop, blob.extensions = front ++ carrier :: behind ∧
      CtaSpan front carrier behind collection start stop := by
  cases direct : blob.extensions.find? (·.tag == Block.ctaTag) with
  | some carrier =>
      cases (cta?_of_find direct).symm.trans found
      obtain ⟨tag, front, behind, split, others⟩ := List.find?_eq_some_iff_append.mp direct
      have carrierTag : carrier.tag = Block.ctaTag := beq_iff_eq.mp tag
      have free : ∀ extension ∈ front, extension.tag ≠ Block.ctaTag := by
        intro extension member
        have other := others extension member
        simpa using other
      obtain ⟨start, stop, bounds⟩ := Cta.Collection.exists_bounds_of_dataBlocks read
      obtain ⟨rfl, _⟩ := Cta.Collection.stop_of_bounds carrierTag bounds
      exact ⟨front, carrier, behind, 4, stop, split, .direct free carrierTag bounds⟩
  | none =>
      rw [cta?_of_find_none direct, Option.map_eq_some_iff] at found
      obtain ⟨wrapper, found, rfl⟩ := found
      obtain ⟨front, carrier, behind, payload, before, after, split, valid, holds, listed, others,
        tag⟩ := exists_section_of_find found
      obtain ⟨rest, rfl, storable, last⟩ :=
        DisplayId.DataBlock.exists_of_readAll_eq_append listed
      have free : ∀ extension ∈ front ++ carrier :: behind, extension.tag ≠ Block.ctaTag := by
        intro extension member
        have other := List.find?_eq_none.mp direct extension (split ▸ member)
        simpa using other
      have ordinary : ∀ block ∈ before, block.Storable ∧ block.tag ≠ DisplayId.ctaTag := by
        intro block member
        exact ⟨storable block member, others block member⟩
      exact ⟨front, carrier, behind, _, _, split, .wrapped free valid ordinary last tag holds⟩

end Blob

end Edid
