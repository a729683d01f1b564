import Edid.Parse
import Edid.Proofs.Blob.Bytes
import Edid.Proofs.Blob.Kept

/-!
# What parsing keeps

Parsing decodes the cleaned blob and nothing else: the base block with its header in place and
the extensions that pass. Cleaning what is clean changes nothing, and an extension that is
dropped leaves no trace but the mark that something was wrong. Nothing is marked exactly if the
blob was taken as it came, with every sum right.
-/

set_option autoImplicit false

namespace Edid

namespace Blob

/-- The blob that is decoded: the base block with its header in place and the extensions that
pass, counted and summed anew. -/
def cleaned (blob : Blob) : Blob :=
  ofKept blob.base.withHeader (blob.extensions.filter (·.validateExtension.ok))

/-- An accepted blob that had to be repaired, forgiven or trimmed. -/
def damaged (blob : Blob) : Bool :=
  decide (blob.base.headerScore ≠ 8) || blob.extensions.any (·.validateExtension.corrupt)

/-! ## The cleaned blob -/

theorem cleaned_extensions (blob : Blob) :
    blob.cleaned.extensions = blob.extensions.filter (·.validateExtension.ok) :=
  ofKept_extensions (Nat.le_trans (List.length_filter_le _ _) blob.length_extensions_le)

theorem soundBase_cleaned {blob : Blob} (sound : blob.base.withHeader.SoundBase) :
    blob.cleaned.base.SoundBase :=
  soundBase_ofKept sound _

theorem ok_of_mem_cleaned {blob : Blob} {extension : Block}
    (member : extension ∈ blob.cleaned.extensions) : extension.validateExtension.ok = true := by
  rw [cleaned_extensions] at member
  exact (List.mem_filter.mp member).2

theorem cleaned_of_passing {blob : Blob} (complete : blob.base.headerScore = 8)
    (passing : ∀ extension ∈ blob.extensions, extension.validateExtension.ok = true) :
    blob.cleaned = blob := by
  rw [cleaned, Block.withHeader_of_headerScore complete, List.filter_eq_self.mpr passing,
    ofKept_self]

theorem cleaned_cleaned {blob : Blob} (sound : blob.base.withHeader.SoundBase) :
    blob.cleaned.cleaned = blob.cleaned :=
  cleaned_of_passing (soundBase_cleaned sound).header fun _ member => ok_of_mem_cleaned member

/-- All that can be wrong with a cleaned blob is a checksum that was forgiven. -/
theorem damaged_cleaned_iff {blob : Blob} (sound : blob.base.withHeader.SoundBase) :
    blob.cleaned.damaged = true ↔ ∃ extension ∈ blob.cleaned.extensions,
      extension.tag = Block.ctaTag ∧ extension.byte 127 ≠ extension.checksum := by
  have forgiven {extension : Block} (member : extension ∈ blob.cleaned.extensions) :
      extension.validateExtension.corrupt = true ↔
        extension.tag = Block.ctaTag ∧ extension.byte 127 ≠ extension.checksum := by
    rw [Block.validateExtension_corrupt_of_ok (ok_of_mem_cleaned member)]
    simp only [Block.validateExtension, Block.validateBody, Bool.and_eq_true, decide_eq_true_eq]
    exact ⟨fun both => ⟨both.2, both.1.symm⟩, fun both => ⟨both.2.symm, both.1⟩⟩
  rw [damaged, (soundBase_cleaned sound).header, decide_eq_false (not_not_intro rfl),
    Bool.false_or, List.any_eq_true]
  exact exists_congr fun extension => and_congr_right fun member => forgiven member

theorem damaged_eq_false_iff {blob : Blob} (sound : blob.base.withHeader.SoundBase) :
    blob.damaged = false ↔ blob.cleaned = blob ∧ ∀ block ∈ blob.blocks, block.sum = 0 := by
  simp only [damaged, Bool.or_eq_false_iff, decide_eq_false_iff_not, Decidable.not_not,
    List.any_eq_false, Bool.not_eq_true, Block.validateExtension_corrupt_eq_false_iff, ne_eq]
  constructor
  · rintro ⟨complete, passing⟩
    refine ⟨cleaned_of_passing complete fun extension member => (passing extension member).1,
      fun block member => ?_⟩
    rcases List.mem_cons.mp member with rfl | member
    · exact Block.withHeader_of_headerScore complete ▸ sound.sum
    · exact (passing block member).2
  · rintro ⟨same, sums⟩
    refine ⟨(same ▸ soundBase_cleaned sound).header, fun extension member => ⟨?_, ?_⟩⟩
    · exact ok_of_mem_cleaned (same.symm ▸ member)
    · exact sums extension (List.mem_cons_of_mem _ member)

end Blob

/-! ## Refused extensions -/

namespace Block

/-- The extension itself if it passes. -/
def passing? (block : Block) : Option Block :=
  if block.validateExtension.ok then some block else none

/-- The base block with one more extension announced. The last byte goes down by one, so that
the sum of the block stays what it was. -/
def announceMore (block : Block) : Block :=
  (block.set 127 (block.byte 127 - 1)).set 126 (block.byte 126 + 1)

theorem announceMore_eq (block : Block) :
    block.announceMore = block.withExtensionCount (block.byte 126 + 1) := by
  have lowered : block.byte 127 - 1 =
      block.byte 127 + (block.byte 126 - (block.byte 126 + 1)) := by grind
  rw [announceMore, lowered, withExtensionCount]

theorem passing?_eq_none_iff {block : Block} :
    block.passing? = none ↔ block.validateExtension.ok = false := by
  simp [passing?]

end Block

namespace Blob

/-- The blob with one more extension. -/
def insertExtension (blob : Blob) (position : Nat) (extension : Block)
    (room : blob.extensions.length ≤ 254) (inside : position ≤ blob.extensions.length) : Blob where
  base := blob.base.announceMore
  extensions := blob.extensions.insertIdx position extension
  count_eq := by
    have count : (blob.base.byte 126).toNat = blob.extensions.length := blob.count_eq.symm
    rw [Block.announceMore_eq, Block.extensionCount_withExtensionCount, UInt8.toNat_add,
      List.length_insertIdx_of_le_length inside, count]
    exact (Nat.mod_eq_of_lt (by omega)).symm

private theorem filter_insertIdx_of_neg {α : Type} (keep : α → Bool) {item : α}
    (dropped : keep item = false) (items : List α) (position : Nat) :
    (items.insertIdx position item).filter keep = items.filter keep := by
  induction items generalizing position with
  | nil => cases position <;> simp [dropped]
  | cons first rest ih =>
      cases position with
      | zero => simp [dropped]
      | succ position => simp [List.filter_cons, ih]

/-- Cleaning takes a refused extension out again, and restores the count and the sum. -/
theorem cleaned_insertExtension {blob : Blob} {position : Nat} {extension : Block}
    (refused : extension.validateExtension.ok = false)
    (room : blob.extensions.length ≤ 254) (inside : position ≤ blob.extensions.length) :
    (blob.insertExtension position extension room inside).cleaned = blob.cleaned := by
  simp only [cleaned, insertExtension, Block.announceMore_eq, Block.withHeader_withExtensionCount,
    ofKept_withExtensionCount]
  rw [filter_insertIdx_of_neg (fun block : Block => block.validateExtension.ok) refused]

theorem damaged_of_refused {blob : Blob} {extension : Block}
    (member : extension ∈ blob.extensions)
    (refused : extension.validateExtension.ok = false) : blob.damaged = true := by
  rw [damaged, Bool.or_eq_true]
  exact .inr (List.any_eq_true.mpr
    ⟨extension, member, Block.Validation.corrupt_of_not_ok refused⟩)

/-- What is decoded depends on the extensions that pass alone. -/
theorem cleaned_congr {left right : Blob} (base : left.base = right.base)
    (passing : left.extensions.map Block.passing? = right.extensions.map Block.passing?) :
    left.cleaned = right.cleaned := by
  have kept (blob : Blob) : blob.extensions.filter (·.validateExtension.ok) =
      (blob.extensions.map Block.passing?).filterMap id := by
    rw [List.filterMap_map, ← List.filterMap_eq_filter]
    rfl
  rw [cleaned, cleaned, base, kept, kept, passing]

end Blob

/-! ## Parsing -/

@[simp] theorem Display.ofBlob_blob (blob : Blob) (corrupt : Bool) :
    (Display.ofBlob blob corrupt).blob = blob := by
  rw [Display.ofBlob]

/-- The mark is all that differs between displays of one blob. -/
theorem Display.ofBlob_corrupt (blob : Blob) (corrupt other : Bool) :
    Display.ofBlob blob corrupt = { Display.ofBlob blob other with corrupt := corrupt } := by
  rw [Display.ofBlob, Display.ofBlob]

/-- A blob parses exactly if its base block passes, and then to what the cleaned blob says. -/
theorem parseBlob_ok_iff {policy : RepairPolicy} {blob : Blob} {display : Display} :
    parseBlob policy blob = .ok display ↔
      (blob.base.validateBase policy).ok = true ∧
        display = Display.ofBlob blob.cleaned blob.damaged := by
  have kept : ((blob.extensions.map Block.validateExtension).filter (·.ok)).map (·.block) =
      blob.extensions.filter (·.validateExtension.ok) := by
    rw [List.filter_map, List.map_map]
    exact List.map_id _
  have trace : (blob.extensions.map Block.validateExtension).any (·.corrupt) =
      blob.extensions.any (·.validateExtension.corrupt) :=
    List.any_map
  simp only [parseBlob, kept, trace]
  cases accepted : (blob.base.validateBase policy).ok with
  | false =>
      obtain ⟨reason, _, refusal⟩ := Block.Validation.toExcept_of_not_ok accepted 0
      simp [refusal, Except.map]
  | true =>
      have repaired : (⟨blob.base.withHeader, decide (blob.base.headerScore ≠ 8), false, none⟩ :
          Block.Validation).corrupt = decide (blob.base.headerScore ≠ 8) := by
        simp [Block.Validation.corrupt]
      rw [Block.Validation.toExcept_of_ok accepted, Block.validateBase_of_ok accepted, repaired]
      simp only [Except.map, Except.ok.injEq, true_and]
      exact eq_comm

theorem parseBlob_error_iff {policy : RepairPolicy} {blob : Blob} {error : Error} :
    parseBlob policy blob = .error error ↔
      (blob.base.validateBase policy).toExcept 0 = .error error := by
  rw [parseBlob]
  cases (blob.base.validateBase policy).toExcept 0 <;> simp [Except.map]

theorem parseBlob_cleaned {policy : RepairPolicy} {blob : Blob}
    (accepted : (blob.base.validateBase policy).ok = true) :
    parseBlob policy blob.cleaned =
      .ok (Display.ofBlob blob.cleaned blob.cleaned.damaged) := by
  have sound := (Block.validateBase_ok_iff.mp accepted).2
  rw [parseBlob_ok_iff, (Blob.soundBase_cleaned sound).validateBase, Blob.cleaned_cleaned sound]
  exact ⟨rfl, rfl⟩

theorem parse_toBytes (policy : RepairPolicy) (blob : Blob) :
    parse policy blob.toBytes = parseBlob policy blob := by
  rw [parse, Blob.ofBytes_toBytes, Except.bind]

theorem parse_ok_iff {policy : RepairPolicy} {bytes : List Byte} {display : Display} :
    parse policy bytes = .ok display ↔
      ∃ blob, Blob.ofBytes bytes = .ok blob ∧ parseBlob policy blob = .ok display := by
  rw [parse]
  cases Blob.ofBytes bytes with
  | error fault => simp [Except.bind]
  | ok blob => simp [Except.bind]

/-- A valid blob without damage says what is in it. -/
theorem parse_of_isValid {policy : RepairPolicy} {blob : Blob} (valid : blob.isValid policy = true)
    (undamaged : blob.damaged = false) :
    parse policy blob.toBytes = .ok (Display.ofBlob blob false) := by
  obtain ⟨accepted, passing⟩ := Bool.and_eq_true_iff.mp valid
  obtain ⟨header, _⟩ := Bool.or_eq_false_iff.mp undamaged
  have complete : blob.base.headerScore = 8 := by simpa using header
  have same := Blob.cleaned_of_passing complete (List.all_eq_true.mp passing)
  rw [parse_toBytes, parseBlob_ok_iff, same, undamaged]
  exact ⟨accepted, rfl⟩

theorem capabilities_of_parse {policy : RepairPolicy} {bytes : List Byte} {display : Display}
    (parsed : parse policy bytes = .ok display) :
    display.capabilities = collectCapabilities display.blob display.workarounds := by
  obtain ⟨blob, _, decoded⟩ := parse_ok_iff.mp parsed
  obtain ⟨_, rfl⟩ := parseBlob_ok_iff.mp decoded
  rfl

/-- The bytes of a cleaned blob parse again, to what they said before. Something is wrong with
them exactly if an extension with a wrong checksum was forgiven and kept. -/
theorem parse_cleaned_bytes {policy : RepairPolicy} {bytes : List Byte} {display : Display}
    (parsed : parse policy bytes = .ok display) :
    ∃ again, parse policy display.blob.toBytes = .ok again ∧
      again.blob = display.blob ∧ again.identity = display.identity ∧
      again.workarounds = display.workarounds ∧
      again.capabilities = display.capabilities ∧ again.modes = display.modes ∧
      (again.corrupt = true ↔ ∃ extension ∈ display.blob.extensions,
        extension.tag = Block.ctaTag ∧ extension.byte 127 ≠ extension.checksum) := by
  obtain ⟨blob, _, decoded⟩ := parse_ok_iff.mp parsed
  obtain ⟨accepted, made⟩ := parseBlob_ok_iff.mp decoded
  have sound := (Block.validateBase_ok_iff.mp accepted).2
  have kept : display.blob = blob.cleaned := by rw [made, Display.ofBlob_blob]
  have again : parse policy blob.cleaned.toBytes =
      .ok { display with corrupt := blob.cleaned.damaged } := by
    rw [parse_toBytes, parseBlob_cleaned accepted, made,
      Display.ofBlob_corrupt blob.cleaned blob.cleaned.damaged blob.damaged]
  have stored : parse policy display.blob.toBytes = parse policy blob.cleaned.toBytes := by
    rw [kept]
  refine ⟨_, stored.trans again, rfl, rfl, rfl, rfl, rfl, ?_⟩
  dsimp only
  rw [kept]
  exact Blob.damaged_cleaned_iff sound

/-- A display that prefers its largest mode, lists formats and sound and announces stereo. Its header
has a wrong byte, its CTA extension was never summed, and a video timing block is refused. -/
def worn : Blob where
  base := Vector.ofFn fun position =>
    ((0x01 : Byte) :: List.replicate 6 0xff ++
      [0, 0x4c, 0x2d, 0x54, 0x02, 0, 0, 0, 0, 0, 0, 1, 3, 0x80, 0, 0, 0, 2] ++ List.replicate 10 0 ++
      [0x01] ++ List.replicate 18 0 ++
      [0x01, 0x1d, 0x00, 0x72, 0x51, 0xd0, 0x1e, 0x20, 0x6e, 0x28, 0x55, 0, 0, 0, 0, 0, 0, 0x1e] ++
      List.replicate 54 0 ++ [2, 0xb6]).getD position.val 0
  extensions :=
    [Vector.ofFn fun position =>
      [Block.ctaTag, 3, 34, 0, 0x42, 0x10, 0x04, 0x23, 0x09, 0x07, 0x07, 0x83, 0x01, 0x00, 0x00, 0xe2,
        0x0f, 0x02, 0xe2, 0x0e, 0x61, 0x6c, 0x03, 0x0c, 0x00, 0x10, 0x00, 0x38, 0x3c, 0xa0, 0x29, 0x0b,
        0x80, 0x00].getD position.val 0,
     Vector.ofFn fun position => [Block.timingBlockTag].getD position.val 0]
  count_eq := by decide +kernel

theorem parse_worn :
    parse .standard worn.toBytes = .ok (Display.ofBlob worn.cleaned worn.damaged) := by
  rw [parse_toBytes, parseBlob_ok_iff]
  exact ⟨by decide +kernel, rfl⟩

/-- What is left of the damage says this about the display. -/
theorem display_worn :
    let display := Display.ofBlob worn.cleaned worn.damaged
    display.modes.length = 17 ∧
      display.preferredMode?.map (fun mode => (mode.width, mode.height)) = some (3840, 2160) ∧
      display.workarounds = { preferLargestAt60 := true } ∧ display.capabilities.hdmi = true ∧
      display.capabilities.bitsPerColor = 12 ∧
      display.capabilities.y420Also.contains 4 = true ∧ display.corrupt = true := by
  decide +kernel

theorem parse_cleaned_bytes_worn :
    ∃ display again, parse .standard worn.toBytes = .ok display ∧
      parse .standard display.blob.toBytes = .ok again ∧ again.modes = display.modes ∧
      display.modes.length = 17 ∧ again.workarounds = { preferLargestAt60 := true } ∧
      again.capabilities = display.capabilities ∧ display.capabilities.bitsPerColor = 12 ∧
      again.corrupt = true := by
  obtain ⟨again, parsed, _, _, workarounds, capabilities, modes, corrupt⟩ :=
    parse_cleaned_bytes parse_worn
  obtain ⟨count, _, wrong, _, depth, _, _⟩ := display_worn
  refine ⟨_, again, parse_worn, parsed, modes, count, workarounds.trans wrong, capabilities, depth,
    corrupt.mpr ?_⟩
  rw [Display.ofBlob_blob, Blob.cleaned_extensions]
  exact ⟨worn.extensions[0], List.mem_filter.mpr ⟨List.getElem_mem _, by decide +kernel⟩,
    by decide +kernel⟩

/-- A refused extension that is put in anywhere changes nothing but the mark. What it holds makes
no difference, and neither does what any other refused extension holds. -/
theorem parse_insertExtension {policy : RepairPolicy} {blob : Blob} {display : Display}
    {position : Nat} {extension : Block} (parsed : parseBlob policy blob = .ok display)
    (refused : extension.validateExtension.ok = false)
    (room : blob.extensions.length ≤ 254) (inside : position ≤ blob.extensions.length) :
    let inserted := blob.insertExtension position extension room inside
    parseBlob policy inserted = .ok { display with corrupt := true } ∧
      parse policy inserted.toBytes = .ok { display with corrupt := true } ∧
      ∀ other : Blob, other.base = inserted.base →
        other.extensions.map Block.passing? = inserted.extensions.map Block.passing? →
        parseBlob policy other = .ok { display with corrupt := true } := by
  obtain ⟨accepted, rfl⟩ := parseBlob_ok_iff.mp parsed
  intro inserted
  have baseAccepted : (inserted.base.validateBase policy).ok = true := by
    change ((blob.base.announceMore).validateBase policy).ok = true
    rw [Block.announceMore_eq]
    exact Block.validateBase_ok_withExtensionCount _ accepted
  have member : extension ∈ inserted.extensions :=
    List.mem_insertIdx inside |>.mpr (.inl rfl)
  have alike (other : Blob) (base : other.base = inserted.base)
      (passing : other.extensions.map Block.passing? = inserted.extensions.map Block.passing?) :
      parseBlob policy other =
        .ok { Display.ofBlob blob.cleaned blob.damaged with corrupt := true } := by
    have hidden : none ∈ other.extensions.map Block.passing? := by
      rw [passing]
      exact List.mem_map.mpr ⟨extension, member, Block.passing?_eq_none_iff.mpr refused⟩
    obtain ⟨unseen, present, bad⟩ := List.mem_map.mp hidden
    have marked := Blob.damaged_of_refused present (Block.passing?_eq_none_iff.mp bad)
    have cleaned : other.cleaned = blob.cleaned :=
      (Blob.cleaned_congr base passing).trans (Blob.cleaned_insertExtension refused room inside)
    rw [← Display.ofBlob_corrupt, parseBlob_ok_iff, base, cleaned, marked]
    exact ⟨baseAccepted, rfl⟩
  refine ⟨alike inserted rfl rfl, ?_, alike⟩
  rw [parse_toBytes]
  exact alike inserted rfl rfl

theorem parse_insertExtension_worn :
    ∃ display, parse .standard worn.toBytes = .ok display ∧ display.modes.length = 17 ∧
      display.workarounds = { preferLargestAt60 := true } ∧
      parse .standard (worn.insertExtension 1 worn.extensions[1] (by decide) (by decide)).toBytes =
        .ok { display with corrupt := true } := by
  have parsed : parseBlob .standard worn = .ok _ := parse_toBytes _ _ ▸ parse_worn
  obtain ⟨count, _, wrong, _⟩ := display_worn
  exact ⟨_, parse_worn, count, wrong,
    (parse_insertExtension parsed (by decide +kernel) (by decide) (by decide)).2.1⟩

/-- Nothing is marked exactly if the blob was taken as it stands in the bytes and all its blocks
sum to zero. -/
theorem parse_corrupt_eq_false_iff {policy : RepairPolicy} {bytes : List Byte}
    {display : Display} (parsed : parse policy bytes = .ok display) :
    display.corrupt = false ↔
      Blob.ofBytes bytes = .ok display.blob ∧ ∀ block ∈ display.blob.blocks, block.sum = 0 := by
  obtain ⟨blob, read, decoded⟩ := parse_ok_iff.mp parsed
  obtain ⟨accepted, rfl⟩ := parseBlob_ok_iff.mp decoded
  have sound := (Block.validateBase_ok_iff.mp accepted).2
  have mark : (Display.ofBlob blob.cleaned blob.damaged).corrupt = blob.damaged := by
    rw [Display.ofBlob]
  rw [mark, Blob.damaged_eq_false_iff sound, Display.ofBlob_blob, read, Except.ok.injEq,
    eq_comm (a := blob)]
  exact and_congr_right fun same => by rw [same]

/-- A base block in order and a CTA extension that was summed. -/
def intact : Blob where
  base := (((Block.withHeader (.replicate 128 0)).set 18 1).set 126 1).set 127 4
  extensions := [.set (.set (.replicate 128 0) 0 Block.ctaTag) 127 0xfe]
  count_eq := by decide

theorem parse_corrupt_eq_false_iff_intact :
    ∃ display, parse .standard intact.toBytes = .ok display ∧ display.corrupt = false := by
  have parsed : parse .standard intact.toBytes =
      .ok (Display.ofBlob intact.cleaned intact.damaged) := by
    rw [parse_toBytes, parseBlob_ok_iff]
    exact ⟨by decide +kernel, rfl⟩
  have same : intact.cleaned = intact :=
    Blob.cleaned_of_passing (by decide +kernel) (List.forall_mem_singleton.mpr (by decide +kernel))
  have sums : ∀ block ∈ intact.blocks, block.sum = 0 :=
    List.forall_mem_cons.mpr ⟨by decide +kernel, List.forall_mem_singleton.mpr (by decide +kernel)⟩
  refine ⟨_, parsed, (parse_corrupt_eq_false_iff parsed).mpr ?_⟩
  rw [Display.ofBlob_blob, same]
  exact ⟨intact.ofBytes_toBytes, sums⟩

end Edid
