import Edid.Proofs.Retrieval.Steady
import Edid.Proofs.Text.Hex

/-!
# Blobs and their dumps

A hex dump says what its bytes say, however it is spelled. Whatever a blob was made from, it is
found again in its own dump and at the front of its own bytes: the base block announces the
extensions that are there, also where some have been dropped.
-/

set_option autoImplicit false

namespace Edid

open Text.Hex (Codec Spells)

namespace Blob

/-- The number of extensions is right, and both written forms of the blob lead back to it. -/
structure Recoverable (codec : Codec) (blob : Blob) : Prop where
  count : (blob.base.byte 126).toNat = blob.extensions.length
  dump : ofText codec (blob.toText codec) = .ok blob
  bytes : ∀ rest, ofBytes (blob.toBytes ++ rest) = .ok blob

section Codecs

variable {codec : Codec}

theorem ofText_of_spells (reads : codec.ReadsEitherCase) {text : String} {bytes : List Byte}
    (spells : Spells text.toList bytes) : ofText codec text = ofBytes bytes := by
  rw [ofText, Codec.ofText_of_spells reads spells]

theorem exists_ofBytes_of_ofText {text : String} {blob : Blob}
    (read : ofText codec text = .ok blob) :
    ∃ bytes, codec.ofText text = .ok bytes ∧ ofBytes bytes = .ok blob := by
  rw [ofText] at read
  cases decoded : codec.ofText text with
  | error reason =>
      rw [decoded] at read
      contradiction
  | ok bytes =>
      rw [decoded] at read
      exact ⟨bytes, rfl, read⟩

theorem recoverable (writes : codec.WritesLowerCase) (reads : codec.ReadsEitherCase) (blob : Blob) :
    blob.Recoverable codec where
  count := blob.count_eq.symm
  dump := (ofText_of_spells reads (Codec.spells_encode writes _)).trans blob.ofBytes_toBytes
  bytes := blob.ofBytes_toBytes_append

end Codecs

end Blob

/-- A text is parsed as the bytes that it spells. A blob is recoverable whether it was read from
bytes or from text, delivered by a display or cleaned by a parse. What is read is the front of the
bytes, and what a parse counts are the extensions that pass. -/
theorem parseText_of_spells {codec : Codec} (writes : codec.WritesLowerCase)
    (reads : codec.ReadsEitherCase) (policy : RepairPolicy) :
    (∀ text bytes, Spells text.toList bytes →
        parseText codec policy text = parse policy bytes) ∧
      (∀ bytes blob, Blob.ofBytes bytes = .ok blob →
        blob.Recoverable codec ∧ blob.toBytes <+: bytes) ∧
      (∀ text blob, Blob.ofText codec text = .ok blob →
        blob.Recoverable codec ∧
          ∃ bytes, codec.ofText text = .ok bytes ∧ blob.toBytes <+: bytes) ∧
      (∀ {σ : Type} (source : BlockSource σ) (state : σ) (blob : Blob),
        (readBlob source policy state).result = .ok blob → blob.Recoverable codec) ∧
      ∀ bytes display, parse policy bytes = .ok display →
        display.blob.Recoverable codec ∧ ∃ raw, Blob.ofBytes bytes = .ok raw ∧
          display.blob.extensions = raw.extensions.filter (·.validateExtension.ok) := by
  have recoverable := Blob.recoverable writes reads
  refine ⟨fun text bytes spells => ?_, fun bytes blob read => ?_, fun text blob read => ?_,
    fun _ _ blob _ => recoverable blob, fun bytes display parsed => ?_⟩
  · rw [parseText, Blob.ofText_of_spells reads spells, parse]
  · exact ⟨recoverable blob, Blob.ofBytes_eq_ok_iff.mp read⟩
  · obtain ⟨bytes, decoded, read⟩ := Blob.exists_ofBytes_of_ofText read
    exact ⟨recoverable blob, bytes, decoded, Blob.ofBytes_eq_ok_iff.mp read⟩
  · obtain ⟨raw, read, decoded⟩ := parse_ok_iff.mp parsed
    obtain ⟨_, rfl⟩ := parseBlob_ok_iff.mp decoded
    exact ⟨recoverable _, raw, read, raw.cleaned_extensions⟩

/-- A dump with one digit in a line, of which every other one is in upper case, and a wide blank
behind every byte. -/
def scattered (bytes : List Byte) : String :=
  String.ofList (bytes.flatMap fun byte =>
    [(Nat.digitChar byte.high).toUpper, '\n', Nat.digitChar byte.low, '\u3000'])

theorem spells_scattered (bytes : List Byte) : Spells (scattered bytes).toList bytes := by
  rw [scattered, String.toList_ofList]
  induction bytes with
  | nil => exact .nil
  | cons byte bytes ih =>
      have newline : ∀ character ∈ ['\n'], Text.isBlank character = true :=
        List.forall_mem_singleton.mpr rfl
      exact .byte (.inr rfl) newline (.inl rfl) (.blank rfl ih)

theorem parseText_of_spells_worn :
    ∃ display, parseText .plain .standard (scattered worn.toBytes) = .ok display ∧
      display.modes.length = 17 ∧ display.workarounds = { preferLargestAt60 := true } ∧
      Blob.ofText .plain (worn.toText .plain) = .ok worn ∧
      Blob.ofText .plain (scattered worn.toBytes) = .ok worn ∧
      (readBlob (.ofBlob worn) .standard ()).result = .ok display.blob ∧
      Blob.ofText .plain (display.blob.toText .plain) = .ok display.blob ∧
      Blob.ofBytes (display.blob.toBytes ++ [0xff]) = .ok display.blob ∧
      (worn.base.byte 126).toNat = 2 ∧ (display.blob.base.byte 126).toNat = 1 := by
  obtain ⟨texts, runs, dumps, readings, parses⟩ :=
    parseText_of_spells Codec.plain_writesLowerCase Codec.plain_readsEitherCase .standard
  have spells := spells_scattered worn.toBytes
  have spelled :=
    (Blob.ofText_of_spells Codec.plain_readsEitherCase spells).trans worn.ofBytes_toBytes
  have delivered : (readBlob (.ofBlob worn) .standard ()).result = .ok worn.cleaned := by
    rw [Retrieval.readBlob_of_serves (Retrieval.serves_ofBlob worn),
      Block.Validation.toExcept_of_ok (by decide +kernel)]
    rfl
  have original := (dumps _ _ spelled).1
  have again := (readings _ _ _ delivered).bytes [0xff]
  obtain ⟨recoverable, raw, read, kept⟩ := parses _ _ parse_worn
  obtain rfl : worn = raw := Except.ok.inj (worn.ofBytes_toBytes.symm.trans read)
  obtain ⟨count, _, wrong, _⟩ := display_worn
  refine ⟨_, (texts _ _ spells).trans parse_worn, count, wrong,
    (runs _ _ worn.ofBytes_toBytes).1.dump, spelled, delivered, recoverable.dump, again,
    original.count, ?_⟩
  rw [recoverable.count, kept]
  decide +kernel

end Edid
