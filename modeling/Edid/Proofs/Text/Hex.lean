import Edid.Proofs.Byte
import Edid.Text.Hex.Plain

/-!
# Spellings of bytes

Bytes have many hex dumps: each digit in either case, blank characters anywhere between digits and
around them. Without its blanks a dump is a row of digit pairs, and of a codec no more is asked than
that it reads these pairs and writes one of their rows.
-/

set_option autoImplicit false

namespace Edid.Text.Hex

/-- A digit for a number below sixteen, in either case. -/
def Writes (character : Char) (value : Nat) : Prop :=
  character = Nat.digitChar value ∨ character = (Nat.digitChar value).toUpper

/-- The texts that spell bytes: two digits for each of them, the more significant one first. -/
inductive Spells : List Char → List Byte → Prop where
  | nil : Spells [] []
  | blank {character : Char} {text : List Char} {bytes : List Byte} :
      isBlank character = true → Spells text bytes → Spells (character :: text) bytes
  | byte {upper lower : Char} {between text : List Char} {byte : Byte} {bytes : List Byte} :
      Writes upper byte.high → (∀ character ∈ between, isBlank character = true) →
      Writes lower byte.low → Spells text bytes →
      Spells (upper :: (between ++ lower :: text)) (byte :: bytes)

/-- The texts of digit pairs for bytes, with nothing between them. -/
inductive Paired : List Char → List Byte → Prop where
  | nil : Paired [] []
  | byte {upper lower : Char} {text : List Char} {byte : Byte} {bytes : List Byte} :
      Writes upper byte.high → Writes lower byte.low → Paired text bytes →
      Paired (upper :: lower :: text) (byte :: bytes)

/-! ## What codecs do -/

/-- Each byte is written as two digits, those beyond nine in lower case. -/
def Codec.WritesLowerCase (codec : Codec) : Prop :=
  ∀ bytes, codec.encode bytes =
    String.ofList (bytes.flatMap fun byte => [Nat.digitChar byte.high, Nat.digitChar byte.low])

/-- Digit pairs are read as their bytes, whatever case each digit is in. -/
def Codec.ReadsEitherCase (codec : Codec) : Prop :=
  ∀ text bytes, Paired text bytes → codec.decode (String.ofList text) = .ok bytes

/-! ## Texts without their blanks -/

theorem Writes.not_blank {character : Char} {value : Nat} (writes : Writes character value)
    (small : value < 16) : isBlank character = false := by
  have lowerCase : ∀ value < 16, isBlank (Nat.digitChar value) = false := by decide
  have upperCase : ∀ value < 16, isBlank (Nat.digitChar value).toUpper = false := by decide
  cases writes with
  | inl lower => rw [lower, lowerCase value small]
  | inr upper => rw [upper, upperCase value small]

/-- What is left of a spelling without its blanks are the pairs. -/
theorem Spells.paired {text : List Char} {bytes : List Byte} (spells : Spells text bytes) :
    Paired (text.filter fun character => !isBlank character) bytes := by
  induction spells with
  | nil => exact .nil
  | blank blank _ ih => simpa [blank] using ih
  | @byte upper lower between text byte bytes upperWrites blank lowerWrites _ ih =>
      have upperKept := upperWrites.not_blank byte.high_lt
      have lowerKept := lowerWrites.not_blank byte.low_lt
      have none : between.filter (fun character => !isBlank character) = [] := by
        simpa using blank
      simpa [upperKept, lowerKept, none] using Paired.byte upperWrites lowerWrites ih

theorem Paired.spells {text : List Char} {bytes : List Byte} (paired : Paired text bytes) :
    Spells text bytes := by
  induction paired with
  | nil => exact .nil
  | @byte upper lower text byte bytes upperWrites lowerWrites _ ih =>
      exact @Spells.byte upper lower [] text byte bytes upperWrites (by simp) lowerWrites ih

/-! ## Dumps through a codec -/

section Codecs

variable {codec : Codec}

theorem Codec.ofText_of_spells (reads : codec.ReadsEitherCase) {text : String} {bytes : List Byte}
    (spells : Spells text.toList bytes) : codec.ofText text = .ok bytes :=
  reads _ _ spells.paired

/-- What is written is a spelling. -/
theorem Codec.spells_encode (writes : codec.WritesLowerCase) (bytes : List Byte) :
    Spells (codec.encode bytes).toList bytes := by
  rw [writes, String.toList_ofList]
  apply Paired.spells
  induction bytes with
  | nil => exact .nil
  | cons byte bytes ih => exact .byte (.inl rfl) (.inl rfl) ih

end Codecs

/-! ## The codec of the program -/

theorem Codec.plain_writesLowerCase : Codec.plain.WritesLowerCase := by
  intro bytes
  rfl

/-- A digit takes one byte of text and is read as what it was written for. -/
theorem Writes.read {character : Char} {value : Nat} (writes : Writes character value)
    (small : value < 16) :
    ∃ code, String.utf8EncodeChar character = [code] ∧ digit? code = some value := by
  have lowerCase : ∀ value < 16,
      String.utf8EncodeChar (Nat.digitChar value) = [UInt8.ofNat (Nat.digitChar value).toNat] ∧
      digit? (UInt8.ofNat (Nat.digitChar value).toNat) = some value := by decide +kernel
  have upperCase : ∀ value < 16,
      String.utf8EncodeChar (Nat.digitChar value).toUpper =
        [UInt8.ofNat (Nat.digitChar value).toUpper.toNat] ∧
      digit? (UInt8.ofNat (Nat.digitChar value).toUpper.toNat) = some value := by decide +kernel
  cases writes with
  | inl lower => exact ⟨_, lower ▸ lowerCase value small⟩
  | inr upper => exact ⟨_, upper ▸ upperCase value small⟩

/-- Pairs are read from any position on, and there are two digits for each byte. -/
theorem Paired.decodePairs_eq {text : List Char} {bytes : List Byte} (paired : Paired text bytes) :
    (text.flatMap String.utf8EncodeChar).length = 2 * bytes.length ∧
      ∀ position, decodePairs position (text.flatMap String.utf8EncodeChar) = .ok bytes := by
  induction paired with
  | nil => exact ⟨rfl, fun _ => rfl⟩
  | @byte upper lower text byte bytes upperWrites lowerWrites _ ih =>
      obtain ⟨length, read⟩ := ih
      obtain ⟨upperCode, upperEncoded, upperRead⟩ := upperWrites.read byte.high_lt
      obtain ⟨lowerCode, lowerEncoded, lowerRead⟩ := lowerWrites.read byte.low_lt
      simp only [List.flatMap_cons, upperEncoded, lowerEncoded, List.singleton_append]
      constructor
      · simp only [List.length_cons, length]
        omega
      · intro position
        simp only [decodePairs, upperRead, lowerRead, read, Except.map]
        rw [← Byte.ofHalves, Byte.ofHalves_high_low]

theorem Codec.plain_readsEitherCase : Codec.plain.ReadsEitherCase := by
  intro text bytes paired
  obtain ⟨length, read⟩ := paired.decodePairs_eq
  have decoded : decodeDigits (text.flatMap String.utf8EncodeChar) = .ok bytes := by
    rw [decodeDigits, length, if_neg (by omega), read]
  simp only [plain, String.toList_ofList, decoded]
  rfl

end Edid.Text.Hex
