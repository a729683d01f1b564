import Edid.Byte
import Edid.Text.Digits

/-!
# UTF-8

Reading bytes as UTF-8, strictly or with replacement. Both readings cut the input in the same
places: a well-formed sequence, or else the longest run that could still have begun one (at
least one byte). The lenient reading puts U+FFFD for each such run; the strict one reports the
first.
-/

set_option autoImplicit false

namespace Edid.Text.Utf8

/-- What a first byte announces: how many bytes follow it, and the range of the first of them. -/
structure Lead where
  following : Nat
  least : Nat
  greatest : Nat

/-- The announcement of a first byte; `none` for a byte that begins no sequence. The narrowed
ranges leave out overlong forms, surrogates and values above U+10FFFF. -/
def Lead.ofByte? (byte : Byte) : Option Lead :=
  let value := byte.toNat
  if value ≤ 0x7f then some ⟨0, 0x80, 0xbf⟩
  else if value < 0xc2 then none
  else if value ≤ 0xdf then some ⟨1, 0x80, 0xbf⟩
  else if value = 0xe0 then some ⟨2, 0xa0, 0xbf⟩
  else if value = 0xed then some ⟨2, 0x80, 0x9f⟩
  else if value ≤ 0xef then some ⟨2, 0x80, 0xbf⟩
  else if value = 0xf0 then some ⟨3, 0x90, 0xbf⟩
  else if value ≤ 0xf3 then some ⟨3, 0x80, 0xbf⟩
  else if value = 0xf4 then some ⟨3, 0x80, 0x8f⟩
  else none

/-- How many of the bytes that follow a first byte continue its sequence. -/
def Lead.continued (lead : Lead) (bytes : List Byte) : Nat :=
  go lead.following lead.least lead.greatest bytes
where
  go : Nat → Nat → Nat → List Byte → Nat
    | missing + 1, least, greatest, byte :: rest =>
        if least ≤ byte.toNat ∧ byte.toNat ≤ greatest then
          1 + go missing 0x80 0xbf rest
        else
          0
    | _, _, _, _ => 0

/-- The code point of a complete sequence. -/
def scalar (first : Byte) (following : List Byte) : Nat :=
  following.foldl (fun value byte => value * 64 + byte.toNat % 64)
    (if following.isEmpty then first.toNat else first.toNat % (64 >>> following.length))

/-- The sequence at the front of an input: its character, if it is well formed, and how many
bytes it takes behind the first. `cut` says that the input ended inside it. -/
structure Sequence where
  character : Option Char
  following : Nat
  cut : Bool

def Sequence.front (first : Byte) (rest : List Byte) : Sequence :=
  match Lead.ofByte? first with
  | none => ⟨none, 0, false⟩
  | some lead =>
      let found := lead.continued rest
      if found = lead.following then
        ⟨some (Char.ofNat (scalar first (rest.take found))), found, false⟩
      else
        ⟨none, found, found = rest.length⟩

/-- The lenient reading: each malformed run becomes one U+FFFD. -/
def decodeLossy : List Byte → List Char
  | [] => []
  | first :: rest =>
      let sequence := Sequence.front first rest
      sequence.character.getD (Char.ofNat 0xfffd) :: decodeLossy (rest.drop sequence.following)
termination_by bytes => bytes.length
decreasing_by simp only [List.length_drop, List.length_cons]; omega

/-- Why bytes are not UTF-8: where the first malformed run begins, and its length unless the
input ends inside it. -/
structure Fault where
  index : Nat
  length : Option Nat
  deriving DecidableEq, Repr

def Fault.message (fault : Fault) : String :=
  match fault.length with
  | some length =>
      "invalid utf-8 sequence of " ++ decimal length ++ " bytes from index " ++
        decimal fault.index
  | none => "incomplete utf-8 byte sequence from index " ++ decimal fault.index

/-- The strict reading. -/
def decode (bytes : List Byte) : Except Fault (List Char) :=
  go 0 bytes
where
  go (index : Nat) : List Byte → Except Fault (List Char)
    | [] => .ok []
    | first :: rest =>
        let sequence := Sequence.front first rest
        match sequence.character with
        | some character =>
            (go (index + 1 + sequence.following) (rest.drop sequence.following)).map
              (character :: ·)
        | none => .error ⟨index, if sequence.cut then none else some (1 + sequence.following)⟩
  termination_by bytes => bytes.length
  decreasing_by simp only [List.length_drop, List.length_cons]; omega

/-- Text of a byte run, read leniently. -/
def text (bytes : List Byte) : String :=
  String.ofList (decodeLossy bytes)

end Edid.Text.Utf8
