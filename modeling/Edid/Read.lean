import Edid.Parse

/-!
# Reading an EDID from a display

Displays deliver their blocks one by one and not always intact. Each block is read until a read
passes validation, four times at most. A base block that never passes ends the reading, and so
does one that reads as zeros at once, since nothing is attached then; an extension that never
passes is left out. Any failure of the transport ends the reading.

A source is a state machine, so nothing is assumed about how its answers hang together. Every
read is recorded with its answer.
-/

set_option autoImplicit false

namespace Edid

/-- What one read of a block brings. -/
abbrev Answer := Except Error Block

/-- Anything that answers reads of blocks by index. -/
structure BlockSource (σ : Type) where
  read : Nat → σ → Answer × σ

namespace BlockSource

/-- A source whose answers depend on the index alone. -/
def ofFunction (answer : Nat → Answer) : BlockSource Unit where
  read index state := (answer index, state)

/-- A read-only source of the blocks of a blob. -/
def ofBlob (blob : Blob) : BlockSource Unit :=
  ofFunction fun index =>
    match blob.block? index with
    | some block => .ok block
    | none => .error (.fetch index "no such block")

/-- For each index, the answers that are left. The last one is given again and again. -/
abbrev Script := List (Nat × List Answer)

namespace Script

/-- The answers for an index without the one that is given next. -/
def advance : List Answer → List Answer
  | _ :: next :: rest => next :: rest
  | answers => answers

/-- The next answer for an index. -/
def answer (script : Script) (index : Nat) : Answer :=
  match (script.lookup index).bind List.head? with
  | some answer => answer
  | none => .error (.fetch index "no such block")

end Script

/-- A source that gives prepared answers. -/
def scripted : BlockSource Script where
  read index script :=
    (script.answer index,
      script.map fun (other, answers) =>
        (other, if other = index then Script.advance answers else answers))

end BlockSource

/-- A read and its answer. -/
structure Reading where
  index : Nat
  answer : Answer

/-- What a reading came to, the reads it took and the state it left the source in. -/
structure Session (σ α : Type) where
  result : Except Error α
  readings : List Reading
  state : σ

namespace Session

variable {σ α β : Type}

/-- The session with a read in front of it. -/
def after (session : Session σ α) (reading : Reading) : Session σ α :=
  { session with readings := reading :: session.readings }

/-- Goes on from a result, unless the reading has failed. -/
def andThen (session : Session σ α) (next : α → σ → Session σ β) : Session σ β :=
  match session.result with
  | .error error => ⟨.error error, session.readings, session.state⟩
  | .ok value =>
      let following := next value session.state
      { following with readings := session.readings ++ following.readings }

end Session

/-- How often a block is read again before it is given up. -/
def furtherTries : Nat := 3

/-- Reads a block until a read passes validation, with `further` tries after the first. The
result is the validation of the last read. The first read also ends the reading if `giveUp` says
so of its block. -/
def readBlock {σ : Type} (source : BlockSource σ) (validate : Block → Block.Validation)
    (giveUp : Block → Bool) (index further : Nat) (state : σ) :
    Session σ Block.Validation :=
  match source.read index state with
  | (.error error, state) => ⟨.error error, [⟨index, .error error⟩], state⟩
  | (.ok block, state) =>
      let validation := validate block
      match further with
      | 0 => ⟨.ok validation, [⟨index, .ok block⟩], state⟩
      | further + 1 =>
          if validation.ok || giveUp block then ⟨.ok validation, [⟨index, .ok block⟩], state⟩
          else
            (readBlock source validate (fun _ => false) index further state).after
              ⟨index, .ok block⟩

/-- Reads the base block. A first read of zeros means that nothing is attached. -/
def readBase {σ : Type} (source : BlockSource σ) (policy : RepairPolicy) (state : σ) :
    Session σ Block :=
  let session := readBlock source (Block.validateBase policy) Block.isAllZero 0 furtherTries state
  { session with result := session.result.bind fun validation => validation.toExcept 0 }

/-- Reads the extensions at the given indices in turn and keeps those that pass. -/
def readExtensions {σ : Type} (source : BlockSource σ) :
    List Nat → σ → Session σ (List Block)
  | [], state => ⟨.ok [], [], state⟩
  | index :: rest, state =>
      (readBlock source Block.validateExtension (fun _ => false) index furtherTries state).andThen
        fun validation state =>
          let session := readExtensions source rest state
          let kept := if validation.ok then [validation.block] else []
          { session with result := session.result.map (kept ++ ·) }

/-- Reads a blob: the base block, then every extension that it announces. -/
def readBlob {σ : Type} (source : BlockSource σ) (policy : RepairPolicy) (state : σ) :
    Session σ Blob :=
  (readBase source policy state).andThen fun base state =>
    let session := readExtensions source (List.range' 1 base.extensionCount) state
    { session with result := session.result.map (Blob.ofKept base) }

/-- Reads a blob and decodes it. -/
def readDisplay {σ : Type} (source : BlockSource σ) (policy : RepairPolicy) (state : σ) :
    Session σ Display :=
  let session := readBlob source policy state
  { session with result := session.result.bind (parseBlob policy) }

end Edid
