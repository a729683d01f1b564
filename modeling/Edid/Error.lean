import Edid.Byte
import Edid.Text.Digits

/-!
# Errors

What keeps bytes from being an EDID. Descriptors and data blocks that make no sense are skipped
and are no errors. A `Defect` is what is wrong with one block; an `Error` says what failed.
-/

set_option autoImplicit false

namespace Edid

/-- Why a block is refused. -/
inductive Defect where
  /-- Too few header bytes are in place. -/
  | badHeader (score : Nat)
  | badChecksum (expected found : Byte)
  | badVersion (version : Byte)
  deriving DecidableEq, Repr

inductive Error where
  | badBlock (index : Nat) (allZero : Bool) (reason : Defect)
  /-- A data block collection announces bounds outside its block. -/
  | range (offset length : Nat)
  | unsupportedExtension (tag : Byte)
  /-- The transport could not deliver a block. -/
  | fetch (index : Nat) (source : String)
  | truncated (expected actual : Nat)
  /-- A text is no hex dump, in the words of the codec. -/
  | hex (reason : String)
  deriving DecidableEq, Repr

open Text

def Defect.message : Defect → String
  | .badHeader score => "base block header matches only " ++ decimal score ++ "/8 bytes"
  | .badChecksum expected found =>
      "checksum mismatch: expected " ++ hexadecimalMarked 2 expected.toNat ++ ", found " ++
        hexadecimalMarked 2 found.toNat
  | .badVersion version => "unsupported EDID version " ++ decimal version.toNat

def Error.message : Error → String
  | .badBlock index allZero _ =>
      "EDID block " ++ decimal index ++ " is invalid (all_zero=" ++
        (if allZero then "true" else "false") ++ ")"
  | .range offset length =>
      "data block range out of bounds: offset=" ++ decimal offset ++ " len=" ++ decimal length
  | .unsupportedExtension tag =>
      "extension data block layout not supported (tag " ++ hexadecimalMarked 2 tag.toNat ++ ")"
  | .fetch index _ => "failed to read EDID block " ++ decimal index
  | .truncated expected actual =>
      "EDID truncated: expected at least " ++ decimal expected ++ " bytes, got " ++ decimal actual
  | .hex reason => "invalid hex dump: " ++ reason

/-- What lies behind an error, in words, if anything does. -/
def Error.cause? : Error → Option String
  | .badBlock _ _ reason => some reason.message
  | .fetch _ source => some source
  | .hex reason => some reason
  | .range .. | .unsupportedExtension .. | .truncated .. => none

/-- An error and what lies behind it, outermost first. -/
def Error.chain (error : Error) : List String :=
  error.message :: error.cause?.toList

end Edid
