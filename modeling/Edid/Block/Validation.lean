import Edid.Block
import Edid.Error

/-!
# Validation of a block

A base block needs its header, every block its checksum, and a block that begins with zero the
version 1. Two kinds of damage are forgiven: a header that is mostly in place is put right, and
a wrong checksum of a CTA extension is overlooked, since switches change such blocks without
summing them anew. Forgiven damage is remembered.
-/

set_option autoImplicit false

namespace Edid

/-- How many header bytes must be in place for the others to be put right: at most all of them. -/
structure RepairPolicy where
  threshold : Nat
  threshold_le : threshold ≤ 8
  deriving DecidableEq, Repr

namespace RepairPolicy

/-- Scores above eight mean eight. -/
def ofScore (score : Nat) : RepairPolicy :=
  ⟨min score 8, Nat.min_le_right score 8⟩

/-- Six of the eight bytes. -/
def standard : RepairPolicy :=
  ofScore 6

end RepairPolicy

namespace Block

/-- The outcome of validating one block. `block` is the block after any repair. -/
structure Validation where
  block : Block
  headerRepaired : Bool
  checksumForgiven : Bool
  defect : Option Defect
  deriving DecidableEq

namespace Validation

def ok (validation : Validation) : Bool :=
  validation.defect.isNone

/-- The block was repaired, forgiven or refused. -/
def corrupt (validation : Validation) : Bool :=
  validation.headerRepaired || validation.checksumForgiven || validation.defect.isSome

/-- A refused block of zeros: most likely nothing is attached. -/
def allZero (validation : Validation) : Bool :=
  validation.defect.isSome && validation.block.isAllZero

/-- The accepted block, or the error for the block at `index`. -/
def toExcept (validation : Validation) (index : Nat) : Except Error Block :=
  match validation.defect with
  | none => .ok validation.block
  | some reason => .error (.badBlock index validation.allZero reason)

end Validation

/-- What is wrong with a block whose header is not in question. -/
def defect? (block : Block) : Option Defect :=
  if block.checksum ≠ block.byte 127 then
    if block.tag = ctaTag then none else some (.badChecksum block.checksum (block.byte 127))
  else if block.tag = 0 ∧ block.byte 18 ≠ 1 then
    some (.badVersion (block.byte 18))
  else
    none

/-- Validates a block whose header is in place or not called for. -/
def validateBody (block : Block) (headerRepaired : Bool) : Validation where
  block := block
  headerRepaired := headerRepaired
  checksumForgiven := block.checksum ≠ block.byte 127 && block.tag = ctaTag
  defect := block.defect?

def validateExtension (block : Block) : Validation :=
  block.validateBody false

def validateBase (policy : RepairPolicy) (block : Block) : Validation :=
  if block.headerScore = 8 then
    block.validateBody false
  else if policy.threshold ≤ block.headerScore then
    block.withHeader.validateBody true
  else
    { block := block
      headerRepaired := false
      checksumForgiven := false
      defect := some (.badHeader block.headerScore) }

end Block

end Edid
