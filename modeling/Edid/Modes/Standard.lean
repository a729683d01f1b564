import Edid.Descriptor.Codes
import Edid.Formula.Cvt
import Edid.Modes.Context
import Edid.Modes.Panel
import Edid.Standard.Dmt

/-!
# Modes of standard timing codes

A standard timing code names a width, an aspect ratio and a rate. The timing is looked up among
the monitor timings or else synthesized as the display expects. A size and rate that is in the
list already is not added again.
-/

set_option autoImplicit false

namespace Edid

/-- What a code asks for. -/
structure StandardRequest where
  width : Nat
  height : Nat
  refresh : Nat
  deriving DecidableEq, Repr

namespace StandardRequest

/-- The bytes that fill unused slots. -/
def unusedCodes : List (Byte × Byte) :=
  [(0x00, 0x00), (0x01, 0x01), (0x20, 0x20)]

instance decidableUnused (code : Byte × Byte) : Decidable (code ∈ unusedCodes) :=
  inferInstance

/-- The height for a width in one of four aspect ratios, rounded down. The first ratio was 1:1
before revision 3. -/
def heightFor (width aspect revision : Nat) : Nat :=
  match aspect with
  | 0 => if revision < 3 then width else width * 10 / 16
  | 1 => width * 3 / 4
  | 2 => width * 4 / 5
  | _ => width * 9 / 16

/-- The sizes that stand for a panel of 1366 by 768, which no code can name. -/
def panelSizes : List (Nat × Nat) :=
  [(1360, 765), (1368, 769)]

/-- The size that is meant where a panel is spelled as its neighbour. -/
def corrected (request : StandardRequest) : StandardRequest :=
  if request.refresh = 60 ∧ (request.width, request.height) ∈ panelSizes then
    { request with width := 1366, height := 768 }
  else
    request

/-- What a code asks for; `none` for an unused slot. -/
def ofCode? (code : Byte × Byte) (revision : Nat) : Option StandardRequest :=
  if code ∈ unusedCodes then none
  else
    let width := code.1.toNat * 8 + 248
    some (corrected
      { width := width
        height := heightFor width (code.2.toNat / 64) revision
        refresh := code.2.toNat % 64 + 60 })

def formulaRequest (request : StandardRequest) : Formula.Request where
  width := request.width
  height := request.height
  refresh := request.refresh

/-- The GTF mode for a display with a second curve: past the line rate where that one begins,
the mode is synthesized again on it. -/
def secondaryGtf? (request : StandardRequest) (context : TimingContext) : Option Mode :=
  (Gtf.standardMode? request.formulaRequest).bind fun mode =>
    match context.curve with
    | some (start, curve) =>
        if start < mode.lineRate then Gtf.mode? request.formulaRequest curve else some mode
    | none => some mode

/-- The mode that the expected formula gives. -/
def synthesized? (request : StandardRequest) (context : TimingContext) : Option Mode :=
  match context.level with
  | .dmt => none
  | .gtf => Gtf.standardMode? request.formulaRequest
  | .secondaryGtf => request.secondaryGtf? context
  | .cvt => Cvt.mode? request.formulaRequest false

/-- The listed monitor timing, with reduced blanking if the display supports it. -/
def listed? (request : StandardRequest) (context : TimingContext) : Option Mode :=
  let find := Dmt.find? request.width request.height request.refresh
  (if context.supportsReduced then find true else none).or (find false)

def isPanel (request : StandardRequest) : Bool :=
  request.width = 1366 && request.height = 768 && request.refresh = 60

/-- The mode for a request, whatever is in the list. -/
def mode? (request : StandardRequest) (context : TimingContext) : Option Mode :=
  if request.isPanel then
    (Cvt.mode? request.formulaRequest false).map Mode.trimmedToPanel
  else
    (request.listed? context).or (request.synthesized? context)

end StandardRequest

/-- The mode that a standard timing code adds to a list. -/
def standardMode? (code : Byte × Byte) (context : TimingContext) (modes : List Mode) :
    Option Mode :=
  (StandardRequest.ofCode? code context.revision).bind fun request =>
    if hasSizeAndRefresh modes request.width request.height request.refresh then none
    else request.mode? context

/-- Every standard timing code: those of the base block, then those of descriptors, which came
with revision 1. -/
def standardCodes (blob : Blob) : List (Byte × Byte) :=
  blob.standardTimings ++
    if blob.isNewerThan 1 0 then
      (blob.descriptors.filter (·.isKind .standardTimings)).flatMap Descriptor.standardCodes
    else
      []

/-- Adds the modes of standard timing codes, each in view of those before it. -/
def addStandardModes (blob : Blob) (context : TimingContext) (modes : List Mode) : List Mode :=
  (standardCodes blob).foldl
    (fun modes code => modes ++ (standardMode? code context modes).toList) modes

end Edid
