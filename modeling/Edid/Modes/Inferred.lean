import Edid.Descriptor.RangeLimits
import Edid.Formula.Cvt
import Edid.Modes.Context
import Edid.Modes.Panel
import Edid.Standard.Established

/-!
# Inferred modes

A display of continuous frequency takes any timing within its range limits. It is offered the
monitor timings and then some common sizes, synthesized as it expects. A mode is added if
nothing of its size and rate is in the list and something at least as large is.
-/

set_option autoImplicit false

namespace Edid

namespace RangeLimits

/-- The mode is within the limits, and not one of reduced blanking for a display without it. -/
def admits (range : RangeLimits) (context : TimingContext) (mode : Mode) : Bool :=
  range.minLineRate ≤ mode.lineRate && mode.lineRate ≤ range.maxLineRate &&
    range.minRefresh ≤ mode.refresh && mode.refresh ≤ range.maxRefresh &&
    (range.maxClock = 0 || mode.clock ≤ range.maxClock) &&
    (range.maxWidth = 0 || mode.width ≤ range.maxWidth) &&
    (!mode.isReducedBlanking || context.supportsReduced)

end RangeLimits

/-- The list lacks the size and rate of the mode and has something at least as large. -/
def accepts (modes : List Mode) (candidate : Mode) : Bool :=
  !hasSizeAndRefresh modes candidate.width candidate.height candidate.refresh &&
    modes.any fun mode => candidate.width ≤ mode.width && candidate.height ≤ mode.height

/-- Adds a mode that the display takes and the list accepts. -/
def offer (context : TimingContext) (range : RangeLimits) (modes : List Mode)
    (candidate : Mode) : List Mode :=
  if range.admits context candidate && accepts modes candidate then modes ++ [candidate]
  else modes

/-- How a common size becomes a mode for this range, if it does. -/
def synthesizer? (context : TimingContext) (range : RangeLimits) :
    Option (SizedRate → Option Mode) :=
  let request (size : SizedRate) : Formula.Request :=
    { width := size.width, height := size.height, refresh := size.refresh }
  match range.kind with
  | .defaultGtf | .secondaryGtf .. =>
      if context.isNewerThan 1 1 then some fun size => Gtf.standardMode? (request size) else none
  | .cvt =>
      if context.isNewerThan 1 3 then
        some fun size => Cvt.mode? (request size) context.supportsReduced
      else
        none
  | .limitsOnly | .other _ => none

/-- The common sizes that are offered, up to the first that cannot be synthesized. -/
def synthesizedModes (context : TimingContext) (range : RangeLimits) : List Mode :=
  match synthesizer? context range with
  | some synthesize => (mapWhile synthesize Established.commonSizes).map Mode.trimIfPanel
  | none => []

/-- Everything that is offered for a range, in order. -/
def candidates (context : TimingContext) (range : RangeLimits) : List Mode :=
  Dmt.modes ++ synthesizedModes context range

/-- Adds the modes that the range descriptors of a blob imply. -/
def addInferredModes (blob : Blob) (context : TimingContext) (modes : List Mode) : List Mode :=
  if blob.hasContinuousFrequency && blob.isNewerThan 1 0 then
    (blob.descriptors.filterMap fun descriptor =>
      RangeLimits.ofDescriptor? descriptor context.revision).foldl
        (fun modes range => (candidates context range).foldl (offer context range) modes) modes
  else
    modes

end Edid
