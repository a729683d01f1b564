import Edid.Blob
import Edid.Descriptor.RangeLimits
import Edid.Mode.Rate

/-!
# What decoding needs to know

Facts about the display that several timing decoders share, gathered once.
-/

set_option autoImplicit false

namespace Edid

/-- How a timing is found that the display names by size and rate only. -/
inductive TimingLevel where
  /-- From the listed monitor timings alone. -/
  | dmt
  | gtf
  /-- By GTF, on a second curve where the first one ends. -/
  | secondaryGtf
  | cvt
  deriving DecidableEq, Repr

structure TimingContext where
  version : Nat
  revision : Nat
  level : TimingLevel
  supportsReduced : Bool
  /-- The line rate in kHz from which the second curve counts, and the curve. -/
  curve : Option (Nat × Gtf.Curve)
  widthCm : Nat
  heightCm : Nat
  /-- The first detailed timing is the one the display likes best. -/
  firstDetailedPreferred : Bool
  deriving DecidableEq, Repr

namespace TimingContext

def isNewerThan (context : TimingContext) (version revision : Nat) : Bool :=
  version < context.version || (context.version = version && revision < context.revision)

/-- The range descriptors of a blob. -/
def rangeDescriptors (blob : Blob) : List Descriptor :=
  blob.descriptors.filter (·.isKind .rangeLimits)

/-- The second curve of the last descriptor that has one. -/
def curveOf (blob : Blob) : Option (Nat × Gtf.Curve) :=
  ((rangeDescriptors blob).filterMap fun descriptor =>
    (RangeKind.ofDescriptor descriptor).curve?).getLast?

/-- Before revision 4 every digital display is taken to support reduced blanking; since then a
range descriptor has a bit for it. -/
def supportsReducedOf (blob : Blob) : Bool :=
  if 4 ≤ blob.revision then (rangeDescriptors blob).any Descriptor.reducedBlankingBit
  else blob.isDigital

/-- Formulas came with revision 2 and the CVT formula with revision 4. A second curve that
begins at zero is none. -/
def levelOf (blob : Blob) : TimingLevel :=
  if blob.revision < 2 then .dmt
  else if 4 ≤ blob.revision && blob.hasContinuousFrequency then .cvt
  else if (curveOf blob).any fun (start, _) => start ≠ 0 then .secondaryGtf
  else if blob.hasContinuousFrequency then .gtf
  else .dmt

def ofBlob (blob : Blob) : TimingContext where
  version := blob.version
  revision := blob.revision
  level := levelOf blob
  supportsReduced := supportsReducedOf blob
  curve := curveOf blob
  widthCm := blob.widthCm
  heightCm := blob.heightCm
  firstDetailedPreferred := blob.isNewerThan 1 3 || blob.features.bit 1

end TimingContext

/-- A mode of that size and refresh rate is in the list. -/
def hasSizeAndRefresh (modes : List Mode) (width height refresh : Nat) : Bool :=
  modes.any fun mode => mode.width == width && mode.height == height && mode.refresh == refresh

end Edid
