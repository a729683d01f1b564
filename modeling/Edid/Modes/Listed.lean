import Edid.Descriptor.Codes
import Edid.Formula.Cvt
import Edid.Modes.Context
import Edid.Standard.Established

/-!
# Modes of CVT codes and established timings

CVT codes are synthesized as they come, established timings are looked up. Neither asks what is
in the mode list already.
-/

set_option autoImplicit false

namespace Edid

/-- The modes of a CVT code, one for each rate that the formula can produce. -/
def CvtCode.modes (code : CvtCode) : List Mode :=
  code.rates.filterMap fun rate =>
    Cvt.mode? { width := code.width, height := code.height, refresh := rate } false

/-- The modes of all CVT codes, which came with revision 3. -/
def cvtModes (blob : Blob) : List Mode :=
  if blob.isNewerThan 1 2 then
    (blob.descriptors.filter (·.isKind .cvtCodes)).flatMap fun descriptor =>
      descriptor.cvtCodes.flatMap CvtCode.modes
  else
    []

namespace Established

/-- The bits of established timings I and II in the order of the table. Of the third byte only
the uppermost bit is one. -/
def announced (bytes : Byte × Byte × Byte) : List Bool :=
  let (first, second, third) := bytes
  (List.range 8).map first.bit ++ (List.range 8).map second.bit ++ [third.bit 7]

/-- The modes of established timings I and II. -/
def baseModes (blob : Blob) : List Mode :=
  ((announced blob.establishedTimings).zip modes).filterMap fun (announced, mode) =>
    if announced then some mode else none

/-- The modes of an established timings descriptor. -/
def descriptorModes (descriptor : Descriptor) : List Mode :=
  ((descriptor.establishedIndices sizes.length).filterMap fun index => sizes[index]?).filterMap
    SizedRate.dmt?

end Established

/-- The modes of all established timings. Descriptors for them came with revision 1. -/
def establishedModes (blob : Blob) : List Mode :=
  Established.baseModes blob ++
    if blob.isNewerThan 1 0 then
      (blob.descriptors.filter (·.isKind .establishedTimings)).flatMap
        Established.descriptorModes
    else
      []

end Edid
