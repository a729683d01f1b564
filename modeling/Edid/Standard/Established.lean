import Edid.Standard.Dmt

/-!
# Established timings

Timings that a display announces with a single bit each. The first seventeen are listed in full,
in the order of their bits from the least significant one of byte 35 on. The others, announced
by a descriptor, name a size and rate that the monitor timings resolve.
-/

set_option autoImplicit false

namespace Edid

/-- A size and a refresh rate that still has to be resolved to a timing. -/
structure SizedRate where
  width : Nat
  height : Nat
  refresh : Nat
  reduced : Bool
  deriving DecidableEq, Repr

/-- The monitor timing of that size and rate. -/
def SizedRate.dmt? (sized : SizedRate) : Option Mode :=
  Dmt.find? sized.width sized.height sized.refresh sized.reduced

namespace Established

/-- Established timings I and II, by bit. -/
def modes : List Mode :=
  [.timing 40000 ⟨800, 840, 968, 1056⟩ ⟨600, 601, 605, 628⟩ .positive,
   .timing 36000 ⟨800, 824, 896, 1024⟩ ⟨600, 601, 603, 625⟩ .positive,
   .timing 31500 ⟨640, 656, 720, 840⟩ ⟨480, 481, 484, 500⟩ .negative,
   .timing 31500 ⟨640, 664, 704, 832⟩ ⟨480, 489, 492, 520⟩ .negative,
   .timing 30240 ⟨640, 704, 768, 864⟩ ⟨480, 483, 486, 525⟩ .negative,
   .timing 25175 ⟨640, 656, 752, 800⟩ ⟨480, 490, 492, 525⟩ .negative,
   .timing 35500 ⟨720, 738, 846, 900⟩ ⟨400, 421, 423, 449⟩ .negative,
   .timing 28320 ⟨720, 738, 846, 900⟩ ⟨400, 412, 414, 449⟩ .negativePositive,
   .timing 135000 ⟨1280, 1296, 1440, 1688⟩ ⟨1024, 1025, 1028, 1066⟩ .positive,
   .timing 78750 ⟨1024, 1040, 1136, 1312⟩ ⟨768, 769, 772, 800⟩ .positive,
   .timing 75000 ⟨1024, 1048, 1184, 1328⟩ ⟨768, 771, 777, 806⟩ .negative,
   .timing 65000 ⟨1024, 1048, 1184, 1344⟩ ⟨768, 771, 777, 806⟩ .negative,
   .timing 44900 ⟨1024, 1032, 1208, 1264⟩ ⟨768, 768, 776, 817⟩ .positiveInterlaced,
   .timing 57284 ⟨832, 864, 928, 1152⟩ ⟨624, 625, 628, 667⟩ .negative,
   .timing 49500 ⟨800, 816, 896, 1056⟩ ⟨600, 601, 604, 625⟩ .positive,
   .timing 50000 ⟨800, 856, 976, 1040⟩ ⟨600, 637, 643, 666⟩ .positive,
   .timing 108000 ⟨1152, 1216, 1344, 1600⟩ ⟨864, 865, 868, 900⟩ .positive]

/-- Established timings III, by bit from the most significant one of the first byte on. -/
def sizes : List SizedRate :=
  [⟨640, 350, 85, false⟩,
   ⟨640, 400, 85, false⟩,
   ⟨720, 400, 85, false⟩,
   ⟨640, 480, 85, false⟩,
   ⟨848, 480, 60, false⟩,
   ⟨800, 600, 85, false⟩,
   ⟨1024, 768, 85, false⟩,
   ⟨1152, 864, 75, false⟩,
   ⟨1280, 768, 60, true⟩,
   ⟨1280, 768, 60, false⟩,
   ⟨1280, 768, 75, false⟩,
   ⟨1280, 768, 85, false⟩,
   ⟨1280, 960, 60, false⟩,
   ⟨1280, 960, 85, false⟩,
   ⟨1280, 1024, 60, false⟩,
   ⟨1280, 1024, 85, false⟩,
   ⟨1360, 768, 60, false⟩,
   ⟨1440, 900, 60, true⟩,
   ⟨1440, 900, 60, false⟩,
   ⟨1440, 900, 75, false⟩,
   ⟨1440, 900, 85, false⟩,
   ⟨1400, 1050, 60, true⟩,
   ⟨1400, 1050, 60, false⟩,
   ⟨1400, 1050, 75, false⟩,
   ⟨1400, 1050, 85, false⟩,
   ⟨1680, 1050, 60, true⟩,
   ⟨1680, 1050, 60, false⟩,
   ⟨1680, 1050, 75, false⟩,
   ⟨1680, 1050, 85, false⟩,
   ⟨1600, 1200, 60, false⟩,
   ⟨1600, 1200, 65, false⟩,
   ⟨1600, 1200, 70, false⟩,
   ⟨1600, 1200, 75, false⟩,
   ⟨1600, 1200, 85, false⟩,
   ⟨1792, 1344, 60, false⟩,
   ⟨1792, 1344, 75, false⟩,
   ⟨1856, 1392, 60, false⟩,
   ⟨1856, 1392, 75, false⟩,
   ⟨1920, 1200, 60, true⟩,
   ⟨1920, 1200, 60, false⟩,
   ⟨1920, 1200, 75, false⟩,
   ⟨1920, 1200, 85, false⟩,
   ⟨1920, 1440, 60, false⟩,
   ⟨1920, 1440, 75, false⟩]

/-- Sizes in common use that are offered to a display which takes any timing in its range. -/
def commonSizes : List SizedRate :=
  [⟨1024, 576, 60, false⟩,
   ⟨1366, 768, 60, false⟩,
   ⟨1600, 900, 60, false⟩,
   ⟨1680, 945, 60, false⟩,
   ⟨1920, 1080, 60, false⟩,
   ⟨2048, 1152, 60, false⟩,
   ⟨2048, 1536, 60, false⟩]

end Established

end Edid
