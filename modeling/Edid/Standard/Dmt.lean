import Edid.Mode.Rate

/-!
# Display monitor timings

The timings that VESA lists for monitors. Several share a size and a refresh rate: those with
reduced blanking are told apart, and of the others the first in the table counts.
-/

set_option autoImplicit false

namespace Edid

/-- A listed timing without an aspect ratio. -/
def Mode.timing (clock : Nat) (horizontal vertical : Axis) (flags : Flags) : Mode where
  clock := clock
  horizontal := horizontal
  vertical := vertical
  flags := flags

namespace Dmt

def modes : List Mode :=
  [.timing 31500 ⟨640, 672, 736, 832⟩ ⟨350, 382, 385, 445⟩ .positiveNegative,
   .timing 31500 ⟨640, 672, 736, 832⟩ ⟨400, 401, 404, 445⟩ .negativePositive,
   .timing 35500 ⟨720, 756, 828, 936⟩ ⟨400, 401, 404, 446⟩ .negativePositive,
   .timing 25175 ⟨640, 656, 752, 800⟩ ⟨480, 490, 492, 525⟩ .negative,
   .timing 31500 ⟨640, 664, 704, 832⟩ ⟨480, 489, 492, 520⟩ .negative,
   .timing 31500 ⟨640, 656, 720, 840⟩ ⟨480, 481, 484, 500⟩ .negative,
   .timing 36000 ⟨640, 696, 752, 832⟩ ⟨480, 481, 484, 509⟩ .negative,
   .timing 36000 ⟨800, 824, 896, 1024⟩ ⟨600, 601, 603, 625⟩ .positive,
   .timing 40000 ⟨800, 840, 968, 1056⟩ ⟨600, 601, 605, 628⟩ .positive,
   .timing 50000 ⟨800, 856, 976, 1040⟩ ⟨600, 637, 643, 666⟩ .positive,
   .timing 49500 ⟨800, 816, 896, 1056⟩ ⟨600, 601, 604, 625⟩ .positive,
   .timing 56250 ⟨800, 832, 896, 1048⟩ ⟨600, 601, 604, 631⟩ .positive,
   .timing 73250 ⟨800, 848, 880, 960⟩ ⟨600, 603, 607, 636⟩ .positiveNegative,
   .timing 33750 ⟨848, 864, 976, 1088⟩ ⟨480, 486, 494, 517⟩ .positive,
   .timing 44900 ⟨1024, 1032, 1208, 1264⟩ ⟨768, 768, 776, 817⟩ .positiveInterlaced,
   .timing 65000 ⟨1024, 1048, 1184, 1344⟩ ⟨768, 771, 777, 806⟩ .negative,
   .timing 75000 ⟨1024, 1048, 1184, 1328⟩ ⟨768, 771, 777, 806⟩ .negative,
   .timing 78750 ⟨1024, 1040, 1136, 1312⟩ ⟨768, 769, 772, 800⟩ .positive,
   .timing 94500 ⟨1024, 1072, 1168, 1376⟩ ⟨768, 769, 772, 808⟩ .positive,
   .timing 115500 ⟨1024, 1072, 1104, 1184⟩ ⟨768, 771, 775, 813⟩ .positiveNegative,
   .timing 108000 ⟨1152, 1216, 1344, 1600⟩ ⟨864, 865, 868, 900⟩ .positive,
   .timing 74250 ⟨1280, 1390, 1430, 1650⟩ ⟨720, 725, 730, 750⟩ .positive,
   .timing 68250 ⟨1280, 1328, 1360, 1440⟩ ⟨768, 771, 778, 790⟩ .positiveNegative,
   .timing 79500 ⟨1280, 1344, 1472, 1664⟩ ⟨768, 771, 778, 798⟩ .negativePositive,
   .timing 102250 ⟨1280, 1360, 1488, 1696⟩ ⟨768, 771, 778, 805⟩ .negativePositive,
   .timing 117500 ⟨1280, 1360, 1496, 1712⟩ ⟨768, 771, 778, 809⟩ .negativePositive,
   .timing 140250 ⟨1280, 1328, 1360, 1440⟩ ⟨768, 771, 778, 813⟩ .positiveNegative,
   .timing 71000 ⟨1280, 1328, 1360, 1440⟩ ⟨800, 803, 809, 823⟩ .positiveNegative,
   .timing 83500 ⟨1280, 1352, 1480, 1680⟩ ⟨800, 803, 809, 831⟩ .negativePositive,
   .timing 106500 ⟨1280, 1360, 1488, 1696⟩ ⟨800, 803, 809, 838⟩ .negativePositive,
   .timing 122500 ⟨1280, 1360, 1496, 1712⟩ ⟨800, 803, 809, 843⟩ .negativePositive,
   .timing 146250 ⟨1280, 1328, 1360, 1440⟩ ⟨800, 803, 809, 847⟩ .positiveNegative,
   .timing 108000 ⟨1280, 1376, 1488, 1800⟩ ⟨960, 961, 964, 1000⟩ .positive,
   .timing 148500 ⟨1280, 1344, 1504, 1728⟩ ⟨960, 961, 964, 1011⟩ .positive,
   .timing 175500 ⟨1280, 1328, 1360, 1440⟩ ⟨960, 963, 967, 1017⟩ .positiveNegative,
   .timing 108000 ⟨1280, 1328, 1440, 1688⟩ ⟨1024, 1025, 1028, 1066⟩ .positive,
   .timing 135000 ⟨1280, 1296, 1440, 1688⟩ ⟨1024, 1025, 1028, 1066⟩ .positive,
   .timing 157500 ⟨1280, 1344, 1504, 1728⟩ ⟨1024, 1025, 1028, 1072⟩ .positive,
   .timing 187250 ⟨1280, 1328, 1360, 1440⟩ ⟨1024, 1027, 1034, 1084⟩ .positiveNegative,
   .timing 85500 ⟨1360, 1424, 1536, 1792⟩ ⟨768, 771, 777, 795⟩ .positive,
   .timing 148250 ⟨1360, 1408, 1440, 1520⟩ ⟨768, 771, 776, 813⟩ .positiveNegative,
   .timing 85500 ⟨1366, 1436, 1579, 1792⟩ ⟨768, 771, 774, 798⟩ .positive,
   .timing 72000 ⟨1366, 1380, 1436, 1500⟩ ⟨768, 769, 772, 800⟩ .positive,
   .timing 101000 ⟨1400, 1448, 1480, 1560⟩ ⟨1050, 1053, 1057, 1080⟩ .positiveNegative,
   .timing 121750 ⟨1400, 1488, 1632, 1864⟩ ⟨1050, 1053, 1057, 1089⟩ .negativePositive,
   .timing 156000 ⟨1400, 1504, 1648, 1896⟩ ⟨1050, 1053, 1057, 1099⟩ .negativePositive,
   .timing 179500 ⟨1400, 1504, 1656, 1912⟩ ⟨1050, 1053, 1057, 1105⟩ .negativePositive,
   .timing 208000 ⟨1400, 1448, 1480, 1560⟩ ⟨1050, 1053, 1057, 1112⟩ .positiveNegative,
   .timing 88750 ⟨1440, 1488, 1520, 1600⟩ ⟨900, 903, 909, 926⟩ .positiveNegative,
   .timing 106500 ⟨1440, 1520, 1672, 1904⟩ ⟨900, 903, 909, 934⟩ .negativePositive,
   .timing 136750 ⟨1440, 1536, 1688, 1936⟩ ⟨900, 903, 909, 942⟩ .negativePositive,
   .timing 157000 ⟨1440, 1544, 1696, 1952⟩ ⟨900, 903, 909, 948⟩ .negativePositive,
   .timing 182750 ⟨1440, 1488, 1520, 1600⟩ ⟨900, 903, 909, 953⟩ .positiveNegative,
   .timing 108000 ⟨1600, 1624, 1704, 1800⟩ ⟨900, 901, 904, 1000⟩ .positive,
   .timing 162000 ⟨1600, 1664, 1856, 2160⟩ ⟨1200, 1201, 1204, 1250⟩ .positive,
   .timing 175500 ⟨1600, 1664, 1856, 2160⟩ ⟨1200, 1201, 1204, 1250⟩ .positive,
   .timing 189000 ⟨1600, 1664, 1856, 2160⟩ ⟨1200, 1201, 1204, 1250⟩ .positive,
   .timing 202500 ⟨1600, 1664, 1856, 2160⟩ ⟨1200, 1201, 1204, 1250⟩ .positive,
   .timing 229500 ⟨1600, 1664, 1856, 2160⟩ ⟨1200, 1201, 1204, 1250⟩ .positive,
   .timing 268250 ⟨1600, 1648, 1680, 1760⟩ ⟨1200, 1203, 1207, 1271⟩ .positiveNegative,
   .timing 119000 ⟨1680, 1728, 1760, 1840⟩ ⟨1050, 1053, 1059, 1080⟩ .positiveNegative,
   .timing 146250 ⟨1680, 1784, 1960, 2240⟩ ⟨1050, 1053, 1059, 1089⟩ .negativePositive,
   .timing 187000 ⟨1680, 1800, 1976, 2272⟩ ⟨1050, 1053, 1059, 1099⟩ .negativePositive,
   .timing 214750 ⟨1680, 1808, 1984, 2288⟩ ⟨1050, 1053, 1059, 1105⟩ .negativePositive,
   .timing 245500 ⟨1680, 1728, 1760, 1840⟩ ⟨1050, 1053, 1059, 1112⟩ .positiveNegative,
   .timing 204750 ⟨1792, 1920, 2120, 2448⟩ ⟨1344, 1345, 1348, 1394⟩ .negativePositive,
   .timing 261000 ⟨1792, 1888, 2104, 2456⟩ ⟨1344, 1345, 1348, 1417⟩ .negativePositive,
   .timing 333250 ⟨1792, 1840, 1872, 1952⟩ ⟨1344, 1347, 1351, 1423⟩ .positiveNegative,
   .timing 218250 ⟨1856, 1952, 2176, 2528⟩ ⟨1392, 1393, 1396, 1439⟩ .negativePositive,
   .timing 288000 ⟨1856, 1984, 2208, 2560⟩ ⟨1392, 1393, 1396, 1500⟩ .negativePositive,
   .timing 356500 ⟨1856, 1904, 1936, 2016⟩ ⟨1392, 1395, 1399, 1474⟩ .positiveNegative,
   .timing 148500 ⟨1920, 2008, 2052, 2200⟩ ⟨1080, 1084, 1089, 1125⟩ .negative,
   .timing 154000 ⟨1920, 1968, 2000, 2080⟩ ⟨1200, 1203, 1209, 1235⟩ .positiveNegative,
   .timing 193250 ⟨1920, 2056, 2256, 2592⟩ ⟨1200, 1203, 1209, 1245⟩ .negativePositive,
   .timing 245250 ⟨1920, 2056, 2264, 2608⟩ ⟨1200, 1203, 1209, 1255⟩ .negativePositive,
   .timing 281250 ⟨1920, 2064, 2272, 2624⟩ ⟨1200, 1203, 1209, 1262⟩ .negativePositive,
   .timing 317000 ⟨1920, 1968, 2000, 2080⟩ ⟨1200, 1203, 1209, 1271⟩ .positiveNegative,
   .timing 234000 ⟨1920, 2048, 2256, 2600⟩ ⟨1440, 1441, 1444, 1500⟩ .negativePositive,
   .timing 297000 ⟨1920, 2064, 2288, 2640⟩ ⟨1440, 1441, 1444, 1500⟩ .negativePositive,
   .timing 380500 ⟨1920, 1968, 2000, 2080⟩ ⟨1440, 1443, 1447, 1525⟩ .positiveNegative,
   .timing 162000 ⟨2048, 2074, 2154, 2250⟩ ⟨1152, 1153, 1156, 1200⟩ .positive,
   .timing 268500 ⟨2560, 2608, 2640, 2720⟩ ⟨1600, 1603, 1609, 1646⟩ .positiveNegative,
   .timing 348500 ⟨2560, 2752, 3032, 3504⟩ ⟨1600, 1603, 1609, 1658⟩ .negativePositive,
   .timing 443250 ⟨2560, 2768, 3048, 3536⟩ ⟨1600, 1603, 1609, 1672⟩ .negativePositive,
   .timing 505250 ⟨2560, 2768, 3048, 3536⟩ ⟨1600, 1603, 1609, 1682⟩ .negativePositive,
   .timing 552750 ⟨2560, 2608, 2640, 2720⟩ ⟨1600, 1603, 1609, 1694⟩ .positiveNegative,
   .timing 556744 ⟨4096, 4104, 4136, 4176⟩ ⟨2160, 2208, 2216, 2222⟩ .positiveNegative,
   .timing 556188 ⟨4096, 4104, 4136, 4176⟩ ⟨2160, 2208, 2216, 2222⟩ .positiveNegative]

/-- The first timing of the given size, refresh rate and kind of blanking. -/
def find? (width height refresh : Nat) (reduced : Bool) : Option Mode :=
  modes.find? fun mode =>
    mode.width == width && mode.height == height && mode.refresh == refresh &&
      mode.isReducedBlanking == reduced

end Dmt

end Edid
