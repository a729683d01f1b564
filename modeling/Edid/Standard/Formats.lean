import Edid.Byte
import Edid.Mode

/-!
# Video formats

The formats that CTA-861 numbers with video identification codes, and the four that HDMI numbers
apart. Both tables are in ascending order of the code. Where two clocks belong to one format,
the table holds one of them, and where a format allows several vertical porches, the shortest.
-/

set_option autoImplicit false

namespace Edid

/-- A video identification code. Not every byte is one. -/
abbrev Vic := Byte

/-- A listed format with its aspect ratio. -/
def Mode.format (clock : Nat) (horizontal vertical : Axis) (flags : Flags) (aspect : Aspect) :
    Mode where
  clock := clock
  horizontal := horizontal
  vertical := vertical
  flags := flags
  aspect := some aspect

/-- The formats of CTA-861: codes 1 to 127 and 193 to 219. -/
def ctaFormats : List (Vic × Mode) :=
  [(1, .format 25175 ⟨640, 656, 752, 800⟩ ⟨480, 490, 492, 525⟩ .negative .r4x3),
   (2, .format 27000 ⟨720, 736, 798, 858⟩ ⟨480, 489, 495, 525⟩ .negative .r4x3),
   (3, .format 27000 ⟨720, 736, 798, 858⟩ ⟨480, 489, 495, 525⟩ .negative .r16x9),
   (4, .format 74250 ⟨1280, 1390, 1430, 1650⟩ ⟨720, 725, 730, 750⟩ .positive .r16x9),
   (5, .format 74250 ⟨1920, 2008, 2052, 2200⟩ ⟨1080, 1084, 1094, 1125⟩
      .positiveInterlaced .r16x9),
   (6, .format 13500 ⟨720, 739, 801, 858⟩ ⟨480, 488, 494, 525⟩ .negativeInterlacedDoubled .r4x3),
   (7, .format 13500 ⟨720, 739, 801, 858⟩ ⟨480, 488, 494, 525⟩ .negativeInterlacedDoubled .r16x9),
   (8, .format 13500 ⟨720, 739, 801, 858⟩ ⟨240, 244, 247, 262⟩ .negativeDoubled .r4x3),
   (9, .format 13500 ⟨720, 739, 801, 858⟩ ⟨240, 244, 247, 262⟩ .negativeDoubled .r16x9),
   (10, .format 54000 ⟨2880, 2956, 3204, 3432⟩ ⟨480, 488, 494, 525⟩ .negativeInterlaced .r4x3),
   (11, .format 54000 ⟨2880, 2956, 3204, 3432⟩ ⟨480, 488, 494, 525⟩ .negativeInterlaced .r16x9),
   (12, .format 54000 ⟨2880, 2956, 3204, 3432⟩ ⟨240, 244, 247, 262⟩ .negative .r4x3),
   (13, .format 54000 ⟨2880, 2956, 3204, 3432⟩ ⟨240, 244, 247, 262⟩ .negative .r16x9),
   (14, .format 54000 ⟨1440, 1472, 1596, 1716⟩ ⟨480, 489, 495, 525⟩ .negative .r4x3),
   (15, .format 54000 ⟨1440, 1472, 1596, 1716⟩ ⟨480, 489, 495, 525⟩ .negative .r16x9),
   (16, .format 148500 ⟨1920, 2008, 2052, 2200⟩ ⟨1080, 1084, 1089, 1125⟩ .positive .r16x9),
   (17, .format 27000 ⟨720, 732, 796, 864⟩ ⟨576, 581, 586, 625⟩ .negative .r4x3),
   (18, .format 27000 ⟨720, 732, 796, 864⟩ ⟨576, 581, 586, 625⟩ .negative .r16x9),
   (19, .format 74250 ⟨1280, 1720, 1760, 1980⟩ ⟨720, 725, 730, 750⟩ .positive .r16x9),
   (20, .format 74250 ⟨1920, 2448, 2492, 2640⟩ ⟨1080, 1084, 1094, 1125⟩
      .positiveInterlaced .r16x9),
   (21, .format 13500 ⟨720, 732, 795, 864⟩ ⟨576, 580, 586, 625⟩ .negativeInterlacedDoubled .r4x3),
   (22, .format 13500 ⟨720, 732, 795, 864⟩ ⟨576, 580, 586, 625⟩
      .negativeInterlacedDoubled .r16x9),
   (23, .format 13500 ⟨720, 732, 795, 864⟩ ⟨288, 290, 293, 312⟩ .negativeDoubled .r4x3),
   (24, .format 13500 ⟨720, 732, 795, 864⟩ ⟨288, 290, 293, 312⟩ .negativeDoubled .r16x9),
   (25, .format 54000 ⟨2880, 2928, 3180, 3456⟩ ⟨576, 580, 586, 625⟩ .negativeInterlaced .r4x3),
   (26, .format 54000 ⟨2880, 2928, 3180, 3456⟩ ⟨576, 580, 586, 625⟩ .negativeInterlaced .r16x9),
   (27, .format 54000 ⟨2880, 2928, 3180, 3456⟩ ⟨288, 290, 293, 312⟩ .negative .r4x3),
   (28, .format 54000 ⟨2880, 2928, 3180, 3456⟩ ⟨288, 290, 293, 312⟩ .negative .r16x9),
   (29, .format 54000 ⟨1440, 1464, 1592, 1728⟩ ⟨576, 581, 586, 625⟩ .negative .r4x3),
   (30, .format 54000 ⟨1440, 1464, 1592, 1728⟩ ⟨576, 581, 586, 625⟩ .negative .r16x9),
   (31, .format 148500 ⟨1920, 2448, 2492, 2640⟩ ⟨1080, 1084, 1089, 1125⟩ .positive .r16x9),
   (32, .format 74250 ⟨1920, 2558, 2602, 2750⟩ ⟨1080, 1084, 1089, 1125⟩ .positive .r16x9),
   (33, .format 74250 ⟨1920, 2448, 2492, 2640⟩ ⟨1080, 1084, 1089, 1125⟩ .positive .r16x9),
   (34, .format 74250 ⟨1920, 2008, 2052, 2200⟩ ⟨1080, 1084, 1089, 1125⟩ .positive .r16x9),
   (35, .format 108000 ⟨2880, 2944, 3192, 3432⟩ ⟨480, 489, 495, 525⟩ .negative .r4x3),
   (36, .format 108000 ⟨2880, 2944, 3192, 3432⟩ ⟨480, 489, 495, 525⟩ .negative .r16x9),
   (37, .format 108000 ⟨2880, 2928, 3184, 3456⟩ ⟨576, 581, 586, 625⟩ .negative .r4x3),
   (38, .format 108000 ⟨2880, 2928, 3184, 3456⟩ ⟨576, 581, 586, 625⟩ .negative .r16x9),
   (39, .format 72000 ⟨1920, 1952, 2120, 2304⟩ ⟨1080, 1126, 1136, 1250⟩
      .positiveNegativeInterlaced .r16x9),
   (40, .format 148500 ⟨1920, 2448, 2492, 2640⟩ ⟨1080, 1084, 1094, 1125⟩
      .positiveInterlaced .r16x9),
   (41, .format 148500 ⟨1280, 1720, 1760, 1980⟩ ⟨720, 725, 730, 750⟩ .positive .r16x9),
   (42, .format 54000 ⟨720, 732, 796, 864⟩ ⟨576, 581, 586, 625⟩ .negative .r4x3),
   (43, .format 54000 ⟨720, 732, 796, 864⟩ ⟨576, 581, 586, 625⟩ .negative .r16x9),
   (44, .format 27000 ⟨720, 732, 795, 864⟩ ⟨576, 580, 586, 625⟩ .negativeInterlacedDoubled .r4x3),
   (45, .format 27000 ⟨720, 732, 795, 864⟩ ⟨576, 580, 586, 625⟩
      .negativeInterlacedDoubled .r16x9),
   (46, .format 148500 ⟨1920, 2008, 2052, 2200⟩ ⟨1080, 1084, 1094, 1125⟩
      .positiveInterlaced .r16x9),
   (47, .format 148500 ⟨1280, 1390, 1430, 1650⟩ ⟨720, 725, 730, 750⟩ .positive .r16x9),
   (48, .format 54000 ⟨720, 736, 798, 858⟩ ⟨480, 489, 495, 525⟩ .negative .r4x3),
   (49, .format 54000 ⟨720, 736, 798, 858⟩ ⟨480, 489, 495, 525⟩ .negative .r16x9),
   (50, .format 27000 ⟨720, 739, 801, 858⟩ ⟨480, 488, 494, 525⟩ .negativeInterlacedDoubled .r4x3),
   (51, .format 27000 ⟨720, 739, 801, 858⟩ ⟨480, 488, 494, 525⟩
      .negativeInterlacedDoubled .r16x9),
   (52, .format 108000 ⟨720, 732, 796, 864⟩ ⟨576, 581, 586, 625⟩ .negative .r4x3),
   (53, .format 108000 ⟨720, 732, 796, 864⟩ ⟨576, 581, 586, 625⟩ .negative .r16x9),
   (54, .format 54000 ⟨720, 732, 795, 864⟩ ⟨576, 580, 586, 625⟩ .negativeInterlacedDoubled .r4x3),
   (55, .format 54000 ⟨720, 732, 795, 864⟩ ⟨576, 580, 586, 625⟩
      .negativeInterlacedDoubled .r16x9),
   (56, .format 108000 ⟨720, 736, 798, 858⟩ ⟨480, 489, 495, 525⟩ .negative .r4x3),
   (57, .format 108000 ⟨720, 736, 798, 858⟩ ⟨480, 489, 495, 525⟩ .negative .r16x9),
   (58, .format 54000 ⟨720, 739, 801, 858⟩ ⟨480, 488, 494, 525⟩ .negativeInterlacedDoubled .r4x3),
   (59, .format 54000 ⟨720, 739, 801, 858⟩ ⟨480, 488, 494, 525⟩
      .negativeInterlacedDoubled .r16x9),
   (60, .format 59400 ⟨1280, 3040, 3080, 3300⟩ ⟨720, 725, 730, 750⟩ .positive .r16x9),
   (61, .format 74250 ⟨1280, 3700, 3740, 3960⟩ ⟨720, 725, 730, 750⟩ .positive .r16x9),
   (62, .format 74250 ⟨1280, 3040, 3080, 3300⟩ ⟨720, 725, 730, 750⟩ .positive .r16x9),
   (63, .format 297000 ⟨1920, 2008, 2052, 2200⟩ ⟨1080, 1084, 1089, 1125⟩ .positive .r16x9),
   (64, .format 297000 ⟨1920, 2448, 2492, 2640⟩ ⟨1080, 1084, 1089, 1125⟩ .positive .r16x9),
   (65, .format 59400 ⟨1280, 3040, 3080, 3300⟩ ⟨720, 725, 730, 750⟩ .positive .r64x27),
   (66, .format 74250 ⟨1280, 3700, 3740, 3960⟩ ⟨720, 725, 730, 750⟩ .positive .r64x27),
   (67, .format 74250 ⟨1280, 3040, 3080, 3300⟩ ⟨720, 725, 730, 750⟩ .positive .r64x27),
   (68, .format 74250 ⟨1280, 1720, 1760, 1980⟩ ⟨720, 725, 730, 750⟩ .positive .r64x27),
   (69, .format 74250 ⟨1280, 1390, 1430, 1650⟩ ⟨720, 725, 730, 750⟩ .positive .r64x27),
   (70, .format 148500 ⟨1280, 1720, 1760, 1980⟩ ⟨720, 725, 730, 750⟩ .positive .r64x27),
   (71, .format 148500 ⟨1280, 1390, 1430, 1650⟩ ⟨720, 725, 730, 750⟩ .positive .r64x27),
   (72, .format 74250 ⟨1920, 2558, 2602, 2750⟩ ⟨1080, 1084, 1089, 1125⟩ .positive .r64x27),
   (73, .format 74250 ⟨1920, 2448, 2492, 2640⟩ ⟨1080, 1084, 1089, 1125⟩ .positive .r64x27),
   (74, .format 74250 ⟨1920, 2008, 2052, 2200⟩ ⟨1080, 1084, 1089, 1125⟩ .positive .r64x27),
   (75, .format 148500 ⟨1920, 2448, 2492, 2640⟩ ⟨1080, 1084, 1089, 1125⟩ .positive .r64x27),
   (76, .format 148500 ⟨1920, 2008, 2052, 2200⟩ ⟨1080, 1084, 1089, 1125⟩ .positive .r64x27),
   (77, .format 297000 ⟨1920, 2448, 2492, 2640⟩ ⟨1080, 1084, 1089, 1125⟩ .positive .r64x27),
   (78, .format 297000 ⟨1920, 2008, 2052, 2200⟩ ⟨1080, 1084, 1089, 1125⟩ .positive .r64x27),
   (79, .format 59400 ⟨1680, 3040, 3080, 3300⟩ ⟨720, 725, 730, 750⟩ .positive .r64x27),
   (80, .format 59400 ⟨1680, 2908, 2948, 3168⟩ ⟨720, 725, 730, 750⟩ .positive .r64x27),
   (81, .format 59400 ⟨1680, 2380, 2420, 2640⟩ ⟨720, 725, 730, 750⟩ .positive .r64x27),
   (82, .format 82500 ⟨1680, 1940, 1980, 2200⟩ ⟨720, 725, 730, 750⟩ .positive .r64x27),
   (83, .format 99000 ⟨1680, 1940, 1980, 2200⟩ ⟨720, 725, 730, 750⟩ .positive .r64x27),
   (84, .format 165000 ⟨1680, 1740, 1780, 2000⟩ ⟨720, 725, 730, 825⟩ .positive .r64x27),
   (85, .format 198000 ⟨1680, 1740, 1780, 2000⟩ ⟨720, 725, 730, 825⟩ .positive .r64x27),
   (86, .format 99000 ⟨2560, 3558, 3602, 3750⟩ ⟨1080, 1084, 1089, 1100⟩ .positive .r64x27),
   (87, .format 90000 ⟨2560, 3008, 3052, 3200⟩ ⟨1080, 1084, 1089, 1125⟩ .positive .r64x27),
   (88, .format 118800 ⟨2560, 3328, 3372, 3520⟩ ⟨1080, 1084, 1089, 1125⟩ .positive .r64x27),
   (89, .format 185625 ⟨2560, 3108, 3152, 3300⟩ ⟨1080, 1084, 1089, 1125⟩ .positive .r64x27),
   (90, .format 198000 ⟨2560, 2808, 2852, 3000⟩ ⟨1080, 1084, 1089, 1100⟩ .positive .r64x27),
   (91, .format 371250 ⟨2560, 2778, 2822, 2970⟩ ⟨1080, 1084, 1089, 1250⟩ .positive .r64x27),
   (92, .format 495000 ⟨2560, 3108, 3152, 3300⟩ ⟨1080, 1084, 1089, 1250⟩ .positive .r64x27),
   (93, .format 297000 ⟨3840, 5116, 5204, 5500⟩ ⟨2160, 2168, 2178, 2250⟩ .positive .r16x9),
   (94, .format 297000 ⟨3840, 4896, 4984, 5280⟩ ⟨2160, 2168, 2178, 2250⟩ .positive .r16x9),
   (95, .format 297000 ⟨3840, 4016, 4104, 4400⟩ ⟨2160, 2168, 2178, 2250⟩ .positive .r16x9),
   (96, .format 594000 ⟨3840, 4896, 4984, 5280⟩ ⟨2160, 2168, 2178, 2250⟩ .positive .r16x9),
   (97, .format 594000 ⟨3840, 4016, 4104, 4400⟩ ⟨2160, 2168, 2178, 2250⟩ .positive .r16x9),
   (98, .format 297000 ⟨4096, 5116, 5204, 5500⟩ ⟨2160, 2168, 2178, 2250⟩ .positive .r256x135),
   (99, .format 297000 ⟨4096, 5064, 5152, 5280⟩ ⟨2160, 2168, 2178, 2250⟩ .positive .r256x135),
   (100, .format 297000 ⟨4096, 4184, 4272, 4400⟩ ⟨2160, 2168, 2178, 2250⟩ .positive .r256x135),
   (101, .format 594000 ⟨4096, 5064, 5152, 5280⟩ ⟨2160, 2168, 2178, 2250⟩ .positive .r256x135),
   (102, .format 594000 ⟨4096, 4184, 4272, 4400⟩ ⟨2160, 2168, 2178, 2250⟩ .positive .r256x135),
   (103, .format 297000 ⟨3840, 5116, 5204, 5500⟩ ⟨2160, 2168, 2178, 2250⟩ .positive .r64x27),
   (104, .format 297000 ⟨3840, 4896, 4984, 5280⟩ ⟨2160, 2168, 2178, 2250⟩ .positive .r64x27),
   (105, .format 297000 ⟨3840, 4016, 4104, 4400⟩ ⟨2160, 2168, 2178, 2250⟩ .positive .r64x27),
   (106, .format 594000 ⟨3840, 4896, 4984, 5280⟩ ⟨2160, 2168, 2178, 2250⟩ .positive .r64x27),
   (107, .format 594000 ⟨3840, 4016, 4104, 4400⟩ ⟨2160, 2168, 2178, 2250⟩ .positive .r64x27),
   (108, .format 90000 ⟨1280, 2240, 2280, 2500⟩ ⟨720, 725, 730, 750⟩ .positive .r16x9),
   (109, .format 90000 ⟨1280, 2240, 2280, 2500⟩ ⟨720, 725, 730, 750⟩ .positive .r64x27),
   (110, .format 99000 ⟨1680, 2490, 2530, 2750⟩ ⟨720, 725, 730, 750⟩ .positive .r64x27),
   (111, .format 148500 ⟨1920, 2558, 2602, 2750⟩ ⟨1080, 1084, 1089, 1125⟩ .positive .r16x9),
   (112, .format 148500 ⟨1920, 2558, 2602, 2750⟩ ⟨1080, 1084, 1089, 1125⟩ .positive .r64x27),
   (113, .format 198000 ⟨2560, 3558, 3602, 3750⟩ ⟨1080, 1084, 1089, 1100⟩ .positive .r64x27),
   (114, .format 594000 ⟨3840, 5116, 5204, 5500⟩ ⟨2160, 2168, 2178, 2250⟩ .positive .r16x9),
   (115, .format 594000 ⟨4096, 5116, 5204, 5500⟩ ⟨2160, 2168, 2178, 2250⟩ .positive .r256x135),
   (116, .format 594000 ⟨3840, 5116, 5204, 5500⟩ ⟨2160, 2168, 2178, 2250⟩ .positive .r64x27),
   (117, .format 1188000 ⟨3840, 4896, 4984, 5280⟩ ⟨2160, 2168, 2178, 2250⟩ .positive .r16x9),
   (118, .format 1188000 ⟨3840, 4016, 4104, 4400⟩ ⟨2160, 2168, 2178, 2250⟩ .positive .r16x9),
   (119, .format 1188000 ⟨3840, 4896, 4984, 5280⟩ ⟨2160, 2168, 2178, 2250⟩ .positive .r64x27),
   (120, .format 1188000 ⟨3840, 4016, 4104, 4400⟩ ⟨2160, 2168, 2178, 2250⟩ .positive .r64x27),
   (121, .format 396000 ⟨5120, 7116, 7204, 7500⟩ ⟨2160, 2168, 2178, 2200⟩ .positive .r64x27),
   (122, .format 396000 ⟨5120, 6816, 6904, 7200⟩ ⟨2160, 2168, 2178, 2200⟩ .positive .r64x27),
   (123, .format 396000 ⟨5120, 5784, 5872, 6000⟩ ⟨2160, 2168, 2178, 2200⟩ .positive .r64x27),
   (124, .format 742500 ⟨5120, 5866, 5954, 6250⟩ ⟨2160, 2168, 2178, 2475⟩ .positive .r64x27),
   (125, .format 742500 ⟨5120, 6216, 6304, 6600⟩ ⟨2160, 2168, 2178, 2250⟩ .positive .r64x27),
   (126, .format 742500 ⟨5120, 5284, 5372, 5500⟩ ⟨2160, 2168, 2178, 2250⟩ .positive .r64x27),
   (127, .format 1485000 ⟨5120, 6216, 6304, 6600⟩ ⟨2160, 2168, 2178, 2250⟩ .positive .r64x27),
   (193, .format 1485000 ⟨5120, 5284, 5372, 5500⟩ ⟨2160, 2168, 2178, 2250⟩ .positive .r64x27),
   (194, .format 1188000 ⟨7680, 10232, 10408, 11000⟩ ⟨4320, 4336, 4356, 4500⟩ .positive .r16x9),
   (195, .format 1188000 ⟨7680, 10032, 10208, 10800⟩ ⟨4320, 4336, 4356, 4400⟩ .positive .r16x9),
   (196, .format 1188000 ⟨7680, 8232, 8408, 9000⟩ ⟨4320, 4336, 4356, 4400⟩ .positive .r16x9),
   (197, .format 2376000 ⟨7680, 10232, 10408, 11000⟩ ⟨4320, 4336, 4356, 4500⟩ .positive .r16x9),
   (198, .format 2376000 ⟨7680, 10032, 10208, 10800⟩ ⟨4320, 4336, 4356, 4400⟩ .positive .r16x9),
   (199, .format 2376000 ⟨7680, 8232, 8408, 9000⟩ ⟨4320, 4336, 4356, 4400⟩ .positive .r16x9),
   (200, .format 4752000 ⟨7680, 9792, 9968, 10560⟩ ⟨4320, 4336, 4356, 4500⟩ .positive .r16x9),
   (201, .format 4752000 ⟨7680, 8032, 8208, 8800⟩ ⟨4320, 4336, 4356, 4500⟩ .positive .r16x9),
   (202, .format 1188000 ⟨7680, 10232, 10408, 11000⟩ ⟨4320, 4336, 4356, 4500⟩ .positive .r64x27),
   (203, .format 1188000 ⟨7680, 10032, 10208, 10800⟩ ⟨4320, 4336, 4356, 4400⟩ .positive .r64x27),
   (204, .format 1188000 ⟨7680, 8232, 8408, 9000⟩ ⟨4320, 4336, 4356, 4400⟩ .positive .r64x27),
   (205, .format 2376000 ⟨7680, 10232, 10408, 11000⟩ ⟨4320, 4336, 4356, 4500⟩ .positive .r64x27),
   (206, .format 2376000 ⟨7680, 10032, 10208, 10800⟩ ⟨4320, 4336, 4356, 4400⟩ .positive .r64x27),
   (207, .format 2376000 ⟨7680, 8232, 8408, 9000⟩ ⟨4320, 4336, 4356, 4400⟩ .positive .r64x27),
   (208, .format 4752000 ⟨7680, 9792, 9968, 10560⟩ ⟨4320, 4336, 4356, 4500⟩ .positive .r64x27),
   (209, .format 4752000 ⟨7680, 8032, 8208, 8800⟩ ⟨4320, 4336, 4356, 4500⟩ .positive .r64x27),
   (210, .format 1485000 ⟨10240, 11732, 11908, 12500⟩ ⟨4320, 4336, 4356, 4950⟩ .positive .r64x27),
   (211, .format 1485000 ⟨10240, 12732, 12908, 13500⟩ ⟨4320, 4336, 4356, 4400⟩ .positive .r64x27),
   (212, .format 1485000 ⟨10240, 10528, 10704, 11000⟩ ⟨4320, 4336, 4356, 4500⟩ .positive .r64x27),
   (213, .format 2970000 ⟨10240, 11732, 11908, 12500⟩ ⟨4320, 4336, 4356, 4950⟩ .positive .r64x27),
   (214, .format 2970000 ⟨10240, 12732, 12908, 13500⟩ ⟨4320, 4336, 4356, 4400⟩ .positive .r64x27),
   (215, .format 2970000 ⟨10240, 10528, 10704, 11000⟩ ⟨4320, 4336, 4356, 4500⟩ .positive .r64x27),
   (216, .format 5940000 ⟨10240, 12432, 12608, 13200⟩ ⟨4320, 4336, 4356, 4500⟩ .positive .r64x27),
   (217, .format 5940000 ⟨10240, 10528, 10704, 11000⟩ ⟨4320, 4336, 4356, 4500⟩ .positive .r64x27),
   (218, .format 1188000 ⟨4096, 4896, 4984, 5280⟩ ⟨2160, 2168, 2178, 2250⟩ .positive .r256x135),
   (219, .format 1188000 ⟨4096, 4184, 4272, 4400⟩ ⟨2160, 2168, 2178, 2250⟩ .positive .r256x135)]

/-- The formats that HDMI numbers apart: codes 1 to 4. -/
def hdmiFormats : List (Vic × Mode) :=
  [(1, .format 297000 ⟨3840, 4016, 4104, 4400⟩ ⟨2160, 2168, 2178, 2250⟩ .positive .r16x9),
   (2, .format 297000 ⟨3840, 4896, 4984, 5280⟩ ⟨2160, 2168, 2178, 2250⟩ .positive .r16x9),
   (3, .format 297000 ⟨3840, 5116, 5204, 5500⟩ ⟨2160, 2168, 2178, 2250⟩ .positive .r16x9),
   (4, .format 297000 ⟨4096, 5116, 5204, 5500⟩ ⟨2160, 2168, 2178, 2250⟩ .positive .r256x135)]

def ctaFormat? (code : Vic) : Option Mode :=
  ctaFormats.lookup code

def hdmiFormat? (code : Vic) : Option Mode :=
  hdmiFormats.lookup code

/-- The code that a short video descriptor stands for. The lower half of the codes has a second
spelling, with the top bit set for the native format of the display. -/
def shortDescriptorCode (descriptor : Byte) : Vic :=
  if 129 ≤ descriptor.toNat ∧ descriptor.toNat ≤ 192 then descriptor - 128 else descriptor

/-- The format that a short video descriptor stands for. -/
def shortDescriptorFormat? (descriptor : Byte) : Option Mode :=
  ctaFormat? (shortDescriptorCode descriptor)

end Edid
