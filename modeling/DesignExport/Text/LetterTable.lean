set_option autoImplicit false

/-! Letter case outside ASCII, and what stands between letters without parting
them, as runs of code points. A run with a step goes from its first to its last
code point in steps of one or two. -/

namespace DesignExport.Text

structure CaseRun where
  first : Nat
  last : Nat
  step : Nat
  /-- What is added to reach the lower-case letter. -/
  shift : Int

def CaseRun.holds (run : CaseRun) (code : Nat) : Bool :=
  run.first ≤ code && code ≤ run.last && (code - run.first) % run.step = 0

/-- Letters with a single lower-case letter other than themselves. -/
def loweredRuns : List CaseRun :=
  [
    ⟨192, 214, 1, 32⟩, ⟨216, 222, 1, 32⟩, ⟨256, 302, 2, 1⟩, ⟨306, 310, 2, 1⟩, ⟨313, 327, 2, 1⟩,
    ⟨330, 374, 2, 1⟩, ⟨376, 376, 1, -121⟩, ⟨377, 381, 2, 1⟩, ⟨385, 385, 1, 210⟩,
    ⟨386, 388, 2, 1⟩, ⟨390, 390, 1, 206⟩, ⟨391, 391, 1, 1⟩, ⟨393, 394, 1, 205⟩,
    ⟨395, 395, 1, 1⟩, ⟨398, 398, 1, 79⟩, ⟨399, 399, 1, 202⟩, ⟨400, 400, 1, 203⟩,
    ⟨401, 401, 1, 1⟩, ⟨403, 403, 1, 205⟩, ⟨404, 404, 1, 207⟩, ⟨406, 406, 1, 211⟩,
    ⟨407, 407, 1, 209⟩, ⟨408, 408, 1, 1⟩, ⟨412, 412, 1, 211⟩, ⟨413, 413, 1, 213⟩,
    ⟨415, 415, 1, 214⟩, ⟨416, 420, 2, 1⟩, ⟨422, 422, 1, 218⟩, ⟨423, 423, 1, 1⟩,
    ⟨425, 425, 1, 218⟩, ⟨428, 428, 1, 1⟩, ⟨430, 430, 1, 218⟩, ⟨431, 431, 1, 1⟩,
    ⟨433, 434, 1, 217⟩, ⟨435, 437, 2, 1⟩, ⟨439, 439, 1, 219⟩, ⟨440, 440, 1, 1⟩,
    ⟨444, 444, 1, 1⟩, ⟨452, 452, 1, 2⟩, ⟨453, 453, 1, 1⟩, ⟨455, 455, 1, 2⟩, ⟨456, 456, 1, 1⟩,
    ⟨458, 458, 1, 2⟩, ⟨459, 475, 2, 1⟩, ⟨478, 494, 2, 1⟩, ⟨497, 497, 1, 2⟩, ⟨498, 500, 2, 1⟩,
    ⟨502, 502, 1, -97⟩, ⟨503, 503, 1, -56⟩, ⟨504, 542, 2, 1⟩, ⟨544, 544, 1, -130⟩,
    ⟨546, 562, 2, 1⟩, ⟨570, 570, 1, 10795⟩, ⟨571, 571, 1, 1⟩, ⟨573, 573, 1, -163⟩,
    ⟨574, 574, 1, 10792⟩, ⟨577, 577, 1, 1⟩, ⟨579, 579, 1, -195⟩, ⟨580, 580, 1, 69⟩,
    ⟨581, 581, 1, 71⟩, ⟨582, 590, 2, 1⟩, ⟨880, 882, 2, 1⟩, ⟨886, 886, 1, 1⟩,
    ⟨895, 895, 1, 116⟩, ⟨902, 902, 1, 38⟩, ⟨904, 906, 1, 37⟩, ⟨908, 908, 1, 64⟩,
    ⟨910, 911, 1, 63⟩, ⟨913, 929, 1, 32⟩, ⟨931, 939, 1, 32⟩, ⟨975, 975, 1, 8⟩,
    ⟨984, 1006, 2, 1⟩, ⟨1012, 1012, 1, -60⟩, ⟨1015, 1015, 1, 1⟩, ⟨1017, 1017, 1, -7⟩,
    ⟨1018, 1018, 1, 1⟩, ⟨1021, 1023, 1, -130⟩, ⟨1024, 1039, 1, 80⟩, ⟨1040, 1071, 1, 32⟩,
    ⟨1120, 1152, 2, 1⟩, ⟨1162, 1214, 2, 1⟩, ⟨1216, 1216, 1, 15⟩, ⟨1217, 1229, 2, 1⟩,
    ⟨1232, 1326, 2, 1⟩, ⟨1329, 1366, 1, 48⟩, ⟨4256, 4293, 1, 7264⟩, ⟨4295, 4295, 1, 7264⟩,
    ⟨4301, 4301, 1, 7264⟩, ⟨5024, 5103, 1, 38864⟩, ⟨5104, 5109, 1, 8⟩, ⟨7305, 7305, 1, 1⟩,
    ⟨7312, 7354, 1, -3008⟩, ⟨7357, 7359, 1, -3008⟩, ⟨7680, 7828, 2, 1⟩, ⟨7838, 7838, 1, -7615⟩,
    ⟨7840, 7934, 2, 1⟩, ⟨7944, 7951, 1, -8⟩, ⟨7960, 7965, 1, -8⟩, ⟨7976, 7983, 1, -8⟩,
    ⟨7992, 7999, 1, -8⟩, ⟨8008, 8013, 1, -8⟩, ⟨8025, 8031, 2, -8⟩, ⟨8040, 8047, 1, -8⟩,
    ⟨8072, 8079, 1, -8⟩, ⟨8088, 8095, 1, -8⟩, ⟨8104, 8111, 1, -8⟩, ⟨8120, 8121, 1, -8⟩,
    ⟨8122, 8123, 1, -74⟩, ⟨8124, 8124, 1, -9⟩, ⟨8136, 8139, 1, -86⟩, ⟨8140, 8140, 1, -9⟩,
    ⟨8152, 8153, 1, -8⟩, ⟨8154, 8155, 1, -100⟩, ⟨8168, 8169, 1, -8⟩, ⟨8170, 8171, 1, -112⟩,
    ⟨8172, 8172, 1, -7⟩, ⟨8184, 8185, 1, -128⟩, ⟨8186, 8187, 1, -126⟩, ⟨8188, 8188, 1, -9⟩,
    ⟨8486, 8486, 1, -7517⟩, ⟨8490, 8490, 1, -8383⟩, ⟨8491, 8491, 1, -8262⟩,
    ⟨8498, 8498, 1, 28⟩, ⟨8544, 8559, 1, 16⟩, ⟨8579, 8579, 1, 1⟩, ⟨9398, 9423, 1, 26⟩,
    ⟨11264, 11311, 1, 48⟩, ⟨11360, 11360, 1, 1⟩, ⟨11362, 11362, 1, -10743⟩,
    ⟨11363, 11363, 1, -3814⟩, ⟨11364, 11364, 1, -10727⟩, ⟨11367, 11371, 2, 1⟩,
    ⟨11373, 11373, 1, -10780⟩, ⟨11374, 11374, 1, -10749⟩, ⟨11375, 11375, 1, -10783⟩,
    ⟨11376, 11376, 1, -10782⟩, ⟨11378, 11378, 1, 1⟩, ⟨11381, 11381, 1, 1⟩,
    ⟨11390, 11391, 1, -10815⟩, ⟨11392, 11490, 2, 1⟩, ⟨11499, 11501, 2, 1⟩,
    ⟨11506, 11506, 1, 1⟩, ⟨42560, 42604, 2, 1⟩, ⟨42624, 42650, 2, 1⟩, ⟨42786, 42798, 2, 1⟩,
    ⟨42802, 42862, 2, 1⟩, ⟨42873, 42875, 2, 1⟩, ⟨42877, 42877, 1, -35332⟩,
    ⟨42878, 42886, 2, 1⟩, ⟨42891, 42891, 1, 1⟩, ⟨42893, 42893, 1, -42280⟩,
    ⟨42896, 42898, 2, 1⟩, ⟨42902, 42920, 2, 1⟩, ⟨42922, 42922, 1, -42308⟩,
    ⟨42923, 42923, 1, -42319⟩, ⟨42924, 42924, 1, -42315⟩, ⟨42925, 42925, 1, -42305⟩,
    ⟨42926, 42926, 1, -42308⟩, ⟨42928, 42928, 1, -42258⟩, ⟨42929, 42929, 1, -42282⟩,
    ⟨42930, 42930, 1, -42261⟩, ⟨42931, 42931, 1, 928⟩, ⟨42932, 42946, 2, 1⟩,
    ⟨42948, 42948, 1, -48⟩, ⟨42949, 42949, 1, -42307⟩, ⟨42950, 42950, 1, -35384⟩,
    ⟨42951, 42953, 2, 1⟩, ⟨42955, 42955, 1, -42343⟩, ⟨42956, 42970, 2, 1⟩,
    ⟨42972, 42972, 1, -42561⟩, ⟨42997, 42997, 1, 1⟩, ⟨65313, 65338, 1, 32⟩,
    ⟨66560, 66599, 1, 40⟩, ⟨66736, 66771, 1, 40⟩, ⟨66928, 66938, 1, 39⟩, ⟨66940, 66954, 1, 39⟩,
    ⟨66956, 66962, 1, 39⟩, ⟨66964, 66965, 1, 39⟩, ⟨68736, 68786, 1, 64⟩, ⟨68944, 68965, 1, 32⟩,
    ⟨71840, 71871, 1, 32⟩, ⟨93760, 93791, 1, 32⟩, ⟨93856, 93880, 1, 27⟩,
    ⟨125184, 125217, 1, 34⟩
  ]

/-- Letters that change when raised to upper case: first, last and step. -/
def raisedRuns : List (Nat × Nat × Nat) :=
  [
    (181, 181, 1), (223, 246, 1), (248, 255, 1), (257, 311, 2), (314, 328, 2), (329, 375, 2),
    (378, 382, 2), (383, 384, 1), (387, 389, 2), (392, 392, 1), (396, 396, 1), (402, 402, 1),
    (405, 405, 1), (409, 411, 1), (414, 414, 1), (417, 421, 2), (424, 424, 1), (429, 429, 1),
    (432, 432, 1), (436, 438, 2), (441, 441, 1), (445, 447, 2), (453, 454, 1), (456, 457, 1),
    (459, 460, 1), (462, 476, 2), (477, 495, 2), (496, 498, 2), (499, 501, 2), (505, 543, 2),
    (547, 563, 2), (572, 572, 1), (575, 576, 1), (578, 578, 1), (583, 591, 2), (592, 596, 1),
    (598, 599, 1), (601, 603, 2), (604, 604, 1), (608, 609, 1), (611, 614, 1), (616, 620, 1),
    (623, 625, 2), (626, 626, 1), (629, 629, 1), (637, 637, 1), (640, 642, 2), (643, 643, 1),
    (647, 652, 1), (658, 658, 1), (669, 670, 1), (837, 837, 1), (881, 883, 2), (887, 887, 1),
    (891, 893, 1), (912, 912, 1), (940, 974, 1), (976, 977, 1), (981, 983, 1), (985, 1007, 2),
    (1008, 1011, 1), (1013, 1013, 1), (1016, 1016, 1), (1019, 1019, 1), (1072, 1119, 1),
    (1121, 1153, 2), (1163, 1215, 2), (1218, 1230, 2), (1231, 1327, 2), (1377, 1415, 1),
    (4304, 4346, 1), (4349, 4351, 1), (5112, 5117, 1), (7296, 7304, 1), (7306, 7306, 1),
    (7545, 7545, 1), (7549, 7549, 1), (7566, 7566, 1), (7681, 7829, 2), (7830, 7835, 1),
    (7841, 7935, 2), (7936, 7943, 1), (7952, 7957, 1), (7968, 7975, 1), (7984, 7991, 1),
    (8000, 8005, 1), (8016, 8023, 1), (8032, 8039, 1), (8048, 8061, 1), (8064, 8116, 1),
    (8118, 8119, 1), (8124, 8126, 2), (8130, 8132, 1), (8134, 8135, 1), (8140, 8140, 1),
    (8144, 8147, 1), (8150, 8151, 1), (8160, 8167, 1), (8178, 8180, 1), (8182, 8183, 1),
    (8188, 8188, 1), (8526, 8526, 1), (8560, 8575, 1), (8580, 8580, 1), (9424, 9449, 1),
    (11312, 11359, 1), (11361, 11361, 1), (11365, 11366, 1), (11368, 11372, 2),
    (11379, 11379, 1), (11382, 11382, 1), (11393, 11491, 2), (11500, 11502, 2),
    (11507, 11507, 1), (11520, 11557, 1), (11559, 11559, 1), (11565, 11565, 1),
    (42561, 42605, 2), (42625, 42651, 2), (42787, 42799, 2), (42803, 42863, 2),
    (42874, 42876, 2), (42879, 42887, 2), (42892, 42892, 1), (42897, 42899, 2),
    (42900, 42900, 1), (42903, 42921, 2), (42933, 42947, 2), (42952, 42954, 2),
    (42957, 42971, 2), (42998, 42998, 1), (43859, 43859, 1), (43888, 43967, 1),
    (64256, 64262, 1), (64275, 64279, 1), (65345, 65370, 1), (66600, 66639, 1),
    (66776, 66811, 1), (66967, 66977, 1), (66979, 66993, 1), (66995, 67001, 1),
    (67003, 67004, 1), (68800, 68850, 1), (68976, 68997, 1), (71872, 71903, 1),
    (93792, 93823, 1), (93883, 93907, 1), (125218, 125251, 1)
  ]

/-- Letters that have a case but no partner in the other one. -/
def unpairedRuns : List (Nat × Nat) :=
  [
    (170, 170), (186, 186), (312, 312), (397, 397), (426, 427), (442, 442), (446, 446),
    (545, 545), (564, 569), (597, 597), (600, 600), (602, 602), (605, 607), (610, 610),
    (615, 615), (621, 622), (624, 624), (627, 628), (630, 636), (638, 639), (641, 641),
    (644, 646), (653, 657), (659, 659), (661, 668), (671, 696), (704, 705), (736, 740),
    (890, 890), (978, 980), (1020, 1020), (1376, 1376), (1416, 1416), (4348, 4348),
    (7424, 7544), (7546, 7548), (7550, 7565), (7567, 7615), (7836, 7837), (7839, 7839),
    (8305, 8305), (8319, 8319), (8336, 8348), (8450, 8450), (8455, 8455), (8458, 8467),
    (8469, 8469), (8473, 8477), (8484, 8484), (8488, 8488), (8492, 8493), (8495, 8497),
    (8499, 8500), (8505, 8505), (8508, 8511), (8517, 8521), (11377, 11377), (11380, 11380),
    (11383, 11389), (11492, 11492), (42652, 42653), (42800, 42801), (42864, 42872),
    (42894, 42894), (42901, 42901), (42927, 42927), (42993, 42996), (43000, 43002),
    (43824, 43858), (43860, 43866), (43868, 43881), (67456, 67456), (67459, 67461),
    (67463, 67504), (67506, 67514), (119808, 119892), (119894, 119964), (119966, 119967),
    (119970, 119970), (119973, 119974), (119977, 119980), (119982, 119993), (119995, 119995),
    (119997, 120003), (120005, 120069), (120071, 120074), (120077, 120084), (120086, 120092),
    (120094, 120121), (120123, 120126), (120128, 120132), (120134, 120134), (120138, 120144),
    (120146, 120485), (120488, 120512), (120514, 120538), (120540, 120570), (120572, 120596),
    (120598, 120628), (120630, 120654), (120656, 120686), (120688, 120712), (120714, 120744),
    (120746, 120770), (120772, 120779), (122624, 122633), (122635, 122654), (122661, 122666),
    (122928, 122989), (127280, 127305), (127312, 127337), (127344, 127369)
  ]

/-- What is passed over in search of a neighbouring letter, marks apart. -/
def ignorableRuns : List (Nat × Nat) :=
  [
    (39, 39), (46, 46), (58, 58), (94, 94), (96, 96), (168, 168), (173, 173), (175, 175),
    (180, 180), (183, 184), (688, 767), (884, 885), (890, 890), (900, 901), (903, 903),
    (1369, 1369), (1375, 1375), (1524, 1524), (1536, 1541), (1564, 1564), (1600, 1600),
    (1757, 1757), (1765, 1766), (1807, 1807), (2036, 2037), (2042, 2042), (2074, 2074),
    (2084, 2084), (2088, 2088), (2184, 2184), (2192, 2193), (2249, 2249), (2274, 2274),
    (2417, 2417), (3654, 3654), (3782, 3782), (4348, 4348), (6103, 6103), (6158, 6158),
    (6211, 6211), (6823, 6823), (7288, 7293), (7468, 7530), (7544, 7544), (7579, 7615),
    (8125, 8125), (8127, 8129), (8141, 8143), (8157, 8159), (8173, 8175), (8189, 8190),
    (8203, 8203), (8206, 8207), (8216, 8217), (8228, 8228), (8231, 8231), (8234, 8238),
    (8288, 8292), (8294, 8303), (8305, 8305), (8319, 8319), (8336, 8348), (11388, 11389),
    (11631, 11631), (11823, 11823), (12293, 12293), (12337, 12341), (12347, 12347),
    (12443, 12446), (12540, 12542), (40981, 40981), (42232, 42237), (42508, 42508),
    (42623, 42623), (42652, 42653), (42752, 42785), (42864, 42864), (42888, 42890),
    (42993, 42996), (43000, 43001), (43471, 43471), (43494, 43494), (43632, 43632),
    (43741, 43741), (43763, 43764), (43867, 43871), (43881, 43883), (64434, 64450),
    (65043, 65043), (65106, 65106), (65109, 65109), (65279, 65279), (65287, 65287),
    (65294, 65294), (65306, 65306), (65342, 65342), (65344, 65344), (65392, 65392),
    (65507, 65507), (65529, 65531), (67456, 67461), (67463, 67504), (67506, 67514),
    (68942, 68942), (68975, 68975), (69317, 69317), (69821, 69821), (69837, 69837),
    (73177, 73177), (78896, 78911), (92992, 92995), (93504, 93506), (93547, 93548),
    (94099, 94111), (94176, 94177), (94179, 94179), (94194, 94195), (110576, 110579),
    (110581, 110587), (110589, 110590), (113824, 113827), (119155, 119162), (122928, 122989),
    (123191, 123197), (124139, 124139), (124671, 124671), (125259, 125259), (917505, 917505)
  ]

end DesignExport.Text
