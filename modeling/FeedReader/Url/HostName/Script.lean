import FeedReader.Text.Ranges

/-!
# Scripts

* `Joining`, `joiningRuns`, `joiningOf?`: the sides on which letters join their neighbours;
* `greek`, `hebrew`, `japanese`: the characters of some scripts.
-/

namespace FeedReader.Url.HostName

/-- The sides on which a letter joins its neighbours; a transparent one does not come between. -/
inductive Joining
  | transparent
  | left
  | right
  | both
  deriving DecidableEq

set_option maxRecDepth 8000 in
/-- The characters that join others, or that do not come between them. -/
def joiningRuns : List (Nat × Nat × Joining) :=
  [(173, 173, .transparent), (768, 879, .transparent), (1155, 1161, .transparent),
   (1425, 1479, .transparent), (1552, 1564, .transparent), (1568, 1568, .both),
   (1570, 1573, .right), (1574, 1574, .both), (1575, 1575, .right), (1576, 1576, .both),
   (1577, 1577, .right), (1578, 1582, .both), (1583, 1586, .right), (1587, 1599, .both),
   (1601, 1607, .both), (1608, 1608, .right), (1609, 1610, .both), (1611, 1631, .transparent),
   (1646, 1647, .both), (1648, 1648, .transparent), (1649, 1651, .right), (1653, 1655, .right),
   (1656, 1671, .both), (1672, 1689, .right), (1690, 1727, .both), (1728, 1728, .right),
   (1729, 1730, .both), (1731, 1739, .right), (1740, 1740, .both), (1741, 1741, .right),
   (1742, 1742, .both), (1743, 1743, .right), (1744, 1745, .both), (1746, 1749, .right),
   (1750, 1764, .transparent), (1767, 1773, .transparent), (1774, 1775, .right),
   (1786, 1788, .both), (1791, 1791, .both), (1807, 1807, .transparent), (1808, 1808, .right),
   (1809, 1809, .transparent), (1810, 1812, .both), (1813, 1817, .right), (1818, 1821, .both),
   (1822, 1822, .right), (1823, 1831, .both), (1832, 1832, .right), (1833, 1833, .both),
   (1834, 1834, .right), (1835, 1835, .both), (1836, 1836, .right), (1837, 1838, .both),
   (1839, 1839, .right), (1840, 1866, .transparent), (1869, 1869, .right), (1870, 1880, .both),
   (1881, 1883, .right), (1884, 1898, .both), (1899, 1900, .right), (1901, 1904, .both),
   (1905, 1905, .right), (1906, 1906, .both), (1907, 1908, .right), (1909, 1911, .both),
   (1912, 1913, .right), (1914, 1919, .both), (1958, 1968, .transparent), (1994, 2026, .both),
   (2027, 2035, .transparent), (2045, 2045, .transparent), (2070, 2073, .transparent),
   (2075, 2083, .transparent), (2085, 2087, .transparent), (2089, 2093, .transparent),
   (2112, 2112, .right), (2113, 2117, .both), (2118, 2119, .right), (2120, 2120, .both),
   (2121, 2121, .right), (2122, 2131, .both), (2132, 2132, .right), (2133, 2133, .both),
   (2134, 2136, .right), (2137, 2139, .transparent), (2144, 2144, .both), (2146, 2149, .both),
   (2151, 2151, .right), (2152, 2152, .both), (2153, 2178, .right), (2182, 2182, .both),
   (2185, 2189, .both), (2190, 2190, .right), (2200, 2207, .transparent), (2208, 2217, .both),
   (2218, 2220, .right), (2222, 2222, .right), (2223, 2224, .both), (2225, 2226, .right),
   (2227, 2232, .both), (2233, 2233, .right), (2234, 2248, .both), (2250, 2306, .transparent),
   (2362, 2362, .transparent), (2364, 2364, .transparent), (2369, 2376, .transparent),
   (2381, 2381, .transparent), (2385, 2391, .transparent), (2402, 2403, .transparent),
   (2433, 2433, .transparent), (2492, 2492, .transparent), (2497, 2500, .transparent),
   (2509, 2509, .transparent), (2530, 2531, .transparent), (2558, 2562, .transparent),
   (2620, 2620, .transparent), (2625, 2641, .transparent), (2672, 2673, .transparent),
   (2677, 2690, .transparent), (2748, 2748, .transparent), (2753, 2760, .transparent),
   (2765, 2765, .transparent), (2786, 2787, .transparent), (2810, 2817, .transparent),
   (2876, 2876, .transparent), (2879, 2879, .transparent), (2881, 2884, .transparent),
   (2893, 2902, .transparent), (2914, 2915, .transparent), (2946, 2946, .transparent),
   (3008, 3008, .transparent), (3021, 3021, .transparent), (3072, 3072, .transparent),
   (3076, 3076, .transparent), (3132, 3132, .transparent), (3134, 3136, .transparent),
   (3142, 3158, .transparent), (3170, 3171, .transparent), (3201, 3201, .transparent),
   (3260, 3260, .transparent), (3263, 3263, .transparent), (3270, 3270, .transparent),
   (3276, 3277, .transparent), (3298, 3299, .transparent), (3328, 3329, .transparent),
   (3387, 3388, .transparent), (3393, 3396, .transparent), (3405, 3405, .transparent),
   (3426, 3427, .transparent), (3457, 3457, .transparent), (3530, 3530, .transparent),
   (3538, 3542, .transparent), (3633, 3633, .transparent), (3636, 3642, .transparent),
   (3655, 3662, .transparent), (3761, 3761, .transparent), (3764, 3772, .transparent),
   (3784, 3790, .transparent), (3864, 3865, .transparent), (3893, 3897, .transparent),
   (3953, 3966, .transparent), (3968, 3975, .transparent), (3981, 4038, .transparent),
   (4141, 4144, .transparent), (4146, 4151, .transparent), (4153, 4154, .transparent),
   (4157, 4158, .transparent), (4184, 4185, .transparent), (4190, 4192, .transparent),
   (4209, 4212, .transparent), (4226, 4226, .transparent), (4229, 4230, .transparent),
   (4237, 4237, .transparent), (4253, 4253, .transparent), (4957, 4959, .transparent),
   (5906, 5908, .transparent), (5938, 5939, .transparent), (5970, 5971, .transparent),
   (6002, 6003, .transparent), (6068, 6069, .transparent), (6071, 6077, .transparent),
   (6086, 6086, .transparent), (6089, 6099, .transparent), (6109, 6109, .transparent),
   (6151, 6151, .both), (6155, 6159, .transparent), (6176, 6264, .both),
   (6277, 6278, .transparent), (6279, 6312, .both), (6313, 6313, .transparent),
   (6314, 6314, .both), (6432, 6434, .transparent), (6439, 6440, .transparent),
   (6450, 6450, .transparent), (6457, 6459, .transparent), (6679, 6680, .transparent),
   (6683, 6683, .transparent), (6742, 6742, .transparent), (6744, 6752, .transparent),
   (6754, 6754, .transparent), (6757, 6764, .transparent), (6771, 6783, .transparent),
   (6832, 6915, .transparent), (6964, 6964, .transparent), (6966, 6970, .transparent),
   (6972, 6972, .transparent), (6978, 6978, .transparent), (7019, 7041, .transparent),
   (7074, 7077, .transparent), (7080, 7081, .transparent), (7083, 7085, .transparent),
   (7142, 7142, .transparent), (7144, 7145, .transparent), (7149, 7149, .transparent),
   (7151, 7153, .transparent), (7212, 7219, .transparent), (7222, 7223, .transparent),
   (7376, 7392, .transparent), (7394, 7400, .transparent), (7405, 7405, .transparent),
   (7412, 7412, .transparent), (7416, 7417, .transparent), (7616, 7679, .transparent),
   (8203, 8203, .transparent), (8206, 8432, .transparent), (11503, 11505, .transparent),
   (11647, 11647, .transparent), (11744, 11775, .transparent), (12330, 12333, .transparent),
   (12441, 12442, .transparent), (42607, 42621, .transparent), (42654, 42655, .transparent),
   (42736, 42737, .transparent), (43010, 43010, .transparent), (43014, 43014, .transparent),
   (43019, 43019, .transparent), (43045, 43046, .transparent), (43052, 43052, .transparent),
   (43072, 43121, .both), (43122, 43122, .left), (43204, 43205, .transparent),
   (43232, 43249, .transparent), (43263, 43263, .transparent), (43302, 43309, .transparent),
   (43335, 43345, .transparent), (43392, 43394, .transparent), (43443, 43443, .transparent),
   (43446, 43449, .transparent), (43452, 43453, .transparent), (43493, 43493, .transparent),
   (43561, 43566, .transparent), (43569, 43570, .transparent), (43573, 43574, .transparent),
   (43587, 43587, .transparent), (43596, 43596, .transparent), (43644, 43644, .transparent),
   (43696, 43696, .transparent), (43698, 43700, .transparent), (43703, 43704, .transparent),
   (43710, 43711, .transparent), (43713, 43713, .transparent), (43756, 43757, .transparent),
   (43766, 43766, .transparent), (44005, 44005, .transparent), (44008, 44008, .transparent),
   (44013, 44013, .transparent), (64286, 65071, .transparent), (65279, 65531, .transparent),
   (66045, 66045, .transparent), (66272, 66272, .transparent), (66422, 66426, .transparent),
   (68097, 68111, .transparent), (68152, 68159, .transparent), (68288, 68292, .both),
   (68293, 68293, .right), (68295, 68298, .right), (68301, 68301, .left), (68302, 68306, .right),
   (68307, 68310, .both), (68311, 68311, .left), (68312, 68316, .both), (68317, 68317, .right),
   (68318, 68320, .both), (68321, 68321, .right), (68324, 68324, .right),
   (68325, 68326, .transparent), (68331, 68334, .both), (68335, 68335, .right),
   (68480, 68480, .both), (68481, 68481, .right), (68482, 68482, .both), (68483, 68485, .right),
   (68486, 68488, .both), (68489, 68489, .right), (68490, 68491, .both), (68492, 68492, .right),
   (68493, 68493, .both), (68494, 68495, .right), (68496, 68496, .both), (68497, 68524, .right),
   (68525, 68526, .both), (68864, 68864, .left), (68865, 68897, .both), (68898, 68898, .right),
   (68899, 68899, .both), (68900, 68903, .transparent), (69291, 69292, .transparent),
   (69373, 69375, .transparent), (69424, 69426, .both), (69427, 69427, .right),
   (69428, 69444, .both), (69446, 69456, .transparent), (69457, 69459, .both),
   (69460, 69460, .right), (69488, 69491, .both), (69492, 69493, .right), (69494, 69505, .both),
   (69506, 69509, .transparent), (69552, 69552, .both), (69554, 69555, .both),
   (69556, 69558, .right), (69560, 69560, .both), (69561, 69562, .right), (69563, 69564, .both),
   (69565, 69565, .right), (69566, 69567, .both), (69569, 69569, .both), (69570, 69571, .right),
   (69572, 69572, .both), (69577, 69577, .right), (69578, 69578, .both), (69579, 69579, .left),
   (69633, 69633, .transparent), (69688, 69702, .transparent), (69744, 69744, .transparent),
   (69747, 69748, .transparent), (69759, 69761, .transparent), (69811, 69814, .transparent),
   (69817, 69826, .transparent), (69888, 69890, .transparent), (69927, 69931, .transparent),
   (69933, 69940, .transparent), (70003, 70003, .transparent), (70016, 70017, .transparent),
   (70070, 70078, .transparent), (70089, 70092, .transparent), (70095, 70095, .transparent),
   (70191, 70193, .transparent), (70196, 70196, .transparent), (70198, 70206, .transparent),
   (70209, 70209, .transparent), (70367, 70367, .transparent), (70371, 70378, .transparent),
   (70400, 70401, .transparent), (70459, 70460, .transparent), (70464, 70464, .transparent),
   (70502, 70516, .transparent), (70712, 70719, .transparent), (70722, 70724, .transparent),
   (70726, 70726, .transparent), (70750, 70750, .transparent), (70835, 70840, .transparent),
   (70842, 70842, .transparent), (70847, 70848, .transparent), (70850, 70851, .transparent),
   (71090, 71093, .transparent), (71100, 71101, .transparent), (71103, 71104, .transparent),
   (71132, 71133, .transparent), (71219, 71226, .transparent), (71229, 71229, .transparent),
   (71231, 71232, .transparent), (71339, 71339, .transparent), (71341, 71341, .transparent),
   (71344, 71349, .transparent), (71351, 71351, .transparent), (71453, 71455, .transparent),
   (71458, 71461, .transparent), (71463, 71467, .transparent), (71727, 71735, .transparent),
   (71737, 71738, .transparent), (71995, 71996, .transparent), (71998, 71998, .transparent),
   (72003, 72003, .transparent), (72148, 72155, .transparent), (72160, 72160, .transparent),
   (72193, 72202, .transparent), (72243, 72248, .transparent), (72251, 72263, .transparent),
   (72273, 72278, .transparent), (72281, 72283, .transparent), (72330, 72342, .transparent),
   (72344, 72345, .transparent), (72752, 72765, .transparent), (72767, 72767, .transparent),
   (72850, 72871, .transparent), (72874, 72880, .transparent), (72882, 72883, .transparent),
   (72885, 72886, .transparent), (73009, 73029, .transparent), (73031, 73031, .transparent),
   (73104, 73105, .transparent), (73109, 73109, .transparent), (73111, 73111, .transparent),
   (73459, 73460, .transparent), (73472, 73473, .transparent), (73526, 73530, .transparent),
   (73536, 73536, .transparent), (73538, 73538, .transparent), (78896, 78912, .transparent),
   (78919, 78933, .transparent), (92912, 92916, .transparent), (92976, 92982, .transparent),
   (94031, 94031, .transparent), (94095, 94098, .transparent), (94180, 94180, .transparent),
   (113821, 121519, .transparent), (122880, 123023, .transparent), (123184, 123190, .transparent),
   (123566, 123566, .transparent), (123628, 123631, .transparent), (124140, 124143, .transparent),
   (125136, 125142, .transparent), (125184, 125251, .both), (125252, 125259, .transparent),
   (917505, 917999, .transparent)]

/-- How a character joins others. -/
def joiningOf? (n : Nat) : Option Joining :=
  (joiningRuns.find? fun run => run.1 ≤ n && n ≤ run.2.1).map (·.2.2)

/-- The Greek characters. -/
def greek : Text.Ranges :=
  [(880, 883), (885, 887), (890, 893), (895, 895), (900, 900), (902, 902), (904, 906), (908, 908),
   (910, 929), (931, 993), (1008, 1023), (7462, 7466), (7517, 7521), (7526, 7530), (7615, 7615),
   (7936, 7957), (7960, 7965), (7968, 8005), (8008, 8013), (8016, 8023), (8025, 8025),
   (8027, 8027), (8029, 8029), (8031, 8061), (8064, 8116), (8118, 8132), (8134, 8147),
   (8150, 8155), (8157, 8175), (8178, 8180), (8182, 8190), (8486, 8486), (43877, 43877),
   (65856, 65934), (65952, 65952), (119296, 119365)]

/-- The Hebrew characters. -/
def hebrew : Text.Ranges :=
  [(1425, 1479), (1488, 1514), (1519, 1524), (64285, 64310), (64312, 64316), (64318, 64318),
   (64320, 64321), (64323, 64324), (64326, 64335)]

/-- The characters in which Japanese is written. -/
def japanese : Text.Ranges :=
  [(11904, 11929), (11931, 12019), (12032, 12245), (12293, 12293), (12295, 12295), (12321, 12329),
   (12344, 12347), (12353, 12438), (12445, 12447), (12449, 12538), (12541, 12543), (12784, 12799),
   (13008, 13054), (13056, 13143), (13312, 19903), (19968, 40959), (63744, 64109), (64112, 64217),
   (65382, 65391), (65393, 65437), (94178, 94179), (94192, 94193), (110576, 110579),
   (110581, 110587), (110589, 110590), (110592, 110592), (110593, 110879), (110880, 110882),
   (110898, 110898), (110928, 110930), (110933, 110933), (110948, 110951), (127488, 127488),
   (131072, 173791), (173824, 177977), (177984, 178205), (178208, 183969), (183984, 191456),
   (191472, 192093), (194560, 195101), (196608, 201546), (201552, 205743)]

end FeedReader.Url.HostName
