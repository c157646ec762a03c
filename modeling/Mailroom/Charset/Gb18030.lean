import Mailroom.Charset.Piece

/-!
# What GB 18030 adds to GBK

GB 18030 gives every cell of GBK a code point, and has sequences of four octets for all
code points that have no cell. The second and the fourth octet of those are digits.

* `gb18030Cell?`: the code point of a cell that is free in GBK;
* `gb18030Sequence?`: the code point of four octets.
-/

namespace Mailroom.Charset

/-- Cells that are free in GBK between its characters: the row with the first and the last
cell. In this order they have the code points from U+E766 on. -/
def gb18030Gaps : List (Nat × Nat × Nat) := [
  (0xA2, 0xAB, 0xB0), (0xA2, 0xE3, 0xE4), (0xA2, 0xEF, 0xF0), (0xA2, 0xFD, 0xFE), (0xA4, 0xF4,
  0xFE), (0xA5, 0xF7, 0xFE), (0xA6, 0xB9, 0xC0), (0xA6, 0xD9, 0xDF), (0xA6, 0xEC, 0xED),
  (0xA6, 0xF3, 0xF3), (0xA6, 0xF6, 0xFE), (0xA7, 0xC2, 0xD0), (0xA7, 0xF2, 0xFE), (0xA8, 0x96,
  0xA0), (0xA8, 0xBC, 0xBC), (0xA8, 0xBF, 0xBF), (0xA8, 0xC1, 0xC4), (0xA8, 0xEA, 0xFE),
  (0xA9, 0x58, 0x58), (0xA9, 0x5B, 0x5B), (0xA9, 0x5D, 0x5F), (0xA9, 0x89, 0x95), (0xA9, 0x97,
  0xA3), (0xA9, 0xF0, 0xFE), (0xD7, 0xFA, 0xFE), (0xFE, 0x50, 0xA0)]

/-- Cells between the characters of GBK that have a character of Unicode instead. -/
def gb18030Assigned : List (Nat × Nat) := [
  (0xA2E3, 0x20AC), (0xA8BF, 0x01F9), (0xA989, 0x303E), (0xA98A, 0x2FF0), (0xA98B, 0x2FF1),
  (0xA98C, 0x2FF2), (0xA98D, 0x2FF3), (0xA98E, 0x2FF4), (0xA98F, 0x2FF5), (0xA990, 0x2FF6),
  (0xA991, 0x2FF7), (0xA992, 0x2FF8), (0xA993, 0x2FF9), (0xA994, 0x2FFA), (0xA995, 0x2FFB),
  (0xFE50, 0x2E81), (0xFE54, 0x2E84), (0xFE55, 0x3473), (0xFE56, 0x3447), (0xFE57, 0x2E88),
  (0xFE58, 0x2E8B), (0xFE5A, 0x359E), (0xFE5B, 0x361A), (0xFE5C, 0x360E), (0xFE5D, 0x2E8C),
  (0xFE5E, 0x2E97), (0xFE5F, 0x396E), (0xFE60, 0x3918), (0xFE62, 0x39CF), (0xFE63, 0x39DF),
  (0xFE64, 0x3A73), (0xFE65, 0x39D0), (0xFE68, 0x3B4E), (0xFE69, 0x3C6E), (0xFE6A, 0x3CE0),
  (0xFE6B, 0x2EA7), (0xFE6E, 0x2EAA), (0xFE6F, 0x4056), (0xFE70, 0x415F), (0xFE71, 0x2EAE),
  (0xFE72, 0x4337), (0xFE73, 0x2EB3), (0xFE74, 0x2EB6), (0xFE75, 0x2EB7), (0xFE77, 0x43B1),
  (0xFE78, 0x43AC), (0xFE79, 0x2EBB), (0xFE7A, 0x43DD), (0xFE7B, 0x44D6), (0xFE7C, 0x4661),
  (0xFE7D, 0x464C), (0xFE80, 0x4723), (0xFE81, 0x4729), (0xFE82, 0x477C), (0xFE83, 0x478D),
  (0xFE84, 0x2ECA), (0xFE85, 0x4947), (0xFE86, 0x497A), (0xFE87, 0x497D), (0xFE88, 0x4982),
  (0xFE89, 0x4983), (0xFE8A, 0x4985), (0xFE8B, 0x4986), (0xFE8C, 0x499F), (0xFE8D, 0x499B),
  (0xFE8E, 0x49B7), (0xFE8F, 0x49B6), (0xFE92, 0x4CA3), (0xFE93, 0x4C9F), (0xFE94, 0x4CA0),
  (0xFE95, 0x4CA1), (0xFE96, 0x4C77), (0xFE97, 0x4CA2), (0xFE98, 0x4D13), (0xFE99, 0x4D14),
  (0xFE9A, 0x4D15), (0xFE9B, 0x4D16), (0xFE9C, 0x4D17), (0xFE9D, 0x4D18), (0xFE9E, 0x4D19),
  (0xFE9F, 0x4DAE)]

/-- The code points without a cell below 0x10000 in runs: the number of four octets at which
a run begins, and its first code point. -/
def gb18030Runs : List (Nat × Nat) := [
  (0, 0x0080), (36, 0x00A5), (38, 0x00A9), (45, 0x00B2), (50, 0x00B8), (81, 0x00D8), (89,
  0x00E2), (95, 0x00EB), (96, 0x00EE), (100, 0x00F4), (103, 0x00F8), (104, 0x00FB), (105,
  0x00FD), (109, 0x0102), (126, 0x0114), (133, 0x011C), (148, 0x012C), (172, 0x0145), (175,
  0x0149), (179, 0x014E), (208, 0x016C), (306, 0x01CF), (307, 0x01D1), (308, 0x01D3), (309,
  0x01D5), (310, 0x01D7), (311, 0x01D9), (312, 0x01DB), (313, 0x01DD), (341, 0x01FA), (428,
  0x0252), (443, 0x0262), (544, 0x02C8), (545, 0x02CC), (558, 0x02DA), (741, 0x03A2), (742,
  0x03AA), (749, 0x03C2), (750, 0x03CA), (805, 0x0402), (819, 0x0450), (820, 0x0452), (7922,
  0x2011), (7924, 0x2017), (7925, 0x201A), (7927, 0x201E), (7934, 0x2027), (7943, 0x2031),
  (7944, 0x2034), (7945, 0x2036), (7950, 0x203C), (8062, 0x20AD), (8148, 0x2104), (8149,
  0x2106), (8152, 0x210A), (8164, 0x2117), (8174, 0x2122), (8236, 0x216C), (8240, 0x217A),
  (8262, 0x2194), (8264, 0x219A), (8374, 0x2209), (8380, 0x2210), (8381, 0x2212), (8384,
  0x2216), (8388, 0x221B), (8390, 0x2221), (8392, 0x2224), (8393, 0x2226), (8394, 0x222C),
  (8396, 0x222F), (8401, 0x2238), (8406, 0x223E), (8416, 0x2249), (8419, 0x224D), (8424,
  0x2253), (8437, 0x2262), (8439, 0x2268), (8445, 0x2270), (8482, 0x2296), (8485, 0x229A),
  (8496, 0x22A6), (8521, 0x22C0), (8603, 0x2313), (8936, 0x246A), (8946, 0x249C), (9046,
  0x254C), (9050, 0x2574), (9063, 0x2590), (9066, 0x2596), (9076, 0x25A2), (9092, 0x25B4),
  (9100, 0x25BE), (9108, 0x25C8), (9111, 0x25CC), (9113, 0x25D0), (9131, 0x25E6), (9162,
  0x2607), (9164, 0x260A), (9218, 0x2641), (9219, 0x2643), (11329, 0x2E82), (11331, 0x2E85),
  (11334, 0x2E89), (11336, 0x2E8D), (11346, 0x2E98), (11361, 0x2EA8), (11363, 0x2EAB), (11366,
  0x2EAF), (11370, 0x2EB4), (11372, 0x2EB8), (11375, 0x2EBC), (11389, 0x2ECB), (11682,
  0x2FFC), (11686, 0x3004), (11687, 0x3018), (11692, 0x301F), (11694, 0x302A), (11714,
  0x303F), (11716, 0x3094), (11723, 0x309F), (11725, 0x30F7), (11730, 0x30FF), (11736,
  0x312A), (11982, 0x322A), (11989, 0x3232), (12102, 0x32A4), (12336, 0x3390), (12348,
  0x339F), (12350, 0x33A2), (12384, 0x33C5), (12393, 0x33CF), (12395, 0x33D3), (12397,
  0x33D6), (12510, 0x3448), (12553, 0x3474), (12851, 0x359F), (12962, 0x360F), (12973,
  0x361B), (13738, 0x3919), (13823, 0x396F), (13919, 0x39D1), (13933, 0x39E0), (14080,
  0x3A74), (14298, 0x3B4F), (14585, 0x3C6F), (14698, 0x3CE1), (15583, 0x4057), (15847,
  0x4160), (16318, 0x4338), (16434, 0x43AD), (16438, 0x43B2), (16481, 0x43DE), (16729,
  0x44D7), (17102, 0x464D), (17122, 0x4662), (17315, 0x4724), (17320, 0x472A), (17402,
  0x477D), (17418, 0x478E), (17859, 0x4948), (17909, 0x497B), (17911, 0x497E), (17915,
  0x4984), (17916, 0x4987), (17936, 0x499C), (17939, 0x49A0), (17961, 0x49B8), (18664,
  0x4C78), (18703, 0x4CA4), (18814, 0x4D1A), (18962, 0x4DAF), (19043, 0x9FA6), (33469,
  0xE76C), (33470, 0xE7C8), (33471, 0xE7E7), (33484, 0xE815), (33485, 0xE819), (33490,
  0xE81F), (33497, 0xE827), (33501, 0xE82D), (33505, 0xE833), (33513, 0xE83C), (33520,
  0xE844), (33536, 0xE856), (33550, 0xE865), (37845, 0xF92D), (37921, 0xF97A), (37948,
  0xF996), (38029, 0xF9E8), (38038, 0xF9F2), (38064, 0xFA10), (38065, 0xFA12), (38066,
  0xFA15), (38069, 0xFA19), (38075, 0xFA22), (38076, 0xFA25), (38078, 0xFA2A), (39108,
  0xFE32), (39109, 0xFE45), (39113, 0xFE53), (39114, 0xFE58), (39115, 0xFE67), (39116,
  0xFE6C), (39265, 0xFF5F), (39394, 0xFFE6)]

/-- How many cells from the first up to another one there are. The cell 0x7F does not count. -/
def cellsBetween (first cell : Nat) : Nat :=
  cell - first - (if first < 0x7F && 0x7F < cell then 1 else 0)

/-- The place of a cell among the gaps. -/
def gapIndex? (row cell : Nat) : List (Nat × Nat × Nat) → Option Nat
  | [] => none
  | (r, first, last) :: gaps =>
    if r = row && decide (first ≤ cell) && decide (cell ≤ last) then some (cellsBetween first cell)
    else (gapIndex? row cell gaps).map (· + cellsBetween first last + 1)

/-- The code point of a cell that is free in GBK. Three blocks at the edges of the table are
for private use, and so are most of the gaps between its characters. -/
def gb18030Cell? (row cell : Nat) : Option CodePoint :=
  if cell < 0x40 || cell = 0x7F || 0xFE < cell then none
  else if 0xAA ≤ row && row ≤ 0xAF && 0xA1 ≤ cell then
    some (CodePoint.ofNat (0xE000 + 94 * (row - 0xAA) + (cell - 0xA1)))
  else if 0xF8 ≤ row && row ≤ 0xFE && 0xA1 ≤ cell then
    some (CodePoint.ofNat (0xE234 + 94 * (row - 0xF8) + (cell - 0xA1)))
  else if 0xA1 ≤ row && row ≤ 0xA7 && cell ≤ 0xA0 then
    some (CodePoint.ofNat (0xE4C6 + 96 * (row - 0xA1) + cellsBetween 0x40 cell))
  else
    ((gb18030Assigned.lookup (row * 0x100 + cell)).or
      ((gapIndex? row cell gb18030Gaps).map (0xE766 + ·))).map CodePoint.ofNat

/-- The code point of four octets, of which the second and the fourth are digits. Those of
the first plane come first, and those of the other planes in order from 0x90308130 on. -/
def gb18030Sequence? (a b c d : Nat) : Option CodePoint :=
  if a < 0x81 || 0xFE < a || b < 0x30 || 0x39 < b || c < 0x81 || 0xFE < c || d < 0x30 || 0x39 < d
  then none
  else
    let n := (((a - 0x81) * 10 + (b - 0x30)) * 126 + (c - 0x81)) * 10 + (d - 0x30)
    if n < 39420 then
      (gb18030Runs.takeWhile (·.1 ≤ n)).getLast?.map fun (start, first) =>
        CodePoint.ofNat (first + (n - start))
    else if n < 189000 then none
    else CodePoint.ofNat? (0x10000 + (n - 189000))

/-- The first code point after the first plane. -/
theorem gb18030Sequence?_astral :
    gb18030Sequence? 0x90 0x30 0x81 0x30 = some (CodePoint.ofNat 0x10000) := by
  decide

end Mailroom.Charset
