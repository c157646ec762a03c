import Mailroom.Text.CaseFold

/-!
# Capital letters of single code points

* `CodePoint.toUpper`: the capital letter of a letter, or what its capital form starts with;
* `CodePoint.hasCase`: the code point has a capital or a small letter other than itself;
* `CodePoint.anyHasCase`: some code point between two others has.
-/

namespace Mailroom.CodePoint

/-- A run of letters, next to each other, with a first capital letter each. -/
structure SmallRun where
  first : Nat
  last : Nat
  capital : Nat

/-- The letters whose capital form is no letter that has them as its small letter, or not only
one. -/
def specialCapitals : List SmallRun := [
  ⟨0xb5, 0xb5, 0x39c⟩, ⟨0xdf, 0xdf, 0x53⟩, ⟨0x131, 0x131, 0x49⟩, ⟨0x149, 0x149, 0x2bc⟩,
  ⟨0x17f, 0x17f, 0x53⟩, ⟨0x1c5, 0x1c5, 0x1c4⟩, ⟨0x1c8, 0x1c8, 0x1c7⟩, ⟨0x1cb, 0x1cb, 0x1ca⟩,
  ⟨0x1f0, 0x1f0, 0x4a⟩, ⟨0x1f2, 0x1f2, 0x1f1⟩, ⟨0x345, 0x345, 0x399⟩, ⟨0x390, 0x390, 0x399⟩,
  ⟨0x3b0, 0x3b0, 0x3a5⟩, ⟨0x3c2, 0x3c2, 0x3a3⟩, ⟨0x3d0, 0x3d0, 0x392⟩, ⟨0x3d1, 0x3d1, 0x398⟩,
  ⟨0x3d5, 0x3d5, 0x3a6⟩, ⟨0x3d6, 0x3d6, 0x3a0⟩, ⟨0x3f0, 0x3f0, 0x39a⟩, ⟨0x3f1, 0x3f1, 0x3a1⟩,
  ⟨0x3f5, 0x3f5, 0x395⟩, ⟨0x587, 0x587, 0x535⟩, ⟨0x1c80, 0x1c80, 0x412⟩, ⟨0x1c81, 0x1c81, 0x414⟩,
  ⟨0x1c82, 0x1c82, 0x41e⟩, ⟨0x1c83, 0x1c84, 0x421⟩, ⟨0x1c85, 0x1c85, 0x422⟩,
  ⟨0x1c86, 0x1c86, 0x42a⟩, ⟨0x1c87, 0x1c87, 0x462⟩, ⟨0x1c88, 0x1c88, 0xa64a⟩,
  ⟨0x1e96, 0x1e96, 0x48⟩, ⟨0x1e97, 0x1e97, 0x54⟩, ⟨0x1e98, 0x1e98, 0x57⟩, ⟨0x1e99, 0x1e99, 0x59⟩,
  ⟨0x1e9a, 0x1e9a, 0x41⟩, ⟨0x1e9b, 0x1e9b, 0x1e60⟩, ⟨0x1f50, 0x1f50, 0x3a5⟩,
  ⟨0x1f52, 0x1f52, 0x3a5⟩, ⟨0x1f54, 0x1f54, 0x3a5⟩, ⟨0x1f56, 0x1f56, 0x3a5⟩,
  ⟨0x1f80, 0x1f87, 0x1f08⟩, ⟨0x1f88, 0x1f8f, 0x1f08⟩, ⟨0x1f90, 0x1f97, 0x1f28⟩,
  ⟨0x1f98, 0x1f9f, 0x1f28⟩, ⟨0x1fa0, 0x1fa7, 0x1f68⟩, ⟨0x1fa8, 0x1faf, 0x1f68⟩,
  ⟨0x1fb2, 0x1fb2, 0x1fba⟩, ⟨0x1fb3, 0x1fb3, 0x391⟩, ⟨0x1fb4, 0x1fb4, 0x386⟩,
  ⟨0x1fb6, 0x1fb6, 0x391⟩, ⟨0x1fb7, 0x1fb7, 0x391⟩, ⟨0x1fbc, 0x1fbc, 0x391⟩,
  ⟨0x1fbe, 0x1fbe, 0x399⟩, ⟨0x1fc2, 0x1fc2, 0x1fca⟩, ⟨0x1fc3, 0x1fc3, 0x397⟩,
  ⟨0x1fc4, 0x1fc4, 0x389⟩, ⟨0x1fc6, 0x1fc6, 0x397⟩, ⟨0x1fc7, 0x1fc7, 0x397⟩,
  ⟨0x1fcc, 0x1fcc, 0x397⟩, ⟨0x1fd2, 0x1fd2, 0x399⟩, ⟨0x1fd3, 0x1fd3, 0x399⟩,
  ⟨0x1fd6, 0x1fd6, 0x399⟩, ⟨0x1fd7, 0x1fd7, 0x399⟩, ⟨0x1fe2, 0x1fe2, 0x3a5⟩,
  ⟨0x1fe3, 0x1fe3, 0x3a5⟩, ⟨0x1fe4, 0x1fe4, 0x3a1⟩, ⟨0x1fe6, 0x1fe6, 0x3a5⟩,
  ⟨0x1fe7, 0x1fe7, 0x3a5⟩, ⟨0x1ff2, 0x1ff2, 0x1ffa⟩, ⟨0x1ff3, 0x1ff3, 0x3a9⟩,
  ⟨0x1ff4, 0x1ff4, 0x38f⟩, ⟨0x1ff6, 0x1ff6, 0x3a9⟩, ⟨0x1ff7, 0x1ff7, 0x3a9⟩,
  ⟨0x1ffc, 0x1ffc, 0x3a9⟩, ⟨0xfb00, 0xfb00, 0x46⟩, ⟨0xfb01, 0xfb01, 0x46⟩, ⟨0xfb02, 0xfb02, 0x46⟩,
  ⟨0xfb03, 0xfb03, 0x46⟩, ⟨0xfb04, 0xfb04, 0x46⟩, ⟨0xfb05, 0xfb05, 0x53⟩, ⟨0xfb06, 0xfb06, 0x53⟩,
  ⟨0xfb13, 0xfb13, 0x544⟩, ⟨0xfb14, 0xfb14, 0x544⟩, ⟨0xfb15, 0xfb15, 0x544⟩,
  ⟨0xfb16, 0xfb16, 0x54e⟩, ⟨0xfb17, 0xfb17, 0x544⟩]

/-- The capital letter that a run assigns to a number. -/
def SmallRun.capital? (run : SmallRun) (n : Nat) : Option Nat :=
  if run.first ≤ n && n ≤ run.last then some (run.capital + (n - run.first)) else none

/-- The capital letter, or the first letter of the capital form. -/
def toUpper (c : CodePoint) : CodePoint :=
  if c.isAsciiLower then ofNat (c.val - 0x20)
  else if c.isAscii then c
  else match (specialCapitals.findSome? (·.capital? c.val)).or (capitals c.val).head? with
    | some n => ofNat n
    | none => c

/-- The code points that have a capital or a small letter other than themselves. -/
def twoCaseRuns : List Nat := [
  0x41, 0x5b, 0x61, 0x7b, 0xb5, 0xb6, 0xc0, 0xd7, 0xd8, 0xf7, 0xf8, 0x138, 0x139, 0x18d, 0x18e,
  0x19b, 0x19c, 0x1aa, 0x1ac, 0x1ba, 0x1bc, 0x1be, 0x1bf, 0x1c0, 0x1c4, 0x221, 0x222, 0x234,
  0x23a, 0x255, 0x256, 0x258, 0x259, 0x25a, 0x25b, 0x25d, 0x260, 0x262, 0x263, 0x264, 0x265,
  0x267, 0x268, 0x26d, 0x26f, 0x270, 0x271, 0x273, 0x275, 0x276, 0x27d, 0x27e, 0x280, 0x281,
  0x282, 0x284, 0x287, 0x28d, 0x292, 0x293, 0x29d, 0x29f, 0x345, 0x346, 0x370, 0x374, 0x376,
  0x378, 0x37b, 0x37e, 0x37f, 0x380, 0x386, 0x387, 0x388, 0x38b, 0x38c, 0x38d, 0x38e, 0x3a2,
  0x3a3, 0x3d2, 0x3d5, 0x3f6, 0x3f7, 0x3fc, 0x3fd, 0x482, 0x48a, 0x530, 0x531, 0x557, 0x561,
  0x588, 0x10a0, 0x10c6, 0x10c7, 0x10c8, 0x10cd, 0x10ce, 0x10d0, 0x10fb, 0x10fd, 0x1100, 0x13a0,
  0x13f6, 0x13f8, 0x13fe, 0x1c80, 0x1c89, 0x1c90, 0x1cbb, 0x1cbd, 0x1cc0, 0x1d79, 0x1d7a, 0x1d7d,
  0x1d7e, 0x1d8e, 0x1d8f, 0x1e00, 0x1e9c, 0x1e9e, 0x1e9f, 0x1ea0, 0x1f16, 0x1f18, 0x1f1e, 0x1f20,
  0x1f46, 0x1f48, 0x1f4e, 0x1f50, 0x1f58, 0x1f59, 0x1f5a, 0x1f5b, 0x1f5c, 0x1f5d, 0x1f5e, 0x1f5f,
  0x1f7e, 0x1f80, 0x1fb5, 0x1fb6, 0x1fbd, 0x1fbe, 0x1fbf, 0x1fc2, 0x1fc5, 0x1fc6, 0x1fcd, 0x1fd0,
  0x1fd4, 0x1fd6, 0x1fdc, 0x1fe0, 0x1fed, 0x1ff2, 0x1ff5, 0x1ff6, 0x1ffd, 0x2126, 0x2127, 0x212a,
  0x212c, 0x2132, 0x2133, 0x214e, 0x214f, 0x2160, 0x2180, 0x2183, 0x2185, 0x24b6, 0x24ea, 0x2c00,
  0x2c71, 0x2c72, 0x2c74, 0x2c75, 0x2c77, 0x2c7e, 0x2ce4, 0x2ceb, 0x2cef, 0x2cf2, 0x2cf4, 0x2d00,
  0x2d26, 0x2d27, 0x2d28, 0x2d2d, 0x2d2e, 0xa640, 0xa66e, 0xa680, 0xa69c, 0xa722, 0xa730, 0xa732,
  0xa770, 0xa779, 0xa788, 0xa78b, 0xa78e, 0xa790, 0xa795, 0xa796, 0xa7af, 0xa7b0, 0xa7cb, 0xa7d0,
  0xa7d2, 0xa7d6, 0xa7da, 0xa7f5, 0xa7f7, 0xab53, 0xab54, 0xab70, 0xabc0, 0xfb00, 0xfb07, 0xfb13,
  0xfb18, 0xff21, 0xff3b, 0xff41, 0xff5b, 0x10400, 0x10450, 0x104b0, 0x104d4, 0x104d8, 0x104fc,
  0x10570, 0x1057b, 0x1057c, 0x1058b, 0x1058c, 0x10593, 0x10594, 0x10596, 0x10597, 0x105a2,
  0x105a3, 0x105b2, 0x105b3, 0x105ba, 0x105bb, 0x105bd, 0x10c80, 0x10cb3, 0x10cc0, 0x10cf3,
  0x118a0, 0x118e0, 0x16e40, 0x16e80, 0x1e900, 0x1e944]

/-- The code point has a capital or a small letter other than itself. -/
def hasCase (c : CodePoint) : Bool := inRuns twoCaseRuns c.val

/-- Some code point between two others, both included, has a capital or a small letter other
than itself. -/
def anyHasCase (low high : CodePoint) : Bool := meetsRuns twoCaseRuns low.val high.val

end Mailroom.CodePoint
