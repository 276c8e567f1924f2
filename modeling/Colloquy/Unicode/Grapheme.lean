import Colloquy.Unicode.Property
import Colloquy.Unicode.Segment

/-!
# Grapheme clusters

A grapheme cluster is what a reader takes for one character.
-/

namespace Colloquy
namespace Unicode

namespace Grapheme

inductive Kind where
  | carriageReturn
  | lineFeed
  | control
  | extend
  | joiner
  | indicator
  | prepend
  | spacingMark
  | leading
  | vowel
  | trailing
  | leadingVowel
  | leadingVowelTrailing
  | other
deriving DecidableEq, Repr

def Kind.ofCode : String -> Kind
  | "CR" => carriageReturn
  | "LF" => lineFeed
  | "CN" => control
  | "EX" => extend
  | "ZWJ" => joiner
  | "RI" => indicator
  | "PP" => prepend
  | "SM" => spacingMark
  | "L" => leading
  | "V" => vowel
  | "T" => trailing
  | _ => other

/-- The kinds of all characters but the composed syllables of Hangul. -/
def kindText : String :=
  "0.CN a.LF b.CN d.CR e.CN 20.XX 7f.CN a0.XX ad.CN ae.XX 300.EX 370.XX 483.EX 48a.XX 591.EX
  5be.XX 5bf.EX 5c0.XX 5c1.EX 5c3.XX 5c4.EX 5c6.XX 5c7.EX 5c8.XX 600.PP 606.XX 610.EX 61b.XX
  61c.CN 61d.XX 64b.EX 660.XX 670.EX 671.XX 6d6.EX 6dd.PP 6de.XX 6df.EX 6e5.XX 6e7.EX 6e9.XX
  6ea.EX 6ee.XX 70f.PP 710.XX 711.EX 712.XX 730.EX 74b.XX 7a6.EX 7b1.XX 7eb.EX 7f4.XX 7fd.EX
  7fe.XX 816.EX 81a.XX 81b.EX 824.XX 825.EX 828.XX 829.EX 82e.XX 859.EX 85c.XX 890.PP 892.XX
  898.EX 8a0.XX 8ca.EX 8e2.PP 8e3.EX 903.SM 904.XX 93a.EX 93b.SM 93c.EX 93d.XX 93e.SM 941.EX
  949.SM 94d.EX 94e.SM 950.XX 951.EX 958.XX 962.EX 964.XX 981.EX 982.SM 984.XX 9bc.EX 9bd.XX
  9be.EX 9bf.SM 9c1.EX 9c5.XX 9c7.SM 9c9.XX 9cb.SM 9cd.EX 9ce.XX 9d7.EX 9d8.XX 9e2.EX 9e4.XX
  9fe.EX 9ff.XX a01.EX a03.SM a04.XX a3c.EX a3d.XX a3e.SM a41.EX a43.XX a47.EX a49.XX a4b.EX
  a4e.XX a51.EX a52.XX a70.EX a72.XX a75.EX a76.XX a81.EX a83.SM a84.XX abc.EX abd.XX abe.SM
  ac1.EX ac6.XX ac7.EX ac9.SM aca.XX acb.SM acd.EX ace.XX ae2.EX ae4.XX afa.EX b00.XX b01.EX
  b02.SM b04.XX b3c.EX b3d.XX b3e.EX b40.SM b41.EX b45.XX b47.SM b49.XX b4b.SM b4d.EX b4e.XX
  b55.EX b58.XX b62.EX b64.XX b82.EX b83.XX bbe.EX bbf.SM bc0.EX bc1.SM bc3.XX bc6.SM bc9.XX
  bca.SM bcd.EX bce.XX bd7.EX bd8.XX c00.EX c01.SM c04.EX c05.XX c3c.EX c3d.XX c3e.EX c41.SM
  c45.XX c46.EX c49.XX c4a.EX c4e.XX c55.EX c57.XX c62.EX c64.XX c81.EX c82.SM c84.XX cbc.EX
  cbd.XX cbe.SM cbf.EX cc0.SM cc2.EX cc3.SM cc5.XX cc6.EX cc7.SM cc9.XX cca.SM ccc.EX cce.XX
  cd5.EX cd7.XX ce2.EX ce4.XX cf3.SM cf4.XX d00.EX d02.SM d04.XX d3b.EX d3d.XX d3e.EX d3f.SM
  d41.EX d45.XX d46.SM d49.XX d4a.SM d4d.EX d4e.PP d4f.XX d57.EX d58.XX d62.EX d64.XX d81.EX
  d82.SM d84.XX dca.EX dcb.XX dcf.EX dd0.SM dd2.EX dd5.XX dd6.EX dd7.XX dd8.SM ddf.EX de0.XX
  df2.SM df4.XX e31.EX e32.XX e33.SM e34.EX e3b.XX e47.EX e4f.XX eb1.EX eb2.XX eb3.SM eb4.EX
  ebd.XX ec8.EX ecf.XX f18.EX f1a.XX f35.EX f36.XX f37.EX f38.XX f39.EX f3a.XX f3e.SM f40.XX
  f71.EX f7f.SM f80.EX f85.XX f86.EX f88.XX f8d.EX f98.XX f99.EX fbd.XX fc6.EX fc7.XX 102d.EX
  1031.SM 1032.EX 1038.XX 1039.EX 103b.SM 103d.EX 103f.XX 1056.SM 1058.EX 105a.XX 105e.EX
  1061.XX 1071.EX 1075.XX 1082.EX 1083.XX 1084.SM 1085.EX 1087.XX 108d.EX 108e.XX 109d.EX
  109e.XX 1100.L 1160.V 11a8.T 1200.XX 135d.EX 1360.XX 1712.EX 1715.SM 1716.XX 1732.EX
  1734.SM 1735.XX 1752.EX 1754.XX 1772.EX 1774.XX 17b4.EX 17b6.SM 17b7.EX 17be.SM 17c6.EX
  17c7.SM 17c9.EX 17d4.XX 17dd.EX 17de.XX 180b.EX 180e.CN 180f.EX 1810.XX 1885.EX 1887.XX
  18a9.EX 18aa.XX 1920.EX 1923.SM 1927.EX 1929.SM 192c.XX 1930.SM 1932.EX 1933.SM 1939.EX
  193c.XX 1a17.EX 1a19.SM 1a1b.EX 1a1c.XX 1a55.SM 1a56.EX 1a57.SM 1a58.EX 1a5f.XX 1a60.EX
  1a61.XX 1a62.EX 1a63.XX 1a65.EX 1a6d.SM 1a73.EX 1a7d.XX 1a7f.EX 1a80.XX 1ab0.EX 1acf.XX
  1b00.EX 1b04.SM 1b05.XX 1b34.EX 1b3b.SM 1b3c.EX 1b3d.SM 1b42.EX 1b43.SM 1b45.XX 1b6b.EX
  1b74.XX 1b80.EX 1b82.SM 1b83.XX 1ba1.SM 1ba2.EX 1ba6.SM 1ba8.EX 1baa.SM 1bab.EX 1bae.XX
  1be6.EX 1be7.SM 1be8.EX 1bea.SM 1bed.EX 1bee.SM 1bef.EX 1bf2.SM 1bf4.XX 1c24.SM 1c2c.EX
  1c34.SM 1c36.EX 1c38.XX 1cd0.EX 1cd3.XX 1cd4.EX 1ce1.SM 1ce2.EX 1ce9.XX 1ced.EX 1cee.XX
  1cf4.EX 1cf5.XX 1cf7.SM 1cf8.EX 1cfa.XX 1dc0.EX 1e00.XX 200b.CN 200c.EX 200d.ZWJ 200e.CN
  2010.XX 2028.CN 202f.XX 2060.CN 2070.XX 20d0.EX 20f1.XX 2cef.EX 2cf2.XX 2d7f.EX 2d80.XX
  2de0.EX 2e00.XX 302a.EX 3030.XX 3099.EX 309b.XX a66f.EX a673.XX a674.EX a67e.XX a69e.EX
  a6a0.XX a6f0.EX a6f2.XX a802.EX a803.XX a806.EX a807.XX a80b.EX a80c.XX a823.SM a825.EX
  a827.SM a828.XX a82c.EX a82d.XX a880.SM a882.XX a8b4.SM a8c4.EX a8c6.XX a8e0.EX a8f2.XX
  a8ff.EX a900.XX a926.EX a92e.XX a947.EX a952.SM a954.XX a960.L a97d.XX a980.EX a983.SM
  a984.XX a9b3.EX a9b4.SM a9b6.EX a9ba.SM a9bc.EX a9be.SM a9c1.XX a9e5.EX a9e6.XX aa29.EX
  aa2f.SM aa31.EX aa33.SM aa35.EX aa37.XX aa43.EX aa44.XX aa4c.EX aa4d.SM aa4e.XX aa7c.EX
  aa7d.XX aab0.EX aab1.XX aab2.EX aab5.XX aab7.EX aab9.XX aabe.EX aac0.XX aac1.EX aac2.XX
  aaeb.SM aaec.EX aaee.SM aaf0.XX aaf5.SM aaf6.EX aaf7.XX abe3.SM abe5.EX abe6.SM abe8.EX
  abe9.SM abeb.XX abec.SM abed.EX abee.XX d7b0.V d7c7.XX d7cb.T d7fc.XX fb1e.EX fb1f.XX
  fe00.EX fe10.XX fe20.EX fe30.XX feff.CN ff00.XX ff9e.EX ffa0.XX fff0.CN fffc.XX 101fd.EX
  101fe.XX 102e0.EX 102e1.XX 10376.EX 1037b.XX 10a01.EX 10a04.XX 10a05.EX 10a07.XX 10a0c.EX
  10a10.XX 10a38.EX 10a3b.XX 10a3f.EX 10a40.XX 10ae5.EX 10ae7.XX 10d24.EX 10d28.XX 10eab.EX
  10ead.XX 10efd.EX 10f00.XX 10f46.EX 10f51.XX 10f82.EX 10f86.XX 11000.SM 11001.EX 11002.SM
  11003.XX 11038.EX 11047.XX 11070.EX 11071.XX 11073.EX 11075.XX 1107f.EX 11082.SM 11083.XX
  110b0.SM 110b3.EX 110b7.SM 110b9.EX 110bb.XX 110bd.PP 110be.XX 110c2.EX 110c3.XX 110cd.PP
  110ce.XX 11100.EX 11103.XX 11127.EX 1112c.SM 1112d.EX 11135.XX 11145.SM 11147.XX 11173.EX
  11174.XX 11180.EX 11182.SM 11183.XX 111b3.SM 111b6.EX 111bf.SM 111c1.XX 111c2.PP 111c4.XX
  111c9.EX 111cd.XX 111ce.SM 111cf.EX 111d0.XX 1122c.SM 1122f.EX 11232.SM 11234.EX 11235.SM
  11236.EX 11238.XX 1123e.EX 1123f.XX 11241.EX 11242.XX 112df.EX 112e0.SM 112e3.EX 112eb.XX
  11300.EX 11302.SM 11304.XX 1133b.EX 1133d.XX 1133e.EX 1133f.SM 11340.EX 11341.SM 11345.XX
  11347.SM 11349.XX 1134b.SM 1134e.XX 11357.EX 11358.XX 11362.SM 11364.XX 11366.EX 1136d.XX
  11370.EX 11375.XX 11435.SM 11438.EX 11440.SM 11442.EX 11445.SM 11446.EX 11447.XX 1145e.EX
  1145f.XX 114b0.EX 114b1.SM 114b3.EX 114b9.SM 114ba.EX 114bb.SM 114bd.EX 114be.SM 114bf.EX
  114c1.SM 114c2.EX 114c4.XX 115af.EX 115b0.SM 115b2.EX 115b6.XX 115b8.SM 115bc.EX 115be.SM
  115bf.EX 115c1.XX 115dc.EX 115de.XX 11630.SM 11633.EX 1163b.SM 1163d.EX 1163e.SM 1163f.EX
  11641.XX 116ab.EX 116ac.SM 116ad.EX 116ae.SM 116b0.EX 116b6.SM 116b7.EX 116b8.XX 1171d.EX
  11720.XX 11722.EX 11726.SM 11727.EX 1172c.XX 1182c.SM 1182f.EX 11838.SM 11839.EX 1183b.XX
  11930.EX 11931.SM 11936.XX 11937.SM 11939.XX 1193b.EX 1193d.SM 1193e.EX 1193f.PP 11940.SM
  11941.PP 11942.SM 11943.EX 11944.XX 119d1.SM 119d4.EX 119d8.XX 119da.EX 119dc.SM 119e0.EX
  119e1.XX 119e4.SM 119e5.XX 11a01.EX 11a0b.XX 11a33.EX 11a39.SM 11a3a.PP 11a3b.EX 11a3f.XX
  11a47.EX 11a48.XX 11a51.EX 11a57.SM 11a59.EX 11a5c.XX 11a84.PP 11a8a.EX 11a97.SM 11a98.EX
  11a9a.XX 11c2f.SM 11c30.EX 11c37.XX 11c38.EX 11c3e.SM 11c3f.EX 11c40.XX 11c92.EX 11ca8.XX
  11ca9.SM 11caa.EX 11cb1.SM 11cb2.EX 11cb4.SM 11cb5.EX 11cb7.XX 11d31.EX 11d37.XX 11d3a.EX
  11d3b.XX 11d3c.EX 11d3e.XX 11d3f.EX 11d46.PP 11d47.EX 11d48.XX 11d8a.SM 11d8f.XX 11d90.EX
  11d92.XX 11d93.SM 11d95.EX 11d96.SM 11d97.EX 11d98.XX 11ef3.EX 11ef5.SM 11ef7.XX 11f00.EX
  11f02.PP 11f03.SM 11f04.XX 11f34.SM 11f36.EX 11f3b.XX 11f3e.SM 11f40.EX 11f41.SM 11f42.EX
  11f43.XX 13430.CN 13440.EX 13441.XX 13447.EX 13456.XX 16af0.EX 16af5.XX 16b30.EX 16b37.XX
  16f4f.EX 16f50.XX 16f51.SM 16f88.XX 16f8f.EX 16f93.XX 16fe4.EX 16fe5.XX 16ff0.SM 16ff2.XX
  1bc9d.EX 1bc9f.XX 1bca0.CN 1bca4.XX 1cf00.EX 1cf2e.XX 1cf30.EX 1cf47.XX 1d165.EX 1d166.SM
  1d167.EX 1d16a.XX 1d16d.SM 1d16e.EX 1d173.CN 1d17b.EX 1d183.XX 1d185.EX 1d18c.XX 1d1aa.EX
  1d1ae.XX 1d242.EX 1d245.XX 1da00.EX 1da37.XX 1da3b.EX 1da6d.XX 1da75.EX 1da76.XX 1da84.EX
  1da85.XX 1da9b.EX 1daa0.XX 1daa1.EX 1dab0.XX 1e000.EX 1e007.XX 1e008.EX 1e019.XX 1e01b.EX
  1e022.XX 1e023.EX 1e025.XX 1e026.EX 1e02b.XX 1e08f.EX 1e090.XX 1e130.EX 1e137.XX 1e2ae.EX
  1e2af.XX 1e2ec.EX 1e2f0.XX 1e4ec.EX 1e4f0.XX 1e8d0.EX 1e8d7.XX 1e944.EX 1e94b.XX 1f1e6.RI
  1f200.XX 1f3fb.EX 1f400.XX e0000.CN e0020.EX e0080.CN e0100.EX e01f0.CN e1000.XX"

def kinds : Table Kind := .ofText .ofCode kindText

def kind (c : Char) : Kind :=
  let n := c.toNat
  if 0xAC00 <= n && n <= 0xD7A3 then
    if (n - 0xAC00) % 28 == 0 then .leadingVowel else .leadingVowelTrailing
  else (kinds.get? n).getD .other

def pictographic : Array (Nat × Nat) := (rangesOfText extendedPictographicText).toArray

def isPictographic (c : Char) : Bool := inRanges pictographic c.toNat

/-- The consonants of the scripts that write conjuncts. -/
def consonantText : String :=
  "915-939 958-95f 978-97f 995-9a8 9aa-9b0 9b2 9b6-9b9 9dc-9dd 9df 9f0-9f1 a95-aa8 aaa-ab0
  ab2-ab3 ab5-ab9 af9 b15-b28 b2a-b30 b32-b33 b35-b39 b5c-b5d b5f b71 c15-c28 c2a-c39 c58-c5a
  d15-d3a"

def consonants : Array (Nat × Nat) := (rangesOfText consonantText).toArray

def isConsonant (c : Char) : Bool := inRanges consonants c.toNat

/-- The signs that join consonants to a conjunct. -/
def isLinker (c : Char) : Bool :=
  [0x94D, 0x9CD, 0xACD, 0xB4D, 0xC4D, 0xD4D].contains c.toNat

/-- What matters of a cluster for its end. -/
structure Read where
  last : Kind
  /-- The cluster ends in an odd number of regional indicators. -/
  oddIndicators : Bool
  /-- It ends in a pictograph with extending characters. -/
  pictograph : Bool
  /-- It ends in such a pictograph and a joiner. -/
  joined : Bool
  /-- It ends in a consonant with extending characters. -/
  consonant : Bool
  /-- There is a linker among these. -/
  linked : Bool

def first (c : Char) : Read where
  last := kind c
  oddIndicators := kind c == .indicator
  pictograph := isPictographic c
  joined := false
  consonant := isConsonant c
  linked := false

/-- The cluster with one more character. -/
def extended (r : Read) (c : Char) : Read :=
  let k := kind c
  let adds := k == .extend || k == .joiner
  { last := k
    oddIndicators := k == .indicator && !r.oddIndicators
    pictograph := isPictographic c || (r.pictograph && k == .extend)
    joined := r.pictograph && k == .joiner
    consonant := isConsonant c || (r.consonant && adds && c.toNat != 0x200C)
    linked := !isConsonant c && r.consonant && (r.linked || isLinker c) }

def isHangul (a b : Kind) : Bool :=
  match a, b with
  | .leading, .leading => true
  | .leading, .vowel => true
  | .leading, .leadingVowel => true
  | .leading, .leadingVowelTrailing => true
  | .leadingVowel, .vowel => true
  | .leadingVowel, .trailing => true
  | .vowel, .vowel => true
  | .vowel, .trailing => true
  | .leadingVowelTrailing, .trailing => true
  | .trailing, .trailing => true
  | _, _ => false

def isBreaking : Kind -> Bool
  | .carriageReturn => true
  | .lineFeed => true
  | .control => true
  | _ => false

/-- The character belongs to the cluster read so far. -/
def continues (r : Read) (c : Char) : Bool :=
  let k := kind c
  if r.last == .carriageReturn && k == .lineFeed then true
  else if isBreaking r.last || isBreaking k then false
  else
    isHangul r.last k || k == .extend || k == .joiner || k == .spacingMark ||
      r.last == .prepend || (r.consonant && r.linked && isConsonant c) ||
      (r.joined && isPictographic c) || (r.oddIndicators && k == .indicator)

def segmentation : Segmentation Read where
  first := first
  next r c _ := if continues r c then some (extended r c) else none

end Grapheme
end Unicode
end Colloquy
