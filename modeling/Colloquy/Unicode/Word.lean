import Colloquy.Unicode.Grapheme

/-!
# Words

The bounds of words: letters and digits stay together, a single mark between two
letters or two digits does not end the word, and blanks form a segment of their own.
-/

namespace Colloquy
namespace Unicode

namespace Word

inductive Kind where
  | carriageReturn
  | lineFeed
  | newline
  | extend
  | format
  | joiner
  | indicator
  | katakana
  | hebrew
  | letter
  | singleQuote
  | doubleQuote
  | midBoth
  | midLetter
  | midDigit
  | digit
  | connector
  | blank
  | other
deriving DecidableEq, Repr

def Kind.ofCode : String -> Kind
  | "CR" => carriageReturn
  | "LF" => lineFeed
  | "NL" => newline
  | "Extend" => extend
  | "FO" => format
  | "ZWJ" => joiner
  | "RI" => indicator
  | "KA" => katakana
  | "HL" => hebrew
  | "LE" => letter
  | "SQ" => singleQuote
  | "DQ" => doubleQuote
  | "MB" => midBoth
  | "ML" => midLetter
  | "MN" => midDigit
  | "NU" => digit
  | "EX" => connector
  | "SP" => blank
  | _ => other

def kindText : String :=
  "0.XX a.LF b.NL d.CR e.XX 20.SP 21.XX 22.DQ 23.XX 27.SQ 28.XX 2c.MN 2d.XX 2e.MB 2f.XX 30.NU
  3a.ML 3b.MN 3c.XX 41.LE 5b.XX 5f.EX 60.XX 61.LE 7b.XX 85.NL 86.XX aa.LE ab.XX ad.FO ae.XX
  b5.LE b6.XX b7.ML b8.LE b9.XX ba.LE bb.XX c0.LE d7.XX d8.LE f7.XX f8.LE 2d8.XX 2de.LE
  300.Extend 370.LE 375.XX 376.LE 378.XX 37a.LE 37e.MN 37f.LE 380.XX 386.LE 387.ML 388.LE
  38b.XX 38c.LE 38d.XX 38e.LE 3a2.XX 3a3.LE 3f6.XX 3f7.LE 482.XX 483.Extend 48a.LE 530.XX
  531.LE 557.XX 559.LE 55d.XX 55e.LE 55f.ML 560.LE 589.MN 58a.LE 58b.XX 591.Extend 5be.XX
  5bf.Extend 5c0.XX 5c1.Extend 5c3.XX 5c4.Extend 5c6.XX 5c7.Extend 5c8.XX 5d0.HL 5eb.XX
  5ef.HL 5f3.LE 5f4.ML 5f5.XX 600.NU 606.XX 60c.MN 60e.XX 610.Extend 61b.XX 61c.FO 61d.XX
  620.LE 64b.Extend 660.NU 66a.XX 66b.NU 66c.MN 66d.XX 66e.LE 670.Extend 671.LE 6d4.XX 6d5.LE
  6d6.Extend 6dd.NU 6de.XX 6df.Extend 6e5.LE 6e7.Extend 6e9.XX 6ea.Extend 6ee.LE 6f0.NU
  6fa.LE 6fd.XX 6ff.LE 700.XX 70f.LE 711.Extend 712.LE 730.Extend 74b.XX 74d.LE 7a6.Extend
  7b1.LE 7b2.XX 7c0.NU 7ca.LE 7eb.Extend 7f4.LE 7f6.XX 7f8.MN 7f9.XX 7fa.LE 7fb.XX 7fd.Extend
  7fe.XX 800.LE 816.Extend 81a.LE 81b.Extend 824.LE 825.Extend 828.LE 829.Extend 82e.XX
  840.LE 859.Extend 85c.XX 860.LE 86b.XX 870.LE 888.XX 889.LE 88f.XX 890.NU 892.XX 898.Extend
  8a0.LE 8ca.Extend 8e2.NU 8e3.Extend 904.LE 93a.Extend 93d.LE 93e.Extend 950.LE 951.Extend
  958.LE 962.Extend 964.XX 966.NU 970.XX 971.LE 981.Extend 984.XX 985.LE 98d.XX 98f.LE 991.XX
  993.LE 9a9.XX 9aa.LE 9b1.XX 9b2.LE 9b3.XX 9b6.LE 9ba.XX 9bc.Extend 9bd.LE 9be.Extend 9c5.XX
  9c7.Extend 9c9.XX 9cb.Extend 9ce.LE 9cf.XX 9d7.Extend 9d8.XX 9dc.LE 9de.XX 9df.LE
  9e2.Extend 9e4.XX 9e6.NU 9f0.LE 9f2.XX 9fc.LE 9fd.XX 9fe.Extend 9ff.XX a01.Extend a04.XX
  a05.LE a0b.XX a0f.LE a11.XX a13.LE a29.XX a2a.LE a31.XX a32.LE a34.XX a35.LE a37.XX a38.LE
  a3a.XX a3c.Extend a3d.XX a3e.Extend a43.XX a47.Extend a49.XX a4b.Extend a4e.XX a51.Extend
  a52.XX a59.LE a5d.XX a5e.LE a5f.XX a66.NU a70.Extend a72.LE a75.Extend a76.XX a81.Extend
  a84.XX a85.LE a8e.XX a8f.LE a92.XX a93.LE aa9.XX aaa.LE ab1.XX ab2.LE ab4.XX ab5.LE aba.XX
  abc.Extend abd.LE abe.Extend ac6.XX ac7.Extend aca.XX acb.Extend ace.XX ad0.LE ad1.XX
  ae0.LE ae2.Extend ae4.XX ae6.NU af0.XX af9.LE afa.Extend b00.XX b01.Extend b04.XX b05.LE
  b0d.XX b0f.LE b11.XX b13.LE b29.XX b2a.LE b31.XX b32.LE b34.XX b35.LE b3a.XX b3c.Extend
  b3d.LE b3e.Extend b45.XX b47.Extend b49.XX b4b.Extend b4e.XX b55.Extend b58.XX b5c.LE
  b5e.XX b5f.LE b62.Extend b64.XX b66.NU b70.XX b71.LE b72.XX b82.Extend b83.LE b84.XX b85.LE
  b8b.XX b8e.LE b91.XX b92.LE b96.XX b99.LE b9b.XX b9c.LE b9d.XX b9e.LE ba0.XX ba3.LE ba5.XX
  ba8.LE bab.XX bae.LE bba.XX bbe.Extend bc3.XX bc6.Extend bc9.XX bca.Extend bce.XX bd0.LE
  bd1.XX bd7.Extend bd8.XX be6.NU bf0.XX c00.Extend c05.LE c0d.XX c0e.LE c11.XX c12.LE c29.XX
  c2a.LE c3a.XX c3c.Extend c3d.LE c3e.Extend c45.XX c46.Extend c49.XX c4a.Extend c4e.XX
  c55.Extend c57.XX c58.LE c5b.XX c5d.LE c5e.XX c60.LE c62.Extend c64.XX c66.NU c70.XX c80.LE
  c81.Extend c84.XX c85.LE c8d.XX c8e.LE c91.XX c92.LE ca9.XX caa.LE cb4.XX cb5.LE cba.XX
  cbc.Extend cbd.LE cbe.Extend cc5.XX cc6.Extend cc9.XX cca.Extend cce.XX cd5.Extend cd7.XX
  cdd.LE cdf.XX ce0.LE ce2.Extend ce4.XX ce6.NU cf0.XX cf1.LE cf3.Extend cf4.XX d00.Extend
  d04.LE d0d.XX d0e.LE d11.XX d12.LE d3b.Extend d3d.LE d3e.Extend d45.XX d46.Extend d49.XX
  d4a.Extend d4e.LE d4f.XX d54.LE d57.Extend d58.XX d5f.LE d62.Extend d64.XX d66.NU d70.XX
  d7a.LE d80.XX d81.Extend d84.XX d85.LE d97.XX d9a.LE db2.XX db3.LE dbc.XX dbd.LE dbe.XX
  dc0.LE dc7.XX dca.Extend dcb.XX dcf.Extend dd5.XX dd6.Extend dd7.XX dd8.Extend de0.XX
  de6.NU df0.XX df2.Extend df4.XX e31.Extend e32.XX e34.Extend e3b.XX e47.Extend e4f.XX
  e50.NU e5a.XX eb1.Extend eb2.XX eb4.Extend ebd.XX ec8.Extend ecf.XX ed0.NU eda.XX f00.LE
  f01.XX f18.Extend f1a.XX f20.NU f2a.XX f35.Extend f36.XX f37.Extend f38.XX f39.Extend
  f3a.XX f3e.Extend f40.LE f48.XX f49.LE f6d.XX f71.Extend f85.XX f86.Extend f88.LE
  f8d.Extend f98.XX f99.Extend fbd.XX fc6.Extend fc7.XX 102b.Extend 103f.XX 1040.NU 104a.XX
  1056.Extend 105a.XX 105e.Extend 1061.XX 1062.Extend 1065.XX 1067.Extend 106e.XX 1071.Extend
  1075.XX 1082.Extend 108e.XX 108f.Extend 1090.NU 109a.Extend 109e.XX 10a0.LE 10c6.XX 10c7.LE
  10c8.XX 10cd.LE 10ce.XX 10d0.LE 10fb.XX 10fc.LE 1249.XX 124a.LE 124e.XX 1250.LE 1257.XX
  1258.LE 1259.XX 125a.LE 125e.XX 1260.LE 1289.XX 128a.LE 128e.XX 1290.LE 12b1.XX 12b2.LE
  12b6.XX 12b8.LE 12bf.XX 12c0.LE 12c1.XX 12c2.LE 12c6.XX 12c8.LE 12d7.XX 12d8.LE 1311.XX
  1312.LE 1316.XX 1318.LE 135b.XX 135d.Extend 1360.XX 1380.LE 1390.XX 13a0.LE 13f6.XX 13f8.LE
  13fe.XX 1401.LE 166d.XX 166f.LE 1680.SP 1681.LE 169b.XX 16a0.LE 16eb.XX 16ee.LE 16f9.XX
  1700.LE 1712.Extend 1716.XX 171f.LE 1732.Extend 1735.XX 1740.LE 1752.Extend 1754.XX 1760.LE
  176d.XX 176e.LE 1771.XX 1772.Extend 1774.XX 17b4.Extend 17d4.XX 17dd.Extend 17de.XX 17e0.NU
  17ea.XX 180b.Extend 180e.FO 180f.Extend 1810.NU 181a.XX 1820.LE 1879.XX 1880.LE 1885.Extend
  1887.LE 18a9.Extend 18aa.LE 18ab.XX 18b0.LE 18f6.XX 1900.LE 191f.XX 1920.Extend 192c.XX
  1930.Extend 193c.XX 1946.NU 1950.XX 19d0.NU 19db.XX 1a00.LE 1a17.Extend 1a1c.XX 1a55.Extend
  1a5f.XX 1a60.Extend 1a7d.XX 1a7f.Extend 1a80.NU 1a8a.XX 1a90.NU 1a9a.XX 1ab0.Extend 1acf.XX
  1b00.Extend 1b05.LE 1b34.Extend 1b45.LE 1b4d.XX 1b50.NU 1b5a.XX 1b6b.Extend 1b74.XX
  1b80.Extend 1b83.LE 1ba1.Extend 1bae.LE 1bb0.NU 1bba.LE 1be6.Extend 1bf4.XX 1c00.LE
  1c24.Extend 1c38.XX 1c40.NU 1c4a.XX 1c4d.LE 1c50.NU 1c5a.LE 1c7e.XX 1c80.LE 1c89.XX 1c90.LE
  1cbb.XX 1cbd.LE 1cc0.XX 1cd0.Extend 1cd3.XX 1cd4.Extend 1ce9.LE 1ced.Extend 1cee.LE
  1cf4.Extend 1cf5.LE 1cf7.Extend 1cfa.LE 1cfb.XX 1d00.LE 1dc0.Extend 1e00.LE 1f16.XX 1f18.LE
  1f1e.XX 1f20.LE 1f46.XX 1f48.LE 1f4e.XX 1f50.LE 1f58.XX 1f59.LE 1f5a.XX 1f5b.LE 1f5c.XX
  1f5d.LE 1f5e.XX 1f5f.LE 1f7e.XX 1f80.LE 1fb5.XX 1fb6.LE 1fbd.XX 1fbe.LE 1fbf.XX 1fc2.LE
  1fc5.XX 1fc6.LE 1fcd.XX 1fd0.LE 1fd4.XX 1fd6.LE 1fdc.XX 1fe0.LE 1fed.XX 1ff2.LE 1ff5.XX
  1ff6.LE 1ffd.XX 2000.SP 2007.XX 2008.SP 200b.XX 200c.Extend 200d.ZWJ 200e.FO 2010.XX
  2018.MB 201a.XX 2024.MB 2025.XX 2027.ML 2028.NL 202a.FO 202f.EX 2030.XX 203f.EX 2041.XX
  2044.MN 2045.XX 2054.EX 2055.XX 205f.SP 2060.FO 2065.XX 2066.FO 2070.XX 2071.LE 2072.XX
  207f.LE 2080.XX 2090.LE 209d.XX 20d0.Extend 20f1.XX 2102.LE 2103.XX 2107.LE 2108.XX 210a.LE
  2114.XX 2115.LE 2116.XX 2119.LE 211e.XX 2124.LE 2125.XX 2126.LE 2127.XX 2128.LE 2129.XX
  212a.LE 212e.XX 212f.LE 213a.XX 213c.LE 2140.XX 2145.LE 214a.XX 214e.LE 214f.XX 2160.LE
  2189.XX 24b6.LE 24ea.XX 2c00.LE 2ce5.XX 2ceb.LE 2cef.Extend 2cf2.LE 2cf4.XX 2d00.LE 2d26.XX
  2d27.LE 2d28.XX 2d2d.LE 2d2e.XX 2d30.LE 2d68.XX 2d6f.LE 2d70.XX 2d7f.Extend 2d80.LE 2d97.XX
  2da0.LE 2da7.XX 2da8.LE 2daf.XX 2db0.LE 2db7.XX 2db8.LE 2dbf.XX 2dc0.LE 2dc7.XX 2dc8.LE
  2dcf.XX 2dd0.LE 2dd7.XX 2dd8.LE 2ddf.XX 2de0.Extend 2e00.XX 2e2f.LE 2e30.XX 3000.SP 3001.XX
  3005.LE 3006.XX 302a.Extend 3030.XX 3031.KA 3036.XX 303b.LE 303d.XX 3099.Extend 309b.KA
  309d.XX 30a0.KA 30fb.XX 30fc.KA 3100.XX 3105.LE 3130.XX 3131.LE 318f.XX 31a0.LE 31c0.XX
  31f0.KA 3200.XX 32d0.KA 32ff.XX 3300.KA 3358.XX a000.LE a48d.XX a4d0.LE a4fe.XX a500.LE
  a60d.XX a610.LE a620.NU a62a.LE a62c.XX a640.LE a66f.Extend a673.XX a674.Extend a67e.XX
  a67f.LE a69e.Extend a6a0.LE a6f0.Extend a6f2.XX a708.LE a7cb.XX a7d0.LE a7d2.XX a7d3.LE
  a7d4.XX a7d5.LE a7da.XX a7f2.LE a802.Extend a803.LE a806.Extend a807.LE a80b.Extend a80c.LE
  a823.Extend a828.XX a82c.Extend a82d.XX a840.LE a874.XX a880.Extend a882.LE a8b4.Extend
  a8c6.XX a8d0.NU a8da.XX a8e0.Extend a8f2.LE a8f8.XX a8fb.LE a8fc.XX a8fd.LE a8ff.Extend
  a900.NU a90a.LE a926.Extend a92e.XX a930.LE a947.Extend a954.XX a960.LE a97d.XX a980.Extend
  a984.LE a9b3.Extend a9c1.XX a9cf.LE a9d0.NU a9da.XX a9e5.Extend a9e6.XX a9f0.NU a9fa.XX
  aa00.LE aa29.Extend aa37.XX aa40.LE aa43.Extend aa44.LE aa4c.Extend aa4e.XX aa50.NU aa5a.XX
  aa7b.Extend aa7e.XX aab0.Extend aab1.XX aab2.Extend aab5.XX aab7.Extend aab9.XX aabe.Extend
  aac0.XX aac1.Extend aac2.XX aae0.LE aaeb.Extend aaf0.XX aaf2.LE aaf5.Extend aaf7.XX ab01.LE
  ab07.XX ab09.LE ab0f.XX ab11.LE ab17.XX ab20.LE ab27.XX ab28.LE ab2f.XX ab30.LE ab6a.XX
  ab70.LE abe3.Extend abeb.XX abec.Extend abee.XX abf0.NU abfa.XX ac00.LE d7a4.XX d7b0.LE
  d7c7.XX d7cb.LE d7fc.XX fb00.LE fb07.XX fb13.LE fb18.XX fb1d.HL fb1e.Extend fb1f.HL fb29.XX
  fb2a.HL fb37.XX fb38.HL fb3d.XX fb3e.HL fb3f.XX fb40.HL fb42.XX fb43.HL fb45.XX fb46.HL
  fb50.LE fbb2.XX fbd3.LE fd3e.XX fd50.LE fd90.XX fd92.LE fdc8.XX fdf0.LE fdfc.XX fe00.Extend
  fe10.MN fe11.XX fe13.ML fe14.MN fe15.XX fe20.Extend fe30.XX fe33.EX fe35.XX fe4d.EX fe50.MN
  fe51.XX fe52.MB fe53.XX fe54.MN fe55.ML fe56.XX fe70.LE fe75.XX fe76.LE fefd.XX feff.FO
  ff00.XX ff07.MB ff08.XX ff0c.MN ff0d.XX ff0e.MB ff0f.XX ff10.NU ff1a.ML ff1b.MN ff1c.XX
  ff21.LE ff3b.XX ff3f.EX ff40.XX ff41.LE ff5b.XX ff66.KA ff9e.Extend ffa0.LE ffbf.XX ffc2.LE
  ffc8.XX ffca.LE ffd0.XX ffd2.LE ffd8.XX ffda.LE ffdd.XX fff9.FO fffc.XX 10000.LE 1000c.XX
  1000d.LE 10027.XX 10028.LE 1003b.XX 1003c.LE 1003e.XX 1003f.LE 1004e.XX 10050.LE 1005e.XX
  10080.LE 100fb.XX 10140.LE 10175.XX 101fd.Extend 101fe.XX 10280.LE 1029d.XX 102a0.LE
  102d1.XX 102e0.Extend 102e1.XX 10300.LE 10320.XX 1032d.LE 1034b.XX 10350.LE 10376.Extend
  1037b.XX 10380.LE 1039e.XX 103a0.LE 103c4.XX 103c8.LE 103d0.XX 103d1.LE 103d6.XX 10400.LE
  1049e.XX 104a0.NU 104aa.XX 104b0.LE 104d4.XX 104d8.LE 104fc.XX 10500.LE 10528.XX 10530.LE
  10564.XX 10570.LE 1057b.XX 1057c.LE 1058b.XX 1058c.LE 10593.XX 10594.LE 10596.XX 10597.LE
  105a2.XX 105a3.LE 105b2.XX 105b3.LE 105ba.XX 105bb.LE 105bd.XX 10600.LE 10737.XX 10740.LE
  10756.XX 10760.LE 10768.XX 10780.LE 10786.XX 10787.LE 107b1.XX 107b2.LE 107bb.XX 10800.LE
  10806.XX 10808.LE 10809.XX 1080a.LE 10836.XX 10837.LE 10839.XX 1083c.LE 1083d.XX 1083f.LE
  10856.XX 10860.LE 10877.XX 10880.LE 1089f.XX 108e0.LE 108f3.XX 108f4.LE 108f6.XX 10900.LE
  10916.XX 10920.LE 1093a.XX 10980.LE 109b8.XX 109be.LE 109c0.XX 10a00.LE 10a01.Extend
  10a04.XX 10a05.Extend 10a07.XX 10a0c.Extend 10a10.LE 10a14.XX 10a15.LE 10a18.XX 10a19.LE
  10a36.XX 10a38.Extend 10a3b.XX 10a3f.Extend 10a40.XX 10a60.LE 10a7d.XX 10a80.LE 10a9d.XX
  10ac0.LE 10ac8.XX 10ac9.LE 10ae5.Extend 10ae7.XX 10b00.LE 10b36.XX 10b40.LE 10b56.XX
  10b60.LE 10b73.XX 10b80.LE 10b92.XX 10c00.LE 10c49.XX 10c80.LE 10cb3.XX 10cc0.LE 10cf3.XX
  10d00.LE 10d24.Extend 10d28.XX 10d30.NU 10d3a.XX 10e80.LE 10eaa.XX 10eab.Extend 10ead.XX
  10eb0.LE 10eb2.XX 10efd.Extend 10f00.LE 10f1d.XX 10f27.LE 10f28.XX 10f30.LE 10f46.Extend
  10f51.XX 10f70.LE 10f82.Extend 10f86.XX 10fb0.LE 10fc5.XX 10fe0.LE 10ff7.XX 11000.Extend
  11003.LE 11038.Extend 11047.XX 11066.NU 11070.Extend 11071.LE 11073.Extend 11075.LE
  11076.XX 1107f.Extend 11083.LE 110b0.Extend 110bb.XX 110bd.NU 110be.XX 110c2.Extend
  110c3.XX 110cd.NU 110ce.XX 110d0.LE 110e9.XX 110f0.NU 110fa.XX 11100.Extend 11103.LE
  11127.Extend 11135.XX 11136.NU 11140.XX 11144.LE 11145.Extend 11147.LE 11148.XX 11150.LE
  11173.Extend 11174.XX 11176.LE 11177.XX 11180.Extend 11183.LE 111b3.Extend 111c1.LE
  111c5.XX 111c9.Extend 111cd.XX 111ce.Extend 111d0.NU 111da.LE 111db.XX 111dc.LE 111dd.XX
  11200.LE 11212.XX 11213.LE 1122c.Extend 11238.XX 1123e.Extend 1123f.LE 11241.Extend
  11242.XX 11280.LE 11287.XX 11288.LE 11289.XX 1128a.LE 1128e.XX 1128f.LE 1129e.XX 1129f.LE
  112a9.XX 112b0.LE 112df.Extend 112eb.XX 112f0.NU 112fa.XX 11300.Extend 11304.XX 11305.LE
  1130d.XX 1130f.LE 11311.XX 11313.LE 11329.XX 1132a.LE 11331.XX 11332.LE 11334.XX 11335.LE
  1133a.XX 1133b.Extend 1133d.LE 1133e.Extend 11345.XX 11347.Extend 11349.XX 1134b.Extend
  1134e.XX 11350.LE 11351.XX 11357.Extend 11358.XX 1135d.LE 11362.Extend 11364.XX
  11366.Extend 1136d.XX 11370.Extend 11375.XX 11400.LE 11435.Extend 11447.LE 1144b.XX
  11450.NU 1145a.XX 1145e.Extend 1145f.LE 11462.XX 11480.LE 114b0.Extend 114c4.LE 114c6.XX
  114c7.LE 114c8.XX 114d0.NU 114da.XX 11580.LE 115af.Extend 115b6.XX 115b8.Extend 115c1.XX
  115d8.LE 115dc.Extend 115de.XX 11600.LE 11630.Extend 11641.XX 11644.LE 11645.XX 11650.NU
  1165a.XX 11680.LE 116ab.Extend 116b8.LE 116b9.XX 116c0.NU 116ca.XX 1171d.Extend 1172c.XX
  11730.NU 1173a.XX 11800.LE 1182c.Extend 1183b.XX 118a0.LE 118e0.NU 118ea.XX 118ff.LE
  11907.XX 11909.LE 1190a.XX 1190c.LE 11914.XX 11915.LE 11917.XX 11918.LE 11930.Extend
  11936.XX 11937.Extend 11939.XX 1193b.Extend 1193f.LE 11940.Extend 11941.LE 11942.Extend
  11944.XX 11950.NU 1195a.XX 119a0.LE 119a8.XX 119aa.LE 119d1.Extend 119d8.XX 119da.Extend
  119e1.LE 119e2.XX 119e3.LE 119e4.Extend 119e5.XX 11a00.LE 11a01.Extend 11a0b.LE
  11a33.Extend 11a3a.LE 11a3b.Extend 11a3f.XX 11a47.Extend 11a48.XX 11a50.LE 11a51.Extend
  11a5c.LE 11a8a.Extend 11a9a.XX 11a9d.LE 11a9e.XX 11ab0.LE 11af9.XX 11c00.LE 11c09.XX
  11c0a.LE 11c2f.Extend 11c37.XX 11c38.Extend 11c40.LE 11c41.XX 11c50.NU 11c5a.XX 11c72.LE
  11c90.XX 11c92.Extend 11ca8.XX 11ca9.Extend 11cb7.XX 11d00.LE 11d07.XX 11d08.LE 11d0a.XX
  11d0b.LE 11d31.Extend 11d37.XX 11d3a.Extend 11d3b.XX 11d3c.Extend 11d3e.XX 11d3f.Extend
  11d46.LE 11d47.Extend 11d48.XX 11d50.NU 11d5a.XX 11d60.LE 11d66.XX 11d67.LE 11d69.XX
  11d6a.LE 11d8a.Extend 11d8f.XX 11d90.Extend 11d92.XX 11d93.Extend 11d98.LE 11d99.XX
  11da0.NU 11daa.XX 11ee0.LE 11ef3.Extend 11ef7.XX 11f00.Extend 11f02.LE 11f03.Extend
  11f04.LE 11f11.XX 11f12.LE 11f34.Extend 11f3b.XX 11f3e.Extend 11f43.XX 11f50.NU 11f5a.XX
  11fb0.LE 11fb1.XX 12000.LE 1239a.XX 12400.LE 1246f.XX 12480.LE 12544.XX 12f90.LE 12ff1.XX
  13000.LE 13430.FO 13440.Extend 13441.LE 13447.Extend 13456.XX 14400.LE 14647.XX 16800.LE
  16a39.XX 16a40.LE 16a5f.XX 16a60.NU 16a6a.XX 16a70.LE 16abf.XX 16ac0.NU 16aca.XX 16ad0.LE
  16aee.XX 16af0.Extend 16af5.XX 16b00.LE 16b30.Extend 16b37.XX 16b40.LE 16b44.XX 16b50.NU
  16b5a.XX 16b63.LE 16b78.XX 16b7d.LE 16b90.XX 16e40.LE 16e80.XX 16f00.LE 16f4b.XX
  16f4f.Extend 16f50.LE 16f51.Extend 16f88.XX 16f8f.Extend 16f93.LE 16fa0.XX 16fe0.LE
  16fe2.XX 16fe3.LE 16fe4.Extend 16fe5.XX 16ff0.Extend 16ff2.XX 1aff0.KA 1aff4.XX 1aff5.KA
  1affc.XX 1affd.KA 1afff.XX 1b000.KA 1b001.XX 1b120.KA 1b123.XX 1b155.KA 1b156.XX 1b164.KA
  1b168.XX 1bc00.LE 1bc6b.XX 1bc70.LE 1bc7d.XX 1bc80.LE 1bc89.XX 1bc90.LE 1bc9a.XX
  1bc9d.Extend 1bc9f.XX 1bca0.FO 1bca4.XX 1cf00.Extend 1cf2e.XX 1cf30.Extend 1cf47.XX
  1d165.Extend 1d16a.XX 1d16d.Extend 1d173.FO 1d17b.Extend 1d183.XX 1d185.Extend 1d18c.XX
  1d1aa.Extend 1d1ae.XX 1d242.Extend 1d245.XX 1d400.LE 1d455.XX 1d456.LE 1d49d.XX 1d49e.LE
  1d4a0.XX 1d4a2.LE 1d4a3.XX 1d4a5.LE 1d4a7.XX 1d4a9.LE 1d4ad.XX 1d4ae.LE 1d4ba.XX 1d4bb.LE
  1d4bc.XX 1d4bd.LE 1d4c4.XX 1d4c5.LE 1d506.XX 1d507.LE 1d50b.XX 1d50d.LE 1d515.XX 1d516.LE
  1d51d.XX 1d51e.LE 1d53a.XX 1d53b.LE 1d53f.XX 1d540.LE 1d545.XX 1d546.LE 1d547.XX 1d54a.LE
  1d551.XX 1d552.LE 1d6a6.XX 1d6a8.LE 1d6c1.XX 1d6c2.LE 1d6db.XX 1d6dc.LE 1d6fb.XX 1d6fc.LE
  1d715.XX 1d716.LE 1d735.XX 1d736.LE 1d74f.XX 1d750.LE 1d76f.XX 1d770.LE 1d789.XX 1d78a.LE
  1d7a9.XX 1d7aa.LE 1d7c3.XX 1d7c4.LE 1d7cc.XX 1d7ce.NU 1d800.XX 1da00.Extend 1da37.XX
  1da3b.Extend 1da6d.XX 1da75.Extend 1da76.XX 1da84.Extend 1da85.XX 1da9b.Extend 1daa0.XX
  1daa1.Extend 1dab0.XX 1df00.LE 1df1f.XX 1df25.LE 1df2b.XX 1e000.Extend 1e007.XX
  1e008.Extend 1e019.XX 1e01b.Extend 1e022.XX 1e023.Extend 1e025.XX 1e026.Extend 1e02b.XX
  1e030.LE 1e06e.XX 1e08f.Extend 1e090.XX 1e100.LE 1e12d.XX 1e130.Extend 1e137.LE 1e13e.XX
  1e140.NU 1e14a.XX 1e14e.LE 1e14f.XX 1e290.LE 1e2ae.Extend 1e2af.XX 1e2c0.LE 1e2ec.Extend
  1e2f0.NU 1e2fa.XX 1e4d0.LE 1e4ec.Extend 1e4f0.NU 1e4fa.XX 1e7e0.LE 1e7e7.XX 1e7e8.LE
  1e7ec.XX 1e7ed.LE 1e7ef.XX 1e7f0.LE 1e7ff.XX 1e800.LE 1e8c5.XX 1e8d0.Extend 1e8d7.XX
  1e900.LE 1e944.Extend 1e94b.LE 1e94c.XX 1e950.NU 1e95a.XX 1ee00.LE 1ee04.XX 1ee05.LE
  1ee20.XX 1ee21.LE 1ee23.XX 1ee24.LE 1ee25.XX 1ee27.LE 1ee28.XX 1ee29.LE 1ee33.XX 1ee34.LE
  1ee38.XX 1ee39.LE 1ee3a.XX 1ee3b.LE 1ee3c.XX 1ee42.LE 1ee43.XX 1ee47.LE 1ee48.XX 1ee49.LE
  1ee4a.XX 1ee4b.LE 1ee4c.XX 1ee4d.LE 1ee50.XX 1ee51.LE 1ee53.XX 1ee54.LE 1ee55.XX 1ee57.LE
  1ee58.XX 1ee59.LE 1ee5a.XX 1ee5b.LE 1ee5c.XX 1ee5d.LE 1ee5e.XX 1ee5f.LE 1ee60.XX 1ee61.LE
  1ee63.XX 1ee64.LE 1ee65.XX 1ee67.LE 1ee6b.XX 1ee6c.LE 1ee73.XX 1ee74.LE 1ee78.XX 1ee79.LE
  1ee7d.XX 1ee7e.LE 1ee7f.XX 1ee80.LE 1ee8a.XX 1ee8b.LE 1ee9c.XX 1eea1.LE 1eea4.XX 1eea5.LE
  1eeaa.XX 1eeab.LE 1eebc.XX 1f130.LE 1f14a.XX 1f150.LE 1f16a.XX 1f170.LE 1f18a.XX 1f1e6.RI
  1f200.XX 1f3fb.Extend 1f400.XX 1fbf0.NU 1fbfa.XX e0001.FO e0002.XX e0020.Extend e0080.XX
  e0100.Extend e01f0.XX"

def kinds : Table Kind := .ofText .ofCode kindText

def kind (c : Char) : Kind := (kinds.get? c.toNat).getD .other

namespace Kind

def isLineEnd : Kind -> Bool
  | carriageReturn => true
  | lineFeed => true
  | newline => true
  | _ => false

/-- Characters that only add to the one before them. -/
def isIgnored : Kind -> Bool
  | extend => true
  | format => true
  | joiner => true
  | _ => false

def isLetter (k : Kind) : Bool := k == letter || k == hebrew

def isLetterMark (k : Kind) : Bool := k == midLetter || k == midBoth || k == singleQuote

def isDigitMark (k : Kind) : Bool := k == midDigit || k == midBoth || k == singleQuote

end Kind

/-- What matters of a word for its end. -/
structure Read where
  /-- The kind of the last character. -/
  raw : Kind
  /-- The kind of the last character that is not ignored. -/
  last : Kind
  /-- The kind of such a character before that one. -/
  before : Kind
  oddIndicators : Bool

def first (c : Char) : Read where
  raw := kind c
  last := kind c
  before := .other
  oddIndicators := kind c == .indicator

def extended (r : Read) (k : Kind) : Read :=
  if k.isIgnored && !r.raw.isLineEnd then { r with raw := k }
  else
    { raw := k
      last := k
      before := r.last
      oddIndicators := k == .indicator && !r.oddIndicators }

/-- The kind of the next character that is not ignored. -/
def ahead (cs : List Char) : Kind :=
  match cs with
  | [] => .other
  | c :: rest => if (kind c).isIgnored then ahead rest else kind c

/-- The words that two characters of these kinds stay together in. -/
def joins (r : Read) (k : Kind) (rest : List Char) : Bool :=
  let last := r.last
  (last.isLetter && k.isLetter) ||
    (last.isLetter && k.isLetterMark && (ahead rest).isLetter) ||
    (r.before.isLetter && last.isLetterMark && k.isLetter) ||
    (last == .hebrew && k == .singleQuote) ||
    (last == .hebrew && k == .doubleQuote && ahead rest == .hebrew) ||
    (r.before == .hebrew && last == .doubleQuote && k == .hebrew) ||
    (last == .digit && k == .digit) ||
    (last.isLetter && k == .digit) ||
    (last == .digit && k.isLetter) ||
    (r.before == .digit && last.isDigitMark && k == .digit) ||
    (last == .digit && k.isDigitMark && ahead rest == .digit) ||
    (last == .katakana && k == .katakana) ||
    ((last.isLetter || last == .digit || last == .katakana || last == .connector) &&
      k == .connector) ||
    (last == .connector && (k.isLetter || k == .digit || k == .katakana)) ||
    (r.oddIndicators && k == .indicator)

def continues (r : Read) (c : Char) (rest : List Char) : Bool :=
  let k := kind c
  if r.raw == .carriageReturn && k == .lineFeed then true
  else if r.raw.isLineEnd || k.isLineEnd then false
  else if r.raw == .joiner && Grapheme.isPictographic c then true
  else if r.raw == .blank && k == .blank then true
  else if k.isIgnored then true
  else joins r k rest

def segmentation : Segmentation Read where
  first := first
  next r c rest := if continues r c rest then some (extended r (kind c)) else none

end Word
end Unicode
end Colloquy
