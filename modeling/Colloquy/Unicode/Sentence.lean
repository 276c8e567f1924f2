import Colloquy.Unicode.Category
import Colloquy.Unicode.Property
import Colloquy.Unicode.Segment

/-!
# Sentences

A sentence ends after a terminator with the closing marks and blanks that follow it.
After a full stop it goes on when a small letter follows, or a digit at once.
-/

namespace Colloquy
namespace Unicode

namespace Sentence

inductive Kind where
  | carriageReturn
  | lineFeed
  | separator
  | extend
  | format
  | blank
  | lower
  | upper
  | letter
  | digit
  | fullStop
  | terminator
  | continuation
  | closing
  | other
deriving DecidableEq, Repr

def Kind.ofCode : String -> Kind
  | "CR" => carriageReturn
  | "LF" => lineFeed
  | "SE" => separator
  | "EX" => extend
  | "FO" => format
  | "SP" => blank
  | "LE" => letter
  | "NU" => digit
  | "AT" => fullStop
  | "ST" => terminator
  | "SC" => continuation
  | "CL" => closing
  | _ => other

/-- The kinds of all characters; the letters are not told apart by case. -/
def kindText : String :=
  "0.XX 9.SP a.LF b.SP d.CR e.XX 20.SP 21.ST 22.CL 23.XX 27.CL 2a.XX 2c.SC 2e.AT 2f.XX 30.NU
  3a.SC 3c.XX 3f.ST 40.XX 41.LE 5b.CL 5c.XX 5d.CL 5e.XX 61.LE 7b.CL 7c.XX 7d.CL 7e.XX 85.SE
  86.XX a0.SP a1.XX aa.LE ab.CL ac.XX ad.FO ae.XX b5.LE b6.XX ba.LE bb.CL bc.XX c0.LE d7.XX
  d8.LE f7.XX f8.LE 2c2.XX 2c6.LE 2d2.XX 2e0.LE 2e5.XX 2ec.LE 2ed.XX 2ee.LE 2ef.XX 300.EX
  370.LE 375.XX 376.LE 378.XX 37a.LE 37e.SC 37f.LE 380.XX 386.LE 387.XX 388.LE 38b.XX 38c.LE
  38d.XX 38e.LE 3a2.XX 3a3.LE 3f6.XX 3f7.LE 482.XX 483.EX 48a.LE 530.XX 531.LE 557.XX 559.LE
  55a.XX 55d.SC 55e.XX 560.LE 589.ST 58a.XX 591.EX 5be.XX 5bf.EX 5c0.XX 5c1.EX 5c3.XX 5c4.EX
  5c6.XX 5c7.EX 5c8.XX 5d0.LE 5eb.XX 5ef.LE 5f4.XX 600.NU 606.XX 60c.SC 60e.XX 610.EX 61b.XX
  61c.FO 61d.ST 620.LE 64b.EX 660.NU 66a.XX 66b.NU 66d.XX 66e.LE 670.EX 671.LE 6d4.ST 6d5.LE
  6d6.EX 6dd.NU 6de.XX 6df.EX 6e5.LE 6e7.EX 6e9.XX 6ea.EX 6ee.LE 6f0.NU 6fa.LE 6fd.XX 6ff.LE
  700.ST 703.XX 70f.FO 710.LE 711.EX 712.LE 730.EX 74b.XX 74d.LE 7a6.EX 7b1.LE 7b2.XX 7c0.NU
  7ca.LE 7eb.EX 7f4.LE 7f6.XX 7f8.SC 7f9.ST 7fa.LE 7fb.XX 7fd.EX 7fe.XX 800.LE 816.EX 81a.LE
  81b.EX 824.LE 825.EX 828.LE 829.EX 82e.XX 837.ST 838.XX 839.ST 83a.XX 83d.ST 83f.XX 840.LE
  859.EX 85c.XX 860.LE 86b.XX 870.LE 888.XX 889.LE 88f.XX 890.NU 892.XX 898.EX 8a0.LE 8ca.EX
  8e2.NU 8e3.EX 904.LE 93a.EX 93d.LE 93e.EX 950.LE 951.EX 958.LE 962.EX 964.ST 966.NU 970.XX
  971.LE 981.EX 984.XX 985.LE 98d.XX 98f.LE 991.XX 993.LE 9a9.XX 9aa.LE 9b1.XX 9b2.LE 9b3.XX
  9b6.LE 9ba.XX 9bc.EX 9bd.LE 9be.EX 9c5.XX 9c7.EX 9c9.XX 9cb.EX 9ce.LE 9cf.XX 9d7.EX 9d8.XX
  9dc.LE 9de.XX 9df.LE 9e2.EX 9e4.XX 9e6.NU 9f0.LE 9f2.XX 9fc.LE 9fd.XX 9fe.EX 9ff.XX a01.EX
  a04.XX a05.LE a0b.XX a0f.LE a11.XX a13.LE a29.XX a2a.LE a31.XX a32.LE a34.XX a35.LE a37.XX
  a38.LE a3a.XX a3c.EX a3d.XX a3e.EX a43.XX a47.EX a49.XX a4b.EX a4e.XX a51.EX a52.XX a59.LE
  a5d.XX a5e.LE a5f.XX a66.NU a70.EX a72.LE a75.EX a76.XX a81.EX a84.XX a85.LE a8e.XX a8f.LE
  a92.XX a93.LE aa9.XX aaa.LE ab1.XX ab2.LE ab4.XX ab5.LE aba.XX abc.EX abd.LE abe.EX ac6.XX
  ac7.EX aca.XX acb.EX ace.XX ad0.LE ad1.XX ae0.LE ae2.EX ae4.XX ae6.NU af0.XX af9.LE afa.EX
  b00.XX b01.EX b04.XX b05.LE b0d.XX b0f.LE b11.XX b13.LE b29.XX b2a.LE b31.XX b32.LE b34.XX
  b35.LE b3a.XX b3c.EX b3d.LE b3e.EX b45.XX b47.EX b49.XX b4b.EX b4e.XX b55.EX b58.XX b5c.LE
  b5e.XX b5f.LE b62.EX b64.XX b66.NU b70.XX b71.LE b72.XX b82.EX b83.LE b84.XX b85.LE b8b.XX
  b8e.LE b91.XX b92.LE b96.XX b99.LE b9b.XX b9c.LE b9d.XX b9e.LE ba0.XX ba3.LE ba5.XX ba8.LE
  bab.XX bae.LE bba.XX bbe.EX bc3.XX bc6.EX bc9.XX bca.EX bce.XX bd0.LE bd1.XX bd7.EX bd8.XX
  be6.NU bf0.XX c00.EX c05.LE c0d.XX c0e.LE c11.XX c12.LE c29.XX c2a.LE c3a.XX c3c.EX c3d.LE
  c3e.EX c45.XX c46.EX c49.XX c4a.EX c4e.XX c55.EX c57.XX c58.LE c5b.XX c5d.LE c5e.XX c60.LE
  c62.EX c64.XX c66.NU c70.XX c80.LE c81.EX c84.XX c85.LE c8d.XX c8e.LE c91.XX c92.LE ca9.XX
  caa.LE cb4.XX cb5.LE cba.XX cbc.EX cbd.LE cbe.EX cc5.XX cc6.EX cc9.XX cca.EX cce.XX cd5.EX
  cd7.XX cdd.LE cdf.XX ce0.LE ce2.EX ce4.XX ce6.NU cf0.XX cf1.LE cf3.EX cf4.XX d00.EX d04.LE
  d0d.XX d0e.LE d11.XX d12.LE d3b.EX d3d.LE d3e.EX d45.XX d46.EX d49.XX d4a.EX d4e.LE d4f.XX
  d54.LE d57.EX d58.XX d5f.LE d62.EX d64.XX d66.NU d70.XX d7a.LE d80.XX d81.EX d84.XX d85.LE
  d97.XX d9a.LE db2.XX db3.LE dbc.XX dbd.LE dbe.XX dc0.LE dc7.XX dca.EX dcb.XX dcf.EX dd5.XX
  dd6.EX dd7.XX dd8.EX de0.XX de6.NU df0.XX df2.EX df4.XX e01.LE e31.EX e32.LE e34.EX e3b.XX
  e40.LE e47.EX e4f.XX e50.NU e5a.XX e81.LE e83.XX e84.LE e85.XX e86.LE e8b.XX e8c.LE ea4.XX
  ea5.LE ea6.XX ea7.LE eb1.EX eb2.LE eb4.EX ebd.LE ebe.XX ec0.LE ec5.XX ec6.LE ec7.XX ec8.EX
  ecf.XX ed0.NU eda.XX edc.LE ee0.XX f00.LE f01.XX f18.EX f1a.XX f20.NU f2a.XX f35.EX f36.XX
  f37.EX f38.XX f39.EX f3a.CL f3e.EX f40.LE f48.XX f49.LE f6d.XX f71.EX f85.XX f86.EX f88.LE
  f8d.EX f98.XX f99.EX fbd.XX fc6.EX fc7.XX 1000.LE 102b.EX 103f.LE 1040.NU 104a.ST 104c.XX
  1050.LE 1056.EX 105a.LE 105e.EX 1061.LE 1062.EX 1065.LE 1067.EX 106e.LE 1071.EX 1075.LE
  1082.EX 108e.LE 108f.EX 1090.NU 109a.EX 109e.XX 10a0.LE 10c6.XX 10c7.LE 10c8.XX 10cd.LE
  10ce.XX 10d0.LE 10fb.XX 10fc.LE 1249.XX 124a.LE 124e.XX 1250.LE 1257.XX 1258.LE 1259.XX
  125a.LE 125e.XX 1260.LE 1289.XX 128a.LE 128e.XX 1290.LE 12b1.XX 12b2.LE 12b6.XX 12b8.LE
  12bf.XX 12c0.LE 12c1.XX 12c2.LE 12c6.XX 12c8.LE 12d7.XX 12d8.LE 1311.XX 1312.LE 1316.XX
  1318.LE 135b.XX 135d.EX 1360.XX 1362.ST 1363.XX 1367.ST 1369.XX 1380.LE 1390.XX 13a0.LE
  13f6.XX 13f8.LE 13fe.XX 1401.LE 166d.XX 166e.ST 166f.LE 1680.SP 1681.LE 169b.CL 169d.XX
  16a0.LE 16eb.XX 16ee.LE 16f9.XX 1700.LE 1712.EX 1716.XX 171f.LE 1732.EX 1735.ST 1737.XX
  1740.LE 1752.EX 1754.XX 1760.LE 176d.XX 176e.LE 1771.XX 1772.EX 1774.XX 1780.LE 17b4.EX
  17d4.ST 17d6.XX 17d7.LE 17d8.XX 17dc.LE 17dd.EX 17de.XX 17e0.NU 17ea.XX 1802.SC 1803.ST
  1804.XX 1808.SC 1809.ST 180a.XX 180b.EX 180e.FO 180f.EX 1810.NU 181a.XX 1820.LE 1879.XX
  1880.LE 1885.EX 1887.LE 18a9.EX 18aa.LE 18ab.XX 18b0.LE 18f6.XX 1900.LE 191f.XX 1920.EX
  192c.XX 1930.EX 193c.XX 1944.ST 1946.NU 1950.LE 196e.XX 1970.LE 1975.XX 1980.LE 19ac.XX
  19b0.LE 19ca.XX 19d0.NU 19da.XX 1a00.LE 1a17.EX 1a1c.XX 1a20.LE 1a55.EX 1a5f.XX 1a60.EX
  1a7d.XX 1a7f.EX 1a80.NU 1a8a.XX 1a90.NU 1a9a.XX 1aa7.LE 1aa8.ST 1aac.XX 1ab0.EX 1acf.XX
  1b00.EX 1b05.LE 1b34.EX 1b45.LE 1b4d.XX 1b50.NU 1b5a.ST 1b5c.XX 1b5e.ST 1b60.XX 1b6b.EX
  1b74.XX 1b7d.ST 1b7f.XX 1b80.EX 1b83.LE 1ba1.EX 1bae.LE 1bb0.NU 1bba.LE 1be6.EX 1bf4.XX
  1c00.LE 1c24.EX 1c38.XX 1c3b.ST 1c3d.XX 1c40.NU 1c4a.XX 1c4d.LE 1c50.NU 1c5a.LE 1c7e.ST
  1c80.LE 1c89.XX 1c90.LE 1cbb.XX 1cbd.LE 1cc0.XX 1cd0.EX 1cd3.XX 1cd4.EX 1ce9.LE 1ced.EX
  1cee.LE 1cf4.EX 1cf5.LE 1cf7.EX 1cfa.LE 1cfb.XX 1d00.LE 1dc0.EX 1e00.LE 1f16.XX 1f18.LE
  1f1e.XX 1f20.LE 1f46.XX 1f48.LE 1f4e.XX 1f50.LE 1f58.XX 1f59.LE 1f5a.XX 1f5b.LE 1f5c.XX
  1f5d.LE 1f5e.XX 1f5f.LE 1f7e.XX 1f80.LE 1fb5.XX 1fb6.LE 1fbd.XX 1fbe.LE 1fbf.XX 1fc2.LE
  1fc5.XX 1fc6.LE 1fcd.XX 1fd0.LE 1fd4.XX 1fd6.LE 1fdc.XX 1fe0.LE 1fed.XX 1ff2.LE 1ff5.XX
  1ff6.LE 1ffd.XX 2000.SP 200b.FO 200c.EX 200e.FO 2010.XX 2013.SC 2015.XX 2018.CL 2020.XX
  2024.AT 2025.XX 2028.SE 202a.FO 202f.SP 2030.XX 2039.CL 203b.XX 203c.ST 203e.XX 2045.CL
  2047.ST 204a.XX 205f.SP 2060.FO 2065.XX 2066.FO 2070.XX 2071.LE 2072.XX 207d.CL 207f.LE
  2080.XX 208d.CL 208f.XX 2090.LE 209d.XX 20d0.EX 20f1.XX 2102.LE 2103.XX 2107.LE 2108.XX
  210a.LE 2114.XX 2115.LE 2116.XX 2119.LE 211e.XX 2124.LE 2125.XX 2126.LE 2127.XX 2128.LE
  2129.XX 212a.LE 212e.XX 212f.LE 213a.XX 213c.LE 2140.XX 2145.LE 214a.XX 214e.LE 214f.XX
  2160.LE 2189.XX 2308.CL 230c.XX 2329.CL 232b.XX 24b6.LE 24ea.XX 275b.CL 2761.XX 2768.CL
  2776.XX 27c5.CL 27c7.XX 27e6.CL 27f0.XX 2983.CL 2999.XX 29d8.CL 29dc.XX 29fc.CL 29fe.XX
  2c00.LE 2ce5.XX 2ceb.LE 2cef.EX 2cf2.LE 2cf4.XX 2cf9.ST 2cfc.XX 2d00.LE 2d26.XX 2d27.LE
  2d28.XX 2d2d.LE 2d2e.XX 2d30.LE 2d68.XX 2d6f.LE 2d70.XX 2d7f.EX 2d80.LE 2d97.XX 2da0.LE
  2da7.XX 2da8.LE 2daf.XX 2db0.LE 2db7.XX 2db8.LE 2dbf.XX 2dc0.LE 2dc7.XX 2dc8.LE 2dcf.XX
  2dd0.LE 2dd7.XX 2dd8.LE 2ddf.XX 2de0.EX 2e00.CL 2e0e.XX 2e1c.CL 2e1e.XX 2e20.CL 2e2a.XX
  2e2e.ST 2e2f.LE 2e30.XX 2e3c.ST 2e3d.XX 2e42.CL 2e43.XX 2e53.ST 2e55.CL 2e5d.XX 3000.SP
  3001.SC 3002.ST 3003.XX 3005.LE 3008.CL 3012.XX 3014.CL 301c.XX 301d.CL 3020.XX 3021.LE
  302a.EX 3030.XX 3031.LE 3036.XX 3038.LE 303d.XX 3041.LE 3097.XX 3099.EX 309b.XX 309d.LE
  30a0.XX 30a1.LE 30fb.XX 30fc.LE 3100.XX 3105.LE 3130.XX 3131.LE 318f.XX 31a0.LE 31c0.XX
  31f0.LE 3200.XX 3400.LE 4dc0.XX 4e00.LE a48d.XX a4d0.LE a4fe.XX a4ff.ST a500.LE a60d.XX
  a60e.ST a610.LE a620.NU a62a.LE a62c.XX a640.LE a66f.EX a673.XX a674.EX a67e.XX a67f.LE
  a69e.EX a6a0.LE a6f0.EX a6f2.XX a6f3.ST a6f4.XX a6f7.ST a6f8.XX a717.LE a720.XX a722.LE
  a789.XX a78b.LE a7cb.XX a7d0.LE a7d2.XX a7d3.LE a7d4.XX a7d5.LE a7da.XX a7f2.LE a802.EX
  a803.LE a806.EX a807.LE a80b.EX a80c.LE a823.EX a828.XX a82c.EX a82d.XX a840.LE a874.XX
  a876.ST a878.XX a880.EX a882.LE a8b4.EX a8c6.XX a8ce.ST a8d0.NU a8da.XX a8e0.EX a8f2.LE
  a8f8.XX a8fb.LE a8fc.XX a8fd.LE a8ff.EX a900.NU a90a.LE a926.EX a92e.XX a92f.ST a930.LE
  a947.EX a954.XX a960.LE a97d.XX a980.EX a984.LE a9b3.EX a9c1.XX a9c8.ST a9ca.XX a9cf.LE
  a9d0.NU a9da.XX a9e0.LE a9e5.EX a9e6.LE a9f0.NU a9fa.LE a9ff.XX aa00.LE aa29.EX aa37.XX
  aa40.LE aa43.EX aa44.LE aa4c.EX aa4e.XX aa50.NU aa5a.XX aa5d.ST aa60.LE aa77.XX aa7a.LE
  aa7b.EX aa7e.LE aab0.EX aab1.LE aab2.EX aab5.LE aab7.EX aab9.LE aabe.EX aac0.LE aac1.EX
  aac2.LE aac3.XX aadb.LE aade.XX aae0.LE aaeb.EX aaf0.ST aaf2.LE aaf5.EX aaf7.XX ab01.LE
  ab07.XX ab09.LE ab0f.XX ab11.LE ab17.XX ab20.LE ab27.XX ab28.LE ab2f.XX ab30.LE ab5b.XX
  ab5c.LE ab6a.XX ab70.LE abe3.EX abeb.ST abec.EX abee.XX abf0.NU abfa.XX ac00.LE d7a4.XX
  d7b0.LE d7c7.XX d7cb.LE d7fc.XX f900.LE fa6e.XX fa70.LE fada.XX fb00.LE fb07.XX fb13.LE
  fb18.XX fb1d.LE fb1e.EX fb1f.LE fb29.XX fb2a.LE fb37.XX fb38.LE fb3d.XX fb3e.LE fb3f.XX
  fb40.LE fb42.XX fb43.LE fb45.XX fb46.LE fbb2.XX fbd3.LE fd3e.CL fd40.XX fd50.LE fd90.XX
  fd92.LE fdc8.XX fdf0.LE fdfc.XX fe00.EX fe10.SC fe12.ST fe13.SC fe15.ST fe17.CL fe19.XX
  fe20.EX fe30.XX fe31.SC fe33.XX fe35.CL fe45.XX fe47.CL fe49.XX fe50.SC fe52.AT fe53.XX
  fe54.SC fe56.ST fe58.SC fe59.CL fe5f.XX fe63.SC fe64.XX fe70.LE fe75.XX fe76.LE fefd.XX
  feff.FO ff00.XX ff01.ST ff02.XX ff08.CL ff0a.XX ff0c.SC ff0e.AT ff0f.XX ff10.NU ff1a.SC
  ff1c.XX ff1f.ST ff20.XX ff21.LE ff3b.CL ff3c.XX ff3d.CL ff3e.XX ff41.LE ff5b.CL ff5c.XX
  ff5d.CL ff5e.XX ff5f.CL ff61.ST ff62.CL ff64.SC ff65.XX ff66.LE ff9e.EX ffa0.LE ffbf.XX
  ffc2.LE ffc8.XX ffca.LE ffd0.XX ffd2.LE ffd8.XX ffda.LE ffdd.XX fff9.FO fffc.XX 10000.LE
  1000c.XX 1000d.LE 10027.XX 10028.LE 1003b.XX 1003c.LE 1003e.XX 1003f.LE 1004e.XX 10050.LE
  1005e.XX 10080.LE 100fb.XX 10140.LE 10175.XX 101fd.EX 101fe.XX 10280.LE 1029d.XX 102a0.LE
  102d1.XX 102e0.EX 102e1.XX 10300.LE 10320.XX 1032d.LE 1034b.XX 10350.LE 10376.EX 1037b.XX
  10380.LE 1039e.XX 103a0.LE 103c4.XX 103c8.LE 103d0.XX 103d1.LE 103d6.XX 10400.LE 1049e.XX
  104a0.NU 104aa.XX 104b0.LE 104d4.XX 104d8.LE 104fc.XX 10500.LE 10528.XX 10530.LE 10564.XX
  10570.LE 1057b.XX 1057c.LE 1058b.XX 1058c.LE 10593.XX 10594.LE 10596.XX 10597.LE 105a2.XX
  105a3.LE 105b2.XX 105b3.LE 105ba.XX 105bb.LE 105bd.XX 10600.LE 10737.XX 10740.LE 10756.XX
  10760.LE 10768.XX 10780.LE 10786.XX 10787.LE 107b1.XX 107b2.LE 107bb.XX 10800.LE 10806.XX
  10808.LE 10809.XX 1080a.LE 10836.XX 10837.LE 10839.XX 1083c.LE 1083d.XX 1083f.LE 10856.XX
  10860.LE 10877.XX 10880.LE 1089f.XX 108e0.LE 108f3.XX 108f4.LE 108f6.XX 10900.LE 10916.XX
  10920.LE 1093a.XX 10980.LE 109b8.XX 109be.LE 109c0.XX 10a00.LE 10a01.EX 10a04.XX 10a05.EX
  10a07.XX 10a0c.EX 10a10.LE 10a14.XX 10a15.LE 10a18.XX 10a19.LE 10a36.XX 10a38.EX 10a3b.XX
  10a3f.EX 10a40.XX 10a56.ST 10a58.XX 10a60.LE 10a7d.XX 10a80.LE 10a9d.XX 10ac0.LE 10ac8.XX
  10ac9.LE 10ae5.EX 10ae7.XX 10b00.LE 10b36.XX 10b40.LE 10b56.XX 10b60.LE 10b73.XX 10b80.LE
  10b92.XX 10c00.LE 10c49.XX 10c80.LE 10cb3.XX 10cc0.LE 10cf3.XX 10d00.LE 10d24.EX 10d28.XX
  10d30.NU 10d3a.XX 10e80.LE 10eaa.XX 10eab.EX 10ead.XX 10eb0.LE 10eb2.XX 10efd.EX 10f00.LE
  10f1d.XX 10f27.LE 10f28.XX 10f30.LE 10f46.EX 10f51.XX 10f55.ST 10f5a.XX 10f70.LE 10f82.EX
  10f86.ST 10f8a.XX 10fb0.LE 10fc5.XX 10fe0.LE 10ff7.XX 11000.EX 11003.LE 11038.EX 11047.ST
  11049.XX 11066.NU 11070.EX 11071.LE 11073.EX 11075.LE 11076.XX 1107f.EX 11083.LE 110b0.EX
  110bb.XX 110bd.NU 110be.ST 110c2.EX 110c3.XX 110cd.NU 110ce.XX 110d0.LE 110e9.XX 110f0.NU
  110fa.XX 11100.EX 11103.LE 11127.EX 11135.XX 11136.NU 11140.XX 11141.ST 11144.LE 11145.EX
  11147.LE 11148.XX 11150.LE 11173.EX 11174.XX 11176.LE 11177.XX 11180.EX 11183.LE 111b3.EX
  111c1.LE 111c5.ST 111c7.XX 111c9.EX 111cd.ST 111ce.EX 111d0.NU 111da.LE 111db.XX 111dc.LE
  111dd.XX 111de.ST 111e0.XX 11200.LE 11212.XX 11213.LE 1122c.EX 11238.ST 1123a.XX 1123b.ST
  1123d.XX 1123e.EX 1123f.LE 11241.EX 11242.XX 11280.LE 11287.XX 11288.LE 11289.XX 1128a.LE
  1128e.XX 1128f.LE 1129e.XX 1129f.LE 112a9.ST 112aa.XX 112b0.LE 112df.EX 112eb.XX 112f0.NU
  112fa.XX 11300.EX 11304.XX 11305.LE 1130d.XX 1130f.LE 11311.XX 11313.LE 11329.XX 1132a.LE
  11331.XX 11332.LE 11334.XX 11335.LE 1133a.XX 1133b.EX 1133d.LE 1133e.EX 11345.XX 11347.EX
  11349.XX 1134b.EX 1134e.XX 11350.LE 11351.XX 11357.EX 11358.XX 1135d.LE 11362.EX 11364.XX
  11366.EX 1136d.XX 11370.EX 11375.XX 11400.LE 11435.EX 11447.LE 1144b.ST 1144d.XX 11450.NU
  1145a.XX 1145e.EX 1145f.LE 11462.XX 11480.LE 114b0.EX 114c4.LE 114c6.XX 114c7.LE 114c8.XX
  114d0.NU 114da.XX 11580.LE 115af.EX 115b6.XX 115b8.EX 115c1.XX 115c2.ST 115c4.XX 115c9.ST
  115d8.LE 115dc.EX 115de.XX 11600.LE 11630.EX 11641.ST 11643.XX 11644.LE 11645.XX 11650.NU
  1165a.XX 11680.LE 116ab.EX 116b8.LE 116b9.XX 116c0.NU 116ca.XX 11700.LE 1171b.XX 1171d.EX
  1172c.XX 11730.NU 1173a.XX 1173c.ST 1173f.XX 11740.LE 11747.XX 11800.LE 1182c.EX 1183b.XX
  118a0.LE 118e0.NU 118ea.XX 118ff.LE 11907.XX 11909.LE 1190a.XX 1190c.LE 11914.XX 11915.LE
  11917.XX 11918.LE 11930.EX 11936.XX 11937.EX 11939.XX 1193b.EX 1193f.LE 11940.EX 11941.LE
  11942.EX 11944.ST 11945.XX 11946.ST 11947.XX 11950.NU 1195a.XX 119a0.LE 119a8.XX 119aa.LE
  119d1.EX 119d8.XX 119da.EX 119e1.LE 119e2.XX 119e3.LE 119e4.EX 119e5.XX 11a00.LE 11a01.EX
  11a0b.LE 11a33.EX 11a3a.LE 11a3b.EX 11a3f.XX 11a42.ST 11a44.XX 11a47.EX 11a48.XX 11a50.LE
  11a51.EX 11a5c.LE 11a8a.EX 11a9a.XX 11a9b.ST 11a9d.LE 11a9e.XX 11ab0.LE 11af9.XX 11c00.LE
  11c09.XX 11c0a.LE 11c2f.EX 11c37.XX 11c38.EX 11c40.LE 11c41.ST 11c43.XX 11c50.NU 11c5a.XX
  11c72.LE 11c90.XX 11c92.EX 11ca8.XX 11ca9.EX 11cb7.XX 11d00.LE 11d07.XX 11d08.LE 11d0a.XX
  11d0b.LE 11d31.EX 11d37.XX 11d3a.EX 11d3b.XX 11d3c.EX 11d3e.XX 11d3f.EX 11d46.LE 11d47.EX
  11d48.XX 11d50.NU 11d5a.XX 11d60.LE 11d66.XX 11d67.LE 11d69.XX 11d6a.LE 11d8a.EX 11d8f.XX
  11d90.EX 11d92.XX 11d93.EX 11d98.LE 11d99.XX 11da0.NU 11daa.XX 11ee0.LE 11ef3.EX 11ef7.ST
  11ef9.XX 11f00.EX 11f02.LE 11f03.EX 11f04.LE 11f11.XX 11f12.LE 11f34.EX 11f3b.XX 11f3e.EX
  11f43.ST 11f45.XX 11f50.NU 11f5a.XX 11fb0.LE 11fb1.XX 12000.LE 1239a.XX 12400.LE 1246f.XX
  12480.LE 12544.XX 12f90.LE 12ff1.XX 13000.LE 13430.FO 13440.EX 13441.LE 13447.EX 13456.XX
  14400.LE 14647.XX 16800.LE 16a39.XX 16a40.LE 16a5f.XX 16a60.NU 16a6a.XX 16a6e.ST 16a70.LE
  16abf.XX 16ac0.NU 16aca.XX 16ad0.LE 16aee.XX 16af0.EX 16af5.ST 16af6.XX 16b00.LE 16b30.EX
  16b37.ST 16b39.XX 16b40.LE 16b44.ST 16b45.XX 16b50.NU 16b5a.XX 16b63.LE 16b78.XX 16b7d.LE
  16b90.XX 16e40.LE 16e80.XX 16e98.ST 16e99.XX 16f00.LE 16f4b.XX 16f4f.EX 16f50.LE 16f51.EX
  16f88.XX 16f8f.EX 16f93.LE 16fa0.XX 16fe0.LE 16fe2.XX 16fe3.LE 16fe4.EX 16fe5.XX 16ff0.EX
  16ff2.XX 17000.LE 187f8.XX 18800.LE 18cd6.XX 18d00.LE 18d09.XX 1aff0.LE 1aff4.XX 1aff5.LE
  1affc.XX 1affd.LE 1afff.XX 1b000.LE 1b123.XX 1b132.LE 1b133.XX 1b150.LE 1b153.XX 1b155.LE
  1b156.XX 1b164.LE 1b168.XX 1b170.LE 1b2fc.XX 1bc00.LE 1bc6b.XX 1bc70.LE 1bc7d.XX 1bc80.LE
  1bc89.XX 1bc90.LE 1bc9a.XX 1bc9d.EX 1bc9f.ST 1bca0.FO 1bca4.XX 1cf00.EX 1cf2e.XX 1cf30.EX
  1cf47.XX 1d165.EX 1d16a.XX 1d16d.EX 1d173.FO 1d17b.EX 1d183.XX 1d185.EX 1d18c.XX 1d1aa.EX
  1d1ae.XX 1d242.EX 1d245.XX 1d400.LE 1d455.XX 1d456.LE 1d49d.XX 1d49e.LE 1d4a0.XX 1d4a2.LE
  1d4a3.XX 1d4a5.LE 1d4a7.XX 1d4a9.LE 1d4ad.XX 1d4ae.LE 1d4ba.XX 1d4bb.LE 1d4bc.XX 1d4bd.LE
  1d4c4.XX 1d4c5.LE 1d506.XX 1d507.LE 1d50b.XX 1d50d.LE 1d515.XX 1d516.LE 1d51d.XX 1d51e.LE
  1d53a.XX 1d53b.LE 1d53f.XX 1d540.LE 1d545.XX 1d546.LE 1d547.XX 1d54a.LE 1d551.XX 1d552.LE
  1d6a6.XX 1d6a8.LE 1d6c1.XX 1d6c2.LE 1d6db.XX 1d6dc.LE 1d6fb.XX 1d6fc.LE 1d715.XX 1d716.LE
  1d735.XX 1d736.LE 1d74f.XX 1d750.LE 1d76f.XX 1d770.LE 1d789.XX 1d78a.LE 1d7a9.XX 1d7aa.LE
  1d7c3.XX 1d7c4.LE 1d7cc.XX 1d7ce.NU 1d800.XX 1da00.EX 1da37.XX 1da3b.EX 1da6d.XX 1da75.EX
  1da76.XX 1da84.EX 1da85.XX 1da88.ST 1da89.XX 1da9b.EX 1daa0.XX 1daa1.EX 1dab0.XX 1df00.LE
  1df1f.XX 1df25.LE 1df2b.XX 1e000.EX 1e007.XX 1e008.EX 1e019.XX 1e01b.EX 1e022.XX 1e023.EX
  1e025.XX 1e026.EX 1e02b.XX 1e030.LE 1e06e.XX 1e08f.EX 1e090.XX 1e100.LE 1e12d.XX 1e130.EX
  1e137.LE 1e13e.XX 1e140.NU 1e14a.XX 1e14e.LE 1e14f.XX 1e290.LE 1e2ae.EX 1e2af.XX 1e2c0.LE
  1e2ec.EX 1e2f0.NU 1e2fa.XX 1e4d0.LE 1e4ec.EX 1e4f0.NU 1e4fa.XX 1e7e0.LE 1e7e7.XX 1e7e8.LE
  1e7ec.XX 1e7ed.LE 1e7ef.XX 1e7f0.LE 1e7ff.XX 1e800.LE 1e8c5.XX 1e8d0.EX 1e8d7.XX 1e900.LE
  1e944.EX 1e94b.LE 1e94c.XX 1e950.NU 1e95a.XX 1ee00.LE 1ee04.XX 1ee05.LE 1ee20.XX 1ee21.LE
  1ee23.XX 1ee24.LE 1ee25.XX 1ee27.LE 1ee28.XX 1ee29.LE 1ee33.XX 1ee34.LE 1ee38.XX 1ee39.LE
  1ee3a.XX 1ee3b.LE 1ee3c.XX 1ee42.LE 1ee43.XX 1ee47.LE 1ee48.XX 1ee49.LE 1ee4a.XX 1ee4b.LE
  1ee4c.XX 1ee4d.LE 1ee50.XX 1ee51.LE 1ee53.XX 1ee54.LE 1ee55.XX 1ee57.LE 1ee58.XX 1ee59.LE
  1ee5a.XX 1ee5b.LE 1ee5c.XX 1ee5d.LE 1ee5e.XX 1ee5f.LE 1ee60.XX 1ee61.LE 1ee63.XX 1ee64.LE
  1ee65.XX 1ee67.LE 1ee6b.XX 1ee6c.LE 1ee73.XX 1ee74.LE 1ee78.XX 1ee79.LE 1ee7d.XX 1ee7e.LE
  1ee7f.XX 1ee80.LE 1ee8a.XX 1ee8b.LE 1ee9c.XX 1eea1.LE 1eea4.XX 1eea5.LE 1eeaa.XX 1eeab.LE
  1eebc.XX 1f130.LE 1f14a.XX 1f150.LE 1f16a.XX 1f170.LE 1f18a.XX 1f676.CL 1f679.XX 1fbf0.NU
  1fbfa.XX 20000.LE 2a6e0.XX 2a700.LE 2b73a.XX 2b740.LE 2b81e.XX 2b820.LE 2cea2.XX 2ceb0.LE
  2ebe1.XX 2f800.LE 2fa1e.XX 30000.LE 3134b.XX 31350.LE 323b0.XX e0001.FO e0002.XX e0020.EX
  e0080.XX e0100.EX e01f0.XX"

def kinds : Table Kind := .ofText .ofCode kindText

def uppers : Array (Nat × Nat) := (rangesOfText uppercaseText).toArray

def lowers : Array (Nat × Nat) := (rangesOfText lowercaseText).toArray

/-- The letters whose case does not show where a sentence begins. -/
def isGeorgian (n : Nat) : Bool :=
  (0x10D0 <= n && n <= 0x10FA) || (0x10FD <= n && n <= 0x10FF) ||
    (0x1C90 <= n && n <= 0x1CBA) || (0x1CBD <= n && n <= 0x1CBF)

def letterKind (n : Nat) : Kind :=
  if isGeorgian n then .letter
  else if inRanges uppers n || categories.get? n == some .titlecaseLetter then .upper
  else if inRanges lowers n then .lower
  else .letter

def kind (c : Char) : Kind :=
  match kinds.get? c.toNat with
  | some .letter => letterKind c.toNat
  | some k => k
  | none => .other

namespace Kind

def isLineEnd : Kind -> Bool
  | carriageReturn => true
  | lineFeed => true
  | separator => true
  | _ => false

def isIgnored : Kind -> Bool
  | extend => true
  | format => true
  | _ => false

def isTerminator : Kind -> Bool
  | fullStop => true
  | terminator => true
  | _ => false

end Kind

/-- What matters of a sentence for its end. -/
inductive Read where
  /-- The sentence is not over; the flag tells whether its last character has a case. -/
  | open (cased : Bool)
  | carriageReturn
  | lineEnd
  /-- Just after a terminator: whether it is a full stop, and one after a letter that
  has a case. -/
  | ended (fullStop : Bool) (cased : Bool)
  /-- After closing marks that follow the terminator. -/
  | closed (fullStop : Bool)
  /-- After blanks that follow these. -/
  | spaced (fullStop : Bool)

/-- The first character that decides whether a sentence goes on is a small letter. -/
def lowerAhead : List Char -> Bool
  | [] => false
  | c :: rest =>
      match kind c with
      | .lower => true
      | .letter => false
      | .upper => false
      | .carriageReturn => false
      | .lineFeed => false
      | .separator => false
      | .fullStop => false
      | .terminator => false
      | _ => lowerAhead rest

/-- The state after a character that no terminator makes special. -/
def after (cased : Bool) : Kind -> Read
  | .carriageReturn => .carriageReturn
  | .lineFeed => .lineEnd
  | .separator => .lineEnd
  | .fullStop => .ended true cased
  | .terminator => .ended false cased
  | .upper => .open true
  | .lower => .open true
  | _ => .open false

/-- What may follow a terminator in any case, or after a full stop. -/
def goesOn (fullStop : Bool) (k : Kind) (c : Char) (rest : List Char) : Bool :=
  (fullStop && lowerAhead (c :: rest)) || k == .continuation || k.isTerminator

def next (r : Read) (c : Char) (rest : List Char) : Option Read :=
  let k := kind c
  match r with
  | .carriageReturn => if k == .lineFeed then some .lineEnd else none
  | .lineEnd => none
  | .open cased => if k.isIgnored then some r else some (after cased k)
  | .ended fullStop cased =>
      if k.isIgnored then some r
      else if k == .closing then some (.closed fullStop)
      else if k == .blank then some (.spaced fullStop)
      else if k.isLineEnd then some (after false k)
      else if fullStop && (k == .digit || (cased && k == .upper)) then some (after false k)
      else if goesOn fullStop k c rest then some (after false k)
      else none
  | .closed fullStop =>
      if k.isIgnored then some r
      else if k == .closing then some r
      else if k == .blank then some (.spaced fullStop)
      else if k.isLineEnd || goesOn fullStop k c rest then some (after false k)
      else none
  | .spaced fullStop =>
      if k.isIgnored || k == .blank then some r
      else if k.isLineEnd || goesOn fullStop k c rest then some (after false k)
      else none

def segmentation : Segmentation Read where
  first c := after false (kind c)
  next := next

end Sentence
end Unicode
end Colloquy
