import Colloquy.Unicode.Table

/-!
# Scripts

Every character belongs to one script.  A script has an abbreviation and one or more
names, which are compared in lower case without blanks.
-/

namespace Colloquy
namespace Unicode

/-- The names of each script, the abbreviation first. -/
def scriptNames : String :=
  "adlm=adlam aghb=caucasianalbanian ahom=ahom arab=arabic armi=imperialaramaic
  armn=armenian avst=avestan bali=balinese bamu=bamum bass=bassavah batk=batak beng=bengali
  bhks=bhaiksuki bopo=bopomofo brah=brahmi brai=braille bugi=buginese buhd=buhid
  cakm=chakma cans=canadianaboriginal cari=carian cham=cham cher=cherokee chrs=chorasmian
  copt=coptic=qaac cpmn=cyprominoan cprt=cypriot cyrl=cyrillic deva=devanagari
  diak=divesakuru dogr=dogra dsrt=deseret dupl=duployan egyp=egyptianhieroglyphs
  elba=elbasan elym=elymaic ethi=ethiopic geor=georgian glag=glagolitic gong=gunjalagondi
  gonm=masaramgondi goth=gothic gran=grantha grek=greek gujr=gujarati guru=gurmukhi
  hang=hangul hani=han hano=hanunoo hatr=hatran hebr=hebrew hira=hiragana
  hluw=anatolianhieroglyphs hmng=pahawhhmong hmnp=nyiakengpuachuehmong hung=oldhungarian
  ital=olditalic java=javanese kali=kayahli kana=katakana kawi=kawi khar=kharoshthi
  khmr=khmer khoj=khojki kits=khitansmallscript knda=kannada kthi=kaithi lana=taitham
  laoo=lao latn=latin lepc=lepcha limb=limbu lina=lineara linb=linearb lisu=lisu
  lyci=lycian lydi=lydian mahj=mahajani maka=makasar mand=mandaic mani=manichaean
  marc=marchen medf=medefaidrin mend=mendekikakui merc=meroiticcursive
  mero=meroitichieroglyphs mlym=malayalam modi=modi mong=mongolian mroo=mro
  mtei=meeteimayek mult=multani mymr=myanmar nagm=nagmundari nand=nandinagari
  narb=oldnortharabian nbat=nabataean newa=newa nkoo=nko nshu=nushu ogam=ogham olck=olchiki
  orkh=oldturkic orya=oriya osge=osage osma=osmanya ougr=olduyghur palm=palmyrene
  pauc=paucinhau perm=oldpermic phag=phagspa phli=inscriptionalpahlavi phlp=psalterpahlavi
  phnx=phoenician plrd=miao prti=inscriptionalparthian rjng=rejang rohg=hanifirohingya
  runr=runic samr=samaritan sarb=oldsoutharabian saur=saurashtra sgnw=signwriting
  shaw=shavian shrd=sharada sidd=siddham sind=khudawadi sinh=sinhala sogd=sogdian
  sogo=oldsogdian sora=sorasompeng soyo=soyombo sund=sundanese sylo=sylotinagri syrc=syriac
  tagb=tagbanwa takr=takri tale=taile talu=newtailue taml=tamil tang=tangut tavt=taiviet
  telu=telugu tfng=tifinagh tglg=tagalog thaa=thaana thai=thai tibt=tibetan tirh=tirhuta
  tnsa=tangsa toto=toto ugar=ugaritic vaii=vai vith=vithkuqi wara=warangciti wcho=wancho
  xpeo=oldpersian xsux=cuneiform yezi=yezidi yiii=yi zanb=zanabazarsquare
  zinh=inherited=qaai zyyy=common"

/-- The abbreviation of a script with the given name. -/
def scriptCode? (name : String) : Option String :=
  ((words scriptNames).map fun w => w.splitOn '=').findSome? fun names =>
    if names.contains name.toList then names.head?.map String.ofList else none

/-- The script of every character, by runs. -/
def scripts : Table String :=
  .ofText id "0.zyyy 41.latn 5b.zyyy 61.latn 7b.zyyy aa.latn ab.zyyy ba.latn bb.zyyy c0.latn d7.zyyy
  d8.latn f7.zyyy f8.latn 2b9.zyyy 2e0.latn 2e5.zyyy 2ea.bopo 2ec.zyyy 300.zinh 370.grek
  374.zyyy 375.grek 378.zzzz 37a.grek 37e.zyyy 37f.grek 380.zzzz 384.grek 385.zyyy 386.grek
  387.zyyy 388.grek 38b.zzzz 38c.grek 38d.zzzz 38e.grek 3a2.zzzz 3a3.grek 3e2.copt 3f0.grek
  400.cyrl 485.zinh 487.cyrl 530.zzzz 531.armn 557.zzzz 559.armn 58b.zzzz 58d.armn 590.zzzz
  591.hebr 5c8.zzzz 5d0.hebr 5eb.zzzz 5ef.hebr 5f5.zzzz 600.arab 605.zyyy 606.arab 60c.zyyy
  60d.arab 61b.zyyy 61c.arab 61f.zyyy 620.arab 640.zyyy 641.arab 64b.zinh 656.arab 670.zinh
  671.arab 6dd.zyyy 6de.arab 700.syrc 70e.zzzz 70f.syrc 74b.zzzz 74d.syrc 750.arab 780.thaa
  7b2.zzzz 7c0.nkoo 7fb.zzzz 7fd.nkoo 800.samr 82e.zzzz 830.samr 83f.zzzz 840.mand 85c.zzzz
  85e.mand 85f.zzzz 860.syrc 86b.zzzz 870.arab 88f.zzzz 890.arab 892.zzzz 898.arab 8e2.zyyy
  8e3.arab 900.deva 951.zinh 955.deva 964.zyyy 966.deva 980.beng 984.zzzz 985.beng 98d.zzzz
  98f.beng 991.zzzz 993.beng 9a9.zzzz 9aa.beng 9b1.zzzz 9b2.beng 9b3.zzzz 9b6.beng 9ba.zzzz
  9bc.beng 9c5.zzzz 9c7.beng 9c9.zzzz 9cb.beng 9cf.zzzz 9d7.beng 9d8.zzzz 9dc.beng 9de.zzzz
  9df.beng 9e4.zzzz 9e6.beng 9ff.zzzz a01.guru a04.zzzz a05.guru a0b.zzzz a0f.guru a11.zzzz
  a13.guru a29.zzzz a2a.guru a31.zzzz a32.guru a34.zzzz a35.guru a37.zzzz a38.guru a3a.zzzz
  a3c.guru a3d.zzzz a3e.guru a43.zzzz a47.guru a49.zzzz a4b.guru a4e.zzzz a51.guru a52.zzzz
  a59.guru a5d.zzzz a5e.guru a5f.zzzz a66.guru a77.zzzz a81.gujr a84.zzzz a85.gujr a8e.zzzz
  a8f.gujr a92.zzzz a93.gujr aa9.zzzz aaa.gujr ab1.zzzz ab2.gujr ab4.zzzz ab5.gujr aba.zzzz
  abc.gujr ac6.zzzz ac7.gujr aca.zzzz acb.gujr ace.zzzz ad0.gujr ad1.zzzz ae0.gujr ae4.zzzz
  ae6.gujr af2.zzzz af9.gujr b00.zzzz b01.orya b04.zzzz b05.orya b0d.zzzz b0f.orya b11.zzzz
  b13.orya b29.zzzz b2a.orya b31.zzzz b32.orya b34.zzzz b35.orya b3a.zzzz b3c.orya b45.zzzz
  b47.orya b49.zzzz b4b.orya b4e.zzzz b55.orya b58.zzzz b5c.orya b5e.zzzz b5f.orya b64.zzzz
  b66.orya b78.zzzz b82.taml b84.zzzz b85.taml b8b.zzzz b8e.taml b91.zzzz b92.taml b96.zzzz
  b99.taml b9b.zzzz b9c.taml b9d.zzzz b9e.taml ba0.zzzz ba3.taml ba5.zzzz ba8.taml bab.zzzz
  bae.taml bba.zzzz bbe.taml bc3.zzzz bc6.taml bc9.zzzz bca.taml bce.zzzz bd0.taml bd1.zzzz
  bd7.taml bd8.zzzz be6.taml bfb.zzzz c00.telu c0d.zzzz c0e.telu c11.zzzz c12.telu c29.zzzz
  c2a.telu c3a.zzzz c3c.telu c45.zzzz c46.telu c49.zzzz c4a.telu c4e.zzzz c55.telu c57.zzzz
  c58.telu c5b.zzzz c5d.telu c5e.zzzz c60.telu c64.zzzz c66.telu c70.zzzz c77.telu c80.knda
  c8d.zzzz c8e.knda c91.zzzz c92.knda ca9.zzzz caa.knda cb4.zzzz cb5.knda cba.zzzz cbc.knda
  cc5.zzzz cc6.knda cc9.zzzz cca.knda cce.zzzz cd5.knda cd7.zzzz cdd.knda cdf.zzzz ce0.knda
  ce4.zzzz ce6.knda cf0.zzzz cf1.knda cf4.zzzz d00.mlym d0d.zzzz d0e.mlym d11.zzzz d12.mlym
  d45.zzzz d46.mlym d49.zzzz d4a.mlym d50.zzzz d54.mlym d64.zzzz d66.mlym d80.zzzz d81.sinh
  d84.zzzz d85.sinh d97.zzzz d9a.sinh db2.zzzz db3.sinh dbc.zzzz dbd.sinh dbe.zzzz dc0.sinh
  dc7.zzzz dca.sinh dcb.zzzz dcf.sinh dd5.zzzz dd6.sinh dd7.zzzz dd8.sinh de0.zzzz de6.sinh
  df0.zzzz df2.sinh df5.zzzz e01.thai e3b.zzzz e3f.zyyy e40.thai e5c.zzzz e81.laoo e83.zzzz
  e84.laoo e85.zzzz e86.laoo e8b.zzzz e8c.laoo ea4.zzzz ea5.laoo ea6.zzzz ea7.laoo ebe.zzzz
  ec0.laoo ec5.zzzz ec6.laoo ec7.zzzz ec8.laoo ecf.zzzz ed0.laoo eda.zzzz edc.laoo ee0.zzzz
  f00.tibt f48.zzzz f49.tibt f6d.zzzz f71.tibt f98.zzzz f99.tibt fbd.zzzz fbe.tibt fcd.zzzz
  fce.tibt fd5.zyyy fd9.tibt fdb.zzzz 1000.mymr 10a0.geor 10c6.zzzz 10c7.geor 10c8.zzzz
  10cd.geor 10ce.zzzz 10d0.geor 10fb.zyyy 10fc.geor 1100.hang 1200.ethi 1249.zzzz 124a.ethi
  124e.zzzz 1250.ethi 1257.zzzz 1258.ethi 1259.zzzz 125a.ethi 125e.zzzz 1260.ethi 1289.zzzz
  128a.ethi 128e.zzzz 1290.ethi 12b1.zzzz 12b2.ethi 12b6.zzzz 12b8.ethi 12bf.zzzz 12c0.ethi
  12c1.zzzz 12c2.ethi 12c6.zzzz 12c8.ethi 12d7.zzzz 12d8.ethi 1311.zzzz 1312.ethi 1316.zzzz
  1318.ethi 135b.zzzz 135d.ethi 137d.zzzz 1380.ethi 139a.zzzz 13a0.cher 13f6.zzzz 13f8.cher
  13fe.zzzz 1400.cans 1680.ogam 169d.zzzz 16a0.runr 16eb.zyyy 16ee.runr 16f9.zzzz 1700.tglg
  1716.zzzz 171f.tglg 1720.hano 1735.zyyy 1737.zzzz 1740.buhd 1754.zzzz 1760.tagb 176d.zzzz
  176e.tagb 1771.zzzz 1772.tagb 1774.zzzz 1780.khmr 17de.zzzz 17e0.khmr 17ea.zzzz 17f0.khmr
  17fa.zzzz 1800.mong 1802.zyyy 1804.mong 1805.zyyy 1806.mong 181a.zzzz 1820.mong 1879.zzzz
  1880.mong 18ab.zzzz 18b0.cans 18f6.zzzz 1900.limb 191f.zzzz 1920.limb 192c.zzzz 1930.limb
  193c.zzzz 1940.limb 1941.zzzz 1944.limb 1950.tale 196e.zzzz 1970.tale 1975.zzzz 1980.talu
  19ac.zzzz 19b0.talu 19ca.zzzz 19d0.talu 19db.zzzz 19de.talu 19e0.khmr 1a00.bugi 1a1c.zzzz
  1a1e.bugi 1a20.lana 1a5f.zzzz 1a60.lana 1a7d.zzzz 1a7f.lana 1a8a.zzzz 1a90.lana 1a9a.zzzz
  1aa0.lana 1aae.zzzz 1ab0.zinh 1acf.zzzz 1b00.bali 1b4d.zzzz 1b50.bali 1b7f.zzzz 1b80.sund
  1bc0.batk 1bf4.zzzz 1bfc.batk 1c00.lepc 1c38.zzzz 1c3b.lepc 1c4a.zzzz 1c4d.lepc 1c50.olck
  1c80.cyrl 1c89.zzzz 1c90.geor 1cbb.zzzz 1cbd.geor 1cc0.sund 1cc8.zzzz 1cd0.zinh 1cd3.zyyy
  1cd4.zinh 1ce1.zyyy 1ce2.zinh 1ce9.zyyy 1ced.zinh 1cee.zyyy 1cf4.zinh 1cf5.zyyy 1cf8.zinh
  1cfa.zyyy 1cfb.zzzz 1d00.latn 1d26.grek 1d2b.cyrl 1d2c.latn 1d5d.grek 1d62.latn 1d66.grek
  1d6b.latn 1d78.cyrl 1d79.latn 1dbf.grek 1dc0.zinh 1e00.latn 1f00.grek 1f16.zzzz 1f18.grek
  1f1e.zzzz 1f20.grek 1f46.zzzz 1f48.grek 1f4e.zzzz 1f50.grek 1f58.zzzz 1f59.grek 1f5a.zzzz
  1f5b.grek 1f5c.zzzz 1f5d.grek 1f5e.zzzz 1f5f.grek 1f7e.zzzz 1f80.grek 1fb5.zzzz 1fb6.grek
  1fc5.zzzz 1fc6.grek 1fd4.zzzz 1fd6.grek 1fdc.zzzz 1fdd.grek 1ff0.zzzz 1ff2.grek 1ff5.zzzz
  1ff6.grek 1fff.zzzz 2000.zyyy 200c.zinh 200e.zyyy 2065.zzzz 2066.zyyy 2071.latn 2072.zzzz
  2074.zyyy 207f.latn 2080.zyyy 208f.zzzz 2090.latn 209d.zzzz 20a0.zyyy 20c1.zzzz 20d0.zinh
  20f1.zzzz 2100.zyyy 2126.grek 2127.zyyy 212a.latn 212c.zyyy 2132.latn 2133.zyyy 214e.latn
  214f.zyyy 2160.latn 2189.zyyy 218c.zzzz 2190.zyyy 2427.zzzz 2440.zyyy 244b.zzzz 2460.zyyy
  2800.brai 2900.zyyy 2b74.zzzz 2b76.zyyy 2b96.zzzz 2b97.zyyy 2c00.glag 2c60.latn 2c80.copt
  2cf4.zzzz 2cf9.copt 2d00.geor 2d26.zzzz 2d27.geor 2d28.zzzz 2d2d.geor 2d2e.zzzz 2d30.tfng
  2d68.zzzz 2d6f.tfng 2d71.zzzz 2d7f.tfng 2d80.ethi 2d97.zzzz 2da0.ethi 2da7.zzzz 2da8.ethi
  2daf.zzzz 2db0.ethi 2db7.zzzz 2db8.ethi 2dbf.zzzz 2dc0.ethi 2dc7.zzzz 2dc8.ethi 2dcf.zzzz
  2dd0.ethi 2dd7.zzzz 2dd8.ethi 2ddf.zzzz 2de0.cyrl 2e00.zyyy 2e5e.zzzz 2e80.hani 2e9a.zzzz
  2e9b.hani 2ef4.zzzz 2f00.hani 2fd6.zzzz 2ff0.zyyy 2ffc.zzzz 3000.zyyy 3005.hani 3006.zyyy
  3007.hani 3008.zyyy 3021.hani 302a.zinh 302e.hang 3030.zyyy 3038.hani 303c.zyyy 3040.zzzz
  3041.hira 3097.zzzz 3099.zinh 309b.zyyy 309d.hira 30a0.zyyy 30a1.kana 30fb.zyyy 30fd.kana
  3100.zzzz 3105.bopo 3130.zzzz 3131.hang 318f.zzzz 3190.zyyy 31a0.bopo 31c0.zyyy 31e4.zzzz
  31f0.kana 3200.hang 321f.zzzz 3220.zyyy 3260.hang 327f.zyyy 32d0.kana 32ff.zyyy 3300.kana
  3358.zyyy 3400.hani 4dc0.zyyy 4e00.hani a000.yiii a48d.zzzz a490.yiii a4c7.zzzz a4d0.lisu
  a500.vaii a62c.zzzz a640.cyrl a6a0.bamu a6f8.zzzz a700.zyyy a722.latn a788.zyyy a78b.latn
  a7cb.zzzz a7d0.latn a7d2.zzzz a7d3.latn a7d4.zzzz a7d5.latn a7da.zzzz a7f2.latn a800.sylo
  a82d.zzzz a830.zyyy a83a.zzzz a840.phag a878.zzzz a880.saur a8c6.zzzz a8ce.saur a8da.zzzz
  a8e0.deva a900.kali a92e.zyyy a92f.kali a930.rjng a954.zzzz a95f.rjng a960.hang a97d.zzzz
  a980.java a9ce.zzzz a9cf.zyyy a9d0.java a9da.zzzz a9de.java a9e0.mymr a9ff.zzzz aa00.cham
  aa37.zzzz aa40.cham aa4e.zzzz aa50.cham aa5a.zzzz aa5c.cham aa60.mymr aa80.tavt aac3.zzzz
  aadb.tavt aae0.mtei aaf7.zzzz ab01.ethi ab07.zzzz ab09.ethi ab0f.zzzz ab11.ethi ab17.zzzz
  ab20.ethi ab27.zzzz ab28.ethi ab2f.zzzz ab30.latn ab5b.zyyy ab5c.latn ab65.grek ab66.latn
  ab6a.zyyy ab6c.zzzz ab70.cher abc0.mtei abee.zzzz abf0.mtei abfa.zzzz ac00.hang d7a4.zzzz
  d7b0.hang d7c7.zzzz d7cb.hang d7fc.zzzz f900.hani fa6e.zzzz fa70.hani fada.zzzz fb00.latn
  fb07.zzzz fb13.armn fb18.zzzz fb1d.hebr fb37.zzzz fb38.hebr fb3d.zzzz fb3e.hebr fb3f.zzzz
  fb40.hebr fb42.zzzz fb43.hebr fb45.zzzz fb46.hebr fb50.arab fbc3.zzzz fbd3.arab fd3e.zyyy
  fd40.arab fd90.zzzz fd92.arab fdc8.zzzz fdcf.arab fdd0.zzzz fdf0.arab fe00.zinh fe10.zyyy
  fe1a.zzzz fe20.zinh fe2e.cyrl fe30.zyyy fe53.zzzz fe54.zyyy fe67.zzzz fe68.zyyy fe6c.zzzz
  fe70.arab fe75.zzzz fe76.arab fefd.zzzz feff.zyyy ff00.zzzz ff01.zyyy ff21.latn ff3b.zyyy
  ff41.latn ff5b.zyyy ff66.kana ff70.zyyy ff71.kana ff9e.zyyy ffa0.hang ffbf.zzzz ffc2.hang
  ffc8.zzzz ffca.hang ffd0.zzzz ffd2.hang ffd8.zzzz ffda.hang ffdd.zzzz ffe0.zyyy ffe7.zzzz
  ffe8.zyyy ffef.zzzz fff9.zyyy fffe.zzzz 10000.linb 1000c.zzzz 1000d.linb 10027.zzzz
  10028.linb 1003b.zzzz 1003c.linb 1003e.zzzz 1003f.linb 1004e.zzzz 10050.linb 1005e.zzzz
  10080.linb 100fb.zzzz 10100.zyyy 10103.zzzz 10107.zyyy 10134.zzzz 10137.zyyy 10140.grek
  1018f.zzzz 10190.zyyy 1019d.zzzz 101a0.grek 101a1.zzzz 101d0.zyyy 101fd.zinh 101fe.zzzz
  10280.lyci 1029d.zzzz 102a0.cari 102d1.zzzz 102e0.zinh 102e1.zyyy 102fc.zzzz 10300.ital
  10324.zzzz 1032d.ital 10330.goth 1034b.zzzz 10350.perm 1037b.zzzz 10380.ugar 1039e.zzzz
  1039f.ugar 103a0.xpeo 103c4.zzzz 103c8.xpeo 103d6.zzzz 10400.dsrt 10450.shaw 10480.osma
  1049e.zzzz 104a0.osma 104aa.zzzz 104b0.osge 104d4.zzzz 104d8.osge 104fc.zzzz 10500.elba
  10528.zzzz 10530.aghb 10564.zzzz 1056f.aghb 10570.vith 1057b.zzzz 1057c.vith 1058b.zzzz
  1058c.vith 10593.zzzz 10594.vith 10596.zzzz 10597.vith 105a2.zzzz 105a3.vith 105b2.zzzz
  105b3.vith 105ba.zzzz 105bb.vith 105bd.zzzz 10600.lina 10737.zzzz 10740.lina 10756.zzzz
  10760.lina 10768.zzzz 10780.latn 10786.zzzz 10787.latn 107b1.zzzz 107b2.latn 107bb.zzzz
  10800.cprt 10806.zzzz 10808.cprt 10809.zzzz 1080a.cprt 10836.zzzz 10837.cprt 10839.zzzz
  1083c.cprt 1083d.zzzz 1083f.cprt 10840.armi 10856.zzzz 10857.armi 10860.palm 10880.nbat
  1089f.zzzz 108a7.nbat 108b0.zzzz 108e0.hatr 108f3.zzzz 108f4.hatr 108f6.zzzz 108fb.hatr
  10900.phnx 1091c.zzzz 1091f.phnx 10920.lydi 1093a.zzzz 1093f.lydi 10940.zzzz 10980.mero
  109a0.merc 109b8.zzzz 109bc.merc 109d0.zzzz 109d2.merc 10a00.khar 10a04.zzzz 10a05.khar
  10a07.zzzz 10a0c.khar 10a14.zzzz 10a15.khar 10a18.zzzz 10a19.khar 10a36.zzzz 10a38.khar
  10a3b.zzzz 10a3f.khar 10a49.zzzz 10a50.khar 10a59.zzzz 10a60.sarb 10a80.narb 10aa0.zzzz
  10ac0.mani 10ae7.zzzz 10aeb.mani 10af7.zzzz 10b00.avst 10b36.zzzz 10b39.avst 10b40.prti
  10b56.zzzz 10b58.prti 10b60.phli 10b73.zzzz 10b78.phli 10b80.phlp 10b92.zzzz 10b99.phlp
  10b9d.zzzz 10ba9.phlp 10bb0.zzzz 10c00.orkh 10c49.zzzz 10c80.hung 10cb3.zzzz 10cc0.hung
  10cf3.zzzz 10cfa.hung 10d00.rohg 10d28.zzzz 10d30.rohg 10d3a.zzzz 10e60.arab 10e7f.zzzz
  10e80.yezi 10eaa.zzzz 10eab.yezi 10eae.zzzz 10eb0.yezi 10eb2.zzzz 10efd.arab 10f00.sogo
  10f28.zzzz 10f30.sogd 10f5a.zzzz 10f70.ougr 10f8a.zzzz 10fb0.chrs 10fcc.zzzz 10fe0.elym
  10ff7.zzzz 11000.brah 1104e.zzzz 11052.brah 11076.zzzz 1107f.brah 11080.kthi 110c3.zzzz
  110cd.kthi 110ce.zzzz 110d0.sora 110e9.zzzz 110f0.sora 110fa.zzzz 11100.cakm 11135.zzzz
  11136.cakm 11148.zzzz 11150.mahj 11177.zzzz 11180.shrd 111e0.zzzz 111e1.sinh 111f5.zzzz
  11200.khoj 11212.zzzz 11213.khoj 11242.zzzz 11280.mult 11287.zzzz 11288.mult 11289.zzzz
  1128a.mult 1128e.zzzz 1128f.mult 1129e.zzzz 1129f.mult 112aa.zzzz 112b0.sind 112eb.zzzz
  112f0.sind 112fa.zzzz 11300.gran 11304.zzzz 11305.gran 1130d.zzzz 1130f.gran 11311.zzzz
  11313.gran 11329.zzzz 1132a.gran 11331.zzzz 11332.gran 11334.zzzz 11335.gran 1133a.zzzz
  1133b.zinh 1133c.gran 11345.zzzz 11347.gran 11349.zzzz 1134b.gran 1134e.zzzz 11350.gran
  11351.zzzz 11357.gran 11358.zzzz 1135d.gran 11364.zzzz 11366.gran 1136d.zzzz 11370.gran
  11375.zzzz 11400.newa 1145c.zzzz 1145d.newa 11462.zzzz 11480.tirh 114c8.zzzz 114d0.tirh
  114da.zzzz 11580.sidd 115b6.zzzz 115b8.sidd 115de.zzzz 11600.modi 11645.zzzz 11650.modi
  1165a.zzzz 11660.mong 1166d.zzzz 11680.takr 116ba.zzzz 116c0.takr 116ca.zzzz 11700.ahom
  1171b.zzzz 1171d.ahom 1172c.zzzz 11730.ahom 11747.zzzz 11800.dogr 1183c.zzzz 118a0.wara
  118f3.zzzz 118ff.wara 11900.diak 11907.zzzz 11909.diak 1190a.zzzz 1190c.diak 11914.zzzz
  11915.diak 11917.zzzz 11918.diak 11936.zzzz 11937.diak 11939.zzzz 1193b.diak 11947.zzzz
  11950.diak 1195a.zzzz 119a0.nand 119a8.zzzz 119aa.nand 119d8.zzzz 119da.nand 119e5.zzzz
  11a00.zanb 11a48.zzzz 11a50.soyo 11aa3.zzzz 11ab0.cans 11ac0.pauc 11af9.zzzz 11b00.deva
  11b0a.zzzz 11c00.bhks 11c09.zzzz 11c0a.bhks 11c37.zzzz 11c38.bhks 11c46.zzzz 11c50.bhks
  11c6d.zzzz 11c70.marc 11c90.zzzz 11c92.marc 11ca8.zzzz 11ca9.marc 11cb7.zzzz 11d00.gonm
  11d07.zzzz 11d08.gonm 11d0a.zzzz 11d0b.gonm 11d37.zzzz 11d3a.gonm 11d3b.zzzz 11d3c.gonm
  11d3e.zzzz 11d3f.gonm 11d48.zzzz 11d50.gonm 11d5a.zzzz 11d60.gong 11d66.zzzz 11d67.gong
  11d69.zzzz 11d6a.gong 11d8f.zzzz 11d90.gong 11d92.zzzz 11d93.gong 11d99.zzzz 11da0.gong
  11daa.zzzz 11ee0.maka 11ef9.zzzz 11f00.kawi 11f11.zzzz 11f12.kawi 11f3b.zzzz 11f3e.kawi
  11f5a.zzzz 11fb0.lisu 11fb1.zzzz 11fc0.taml 11ff2.zzzz 11fff.taml 12000.xsux 1239a.zzzz
  12400.xsux 1246f.zzzz 12470.xsux 12475.zzzz 12480.xsux 12544.zzzz 12f90.cpmn 12ff3.zzzz
  13000.egyp 13456.zzzz 14400.hluw 14647.zzzz 16800.bamu 16a39.zzzz 16a40.mroo 16a5f.zzzz
  16a60.mroo 16a6a.zzzz 16a6e.mroo 16a70.tnsa 16abf.zzzz 16ac0.tnsa 16aca.zzzz 16ad0.bass
  16aee.zzzz 16af0.bass 16af6.zzzz 16b00.hmng 16b46.zzzz 16b50.hmng 16b5a.zzzz 16b5b.hmng
  16b62.zzzz 16b63.hmng 16b78.zzzz 16b7d.hmng 16b90.zzzz 16e40.medf 16e9b.zzzz 16f00.plrd
  16f4b.zzzz 16f4f.plrd 16f88.zzzz 16f8f.plrd 16fa0.zzzz 16fe0.tang 16fe1.nshu 16fe2.hani
  16fe4.kits 16fe5.zzzz 16ff0.hani 16ff2.zzzz 17000.tang 187f8.zzzz 18800.tang 18b00.kits
  18cd6.zzzz 18d00.tang 18d09.zzzz 1aff0.kana 1aff4.zzzz 1aff5.kana 1affc.zzzz 1affd.kana
  1afff.zzzz 1b000.kana 1b001.hira 1b120.kana 1b123.zzzz 1b132.hira 1b133.zzzz 1b150.hira
  1b153.zzzz 1b155.kana 1b156.zzzz 1b164.kana 1b168.zzzz 1b170.nshu 1b2fc.zzzz 1bc00.dupl
  1bc6b.zzzz 1bc70.dupl 1bc7d.zzzz 1bc80.dupl 1bc89.zzzz 1bc90.dupl 1bc9a.zzzz 1bc9c.dupl
  1bca0.zyyy 1bca4.zzzz 1cf00.zinh 1cf2e.zzzz 1cf30.zinh 1cf47.zzzz 1cf50.zyyy 1cfc4.zzzz
  1d000.zyyy 1d0f6.zzzz 1d100.zyyy 1d127.zzzz 1d129.zyyy 1d167.zinh 1d16a.zyyy 1d17b.zinh
  1d183.zyyy 1d185.zinh 1d18c.zyyy 1d1aa.zinh 1d1ae.zyyy 1d1eb.zzzz 1d200.grek 1d246.zzzz
  1d2c0.zyyy 1d2d4.zzzz 1d2e0.zyyy 1d2f4.zzzz 1d300.zyyy 1d357.zzzz 1d360.zyyy 1d379.zzzz
  1d400.zyyy 1d455.zzzz 1d456.zyyy 1d49d.zzzz 1d49e.zyyy 1d4a0.zzzz 1d4a2.zyyy 1d4a3.zzzz
  1d4a5.zyyy 1d4a7.zzzz 1d4a9.zyyy 1d4ad.zzzz 1d4ae.zyyy 1d4ba.zzzz 1d4bb.zyyy 1d4bc.zzzz
  1d4bd.zyyy 1d4c4.zzzz 1d4c5.zyyy 1d506.zzzz 1d507.zyyy 1d50b.zzzz 1d50d.zyyy 1d515.zzzz
  1d516.zyyy 1d51d.zzzz 1d51e.zyyy 1d53a.zzzz 1d53b.zyyy 1d53f.zzzz 1d540.zyyy 1d545.zzzz
  1d546.zyyy 1d547.zzzz 1d54a.zyyy 1d551.zzzz 1d552.zyyy 1d6a6.zzzz 1d6a8.zyyy 1d7cc.zzzz
  1d7ce.zyyy 1d800.sgnw 1da8c.zzzz 1da9b.sgnw 1daa0.zzzz 1daa1.sgnw 1dab0.zzzz 1df00.latn
  1df1f.zzzz 1df25.latn 1df2b.zzzz 1e000.glag 1e007.zzzz 1e008.glag 1e019.zzzz 1e01b.glag
  1e022.zzzz 1e023.glag 1e025.zzzz 1e026.glag 1e02b.zzzz 1e030.cyrl 1e06e.zzzz 1e08f.cyrl
  1e090.zzzz 1e100.hmnp 1e12d.zzzz 1e130.hmnp 1e13e.zzzz 1e140.hmnp 1e14a.zzzz 1e14e.hmnp
  1e150.zzzz 1e290.toto 1e2af.zzzz 1e2c0.wcho 1e2fa.zzzz 1e2ff.wcho 1e300.zzzz 1e4d0.nagm
  1e4fa.zzzz 1e7e0.ethi 1e7e7.zzzz 1e7e8.ethi 1e7ec.zzzz 1e7ed.ethi 1e7ef.zzzz 1e7f0.ethi
  1e7ff.zzzz 1e800.mend 1e8c5.zzzz 1e8c7.mend 1e8d7.zzzz 1e900.adlm 1e94c.zzzz 1e950.adlm
  1e95a.zzzz 1e95e.adlm 1e960.zzzz 1ec71.zyyy 1ecb5.zzzz 1ed01.zyyy 1ed3e.zzzz 1ee00.arab
  1ee04.zzzz 1ee05.arab 1ee20.zzzz 1ee21.arab 1ee23.zzzz 1ee24.arab 1ee25.zzzz 1ee27.arab
  1ee28.zzzz 1ee29.arab 1ee33.zzzz 1ee34.arab 1ee38.zzzz 1ee39.arab 1ee3a.zzzz 1ee3b.arab
  1ee3c.zzzz 1ee42.arab 1ee43.zzzz 1ee47.arab 1ee48.zzzz 1ee49.arab 1ee4a.zzzz 1ee4b.arab
  1ee4c.zzzz 1ee4d.arab 1ee50.zzzz 1ee51.arab 1ee53.zzzz 1ee54.arab 1ee55.zzzz 1ee57.arab
  1ee58.zzzz 1ee59.arab 1ee5a.zzzz 1ee5b.arab 1ee5c.zzzz 1ee5d.arab 1ee5e.zzzz 1ee5f.arab
  1ee60.zzzz 1ee61.arab 1ee63.zzzz 1ee64.arab 1ee65.zzzz 1ee67.arab 1ee6b.zzzz 1ee6c.arab
  1ee73.zzzz 1ee74.arab 1ee78.zzzz 1ee79.arab 1ee7d.zzzz 1ee7e.arab 1ee7f.zzzz 1ee80.arab
  1ee8a.zzzz 1ee8b.arab 1ee9c.zzzz 1eea1.arab 1eea4.zzzz 1eea5.arab 1eeaa.zzzz 1eeab.arab
  1eebc.zzzz 1eef0.arab 1eef2.zzzz 1f000.zyyy 1f02c.zzzz 1f030.zyyy 1f094.zzzz 1f0a0.zyyy
  1f0af.zzzz 1f0b1.zyyy 1f0c0.zzzz 1f0c1.zyyy 1f0d0.zzzz 1f0d1.zyyy 1f0f6.zzzz 1f100.zyyy
  1f1ae.zzzz 1f1e6.zyyy 1f200.hira 1f201.zyyy 1f203.zzzz 1f210.zyyy 1f23c.zzzz 1f240.zyyy
  1f249.zzzz 1f250.zyyy 1f252.zzzz 1f260.zyyy 1f266.zzzz 1f300.zyyy 1f6d8.zzzz 1f6dc.zyyy
  1f6ed.zzzz 1f6f0.zyyy 1f6fd.zzzz 1f700.zyyy 1f777.zzzz 1f77b.zyyy 1f7da.zzzz 1f7e0.zyyy
  1f7ec.zzzz 1f7f0.zyyy 1f7f1.zzzz 1f800.zyyy 1f80c.zzzz 1f810.zyyy 1f848.zzzz 1f850.zyyy
  1f85a.zzzz 1f860.zyyy 1f888.zzzz 1f890.zyyy 1f8ae.zzzz 1f8b0.zyyy 1f8b2.zzzz 1f900.zyyy
  1fa54.zzzz 1fa60.zyyy 1fa6e.zzzz 1fa70.zyyy 1fa7d.zzzz 1fa80.zyyy 1fa89.zzzz 1fa90.zyyy
  1fabe.zzzz 1fabf.zyyy 1fac6.zzzz 1face.zyyy 1fadc.zzzz 1fae0.zyyy 1fae9.zzzz 1faf0.zyyy
  1faf9.zzzz 1fb00.zyyy 1fb93.zzzz 1fb94.zyyy 1fbcb.zzzz 1fbf0.zyyy 1fbfa.zzzz 20000.hani
  2a6e0.zzzz 2a700.hani 2b73a.zzzz 2b740.hani 2b81e.zzzz 2b820.hani 2cea2.zzzz 2ceb0.hani
  2ebe1.zzzz 2f800.hani 2fa1e.zzzz 30000.hani 3134b.zzzz 31350.hani 323b0.zzzz e0001.zyyy
  e0002.zzzz e0020.zyyy e0080.zzzz e0100.zinh e01f0.zzzz"

end Unicode
end Colloquy
