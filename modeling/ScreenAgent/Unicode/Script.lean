import ScreenAgent.Unicode.Ranges

namespace ScreenAgent.Unicode

def scriptTable : List Ranges.Entry := [
  (["adlm", "adlam"], [
    "Wew3h24941"]),
  (["aghb", "caucasianalbanian"], [
    "mfX2p1B0"]),
  (["ahom"], [
    "Wub2Q2E4M"]),
  (["arab", "arabic"], [
    "Wm14151D121V19BP1h31X1m2l1m7U115g21Smoy1o3GgB2l22r170W1Fm341c4Zx3UZ22t13Wut131Q111020191",
    "3101060401010121110201010101011102316131310191G52141Gq11"]),
  (["armi", "imperialaramaic"], [
    "WYY2L18"]),
  (["armn", "armenian"], [
    "nf1b12n122Ziz14"]),
  (["avst", "avestan"], [
    "WuY2r136"]),
  (["bali", "balinese"], [
    "Wu6i21n1"]),
  (["bamu", "bamum"], [
    "Wrf1t2eem1uH"]),
  (["bass", "bassavah"], [
    "msw2T25"]),
  (["batk", "batak"], [
    "W-6p183"]),
  (["beng", "bengali"], [
    "Wi2317212L1610332821238041142O"]),
  (["bhks", "bhaiksuki"], [
    "WWd281i11DAS"]),
  (["bopo", "bopomofo"], [
    "gN1vmBg1m3V"]),
  (["brah", "brahmi"], [
    "WWa2j24Z190"]),
  (["brai", "braille"], [
    "WWA_7"]),
  (["bugi", "buginese"], [
    "Wm6R21"]),
  (["buhd", "buhid"], [
    "Ww5J"]),
  (["cakm", "chakma"], [
    "Wea2q11H"]),
  (["cans", "canadianaboriginal"], [
    "WW5_JmHb2wjW2F"]),
  (["cari", "carian"], [
    "WrW2m1"]),
  (["cham"], [
    "Wmg1s19D2923"]),
  (["cher", "cherokee"], [
    "Wz4r225oxb1l2"]),
  (["chrs", "chorasmian"], [
    "mzZ2R"]),
  (["copt", "coptic", "qaac"], [
    "YVDmaAp356"]),
  (["cpmn", "cyprominoan"], [
    "myh2Y3"]),
  (["cprt", "cypriot"], [
    "WWY25201h1113020"]),
  (["cyrl", "cyrillic"], [
    "WW1a42e5mw5AW50i20dZ4VWYU_2kyL1Wmu1z1X10"]),
  (["deva", "devanagari"], [
    "We2m24E2PWxd1VWmS9"]),
  (["diak", "divesakuru"], [
    "Wec262027111T112B99"]),
  (["dogr", "dogra"], [
    "WWc2x1"]),
  (["dsrt", "deseret"], [
    "WWX2l2"]),
  (["dupl", "duployan"], [
    "WWl3g35C387923"]),
  (["egyp", "egyptianhieroglyphs"], [
    "WWi2rY1Awy3"]),
  (["elba", "elbasan"], [
    "WeX2d1"]),
  (["elym", "elymaic"], [
    "W_Z2M"]),
  (["ethi", "ethiopic"], [
    "Wm4e2132610132e1132W1132610132E1u1132Y22V3Pcl6M9616161616161616YfV525259616nbl2613111E"]),
  (["gara", "garay"], [
    "WgZ2b13S81"]),
  (["geor", "georgian"], [
    "Wb4b110502g113my2g122WY4b11050"]),
  (["glag", "glagolitic"], [
    "WWB_2Wzi361G261114"]),
  (["gong", "gunjalagondi"], [
    "Whd25111a1111579"]),
  (["gonm", "masaramgondi"], [
    "Wed26111h130111889"]),
  (["goth", "gothic"], [
    "mvW2Q"]),
  (["gran", "grantha"], [
    "Wua2317212L1611142821222060562634"]),
  (["grek", "greek"], [
    "mR3122310401012101J1-1EFcf64o1444q20WAL252b125271010101U2q11E1D251I2218d90-nY10wkLk2H0_Y",
    "q1b2"]),
  (["gujr", "gujarati"], [
    "Xq2218121L16111429121220F32B76"]),
  (["gukh", "gurungkhema"], [
    "Weu2v1"]),
  (["guru", "gurmukhi"], [
    "Xm2215412L16111111201441223073107G"]),
  (["hang", "hangul"], [
    "We4_7kn71X8z2n3UX2UXtTSZKZzACM4m1az9U35252522"]),
  (["hani", "han"], [
    "WqBP1u2Cr6l1010P8E3aU_j6W2_lKWeMjB2f3eeT1C1kWa1_sf1W1vX46z62Xq5Emf7FjJYj2zGYl1gw45_Y4"]),
  (["hano", "hanunoo"], [
    "Wv5K"]),
  (["hatr", "hatran"], [
    "WdY2I1154"]),
  (["hebr", "hebrew"], [
    "ni1s18Q45efz1P1410111119"]),
  (["hira", "hiragana"], [
    "XYCr262Xx_2-8I0T2jbG0"]),
  (["hluw", "anatolianhieroglyphs"], [
    "WWn2cI"]),
  (["hmng", "pahawhhmong"], [
    "Wuw2b2A9161K5I"]),
  (["hmnp", "nyiakengpuachuehmong"], [
    "Weu3i13D2941"]),
  (["hung", "oldhungarian"], [
    "WaZ2o1Do175"]),
  (["ital", "olditalic"], [
    "WuW2Z192"]),
  (["java", "javanese"], [
    "Wig1j22941"]),
  (["kali", "kayahli"], [
    "Weg1j110"]),
  (["kana", "katakana"], [
    "XbCv222m7Fm6k11t2kWp191i1oYi13161110_82o10E3"]),
  (["kawi"], [
    "Wud2G1e13S"]),
  (["khar", "kharoshthi"], [
    "WmY231157121S224978"]),
  (["khmr", "khmer"], [
    "Wy5z22969cFV"]),
  (["khoj", "khojki"], [
    "Wma2H1k1"]),
  (["kits", "khitansmallscript"], [
    "a_x20xu6rEf10"]),
  (["knda", "kannada"], [
    "Wa3C121M19142812137161132912"]),
  (["krai", "kiratrai"], [
    "Wgx2v1"]),
  (["kthi", "kaithi"], [
    "Waa2Y2A0"]),
  (["lana", "taitham"], [
    "Wn6-11S2A696D"]),
  (["laoo", "lao"], [
    "Xq3110141N101M2410161923"]),
  (["latn", "latin"], [
    "X2P6Pl10F05M1U1WEd14xm6b16m1535C1b2X2_7nB0D0GCj4160R0He1ts2VYrUb33Y2211017LDmPg11813syJ6",
    "wW1P6PbX251f118bwr1U65"]),
  (["lepc", "lepcha"], [
    "WW7t13E32"]),
  (["limb", "limbu"], [
    "We6U1B4B403B"]),
  (["lina", "lineara"], [
    "WmX2s99LA7"]),
  (["linb", "linearb"], [
    "WWW2B1P1I111E2DY1w3"]),
  (["lisu"], [
    "mcf1l1mrU0"]),
  (["lyci", "lycian"], [
    "WqW2S"]),
  (["lydi", "lydian"], [
    "WfY2P50"]),
  (["mahj", "mahajani"], [
    "mga2c1"]),
  (["maka", "makasar"], [
    "Wtd2O"]),
  (["mand", "mandaic"], [
    "WY2R20"]),
  (["mani", "manichaean"], [
    "WsY2c14B"]),
  (["marc", "marchen"], [
    "mZd2V2L1D"]),
  (["medf", "medefaidrin"], [
    "Wox2w2"]),
  (["mend", "mendekikakui"], [
    "WWw3a62F"]),
  (["merc", "meroiticcursive"], [
    "WjY2N4J2j1"]),
  (["mero", "meroitichieroglyphs"], [
    "WiY2V"]),
  (["mlym", "malayalam"], [
    "We3C121o112154F2P"]),
  (["modi"], [
    "Wmb2a2B9"]),
  (["mong", "mongolian"], [
    "WW61201J6u27g1rj_1C"]),
  (["mroo", "mro"], [
    "Wow2U1941"]),
  (["mtei", "meeteimayek"], [
    "Wtg1Mf6j129"]),
  (["mult", "multani"], [
    "Wqa2610131E1A"]),
  (["mymr", "myanmar"], [
    "WW4_4Wgc1UX3VmYRJ"]),
  (["nagm", "nagmundari"], [
    "mcv3f1"]),
  (["nand", "nandinagari"], [
    "Wjc272j12A"]),
  (["narb", "oldnortharabian"], [
    "WqY2V"]),
  (["nbat", "nabataean"], [
    "WaY2U88"]),
  (["newa"], [
    "WWb2x214"]),
  (["nkoo", "nko"], [
    "W-1w122"]),
  (["nshu", "nushu"], [
    "X_x20kiGhC"]),
  (["ogam", "ogham"], [
    "Wq5S"]),
  (["olck", "olchiki"], [
    "mY7l1"]),
  (["onao", "olonal"], [
    "mkv3g140"]),
  (["orkh", "oldturkic"], [
    "WWZ2e2"]),
  (["orya", "oriya"], [
    "Xu2217212L1611142821227241142H"]),
  (["osge", "osage"], [
    "mbX2Z14Z1"]),
  (["osma", "osmanya"], [
    "WaX2T29"]),
  (["ougr", "olduyghur"], [
    "mxZ2P"]),
  (["palm", "palmyrene"], [
    "WZY2V"]),
  (["pauc", "paucinhau"], [
    "Wsc2u1"]),
  (["perm", "oldpermic"], [
    "mwW2g1"]),
  (["phag", "phagspa"], [
    "WYg1t1"]),
  (["phli", "inscriptionalpahlavi"], [
    "WxY2I57"]),
  (["phlp", "psalterpahlavi"], [
    "WyY2H73C6"]),
  (["phnx", "phoenician"], [
    "WeY2R30"]),
  (["plrd", "miao"], [
    "Wux2g24u17G"]),
  (["prti", "inscriptionalparthian"], [
    "WwY2L27"]),
  (["rjng", "rejang"], [
    "mfg1Z1B0"]),
  (["rohg", "hanifirohingya"], [
    "WeZ2d189"]),
  (["runr", "runic"], [
    "Wr5g23A"]),
  (["samr", "samaritan"], [
    "WW2j12E"]),
  (["sarb", "oldsoutharabian"], [
    "WpY2V"]),
  (["saur", "saurashtra"], [
    "Wag1b28B"]),
  (["sgnw", "signwriting"], [
    "WWs3hKF41E"]),
  (["shaw", "shavian"], [
    "mYX2l1"]),
  (["shrd", "sharada"], [
    "Wia2_2"]),
  (["sidd", "siddham"], [
    "Wib2r12b1"]),
  (["sind", "khudawadi"], [
    "mra2w159"]),
  (["sinh", "sinhala"], [
    "Xi321H3N181026304510176922i_W2J"]),
  (["sogd", "sogdian"], [
    "mvZ2f1"]),
  (["sogo", "oldsogdian"], [
    "WuZ2d1"]),
  (["sora", "sorasompeng"], [
    "mca2O79"]),
  (["soyo", "soyombo"], [
    "moc2o2"]),
  (["sund", "sundanese"], [
    "Wy6_1W87"]),
  (["sunu", "sunuwar"], [
    "W-c2X1E9"]),
  (["sylo", "sylotinagri"], [
    "WWg1i1"]),
  (["syrc", "syriac"], [
    "Wu1D1x122m8A"]),
  (["tagb", "tagbanwa"], [
    "Wx5C1211"]),
  (["takr", "takri"], [
    "Wqb2v169"]),
  (["tale", "taile"], [
    "mg6T24"]),
  (["talu", "newtailue"], [
    "Wi6h14P6A31"]),
  (["taml", "tamil"], [
    "Yy2115321331101131323B4432132060EKb-a2n1D0"]),
  (["tang", "tangut"], [
    "W_x20Vt_58_NWG8"]),
  (["tavt", "taiviet"], [
    "Wqg1Y2O4"]),
  (["telu", "telugu"], [
    "WW3C121M1F281213711220232978"]),
  (["tfng", "tifinagh"], [
    "mfBt171E0"]),
  (["tglg", "tagalog"], [
    "Wu5L90"]),
  (["thaa", "thaana"], [
    "Wy1n1"]),
  (["thai"], [
    "Xm3v15R"]),
  (["tibt", "tibetan"], [
    "Wu3d21Z14c11Z11E1641"]),
  (["tirh", "tirhuta"], [
    "Wab2d289"]),
  (["tnsa", "tangsa"], [
    "mpw2k219"]),
  (["todr", "todhri"], [
    "WkX2p1"]),
  (["toto"], [
    "mqu3U"]),
  (["tutg", "tulutigalari"], [
    "Wya2910201b119102013191181"]),
  (["ugar", "ugaritic"], [
    "WyW2T10"]),
  (["vaii", "vai"], [
    "Wef1h9"]),
  (["vith", "vithkuqi"], [
    "mhX2A1E16111A1E1611"]),
  (["wara", "warangciti"], [
    "Wbc2o2C0"]),
  (["wcho", "wancho"], [
    "Wsu3v150"]),
  (["xpeo", "oldpersian"], [
    "WzW2Z14D"]),
  (["xsux", "cuneiform"], [
    "WWe2vSc3k314BZ6"]),
  (["yezi", "yezidi"], [
    "WqZ2f11221"]),
  (["yiii", "yi"], [
    "WWe1ia13s1"]),
  (["zanb", "zanabazarsquare"], [
    "Wmc2d2"]),
  (["zinh", "inherited", "qaai"], [
    "WOl3r81aEAQ0WN3xg4UXG21C16406031c6_1iG1Y6W1vv33h31bhp1FGDlU0Y70wY40a-k1j12MWH2H726U3owhO",
    "l7"]),
  (["zyyy", "common"], [
    "0W2Q5Qk11E14N0V0XEc1542Jq30906010zJ060E030W10y40aG0X41vc10rC3Y90ll12d21h6110jc10D0731512",
    "20bOB2s21A3A1EHW1_1b112251Q1Gf124vKMAL_SW8pJ2V1e3WGz2oCK101OF743x2130w21p4FW1b190m1_1Vm2",
    "l10u2d5Wk6_1WeMX1c32b59q70W50hC0E1okK1m69MY11I13p401VQ5QAA0j11W2616A4Y824i138m2Cp1i1a7Qa",
    "jk13yw3v76pDy4p3y1r7Ac12z13G817T4y1r6JCJCs29Od4q21c2112021231B10161W21327161R131410361pA",
    "2Z92n1nZ5Z2i2y1YMh14Z3CE2E1E1a1Aj5u1P11Dh14871E5w4tU4G3C3s34-26B40FB4t1896d18T2B41-1pACD",
    "2C395t17E2A687o41b3dWXO0U_2"])]

def extensionTable : List Ranges.Entry := [
  (["adlm", "adlam"], [
    "_m10W10km60nl30-rk3h24941"]),
  (["aghb", "caucasianalbanian"], [
    "aO0i10i10nkW2p1B0"]),
  (["ahom"], [
    "Wub2Q2E4M"]),
  (["arab", "arabic"], [
    "Wm141s61X1m2l1m7U115g21Slw50nl30kep1o3GyD2r170W1Fm341c4ZVRax2UZ22t13Wut131Q1110201913101",
    "060401010121110201010101011102316131310191G52141Gq11"]),
  (["armi", "imperialaramaic"], [
    "WYY2L18"]),
  (["armn", "armenian"], [
    "eO0eHb12n122Ziz14"]),
  (["avst", "avestan"], [
    "t50uhB1kct1r136"]),
  (["bali", "balinese"], [
    "Wu6i21n1"]),
  (["bamu", "bamum"], [
    "Wrf1t2eem1uH"]),
  (["bass", "bassavah"], [
    "msw2T25"]),
  (["batk", "batak"], [
    "W-6p183"]),
  (["beng", "bengali"], [
    "yL0qq11H1Q317212L1610332821238041142Ons401021108080204022v_Y10"]),
  (["bhks", "bhaiksuki"], [
    "WWd281i11DAS"]),
  (["bopo", "bopomofo"], [
    "dM012D0G1reB2491CA32060Z609g1m3Vbap11w84"]),
  (["brah", "brahmi"], [
    "WWa2j24Z190"]),
  (["brai", "braille"], [
    "WWA_7"]),
  (["bugi", "buginese"], [
    "Wm6R21lzZ10"]),
  (["buhd", "buhid"], [
    "rv519J"]),
  (["cakm", "chakma"], [
    "cl29mo19sbW2q11H"]),
  (["cans", "canadianaboriginal"], [
    "WW5_JmHb2wjW2F"]),
  (["cari", "carian"], [
    "t50Yz7020pk30kZr1m1"]),
  (["cham"], [
    "Wmg1s19D2923"]),
  (["cher", "cherokee"], [
    "WO21061M1B1kZ4r225oxb1l2"]),
  (["chrs", "chorasmian"], [
    "mzZ2R"]),
  (["copt", "coptic", "qaac"], [
    "t50eI03110i31i3DmaAp356t80ecr1R"]),
  (["cpmn", "cyprominoan"], [
    "WeW21kqBY3"]),
  (["cprt", "cypriot"], [
    "WeW224i138Ws15201h1113020"]),
  (["cyrl", "cyrillic"], [
    "yL0Z221010102050k7l9mw5AW50i20_30d_3VZ20y_T_2kyL1Wmu1z1X10"]),
  (["deva", "devanagari"], [
    "yL0Zo1o22g1mw4c111sV0_vX19c5VWmS9"]),
  (["diak", "divesakuru"], [
    "Wec262027111T112B99"]),
  (["dogr", "dogra"], [
    "ah2BWsd19c-Rx1"]),
  (["dsrt", "deseret"], [
    "WWX2l2"]),
  (["dupl", "duployan"], [
    "t50lI110O1tuA0ZkZ3g35C387927"]),
  (["egyp", "egyptianhieroglyphs"], [
    "WWi2rY1Awy3"]),
  (["elba", "elbasan"], [
    "t50jI0wlW2d1"]),
  (["elym", "elymaic"], [
    "W_Z2M"]),
  (["ethi", "ethiopic"], [
    "kO0nt3e2132610132e1132W1132610132E1u1132Y22V3Pcl6M9616161616161616YfV525259616nbl2613111",
    "E"]),
  (["gara", "garay"], [
    "im10E030WvX2b13S81"]),
  (["geor", "georgian"], [
    "t50nc10su2b110502l1my2g122wS0bb3b11050Z80"]),
  (["glag", "glagolitic"], [
    "t50hI010-B020X80nx20-w30bz2_2ZF0hXU0mik261G261114"]),
  (["gong", "gunjalagondi"], [
    "t50ib21w_a25111a1111579"]),
  (["gonm", "masaramgondi"], [
    "ah21wya26111h130111889"]),
  (["goth", "gothic"], [
    "t50iI120e10-__1Q"]),
  (["gran", "grantha"], [
    "ng21H1WKDyc4011U231sV0lmy1317212L1611141921222060562634xY3110"]),
  (["grek", "greek"], [
    "t50eI1201010A0k1020g172310401012101J1-1EFcf64o1444q22-9L252b125271010101U2q11E1D251I2218",
    "-20e60-nY10wkLk2H0_Yq1b2"]),
  (["gujr", "gujarati"], [
    "ng21H1x8218121L16111429121220F32B76mfd19"]),
  (["gukh", "gurungkhema"], [
    "bh20wyr2v1"]),
  (["guru", "gurmukhi"], [
    "ng21H1x4215412L16111111201441223073107Gvjd19"]),
  (["hang", "hangul"], [
    "We4_7Xm72491CE260Z60r1z2n3UX2UXtTSZKZzACM4m1fo91w84w1U35252522"]),
  (["hani", "han"], [
    "t50ekBP1u2Cr6QF121C1C1C2068x50q4FW1b190m1d1u1m1FBp10u2OA4W3U1_j6W2_lKWu17ulKjB2f3hR1w84y",
    "ZS1C1kxOH-s71kj3_sf1W1vX46z62Xq5Emf7FjJYj2zGYl1gw45_Y4"]),
  (["hano", "hanunoo"], [
    "Wv5M"]),
  (["hatr", "hatran"], [
    "WdY2I1154"]),
  (["hebr", "hebrew"], [
    "dO1eKs18Q45efz1P1410111119"]),
  (["hira", "hiragana"], [
    "XWC2491CG510413r227w21egp11w84A0j11XZi1-8I0T2jbG0"]),
  (["hluw", "anatolianhieroglyphs"], [
    "WWn2cI"]),
  (["hmng", "pahawhhmong"], [
    "Wuw2b2A9161K5I"]),
  (["hmnp", "nyiakengpuachuehmong"], [
    "Weu3i13D2941"]),
  (["hung", "oldhungarian"], [
    "wY8020pk30F0-nt1o1Do175"]),
  (["ital", "olditalic"], [
    "WuW2Z192"]),
  (["java", "javanese"], [
    "Wig1j21A41"]),
  (["kali", "kayahli"], [
    "Weg1l1"]),
  (["kana", "katakana"], [
    "bO0T0zcB2491CG51041x233_2m7Fm6k11t2jto11w8-1mYi13161110_82o10E3"]),
  (["kawi"], [
    "Wud2G1e13S"]),
  (["khar", "kharoshthi"], [
    "WmY231157121S224978"]),
  (["khmr", "khmer"], [
    "Wy5z22969cFV"]),
  (["khoj", "khojki"], [
    "ct29Wgd19ckQH1k1"]),
  (["kits", "khitansmallscript"], [
    "a_x20xu6rEf10"]),
  (["knda", "kannada"], [
    "ng21H1wOC121M19142812137161132912y-301160N010xvY15"]),
  (["krai", "kiratrai"], [
    "Wgx2v1"]),
  (["kthi", "kaithi"], [
    "ch29Xc90-lU9cYQY2A0"]),
  (["lana", "taitham"], [
    "Wn6-11S2A696D"]),
  (["laoo", "lao"], [
    "Xq3110141N101M2410161923"]),
  (["latn", "latin"], [
    "X2P6Pl10C0205M1U1WE30A01210901064RE1110C0227111c10504Cr81gc11ez10aW3b16m1535C1b2v107_7l9",
    "0X20D0GCp20v1160R0He1ts2VtC0edU7Qb33Y2211017LDk90XGg11813syJ6wW1P6PbX251f118bwr1U65"]),
  (["lepc", "lepcha"], [
    "WW7t13E32"]),
  (["limb", "limbu"], [
    "bh20wy3U1B4B403B"]),
  (["lina", "lineara"], [
    "deW2i1ic1s99LA7"]),
  (["linb", "linearb"], [
    "WWW2B1P1I111E2DY1w3524i138"]),
  (["lisu"], [
    "yL0G0yfB1acTl1mrU0"]),
  (["lyci", "lycian"], [
    "wY80bnu1S"]),
  (["lydi", "lydian"], [
    "t50vhB0kts1P50"]),
  (["mahj", "mahajani"], [
    "t50ib2BWsd19seQc1"]),
  (["maka", "makasar"], [
    "Wtd2O"]),
  (["mand", "mandaic"], [
    "Wo10_FR20"]),
  (["mani", "manichaean"], [
    "Wo10_ZX2c14B"]),
  (["marc", "marchen"], [
    "mZd2V2L1D"]),
  (["medf", "medefaidrin"], [
    "Wox2w2"]),
  (["mend", "mendekikakui"], [
    "WWw3a62F"]),
  (["merc", "meroiticcursive"], [
    "WjY2N4J2j1"]),
  (["mero", "meroitichieroglyphs"], [
    "zY80Yfw1V"]),
  (["mlym", "malayalam"], [
    "ng21H1wSC121o112154F2Pww30N0zvY12"]),
  (["modi"], [
    "mXg19ckRa2B9"]),
  (["mong", "mongolian"], [
    "WW6P6u27g1ay10n-3153qov1C"]),
  (["mroo", "mro"], [
    "Wow2U1941"]),
  (["mtei", "meeteimayek"], [
    "Wtg1Mf6j129"]),
  (["mult", "multani"], [
    "cp29mWY2610131E1A"]),
  (["mymr", "myanmar"], [
    "WW4_4kac10n5UX3VmYRJ"]),
  (["nagm", "nagmundari"], [
    "mcv3f1"]),
  (["nand", "nandinagari"], [
    "ah21WS9v_308070rvY15ghS72j12A"]),
  (["narb", "oldnortharabian"], [
    "WqY2V"]),
  (["nbat", "nabataean"], [
    "WaY2U88"]),
  (["newa"], [
    "WWb2x214"]),
  (["nkoo", "nko"], [
    "im10E030WDw122-fz11"]),
  (["nshu", "nushu"], [
    "X_x20kiGhC"]),
  (["ogam", "ogham"], [
    "Wq5S"]),
  (["olck", "olchiki"], [
    "mY7l1"]),
  (["onao", "olonal"], [
    "ah21gZt3g140"]),
  (["orkh", "oldturkic"], [
    "wY80rk30lkt1e2"]),
  (["orya", "oriya"], [
    "ng21H1xC217212L1611142821227241142HYh40N0"]),
  (["osge", "osage"], [
    "XO02060i20tgW2Z14Z1"]),
  (["osma", "osmanya"], [
    "WaX2T29"]),
  (["ougr", "olduyghur"], [
    "Wo10nbX20zZ1P"]),
  (["palm", "palmyrene"], [
    "WZY2V"]),
  (["pauc", "paucinhau"], [
    "Wsc2u1"]),
  (["perm", "oldpermic"], [
    "t50eI052A0lB0is_1g1"]),
  (["phag", "phagspa"], [
    "YW6110fX20o-30zXUt1"]),
  (["phli", "inscriptionalpahlavi"], [
    "WxY2I57"]),
  (["phlp", "psalterpahlavi"], [
    "Wo10_fX2H73C6"]),
  (["phnx", "phoenician"], [
    "WeY2R30"]),
  (["plrd", "miao"], [
    "Wux2g24u17G"]),
  (["prti", "inscriptionalparthian"], [
    "WwY2L27"]),
  (["rjng", "rejang"], [
    "mfg1Z1B0"]),
  (["rohg", "hanifirohingya"], [
    "im10E030W10p40hnX2d189"]),
  (["runr", "runic"], [
    "Wr5u2"]),
  (["samr", "samaritan"], [
    "WW2j12Eol90"]),
  (["sarb", "oldsoutharabian"], [
    "WpY2V"]),
  (["saur", "saurashtra"], [
    "Wag1b28B"]),
  (["sgnw", "signwriting"], [
    "WWs3hKF41E"]),
  (["shaw", "shavian"], [
    "t50uyW2l1"]),
  (["shrd", "sharada"], [
    "ng20by40102120lwY1520dgQ_2"]),
  (["sidd", "siddham"], [
    "Wib2r12b1"]),
  (["sind", "khudawadi"], [
    "ah21gsd19spQw159"]),
  (["sinh", "sinhala"], [
    "ah21xW121H3N181026304510176922zt30kdz1J"]),
  (["sogd", "sogdian"], [
    "Wo10ldY2f1"]),
  (["sogo", "oldsogdian"], [
    "WuZ2d1"]),
  (["sora", "sorasompeng"], [
    "mca2O79"]),
  (["soyo", "soyombo"], [
    "moc2o2"]),
  (["sund", "sundanese"], [
    "Wy6_1W87"]),
  (["sunu", "sunuwar"], [
    "WO1109020S030kac2X1E9"]),
  (["sylo", "sylotinagri"], [
    "ah21W49mmd1i1"]),
  (["syrc", "syriac"], [
    "ZO12110L0227110xM0E120W10AAQ0l4D1x122m8Aji5010"]),
  (["tagb", "tagbanwa"], [
    "rv51f1C1211"]),
  (["takr", "takri"], [
    "ah21gsd19coRv169"]),
  (["tale", "taile"], [
    "WO15130pf39ce2T24"]),
  (["talu", "newtailue"], [
    "Wi6h14P6A31"]),
  (["taml", "tamil"], [
    "ng21H1yG115321331101131323B4432132060EK_c40uWZ10jmQ010t11Za3n1D0"]),
  (["tang", "tangut"], [
    "m_BFlF0mll20Vt_58_NWG8"]),
  (["tavt", "taiviet"], [
    "Wqg1Y2O4"]),
  (["telu", "telugu"], [
    "ng21H1wKC121M1F281213711220232978wY40N0"]),
  (["tfng", "tifinagh"], [
    "YO0102010cnAt171E0"]),
  (["tglg", "tagalog"], [
    "Wu5L90L1"]),
  (["thaa", "thaana"], [
    "im10E120W29s8n1Woz10A0"]),
  (["thai"], [
    "yL0Q0h10j10ls2v15R"]),
  (["tibt", "tibetan"], [
    "Wu3d21Z14c11Z11E1641jX83"]),
  (["tirh", "tirhuta"], [
    "ng21H1iy40zvY19cYRd289"]),
  (["tnsa", "tangsa"], [
    "mpw2k219"]),
  (["todr", "todhri"], [
    "XO020209010g20XpW2p1"]),
  (["toto"], [
    "yL0p-t3U"]),
  (["tutg", "tulutigalari"], [
    "cd39YW4010xvY15x50kqQ910201b119102013191181"]),
  (["ugar", "ugaritic"], [
    "WyW2T10"]),
  (["vaii", "vai"], [
    "Wef1h9"]),
  (["vith", "vithkuqi"], [
    "mhX2A1E16111A1E1611"]),
  (["wara", "warangciti"], [
    "Wbc2o2C0"]),
  (["wcho", "wancho"], [
    "Wsu3v150"]),
  (["xpeo", "oldpersian"], [
    "WzW2Z14D"]),
  (["xsux", "cuneiform"], [
    "WWe2vSc3k314BZ6"]),
  (["yezi", "yezidi"], [
    "im10E030W29sWY2f11221"]),
  (["yiii", "yi"], [
    "XWC15927_60auRia13s1wqM4"]),
  (["zanb", "zanabazarsquare"], [
    "Wmc2d2"]),
  (["zinh", "inherited", "qaai"], [
    "lO0201B1136202F111H1413ml11xg4UpNr11014iG1Y6Vmet1FGDlU0Yep1j12MWH2H726U3owhOl7"]),
  (["zyyy", "common"], [
    "0W2Q5Qk11B1114N0V0XE2191030181015542J-306010zJ0t60aG0yg10rC3dX4B2W11U1911161A3A1EHW1_1b1",
    "12251Q1Gf124vKMAL_SW8pJ2V1e3WGM1N2913101PYD030D0D0L0nGNV0n1EC3X595_2V0Wk6_1eeMPc32mU0E1a",
    "rK9MK2B1I13p401VQ5Q5_3616A4oCCp1i1Zmo1v76pDy4p3y1r7Ac12z13G817T4y1r6JCJCs2R6d4q21c211202",
    "1231B10161W21327161R131410361pA2Z92n1nZ5Z2i2y1YMh14Z3CE2E1E1a1Aj5u1P11Dh148N5w4tU4G3C3s3",
    "4-26B40FB4t1896d18T2B41-1pACD2C395t17E2A687o41b3dWXO0U_2"])]

end ScreenAgent.Unicode
