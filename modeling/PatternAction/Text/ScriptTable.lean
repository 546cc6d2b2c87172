import PatternAction.Text.CodeSet

/-!
Scripts of the world: their names in lower case and without joints, and the bounds of their code
points in hexadecimal.
-/

set_option autoImplicit false
set_option relaxedAutoImplicit false

namespace PatternAction.Text

def scriptTable : List (List String × String) := [
  (["adlm", "adlam"],
    "1e900 1e94c 1e950 1e95a 1e95e 1e960"),
  (["aghb", "caucasianalbanian"],
    "10530 10564 1056f 10570"),
  (["ahom"],
    "11700 1171b 1171d 1172c 11730 11747"),
  (["arab", "arabic"],
    "600 605 606 60c 60d 61b 61c 61f 620 640 641 64b 656 670 671 6dd 6de 700 750 780 870 88f
    890 892 897 8e2 8e3 900 fb50 fbc3 fbd3 fd3e fd40 fd90 fd92 fdc8 fdcf fdd0 fdf0 fe00 fe70
    fe75 fe76 fefd 10e60 10e7f 10ec2 10ec5 10efc 10f00 1ee00 1ee04 1ee05 1ee20 1ee21 1ee23
    1ee24 1ee25 1ee27 1ee28 1ee29 1ee33 1ee34 1ee38 1ee39 1ee3a 1ee3b 1ee3c 1ee42 1ee43 1ee47
    1ee48 1ee49 1ee4a 1ee4b 1ee4c 1ee4d 1ee50 1ee51 1ee53 1ee54 1ee55 1ee57 1ee58 1ee59 1ee5a
    1ee5b 1ee5c 1ee5d 1ee5e 1ee5f 1ee60 1ee61 1ee63 1ee64 1ee65 1ee67 1ee6b 1ee6c 1ee73 1ee74
    1ee78 1ee79 1ee7d 1ee7e 1ee7f 1ee80 1ee8a 1ee8b 1ee9c 1eea1 1eea4 1eea5 1eeaa 1eeab 1eebc
    1eef0 1eef2"),
  (["armi", "imperialaramaic"],
    "10840 10856 10857 10860"),
  (["armn", "armenian"],
    "531 557 559 58b 58d 590 fb13 fb18"),
  (["avst", "avestan"],
    "10b00 10b36 10b39 10b40"),
  (["bali", "balinese"],
    "1b00 1b4d 1b4e 1b80"),
  (["bamu", "bamum"],
    "a6a0 a6f8 16800 16a39"),
  (["bass", "bassavah"],
    "16ad0 16aee 16af0 16af6"),
  (["batk", "batak"],
    "1bc0 1bf4 1bfc 1c00"),
  (["beng", "bengali"],
    "980 984 985 98d 98f 991 993 9a9 9aa 9b1 9b2 9b3 9b6 9ba 9bc 9c5 9c7 9c9 9cb 9cf 9d7 9d8
    9dc 9de 9df 9e4 9e6 9ff"),
  (["bhks", "bhaiksuki"],
    "11c00 11c09 11c0a 11c37 11c38 11c46 11c50 11c6d"),
  (["bopo", "bopomofo"],
    "2ea 2ec 3105 3130 31a0 31c0"),
  (["brah", "brahmi"],
    "11000 1104e 11052 11076 1107f 11080"),
  (["brai", "braille"],
    "2800 2900"),
  (["bugi", "buginese"],
    "1a00 1a1c 1a1e 1a20"),
  (["buhd", "buhid"],
    "1740 1754"),
  (["cakm", "chakma"],
    "11100 11135 11136 11148"),
  (["cans", "canadianaboriginal"],
    "1400 1680 18b0 18f6 11ab0 11ac0"),
  (["cari", "carian"],
    "102a0 102d1"),
  (["cham"],
    "aa00 aa37 aa40 aa4e aa50 aa5a aa5c aa60"),
  (["cher", "cherokee"],
    "13a0 13f6 13f8 13fe ab70 abc0"),
  (["chrs", "chorasmian"],
    "10fb0 10fcc"),
  (["copt", "qaac", "coptic"],
    "3e2 3f0 2c80 2cf4 2cf9 2d00"),
  (["cpmn", "cyprominoan"],
    "12f90 12ff3"),
  (["cprt", "cypriot"],
    "10800 10806 10808 10809 1080a 10836 10837 10839 1083c 1083d 1083f 10840"),
  (["cyrl", "cyrillic"],
    "400 485 487 530 1c80 1c8b 1d2b 1d2c 1d78 1d79 2de0 2e00 a640 a6a0 fe2e fe30 1e030 1e06e
    1e08f 1e090"),
  (["deva", "devanagari"],
    "900 951 955 964 966 980 a8e0 a900 11b00 11b0a"),
  (["diak", "divesakuru"],
    "11900 11907 11909 1190a 1190c 11914 11915 11917 11918 11936 11937 11939 1193b 11947 11950
    1195a"),
  (["dogr", "dogra"],
    "11800 1183c"),
  (["dsrt", "deseret"],
    "10400 10450"),
  (["dupl", "duployan"],
    "1bc00 1bc6b 1bc70 1bc7d 1bc80 1bc89 1bc90 1bc9a 1bc9c 1bca0"),
  (["egyp", "egyptianhieroglyphs"],
    "13000 13456 13460 143fb"),
  (["elba", "elbasan"],
    "10500 10528"),
  (["elym", "elymaic"],
    "10fe0 10ff7"),
  (["ethi", "ethiopic"],
    "1200 1249 124a 124e 1250 1257 1258 1259 125a 125e 1260 1289 128a 128e 1290 12b1 12b2 12b6
    12b8 12bf 12c0 12c1 12c2 12c6 12c8 12d7 12d8 1311 1312 1316 1318 135b 135d 137d 1380 139a
    2d80 2d97 2da0 2da7 2da8 2daf 2db0 2db7 2db8 2dbf 2dc0 2dc7 2dc8 2dcf 2dd0 2dd7 2dd8 2ddf
    ab01 ab07 ab09 ab0f ab11 ab17 ab20 ab27 ab28 ab2f 1e7e0 1e7e7 1e7e8 1e7ec 1e7ed 1e7ef 1e7f0
    1e7ff"),
  (["gara", "garay"],
    "10d40 10d66 10d69 10d86 10d8e 10d90"),
  (["geor", "georgian"],
    "10a0 10c6 10c7 10c8 10cd 10ce 10d0 10fb 10fc 1100 1c90 1cbb 1cbd 1cc0 2d00 2d26 2d27 2d28
    2d2d 2d2e"),
  (["glag", "glagolitic"],
    "2c00 2c60 1e000 1e007 1e008 1e019 1e01b 1e022 1e023 1e025 1e026 1e02b"),
  (["gong", "gunjalagondi"],
    "11d60 11d66 11d67 11d69 11d6a 11d8f 11d90 11d92 11d93 11d99 11da0 11daa"),
  (["gonm", "masaramgondi"],
    "11d00 11d07 11d08 11d0a 11d0b 11d37 11d3a 11d3b 11d3c 11d3e 11d3f 11d48 11d50 11d5a"),
  (["goth", "gothic"],
    "10330 1034b"),
  (["gran", "grantha"],
    "11300 11304 11305 1130d 1130f 11311 11313 11329 1132a 11331 11332 11334 11335 1133a 1133c
    11345 11347 11349 1134b 1134e 11350 11351 11357 11358 1135d 11364 11366 1136d 11370 11375"),
  (["grek", "greek"],
    "370 374 375 378 37a 37e 37f 380 384 385 386 387 388 38b 38c 38d 38e 3a2 3a3 3e2 3f0 400
    1d26 1d2b 1d5d 1d62 1d66 1d6b 1dbf 1dc0 1f00 1f16 1f18 1f1e 1f20 1f46 1f48 1f4e 1f50 1f58
    1f59 1f5a 1f5b 1f5c 1f5d 1f5e 1f5f 1f7e 1f80 1fb5 1fb6 1fc5 1fc6 1fd4 1fd6 1fdc 1fdd 1ff0
    1ff2 1ff5 1ff6 1fff 2126 2127 ab65 ab66 10140 1018f 101a0 101a1 1d200 1d246"),
  (["gujr", "gujarati"],
    "a81 a84 a85 a8e a8f a92 a93 aa9 aaa ab1 ab2 ab4 ab5 aba abc ac6 ac7 aca acb ace ad0 ad1
    ae0 ae4 ae6 af2 af9 b00"),
  (["gukh", "gurungkhema"],
    "16100 1613a"),
  (["guru", "gurmukhi"],
    "a01 a04 a05 a0b a0f a11 a13 a29 a2a a31 a32 a34 a35 a37 a38 a3a a3c a3d a3e a43 a47 a49
    a4b a4e a51 a52 a59 a5d a5e a5f a66 a77"),
  (["han", "hani"],
    "2e80 2e9a 2e9b 2ef4 2f00 2fd6 3005 3006 3007 3008 3021 302a 3038 303c 3400 4dc0 4e00 a000
    f900 fa6e fa70 fada 16fe2 16fe4 16ff0 16ff2 20000 2a6e0 2a700 2b73a 2b740 2b81e 2b820 2cea2
    2ceb0 2ebe1 2ebf0 2ee5e 2f800 2fa1e 30000 3134b 31350 323b0"),
  (["hang", "hangul"],
    "1100 1200 302e 3030 3131 318f 3200 321f 3260 327f a960 a97d ac00 d7a4 d7b0 d7c7 d7cb d7fc
    ffa0 ffbf ffc2 ffc8 ffca ffd0 ffd2 ffd8 ffda ffdd"),
  (["hano", "hanunoo"],
    "1720 1735"),
  (["hatr", "hatran"],
    "108e0 108f3 108f4 108f6 108fb 10900"),
  (["hebr", "hebrew"],
    "591 5c8 5d0 5eb 5ef 5f5 fb1d fb37 fb38 fb3d fb3e fb3f fb40 fb42 fb43 fb45 fb46 fb50"),
  (["hira", "hiragana"],
    "3041 3097 309d 30a0 1b001 1b120 1b132 1b133 1b150 1b153 1f200 1f201"),
  (["hluw", "anatolianhieroglyphs"],
    "14400 14647"),
  (["hmng", "pahawhhmong"],
    "16b00 16b46 16b50 16b5a 16b5b 16b62 16b63 16b78 16b7d 16b90"),
  (["hmnp", "nyiakengpuachuehmong"],
    "1e100 1e12d 1e130 1e13e 1e140 1e14a 1e14e 1e150"),
  (["hung", "oldhungarian"],
    "10c80 10cb3 10cc0 10cf3 10cfa 10d00"),
  (["ital", "olditalic"],
    "10300 10324 1032d 10330"),
  (["java", "javanese"],
    "a980 a9ce a9d0 a9da a9de a9e0"),
  (["kali", "kayahli"],
    "a900 a92e a92f a930"),
  (["kana", "katakana"],
    "30a1 30fb 30fd 3100 31f0 3200 32d0 32ff 3300 3358 ff66 ff70 ff71 ff9e 1aff0 1aff4 1aff5
    1affc 1affd 1afff 1b000 1b001 1b120 1b123 1b155 1b156 1b164 1b168"),
  (["kawi"],
    "11f00 11f11 11f12 11f3b 11f3e 11f5b"),
  (["khar", "kharoshthi"],
    "10a00 10a04 10a05 10a07 10a0c 10a14 10a15 10a18 10a19 10a36 10a38 10a3b 10a3f 10a49 10a50
    10a59"),
  (["khmr", "khmer"],
    "1780 17de 17e0 17ea 17f0 17fa 19e0 1a00"),
  (["khoj", "khojki"],
    "11200 11212 11213 11242"),
  (["kits", "khitansmallscript"],
    "16fe4 16fe5 18b00 18cd6 18cff 18d00"),
  (["knda", "kannada"],
    "c80 c8d c8e c91 c92 ca9 caa cb4 cb5 cba cbc cc5 cc6 cc9 cca cce cd5 cd7 cdd cdf ce0 ce4
    ce6 cf0 cf1 cf4"),
  (["krai", "kiratrai"],
    "16d40 16d7a"),
  (["kthi", "kaithi"],
    "11080 110c3 110cd 110ce"),
  (["lana", "taitham"],
    "1a20 1a5f 1a60 1a7d 1a7f 1a8a 1a90 1a9a 1aa0 1aae"),
  (["lao", "laoo"],
    "e81 e83 e84 e85 e86 e8b e8c ea4 ea5 ea6 ea7 ebe ec0 ec5 ec6 ec7 ec8 ecf ed0 eda edc ee0"),
  (["latn", "latin"],
    "41 5b 61 7b aa ab ba bb c0 d7 d8 f7 f8 2b9 2e0 2e5 1d00 1d26 1d2c 1d5d 1d62 1d66 1d6b 1d78
    1d79 1dbf 1e00 1f00 2071 2072 207f 2080 2090 209d 212a 212c 2132 2133 214e 214f 2160 2189
    2c60 2c80 a722 a788 a78b a7ce a7d0 a7d2 a7d3 a7d4 a7d5 a7dd a7f2 a800 ab30 ab5b ab5c ab65
    ab66 ab6a fb00 fb07 ff21 ff3b ff41 ff5b 10780 10786 10787 107b1 107b2 107bb 1df00 1df1f
    1df25 1df2b"),
  (["lepc", "lepcha"],
    "1c00 1c38 1c3b 1c4a 1c4d 1c50"),
  (["limb", "limbu"],
    "1900 191f 1920 192c 1930 193c 1940 1941 1944 1950"),
  (["lina", "lineara"],
    "10600 10737 10740 10756 10760 10768"),
  (["linb", "linearb"],
    "10000 1000c 1000d 10027 10028 1003b 1003c 1003e 1003f 1004e 10050 1005e 10080 100fb"),
  (["lisu"],
    "a4d0 a500 11fb0 11fb1"),
  (["lyci", "lycian"],
    "10280 1029d"),
  (["lydi", "lydian"],
    "10920 1093a 1093f 10940"),
  (["mahj", "mahajani"],
    "11150 11177"),
  (["maka", "makasar"],
    "11ee0 11ef9"),
  (["mand", "mandaic"],
    "840 85c 85e 85f"),
  (["mani", "manichaean"],
    "10ac0 10ae7 10aeb 10af7"),
  (["marc", "marchen"],
    "11c70 11c90 11c92 11ca8 11ca9 11cb7"),
  (["medf", "medefaidrin"],
    "16e40 16e9b"),
  (["mend", "mendekikakui"],
    "1e800 1e8c5 1e8c7 1e8d7"),
  (["merc", "meroiticcursive"],
    "109a0 109b8 109bc 109d0 109d2 10a00"),
  (["mero", "meroitichieroglyphs"],
    "10980 109a0"),
  (["miao", "plrd"],
    "16f00 16f4b 16f4f 16f88 16f8f 16fa0"),
  (["mlym", "malayalam"],
    "d00 d0d d0e d11 d12 d45 d46 d49 d4a d50 d54 d64 d66 d80"),
  (["modi"],
    "11600 11645 11650 1165a"),
  (["mong", "mongolian"],
    "1800 1802 1804 1805 1806 181a 1820 1879 1880 18ab 11660 1166d"),
  (["mro", "mroo"],
    "16a40 16a5f 16a60 16a6a 16a6e 16a70"),
  (["mtei", "meeteimayek"],
    "aae0 aaf7 abc0 abee abf0 abfa"),
  (["mult", "multani"],
    "11280 11287 11288 11289 1128a 1128e 1128f 1129e 1129f 112aa"),
  (["mymr", "myanmar"],
    "1000 10a0 a9e0 a9ff aa60 aa80 116d0 116e4"),
  (["nagm", "nagmundari"],
    "1e4d0 1e4fa"),
  (["nand", "nandinagari"],
    "119a0 119a8 119aa 119d8 119da 119e5"),
  (["narb", "oldnortharabian"],
    "10a80 10aa0"),
  (["nbat", "nabataean"],
    "10880 1089f 108a7 108b0"),
  (["newa"],
    "11400 1145c 1145d 11462"),
  (["nko", "nkoo"],
    "7c0 7fb 7fd 800"),
  (["nshu", "nushu"],
    "16fe1 16fe2 1b170 1b2fc"),
  (["ogam", "ogham"],
    "1680 169d"),
  (["olck", "olchiki"],
    "1c50 1c80"),
  (["onao", "olonal"],
    "1e5d0 1e5fb 1e5ff 1e600"),
  (["orkh", "oldturkic"],
    "10c00 10c49"),
  (["orya", "oriya"],
    "b01 b04 b05 b0d b0f b11 b13 b29 b2a b31 b32 b34 b35 b3a b3c b45 b47 b49 b4b b4e b55 b58
    b5c b5e b5f b64 b66 b78"),
  (["osge", "osage"],
    "104b0 104d4 104d8 104fc"),
  (["osma", "osmanya"],
    "10480 1049e 104a0 104aa"),
  (["ougr", "olduyghur"],
    "10f70 10f8a"),
  (["palm", "palmyrene"],
    "10860 10880"),
  (["pauc", "paucinhau"],
    "11ac0 11af9"),
  (["perm", "oldpermic"],
    "10350 1037b"),
  (["phag", "phagspa"],
    "a840 a878"),
  (["phli", "inscriptionalpahlavi"],
    "10b60 10b73 10b78 10b80"),
  (["phlp", "psalterpahlavi"],
    "10b80 10b92 10b99 10b9d 10ba9 10bb0"),
  (["phnx", "phoenician"],
    "10900 1091c 1091f 10920"),
  (["prti", "inscriptionalparthian"],
    "10b40 10b56 10b58 10b60"),
  (["qaai", "zinh", "inherited"],
    "300 370 485 487 64b 656 670 671 951 955 1ab0 1acf 1cd0 1cd3 1cd4 1ce1 1ce2 1ce9 1ced 1cee
    1cf4 1cf5 1cf8 1cfa 1dc0 1e00 200c 200e 20d0 20f1 302a 302e 3099 309b fe00 fe10 fe20 fe2e
    101fd 101fe 102e0 102e1 1133b 1133c 1cf00 1cf2e 1cf30 1cf47 1d167 1d16a 1d17b 1d183 1d185
    1d18c 1d1aa 1d1ae e0100 e01f0"),
  (["rjng", "rejang"],
    "a930 a954 a95f a960"),
  (["rohg", "hanifirohingya"],
    "10d00 10d28 10d30 10d3a"),
  (["runr", "runic"],
    "16a0 16eb 16ee 16f9"),
  (["samr", "samaritan"],
    "800 82e 830 83f"),
  (["sarb", "oldsoutharabian"],
    "10a60 10a80"),
  (["saur", "saurashtra"],
    "a880 a8c6 a8ce a8da"),
  (["sgnw", "signwriting"],
    "1d800 1da8c 1da9b 1daa0 1daa1 1dab0"),
  (["shaw", "shavian"],
    "10450 10480"),
  (["shrd", "sharada"],
    "11180 111e0"),
  (["sidd", "siddham"],
    "11580 115b6 115b8 115de"),
  (["sind", "khudawadi"],
    "112b0 112eb 112f0 112fa"),
  (["sinh", "sinhala"],
    "d81 d84 d85 d97 d9a db2 db3 dbc dbd dbe dc0 dc7 dca dcb dcf dd5 dd6 dd7 dd8 de0 de6 df0
    df2 df5 111e1 111f5"),
  (["sogd", "sogdian"],
    "10f30 10f5a"),
  (["sogo", "oldsogdian"],
    "10f00 10f28"),
  (["sora", "sorasompeng"],
    "110d0 110e9 110f0 110fa"),
  (["soyo", "soyombo"],
    "11a50 11aa3"),
  (["sund", "sundanese"],
    "1b80 1bc0 1cc0 1cc8"),
  (["sunu", "sunuwar"],
    "11bc0 11be2 11bf0 11bfa"),
  (["sylo", "sylotinagri"],
    "a800 a82d"),
  (["syrc", "syriac"],
    "700 70e 70f 74b 74d 750 860 86b"),
  (["tagb", "tagbanwa"],
    "1760 176d 176e 1771 1772 1774"),
  (["takr", "takri"],
    "11680 116ba 116c0 116ca"),
  (["tale", "taile"],
    "1950 196e 1970 1975"),
  (["talu", "newtailue"],
    "1980 19ac 19b0 19ca 19d0 19db 19de 19e0"),
  (["taml", "tamil"],
    "b82 b84 b85 b8b b8e b91 b92 b96 b99 b9b b9c b9d b9e ba0 ba3 ba5 ba8 bab bae bba bbe bc3
    bc6 bc9 bca bce bd0 bd1 bd7 bd8 be6 bfb 11fc0 11ff2 11fff 12000"),
  (["tang", "tangut"],
    "16fe0 16fe1 17000 187f8 18800 18b00 18d00 18d09"),
  (["tavt", "taiviet"],
    "aa80 aac3 aadb aae0"),
  (["telu", "telugu"],
    "c00 c0d c0e c11 c12 c29 c2a c3a c3c c45 c46 c49 c4a c4e c55 c57 c58 c5b c5d c5e c60 c64
    c66 c70 c77 c80"),
  (["tfng", "tifinagh"],
    "2d30 2d68 2d6f 2d71 2d7f 2d80"),
  (["tglg", "tagalog"],
    "1700 1716 171f 1720"),
  (["thaa", "thaana"],
    "780 7b2"),
  (["thai"],
    "e01 e3b e40 e5c"),
  (["tibt", "tibetan"],
    "f00 f48 f49 f6d f71 f98 f99 fbd fbe fcd fce fd5 fd9 fdb"),
  (["tirh", "tirhuta"],
    "11480 114c8 114d0 114da"),
  (["tnsa", "tangsa"],
    "16a70 16abf 16ac0 16aca"),
  (["todr", "todhri"],
    "105c0 105f4"),
  (["toto"],
    "1e290 1e2af"),
  (["tutg", "tulutigalari"],
    "11380 1138a 1138b 1138c 1138e 1138f 11390 113b6 113b7 113c1 113c2 113c3 113c5 113c6 113c7
    113cb 113cc 113d6 113d7 113d9 113e1 113e3"),
  (["ugar", "ugaritic"],
    "10380 1039e 1039f 103a0"),
  (["vai", "vaii"],
    "a500 a62c"),
  (["vith", "vithkuqi"],
    "10570 1057b 1057c 1058b 1058c 10593 10594 10596 10597 105a2 105a3 105b2 105b3 105ba 105bb
    105bd"),
  (["wara", "warangciti"],
    "118a0 118f3 118ff 11900"),
  (["wcho", "wancho"],
    "1e2c0 1e2fa 1e2ff 1e300"),
  (["xpeo", "oldpersian"],
    "103a0 103c4 103c8 103d6"),
  (["xsux", "cuneiform"],
    "12000 1239a 12400 1246f 12470 12475 12480 12544"),
  (["yezi", "yezidi"],
    "10e80 10eaa 10eab 10eae 10eb0 10eb2"),
  (["yi", "yiii"],
    "a000 a48d a490 a4c7"),
  (["zanb", "zanabazarsquare"],
    "11a00 11a48"),
  (["zyyy", "common"],
    "0 41 5b 61 7b aa ab ba bb c0 d7 d8 f7 f8 2b9 2e0 2e5 2ea 2ec 300 374 375 37e 37f 385 386
    387 388 605 606 60c 60d 61b 61c 61f 620 640 641 6dd 6de 8e2 8e3 964 966 e3f e40 fd5 fd9
    10fb 10fc 16eb 16ee 1735 1737 1802 1804 1805 1806 1cd3 1cd4 1ce1 1ce2 1ce9 1ced 1cee 1cf4
    1cf5 1cf8 1cfa 1cfb 2000 200c 200e 2065 2066 2071 2074 207f 2080 208f 20a0 20c1 2100 2126
    2127 212a 212c 2132 2133 214e 214f 2160 2189 218c 2190 242a 2440 244b 2460 2800 2900 2b74
    2b76 2b96 2b97 2c00 2e00 2e5e 2ff0 3005 3006 3007 3008 3021 3030 3038 303c 3040 309b 309d
    30a0 30a1 30fb 30fd 3190 31a0 31c0 31e6 31ef 31f0 3220 3260 327f 32d0 32ff 3300 3358 3400
    4dc0 4e00 a700 a722 a788 a78b a830 a83a a92e a92f a9cf a9d0 ab5b ab5c ab6a ab6c fd3e fd40
    fe10 fe1a fe30 fe53 fe54 fe67 fe68 fe6c feff ff00 ff01 ff21 ff3b ff41 ff5b ff66 ff70 ff71
    ff9e ffa0 ffe0 ffe7 ffe8 ffef fff9 fffe 10100 10103 10107 10134 10137 10140 10190 1019d
    101d0 101fd 102e1 102fc 1bca0 1bca4 1cc00 1ccfa 1cd00 1ceb4 1cf50 1cfc4 1d000 1d0f6 1d100
    1d127 1d129 1d167 1d16a 1d17b 1d183 1d185 1d18c 1d1aa 1d1ae 1d1eb 1d2c0 1d2d4 1d2e0 1d2f4
    1d300 1d357 1d360 1d379 1d400 1d455 1d456 1d49d 1d49e 1d4a0 1d4a2 1d4a3 1d4a5 1d4a7 1d4a9
    1d4ad 1d4ae 1d4ba 1d4bb 1d4bc 1d4bd 1d4c4 1d4c5 1d506 1d507 1d50b 1d50d 1d515 1d516 1d51d
    1d51e 1d53a 1d53b 1d53f 1d540 1d545 1d546 1d547 1d54a 1d551 1d552 1d6a6 1d6a8 1d7cc 1d7ce
    1d800 1ec71 1ecb5 1ed01 1ed3e 1f000 1f02c 1f030 1f094 1f0a0 1f0af 1f0b1 1f0c0 1f0c1 1f0d0
    1f0d1 1f0f6 1f100 1f1ae 1f1e6 1f200 1f201 1f203 1f210 1f23c 1f240 1f249 1f250 1f252 1f260
    1f266 1f300 1f6d8 1f6dc 1f6ed 1f6f0 1f6fd 1f700 1f777 1f77b 1f7da 1f7e0 1f7ec 1f7f0 1f7f1
    1f800 1f80c 1f810 1f848 1f850 1f85a 1f860 1f888 1f890 1f8ae 1f8b0 1f8bc 1f8c0 1f8c2 1f900
    1fa54 1fa60 1fa6e 1fa70 1fa7d 1fa80 1fa8a 1fa8f 1fac7 1face 1fadd 1fadf 1faea 1faf0 1faf9
    1fb00 1fb93 1fb94 1fbfa e0001 e0002 e0020 e0080")]

/-- The scripts that are used with code points of other scripts, or whose own are used with others,
with all that are used with them. -/
def extensionTable : List (List String × String) := [
  (["adlm", "adlam"],
    "61f 620 640 641 204f 2050 2e41 2e42 1e900 1e94c 1e950 1e95a 1e95e 1e960"),
  (["aghb", "caucasianalbanian"],
    "304 305 331 332 35e 35f 10530 10564 1056f 10570"),
  (["arab", "arabic"],
    "600 605 606 6dd 6de 700 750 780 870 88f 890 892 897 8e2 8e3 900 204f 2050 2e41 2e42 fb50
    fbc3 fbd3 fd90 fd92 fdc8 fdcf fdd0 fdf0 fe00 fe70 fe75 fe76 fefd 102e0 102fc 10e60 10e7f
    10ec2 10ec5 10efc 10f00 1ee00 1ee04 1ee05 1ee20 1ee21 1ee23 1ee24 1ee25 1ee27 1ee28 1ee29
    1ee33 1ee34 1ee38 1ee39 1ee3a 1ee3b 1ee3c 1ee42 1ee43 1ee47 1ee48 1ee49 1ee4a 1ee4b 1ee4c
    1ee4d 1ee50 1ee51 1ee53 1ee54 1ee55 1ee57 1ee58 1ee59 1ee5a 1ee5b 1ee5c 1ee5d 1ee5e 1ee5f
    1ee60 1ee61 1ee63 1ee64 1ee65 1ee67 1ee6b 1ee6c 1ee73 1ee74 1ee78 1ee79 1ee7d 1ee7e 1ee7f
    1ee80 1ee8a 1ee8b 1ee9c 1eea1 1eea4 1eea5 1eeaa 1eeab 1eebc 1eef0 1eef2"),
  (["armn", "armenian"],
    "308 309 531 557 559 58b 58d 590 fb13 fb18"),
  (["avst", "avestan"],
    "b7 b8 2e30 2e32 10b00 10b36 10b39 10b40"),
  (["beng", "bengali"],
    "2bc 2bd 951 953 964 966 980 984 985 98d 98f 991 993 9a9 9aa 9b1 9b2 9b3 9b6 9ba 9bc 9c5
    9c7 9c9 9cb 9cf 9d7 9d8 9dc 9de 9df 9e4 9e6 9ff 1cd0 1cd1 1cd2 1cd3 1cd5 1cd7 1cd8 1cd9
    1ce1 1ce2 1cea 1ceb 1ced 1cee 1cf2 1cf3 1cf5 1cf8 a8f1 a8f2"),
  (["bopo", "bopomofo"],
    "2c7 2c8 2c9 2cc 2d9 2da 2ea 2ec 3001 3004 3008 3012 3013 3020 302a 302e 3030 3031 3037
    3038 30fb 30fc 3105 3130 31a0 31c0 fe45 fe47 ff61 ff66"),
  (["bugi", "buginese"],
    "1a00 1a1c 1a1e 1a20 a9cf a9d0"),
  (["buhd", "buhid"],
    "1735 1737 1740 1754"),
  (["cakm", "chakma"],
    "9e6 9f0 1040 104a 11100 11135 11136 11148"),
  (["cari", "carian"],
    "b7 b8 205a 205b 205d 205e 2e31 2e32 102a0 102d1"),
  (["cher", "cherokee"],
    "300 303 304 305 30b 30d 323 325 330 332 13a0 13f6 13f8 13fe ab70 abc0"),
  (["copt", "qaac", "coptic"],
    "b7 b8 300 301 304 306 307 308 374 376 3e2 3f0 2c80 2cf4 2cf9 2d00 2e17 2e18 102e0 102fc"),
  (["cpmn", "cyprominoan"],
    "10100 10102 12f90 12ff3"),
  (["cprt", "cypriot"],
    "10100 10103 10107 10134 10137 10140 10800 10806 10808 10809 1080a 10836 10837 10839 1083c
    1083d 1083f 10840"),
  (["cyrl", "cyrillic"],
    "2bc 2bd 300 303 304 305 306 307 308 309 30b 30c 311 312 400 530 1c80 1c8b 1d2b 1d2c 1d78
    1d79 1df8 1df9 2de0 2e00 2e43 2e44 a640 a6a0 fe2e fe30 1e030 1e06e 1e08f 1e090"),
  (["deva", "devanagari"],
    "2bc 2bd 900 953 955 980 1cd0 1cf7 1cf8 1cfa 20f0 20f1 a830 a83a a8e0 a900 11b00 11b0a"),
  (["dogr", "dogra"],
    "964 970 a830 a83a 11800 1183c"),
  (["dupl", "duployan"],
    "b7 b8 307 309 30a 30b 323 325 2e3c 2e3d 1bc00 1bc6b 1bc70 1bc7d 1bc80 1bc89 1bc90 1bc9a
    1bc9c 1bca4"),
  (["elba", "elbasan"],
    "b7 b8 305 306 10500 10528"),
  (["ethi", "ethiopic"],
    "30e 30f 1200 1249 124a 124e 1250 1257 1258 1259 125a 125e 1260 1289 128a 128e 1290 12b1
    12b2 12b6 12b8 12bf 12c0 12c1 12c2 12c6 12c8 12d7 12d8 1311 1312 1316 1318 135b 135d 137d
    1380 139a 2d80 2d97 2da0 2da7 2da8 2daf 2db0 2db7 2db8 2dbf 2dc0 2dc7 2dc8 2dcf 2dd0 2dd7
    2dd8 2ddf ab01 ab07 ab09 ab0f ab11 ab17 ab20 ab27 ab28 ab2f 1e7e0 1e7e7 1e7e8 1e7ec 1e7ed
    1e7ef 1e7f0 1e7ff"),
  (["gara", "garay"],
    "60c 60d 61b 61c 61f 620 10d40 10d66 10d69 10d86 10d8e 10d90"),
  (["geor", "georgian"],
    "b7 b8 589 58a 10a0 10c6 10c7 10c8 10cd 10ce 10d0 1100 1c90 1cbb 1cbd 1cc0 205a 205b 2d00
    2d26 2d27 2d28 2d2d 2d2e 2e31 2e32"),
  (["glag", "glagolitic"],
    "b7 b8 303 304 305 306 484 485 487 488 589 58a 10fb 10fc 205a 205b 2c00 2c60 2e43 2e44 a66f
    a670 1e000 1e007 1e008 1e019 1e01b 1e022 1e023 1e025 1e026 1e02b"),
  (["gong", "gunjalagondi"],
    "b7 b8 964 966 11d60 11d66 11d67 11d69 11d6a 11d8f 11d90 11d92 11d93 11d99 11da0 11daa"),
  (["gonm", "masaramgondi"],
    "964 966 11d00 11d07 11d08 11d0a 11d0b 11d37 11d3a 11d3b 11d3c 11d3e 11d3f 11d48 11d50
    11d5a"),
  (["goth", "gothic"],
    "b7 b8 304 306 308 309 331 332 10330 1034b"),
  (["gran", "grantha"],
    "951 953 964 966 be6 bf4 1cd0 1cd1 1cd2 1cd4 1cf2 1cf5 1cf8 1cfa 20f0 20f1 11300 11304
    11305 1130d 1130f 11311 11313 11329 1132a 11331 11332 11334 11335 1133a 1133b 11345 11347
    11349 1134b 1134e 11350 11351 11357 11358 1135d 11364 11366 1136d 11370 11375 11fd0 11fd2
    11fd3 11fd4"),
  (["grek", "greek"],
    "b7 b8 300 302 304 305 306 307 308 309 313 314 342 343 345 346 370 378 37a 37e 37f 380 384
    385 386 387 388 38b 38c 38d 38e 3a2 3a3 3e2 3f0 400 1d26 1d2b 1d5d 1d62 1d66 1d6b 1dbf 1dc2
    1f00 1f16 1f18 1f1e 1f20 1f46 1f48 1f4e 1f50 1f58 1f59 1f5a 1f5b 1f5c 1f5d 1f5e 1f5f 1f7e
    1f80 1fb5 1fb6 1fc5 1fc6 1fd4 1fd6 1fdc 1fdd 1ff0 1ff2 1ff5 1ff6 1fff 205d 205e 2126 2127
    ab65 ab66 10140 1018f 101a0 101a1 1d200 1d246"),
  (["gujr", "gujarati"],
    "951 953 964 966 a81 a84 a85 a8e a8f a92 a93 aa9 aaa ab1 ab2 ab4 ab5 aba abc ac6 ac7 aca
    acb ace ad0 ad1 ae0 ae4 ae6 af2 af9 b00 a830 a83a"),
  (["gukh", "gurungkhema"],
    "965 966 16100 1613a"),
  (["guru", "gurmukhi"],
    "951 953 964 966 a01 a04 a05 a0b a0f a11 a13 a29 a2a a31 a32 a34 a35 a37 a38 a3a a3c a3d
    a3e a43 a47 a49 a4b a4e a51 a52 a59 a5d a5e a5f a66 a77 a830 a83a"),
  (["han", "hani"],
    "b7 b8 2e80 2e9a 2e9b 2ef4 2f00 2fd6 2ff0 3000 3001 3004 3005 3012 3013 3020 3021 302e 3030
    3031 3037 3040 30fb 30fc 3190 31a0 31c0 31e6 31ef 31f0 3220 3248 3280 32b1 32c0 32cc 32ff
    3300 3358 3371 337b 3380 33e0 33ff 3400 4dc0 4e00 a000 a700 a708 f900 fa6e fa70 fada fe45
    fe47 ff61 ff66 16fe2 16fe4 16ff0 16ff2 1d360 1d372 1f250 1f252 20000 2a6e0 2a700 2b73a
    2b740 2b81e 2b820 2cea2 2ceb0 2ebe1 2ebf0 2ee5e 2f800 2fa1e 30000 3134b 31350 323b0"),
  (["hang", "hangul"],
    "1100 1200 3001 3004 3008 3012 3013 3020 302e 3031 3037 3038 30fb 30fc 3131 318f 3200 321f
    3260 327f a960 a97d ac00 d7a4 d7b0 d7c7 d7cb d7fc fe45 fe47 ff61 ff66 ffa0 ffbf ffc2 ffc8
    ffca ffd0 ffd2 ffd8 ffda ffdd"),
  (["hano", "hanunoo"],
    "1720 1737"),
  (["hebr", "hebrew"],
    "307 309 591 5c8 5d0 5eb 5ef 5f5 fb1d fb37 fb38 fb3d fb3e fb3f fb40 fb42 fb43 fb45 fb46
    fb50"),
  (["hira", "hiragana"],
    "3001 3004 3008 3012 3013 3020 3030 3036 3037 3038 303c 303e 3041 3097 3099 30a1 30fb 30fd
    fe45 fe47 ff61 ff66 ff70 ff71 ff9e ffa0 1b001 1b120 1b132 1b133 1b150 1b153 1f200 1f201"),
  (["hung", "oldhungarian"],
    "205a 205b 205d 205e 2e31 2e32 2e41 2e42 10c80 10cb3 10cc0 10cf3 10cfa 10d00"),
  (["java", "javanese"],
    "a980 a9ce a9cf a9da a9de a9e0"),
  (["kali", "kayahli"],
    "a900 a930"),
  (["kana", "katakana"],
    "305 306 323 324 3001 3004 3008 3012 3013 3020 3030 3036 3037 3038 303c 303e 3099 309d 30a0
    3100 31f0 3200 32d0 32ff 3300 3358 fe45 fe47 ff61 ffa0 1aff0 1aff4 1aff5 1affc 1affd 1afff
    1b000 1b001 1b120 1b123 1b155 1b156 1b164 1b168"),
  (["khoj", "khojki"],
    "ae6 af0 a830 a83a 11200 11212 11213 11242"),
  (["knda", "kannada"],
    "951 953 964 966 c80 c8d c8e c91 c92 ca9 caa cb4 cb5 cba cbc cc5 cc6 cc9 cca cce cd5 cd7
    cdd cdf ce0 ce4 ce6 cf0 cf1 cf4 1cd0 1cd1 1cd2 1cd4 1cda 1cdb 1cf2 1cf3 1cf4 1cf5 a830 a836"),
  (["kthi", "kaithi"],
    "966 970 2e31 2e32 a830 a83a 11080 110c3 110cd 110ce"),
  (["latn", "latin"],
    "41 5b 61 7b aa ab b7 b8 ba bb c0 d7 d8 f7 f8 2b9 2bc 2bd 2c7 2c8 2c9 2cc 2cd 2ce 2d7 2d8
    2d9 2da 2e0 2e5 300 30f 310 312 313 314 320 321 323 326 32d 32f 330 332 358 359 35e 35f 363
    370 485 487 951 953 10fb 10fc 1d00 1d26 1d2c 1d5d 1d62 1d66 1d6b 1d78 1d79 1dbf 1df8 1df9
    1e00 1f00 202f 2030 2071 2072 207f 2080 2090 209d 20f0 20f1 212a 212c 2132 2133 214e 214f
    2160 2189 2c60 2c80 2e17 2e18 a700 a708 a722 a788 a78b a7ce a7d0 a7d2 a7d3 a7d4 a7d5 a7dd
    a7f2 a800 a92e a92f ab30 ab5b ab5c ab65 ab66 ab6a fb00 fb07 ff21 ff3b ff41 ff5b 10780 10786
    10787 107b1 107b2 107bb 1df00 1df1f 1df25 1df2b"),
  (["limb", "limbu"],
    "965 966 1900 191f 1920 192c 1930 193c 1940 1941 1944 1950"),
  (["lina", "lineara"],
    "10107 10134 10600 10737 10740 10756 10760 10768"),
  (["linb", "linearb"],
    "10000 1000c 1000d 10027 10028 1003b 1003c 1003e 1003f 1004e 10050 1005e 10080 100fb 10100
    10103 10107 10134 10137 10140"),
  (["lisu"],
    "2bc 2bd 2cd 2ce 300a 300c a4d0 a500 11fb0 11fb1"),
  (["lyci", "lycian"],
    "205a 205b 10280 1029d"),
  (["lydi", "lydian"],
    "b7 b8 2e31 2e32 10920 1093a 1093f 10940"),
  (["mahj", "mahajani"],
    "b7 b8 964 970 a830 a83a 11150 11177"),
  (["mand", "mandaic"],
    "640 641 840 85c 85e 85f"),
  (["mani", "manichaean"],
    "640 641 10ac0 10ae7 10aeb 10af7"),
  (["mero", "meroitichieroglyphs"],
    "205d 205e 10980 109a0"),
  (["mlym", "malayalam"],
    "951 953 964 966 d00 d0d d0e d11 d12 d45 d46 d49 d4a d50 d54 d64 d66 d80 1cda 1cdb 1cf2
    1cf3 a830 a833"),
  (["modi"],
    "a830 a83a 11600 11645 11650 1165a"),
  (["mong", "mongolian"],
    "1800 181a 1820 1879 1880 18ab 202f 2030 3001 3003 3008 300c 11660 1166d"),
  (["mult", "multani"],
    "a66 a70 11280 11287 11288 11289 1128a 1128e 1128f 1129e 1129f 112aa"),
  (["mymr", "myanmar"],
    "1000 10a0 a92e a92f a9e0 a9ff aa60 aa80 116d0 116e4"),
  (["nand", "nandinagari"],
    "964 966 ce6 cf0 1ce9 1cea 1cf2 1cf3 1cfa 1cfb a830 a836 119a0 119a8 119aa 119d8 119da
    119e5"),
  (["nko", "nkoo"],
    "60c 60d 61b 61c 61f 620 7c0 7fb 7fd 800 fd3e fd40"),
  (["onao", "olonal"],
    "964 966 1e5d0 1e5fb 1e5ff 1e600"),
  (["orkh", "oldturkic"],
    "205a 205b 2e30 2e31 10c00 10c49"),
  (["orya", "oriya"],
    "951 953 964 966 b01 b04 b05 b0d b0f b11 b13 b29 b2a b31 b32 b34 b35 b3a b3c b45 b47 b49
    b4b b4e b55 b58 b5c b5e b5f b64 b66 b78 1cda 1cdb 1cf2 1cf3"),
  (["osge", "osage"],
    "301 302 304 305 30b 30c 358 359 104b0 104d4 104d8 104fc"),
  (["ougr", "olduyghur"],
    "640 641 10af2 10af3 10f70 10f8a"),
  (["perm", "oldpermic"],
    "b7 b8 300 301 306 309 313 314 483 484 10350 1037b"),
  (["phag", "phagspa"],
    "1802 1804 1805 1806 202f 2030 3002 3003 a840 a878"),
  (["phlp", "psalterpahlavi"],
    "640 641 10b80 10b92 10b99 10b9d 10ba9 10bb0"),
  (["qaai", "zinh", "inherited"],
    "30f 310 312 313 314 320 321 323 326 32d 32f 330 332 342 343 345 346 358 359 35e 35f 363
    953 955 1ab0 1acf 1dc2 1df8 1df9 1dfa 1dfb 1e00 200c 200e 20d0 20f0 fe00 fe10 fe20 fe2e
    101fd 101fe 1cf00 1cf2e 1cf30 1cf47 1d167 1d16a 1d17b 1d183 1d185 1d18c 1d1aa 1d1ae e0100
    e01f0"),
  (["rohg", "hanifirohingya"],
    "60c 60d 61b 61c 61f 620 640 641 6d4 6d5 10d00 10d28 10d30 10d3a"),
  (["runr", "runic"],
    "16a0 16f9"),
  (["samr", "samaritan"],
    "800 82e 830 83f 2e31 2e32"),
  (["shaw", "shavian"],
    "b7 b8 10450 10480"),
  (["shrd", "sharada"],
    "951 952 1cd7 1cd8 1cd9 1cda 1cdc 1cde 1ce0 1ce1 a830 a836 a838 a839 11180 111e0"),
  (["sind", "khudawadi"],
    "964 966 a830 a83a 112b0 112eb 112f0 112fa"),
  (["sinh", "sinhala"],
    "964 966 d81 d84 d85 d97 d9a db2 db3 dbc dbd dbe dc0 dc7 dca dcb dcf dd5 dd6 dd7 dd8 de0
    de6 df0 df2 df5 1cf2 1cf3 111e1 111f5"),
  (["sogd", "sogdian"],
    "640 641 10f30 10f5a"),
  (["sunu", "sunuwar"],
    "300 302 303 304 30d 30e 310 311 32d 32e 331 332 11bc0 11be2 11bf0 11bfa"),
  (["sylo", "sylotinagri"],
    "964 966 9e6 9f0 a800 a82d"),
  (["syrc", "syriac"],
    "303 305 307 309 30a 30b 320 321 323 326 32d 32f 330 331 60c 60d 61b 61d 61f 620 640 641
    64b 656 670 671 700 70e 70f 74b 74d 750 860 86b 1df8 1df9 1dfa 1dfb"),
  (["tagb", "tagbanwa"],
    "1735 1737 1760 176d 176e 1771 1772 1774"),
  (["takr", "takri"],
    "964 966 a830 a83a 11680 116ba 116c0 116ca"),
  (["tale", "taile"],
    "300 302 307 309 30c 30d 1040 104a 1950 196e 1970 1975"),
  (["taml", "tamil"],
    "951 953 964 966 b82 b84 b85 b8b b8e b91 b92 b96 b99 b9b b9c b9d b9e ba0 ba3 ba5 ba8 bab
    bae bba bbe bc3 bc6 bc9 bca bce bd0 bd1 bd7 bd8 be6 bfb 1cda 1cdb a8f3 a8f4 11301 11302
    11303 11304 1133b 1133d 11fc0 11ff2 11fff 12000"),
  (["tang", "tangut"],
    "2ff0 3000 31ef 31f0 16fe0 16fe1 17000 187f8 18800 18b00 18d00 18d09"),
  (["telu", "telugu"],
    "951 953 964 966 c00 c0d c0e c11 c12 c29 c2a c3a c3c c45 c46 c49 c4a c4e c55 c57 c58 c5b
    c5d c5e c60 c64 c66 c70 c77 c80 1cda 1cdb 1cf2 1cf3"),
  (["tfng", "tifinagh"],
    "302 303 304 305 307 308 309 30a 2d30 2d68 2d6f 2d71 2d7f 2d80"),
  (["tglg", "tagalog"],
    "1700 1716 171f 1720 1735 1737"),
  (["thaa", "thaana"],
    "60c 60d 61b 61d 61f 620 660 66a 780 7b2 fdf2 fdf3 fdfd fdfe"),
  (["thai"],
    "2bc 2bd 2d7 2d8 303 304 331 332 e01 e3b e40 e5c"),
  (["tibt", "tibetan"],
    "f00 f48 f49 f6d f71 f98 f99 fbd fbe fcd fce fd5 fd9 fdb 3008 300c"),
  (["tirh", "tirhuta"],
    "951 953 964 966 1cf2 1cf3 a830 a83a 11480 114c8 114d0 114da"),
  (["todr", "todhri"],
    "301 302 304 305 307 308 311 312 313 314 35e 35f 105c0 105f4"),
  (["toto"],
    "2bc 2bd 1e290 1e2af"),
  (["tutg", "tulutigalari"],
    "ce6 cf0 1cf2 1cf3 1cf4 1cf5 a830 a836 a8f1 a8f2 11380 1138a 1138b 1138c 1138e 1138f 11390
    113b6 113b7 113c1 113c2 113c3 113c5 113c6 113c7 113cb 113cc 113d6 113d7 113d9 113e1 113e3"),
  (["yezi", "yezidi"],
    "60c 60d 61b 61c 61f 620 660 66a 10e80 10eaa 10eab 10eae 10eb0 10eb2"),
  (["yi", "yiii"],
    "3001 3003 3008 3012 3014 301c 30fb 30fc a000 a48d a490 a4c7 ff61 ff66"),
  (["zyyy", "common"],
    "0 41 5b 61 7b aa ab b7 b8 ba bb c0 d7 d8 f7 f8 2b9 2bc 2bd 2c7 2c8 2c9 2cc 2cd 2ce 2d7 2d8
    2d9 2da 2e0 2e5 2ea 2ec 300 37e 37f 385 386 387 388 605 606 6dd 6de 8e2 8e3 e3f e40 fd5 fd9
    2000 200c 200e 202f 2030 204f 2050 205a 205b 205d 205e 2065 2066 2071 2074 207f 2080 208f
    20a0 20c1 2100 2126 2127 212a 212c 2132 2133 214e 214f 2160 2189 218c 2190 242a 2440 244b
    2460 2800 2900 2b74 2b76 2b96 2b97 2c00 2e00 2e17 2e18 2e30 2e32 2e3c 2e3d 2e41 2e42 2e43
    2e44 2e5e 3000 3001 3004 3005 3012 3013 3020 3021 3036 3037 3248 3260 327f 3280 32b1 32c0
    32cc 32d0 3371 337b 3380 33e0 33ff 3400 4dc0 4e00 a708 a722 a788 a78b ab5b ab5c ab6a ab6c
    fe10 fe1a fe30 fe45 fe47 fe53 fe54 fe67 fe68 fe6c feff ff00 ff01 ff21 ff3b ff41 ff5b ff61
    ffe0 ffe7 ffe8 ffef fff9 fffe 10190 1019d 101d0 101fd 1cc00 1ccfa 1cd00 1ceb4 1cf50 1cfc4
    1d000 1d0f6 1d100 1d127 1d129 1d167 1d16a 1d17b 1d183 1d185 1d18c 1d1aa 1d1ae 1d1eb 1d2c0
    1d2d4 1d2e0 1d2f4 1d300 1d357 1d372 1d379 1d400 1d455 1d456 1d49d 1d49e 1d4a0 1d4a2 1d4a3
    1d4a5 1d4a7 1d4a9 1d4ad 1d4ae 1d4ba 1d4bb 1d4bc 1d4bd 1d4c4 1d4c5 1d506 1d507 1d50b 1d50d
    1d515 1d516 1d51d 1d51e 1d53a 1d53b 1d53f 1d540 1d545 1d546 1d547 1d54a 1d551 1d552 1d6a6
    1d6a8 1d7cc 1d7ce 1d800 1ec71 1ecb5 1ed01 1ed3e 1f000 1f02c 1f030 1f094 1f0a0 1f0af 1f0b1
    1f0c0 1f0c1 1f0d0 1f0d1 1f0f6 1f100 1f1ae 1f1e6 1f200 1f201 1f203 1f210 1f23c 1f240 1f249
    1f260 1f266 1f300 1f6d8 1f6dc 1f6ed 1f6f0 1f6fd 1f700 1f777 1f77b 1f7da 1f7e0 1f7ec 1f7f0
    1f7f1 1f800 1f80c 1f810 1f848 1f850 1f85a 1f860 1f888 1f890 1f8ae 1f8b0 1f8bc 1f8c0 1f8c2
    1f900 1fa54 1fa60 1fa6e 1fa70 1fa7d 1fa80 1fa8a 1fa8f 1fac7 1face 1fadd 1fadf 1faea 1faf0
    1faf9 1fb00 1fb93 1fb94 1fbfa e0001 e0002 e0020 e0080")]

end PatternAction.Text
