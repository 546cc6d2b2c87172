import PatternAction.Text.CodeSet

/-!
The versions of the standard: their names in lower case and without joints, and the bounds of the
code points that each assigned, in hexadecimal.
-/

set_option autoImplicit false
set_option relaxedAutoImplicit false

namespace PatternAction.Text

def ageTable : List (List String × String) := [
  (["1.1", "v11"],
    "0 1f6 1fa 218 250 2a9 2b0 2df 2e0 2ea 300 346 360 362 374 376 37a 37b 37e 37f 384 38b 38c
    38d 38e 3a2 3a3 3cf 3d0 3d7 3da 3db 3dc 3dd 3de 3df 3e0 3e1 3e2 3f4 401 40d 40e 450 451 45d
    45e 487 490 4c5 4c7 4c9 4cb 4cd 4d0 4ec 4ee 4f6 4f8 4fa 531 557 559 560 561 588 589 58a 5b0
    5ba 5bb 5c4 5d0 5eb 5f0 5f5 60c 60d 61b 61c 61f 620 621 63b 640 653 660 66e 670 6b8 6ba 6bf
    6c0 6cf 6d0 6ee 6f0 6fa 901 904 905 93a 93c 94e 950 955 958 971 981 984 985 98d 98f 991 993
    9a9 9aa 9b1 9b2 9b3 9b6 9ba 9bc 9bd 9be 9c5 9c7 9c9 9cb 9ce 9d7 9d8 9dc 9de 9df 9e4 9e6 9fb
    a02 a03 a05 a0b a0f a11 a13 a29 a2a a31 a32 a34 a35 a37 a38 a3a a3c a3d a3e a43 a47 a49 a4b
    a4e a59 a5d a5e a5f a66 a75 a81 a84 a85 a8c a8d a8e a8f a92 a93 aa9 aaa ab1 ab2 ab4 ab5 aba
    abc ac6 ac7 aca acb ace ad0 ad1 ae0 ae1 ae6 af0 b01 b04 b05 b0d b0f b11 b13 b29 b2a b31 b32
    b34 b36 b3a b3c b44 b47 b49 b4b b4e b56 b58 b5c b5e b5f b62 b66 b71 b82 b84 b85 b8b b8e b91
    b92 b96 b99 b9b b9c b9d b9e ba0 ba3 ba5 ba8 bab bae bb6 bb7 bba bbe bc3 bc6 bc9 bca bce bd7
    bd8 be7 bf3 c01 c04 c05 c0d c0e c11 c12 c29 c2a c34 c35 c3a c3e c45 c46 c49 c4a c4e c55 c57
    c60 c62 c66 c70 c82 c84 c85 c8d c8e c91 c92 ca9 caa cb4 cb5 cba cbe cc5 cc6 cc9 cca cce cd5
    cd7 cde cdf ce0 ce2 ce6 cf0 d02 d04 d05 d0d d0e d11 d12 d29 d2a d3a d3e d44 d46 d49 d4a d4e
    d57 d58 d60 d62 d66 d70 e01 e3b e3f e5c e81 e83 e84 e85 e87 e89 e8a e8b e8d e8e e94 e98 e99
    ea0 ea1 ea4 ea5 ea6 ea7 ea8 eaa eac ead eba ebb ebe ec0 ec5 ec6 ec7 ec8 ece ed0 eda edc ede
    10a0 10c6 10d0 10f7 10fb 10fc 1100 115a 115f 11a3 11a8 11fa 1e00 1e9b 1ea0 1efa 1f00 1f16
    1f18 1f1e 1f20 1f46 1f48 1f4e 1f50 1f58 1f59 1f5a 1f5b 1f5c 1f5d 1f5e 1f5f 1f7e 1f80 1fb5
    1fb6 1fc5 1fc6 1fd4 1fd6 1fdc 1fdd 1ff0 1ff2 1ff5 1ff6 1fff 2000 202f 2030 2047 206a 2071
    2074 208f 20a0 20ab 20d0 20e2 2100 2139 2153 2183 2190 21eb 2200 22f2 2300 2301 2302 237b
    2400 2425 2440 244b 2460 24eb 2500 2596 25a0 25f0 2600 2614 261a 2670 2701 2705 2706 270a
    270c 2728 2729 274c 274d 274e 274f 2753 2756 2757 2758 275f 2761 2768 2776 2795 2798 27b0
    27b1 27bf 3000 3038 303f 3040 3041 3095 3099 309f 30a1 30ff 3105 312d 3131 318f 3190 31a0
    3200 321d 3220 3244 3260 327c 327f 32b1 32c0 32cc 32d0 32ff 3300 3377 337b 33de 33e0 33ff
    4e00 9fa6 e000 fa2e fb00 fb07 fb13 fb18 fb1e fb37 fb38 fb3d fb3e fb3f fb40 fb42 fb43 fb45
    fb46 fbb2 fbd3 fd40 fd50 fd90 fd92 fdc8 fdf0 fdfc fe20 fe24 fe30 fe45 fe49 fe53 fe54 fe67
    fe68 fe6c fe70 fe73 fe74 fe75 fe76 fefd feff ff00 ff01 ff5f ff61 ffbf ffc2 ffc8 ffca ffd0
    ffd2 ffd8 ffda ffdd ffe0 ffe7 ffe8 ffef fffd 10000"),
  (["2.0", "v20"],
    "591 5a2 5a3 5b0 5c4 5c5 f00 f48 f49 f6a f71 f8c f90 f96 f97 f98 f99 fae fb1 fb8 fb9 fba
    1e9b 1e9c 20ab 20ac ac00 d7a4 1fffe 20000 2fffe 30000 3fffe 40000 4fffe 50000 5fffe 60000
    6fffe 70000 7fffe 80000 8fffe 90000 9fffe a0000 afffe b0000 bfffe c0000 cfffe d0000 dfffe
    e0000 efffe 110000"),
  (["2.1", "v21"],
    "20ac 20ad fffc fffd"),
  (["3.0", "v30"],
    "1f6 1fa 218 220 222 234 2a9 2ae 2df 2e0 2ea 2ef 346 34f 362 363 3d7 3d8 3db 3dc 3dd 3de
    3df 3e0 3e1 3e2 400 401 40d 40e 450 451 45d 45e 488 48a 48c 490 4ec 4ee 58a 58b 653 656 6b8
    6ba 6bf 6c0 6cf 6d0 6fa 6ff 700 70e 70f 72d 730 74b 780 7b1 d82 d84 d85 d97 d9a db2 db3 dbc
    dbd dbe dc0 dc7 dca dcb dcf dd5 dd6 dd7 dd8 de0 df2 df5 f6a f6b f96 f97 fae fb1 fb8 fb9 fba
    fbd fbe fcd fcf fd0 1000 1022 1023 1028 1029 102b 102c 1033 1036 103a 1040 105a 1200 1207
    1208 1247 1248 1249 124a 124e 1250 1257 1258 1259 125a 125e 1260 1287 1288 1289 128a 128e
    1290 12af 12b0 12b1 12b2 12b6 12b8 12bf 12c0 12c1 12c2 12c6 12c8 12cf 12d0 12d7 12d8 12ef
    12f0 130f 1310 1311 1312 1316 1318 131f 1320 1347 1348 135b 1361 137d 13a0 13f5 1401 1677
    1680 169d 16a0 16f1 1780 17dd 17e0 17ea 1800 180f 1810 181a 1820 1878 1880 18aa 202f 2030
    2048 204e 20ad 20b0 20e2 20e4 2139 213b 2183 2184 21eb 21f4 2301 2302 237b 237c 237d 239b
    2425 2427 25f0 25f8 2619 261a 2670 2672 2800 2900 2e80 2e9a 2e9b 2ef4 2f00 2fd6 2ff0 2ffc
    3038 303b 303e 303f 31a0 31b8 3400 4db6 a000 a48d a490 a4a2 a4a4 a4b4 a4b5 a4c1 a4c2 a4c5
    a4c6 a4c7 fb1d fb1e fff9 fffc"),
  (["3.1", "v31"],
    "3f4 3f6 fdd0 fdf0 10300 1031f 10320 10324 10330 1034b 10400 10426 10428 1044e 1d000 1d0f6
    1d100 1d127 1d12a 1d1de 1d400 1d455 1d456 1d49d 1d49e 1d4a0 1d4a2 1d4a3 1d4a5 1d4a7 1d4a9
    1d4ad 1d4ae 1d4ba 1d4bb 1d4bc 1d4bd 1d4c1 1d4c2 1d4c4 1d4c5 1d506 1d507 1d50b 1d50d 1d515
    1d516 1d51d 1d51e 1d53a 1d53b 1d53f 1d540 1d545 1d546 1d547 1d54a 1d551 1d552 1d6a4 1d6a8
    1d7ca 1d7ce 1d800 20000 2a6d7 2f800 2fa1e e0001 e0002 e0020 e0080"),
  (["3.2", "v32"],
    "220 221 34f 350 363 370 3d8 3da 3f6 3f7 48a 48c 4c5 4c7 4c9 4cb 4cd 4cf 500 510 66e 670
    7b1 7b2 10f7 10f9 1700 170d 170e 1715 1720 1737 1740 1754 1760 176d 176e 1771 1772 1774
    2047 2048 204e 2053 2057 2058 205f 2064 2071 2072 20b0 20b2 20e4 20eb 213d 214c 21f4 2200
    22f2 2300 237c 237d 239b 23cf 24eb 24ff 2596 25a0 25f8 2600 2616 2618 2672 267e 2680 268a
    2768 2776 27d0 27ec 27f0 2800 2900 2b00 303b 303e 3095 3097 309f 30a1 30ff 3100 31f0 3200
    3251 3260 32b1 32c0 a4a2 a4a4 a4b4 a4b5 a4c1 a4c2 a4c5 a4c6 fa30 fa6b fdfc fdfd fe00 fe10
    fe45 fe47 fe73 fe74 ff5f ff61"),
  (["4.0", "v40"],
    "221 222 234 237 2ae 2b0 2ef 300 350 358 35d 360 3f7 3fc 600 604 60d 616 656 659 6ee 6f0
    6ff 700 72d 730 74d 750 904 905 9bd 9be a01 a02 a03 a04 a8c a8d ae1 ae4 af1 af2 b35 b36 b71
    b72 bf3 bfb cbc cbe 17dd 17de 17f0 17fa 1900 191d 1920 192c 1930 193c 1940 1941 1944 196e
    1970 1975 19e0 1a00 1d00 1d6c 2053 2055 213b 213c 23cf 23d1 24ff 2500 2614 2616 268a 2692
    26a0 26a2 2b00 2b0e 321d 321f 3250 3251 327c 327e 32cc 32d0 3377 337b 33de 33e0 33ff 3400
    4dc0 4e00 fdfd fdfe fe47 fe49 10000 1000c 1000d 10027 10028 1003b 1003c 1003e 1003f 1004e
    10050 1005e 10080 100fb 10100 10103 10107 10134 10137 10140 10380 1039e 1039f 103a0 10426
    10428 1044e 1049e 104a0 104aa 10800 10806 10808 10809 1080a 10836 10837 10839 1083c 1083d
    1083f 10840 1d300 1d357 1d4c1 1d4c2 e0100 e01f0"),
  (["4.1", "v41"],
    "237 242 358 35d 3fc 400 4f6 4f8 5a2 5a3 5c5 5c8 60b 60c 61e 61f 659 65f 750 76e 97d 97e
    9ce 9cf bb6 bb7 be6 be7 fd0 fd2 10f9 10fb 10fc 10fd 1207 1208 1247 1248 1287 1288 12af 12b0
    12cf 12d0 12ef 12f0 130f 1310 131f 1320 1347 1348 135f 1361 1380 139a 1980 19aa 19b0 19ca
    19d0 19da 19de 19e0 1a00 1a1c 1a1e 1a20 1d6c 1dc4 2055 2057 2058 205f 2090 2095 20b2 20b6
    20eb 20ec 213c 213d 214c 214d 23d1 23dc 2618 2619 267e 2680 2692 269d 26a2 26b2 27c0 27c7
    2b0e 2b14 2c00 2c2f 2c30 2c5f 2c80 2ceb 2cf9 2d26 2d30 2d66 2d6f 2d70 2d80 2d97 2da0 2da7
    2da8 2daf 2db0 2db7 2db8 2dbf 2dc0 2dc7 2dc8 2dcf 2dd0 2dd7 2dd8 2ddf 2e00 2e18 2e1c 2e1e
    31c0 31d0 327e 327f 9fa6 9fbc a700 a717 a800 a82c fa70 fada fe10 fe1a 10140 1018b 103a0
    103c4 103c8 103d6 10a00 10a04 10a05 10a07 10a0c 10a14 10a15 10a18 10a19 10a34 10a38 10a3b
    10a3f 10a48 10a50 10a59 1d200 1d246 1d6a4 1d6a6"),
  (["5.0", "v50"],
    "242 250 37b 37e 4cf 4d0 4fa 500 510 514 5ba 5bb 7c0 7fb 97b 97d 97e 980 ce2 ce4 cf1 cf3
    1b00 1b4c 1b50 1b7d 1dc4 1dcb 1dfe 1e00 20ec 20f0 214d 214f 2184 2185 23dc 23e8 26b2 26b3
    27c7 27cb 2b14 2b1b 2b20 2b24 2c60 2c6d 2c74 2c78 a717 a71b a720 a722 a840 a878 10900 1091a
    1091f 10920 12000 1236f 12400 12463 12470 12474 1d360 1d372 1d7ca 1d7cc"),
  (["5.1", "v51"],
    "370 374 376 378 3cf 3d0 487 488 514 524 606 60b 616 61b 63b 640 76e 780 971 973 a51 a52
    a75 a76 b44 b45 b62 b64 bd0 bd1 c3d c3e c58 c5a c62 c64 c78 c80 d3d d3e d44 d45 d62 d64 d70
    d76 d79 d80 f6b f6d fce fcf fd2 fd5 1022 1023 1028 1029 102b 102c 1033 1036 103a 1040 105a
    109a 109e 10a0 18aa 18ab 1b80 1bab 1bae 1bba 1c00 1c38 1c3b 1c4a 1c4d 1c80 1dcb 1de7 1e9c
    1ea0 1efa 1f00 2064 2065 20f0 20f1 214f 2150 2185 2189 269d 269e 26b3 26bd 26c0 26c4 27cc
    27cd 27ec 27f0 2b1b 2b20 2b24 2b4d 2b50 2b55 2c6d 2c70 2c71 2c74 2c78 2c7e 2de0 2e00 2e18
    2e1c 2e1e 2e31 312d 312e 31d0 31e4 9fbc 9fc4 a500 a62c a640 a660 a662 a674 a67c a698 a71b
    a720 a722 a78d a7fb a800 a880 a8c5 a8ce a8da a900 a954 a95f a960 aa00 aa37 aa40 aa4e aa50
    aa5a aa5c aa60 fe24 fe27 10190 1019c 101d0 101fe 10280 1029d 102a0 102d1 10920 1093a 1093f
    10940 1d129 1d12a 1f000 1f02c 1f030 1f094"),
  (["5.2", "v52"],
    "524 526 800 82e 830 83f 900 901 94e 94f 955 956 979 97b 9fb 9fc fd5 fd9 109a 109e 115a
    115f 11a3 11a8 11fa 1200 1400 1401 1677 1680 18b0 18f6 19aa 19ac 19da 19db 1a20 1a5f 1a60
    1a7d 1a7f 1a8a 1a90 1a9a 1aa0 1aae 1cd0 1cf3 1dfd 1dfe 20b6 20b9 2150 2153 2189 218a 23e8
    23e9 269e 26a0 26bd 26c0 26c4 26ce 26cf 26e2 26e3 26e4 26e8 2700 2757 2758 2b55 2b5a 2c70
    2c71 2c7e 2c80 2ceb 2cf2 2e31 2e32 3244 3250 9fc4 9fcc a4d0 a500 a6a0 a6f8 a830 a83a a8e0
    a8fc a960 a97d a980 a9ce a9cf a9da a9de a9e0 aa60 aa7c aa80 aac3 aadb aae0 abc0 abee abf0
    abfa d7b0 d7c7 d7cb d7fc fa6b fa6e 10840 10856 10857 10860 1091a 1091c 10a60 10a80 10b00
    10b36 10b39 10b56 10b58 10b73 10b78 10b80 10c00 10c49 10e60 10e7f 11080 110c2 13000 1342f
    1f100 1f10b 1f110 1f12f 1f131 1f132 1f13d 1f13e 1f13f 1f140 1f142 1f143 1f146 1f147 1f14a
    1f14f 1f157 1f158 1f15f 1f160 1f179 1f17a 1f17b 1f17d 1f17f 1f180 1f18a 1f18e 1f190 1f191
    1f200 1f201 1f210 1f232 1f240 1f249 2a700 2b735"),
  (["6.0", "v60"],
    "526 528 620 621 65f 660 840 85c 85e 85f 93a 93c 94f 950 956 958 973 978 b72 b78 d29 d2a
    d3a d3b d4e d4f f8c f90 fd9 fdb 135d 135f 1bc0 1bf4 1bfc 1c00 1dfc 1dfd 2095 209d 20b9 20ba
    23e9 23f4 26ce 26cf 26e2 26e3 26e4 26e8 2705 2706 270a 270c 2728 2729 274c 274d 274e 274f
    2753 2756 275f 2761 2795 2798 27b0 27b1 27bf 27c0 27ce 27d0 2d70 2d71 2d7f 2d80 31b8 31bb
    a660 a662 a78d a78f a790 a792 a7a0 a7aa a7fa a7fb ab01 ab07 ab09 ab0f ab11 ab17 ab20 ab27
    ab28 ab2f fbb2 fbc2 11000 1104e 11052 11070 16800 16a39 1b000 1b002 1f0a0 1f0af 1f0b1 1f0bf
    1f0c1 1f0d0 1f0d1 1f0e0 1f130 1f131 1f132 1f13d 1f13e 1f13f 1f140 1f142 1f143 1f146 1f147
    1f14a 1f14f 1f157 1f158 1f15f 1f160 1f16a 1f170 1f179 1f17a 1f17b 1f17d 1f17f 1f180 1f18a
    1f18e 1f190 1f191 1f19b 1f1e6 1f200 1f201 1f203 1f232 1f23b 1f250 1f252 1f300 1f321 1f330
    1f336 1f337 1f37d 1f380 1f394 1f3a0 1f3c5 1f3c6 1f3cb 1f3e0 1f3f1 1f400 1f43f 1f440 1f441
    1f442 1f4f8 1f4f9 1f4fd 1f500 1f53e 1f550 1f568 1f5fb 1f600 1f601 1f611 1f612 1f615 1f616
    1f617 1f618 1f619 1f61a 1f61b 1f61c 1f61f 1f620 1f626 1f628 1f62c 1f62d 1f62e 1f630 1f634
    1f635 1f641 1f645 1f650 1f680 1f6c6 1f700 1f774 2b740 2b81e"),
  (["6.1", "v61"],
    "58f 590 604 605 8a0 8a1 8a2 8ad 8e4 8ff af0 af1 ede ee0 10c7 10c8 10cd 10ce 10fd 1100 1bab
    1bae 1bba 1bc0 1cc0 1cc8 1cf3 1cf7 27cb 27cc 27cd 27ce 2cf2 2cf4 2d27 2d28 2d2d 2d2e 2d66
    2d68 2e32 2e3c 9fcc 9fcd a674 a67c a69f a6a0 a792 a794 a7aa a7ab a7f8 a7fa aae0 aaf7 fa2e
    fa30 10980 109b8 109be 109c0 110d0 110e9 110f0 110fa 11100 11135 11136 11144 11180 111c9
    111d0 111da 11680 116b8 116c0 116ca 16f00 16f45 16f50 16f7f 16f8f 16fa0 1ee00 1ee04 1ee05
    1ee20 1ee21 1ee23 1ee24 1ee25 1ee27 1ee28 1ee29 1ee33 1ee34 1ee38 1ee39 1ee3a 1ee3b 1ee3c
    1ee42 1ee43 1ee47 1ee48 1ee49 1ee4a 1ee4b 1ee4c 1ee4d 1ee50 1ee51 1ee53 1ee54 1ee55 1ee57
    1ee58 1ee59 1ee5a 1ee5b 1ee5c 1ee5d 1ee5e 1ee5f 1ee60 1ee61 1ee63 1ee64 1ee65 1ee67 1ee6b
    1ee6c 1ee73 1ee74 1ee78 1ee79 1ee7d 1ee7e 1ee7f 1ee80 1ee8a 1ee8b 1ee9c 1eea1 1eea4 1eea5
    1eeaa 1eeab 1eebc 1eef0 1eef2 1f16a 1f16c 1f540 1f544 1f600 1f601 1f611 1f612 1f615 1f616
    1f617 1f618 1f619 1f61a 1f61b 1f61c 1f61f 1f620 1f626 1f628 1f62c 1f62d 1f62e 1f630 1f634
    1f635"),
  (["6.2", "v62"],
    "20ba 20bb"),
  (["6.3", "v63"],
    "61c 61d 2066 206a"),
  (["7.0", "v70"],
    "37f 380 528 530 58d 58f 605 606 8a1 8a2 8ad 8b3 8ff 900 978 979 980 981 c00 c01 c34 c35
    c81 c82 d01 d02 de6 df0 16f1 16f9 191d 191f 1ab0 1abf 1cf8 1cfa 1de7 1df6 20bb 20be 23f4
    23fb 2700 2701 2b4d 2b50 2b5a 2b74 2b76 2b96 2b98 2bba 2bbd 2bc9 2bca 2bd2 2e3c 2e43 a698
    a69e a794 a7a0 a7ab a7ae a7b0 a7b2 a7f7 a7f8 a9e0 a9ff aa7c aa80 ab30 ab60 ab64 ab66 fe27
    fe2e 1018b 1018d 101a0 101a1 102e0 102fc 1031f 10320 10350 1037b 10500 10528 10530 10564
    1056f 10570 10600 10737 10740 10756 10760 10768 10860 1089f 108a7 108b0 10a80 10aa0 10ac0
    10ae7 10aeb 10af7 10b80 10b92 10b99 10b9d 10ba9 10bb0 1107f 11080 11150 11177 111cd 111ce
    111da 111db 111e1 111f5 11200 11212 11213 1123e 112b0 112eb 112f0 112fa 11301 11304 11305
    1130d 1130f 11311 11313 11329 1132a 11331 11332 11334 11335 1133a 1133c 11345 11347 11349
    1134b 1134e 11357 11358 1135d 11364 11366 1136d 11370 11375 11480 114c8 114d0 114da 11580
    115b6 115b8 115ca 11600 11645 11650 1165a 118a0 118f3 118ff 11900 11ac0 11af9 1236f 12399
    12463 1246f 12474 12475 16a40 16a5f 16a60 16a6a 16a6e 16a70 16ad0 16aee 16af0 16af6 16b00
    16b46 16b50 16b5a 16b5b 16b62 16b63 16b78 16b7d 16b90 1bc00 1bc6b 1bc70 1bc7d 1bc80 1bc89
    1bc90 1bc9a 1bc9c 1bca4 1e800 1e8c5 1e8c7 1e8d7 1f0bf 1f0c0 1f0e0 1f0f6 1f10b 1f10d 1f321
    1f32d 1f336 1f337 1f37d 1f37e 1f394 1f3a0 1f3c5 1f3c6 1f3cb 1f3cf 1f3d4 1f3e0 1f3f1 1f3f8
    1f43f 1f440 1f441 1f442 1f4f8 1f4f9 1f4fd 1f4ff 1f53e 1f540 1f544 1f54b 1f568 1f57a 1f57b
    1f5a4 1f5a5 1f5fb 1f641 1f643 1f650 1f680 1f6c6 1f6d0 1f6e0 1f6ed 1f6f0 1f6f4 1f780 1f7d5
    1f800 1f80c 1f810 1f848 1f850 1f85a 1f860 1f888 1f890 1f8ae"),
  (["8.0", "v80"],
    "8b3 8b5 8e3 8e4 af9 afa c5a c5b d5f d60 13f5 13f6 13f8 13fe 20be 20bf 218a 218c 2bec 2bf0
    9fcd 9fd6 a69e a69f a78f a790 a7b2 a7b8 a8fc a8fe ab60 ab64 ab70 abc0 fe2e fe30 108e0 108f3
    108f4 108f6 108fb 10900 109bc 109be 109c0 109d0 109d2 10a00 10c80 10cb3 10cc0 10cf3 10cfa
    10d00 111c9 111cd 111db 111e0 11280 11287 11288 11289 1128a 1128e 1128f 1129e 1129f 112aa
    11300 11301 11350 11351 115ca 115de 11700 1171a 1171d 1172c 11730 11740 12399 1239a 12480
    12544 14400 14647 1d1de 1d1e9 1d800 1da8c 1da9b 1daa0 1daa1 1dab0 1f32d 1f330 1f37e 1f380
    1f3cf 1f3d4 1f3f8 1f400 1f4ff 1f500 1f54b 1f550 1f643 1f645 1f6d0 1f6d1 1f910 1f919 1f980
    1f985 1f9c0 1f9c1 2b820 2cea2"),
  (["9.0", "v90"],
    "8b6 8be 8d4 8e3 c80 c81 d4f d50 d54 d57 d58 d5f d76 d79 1c80 1c89 1dfb 1dfc 23fb 23ff 2e43
    2e45 a7ae a7af a8c5 a8c6 1018d 1018f 104b0 104d4 104d8 104fc 1123e 1123f 11400 1145a 1145b
    1145c 1145d 1145e 11660 1166d 11c00 11c09 11c0a 11c37 11c38 11c46 11c50 11c6d 11c70 11c90
    11c92 11ca8 11ca9 11cb7 16fe0 16fe1 17000 187ed 18800 18af3 1e000 1e007 1e008 1e019 1e01b
    1e022 1e023 1e025 1e026 1e02b 1e900 1e94b 1e950 1e95a 1e95e 1e960 1f19b 1f1ad 1f23b 1f23c
    1f57a 1f57b 1f5a4 1f5a5 1f6d1 1f6d3 1f6f4 1f6f7 1f919 1f91f 1f920 1f928 1f930 1f931 1f933
    1f93f 1f940 1f94c 1f950 1f95f 1f985 1f992"),
  (["10.0", "v100"],
    "860 86b 9fc 9fe afa b00 d00 d01 d3b d3d 1cf7 1cf8 1df6 1dfa 20bf 20c0 23ff 2400 2bd2 2bd3
    2e45 2e4a 312e 312f 9fd6 9feb 1032d 10330 11a00 11a48 11a50 11a84 11a86 11a9d 11a9e 11aa3
    11d00 11d07 11d08 11d0a 11d0b 11d37 11d3a 11d3b 11d3c 11d3e 11d3f 11d48 11d50 11d5a 16fe1
    16fe2 1b002 1b11f 1b170 1b2fc 1f260 1f266 1f6d3 1f6d5 1f6f7 1f6f9 1f900 1f90c 1f91f 1f920
    1f928 1f930 1f931 1f933 1f94c 1f94d 1f95f 1f96c 1f992 1f998 1f9d0 1f9e7 2ceb0 2ebe1"),
  (["11.0", "v110"],
    "560 561 588 589 5ef 5f0 7fd 800 8d3 8d4 9fe 9ff a76 a77 c04 c05 c84 c85 1878 1879 1c90
    1cbb 1cbd 1cc0 2bba 2bbd 2bd3 2bec 2bf0 2bff 2e4a 2e4f 312f 3130 9feb 9ff0 a7af a7b0 a7b8
    a7ba a8fe a900 10a34 10a36 10a48 10a49 10d00 10d28 10d30 10d3a 10f00 10f28 10f30 10f5a
    110cd 110ce 11144 11147 1133b 1133c 1145e 1145f 1171a 1171b 11800 1183c 11a9d 11a9e 11d60
    11d66 11d67 11d69 11d6a 11d8f 11d90 11d92 11d93 11d99 11da0 11daa 11ee0 11ef9 16e40 16e9b
    187ed 187f2 1d2e0 1d2f4 1d372 1d379 1ec71 1ecb5 1f12f 1f130 1f6f9 1f6fa 1f7d5 1f7d9 1f94d
    1f950 1f96c 1f971 1f973 1f977 1f97a 1f97b 1f97c 1f980 1f998 1f9a3 1f9b0 1f9ba 1f9c1 1f9c3
    1f9e7 1fa00 1fa60 1fa6e"),
  (["12.0", "v120"],
    "c77 c78 e86 e87 e89 e8a e8c e8d e8e e94 e98 e99 ea0 ea1 ea8 eaa eac ead eba ebb 1cfa 1cfb
    2bc9 2bca 2bff 2c00 2e4f 2e50 a7ba a7c0 a7c2 a7c7 ab66 ab68 10fe0 10ff7 1145f 11460 116b8
    116b9 119a0 119a8 119aa 119d8 119da 119e5 11a84 11a86 11fc0 11ff2 11fff 12000 13430 13439
    16f45 16f4b 16f4f 16f50 16f7f 16f88 16fe2 16fe4 187f2 187f8 1b150 1b153 1b164 1b168 1e100
    1e12d 1e130 1e13e 1e140 1e14a 1e14e 1e150 1e2c0 1e2fa 1e2ff 1e300 1e94b 1e94c 1ed01 1ed3e
    1f16c 1f16d 1f6d5 1f6d6 1f6fa 1f6fb 1f7e0 1f7ec 1f90d 1f910 1f93f 1f940 1f971 1f972 1f97b
    1f97c 1f9a5 1f9ab 1f9ae 1f9b0 1f9ba 1f9c0 1f9c3 1f9cb 1f9cd 1f9d0 1fa00 1fa54 1fa70 1fa74
    1fa78 1fa7b 1fa80 1fa83 1fa90 1fa96"),
  (["12.1", "v121"],
    "32ff 3300"),
  (["13.0", "v130"],
    "8be 8c8 b55 b56 d04 d05 d81 d82 1abf 1ac1 2b97 2b98 2e50 2e53 31bb 31c0 4db6 4dc0 9ff0
    9ffd a7c7 a7cb a7f5 a7f7 a82c a82d ab68 ab6c 1019c 1019d 10e80 10eaa 10eab 10eae 10eb0
    10eb2 10fb0 10fcc 11147 11148 111ce 111d0 1145a 1145b 11460 11462 11900 11907 11909 1190a
    1190c 11914 11915 11917 11918 11936 11937 11939 1193b 11947 11950 1195a 11fb0 11fb1 16fe4
    16fe5 16ff0 16ff2 18af3 18cd6 18d00 18d09 1f10d 1f110 1f16d 1f170 1f1ad 1f1ae 1f6d6 1f6d8
    1f6fb 1f6fd 1f8b0 1f8b2 1f90c 1f90d 1f972 1f973 1f977 1f979 1f9a3 1f9a5 1f9ab 1f9ae 1f9cb
    1f9cc 1fa74 1fa75 1fa83 1fa87 1fa96 1faa9 1fab0 1fab7 1fac0 1fac3 1fad0 1fad7 1fb00 1fb93
    1fb94 1fbcb 1fbf0 1fbfa 2a6d7 2a6de 30000 3134b"),
  (["14.0", "v140"],
    "61d 61e 870 88f 890 892 898 8a0 8b5 8b6 8c8 8d3 c3c c3d c5d c5e cdd cde 170d 170e 1715
    1716 171f 1720 180f 1810 1ac1 1acf 1b4c 1b4d 1b7d 1b7f 1dfa 1dfb 20c0 20c1 2c2f 2c30 2c5f
    2c60 2e53 2e5e 9ffd a000 a7c0 a7c2 a7d0 a7d2 a7d3 a7d4 a7d5 a7da a7f2 a7f5 fbc2 fbc3 fd40
    fd50 fdcf fdd0 fdfe fe00 10570 1057b 1057c 1058b 1058c 10593 10594 10596 10597 105a2 105a3
    105b2 105b3 105ba 105bb 105bd 10780 10786 10787 107b1 107b2 107bb 10f70 10f8a 11070 11076
    110c2 110c3 116b9 116ba 11740 11747 11ab0 11ac0 12f90 12ff3 16a70 16abf 16ac0 16aca 1aff0
    1aff4 1aff5 1affc 1affd 1afff 1b11f 1b123 1cf00 1cf2e 1cf30 1cf47 1cf50 1cfc4 1d1e9 1d1eb
    1df00 1df1f 1e290 1e2af 1e7e0 1e7e7 1e7e8 1e7ec 1e7ed 1e7ef 1e7f0 1e7ff 1f6dd 1f6e0 1f7f0
    1f7f1 1f979 1f97a 1f9cc 1f9cd 1fa7b 1fa7d 1faa9 1faad 1fab7 1fabb 1fac3 1fac6 1fad7 1fada
    1fae0 1fae8 1faf0 1faf7 2a6de 2a6e0 2b735 2b739"),
  (["15.0", "v150"],
    "cf3 cf4 ece ecf 10efd 10f00 1123f 11242 11b00 11b0a 11f00 11f11 11f12 11f3b 11f3e 11f5a
    1342f 13430 13439 13456 1b132 1b133 1b155 1b156 1d2c0 1d2d4 1df25 1df2b 1e030 1e06e 1e08f
    1e090 1e4d0 1e4fa 1f6dc 1f6dd 1f774 1f777 1f77b 1f780 1f7d9 1f7da 1fa75 1fa78 1fa87 1fa89
    1faad 1fab0 1fabb 1fabe 1fabf 1fac0 1face 1fad0 1fada 1fadc 1fae8 1fae9 1faf7 1faf9 2b739
    2b73a 31350 323b0"),
  (["15.1", "v151"],
    "2ffc 3000 31ef 31f0 2ebf0 2ee5e"),
  (["16.0", "v160"],
    "897 898 1b4e 1b50 1b7f 1b80 1c89 1c8b 2427 242a 31e4 31e6 a7cb a7ce a7da a7dd 105c0 105f4
    10d40 10d66 10d69 10d86 10d8e 10d90 10ec2 10ec5 10efc 10efd 11380 1138a 1138b 1138c 1138e
    1138f 11390 113b6 113b7 113c1 113c2 113c3 113c5 113c6 113c7 113cb 113cc 113d6 113d7 113d9
    113e1 113e3 116d0 116e4 11bc0 11be2 11bf0 11bfa 11f5a 11f5b 13460 143fb 16100 1613a 16d40
    16d7a 18cff 18d00 1cc00 1ccfa 1cd00 1ceb4 1e5d0 1e5fb 1e5ff 1e600 1f8b2 1f8bc 1f8c0 1f8c2
    1fa89 1fa8a 1fa8f 1fa90 1fabe 1fabf 1fac6 1fac7 1fadc 1fadd 1fadf 1fae0 1fae9 1faea 1fbcb
    1fbf0")]

end PatternAction.Text
