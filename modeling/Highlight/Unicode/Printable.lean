import Highlight.Unicode.CodeSet

/-!
# Printable characters and grapheme extenders

A character is printable unless it is a separator other than the space, a control or format
character, a surrogate, a private-use character, unassigned, or one of the four Hangul fillers,
letters that show nothing.  Grapheme extenders (non-spacing and enclosing marks and a few spacing
ones) combine with the character before them; the two half-width kana sound marks are not counted
among them, since they are letters that take a column of their own.  Both sets follow
Unicode 17.0.
-/

namespace Highlight.Unicode

def graphemeExtendTable : String :=
  String.join [
    "300 370 483 48a 591 5be 5bf 5c0 5c1 5c3 5c4 5c6 5c7 5c8 610 61b 64b 660 670 671 6d6 6dd 6df ",
    "6e5 6e7 6e9 6ea 6ee 711 712 730 74b 7a6 7b1 7eb 7f4 7fd 7fe 816 81a 81b 824 825 828 829 82e ",
    "859 85c 897 8a0 8ca 8e2 8e3 903 93a 93b 93c 93d 941 949 94d 94e 951 958 962 964 981 982 9bc ",
    "9bd 9be 9bf 9c1 9c5 9cd 9ce 9d7 9d8 9e2 9e4 9fe 9ff a01 a03 a3c a3d a41 a43 a47 a49 a4b a4e ",
    "a51 a52 a70 a72 a75 a76 a81 a83 abc abd ac1 ac6 ac7 ac9 acd ace ae2 ae4 afa b00 b01 b02 b3c ",
    "b3d b3e b40 b41 b45 b4d b4e b55 b58 b62 b64 b82 b83 bbe bbf bc0 bc1 bcd bce bd7 bd8 c00 c01 ",
    "c04 c05 c3c c3d c3e c41 c46 c49 c4a c4e c55 c57 c62 c64 c81 c82 cbc cbd cbf cc1 cc2 cc3 cc6 ",
    "cc9 cca cce cd5 cd7 ce2 ce4 d00 d02 d3b d3d d3e d3f d41 d45 d4d d4e d57 d58 d62 d64 d81 d82 ",
    "dca dcb dcf dd0 dd2 dd5 dd6 dd7 ddf de0 e31 e32 e34 e3b e47 e4f eb1 eb2 eb4 ebd ec8 ecf f18 ",
    "f1a f35 f36 f37 f38 f39 f3a f71 f7f f80 f85 f86 f88 f8d f98 f99 fbd fc6 fc7 102d 1031 1032 ",
    "1038 1039 103b 103d 103f 1058 105a 105e 1061 1071 1075 1082 1083 1085 1087 108d 108e 109d ",
    "109e 135d 1360 1712 1716 1732 1735 1752 1754 1772 1774 17b4 17b6 17b7 17be 17c6 17c7 17c9 ",
    "17d4 17dd 17de 180b 180e 180f 1810 1885 1887 18a9 18aa 1920 1923 1927 1929 1932 1933 1939 ",
    "193c 1a17 1a19 1a1b 1a1c 1a56 1a57 1a58 1a5f 1a60 1a61 1a62 1a63 1a65 1a6d 1a73 1a7d 1a7f ",
    "1a80 1ab0 1ade 1ae0 1aec 1b00 1b04 1b34 1b3e 1b42 1b45 1b6b 1b74 1b80 1b82 1ba2 1ba6 1ba8 ",
    "1bae 1be6 1be7 1be8 1bea 1bed 1bee 1bef 1bf4 1c2c 1c34 1c36 1c38 1cd0 1cd3 1cd4 1ce1 1ce2 ",
    "1ce9 1ced 1cee 1cf4 1cf5 1cf8 1cfa 1dc0 1e00 200c 200d 20d0 20f1 2cef 2cf2 2d7f 2d80 2de0 ",
    "2e00 302a 3030 3099 309b a66f a673 a674 a67e a69e a6a0 a6f0 a6f2 a802 a803 a806 a807 a80b ",
    "a80c a825 a827 a82c a82d a8c4 a8c6 a8e0 a8f2 a8ff a900 a926 a92e a947 a952 a953 a954 a980 ",
    "a983 a9b3 a9b4 a9b6 a9ba a9bc a9be a9c0 a9c1 a9e5 a9e6 aa29 aa2f aa31 aa33 aa35 aa37 aa43 ",
    "aa44 aa4c aa4d aa7c aa7d aab0 aab1 aab2 aab5 aab7 aab9 aabe aac0 aac1 aac2 aaec aaee aaf6 ",
    "aaf7 abe5 abe6 abe8 abe9 abed abee fb1e fb1f fe00 fe10 fe20 fe30 101fd 101fe 102e0 102e1 ",
    "10376 1037b 10a01 10a04 10a05 10a07 10a0c 10a10 10a38 10a3b 10a3f 10a40 10ae5 10ae7 10d24 ",
    "10d28 10d69 10d6e 10eab 10ead 10efa 10f00 10f46 10f51 10f82 10f86 11001 11002 11038 11047 ",
    "11070 11071 11073 11075 1107f 11082 110b3 110b7 110b9 110bb 110c2 110c3 11100 11103 11127 ",
    "1112c 1112d 11135 11173 11174 11180 11182 111b6 111bf 111c0 111c1 111c9 111cd 111cf 111d0 ",
    "1122f 11232 11234 11238 1123e 1123f 11241 11242 112df 112e0 112e3 112eb 11300 11302 1133b ",
    "1133d 1133e 1133f 11340 11341 1134d 1134e 11357 11358 11366 1136d 11370 11375 113b8 113b9 ",
    "113bb 113c1 113c2 113c3 113c5 113c6 113c7 113ca 113ce 113d1 113d2 113d3 113e1 113e3 11438 ",
    "11440 11442 11445 11446 11447 1145e 1145f 114b0 114b1 114b3 114b9 114ba 114bb 114bd 114be ",
    "114bf 114c1 114c2 114c4 115af 115b0 115b2 115b6 115bc 115be 115bf 115c1 115dc 115de 11633 ",
    "1163b 1163d 1163e 1163f 11641 116ab 116ac 116ad 116ae 116b0 116b8 1171d 1171e 1171f 11720 ",
    "11722 11726 11727 1172c 1182f 11838 11839 1183b 11930 11931 1193b 1193f 11943 11944 119d4 ",
    "119d8 119da 119dc 119e0 119e1 11a01 11a0b 11a33 11a39 11a3b 11a3f 11a47 11a48 11a51 11a57 ",
    "11a59 11a5c 11a8a 11a97 11a98 11a9a 11b60 11b61 11b62 11b65 11b66 11b67 11c30 11c37 11c38 ",
    "11c3e 11c3f 11c40 11c92 11ca8 11caa 11cb1 11cb2 11cb4 11cb5 11cb7 11d31 11d37 11d3a 11d3b ",
    "11d3c 11d3e 11d3f 11d46 11d47 11d48 11d90 11d92 11d95 11d96 11d97 11d98 11ef3 11ef5 11f00 ",
    "11f02 11f36 11f3b 11f40 11f43 11f5a 11f5b 13440 13441 13447 13456 1611e 1612a 1612d 16130 ",
    "16af0 16af5 16b30 16b37 16f4f 16f50 16f8f 16f93 16fe4 16fe5 16ff0 16ff2 1bc9d 1bc9f 1cf00 ",
    "1cf2e 1cf30 1cf47 1d165 1d16a 1d16d 1d173 1d17b 1d183 1d185 1d18c 1d1aa 1d1ae 1d242 1d245 ",
    "1da00 1da37 1da3b 1da6d 1da75 1da76 1da84 1da85 1da9b 1daa0 1daa1 1dab0 1e000 1e007 1e008 ",
    "1e019 1e01b 1e022 1e023 1e025 1e026 1e02b 1e08f 1e090 1e130 1e137 1e2ae 1e2af 1e2ec 1e2f0 ",
    "1e4ec 1e4f0 1e5ee 1e5f0 1e6e3 1e6e4 1e6e6 1e6e7 1e6ee 1e6f0 1e6f5 1e6f6 1e8d0 1e8d7 1e944 ",
    "1e94b e0020 e0080 e0100 e01f0"]

def graphemeExtendSet : CodeSet := CodeSet.ofTable graphemeExtendTable

def isGraphemeExtend (c : Char) : Bool :=
  c.toNat ≥ 0x300 && graphemeExtendSet.contains c.toNat

def unprintableTable : String :=
  String.join [
    "0 20 7f a1 ad ae 378 37a 380 384 38b 38c 38d 38e 3a2 3a3 530 531 557 559 58b 58d 590 591 5c8 ",
    "5d0 5eb 5ef 5f5 606 61c 61d 6dd 6de 70e 710 74b 74d 7b2 7c0 7fb 7fd 82e 830 83f 840 85c 85e ",
    "85f 860 86b 870 890 897 8e2 8e3 984 985 98d 98f 991 993 9a9 9aa 9b1 9b2 9b3 9b6 9ba 9bc 9c5 ",
    "9c7 9c9 9cb 9cf 9d7 9d8 9dc 9de 9df 9e4 9e6 9ff a01 a04 a05 a0b a0f a11 a13 a29 a2a a31 a32 ",
    "a34 a35 a37 a38 a3a a3c a3d a3e a43 a47 a49 a4b a4e a51 a52 a59 a5d a5e a5f a66 a77 a81 a84 ",
    "a85 a8e a8f a92 a93 aa9 aaa ab1 ab2 ab4 ab5 aba abc ac6 ac7 aca acb ace ad0 ad1 ae0 ae4 ae6 ",
    "af2 af9 b00 b01 b04 b05 b0d b0f b11 b13 b29 b2a b31 b32 b34 b35 b3a b3c b45 b47 b49 b4b b4e ",
    "b55 b58 b5c b5e b5f b64 b66 b78 b82 b84 b85 b8b b8e b91 b92 b96 b99 b9b b9c b9d b9e ba0 ba3 ",
    "ba5 ba8 bab bae bba bbe bc3 bc6 bc9 bca bce bd0 bd1 bd7 bd8 be6 bfb c00 c0d c0e c11 c12 c29 ",
    "c2a c3a c3c c45 c46 c49 c4a c4e c55 c57 c58 c5b c5c c5e c60 c64 c66 c70 c77 c8d c8e c91 c92 ",
    "ca9 caa cb4 cb5 cba cbc cc5 cc6 cc9 cca cce cd5 cd7 cdc cdf ce0 ce4 ce6 cf0 cf1 cf4 d00 d0d ",
    "d0e d11 d12 d45 d46 d49 d4a d50 d54 d64 d66 d80 d81 d84 d85 d97 d9a db2 db3 dbc dbd dbe dc0 ",
    "dc7 dca dcb dcf dd5 dd6 dd7 dd8 de0 de6 df0 df2 df5 e01 e3b e3f e5c e81 e83 e84 e85 e86 e8b ",
    "e8c ea4 ea5 ea6 ea7 ebe ec0 ec5 ec6 ec7 ec8 ecf ed0 eda edc ee0 f00 f48 f49 f6d f71 f98 f99 ",
    "fbd fbe fcd fce fdb 1000 10c6 10c7 10c8 10cd 10ce 10d0 115f 1161 1249 124a 124e 1250 1257 ",
    "1258 1259 125a 125e 1260 1289 128a 128e 1290 12b1 12b2 12b6 12b8 12bf 12c0 12c1 12c2 12c6 ",
    "12c8 12d7 12d8 1311 1312 1316 1318 135b 135d 137d 1380 139a 13a0 13f6 13f8 13fe 1400 1680 ",
    "1681 169d 16a0 16f9 1700 1716 171f 1737 1740 1754 1760 176d 176e 1771 1772 1774 1780 17de ",
    "17e0 17ea 17f0 17fa 1800 180e 180f 181a 1820 1879 1880 18ab 18b0 18f6 1900 191f 1920 192c ",
    "1930 193c 1940 1941 1944 196e 1970 1975 1980 19ac 19b0 19ca 19d0 19db 19de 1a1c 1a1e 1a5f ",
    "1a60 1a7d 1a7f 1a8a 1a90 1a9a 1aa0 1aae 1ab0 1ade 1ae0 1aec 1b00 1b4d 1b4e 1bf4 1bfc 1c38 ",
    "1c3b 1c4a 1c4d 1c8b 1c90 1cbb 1cbd 1cc8 1cd0 1cfb 1d00 1f16 1f18 1f1e 1f20 1f46 1f48 1f4e ",
    "1f50 1f58 1f59 1f5a 1f5b 1f5c 1f5d 1f5e 1f5f 1f7e 1f80 1fb5 1fb6 1fc5 1fc6 1fd4 1fd6 1fdc ",
    "1fdd 1ff0 1ff2 1ff5 1ff6 1fff 2010 2028 2030 205f 2070 2072 2074 208f 2090 209d 20a0 20c2 ",
    "20d0 20f1 2100 218c 2190 242a 2440 244b 2460 2b74 2b76 2cf4 2cf9 2d26 2d27 2d28 2d2d 2d2e ",
    "2d30 2d68 2d6f 2d71 2d7f 2d97 2da0 2da7 2da8 2daf 2db0 2db7 2db8 2dbf 2dc0 2dc7 2dc8 2dcf ",
    "2dd0 2dd7 2dd8 2ddf 2de0 2e5e 2e80 2e9a 2e9b 2ef4 2f00 2fd6 2ff0 3000 3001 3040 3041 3097 ",
    "3099 3100 3105 3130 3131 3164 3165 318f 3190 31e6 31ef 321f 3220 a48d a490 a4c7 a4d0 a62c ",
    "a640 a6f8 a700 a7dd a7f1 a82d a830 a83a a840 a878 a880 a8c6 a8ce a8da a8e0 a954 a95f a97d ",
    "a980 a9ce a9cf a9da a9de a9ff aa00 aa37 aa40 aa4e aa50 aa5a aa5c aac3 aadb aaf7 ab01 ab07 ",
    "ab09 ab0f ab11 ab17 ab20 ab27 ab28 ab2f ab30 ab6c ab70 abee abf0 abfa ac00 d7a4 d7b0 d7c7 ",
    "d7cb d7fc f900 fa6e fa70 fada fb00 fb07 fb13 fb18 fb1d fb37 fb38 fb3d fb3e fb3f fb40 fb42 ",
    "fb43 fb45 fb46 fdd0 fdf0 fe1a fe20 fe53 fe54 fe67 fe68 fe6c fe70 fe75 fe76 fefd ff01 ffa0 ",
    "ffa1 ffbf ffc2 ffc8 ffca ffd0 ffd2 ffd8 ffda ffdd ffe0 ffe7 ffe8 ffef fffc fffe 10000 1000c ",
    "1000d 10027 10028 1003b 1003c 1003e 1003f 1004e 10050 1005e 10080 100fb 10100 10103 10107 ",
    "10134 10137 1018f 10190 1019d 101a0 101a1 101d0 101fe 10280 1029d 102a0 102d1 102e0 102fc ",
    "10300 10324 1032d 1034b 10350 1037b 10380 1039e 1039f 103c4 103c8 103d6 10400 1049e 104a0 ",
    "104aa 104b0 104d4 104d8 104fc 10500 10528 10530 10564 1056f 1057b 1057c 1058b 1058c 10593 ",
    "10594 10596 10597 105a2 105a3 105b2 105b3 105ba 105bb 105bd 105c0 105f4 10600 10737 10740 ",
    "10756 10760 10768 10780 10786 10787 107b1 107b2 107bb 10800 10806 10808 10809 1080a 10836 ",
    "10837 10839 1083c 1083d 1083f 10856 10857 1089f 108a7 108b0 108e0 108f3 108f4 108f6 108fb ",
    "1091c 1091f 1093a 1093f 1095a 10980 109b8 109bc 109d0 109d2 10a04 10a05 10a07 10a0c 10a14 ",
    "10a15 10a18 10a19 10a36 10a38 10a3b 10a3f 10a49 10a50 10a59 10a60 10aa0 10ac0 10ae7 10aeb ",
    "10af7 10b00 10b36 10b39 10b56 10b58 10b73 10b78 10b92 10b99 10b9d 10ba9 10bb0 10c00 10c49 ",
    "10c80 10cb3 10cc0 10cf3 10cfa 10d28 10d30 10d3a 10d40 10d66 10d69 10d86 10d8e 10d90 10e60 ",
    "10e7f 10e80 10eaa 10eab 10eae 10eb0 10eb2 10ec2 10ec8 10ed0 10ed9 10efa 10f28 10f30 10f5a ",
    "10f70 10f8a 10fb0 10fcc 10fe0 10ff7 11000 1104e 11052 11076 1107f 110bd 110be 110c3 110d0 ",
    "110e9 110f0 110fa 11100 11135 11136 11148 11150 11177 11180 111e0 111e1 111f5 11200 11212 ",
    "11213 11242 11280 11287 11288 11289 1128a 1128e 1128f 1129e 1129f 112aa 112b0 112eb 112f0 ",
    "112fa 11300 11304 11305 1130d 1130f 11311 11313 11329 1132a 11331 11332 11334 11335 1133a ",
    "1133b 11345 11347 11349 1134b 1134e 11350 11351 11357 11358 1135d 11364 11366 1136d 11370 ",
    "11375 11380 1138a 1138b 1138c 1138e 1138f 11390 113b6 113b7 113c1 113c2 113c3 113c5 113c6 ",
    "113c7 113cb 113cc 113d6 113d7 113d9 113e1 113e3 11400 1145c 1145d 11462 11480 114c8 114d0 ",
    "114da 11580 115b6 115b8 115de 11600 11645 11650 1165a 11660 1166d 11680 116ba 116c0 116ca ",
    "116d0 116e4 11700 1171b 1171d 1172c 11730 11747 11800 1183c 118a0 118f3 118ff 11907 11909 ",
    "1190a 1190c 11914 11915 11917 11918 11936 11937 11939 1193b 11947 11950 1195a 119a0 119a8 ",
    "119aa 119d8 119da 119e5 11a00 11a48 11a50 11aa3 11ab0 11af9 11b00 11b0a 11b60 11b68 11bc0 ",
    "11be2 11bf0 11bfa 11c00 11c09 11c0a 11c37 11c38 11c46 11c50 11c6d 11c70 11c90 11c92 11ca8 ",
    "11ca9 11cb7 11d00 11d07 11d08 11d0a 11d0b 11d37 11d3a 11d3b 11d3c 11d3e 11d3f 11d48 11d50 ",
    "11d5a 11d60 11d66 11d67 11d69 11d6a 11d8f 11d90 11d92 11d93 11d99 11da0 11daa 11db0 11ddc ",
    "11de0 11dea 11ee0 11ef9 11f00 11f11 11f12 11f3b 11f3e 11f5b 11fb0 11fb1 11fc0 11ff2 11fff ",
    "1239a 12400 1246f 12470 12475 12480 12544 12f90 12ff3 13000 13430 13440 13456 13460 143fb ",
    "14400 14647 16100 1613a 16800 16a39 16a40 16a5f 16a60 16a6a 16a6e 16abf 16ac0 16aca 16ad0 ",
    "16aee 16af0 16af6 16b00 16b46 16b50 16b5a 16b5b 16b62 16b63 16b78 16b7d 16b90 16d40 16d7a ",
    "16e40 16e9b 16ea0 16eb9 16ebb 16ed4 16f00 16f4b 16f4f 16f88 16f8f 16fa0 16fe0 16fe5 16ff0 ",
    "16ff7 17000 18cd6 18cff 18d1f 18d80 18df3 1aff0 1aff4 1aff5 1affc 1affd 1afff 1b000 1b123 ",
    "1b132 1b133 1b150 1b153 1b155 1b156 1b164 1b168 1b170 1b2fc 1bc00 1bc6b 1bc70 1bc7d 1bc80 ",
    "1bc89 1bc90 1bc9a 1bc9c 1bca0 1cc00 1ccfd 1cd00 1ceb4 1ceba 1ced1 1cee0 1cef1 1cf00 1cf2e ",
    "1cf30 1cf47 1cf50 1cfc4 1d000 1d0f6 1d100 1d127 1d129 1d173 1d17b 1d1eb 1d200 1d246 1d2c0 ",
    "1d2d4 1d2e0 1d2f4 1d300 1d357 1d360 1d379 1d400 1d455 1d456 1d49d 1d49e 1d4a0 1d4a2 1d4a3 ",
    "1d4a5 1d4a7 1d4a9 1d4ad 1d4ae 1d4ba 1d4bb 1d4bc 1d4bd 1d4c4 1d4c5 1d506 1d507 1d50b 1d50d ",
    "1d515 1d516 1d51d 1d51e 1d53a 1d53b 1d53f 1d540 1d545 1d546 1d547 1d54a 1d551 1d552 1d6a6 ",
    "1d6a8 1d7cc 1d7ce 1da8c 1da9b 1daa0 1daa1 1dab0 1df00 1df1f 1df25 1df2b 1e000 1e007 1e008 ",
    "1e019 1e01b 1e022 1e023 1e025 1e026 1e02b 1e030 1e06e 1e08f 1e090 1e100 1e12d 1e130 1e13e ",
    "1e140 1e14a 1e14e 1e150 1e290 1e2af 1e2c0 1e2fa 1e2ff 1e300 1e4d0 1e4fa 1e5d0 1e5fb 1e5ff ",
    "1e600 1e6c0 1e6df 1e6e0 1e6f6 1e6fe 1e700 1e7e0 1e7e7 1e7e8 1e7ec 1e7ed 1e7ef 1e7f0 1e7ff ",
    "1e800 1e8c5 1e8c7 1e8d7 1e900 1e94c 1e950 1e95a 1e95e 1e960 1ec71 1ecb5 1ed01 1ed3e 1ee00 ",
    "1ee04 1ee05 1ee20 1ee21 1ee23 1ee24 1ee25 1ee27 1ee28 1ee29 1ee33 1ee34 1ee38 1ee39 1ee3a ",
    "1ee3b 1ee3c 1ee42 1ee43 1ee47 1ee48 1ee49 1ee4a 1ee4b 1ee4c 1ee4d 1ee50 1ee51 1ee53 1ee54 ",
    "1ee55 1ee57 1ee58 1ee59 1ee5a 1ee5b 1ee5c 1ee5d 1ee5e 1ee5f 1ee60 1ee61 1ee63 1ee64 1ee65 ",
    "1ee67 1ee6b 1ee6c 1ee73 1ee74 1ee78 1ee79 1ee7d 1ee7e 1ee7f 1ee80 1ee8a 1ee8b 1ee9c 1eea1 ",
    "1eea4 1eea5 1eeaa 1eeab 1eebc 1eef0 1eef2 1f000 1f02c 1f030 1f094 1f0a0 1f0af 1f0b1 1f0c0 ",
    "1f0c1 1f0d0 1f0d1 1f0f6 1f100 1f1ae 1f1e6 1f203 1f210 1f23c 1f240 1f249 1f250 1f252 1f260 ",
    "1f266 1f300 1f6d9 1f6dc 1f6ed 1f6f0 1f6fd 1f700 1f7da 1f7e0 1f7ec 1f7f0 1f7f1 1f800 1f80c ",
    "1f810 1f848 1f850 1f85a 1f860 1f888 1f890 1f8ae 1f8b0 1f8bc 1f8c0 1f8c2 1f8d0 1f8d9 1f900 ",
    "1fa58 1fa60 1fa6e 1fa70 1fa7d 1fa80 1fa8b 1fa8e 1fac7 1fac8 1fac9 1facd 1fadd 1fadf 1faeb ",
    "1faef 1faf9 1fb00 1fb93 1fb94 1fbfb 20000 2a6e0 2a700 2b81e 2b820 2ceae 2ceb0 2ebe1 2ebf0 ",
    "2ee5e 2f800 2fa1e 30000 3134b 31350 3347a e0100 e01f0"]

def unprintableSet : CodeSet := CodeSet.ofTable unprintableTable

/-- Whether a character is printable; ASCII is decided without the table. -/
def isPrintable (c : Char) : Bool :=
  if c.toNat < 0x20 then false
  else if c.toNat < 0x7F then true
  else !unprintableSet.contains c.toNat

end Highlight.Unicode
