import Highlight.Unicode.CodeSet

/-!
# Scripts

Every code point belongs to one script (`Common` and `Inherited` included, `Unknown` for the
rest).  `scriptNames` lists each script with its aliases, short code first, `Unknown` last;
`scriptAt` reads a code point's script, as an index into that list, from a table of runs.

A character may also be used with other scripts than its own: its script extensions.  Most
characters have none but their script; `scriptExtensionEntries` lists the ranges that differ, each
with the scripts it is used with (which need not include its script: a combining mark of the
`Inherited` script may be used with Greek alone).  The tables follow Unicode 16.0.
-/

namespace Highlight.Unicode

/-- Each script's names, blank-separated groups of comma-separated aliases, short code first. -/
def scriptNameTable : String :=
  String.join [
    "Adlm,Adlam Aghb,Caucasian_Albanian Ahom,Ahom Arab,Arabic Armi,Imperial_Aramaic Armn,Armenian ",
    "Avst,Avestan Bali,Balinese Bamu,Bamum Bass,Bassa_Vah Batk,Batak Beng,Bengali Bhks,Bhaiksuki ",
    "Bopo,Bopomofo Brah,Brahmi Brai,Braille Bugi,Buginese Buhd,Buhid Cakm,Chakma ",
    "Cans,Canadian_Aboriginal Cari,Carian Cham,Cham Cher,Cherokee Chrs,Chorasmian ",
    "Copt,Coptic,Qaac Cpmn,Cypro_Minoan Cprt,Cypriot Cyrl,Cyrillic Deva,Devanagari ",
    "Diak,Dives_Akuru Dogr,Dogra Dsrt,Deseret Dupl,Duployan Egyp,Egyptian_Hieroglyphs ",
    "Elba,Elbasan Elym,Elymaic Ethi,Ethiopic Gara,Garay Geor,Georgian Glag,Glagolitic ",
    "Gong,Gunjala_Gondi Gonm,Masaram_Gondi Goth,Gothic Gran,Grantha Grek,Greek Gujr,Gujarati ",
    "Gukh,Gurung_Khema Guru,Gurmukhi Hang,Hangul Hani,Han Hano,Hanunoo Hatr,Hatran Hebr,Hebrew ",
    "Hira,Hiragana Hluw,Anatolian_Hieroglyphs Hmng,Pahawh_Hmong Hmnp,Nyiakeng_Puachue_Hmong ",
    "Hung,Old_Hungarian Ital,Old_Italic Java,Javanese Kali,Kayah_Li Kana,Katakana Kawi,Kawi ",
    "Khar,Kharoshthi Khmr,Khmer Khoj,Khojki Kits,Khitan_Small_Script Knda,Kannada Krai,Kirat_Rai ",
    "Kthi,Kaithi Lana,Tai_Tham Laoo,Lao Latn,Latin Lepc,Lepcha Limb,Limbu Lina,Linear_A ",
    "Linb,Linear_B Lisu,Lisu Lyci,Lycian Lydi,Lydian Mahj,Mahajani Maka,Makasar Mand,Mandaic ",
    "Mani,Manichaean Marc,Marchen Medf,Medefaidrin Mend,Mende_Kikakui Merc,Meroitic_Cursive ",
    "Mero,Meroitic_Hieroglyphs Mlym,Malayalam Modi,Modi Mong,Mongolian Mroo,Mro Mtei,Meetei_Mayek ",
    "Mult,Multani Mymr,Myanmar Nagm,Nag_Mundari Nand,Nandinagari Narb,Old_North_Arabian ",
    "Nbat,Nabataean Newa,Newa Nkoo,Nko Nshu,Nushu Ogam,Ogham Olck,Ol_Chiki Onao,Ol_Onal ",
    "Orkh,Old_Turkic Orya,Oriya Osge,Osage Osma,Osmanya Ougr,Old_Uyghur Palm,Palmyrene ",
    "Pauc,Pau_Cin_Hau Perm,Old_Permic Phag,Phags_Pa Phli,Inscriptional_Pahlavi ",
    "Phlp,Psalter_Pahlavi Phnx,Phoenician Plrd,Miao Prti,Inscriptional_Parthian Rjng,Rejang ",
    "Rohg,Hanifi_Rohingya Runr,Runic Samr,Samaritan Sarb,Old_South_Arabian Saur,Saurashtra ",
    "Sgnw,SignWriting Shaw,Shavian Shrd,Sharada Sidd,Siddham Sind,Khudawadi Sinh,Sinhala ",
    "Sogd,Sogdian Sogo,Old_Sogdian Sora,Sora_Sompeng Soyo,Soyombo Sund,Sundanese Sunu,Sunuwar ",
    "Sylo,Syloti_Nagri Syrc,Syriac Tagb,Tagbanwa Takr,Takri Tale,Tai_Le Talu,New_Tai_Lue ",
    "Taml,Tamil Tang,Tangut Tavt,Tai_Viet Telu,Telugu Tfng,Tifinagh Tglg,Tagalog Thaa,Thaana ",
    "Thai,Thai Tibt,Tibetan Tirh,Tirhuta Tnsa,Tangsa Todr,Todhri Toto,Toto Tutg,Tulu_Tigalari ",
    "Ugar,Ugaritic Vaii,Vai Vith,Vithkuqi Wara,Warang_Citi Wcho,Wancho Xpeo,Old_Persian ",
    "Xsux,Cuneiform Yezi,Yezidi Yiii,Yi Zanb,Zanabazar_Square Zinh,Inherited,Qaai Zyyy,Common ",
    "Zzzz,Unknown"]

def scriptNames : Array (List String) :=
  (tableWords scriptNameTable).map fun w => (w.splitOn ",")

def unknownScript : Nat := scriptNames.size - 1

def scriptIndex? (name : String) : Option Nat :=
  (List.range scriptNames.size).find? fun i => (scriptNames.getD i []).contains name

def scriptTable : String :=
  String.join [
    "0 169 41 72 5b 169 61 72 7b 169 aa 72 ab 169 ba 72 bb 169 c0 72 d7 169 d8 72 f7 169 f8 72 ",
    "2b9 169 2e0 72 2e5 169 2ea 13 2ec 169 300 168 370 44 374 169 375 44 378 170 37a 44 37e 169 ",
    "37f 44 380 170 384 44 385 169 386 44 387 169 388 44 38b 170 38c 44 38d 170 38e 44 3a2 170 ",
    "3a3 44 3e2 24 3f0 44 400 27 485 168 487 27 530 170 531 5 557 170 559 5 58b 170 58d 5 590 170 ",
    "591 52 5c8 170 5d0 52 5eb 170 5ef 52 5f5 170 600 3 605 169 606 3 60c 169 60d 3 61b 169 61c 3 ",
    "61f 169 620 3 640 169 641 3 64b 168 656 3 670 168 671 3 6dd 169 6de 3 700 139 70e 170 70f ",
    "139 74b 170 74d 139 750 3 780 150 7b2 170 7c0 101 7fb 170 7fd 101 800 123 82e 170 830 123 ",
    "83f 170 840 82 85c 170 85e 82 85f 170 860 139 86b 170 870 3 88f 170 890 3 892 170 897 3 8e2 ",
    "169 8e3 3 900 28 951 168 955 28 964 169 966 28 980 11 984 170 985 11 98d 170 98f 11 991 170 ",
    "993 11 9a9 170 9aa 11 9b1 170 9b2 11 9b3 170 9b6 11 9ba 170 9bc 11 9c5 170 9c7 11 9c9 170 ",
    "9cb 11 9cf 170 9d7 11 9d8 170 9dc 11 9de 170 9df 11 9e4 170 9e6 11 9ff 170 a01 47 a04 170 ",
    "a05 47 a0b 170 a0f 47 a11 170 a13 47 a29 170 a2a 47 a31 170 a32 47 a34 170 a35 47 a37 170 ",
    "a38 47 a3a 170 a3c 47 a3d 170 a3e 47 a43 170 a47 47 a49 170 a4b 47 a4e 170 a51 47 a52 170 ",
    "a59 47 a5d 170 a5e 47 a5f 170 a66 47 a77 170 a81 45 a84 170 a85 45 a8e 170 a8f 45 a92 170 ",
    "a93 45 aa9 170 aaa 45 ab1 170 ab2 45 ab4 170 ab5 45 aba 170 abc 45 ac6 170 ac7 45 aca 170 ",
    "acb 45 ace 170 ad0 45 ad1 170 ae0 45 ae4 170 ae6 45 af2 170 af9 45 b00 170 b01 107 b04 170 ",
    "b05 107 b0d 170 b0f 107 b11 170 b13 107 b29 170 b2a 107 b31 170 b32 107 b34 170 b35 107 b3a ",
    "170 b3c 107 b45 170 b47 107 b49 170 b4b 107 b4e 170 b55 107 b58 170 b5c 107 b5e 170 b5f 107 ",
    "b64 170 b66 107 b78 170 b82 144 b84 170 b85 144 b8b 170 b8e 144 b91 170 b92 144 b96 170 b99 ",
    "144 b9b 170 b9c 144 b9d 170 b9e 144 ba0 170 ba3 144 ba5 170 ba8 144 bab 170 bae 144 bba 170 ",
    "bbe 144 bc3 170 bc6 144 bc9 170 bca 144 bce 170 bd0 144 bd1 170 bd7 144 bd8 170 be6 144 bfb ",
    "170 c00 147 c0d 170 c0e 147 c11 170 c12 147 c29 170 c2a 147 c3a 170 c3c 147 c45 170 c46 147 ",
    "c49 170 c4a 147 c4e 170 c55 147 c57 170 c58 147 c5b 170 c5d 147 c5e 170 c60 147 c64 170 c66 ",
    "147 c70 170 c77 147 c80 67 c8d 170 c8e 67 c91 170 c92 67 ca9 170 caa 67 cb4 170 cb5 67 cba ",
    "170 cbc 67 cc5 170 cc6 67 cc9 170 cca 67 cce 170 cd5 67 cd7 170 cdd 67 cdf 170 ce0 67 ce4 ",
    "170 ce6 67 cf0 170 cf1 67 cf4 170 d00 89 d0d 170 d0e 89 d11 170 d12 89 d45 170 d46 89 d49 ",
    "170 d4a 89 d50 170 d54 89 d64 170 d66 89 d80 170 d81 131 d84 170 d85 131 d97 170 d9a 131 db2 ",
    "170 db3 131 dbc 170 dbd 131 dbe 170 dc0 131 dc7 170 dca 131 dcb 170 dcf 131 dd5 170 dd6 131 ",
    "dd7 170 dd8 131 de0 170 de6 131 df0 170 df2 131 df5 170 e01 151 e3b 170 e3f 169 e40 151 e5c ",
    "170 e81 71 e83 170 e84 71 e85 170 e86 71 e8b 170 e8c 71 ea4 170 ea5 71 ea6 170 ea7 71 ebe ",
    "170 ec0 71 ec5 170 ec6 71 ec7 170 ec8 71 ecf 170 ed0 71 eda 170 edc 71 ee0 170 f00 152 f48 ",
    "170 f49 152 f6d 170 f71 152 f98 170 f99 152 fbd 170 fbe 152 fcd 170 fce 152 fd5 169 fd9 152 ",
    "fdb 170 1000 95 10a0 38 10c6 170 10c7 38 10c8 170 10cd 38 10ce 170 10d0 38 10fb 169 10fc 38 ",
    "1100 48 1200 36 1249 170 124a 36 124e 170 1250 36 1257 170 1258 36 1259 170 125a 36 125e 170 ",
    "1260 36 1289 170 128a 36 128e 170 1290 36 12b1 170 12b2 36 12b6 170 12b8 36 12bf 170 12c0 36 ",
    "12c1 170 12c2 36 12c6 170 12c8 36 12d7 170 12d8 36 1311 170 1312 36 1316 170 1318 36 135b ",
    "170 135d 36 137d 170 1380 36 139a 170 13a0 22 13f6 170 13f8 22 13fe 170 1400 19 1680 103 ",
    "169d 170 16a0 122 16eb 169 16ee 122 16f9 170 1700 149 1716 170 171f 149 1720 50 1735 169 ",
    "1737 170 1740 17 1754 170 1760 140 176d 170 176e 140 1771 170 1772 140 1774 170 1780 64 17de ",
    "170 17e0 64 17ea 170 17f0 64 17fa 170 1800 91 1802 169 1804 91 1805 169 1806 91 181a 170 ",
    "1820 91 1879 170 1880 91 18ab 170 18b0 19 18f6 170 1900 74 191f 170 1920 74 192c 170 1930 74 ",
    "193c 170 1940 74 1941 170 1944 74 1950 142 196e 170 1970 142 1975 170 1980 143 19ac 170 19b0 ",
    "143 19ca 170 19d0 143 19db 170 19de 143 19e0 64 1a00 16 1a1c 170 1a1e 16 1a20 70 1a5f 170 ",
    "1a60 70 1a7d 170 1a7f 70 1a8a 170 1a90 70 1a9a 170 1aa0 70 1aae 170 1ab0 168 1acf 170 1b00 7 ",
    "1b4d 170 1b4e 7 1b80 136 1bc0 10 1bf4 170 1bfc 10 1c00 73 1c38 170 1c3b 73 1c4a 170 1c4d 73 ",
    "1c50 104 1c80 27 1c8b 170 1c90 38 1cbb 170 1cbd 38 1cc0 136 1cc8 170 1cd0 168 1cd3 169 1cd4 ",
    "168 1ce1 169 1ce2 168 1ce9 169 1ced 168 1cee 169 1cf4 168 1cf5 169 1cf8 168 1cfa 169 1cfb ",
    "170 1d00 72 1d26 44 1d2b 27 1d2c 72 1d5d 44 1d62 72 1d66 44 1d6b 72 1d78 27 1d79 72 1dbf 44 ",
    "1dc0 168 1e00 72 1f00 44 1f16 170 1f18 44 1f1e 170 1f20 44 1f46 170 1f48 44 1f4e 170 1f50 44 ",
    "1f58 170 1f59 44 1f5a 170 1f5b 44 1f5c 170 1f5d 44 1f5e 170 1f5f 44 1f7e 170 1f80 44 1fb5 ",
    "170 1fb6 44 1fc5 170 1fc6 44 1fd4 170 1fd6 44 1fdc 170 1fdd 44 1ff0 170 1ff2 44 1ff5 170 ",
    "1ff6 44 1fff 170 2000 169 200c 168 200e 169 2065 170 2066 169 2071 72 2072 170 2074 169 207f ",
    "72 2080 169 208f 170 2090 72 209d 170 20a0 169 20c1 170 20d0 168 20f1 170 2100 169 2126 44 ",
    "2127 169 212a 72 212c 169 2132 72 2133 169 214e 72 214f 169 2160 72 2189 169 218c 170 2190 ",
    "169 242a 170 2440 169 244b 170 2460 169 2800 15 2900 169 2b74 170 2b76 169 2b96 170 2b97 169 ",
    "2c00 39 2c60 72 2c80 24 2cf4 170 2cf9 24 2d00 38 2d26 170 2d27 38 2d28 170 2d2d 38 2d2e 170 ",
    "2d30 148 2d68 170 2d6f 148 2d71 170 2d7f 148 2d80 36 2d97 170 2da0 36 2da7 170 2da8 36 2daf ",
    "170 2db0 36 2db7 170 2db8 36 2dbf 170 2dc0 36 2dc7 170 2dc8 36 2dcf 170 2dd0 36 2dd7 170 ",
    "2dd8 36 2ddf 170 2de0 27 2e00 169 2e5e 170 2e80 49 2e9a 170 2e9b 49 2ef4 170 2f00 49 2fd6 ",
    "170 2ff0 169 3005 49 3006 169 3007 49 3008 169 3021 49 302a 168 302e 48 3030 169 3038 49 ",
    "303c 169 3040 170 3041 53 3097 170 3099 168 309b 169 309d 53 30a0 169 30a1 61 30fb 169 30fd ",
    "61 3100 170 3105 13 3130 170 3131 48 318f 170 3190 169 31a0 13 31c0 169 31e6 170 31ef 169 ",
    "31f0 61 3200 48 321f 170 3220 169 3260 48 327f 169 32d0 61 32ff 169 3300 61 3358 169 3400 49 ",
    "4dc0 169 4e00 49 a000 166 a48d 170 a490 166 a4c7 170 a4d0 77 a500 159 a62c 170 a640 27 a6a0 ",
    "8 a6f8 170 a700 169 a722 72 a788 169 a78b 72 a7ce 170 a7d0 72 a7d2 170 a7d3 72 a7d4 170 a7d5 ",
    "72 a7dd 170 a7f2 72 a800 138 a82d 170 a830 169 a83a 170 a840 114 a878 170 a880 125 a8c6 170 ",
    "a8ce 125 a8da 170 a8e0 28 a900 60 a92e 169 a92f 60 a930 120 a954 170 a95f 120 a960 48 a97d ",
    "170 a980 59 a9ce 170 a9cf 169 a9d0 59 a9da 170 a9de 59 a9e0 95 a9ff 170 aa00 21 aa37 170 ",
    "aa40 21 aa4e 170 aa50 21 aa5a 170 aa5c 21 aa60 95 aa80 146 aac3 170 aadb 146 aae0 93 aaf7 ",
    "170 ab01 36 ab07 170 ab09 36 ab0f 170 ab11 36 ab17 170 ab20 36 ab27 170 ab28 36 ab2f 170 ",
    "ab30 72 ab5b 169 ab5c 72 ab65 44 ab66 72 ab6a 169 ab6c 170 ab70 22 abc0 93 abee 170 abf0 93 ",
    "abfa 170 ac00 48 d7a4 170 d7b0 48 d7c7 170 d7cb 48 d7fc 170 f900 49 fa6e 170 fa70 49 fada ",
    "170 fb00 72 fb07 170 fb13 5 fb18 170 fb1d 52 fb37 170 fb38 52 fb3d 170 fb3e 52 fb3f 170 fb40 ",
    "52 fb42 170 fb43 52 fb45 170 fb46 52 fb50 3 fbc3 170 fbd3 3 fd3e 169 fd40 3 fd90 170 fd92 3 ",
    "fdc8 170 fdcf 3 fdd0 170 fdf0 3 fe00 168 fe10 169 fe1a 170 fe20 168 fe2e 27 fe30 169 fe53 ",
    "170 fe54 169 fe67 170 fe68 169 fe6c 170 fe70 3 fe75 170 fe76 3 fefd 170 feff 169 ff00 170 ",
    "ff01 169 ff21 72 ff3b 169 ff41 72 ff5b 169 ff66 61 ff70 169 ff71 61 ff9e 169 ffa0 48 ffbf ",
    "170 ffc2 48 ffc8 170 ffca 48 ffd0 170 ffd2 48 ffd8 170 ffda 48 ffdd 170 ffe0 169 ffe7 170 ",
    "ffe8 169 ffef 170 fff9 169 fffe 170 10000 76 1000c 170 1000d 76 10027 170 10028 76 1003b 170 ",
    "1003c 76 1003e 170 1003f 76 1004e 170 10050 76 1005e 170 10080 76 100fb 170 10100 169 10103 ",
    "170 10107 169 10134 170 10137 169 10140 44 1018f 170 10190 169 1019d 170 101a0 44 101a1 170 ",
    "101d0 169 101fd 168 101fe 170 10280 78 1029d 170 102a0 20 102d1 170 102e0 168 102e1 169 ",
    "102fc 170 10300 58 10324 170 1032d 58 10330 42 1034b 170 10350 113 1037b 170 10380 158 1039e ",
    "170 1039f 158 103a0 163 103c4 170 103c8 163 103d6 170 10400 31 10450 127 10480 109 1049e 170 ",
    "104a0 109 104aa 170 104b0 108 104d4 170 104d8 108 104fc 170 10500 34 10528 170 10530 1 10564 ",
    "170 1056f 1 10570 160 1057b 170 1057c 160 1058b 170 1058c 160 10593 170 10594 160 10596 170 ",
    "10597 160 105a2 170 105a3 160 105b2 170 105b3 160 105ba 170 105bb 160 105bd 170 105c0 155 ",
    "105f4 170 10600 75 10737 170 10740 75 10756 170 10760 75 10768 170 10780 72 10786 170 10787 ",
    "72 107b1 170 107b2 72 107bb 170 10800 26 10806 170 10808 26 10809 170 1080a 26 10836 170 ",
    "10837 26 10839 170 1083c 26 1083d 170 1083f 26 10840 4 10856 170 10857 4 10860 111 10880 99 ",
    "1089f 170 108a7 99 108b0 170 108e0 51 108f3 170 108f4 51 108f6 170 108fb 51 10900 117 1091c ",
    "170 1091f 117 10920 79 1093a 170 1093f 79 10940 170 10980 88 109a0 87 109b8 170 109bc 87 ",
    "109d0 170 109d2 87 10a00 63 10a04 170 10a05 63 10a07 170 10a0c 63 10a14 170 10a15 63 10a18 ",
    "170 10a19 63 10a36 170 10a38 63 10a3b 170 10a3f 63 10a49 170 10a50 63 10a59 170 10a60 124 ",
    "10a80 98 10aa0 170 10ac0 83 10ae7 170 10aeb 83 10af7 170 10b00 6 10b36 170 10b39 6 10b40 119 ",
    "10b56 170 10b58 119 10b60 115 10b73 170 10b78 115 10b80 116 10b92 170 10b99 116 10b9d 170 ",
    "10ba9 116 10bb0 170 10c00 106 10c49 170 10c80 57 10cb3 170 10cc0 57 10cf3 170 10cfa 57 10d00 ",
    "121 10d28 170 10d30 121 10d3a 170 10d40 37 10d66 170 10d69 37 10d86 170 10d8e 37 10d90 170 ",
    "10e60 3 10e7f 170 10e80 165 10eaa 170 10eab 165 10eae 170 10eb0 165 10eb2 170 10ec2 3 10ec5 ",
    "170 10efc 3 10f00 133 10f28 170 10f30 132 10f5a 170 10f70 110 10f8a 170 10fb0 23 10fcc 170 ",
    "10fe0 35 10ff7 170 11000 14 1104e 170 11052 14 11076 170 1107f 14 11080 69 110c3 170 110cd ",
    "69 110ce 170 110d0 134 110e9 170 110f0 134 110fa 170 11100 18 11135 170 11136 18 11148 170 ",
    "11150 80 11177 170 11180 128 111e0 170 111e1 131 111f5 170 11200 65 11212 170 11213 65 11242 ",
    "170 11280 94 11287 170 11288 94 11289 170 1128a 94 1128e 170 1128f 94 1129e 170 1129f 94 ",
    "112aa 170 112b0 130 112eb 170 112f0 130 112fa 170 11300 43 11304 170 11305 43 1130d 170 ",
    "1130f 43 11311 170 11313 43 11329 170 1132a 43 11331 170 11332 43 11334 170 11335 43 1133a ",
    "170 1133b 168 1133c 43 11345 170 11347 43 11349 170 1134b 43 1134e 170 11350 43 11351 170 ",
    "11357 43 11358 170 1135d 43 11364 170 11366 43 1136d 170 11370 43 11375 170 11380 157 1138a ",
    "170 1138b 157 1138c 170 1138e 157 1138f 170 11390 157 113b6 170 113b7 157 113c1 170 113c2 ",
    "157 113c3 170 113c5 157 113c6 170 113c7 157 113cb 170 113cc 157 113d6 170 113d7 157 113d9 ",
    "170 113e1 157 113e3 170 11400 100 1145c 170 1145d 100 11462 170 11480 153 114c8 170 114d0 ",
    "153 114da 170 11580 129 115b6 170 115b8 129 115de 170 11600 90 11645 170 11650 90 1165a 170 ",
    "11660 91 1166d 170 11680 141 116ba 170 116c0 141 116ca 170 116d0 95 116e4 170 11700 2 1171b ",
    "170 1171d 2 1172c 170 11730 2 11747 170 11800 30 1183c 170 118a0 161 118f3 170 118ff 161 ",
    "11900 29 11907 170 11909 29 1190a 170 1190c 29 11914 170 11915 29 11917 170 11918 29 11936 ",
    "170 11937 29 11939 170 1193b 29 11947 170 11950 29 1195a 170 119a0 97 119a8 170 119aa 97 ",
    "119d8 170 119da 97 119e5 170 11a00 167 11a48 170 11a50 135 11aa3 170 11ab0 19 11ac0 112 ",
    "11af9 170 11b00 28 11b0a 170 11bc0 137 11be2 170 11bf0 137 11bfa 170 11c00 12 11c09 170 ",
    "11c0a 12 11c37 170 11c38 12 11c46 170 11c50 12 11c6d 170 11c70 84 11c90 170 11c92 84 11ca8 ",
    "170 11ca9 84 11cb7 170 11d00 41 11d07 170 11d08 41 11d0a 170 11d0b 41 11d37 170 11d3a 41 ",
    "11d3b 170 11d3c 41 11d3e 170 11d3f 41 11d48 170 11d50 41 11d5a 170 11d60 40 11d66 170 11d67 ",
    "40 11d69 170 11d6a 40 11d8f 170 11d90 40 11d92 170 11d93 40 11d99 170 11da0 40 11daa 170 ",
    "11ee0 81 11ef9 170 11f00 62 11f11 170 11f12 62 11f3b 170 11f3e 62 11f5b 170 11fb0 77 11fb1 ",
    "170 11fc0 144 11ff2 170 11fff 144 12000 164 1239a 170 12400 164 1246f 170 12470 164 12475 ",
    "170 12480 164 12544 170 12f90 25 12ff3 170 13000 33 13456 170 13460 33 143fb 170 14400 54 ",
    "14647 170 16100 46 1613a 170 16800 8 16a39 170 16a40 92 16a5f 170 16a60 92 16a6a 170 16a6e ",
    "92 16a70 154 16abf 170 16ac0 154 16aca 170 16ad0 9 16aee 170 16af0 9 16af6 170 16b00 55 ",
    "16b46 170 16b50 55 16b5a 170 16b5b 55 16b62 170 16b63 55 16b78 170 16b7d 55 16b90 170 16d40 ",
    "68 16d7a 170 16e40 85 16e9b 170 16f00 118 16f4b 170 16f4f 118 16f88 170 16f8f 118 16fa0 170 ",
    "16fe0 145 16fe1 102 16fe2 49 16fe4 66 16fe5 170 16ff0 49 16ff2 170 17000 145 187f8 170 18800 ",
    "145 18b00 66 18cd6 170 18cff 66 18d00 145 18d09 170 1aff0 61 1aff4 170 1aff5 61 1affc 170 ",
    "1affd 61 1afff 170 1b000 61 1b001 53 1b120 61 1b123 170 1b132 53 1b133 170 1b150 53 1b153 ",
    "170 1b155 61 1b156 170 1b164 61 1b168 170 1b170 102 1b2fc 170 1bc00 32 1bc6b 170 1bc70 32 ",
    "1bc7d 170 1bc80 32 1bc89 170 1bc90 32 1bc9a 170 1bc9c 32 1bca0 169 1bca4 170 1cc00 169 1ccfa ",
    "170 1cd00 169 1ceb4 170 1cf00 168 1cf2e 170 1cf30 168 1cf47 170 1cf50 169 1cfc4 170 1d000 ",
    "169 1d0f6 170 1d100 169 1d127 170 1d129 169 1d167 168 1d16a 169 1d17b 168 1d183 169 1d185 ",
    "168 1d18c 169 1d1aa 168 1d1ae 169 1d1eb 170 1d200 44 1d246 170 1d2c0 169 1d2d4 170 1d2e0 169 ",
    "1d2f4 170 1d300 169 1d357 170 1d360 169 1d379 170 1d400 169 1d455 170 1d456 169 1d49d 170 ",
    "1d49e 169 1d4a0 170 1d4a2 169 1d4a3 170 1d4a5 169 1d4a7 170 1d4a9 169 1d4ad 170 1d4ae 169 ",
    "1d4ba 170 1d4bb 169 1d4bc 170 1d4bd 169 1d4c4 170 1d4c5 169 1d506 170 1d507 169 1d50b 170 ",
    "1d50d 169 1d515 170 1d516 169 1d51d 170 1d51e 169 1d53a 170 1d53b 169 1d53f 170 1d540 169 ",
    "1d545 170 1d546 169 1d547 170 1d54a 169 1d551 170 1d552 169 1d6a6 170 1d6a8 169 1d7cc 170 ",
    "1d7ce 169 1d800 126 1da8c 170 1da9b 126 1daa0 170 1daa1 126 1dab0 170 1df00 72 1df1f 170 ",
    "1df25 72 1df2b 170 1e000 39 1e007 170 1e008 39 1e019 170 1e01b 39 1e022 170 1e023 39 1e025 ",
    "170 1e026 39 1e02b 170 1e030 27 1e06e 170 1e08f 27 1e090 170 1e100 56 1e12d 170 1e130 56 ",
    "1e13e 170 1e140 56 1e14a 170 1e14e 56 1e150 170 1e290 156 1e2af 170 1e2c0 162 1e2fa 170 ",
    "1e2ff 162 1e300 170 1e4d0 96 1e4fa 170 1e5d0 105 1e5fb 170 1e5ff 105 1e600 170 1e7e0 36 ",
    "1e7e7 170 1e7e8 36 1e7ec 170 1e7ed 36 1e7ef 170 1e7f0 36 1e7ff 170 1e800 86 1e8c5 170 1e8c7 ",
    "86 1e8d7 170 1e900 0 1e94c 170 1e950 0 1e95a 170 1e95e 0 1e960 170 1ec71 169 1ecb5 170 1ed01 ",
    "169 1ed3e 170 1ee00 3 1ee04 170 1ee05 3 1ee20 170 1ee21 3 1ee23 170 1ee24 3 1ee25 170 1ee27 ",
    "3 1ee28 170 1ee29 3 1ee33 170 1ee34 3 1ee38 170 1ee39 3 1ee3a 170 1ee3b 3 1ee3c 170 1ee42 3 ",
    "1ee43 170 1ee47 3 1ee48 170 1ee49 3 1ee4a 170 1ee4b 3 1ee4c 170 1ee4d 3 1ee50 170 1ee51 3 ",
    "1ee53 170 1ee54 3 1ee55 170 1ee57 3 1ee58 170 1ee59 3 1ee5a 170 1ee5b 3 1ee5c 170 1ee5d 3 ",
    "1ee5e 170 1ee5f 3 1ee60 170 1ee61 3 1ee63 170 1ee64 3 1ee65 170 1ee67 3 1ee6b 170 1ee6c 3 ",
    "1ee73 170 1ee74 3 1ee78 170 1ee79 3 1ee7d 170 1ee7e 3 1ee7f 170 1ee80 3 1ee8a 170 1ee8b 3 ",
    "1ee9c 170 1eea1 3 1eea4 170 1eea5 3 1eeaa 170 1eeab 3 1eebc 170 1eef0 3 1eef2 170 1f000 169 ",
    "1f02c 170 1f030 169 1f094 170 1f0a0 169 1f0af 170 1f0b1 169 1f0c0 170 1f0c1 169 1f0d0 170 ",
    "1f0d1 169 1f0f6 170 1f100 169 1f1ae 170 1f1e6 169 1f200 53 1f201 169 1f203 170 1f210 169 ",
    "1f23c 170 1f240 169 1f249 170 1f250 169 1f252 170 1f260 169 1f266 170 1f300 169 1f6d8 170 ",
    "1f6dc 169 1f6ed 170 1f6f0 169 1f6fd 170 1f700 169 1f777 170 1f77b 169 1f7da 170 1f7e0 169 ",
    "1f7ec 170 1f7f0 169 1f7f1 170 1f800 169 1f80c 170 1f810 169 1f848 170 1f850 169 1f85a 170 ",
    "1f860 169 1f888 170 1f890 169 1f8ae 170 1f8b0 169 1f8bc 170 1f8c0 169 1f8c2 170 1f900 169 ",
    "1fa54 170 1fa60 169 1fa6e 170 1fa70 169 1fa7d 170 1fa80 169 1fa8a 170 1fa8f 169 1fac7 170 ",
    "1face 169 1fadd 170 1fadf 169 1faea 170 1faf0 169 1faf9 170 1fb00 169 1fb93 170 1fb94 169 ",
    "1fbfa 170 20000 49 2a6e0 170 2a700 49 2b73a 170 2b740 49 2b81e 170 2b820 49 2cea2 170 2ceb0 ",
    "49 2ebe1 170 2ebf0 49 2ee5e 170 2f800 49 2fa1e 170 30000 49 3134b 170 31350 49 323b0 170 ",
    "e0001 169 e0002 170 e0020 169 e0080 170 e0100 168 e01f0 170"]

def scriptMap : CodeMap Nat :=
  CodeMap.ofTable (fun w => w.toNat?.getD 0) unknownScript scriptTable

def scriptAt (c : Nat) : Nat :=
  scriptMap.get c

def scriptRanges (script : Nat) : List (Nat × Nat) :=
  let m := scriptMap
  (List.range m.starts.size).filterMap fun i =>
    if m.values.getD i 0 == script then
      some (m.starts.getD i 0, m.starts.getD (i + 1) 0x110000 - 1)
    else none

/-- The ranges whose script extensions are more than their script: for each, the first and last
hexadecimal code point and the comma-separated indices of the scripts it is used with. -/
def scriptExtensionTable : String :=
  String.join [
    "b7 b7 6,20,24,32,34,38,39,40,42,44,49,72,79,80,113,127 2bc 2bc 11,27,28,72,77,151,156 2c7 ",
    "2c7 13,72 2c9 2cb 13,72 2cd 2cd 72,77 2d7 2d7 72,151 2d9 2d9 13,72 300 300 ",
    "22,24,27,44,72,113,137,142 301 301 22,27,44,72,108,137,142,155 302 302 22,27,72,148 303 303 ",
    "39,72,137,139,151 304 304 1,22,24,27,42,44,72,108,139,148,155 305 305 24,34,39,42,61,72 306 ",
    "306 27,44,72,113 307 307 24,32,52,72,113,139,142,148,155 308 308 ",
    "5,27,32,42,44,52,72,113,139,142 309 309 72,148 30a 30a 32,72,139 30b 30b 22,27,72,108 30c ",
    "30c 22,72,142 30d 30d 72,137 30e 30e 36,72 310 310 72,137 311 311 27,72,155 313 313 ",
    "44,72,113,155 320 320 139 323 323 22,32,61,72,139 324 324 22,32,72,139 325 325 72,139 32d ",
    "32d 72,137,139 32e 32e 72,139 330 330 22,72,139 331 331 1,22,42,72,137,151 342 342 44 345 ",
    "345 44 358 358 72,108 35e 35e 1,72,155 363 36f 72 374 375 24,44 483 483 27,113 484 484 27,39 ",
    "485 486 27,72 487 487 27,39 589 589 5,38,39 60c 60c 3,37,101,121,139,150,165 61b 61b ",
    "3,37,101,121,139,150,165 61c 61c 3,139,150 61f 61f 0,3,37,101,121,139,150,165 640 640 ",
    "0,3,82,83,110,116,121,132,139 64b 655 3,139 660 669 3,150,165 670 670 3,139 6d4 6d4 3,121 ",
    "951 951 11,28,43,45,47,67,72,89,97,107,128,144,147,153 952 952 ",
    "11,28,43,45,47,67,72,89,107,144,147,153 964 964 ",
    "11,28,30,40,41,43,45,47,67,80,89,97,105,107,130,131,138,141,144,147,153 965 965 ",
    "11,28,30,40,41,43,45,46,47,67,74,80,89,97,105,107,130,131,138,141,144,147,153 966 96f ",
    "28,30,69,80 9e6 9ef 11,18,138 a66 a6f 47,94 ae6 aef 45,65 be6 bf3 43,144 ce6 cef 67,97,157 ",
    "1040 1049 18,95,142 10fb 10fb 38,39,72 16eb 16ed 122 1735 1736 17,50,140,149 1802 1803 ",
    "91,114 1805 1805 91,114 1cd0 1cd0 11,28,43,67 1cd1 1cd1 28 1cd2 1cd2 11,28,43,67 1cd3 1cd3 ",
    "28,43,67 1cd4 1cd4 28 1cd5 1cd6 11,28 1cd7 1cd7 28,128 1cd8 1cd8 11,28 1cd9 1cd9 28,128 1cda ",
    "1cda 28,67,89,107,144,147 1cdb 1cdb 28 1cdc 1cdd 28,128 1cde 1cdf 28 1ce0 1ce0 28,128 1ce1 ",
    "1ce1 11,28 1ce2 1ce8 28 1ce9 1ce9 28,97 1cea 1cea 11,28,128 1ceb 1cec 28 1ced 1ced 11,28,128 ",
    "1cee 1cf1 28 1cf2 1cf2 11,28,43,67,89,97,107,131,147,153,157 1cf3 1cf3 28,43 1cf4 1cf4 ",
    "28,43,67,157 1cf5 1cf6 11,28 1cf7 1cf7 11 1cf8 1cf9 28,43 1cfa 1cfa 97 1dc0 1dc1 44 1df8 ",
    "1df8 27,72,139 1dfa 1dfa 139 202f 202f 72,91,114 204f 204f 0,3 205a 205a 20,38,39,57,78,106 ",
    "205d 205d 20,44,57,88 20f0 20f0 28,43,72 2e17 2e17 24,72 2e30 2e30 6,106 2e31 2e31 ",
    "6,20,38,57,69,79,123 2e3c 2e3c 32 2e41 2e41 0,3,57 2e43 2e43 27,39 2ff0 2fff 49,145 3001 ",
    "3001 13,48,49,53,61,91,166 3002 3002 13,48,49,53,61,91,114,166 3003 3003 13,48,49,53,61 3006 ",
    "3006 49 3008 3009 13,48,49,53,61,91,152,166 300a 300b 13,48,49,53,61,77,91,152,166 300c 3011 ",
    "13,48,49,53,61,166 3013 3013 13,48,49,53,61 3014 301b 13,48,49,53,61,166 301c 301f ",
    "13,48,49,53,61 302a 302d 13,49 3030 3030 13,48,49,53,61 3031 3035 53,61 3037 3037 ",
    "13,48,49,53,61 303c 303d 49,53,61 303e 303f 49 3099 309c 53,61 30a0 30a0 53,61 30fb 30fb ",
    "13,48,49,53,61,166 30fc 30fc 53,61 3190 319f 49 31c0 31e5 49 31ef 31ef 49,145 3220 3247 49 ",
    "3280 32b0 49 32c0 32cb 49 32ff 32ff 49 3358 3370 49 337b 337f 49 33e0 33fe 49 a66f a66f ",
    "27,39 a700 a707 49,72 a830 a832 28,30,45,47,65,67,69,80,89,90,97,128,130,141,153,157 a833 ",
    "a835 28,30,45,47,65,67,69,80,90,97,128,130,141,153,157 a836 a837 ",
    "28,30,45,47,65,69,80,90,130,141,153 a838 a838 28,30,45,47,65,69,80,90,128,130,141,153 a839 ",
    "a839 28,30,45,47,65,69,80,90,130,141,153 a8f1 a8f1 11,28,157 a8f3 a8f3 28,144 a92e a92e ",
    "60,72,95 a9cf a9cf 16,59 fd3e fd3f 3,101 fdf2 fdf2 3,150 fdfd fdfd 3,150 fe45 fe46 ",
    "13,48,49,53,61 ff61 ff65 13,48,49,53,61,166 ff70 ff70 53,61 ff9e ff9f 53,61 10100 10101 ",
    "25,26,76 10102 10102 26,76 10107 10133 26,75,76 10137 1013f 26,76 102e0 102fb 3,24 10af2 ",
    "10af2 83,110 11301 11301 43,144 11303 11303 43,144 1133b 1133c 43,144 11fd0 11fd1 43,144 ",
    "11fd3 11fd3 43,144 1bca0 1bca3 32 1d360 1d371 49 1f250 1f251 49"]

def scriptExtensionEntries : List (Nat × Nat × List Nat) :=
  go (tableWords scriptExtensionTable).toList
where
  go : List String → List (Nat × Nat × List Nat)
    | lo :: hi :: scripts :: rest =>
      (readHex lo, readHex hi, (scripts.splitOn ",").map fun s => s.toNat?.getD 0) :: go rest
    | _ => []

end Highlight.Unicode
