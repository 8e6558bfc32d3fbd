import Highlight.Unicode.CodeSet

/-!
# Display width of a character

The number of terminal columns a character takes, as of Unicode 15.1: a character assigned later
takes one column, as an unassigned one does.  Control characters, the
NUL character among them, have no width.  No column for the characters that are ignorable by
default (the soft hyphen `U+00AD` among them) or extend a grapheme, the Hangul medial vowels and
final consonants, the characters that prefix a grapheme other than the prepended concatenation
marks (of which only `U+0605`, `U+070F`, `U+0890`, `U+0891` and `U+08E2` take none), eight vowel
signs that extend a grapheme through their decomposition, and `U+A8FA`.  `U+2D7F` takes one
column, the Hangul choseong filler `U+115F` two, and the Khmer sign `U+17D8`, which stands for a
three-letter word, three.  Every other character takes two columns when it is wide or full-width
in East Asian text, one otherwise.  The table gives the width from `U+00A0` on, as runs.
-/

namespace Highlight.Unicode

/-- Runs of widths from `U+00A0` on: a hexadecimal run start and the width of the run. -/
def widthTable : String :=
  String.join [
    "a0 1 ad 0 ae 1 300 0 370 1 483 0 48a 1 591 0 5be 1 5bf 0 5c0 1 5c1 0 5c3 1 5c4 0 5c6 1 5c7 0 ",
    "5c8 1 605 0 606 1 610 0 61b 1 61c 0 61d 1 64b 0 660 1 670 0 671 1 6d6 0 6dd 1 6df 0 6e5 1 ",
    "6e7 0 6e9 1 6ea 0 6ee 1 70f 0 710 1 711 0 712 1 730 0 74b 1 7a6 0 7b1 1 7eb 0 7f4 1 7fd 0 ",
    "7fe 1 816 0 81a 1 81b 0 824 1 825 0 828 1 829 0 82e 1 859 0 85c 1 890 0 892 1 898 0 8a0 1 ",
    "8ca 0 903 1 93a 0 93b 1 93c 0 93d 1 941 0 949 1 94d 0 94e 1 951 0 958 1 962 0 964 1 981 0 ",
    "982 1 9bc 0 9bd 1 9be 0 9bf 1 9c1 0 9c5 1 9cd 0 9ce 1 9d7 0 9d8 1 9e2 0 9e4 1 9fe 0 9ff 1 ",
    "a01 0 a03 1 a3c 0 a3d 1 a41 0 a43 1 a47 0 a49 1 a4b 0 a4e 1 a51 0 a52 1 a70 0 a72 1 a75 0 ",
    "a76 1 a81 0 a83 1 abc 0 abd 1 ac1 0 ac6 1 ac7 0 ac9 1 acd 0 ace 1 ae2 0 ae4 1 afa 0 b00 1 ",
    "b01 0 b02 1 b3c 0 b3d 1 b3e 0 b40 1 b41 0 b45 1 b4d 0 b4e 1 b55 0 b58 1 b62 0 b64 1 b82 0 ",
    "b83 1 bbe 0 bbf 1 bc0 0 bc1 1 bcd 0 bce 1 bd7 0 bd8 1 c00 0 c01 1 c04 0 c05 1 c3c 0 c3d 1 ",
    "c3e 0 c41 1 c46 0 c49 1 c4a 0 c4e 1 c55 0 c57 1 c62 0 c64 1 c81 0 c82 1 cbc 0 cbd 1 cbf 0 ",
    "cc1 1 cc2 0 cc3 1 cc6 0 cc9 1 cca 0 cce 1 cd5 0 cd7 1 ce2 0 ce4 1 d00 0 d02 1 d3b 0 d3d 1 ",
    "d3e 0 d3f 1 d41 0 d45 1 d4d 0 d4f 1 d57 0 d58 1 d62 0 d64 1 d81 0 d82 1 dca 0 dcb 1 dcf 0 ",
    "dd0 1 dd2 0 dd5 1 dd6 0 dd7 1 ddf 0 de0 1 e31 0 e32 1 e34 0 e3b 1 e47 0 e4f 1 eb1 0 eb2 1 ",
    "eb4 0 ebd 1 ec8 0 ecf 1 f18 0 f1a 1 f35 0 f36 1 f37 0 f38 1 f39 0 f3a 1 f71 0 f7f 1 f80 0 ",
    "f85 1 f86 0 f88 1 f8d 0 f98 1 f99 0 fbd 1 fc6 0 fc7 1 102d 0 1031 1 1032 0 1038 1 1039 0 ",
    "103b 1 103d 0 103f 1 1058 0 105a 1 105e 0 1061 1 1071 0 1075 1 1082 0 1083 1 1085 0 1087 1 ",
    "108d 0 108e 1 109d 0 109e 1 1100 2 1160 0 1200 1 135d 0 1360 1 1712 0 1715 1 1732 0 1734 1 ",
    "1752 0 1754 1 1772 0 1774 1 17b4 0 17b6 1 17b7 0 17be 1 17c6 0 17c7 1 17c9 0 17d4 1 17d8 3 ",
    "17d9 1 17dd 0 17de 1 180b 0 1810 1 1885 0 1887 1 18a9 0 18aa 1 1920 0 1923 1 1927 0 1929 1 ",
    "1932 0 1933 1 1939 0 193c 1 1a17 0 1a19 1 1a1b 0 1a1c 1 1a56 0 1a57 1 1a58 0 1a5f 1 1a60 0 ",
    "1a61 1 1a62 0 1a63 1 1a65 0 1a6d 1 1a73 0 1a7d 1 1a7f 0 1a80 1 1ab0 0 1acf 1 1b00 0 1b04 1 ",
    "1b34 0 1b3e 1 1b42 0 1b44 1 1b6b 0 1b74 1 1b80 0 1b82 1 1ba2 0 1ba6 1 1ba8 0 1baa 1 1bab 0 ",
    "1bae 1 1be6 0 1be7 1 1be8 0 1bea 1 1bed 0 1bee 1 1bef 0 1bf2 1 1c2c 0 1c34 1 1c36 0 1c38 1 ",
    "1cd0 0 1cd3 1 1cd4 0 1ce1 1 1ce2 0 1ce9 1 1ced 0 1cee 1 1cf4 0 1cf5 1 1cf8 0 1cfa 1 1dc0 0 ",
    "1e00 1 200b 0 2010 1 202a 0 202f 1 2060 0 2070 1 20d0 0 20f1 1 231a 2 231c 1 2329 2 232b 1 ",
    "23e9 2 23ed 1 23f0 2 23f1 1 23f3 2 23f4 1 25fd 2 25ff 1 2614 2 2616 1 2648 2 2654 1 267f 2 ",
    "2680 1 2693 2 2694 1 26a1 2 26a2 1 26aa 2 26ac 1 26bd 2 26bf 1 26c4 2 26c6 1 26ce 2 26cf 1 ",
    "26d4 2 26d5 1 26ea 2 26eb 1 26f2 2 26f4 1 26f5 2 26f6 1 26fa 2 26fb 1 26fd 2 26fe 1 2705 2 ",
    "2706 1 270a 2 270c 1 2728 2 2729 1 274c 2 274d 1 274e 2 274f 1 2753 2 2756 1 2757 2 2758 1 ",
    "2795 2 2798 1 27b0 2 27b1 1 27bf 2 27c0 1 2b1b 2 2b1d 1 2b50 2 2b51 1 2b55 2 2b56 1 2cef 0 ",
    "2cf2 1 2de0 0 2e00 1 2e80 2 2e9a 1 2e9b 2 2ef4 1 2f00 2 2fd6 1 2ff0 2 302a 0 3030 2 303f 1 ",
    "3041 2 3097 1 3099 0 309b 2 3100 1 3105 2 3130 1 3131 2 3164 0 3165 2 318f 1 3190 2 31e4 1 ",
    "31ef 2 321f 1 3220 2 3248 1 3250 2 4dc0 1 4e00 2 a48d 1 a490 2 a4c7 1 a66f 0 a673 1 a674 0 ",
    "a67e 1 a69e 0 a6a0 1 a6f0 0 a6f2 1 a802 0 a803 1 a806 0 a807 1 a80b 0 a80c 1 a825 0 a827 1 ",
    "a82c 0 a82d 1 a8c4 0 a8c6 1 a8e0 0 a8f2 1 a8fa 0 a8fb 1 a8ff 0 a900 1 a926 0 a92e 1 a947 0 ",
    "a952 1 a960 2 a97d 1 a980 0 a983 1 a9b3 0 a9b4 1 a9b6 0 a9ba 1 a9bc 0 a9be 1 a9e5 0 a9e6 1 ",
    "aa29 0 aa2f 1 aa31 0 aa33 1 aa35 0 aa37 1 aa43 0 aa44 1 aa4c 0 aa4d 1 aa7c 0 aa7d 1 aab0 0 ",
    "aab1 1 aab2 0 aab5 1 aab7 0 aab9 1 aabe 0 aac0 1 aac1 0 aac2 1 aaec 0 aaee 1 aaf6 0 aaf7 1 ",
    "abe5 0 abe6 1 abe8 0 abe9 1 abed 0 abee 1 ac00 2 d7a4 1 d7b0 0 d7c7 1 d7cb 0 d7fc 1 f900 2 ",
    "fb00 1 fb1e 0 fb1f 1 fe00 0 fe10 2 fe1a 1 fe20 0 fe30 2 fe53 1 fe54 2 fe67 1 fe68 2 fe6c 1 ",
    "feff 0 ff00 1 ff01 2 ff61 1 ff9e 0 ffa1 1 ffe0 2 ffe7 1 fff0 0 fff9 1 101fd 0 101fe 1 102e0 ",
    "0 102e1 1 10376 0 1037b 1 10a01 0 10a04 1 10a05 0 10a07 1 10a0c 0 10a10 1 10a38 0 10a3b 1 ",
    "10a3f 0 10a40 1 10ae5 0 10ae7 1 10d24 0 10d28 1 10eab 0 10ead 1 10efd 0 10f00 1 10f46 0 ",
    "10f51 1 10f82 0 10f86 1 11001 0 11002 1 11038 0 11047 1 11070 0 11071 1 11073 0 11075 1 ",
    "1107f 0 11082 1 110b3 0 110b7 1 110b9 0 110bb 1 110c2 0 110c3 1 11100 0 11103 1 11127 0 ",
    "1112c 1 1112d 0 11135 1 11173 0 11174 1 11180 0 11182 1 111b6 0 111bf 1 111c2 0 111c4 1 ",
    "111c9 0 111cd 1 111cf 0 111d0 1 1122f 0 11232 1 11234 0 11235 1 11236 0 11238 1 1123e 0 ",
    "1123f 1 11241 0 11242 1 112df 0 112e0 1 112e3 0 112eb 1 11300 0 11302 1 1133b 0 1133d 1 ",
    "1133e 0 1133f 1 11340 0 11341 1 11357 0 11358 1 11366 0 1136d 1 11370 0 11375 1 11438 0 ",
    "11440 1 11442 0 11445 1 11446 0 11447 1 1145e 0 1145f 1 114b0 0 114b1 1 114b3 0 114b9 1 ",
    "114ba 0 114bb 1 114bd 0 114be 1 114bf 0 114c1 1 114c2 0 114c4 1 115af 0 115b0 1 115b2 0 ",
    "115b6 1 115bc 0 115be 1 115bf 0 115c1 1 115dc 0 115de 1 11633 0 1163b 1 1163d 0 1163e 1 ",
    "1163f 0 11641 1 116ab 0 116ac 1 116ad 0 116ae 1 116b0 0 116b6 1 116b7 0 116b8 1 1171d 0 ",
    "11720 1 11722 0 11726 1 11727 0 1172c 1 1182f 0 11838 1 11839 0 1183b 1 11930 0 11931 1 ",
    "1193b 0 1193d 1 1193e 0 11940 1 11941 0 11942 1 11943 0 11944 1 119d4 0 119d8 1 119da 0 ",
    "119dc 1 119e0 0 119e1 1 11a01 0 11a0b 1 11a33 0 11a39 1 11a3a 0 11a3f 1 11a47 0 11a48 1 ",
    "11a51 0 11a57 1 11a59 0 11a5c 1 11a84 0 11a97 1 11a98 0 11a9a 1 11c30 0 11c37 1 11c38 0 ",
    "11c3e 1 11c3f 0 11c40 1 11c92 0 11ca8 1 11caa 0 11cb1 1 11cb2 0 11cb4 1 11cb5 0 11cb7 1 ",
    "11d31 0 11d37 1 11d3a 0 11d3b 1 11d3c 0 11d3e 1 11d3f 0 11d48 1 11d90 0 11d92 1 11d95 0 ",
    "11d96 1 11d97 0 11d98 1 11ef3 0 11ef5 1 11f00 0 11f03 1 11f36 0 11f3b 1 11f40 0 11f41 1 ",
    "11f42 0 11f43 1 13440 0 13441 1 13447 0 13456 1 16af0 0 16af5 1 16b30 0 16b37 1 16f4f 0 ",
    "16f50 1 16f8f 0 16f93 1 16fe0 2 16fe4 0 16fe5 1 16ff0 2 16ff2 1 17000 2 187f8 1 18800 2 ",
    "18cd6 1 18d00 2 18d09 1 1aff0 2 1aff4 1 1aff5 2 1affc 1 1affd 2 1afff 1 1b000 2 1b123 1 ",
    "1b132 2 1b133 1 1b150 2 1b153 1 1b155 2 1b156 1 1b164 2 1b168 1 1b170 2 1b2fc 1 1bc9d 0 ",
    "1bc9f 1 1bca0 0 1bca4 1 1cf00 0 1cf2e 1 1cf30 0 1cf47 1 1d165 0 1d166 1 1d167 0 1d16a 1 ",
    "1d16e 0 1d183 1 1d185 0 1d18c 1 1d1aa 0 1d1ae 1 1d242 0 1d245 1 1da00 0 1da37 1 1da3b 0 ",
    "1da6d 1 1da75 0 1da76 1 1da84 0 1da85 1 1da9b 0 1daa0 1 1daa1 0 1dab0 1 1e000 0 1e007 1 ",
    "1e008 0 1e019 1 1e01b 0 1e022 1 1e023 0 1e025 1 1e026 0 1e02b 1 1e08f 0 1e090 1 1e130 0 ",
    "1e137 1 1e2ae 0 1e2af 1 1e2ec 0 1e2f0 1 1e4ec 0 1e4f0 1 1e8d0 0 1e8d7 1 1e944 0 1e94b 1 ",
    "1f004 2 1f005 1 1f0cf 2 1f0d0 1 1f18e 2 1f18f 1 1f191 2 1f19b 1 1f200 2 1f203 1 1f210 2 ",
    "1f23c 1 1f240 2 1f249 1 1f250 2 1f252 1 1f260 2 1f266 1 1f300 2 1f321 1 1f32d 2 1f336 1 ",
    "1f337 2 1f37d 1 1f37e 2 1f394 1 1f3a0 2 1f3cb 1 1f3cf 2 1f3d4 1 1f3e0 2 1f3f1 1 1f3f4 2 ",
    "1f3f5 1 1f3f8 2 1f43f 1 1f440 2 1f441 1 1f442 2 1f4fd 1 1f4ff 2 1f53e 1 1f54b 2 1f54f 1 ",
    "1f550 2 1f568 1 1f57a 2 1f57b 1 1f595 2 1f597 1 1f5a4 2 1f5a5 1 1f5fb 2 1f650 1 1f680 2 ",
    "1f6c6 1 1f6cc 2 1f6cd 1 1f6d0 2 1f6d3 1 1f6d5 2 1f6d8 1 1f6dc 2 1f6e0 1 1f6eb 2 1f6ed 1 ",
    "1f6f4 2 1f6fd 1 1f7e0 2 1f7ec 1 1f7f0 2 1f7f1 1 1f90c 2 1f93b 1 1f93c 2 1f946 1 1f947 2 ",
    "1fa00 1 1fa70 2 1fa7d 1 1fa80 2 1fa89 1 1fa90 2 1fabe 1 1fabf 2 1fac6 1 1face 2 1fadc 1 ",
    "1fae0 2 1fae9 1 1faf0 2 1faf9 1 20000 2 2fffe 1 30000 2 3fffe 1 e0000 0 e1000 1"]

def widthMap : CodeMap Nat :=
  CodeMap.ofTable (fun w => w.toNat?.getD 1) 1 widthTable

/-- The number of columns of a character, or `none` for a control character. -/
def charWidth? (c : Char) : Option Nat :=
  let n := c.toNat
  if n < 0x20 then none
  else if n < 0x7F then some 1
  else if n < 0xA0 then none
  else some (widthMap.get n)

end Highlight.Unicode
