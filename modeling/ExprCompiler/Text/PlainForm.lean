import ExprCompiler.Text.CodeTable

/-!
# Plain forms

Some characters are variants of a plainer text: ligatures, raised letters, letters in the styles of
mathematics, second code points of one ideograph. This is the mapping to those texts for the
characters that may stand in an identifier. A variant never comes back once it is replaced.
-/

namespace ExprCompiler

/-- Raised and lowered letters, digraphs, and letters that come with a sign of their own. -/
def letterForms : List (Nat × String) :=
  [(0xAA, "61"), (0xB5, "3BC"), (0xBA, "6F"), (0x132, "49.4A 69.6A"), (0x13F, "4C.B7 6C.B7"),
   (0x149, "2BC.6E"), (0x17F, "73"),
   (0x1C4, "44.5A.30C 44.7A.30C 64.7A.30C 4C.4A 4C.6A 6C.6A 4E.4A 4E.6A 6E.6A"),
   (0x1F1, "44.5A 44.7A 64.7A"), (0x2B0, "68 266 6A 72 279 27B 281 77 79"),
   (0x2E0, "263 6C 73 78 295"), (0x340, "300 301 - 313 308.301"), (0x374, "2B9"), (0x387, "B7"),
   (0x3D0, "3B2 3B8 3A5 - - 3C6 3C0"), (0x3F0, "3BA 3C1 3C2 - 398 3B5 - - - 3A3"),
   (0x587, "565.582"), (0x675, "627.674 648.674 6C7.674 64A.674"),
   (0x958, "915.93C 916.93C 917.93C 91C.93C 921.93C 922.93C 92B.93C 92F.93C"),
   (0x9DC, "9A1.9BC 9A2.9BC - 9AF.9BC"), (0xA33, "A32.A3C - - A38.A3C"),
   (0xA59, "A16.A3C A17.A3C A1C.A3C - - A2B.A3C"), (0xB5C, "B21.B3C B22.B3C"), (0xE33, "E4D.E32"),
   (0xEB3, "ECD.EB2"), (0xEDC, "EAB.E99 EAB.EA1"), (0xF43, "F42.FB7"), (0xF4D, "F4C.FB7"),
   (0xF52, "F51.FB7"), (0xF57, "F56.FB7"), (0xF5C, "F5B.FB7"), (0xF69, "F40.FB5"),
   (0xF73, "F71.F72 - F71.F74 FB2.F80 FB2.F71.F80 FB3.F80 FB3.F71.F80"), (0xF81, "F71.F80"),
   (0xF93, "F92.FB7"), (0xF9D, "F9C.FB7"), (0xFA2, "FA1.FB7"), (0xFA7, "FA6.FB7"),
   (0xFAC, "FAB.FB7"), (0xFB9, "F90.FB5"), (0x10FC, "10DC"),
   (0x1D2C, "41 C6 42 - 44 45 18E 47 48 49 4A 4B 4C 4D 4E - 4F 222 50 52 54 55 57 61 250 251 1D02"),
   (0x1D47, "62 64 65 259 25B 25C 67 - 6B 6D 14B 6F 254 1D16 1D17 70 74 75 1D1D 26F 76 1D25 3B2"),
   (0x1D5E, "3B3 3B4 3C6 3C7 69 72 75 76 3B2 3B3 3C1 3C6 3C7"), (0x1D78, "43D"),
   (0x1D9B, "252 63 255 F0 25C 66 25F 261 265 268 269 26A 1D7B 29D 26D 1D85 29F 271 270 272 273"),
   (0x1DB0, "274 275 278 282 283 1AB 289 28A 1D1C 28B 28C 7A 290 291 292 3B8"), (0x1E9A, "61.2BE"),
   (0x1F71, "3B1.301 - 3B5.301 - 3B7.301 - 3B9.301 - 3BF.301 - 3C5.301 - 3C9.301"),
   (0x1FBB, "391.301 - - 3B9"), (0x1FC9, "395.301 - 397.301"), (0x1FD3, "3B9.308.301"),
   (0x1FDB, "399.301"), (0x1FE3, "3C5.308.301"), (0x1FEB, "3A5.301"), (0x1FF9, "39F.301 - 3A9.301")]

/-- Letters used as symbols, numerals made of letters, ligatures, and single parts of Korean
syllables. -/
def symbolForms : List (Nat × String) :=
  [(0x2071, "69"), (0x207F, "6E"), (0x2090, "61 65 6F 78 259 68 6B 6C 6D 6E 70 73 74"),
   (0x2102, "43"), (0x2107, "190 - - 67 48 48 48 68 127 49 49 4C 6C - 4E - - - 50 51 52 52 52"),
   (0x2124, "5A - 3A9 - 5A - 4B 41.30A 42 43 - 65 45 46 - 4D 6F 5D0 5D1 5D2 5D3 69 - - 3C0 3B3"),
   (0x213E, "393 3A0"), (0x2145, "44 64 65 69 6A"),
   (0x2160, "49 49.49 49.49.49 49.56 56 56.49 56.49.49 56.49.49.49 49.58 58 58.49 58.49.49 4C 43"),
   (0x216E, "44 4D 69 69.69 69.69.69 69.76 76 76.69 76.69.69 76.69.69.69 69.78 78 78.69 78.69.69"),
   (0x217C, "6C 63 64 6D"), (0x2C7C, "6A 56"), (0x2D6F, "2D61"), (0x3038, "5341 5344 5345"),
   (0x309F, "3088.308A"), (0x30FF, "30B3.30C8"),
   (0x3131, "1100 1101 11AA 1102 11AC 11AD 1103 1104 1105 11B0 11B1 11B2 11B3 11B4 11B5 111A 1106"),
   (0x3142, "1107 1108 1121 1109 110A 110B 110C 110D 110E 110F 1110 1111 1112 1161 1162 1163 1164"),
   (0x3153, "1165 1166 1167 1168 1169 116A 116B 116C 116D 116E 116F 1170 1171 1172 1173 1174 1175"),
   (0x3164, "1160 1114 1115 11C7 11C8 11CC 11CE 11D3 11D7 11D9 111C 11DD 11DF 111D 111E 1120 1122"),
   (0x3175, "1123 1127 1129 112B 112C 112D 112E 112F 1132 1136 1140 1147 114C 11F1 11F2 1157 1158"),
   (0x3186, "1159 1184 1185 1188 1191 1192 1194 119E 11A1"), (0xA69C, "44A 44C"), (0xA770, "A76F"),
   (0xA7F2, "43 46 51 - - - 126 153"), (0xAB5C, "A727 AB37 26B AB52"), (0xAB69, "28D"),
   (0xFB00, "66.66 66.69 66.6C 66.66.69 66.66.6C 73.74 73.74"),
   (0xFB13, "574.576 574.565 574.56B 57E.576 574.56D"),
   (0xFB1D, "5D9.5B4 - 5F2.5B7 5E2 5D0 5D3 5D4 5DB 5DC 5DD 5E8 5EA - 5E9.5C1 5E9.5C2 5E9.5BC.5C1"),
   (0xFB2D, "5E9.5BC.5C2 5D0.5B7 5D0.5B8 5D0.5BC 5D1.5BC 5D2.5BC 5D3.5BC 5D4.5BC 5D5.5BC 5D6.5BC"),
   (0xFB38, "5D8.5BC 5D9.5BC 5DA.5BC 5DB.5BC 5DC.5BC - 5DE.5BC - 5E0.5BC 5E1.5BC - 5E3.5BC"),
   (0xFB44, "5E4.5BC - 5E6.5BC 5E7.5BC 5E8.5BC 5E9.5BC 5EA.5BC 5D5.5B9 5D1.5BF 5DB.5BF 5E4.5BF"),
   (0xFB4F, "5D0.5DC"),
   (0x10781, "2D0 2D1 E6 299 253 - 2A3 AB66 2A5 2A4 256 257 1D91 258 25E 2A9 264 262 260 29B 127"),
   (0x10796, "29C 267 284 2AA 2AB 26C 1DF04 A78E 26E 1DF05 28E 1DF06 F8 276 277 71 27A 1DF08 27D"),
   (0x107A9, "27E 280 2A8 2A6 AB67 2A7 288 2C71 - 28F 2A1 2A2 298 1C0 1C1 1C2 1DF0A 1DF1E"),
   (0x1FBF0, "30 31 32 33 34 35 36 37 38 39")]

/-- Ideographs that have a second code point. -/
def ideographForms : List (Nat × String) :=
  [(0xF900, "8C48 66F4 8ECA 8CC8 6ED1 4E32 53E5 9F9C 9F9C 5951 91D1 5587 5948 61F6 7669 7F85 863F"),
   (0xF911, "87BA 88F8 908F 6A02 6D1B 70D9 73DE 843D 916A 99F1 4E82 5375 6B04 721B 862D 9E1E 5D50"),
   (0xF922, "6FEB 85CD 8964 62C9 81D8 881F 5ECA 6717 6D6A 72FC 90CE 4F86 51B7 52DE 64C4 6AD3 7210"),
   (0xF933, "76E7 8001 8606 865C 8DEF 9732 9B6F 9DFA 788C 797F 7DA0 83C9 9304 9E7F 8AD6 58DF 5F04"),
   (0xF944, "7C60 807E 7262 78CA 8CC2 96F7 58D8 5C62 6A13 6DDA 6F0F 7D2F 7E37 964B 52D2 808B 51DC"),
   (0xF955, "51CC 7A1C 7DBE 83F1 9675 8B80 62CF 6A02 8AFE 4E39 5BE7 6012 7387 7570 5317 78FB 4FBF"),
   (0xF966, "5FA9 4E0D 6CCC 6578 7D22 53C3 585E 7701 8449 8AAA 6BBA 8FB0 6C88 62FE 82E5 63A0 7565"),
   (0xF977, "4EAE 5169 51C9 6881 7CE7 826F 8AD2 91CF 52F5 5442 5973 5EEC 65C5 6FFE 792A 95AD 9A6A"),
   (0xF988, "9E97 9ECE 529B 66C6 6B77 8F62 5E74 6190 6200 649A 6F23 7149 7489 79CA 7DF4 806F 8F26"),
   (0xF999, "84EE 9023 934A 5217 52A3 54BD 70C8 88C2 8AAA 5EC9 5FF5 637B 6BAE 7C3E 7375 4EE4 56F9"),
   (0xF9AA, "5BE7 5DBA 601C 73B2 7469 7F9A 8046 9234 96F6 9748 9818 4F8B 79AE 91B4 96B8 60E1 4E86"),
   (0xF9BB, "50DA 5BEE 5C3F 6599 6A02 71CE 7642 84FC 907C 9F8D 6688 962E 5289 677B 67F3 6D41 6E9C"),
   (0xF9CC, "7409 7559 786B 7D10 985E 516D 622E 9678 502B 5D19 6DEA 8F2A 5F8B 6144 6817 7387 9686"),
   (0xF9DD, "5229 540F 5C65 6613 674E 68A8 6CE5 7406 75E2 7F79 88CF 88E1 91CC 96E2 533F 6EBA 541D"),
   (0xF9EE, "71D0 7498 85FA 96A3 9C57 9E9F 6797 6DCB 81E8 7ACB 7B20 7C92 72C0 7099 8B58 4EC0 8336"),
   (0xF9FF, "523A 5207 5EA6 62D3 7CD6 5B85 6D1E 66B4 8F3B 884C 964D 898B 5ED3 5140 55C0 - - 585A"),
   (0xFA12, "6674 - - 51DE 732A 76CA 793C 795E 7965 798F 9756 7CBE 7FBD - 8612 - 8AF8 - - 9038"),
   (0xFA26, "90FD - - - 98EF 98FC 9928 9DB4 90DE 96B7 4FAE 50E7 514D 52C9 52E4 5351 559D 5606"),
   (0xFA38, "5668 5840 58A8 5C64 5C6E 6094 6168 618E 61F2 654F 65E2 6691 6885 6D77 6E1A 6F22 716E"),
   (0xFA49, "722B 7422 7891 793E 7949 7948 7950 7956 795D 798D 798E 7A40 7A81 7BC0 7DF4 7E09 7E41"),
   (0xFA5A, "7F72 8005 81ED 8279 8279 8457 8910 8996 8B01 8B39 8CD3 8D08 8FB6 9038 96E3 97FF 983B"),
   (0xFA6B, "6075 242EE 8218 - - 4E26 51B5 5168 4F80 5145 5180 52C7 52FA 559D 5555 5599 55E2 585A"),
   (0xFA7D, "58B3 5944 5954 5A62 5B28 5ED2 5ED9 5F69 5FAD 60D8 614E 6108 618E 6160 61F2 6234 63C4"),
   (0xFA8E, "641C 6452 6556 6674 6717 671B 6756 6B79 6BBA 6D41 6EDB 6ECB 6F22 701E 716E 77A7 7235"),
   (0xFA9F, "72AF 732A 7471 7506 753B 761D 761F 76CA 76DB 76F4 774A 7740 78CC 7AB1 7BC0 7C7B 7D5B"),
   (0xFAB0, "7DF4 7F3E 8005 8352 83EF 8779 8941 8986 8996 8ABF 8AF8 8ACB 8B01 8AFE 8AED 8B39 8B8A"),
   (0xFAC1, "8D08 8F38 9072 9199 9276 967C 96E3 9756 97DB 97FF 980B 983B 9B12 9F9C 2284A 22844"),
   (0xFAD1, "233D5 3B9D 4018 4039 25249 25CD0 27ED3 9F43 9F8E"),
   (0x2F800, "4E3D 4E38 4E41 20122 4F60 4FAE 4FBB 5002 507A 5099 50E7 50CF 349E 2063A 514D 5154"),
   (0x2F810, "5164 5177 2051C 34B9 5167 518D 2054B 5197 51A4 4ECC 51AC 51B5 291DF 51F5 5203 34DF"),
   (0x2F820, "523B 5246 5272 5277 3515 52C7 52C9 52E4 52FA 5305 5306 5317 5349 5351 535A 5373"),
   (0x2F830, "537D 537F 537F 537F 20A2C 7070 53CA 53DF 20B63 53EB 53F1 5406 549E 5438 5448 5468"),
   (0x2F840, "54A2 54F6 5510 5553 5563 5584 5584 5599 55AB 55B3 55C2 5716 5606 5717 5651 5674"),
   (0x2F850, "5207 58EE 57CE 57F4 580D 578B 5832 5831 58AC 214E4 58F2 58F7 5906 591A 5922 5962"),
   (0x2F860, "216A8 216EA 59EC 5A1B 5A27 59D8 5A66 36EE 36FC 5B08 5B3E 5B3E 219C8 5BC3 5BD8 5BE7"),
   (0x2F870, "5BF3 21B18 5BFF 5C06 5F53 5C22 3781 5C60 5C6E 5CC0 5C8D 21DE4 5D43 21DE6 5D6E 5D6B"),
   (0x2F880, "5D7C 5DE1 5DE2 382F 5DFD 5E28 5E3D 5E69 3862 22183 387C 5EB0 5EB3 5EB6 5ECA 2A392"),
   (0x2F890, "5EFE 22331 22331 8201 5F22 5F22 38C7 232B8 261DA 5F62 5F6B 38E3 5F9A 5FCD 5FD7 5FF9"),
   (0x2F8A0, "6081 393A 391C 6094 226D4 60C7 6148 614C 614E 614C 617A 618E 61B2 61A4 61AF 61DE"),
   (0x2F8B0, "61F2 61F6 6210 621B 625D 62B1 62D4 6350 22B0C 633D 62FC 6368 6383 63E4 22BF1 6422"),
   (0x2F8C0, "63C5 63A9 3A2E 6469 647E 649D 6477 3A6C 654F 656C 2300A 65E3 66F8 6649 3B19 6691"),
   (0x2F8D0, "3B08 3AE4 5192 5195 6700 669C 80AD 43D9 6717 671B 6721 675E 6753 233C3 3B49 67FA"),
   (0x2F8E0, "6785 6852 6885 2346D 688E 681F 6914 3B9D 6942 69A3 69EA 6AA8 236A3 6ADB 3C18 6B21"),
   (0x2F8F0, "238A7 6B54 3C4E 6B72 6B9F 6BBA 6BBB 23A8D 21D0B 23AFA 6C4E 23CBC 6CBF 6CCD 6C67"),
   (0x2F8FF, "6D16 6D3E 6D77 6D41 6D69 6D78 6D85 23D1E 6D34 6E2F 6E6E 3D33 6ECB 6EC7 23ED1 6DF9"),
   (0x2F90F, "6F6E 23F5E 23F8E 6FC6 7039 701E 701B 3D96 704A 707D 7077 70AD 20525 7145 24263 719C"),
   (0x2F91F, "243AB 7228 7235 7250 24608 7280 7295 24735 24814 737A 738B 3EAC 73A5 3EB8 3EB8 7447"),
   (0x2F92F, "745C 7471 7485 74CA 3F1B 7524 24C36 753E 24C92 7570 2219F 7610 24FA1 24FB8 25044"),
   (0x2F93E, "3FFC 4008 76F4 250F3 250F2 25119 25133 771E 771F 771F 774A 4039 778B 4046 4096"),
   (0x2F94D, "2541D 784E 788C 78CC 40E3 25626 7956 2569A 256C5 798F 79EB 412F 7A40 7A4A 7A4F"),
   (0x2F95C, "2597C 25AA7 25AA7 7AEE 4202 25BAB 7BC6 7BC9 4227 25C80 7CD2 42A0 7CE8 7CE3 7D00"),
   (0x2F96B, "25F86 7D63 4301 7DC7 7E02 7E45 4334 26228 26247 4359 262D9 7F7A 2633E 7F95 7FFA"),
   (0x2F97A, "8005 264DA 26523 8060 265A8 8070 2335F 43D5 80B2 8103 440B 813E 5AB5 267A7 267B5"),
   (0x2F989, "23393 2339C 8201 8204 8F9E 446B 8291 828B 829D 52B3 82B1 82B3 82BD 82E6 26B3C 82E5"),
   (0x2F999, "831D 8363 83AD 8323 83BD 83E7 8457 8353 83CA 83CC 83DC 26C36 26D6B 26CD5 452B 84F1"),
   (0x2F9A9, "84F3 8516 273CA 8564 26F2C 455D 4561 26FB1 270D2 456B 8650 865C 8667 8669 86A9 8688"),
   (0x2F9B9, "870E 86E2 8779 8728 876B 8786 45D7 87E1 8801 45F9 8860 8863 27667 88D7 88DE 4635"),
   (0x2F9C9, "88FA 34BB 278AE 27966 46BE 46C7 8AA0 8AED 8B8A 8C55 27CA8 8CAB 8CC1 8D1B 8D77 27F2F"),
   (0x2F9D9, "20804 8DCB 8DBC 8DF0 208DE 8ED4 8F38 285D2 285ED 9094 90F1 9111 2872E 911B 9238"),
   (0x2F9E8, "92D7 92D8 927C 93F9 9415 28BFA 958B 4995 95B7 28D77 49E6 96C3 5DB2 9723 29145 2921A"),
   (0x2F9F8, "4A6E 4A76 97E0 2940A 4AB2 29496 980B 980B 9829 295B6 98E2 4B33 9929 99A7 99C2 99FE"),
   (0x2FA08, "4BCE 29B30 9B12 9C40 9CFD 4CCE 4CED 9D67 2A0CE 4CF8 2A105 2A20E 2A291 9EBB 4D56"),
   (0x2FA17, "9EF9 9EFE 9F05 9F0F 9F16 9F3B 2A600")]

/-- Arabic letters and ligatures in the shape that they take at a place in a word. -/
def arabicForms : List (Nat × String) :=
  [(0xFB50, "671 671 67B 67B 67B 67B 67E 67E 67E 67E 680 680 680 680 67A 67A 67A 67A 67F 67F 67F"),
   (0xFB65, "67F 679 679 679 679 6A4 6A4 6A4 6A4 6A6 6A6 6A6 6A6 684 684 684 684 683 683 683 683"),
   (0xFB7A, "686 686 686 686 687 687 687 687 68D 68D 68C 68C 68E 68E 688 688 698 698 691 691 6A9"),
   (0xFB8F, "6A9 6A9 6A9 6AF 6AF 6AF 6AF 6B3 6B3 6B3 6B3 6B1 6B1 6B1 6B1 6BA 6BA 6BB 6BB 6BB 6BB"),
   (0xFBA4, "6D5.654 6D5.654 6C1 6C1 6C1 6C1 6BE 6BE 6BE 6BE 6D2 6D2 6D2.654 6D2.654"),
   (0xFBD3, "6AD 6AD 6AD 6AD 6C7 6C7 6C6 6C6 6C8 6C8 6C7.674 6CB 6CB 6C5 6C5 6C9 6C9 6D0 6D0 6D0"),
   (0xFBE7, "6D0 649 649 64A.654.627 64A.654.627 64A.654.6D5 64A.654.6D5 64A.654.648 64A.654.648"),
   (0xFBF0, "64A.654.6C7 64A.654.6C7 64A.654.6C6 64A.654.6C6 64A.654.6C8 64A.654.6C8 64A.654.6D0"),
   (0xFBF7, "64A.654.6D0 64A.654.6D0 64A.654.649 64A.654.649 64A.654.649 6CC 6CC 6CC 6CC"),
   (0xFC00, "64A.654.62C 64A.654.62D 64A.654.645 64A.654.649 64A.654.64A 628.62C 628.62D 628.62E"),
   (0xFC08, "628.645 628.649 628.64A 62A.62C 62A.62D 62A.62E 62A.645 62A.649 62A.64A 62B.62C"),
   (0xFC12, "62B.645 62B.649 62B.64A 62C.62D 62C.645 62D.62C 62D.645 62E.62C 62E.62D 62E.645"),
   (0xFC1C, "633.62C 633.62D 633.62E 633.645 635.62D 635.645 636.62C 636.62D 636.62E 636.645"),
   (0xFC26, "637.62D 637.645 638.645 639.62C 639.645 63A.62C 63A.645 641.62C 641.62D 641.62E"),
   (0xFC30, "641.645 641.649 641.64A 642.62D 642.645 642.649 642.64A 643.627 643.62C 643.62D"),
   (0xFC3A, "643.62E 643.644 643.645 643.649 643.64A 644.62C 644.62D 644.62E 644.645 644.649"),
   (0xFC44, "644.64A 645.62C 645.62D 645.62E 645.645 645.649 645.64A 646.62C 646.62D 646.62E"),
   (0xFC4E, "646.645 646.649 646.64A 647.62C 647.645 647.649 647.64A 64A.62C 64A.62D 64A.62E"),
   (0xFC58, "64A.645 64A.649 64A.64A 630.670 631.670 649.670"),
   (0xFC64, "64A.654.631 64A.654.632 64A.654.645 64A.654.646 64A.654.649 64A.654.64A 628.631"),
   (0xFC6B, "628.632 628.645 628.646 628.649 628.64A 62A.631 62A.632 62A.645 62A.646 62A.649"),
   (0xFC75, "62A.64A 62B.631 62B.632 62B.645 62B.646 62B.649 62B.64A 641.649 641.64A 642.649"),
   (0xFC7F, "642.64A 643.627 643.644 643.645 643.649 643.64A 644.645 644.649 644.64A 645.627"),
   (0xFC89, "645.645 646.631 646.632 646.645 646.646 646.649 646.64A 649.670 64A.631 64A.632"),
   (0xFC93, "64A.645 64A.646 64A.649 64A.64A 64A.654.62C 64A.654.62D 64A.654.62E 64A.654.645"),
   (0xFC9B, "64A.654.647 628.62C 628.62D 628.62E 628.645 628.647 62A.62C 62A.62D 62A.62E 62A.645"),
   (0xFCA5, "62A.647 62B.645 62C.62D 62C.645 62D.62C 62D.645 62E.62C 62E.645 633.62C 633.62D"),
   (0xFCAF, "633.62E 633.645 635.62D 635.62E 635.645 636.62C 636.62D 636.62E 636.645 637.62D"),
   (0xFCB9, "638.645 639.62C 639.645 63A.62C 63A.645 641.62C 641.62D 641.62E 641.645 642.62D"),
   (0xFCC3, "642.645 643.62C 643.62D 643.62E 643.644 643.645 644.62C 644.62D 644.62E 644.645"),
   (0xFCCD, "644.647 645.62C 645.62D 645.62E 645.645 646.62C 646.62D 646.62E 646.645 646.647"),
   (0xFCD7, "647.62C 647.645 647.670 64A.62C 64A.62D 64A.62E 64A.645 64A.647 64A.654.645"),
   (0xFCE0, "64A.654.647 628.645 628.647 62A.645 62A.647 62B.645 62B.647 633.645 633.647 634.645"),
   (0xFCEA, "634.647 643.644 643.645 644.645 646.645 646.647 64A.645 64A.647 640.64E.651"),
   (0xFCF3, "640.64F.651 640.650.651 637.649 637.64A 639.649 639.64A 63A.649 63A.64A 633.649"),
   (0xFCFC, "633.64A 634.649 634.64A 62D.649 62D.64A 62C.649 62C.64A 62E.649 62E.64A 635.649"),
   (0xFD06, "635.64A 636.649 636.64A 634.62C 634.62D 634.62E 634.645 634.631 633.631 635.631"),
   (0xFD10, "636.631 637.649 637.64A 639.649 639.64A 63A.649 63A.64A 633.649 633.64A 634.649"),
   (0xFD1A, "634.64A 62D.649 62D.64A 62C.649 62C.64A 62E.649 62E.64A 635.649 635.64A 636.649"),
   (0xFD24, "636.64A 634.62C 634.62D 634.62E 634.645 634.631 633.631 635.631 636.631 634.62C"),
   (0xFD2E, "634.62D 634.62E 634.645 633.647 634.647 637.645 633.62C 633.62D 633.62E 634.62C"),
   (0xFD38, "634.62D 634.62E 637.645 638.645 627.64B 627.64B"),
   (0xFD50, "62A.62C.645 62A.62D.62C 62A.62D.62C 62A.62D.645 62A.62E.645 62A.645.62C 62A.645.62D"),
   (0xFD57, "62A.645.62E 62C.645.62D 62C.645.62D 62D.645.64A 62D.645.649 633.62D.62C 633.62C.62D"),
   (0xFD5E, "633.62C.649 633.645.62D 633.645.62D 633.645.62C 633.645.645 633.645.645 635.62D.62D"),
   (0xFD65, "635.62D.62D 635.645.645 634.62D.645 634.62D.645 634.62C.64A 634.645.62E 634.645.62E"),
   (0xFD6C, "634.645.645 634.645.645 636.62D.649 636.62E.645 636.62E.645 637.645.62D 637.645.62D"),
   (0xFD73, "637.645.645 637.645.64A 639.62C.645 639.645.645 639.645.645 639.645.649 63A.645.645"),
   (0xFD7A, "63A.645.64A 63A.645.649 641.62E.645 641.62E.645 642.645.62D 642.645.645 644.62D.645"),
   (0xFD81, "644.62D.64A 644.62D.649 644.62C.62C 644.62C.62C 644.62E.645 644.62E.645 644.645.62D"),
   (0xFD88, "644.645.62D 645.62D.62C 645.62D.645 645.62D.64A 645.62C.62D 645.62C.645 645.62E.62C"),
   (0xFD8F, "645.62E.645 - - 645.62C.62E 647.645.62C 647.645.645 646.62D.645 646.62D.649"),
   (0xFD97, "646.62C.645 646.62C.645 646.62C.649 646.645.64A 646.645.649 64A.645.645 64A.645.645"),
   (0xFD9E, "628.62E.64A 62A.62C.64A 62A.62C.649 62A.62E.64A 62A.62E.649 62A.645.64A 62A.645.649"),
   (0xFDA5, "62C.645.64A 62C.62D.649 62C.645.649 633.62E.649 635.62D.64A 634.62D.64A 636.62D.64A"),
   (0xFDAC, "644.62C.64A 644.645.64A 64A.62D.64A 64A.62C.64A 64A.645.64A 645.645.64A 642.645.64A"),
   (0xFDB3, "646.62D.64A 642.645.62D 644.62D.645 639.645.64A 643.645.64A 646.62C.62D 645.62E.64A"),
   (0xFDBA, "644.62C.645 643.645.645 644.62C.645 646.62C.62D 62C.62D.64A 62D.62C.64A 645.62C.64A"),
   (0xFDC1, "641.645.64A 628.62D.64A 643.645.645 639.62C.645 635.645.645 633.62E.64A 646.62C.64A"),
   (0xFDF0, "635.644.6D2 642.644.6D2 627.644.644.647 627.643.628.631 645.62D.645.62F"),
   (0xFDF5, "635.644.639.645 631.633.648.644 639.644.64A.647 648.633.644.645 635.644.649"),
   (0xFE33, "5F 5F"), (0xFE4D, "5F 5F 5F"), (0xFE71, "640.64B"),
   (0xFE77, "640.64E - 640.64F - 640.650 - 640.651 - 640.652 621 627.653 627.653 627.654 627.654"),
   (0xFE85, "648.654 648.654 627.655 627.655 64A.654 64A.654 64A.654 64A.654 627 627 628 628 628"),
   (0xFE92, "628 629 629 62A 62A 62A 62A 62B 62B 62B 62B 62C 62C 62C 62C 62D 62D 62D 62D 62E 62E"),
   (0xFEA7, "62E 62E 62F 62F 630 630 631 631 632 632 633 633 633 633 634 634 634 634 635 635 635"),
   (0xFEBC, "635 636 636 636 636 637 637 637 637 638 638 638 638 639 639 639 639 63A 63A 63A 63A"),
   (0xFED1, "641 641 641 641 642 642 642 642 643 643 643 643 644 644 644 644 645 645 645 645 646"),
   (0xFEE6, "646 646 646 647 647 647 647 648 648 649 649 64A 64A 64A 64A 644.627.653 644.627.653"),
   (0xFEF7, "644.627.654 644.627.654 644.627.655 644.627.655 644.627 644.627")]

/-- Letters and digits in the styles of mathematics. -/
def mathematicalForms : List (Nat × String) :=
  [(0x1D400, "41 42 43 44 45 46 47 48 49 4A 4B 4C 4D 4E 4F 50 51 52 53 54 55 56 57 58 59 5A 61 62"),
   (0x1D41C, "63 64 65 66 67 68 69 6A 6B 6C 6D 6E 6F 70 71 72 73 74 75 76 77 78 79 7A 41 42 43 44"),
   (0x1D438, "45 46 47 48 49 4A 4B 4C 4D 4E 4F 50 51 52 53 54 55 56 57 58 59 5A 61 62 63 64 65 66"),
   (0x1D454, "67 - 69 6A 6B 6C 6D 6E 6F 70 71 72 73 74 75 76 77 78 79 7A 41 42 43 44 45 46 47 48"),
   (0x1D470, "49 4A 4B 4C 4D 4E 4F 50 51 52 53 54 55 56 57 58 59 5A 61 62 63 64 65 66 67 68 69 6A"),
   (0x1D48C, "6B 6C 6D 6E 6F 70 71 72 73 74 75 76 77 78 79 7A 41 - 43 44 - - 47 - - 4A 4B - - 4E"),
   (0x1D4AA, "4F 50 51 - 53 54 55 56 57 58 59 5A 61 62 63 64 - 66 - 68 69 6A 6B 6C 6D 6E - 70 71"),
   (0x1D4C7, "72 73 74 75 76 77 78 79 7A 41 42 43 44 45 46 47 48 49 4A 4B 4C 4D 4E 4F 50 51 52 53"),
   (0x1D4E3, "54 55 56 57 58 59 5A 61 62 63 64 65 66 67 68 69 6A 6B 6C 6D 6E 6F 70 71 72 73 74 75"),
   (0x1D4FF, "76 77 78 79 7A 41 42 - 44 45 46 47 - - 4A 4B 4C 4D 4E 4F 50 51 - 53 54 55 56 57 58"),
   (0x1D51C, "59 - 61 62 63 64 65 66 67 68 69 6A 6B 6C 6D 6E 6F 70 71 72 73 74 75 76 77 78 79 7A"),
   (0x1D538, "41 42 - 44 45 46 47 - 49 4A 4B 4C 4D - 4F - - - 53 54 55 56 57 58 59 - 61 62 63 64"),
   (0x1D556, "65 66 67 68 69 6A 6B 6C 6D 6E 6F 70 71 72 73 74 75 76 77 78 79 7A 41 42 43 44 45 46"),
   (0x1D572, "47 48 49 4A 4B 4C 4D 4E 4F 50 51 52 53 54 55 56 57 58 59 5A 61 62 63 64 65 66 67 68"),
   (0x1D58E, "69 6A 6B 6C 6D 6E 6F 70 71 72 73 74 75 76 77 78 79 7A 41 42 43 44 45 46 47 48 49 4A"),
   (0x1D5AA, "4B 4C 4D 4E 4F 50 51 52 53 54 55 56 57 58 59 5A 61 62 63 64 65 66 67 68 69 6A 6B 6C"),
   (0x1D5C6, "6D 6E 6F 70 71 72 73 74 75 76 77 78 79 7A 41 42 43 44 45 46 47 48 49 4A 4B 4C 4D 4E"),
   (0x1D5E2, "4F 50 51 52 53 54 55 56 57 58 59 5A 61 62 63 64 65 66 67 68 69 6A 6B 6C 6D 6E 6F 70"),
   (0x1D5FE, "71 72 73 74 75 76 77 78 79 7A 41 42 43 44 45 46 47 48 49 4A 4B 4C 4D 4E 4F 50 51 52"),
   (0x1D61A, "53 54 55 56 57 58 59 5A 61 62 63 64 65 66 67 68 69 6A 6B 6C 6D 6E 6F 70 71 72 73 74"),
   (0x1D636, "75 76 77 78 79 7A 41 42 43 44 45 46 47 48 49 4A 4B 4C 4D 4E 4F 50 51 52 53 54 55 56"),
   (0x1D652, "57 58 59 5A 61 62 63 64 65 66 67 68 69 6A 6B 6C 6D 6E 6F 70 71 72 73 74 75 76 77 78"),
   (0x1D66E, "79 7A 41 42 43 44 45 46 47 48 49 4A 4B 4C 4D 4E 4F 50 51 52 53 54 55 56 57 58 59 5A"),
   (0x1D68A, "61 62 63 64 65 66 67 68 69 6A 6B 6C 6D 6E 6F 70 71 72 73 74 75 76 77 78 79 7A 131"),
   (0x1D6A5, "237 - - 391 392 393 394 395 396 397 398 399 39A 39B 39C 39D 39E 39F 3A0 3A1 398 3A3"),
   (0x1D6BB, "3A4 3A5 3A6 3A7 3A8 3A9 - 3B1 3B2 3B3 3B4 3B5 3B6 3B7 3B8 3B9 3BA 3BB 3BC 3BD 3BE"),
   (0x1D6D0, "3BF 3C0 3C1 3C2 3C3 3C4 3C5 3C6 3C7 3C8 3C9 - 3B5 3B8 3BA 3C6 3C1 3C0 391 392 393"),
   (0x1D6E5, "394 395 396 397 398 399 39A 39B 39C 39D 39E 39F 3A0 3A1 398 3A3 3A4 3A5 3A6 3A7 3A8"),
   (0x1D6FA, "3A9 - 3B1 3B2 3B3 3B4 3B5 3B6 3B7 3B8 3B9 3BA 3BB 3BC 3BD 3BE 3BF 3C0 3C1 3C2 3C3"),
   (0x1D70F, "3C4 3C5 3C6 3C7 3C8 3C9 - 3B5 3B8 3BA 3C6 3C1 3C0 391 392 393 394 395 396 397 398"),
   (0x1D724, "399 39A 39B 39C 39D 39E 39F 3A0 3A1 398 3A3 3A4 3A5 3A6 3A7 3A8 3A9 - 3B1 3B2 3B3"),
   (0x1D739, "3B4 3B5 3B6 3B7 3B8 3B9 3BA 3BB 3BC 3BD 3BE 3BF 3C0 3C1 3C2 3C3 3C4 3C5 3C6 3C7 3C8"),
   (0x1D74E, "3C9 - 3B5 3B8 3BA 3C6 3C1 3C0 391 392 393 394 395 396 397 398 399 39A 39B 39C 39D"),
   (0x1D763, "39E 39F 3A0 3A1 398 3A3 3A4 3A5 3A6 3A7 3A8 3A9 - 3B1 3B2 3B3 3B4 3B5 3B6 3B7 3B8"),
   (0x1D778, "3B9 3BA 3BB 3BC 3BD 3BE 3BF 3C0 3C1 3C2 3C3 3C4 3C5 3C6 3C7 3C8 3C9 - 3B5 3B8 3BA"),
   (0x1D78D, "3C6 3C1 3C0 391 392 393 394 395 396 397 398 399 39A 39B 39C 39D 39E 39F 3A0 3A1 398"),
   (0x1D7A2, "3A3 3A4 3A5 3A6 3A7 3A8 3A9 - 3B1 3B2 3B3 3B4 3B5 3B6 3B7 3B8 3B9 3BA 3BB 3BC 3BD"),
   (0x1D7B7, "3BE 3BF 3C0 3C1 3C2 3C3 3C4 3C5 3C6 3C7 3C8 3C9 - 3B5 3B8 3BA 3C6 3C1 3C0 3DC 3DD"),
   (0x1D7CE, "30 31 32 33 34 35 36 37 38 39 30 31 32 33 34 35 36 37 38 39 30 31 32 33 34 35 36 37"),
   (0x1D7EA, "38 39 30 31 32 33 34 35 36 37 38 39 30 31 32 33 34 35 36 37 38 39"),
   (0x1EE00, "627 628 62C 62F - 648 632 62D 637 64A 643 644 645 646 633 639 641 635 642 631 634"),
   (0x1EE15, "62A 62B 62E 630 636 638 63A 66E 6BA 6A1 66F - 628 62C - 647 - - 62D - 64A 643 644"),
   (0x1EE2C, "645 646 633 639 641 635 642 - 634 62A 62B 62E - 636 - 63A"), (0x1EE42, "62C"),
   (0x1EE47, "62D - 64A - 644 - 646 633 639 - 635 642 - 634 - - 62E - 636 - 63A - 6BA - 66F - 628"),
   (0x1EE62, "62C - 647 - - 62D 637 64A 643 - 645 646 633 639 641 635 642 - 634 62A 62B 62E - 636"),
   (0x1EE7A, "638 63A 66E - 6A1 - 627 628 62C 62F 647 648 632 62D 637 64A - 644 645 646 633 639"),
   (0x1EE90, "641 635 642 631 634 62A 62B 62E 630 636 638 63A"),
   (0x1EEA1, "628 62C 62F - 648 632 62D 637 64A - 644 645 646 633 639 641 635 642 631 634 62A 62B"),
   (0x1EEB7, "62E 630 636 638 63A")]

/-- Characters of another width. -/
def widthForms : List (Nat × String) :=
  [(0xFF10, "30 31 32 33 34 35 36 37 38 39"),
   (0xFF21, "41 42 43 44 45 46 47 48 49 4A 4B 4C 4D 4E 4F 50 51 52 53 54 55 56 57 58 59 5A"),
   (0xFF3F, "5F - 61 62 63 64 65 66 67 68 69 6A 6B 6C 6D 6E 6F 70 71 72 73 74 75 76 77 78 79 7A"),
   (0xFF66, "30F2 30A1 30A3 30A5 30A7 30A9 30E3 30E5 30E7 30C3 30FC 30A2 30A4 30A6 30A8 30AA 30AB"),
   (0xFF77, "30AD 30AF 30B1 30B3 30B5 30B7 30B9 30BB 30BD 30BF 30C1 30C4 30C6 30C8 30CA 30CB 30CC"),
   (0xFF88, "30CD 30CE 30CF 30D2 30D5 30D8 30DB 30DE 30DF 30E0 30E1 30E2 30E4 30E6 30E8 30E9 30EA"),
   (0xFF99, "30EB 30EC 30ED 30EF 30F3 3099 309A 1160 1100 1101 11AA 1102 11AC 11AD 1103 1104 1105"),
   (0xFFAA, "11B0 11B1 11B2 11B3 11B4 11B5 111A 1106 1107 1108 1121 1109 110A 110B 110C 110D 110E"),
   (0xFFBB, "110F 1110 1111 1112 - - - 1161 1162 1163 1164 1165 1166 - - 1167 1168 1169 116A 116B"),
   (0xFFCF, "116C - - 116D 116E 116F 1170 1171 1172 - - 1173 1174 1175")]

/-- The characters that are variants, with their plain forms, which hold no variants and no
composites. -/
def plainForms : CodeTable :=
  .ofBlocks (letterForms ++ symbolForms ++ ideographForms ++ arabicForms ++ mathematicalForms ++
    widthForms)

end ExprCompiler
