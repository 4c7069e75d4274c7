import Supervisor.Text.Table

/-!
# Composed characters

A letter with marks can be written in several ways: as one character, or as a letter and the marks
behind it, these in any order if they go to different places. The composed form is the same for all
of them. To find it, every character is taken apart, the marks are put in order, and what can be put
together is put together again.

The place of a mark is its combining class; characters that are no marks have class zero. The tables
hold what can occur once a domain name has been mapped to common characters.

## Main definitions

* `Domain.combiningClass` - the place of a mark
* `Domain.parts`, `Domain.join?` - taking apart one character, putting together two
* `Domain.composed` - the composed form of a text
-/

namespace Supervisor.Uri.Domain

/-- Marks and their combining classes. -/
def combiningClasses : List (List Nat) := Text.rows
  "300-314:E6 315:E8 316-319:DC 31A:E8 31B:D8 31C-320:DC 321-322:CA 323-326:DC 327-328:CA 329-333:DC
  334-338:1 339-33C:DC 33D-33F:E6 342:E6 346:E6 347-349:DC 34A-34C:E6 34D-34E:DC 350-352:E6
  353-356:DC 357:E6 358:E8 359-35A:DC 35B:E6 35C:E9 35D-35E:EA 35F:E9 360-361:EA 362:E9 363-36F:E6
  483-487:E6 591:DC 592-595:E6 596:DC 597-599:E6 59A:DE 59B:DC 59C-5A1:E6 5A2-5A7:DC 5A8-5A9:E6
  5AA:DC 5AB-5AC:E6 5AD:DE 5AE:E4 5AF:E6 5B0:A 5B1:B 5B2:C 5B3:D 5B4:E 5B5:F 5B6:10 5B7:11 5B8:12
  5B9-5BA:13 5BB:14 5BC:15 5BD:16 5BF:17 5C1:18 5C2:19 5C4:E6 5C5:DC 5C7:12 610-617:E6 618:1E 619:1F
  61A:20 64B:1B 64C:1C 64D:1D 64E:1E 64F:1F 650:20 651:21 652:22 653-654:E6 655-656:DC 657-65B:E6
  65C:DC 65D-65E:E6 65F:DC 670:23 6D6-6DC:E6 6DF-6E2:E6 6E3:DC 6E4:E6 6E7-6E8:E6 6EA:DC 6EB-6EC:E6
  6ED:DC 711:24 730:E6 731:DC 732-733:E6 734:DC 735-736:E6 737-739:DC 73A:E6 73B-73C:DC 73D:E6
  73E:DC 73F-741:E6 742:DC 743:E6 744:DC 745:E6 746:DC 747:E6 748:DC 749-74A:E6 7EB-7F1:E6 7F2:DC
  7F3:E6 7FD:DC 816-819:E6 81B-823:E6 825-827:E6 829-82D:E6 859-85B:DC 897-898:E6 899-89B:DC
  89C-89F:E6 8CA-8CE:E6 8CF-8D3:DC 8D4-8E1:E6 8E3:DC 8E4-8E5:E6 8E6:DC 8E7-8E8:E6 8E9:DC 8EA-8EC:E6
  8ED-8EF:DC 8F0:1B 8F1:1C 8F2:1D 8F3-8F5:E6 8F6:DC 8F7-8F8:E6 8F9-8FA:DC 8FB-8FF:E6 93C:7 94D:9
  951:E6 952:DC 953-954:E6 9BC:7 9CD:9 9FE:E6 A3C:7 A4D:9 ABC:7 ACD:9 B3C:7 B4D:9 BCD:9 C3C:7 C4D:9
  C55:54 C56:5B CBC:7 CCD:9 D3B-D3C:9 D4D:9 DCA:9 E38-E39:67 E3A:9 E48-E4B:6B EB8-EB9:76 EBA:9
  EC8-ECB:7A F18-F19:DC F35:DC F37:DC F39:D8 F71:81 F72:82 F74:84 F7A-F7D:82 F80:82 F82-F83:E6 F84:9
  F86-F87:E6 FC6:DC 1037:7 1039-103A:9 108D:DC 135D-135F:E6 1714-1715:9 1734:9 17D2:9 17DD:E6
  18A9:E4 1939:DE 193A:E6 193B:DC 1A17:E6 1A18:DC 1A60:9 1A75-1A7C:E6 1A7F:DC 1AB0-1AB4:E6
  1AB5-1ABA:DC 1ABB-1ABC:E6 1ABD:DC 1ABF-1AC0:DC 1AC1-1AC2:E6 1AC3-1AC4:DC 1AC5-1AC9:E6 1ACA:DC
  1ACB-1ADC:E6 1ADD:DC 1AE0-1AE5:E6 1AE6:DC 1AE7-1AEA:E6 1AEB:EA 1B34:7 1B44:9 1B6B:E6 1B6C:DC
  1B6D-1B73:E6 1BAA-1BAB:9 1BE6:7 1BF2-1BF3:9 1C37:7 1CD0-1CD2:E6 1CD4:1 1CD5-1CD9:DC 1CDA-1CDB:E6
  1CDC-1CDF:DC 1CE0:E6 1CE2-1CE8:1 1CED:DC 1CF4:E6 1CF8-1CF9:E6 1DC0-1DC1:E6 1DC2:DC 1DC3-1DC9:E6
  1DCA:DC 1DCB-1DCC:E6 1DCD:EA 1DCE:D6 1DCF:DC 1DD0:CA 1DD1-1DF5:E6 1DF6:E8 1DF7-1DF8:E4 1DF9:DC
  1DFA:DA 1DFB:E6 1DFC:E9 1DFD:DC 1DFE:E6 1DFF:DC 20D0-20D1:E6 20D2-20D3:1 20D4-20D7:E6 20D8-20DA:1
  20DB-20DC:E6 20E1:E6 20E5-20E6:1 20E7:E6 20E8:DC 20E9:E6 20EA-20EB:1 20EC-20EF:DC 20F0:E6
  2CEF-2CF1:E6 2D7F:9 2DE0-2DFF:E6 302A:DA 302B:E4 302C:E8 302D:DE 302E-302F:E0 3099-309A:8 A66F:E6
  A674-A67D:E6 A69E-A69F:E6 A6F0-A6F1:E6 A806:9 A82C:9 A8C4:9 A8E0-A8F1:E6 A92B-A92D:DC A953:9
  A9B3:7 A9C0:9 AAB0:E6 AAB2-AAB3:E6 AAB4:DC AAB7-AAB8:E6 AABE-AABF:E6 AAC1:E6 AAF6:9 ABED:9 FB1E:1A
  FE20-FE26:E6 FE27-FE2D:DC FE2E-FE2F:E6 101FD:DC 102E0:DC 10376-1037A:E6 10A0D:DC 10A0F:E6 10A38:E6
  10A39:1 10A3A:DC 10A3F:9 10AE5:E6 10AE6:DC 10D24-10D27:E6 10D69-10D6D:E6 10EAB-10EAC:E6
  10EFA-10EFB:DC 10EFD-10EFF:DC 10F46-10F47:DC 10F48-10F4A:E6 10F4B:DC 10F4C:E6 10F4D-10F50:DC
  10F82:E6 10F83:DC 10F84:E6 10F85:DC 11046:9 11070:9 1107F:9 110B9:9 110BA:7 11100-11102:E6
  11133-11134:9 11173:7 111C0:9 111CA:7 11235:9 11236:7 112E9:7 112EA:9 1133B-1133C:7 1134D:9
  11366-1136C:E6 11370-11374:E6 113CE-113D0:9 11442:9 11446:7 1145E:E6 114C2:9 114C3:7 115BF:9
  115C0:7 1163F:9 116B6:9 116B7:7 1172B:9 11839:9 1183A:7 1193D-1193E:9 11943:7 119E0:9 11A34:9
  11A47:9 11A99:9 11C3F:9 11D42:7 11D44-11D45:9 11D97:9 11F41-11F42:9 1612F:9 16AF0-16AF4:1
  16B30-16B36:E6 16FF0-16FF1:6 1BC9E:1 1D165-1D166:D8 1D167-1D169:1 1D16D:E2 1D16E-1D172:D8
  1D17B-1D182:DC 1D185-1D189:E6 1D18A-1D18B:DC 1D1AA-1D1AD:E6 1D242-1D244:E6 1E000-1E006:E6
  1E008-1E018:E6 1E01B-1E021:E6 1E023-1E024:E6 1E026-1E02A:E6 1E08F:E6 1E130-1E136:E6 1E2AE:E6
  1E2EC-1E2EF:E6 1E4EC-1E4ED:E8 1E4EE:DC 1E4EF:E6 1E5EE:E6 1E5EF:DC 1E6E3:E6 1E6E6:E6 1E6EE-1E6EF:E6
  1E6F5:E6 1E8D0-1E8D6:DC 1E944-1E949:E6 1E94A:7"

/-- The class of a code point by a row of `combiningClasses`. -/
def class? (n : Nat) : List Nat → Option Nat
  | [only, k] => if n = only then some k else none
  | [first, last, k] => if first ≤ n ∧ n ≤ last then some k else none
  | _ => none

/-- The first mark, and the first character that is a part of another one but not its base. -/
def firstMark : Nat := 0x300

/-- The combining class of a character. -/
def combiningClass (c : Char) : Nat :=
  if c.toNat < firstMark then 0 else (combiningClasses.findSome? (class? c.toNat)).getD 0

/-- Composed characters and their parts. -/
def composites : List (List Nat) := Text.rows
  "E0:61,300 E1:61,301 E2:61,302 E3:61,303 E4:61,308 E5:61,30A E7:63,327 E8:65,300 E9:65,301
  EA:65,302 EB:65,308 EC:69,300 ED:69,301 EE:69,302 EF:69,308 F1:6E,303 F2:6F,300 F3:6F,301
  F4:6F,302 F5:6F,303 F6:6F,308 F9:75,300 FA:75,301 FB:75,302 FC:75,308 FD:79,301 FF:79,308
  101:61,304 103:61,306 105:61,328 107:63,301 109:63,302 10B:63,307 10D:63,30C 10F:64,30C 113:65,304
  115:65,306 117:65,307 119:65,328 11B:65,30C 11D:67,302 11F:67,306 121:67,307 123:67,327 125:68,302
  129:69,303 12B:69,304 12D:69,306 12F:69,328 135:6A,302 137:6B,327 13A:6C,301 13C:6C,327 13E:6C,30C
  144:6E,301 146:6E,327 148:6E,30C 14D:6F,304 14F:6F,306 151:6F,30B 155:72,301 157:72,327 159:72,30C
  15B:73,301 15D:73,302 15F:73,327 161:73,30C 163:74,327 165:74,30C 169:75,303 16B:75,304 16D:75,306
  16F:75,30A 171:75,30B 173:75,328 175:77,302 177:79,302 17A:7A,301 17C:7A,307 17E:7A,30C 1A1:6F,31B
  1B0:75,31B 1CE:61,30C 1D0:69,30C 1D2:6F,30C 1D4:75,30C 1D6:75,308,304 1D8:75,308,301
  1DA:75,308,30C 1DC:75,308,300 1DF:61,308,304 1E1:61,307,304 1E3:E6,304 1E7:67,30C 1E9:6B,30C
  1EB:6F,328 1ED:6F,328,304 1EF:292,30C 1F0:6A,30C 1F5:67,301 1F9:6E,300 1FB:61,30A,301 1FD:E6,301
  1FF:F8,301 201:61,30F 203:61,311 205:65,30F 207:65,311 209:69,30F 20B:69,311 20D:6F,30F 20F:6F,311
  211:72,30F 213:72,311 215:75,30F 217:75,311 219:73,326 21B:74,326 21F:68,30C 227:61,307 229:65,327
  22B:6F,308,304 22D:6F,303,304 22F:6F,307 231:6F,307,304 233:79,304 390:3B9,308,301 3AC:3B1,301
  3AD:3B5,301 3AE:3B7,301 3AF:3B9,301 3B0:3C5,308,301 3CA:3B9,308 3CB:3C5,308 3CC:3BF,301
  3CD:3C5,301 3CE:3C9,301 439:438,306 450:435,300 451:435,308 453:433,301 457:456,308 45C:43A,301
  45D:438,300 45E:443,306 477:475,30F 4C2:436,306 4D1:430,306 4D3:430,308 4D7:435,306 4DB:4D9,308
  4DD:436,308 4DF:437,308 4E3:438,304 4E5:438,308 4E7:43E,308 4EB:4E9,308 4ED:44D,308 4EF:443,304
  4F1:443,308 4F3:443,30B 4F5:447,308 4F9:44B,308 622:627,653 623:627,654 624:648,654 625:627,655
  626:64A,654 6C0:6D5,654 6C2:6C1,654 6D3:6D2,654 929:928,93C 931:930,93C 934:933,93C 9CB:9C7,9BE
  9CC:9C7,9D7 B48:B47,B56 B4B:B47,B3E B4C:B47,B57 B94:B92,BD7 BCA:BC6,BBE BCB:BC7,BBE BCC:BC6,BD7
  C48:C46,C56 CC0:CBF,CD5 CC7:CC6,CD5 CC8:CC6,CD6 CCA:CC6,CC2 CCB:CC6,CC2,CD5 D4A:D46,D3E
  D4B:D47,D3E D4C:D46,D57 DDA:DD9,DCA DDC:DD9,DCF DDD:DD9,DCF,DCA DDE:DD9,DDF 1026:1025,102E
  1B06:1B05,1B35 1B08:1B07,1B35 1B0A:1B09,1B35 1B0C:1B0B,1B35 1B0E:1B0D,1B35 1B12:1B11,1B35
  1B3B:1B3A,1B35 1B3D:1B3C,1B35 1B40:1B3E,1B35 1B41:1B3F,1B35 1B43:1B42,1B35 1E01:61,325 1E03:62,307
  1E05:62,323 1E07:62,331 1E09:63,327,301 1E0B:64,307 1E0D:64,323 1E0F:64,331 1E11:64,327
  1E13:64,32D 1E15:65,304,300 1E17:65,304,301 1E19:65,32D 1E1B:65,330 1E1D:65,327,306 1E1F:66,307
  1E21:67,304 1E23:68,307 1E25:68,323 1E27:68,308 1E29:68,327 1E2B:68,32E 1E2D:69,330
  1E2F:69,308,301 1E31:6B,301 1E33:6B,323 1E35:6B,331 1E37:6C,323 1E39:6C,323,304 1E3B:6C,331
  1E3D:6C,32D 1E3F:6D,301 1E41:6D,307 1E43:6D,323 1E45:6E,307 1E47:6E,323 1E49:6E,331 1E4B:6E,32D
  1E4D:6F,303,301 1E4F:6F,303,308 1E51:6F,304,300 1E53:6F,304,301 1E55:70,301 1E57:70,307
  1E59:72,307 1E5B:72,323 1E5D:72,323,304 1E5F:72,331 1E61:73,307 1E63:73,323 1E65:73,301,307
  1E67:73,30C,307 1E69:73,323,307 1E6B:74,307 1E6D:74,323 1E6F:74,331 1E71:74,32D 1E73:75,324
  1E75:75,330 1E77:75,32D 1E79:75,303,301 1E7B:75,304,308 1E7D:76,303 1E7F:76,323 1E81:77,300
  1E83:77,301 1E85:77,308 1E87:77,307 1E89:77,323 1E8B:78,307 1E8D:78,308 1E8F:79,307 1E91:7A,302
  1E93:7A,323 1E95:7A,331 1E96:68,331 1E97:74,308 1E98:77,30A 1E99:79,30A 1EA1:61,323 1EA3:61,309
  1EA5:61,302,301 1EA7:61,302,300 1EA9:61,302,309 1EAB:61,302,303 1EAD:61,323,302 1EAF:61,306,301
  1EB1:61,306,300 1EB3:61,306,309 1EB5:61,306,303 1EB7:61,323,306 1EB9:65,323 1EBB:65,309
  1EBD:65,303 1EBF:65,302,301 1EC1:65,302,300 1EC3:65,302,309 1EC5:65,302,303 1EC7:65,323,302
  1EC9:69,309 1ECB:69,323 1ECD:6F,323 1ECF:6F,309 1ED1:6F,302,301 1ED3:6F,302,300 1ED5:6F,302,309
  1ED7:6F,302,303 1ED9:6F,323,302 1EDB:6F,31B,301 1EDD:6F,31B,300 1EDF:6F,31B,309 1EE1:6F,31B,303
  1EE3:6F,31B,323 1EE5:75,323 1EE7:75,309 1EE9:75,31B,301 1EEB:75,31B,300 1EED:75,31B,309
  1EEF:75,31B,303 1EF1:75,31B,323 1EF3:79,300 1EF5:79,323 1EF7:79,309 1EF9:79,303 1F00:3B1,313
  1F01:3B1,314 1F02:3B1,313,300 1F03:3B1,314,300 1F04:3B1,313,301 1F05:3B1,314,301 1F06:3B1,313,342
  1F07:3B1,314,342 1F10:3B5,313 1F11:3B5,314 1F12:3B5,313,300 1F13:3B5,314,300 1F14:3B5,313,301
  1F15:3B5,314,301 1F20:3B7,313 1F21:3B7,314 1F22:3B7,313,300 1F23:3B7,314,300 1F24:3B7,313,301
  1F25:3B7,314,301 1F26:3B7,313,342 1F27:3B7,314,342 1F30:3B9,313 1F31:3B9,314 1F32:3B9,313,300
  1F33:3B9,314,300 1F34:3B9,313,301 1F35:3B9,314,301 1F36:3B9,313,342 1F37:3B9,314,342 1F40:3BF,313
  1F41:3BF,314 1F42:3BF,313,300 1F43:3BF,314,300 1F44:3BF,313,301 1F45:3BF,314,301 1F50:3C5,313
  1F51:3C5,314 1F52:3C5,313,300 1F53:3C5,314,300 1F54:3C5,313,301 1F55:3C5,314,301 1F56:3C5,313,342
  1F57:3C5,314,342 1F60:3C9,313 1F61:3C9,314 1F62:3C9,313,300 1F63:3C9,314,300 1F64:3C9,313,301
  1F65:3C9,314,301 1F66:3C9,313,342 1F67:3C9,314,342 1F70:3B1,300 1F72:3B5,300 1F74:3B7,300
  1F76:3B9,300 1F78:3BF,300 1F7A:3C5,300 1F7C:3C9,300 1FB0:3B1,306 1FB1:3B1,304 1FB6:3B1,342
  1FC6:3B7,342 1FD0:3B9,306 1FD1:3B9,304 1FD2:3B9,308,300 1FD6:3B9,342 1FD7:3B9,308,342 1FE0:3C5,306
  1FE1:3C5,304 1FE2:3C5,308,300 1FE4:3C1,313 1FE5:3C1,314 1FE6:3C5,342 1FE7:3C5,308,342 1FF6:3C9,342
  219A:2190,338 219B:2192,338 21AE:2194,338 21CD:21D0,338 21CE:21D4,338 21CF:21D2,338 2204:2203,338
  2209:2208,338 220C:220B,338 2224:2223,338 2226:2225,338 2241:223C,338 2244:2243,338 2247:2245,338
  2249:2248,338 2260:3D,338 2262:2261,338 226D:224D,338 226E:3C,338 226F:3E,338 2270:2264,338
  2271:2265,338 2274:2272,338 2275:2273,338 2278:2276,338 2279:2277,338 2280:227A,338 2281:227B,338
  2284:2282,338 2285:2283,338 2288:2286,338 2289:2287,338 22AC:22A2,338 22AD:22A8,338 22AE:22A9,338
  22AF:22AB,338 22E0:227C,338 22E1:227D,338 22E2:2291,338 22E3:2292,338 22EA:22B2,338 22EB:22B3,338
  22EC:22B4,338 22ED:22B5,338 304C:304B,3099 304E:304D,3099 3050:304F,3099 3052:3051,3099
  3054:3053,3099 3056:3055,3099 3058:3057,3099 305A:3059,3099 305C:305B,3099 305E:305D,3099
  3060:305F,3099 3062:3061,3099 3065:3064,3099 3067:3066,3099 3069:3068,3099 3070:306F,3099
  3071:306F,309A 3073:3072,3099 3074:3072,309A 3076:3075,3099 3077:3075,309A 3079:3078,3099
  307A:3078,309A 307C:307B,3099 307D:307B,309A 3094:3046,3099 309E:309D,3099 30AC:30AB,3099
  30AE:30AD,3099 30B0:30AF,3099 30B2:30B1,3099 30B4:30B3,3099 30B6:30B5,3099 30B8:30B7,3099
  30BA:30B9,3099 30BC:30BB,3099 30BE:30BD,3099 30C0:30BF,3099 30C2:30C1,3099 30C5:30C4,3099
  30C7:30C6,3099 30C9:30C8,3099 30D0:30CF,3099 30D1:30CF,309A 30D3:30D2,3099 30D4:30D2,309A
  30D6:30D5,3099 30D7:30D5,309A 30D9:30D8,3099 30DA:30D8,309A 30DC:30DB,3099 30DD:30DB,309A
  30F4:30A6,3099 30F7:30EF,3099 30F8:30F0,3099 30F9:30F1,3099 30FA:30F2,3099 30FE:30FD,3099
  105C9:105D2,307 105E4:105DA,307 1109A:11099,110BA 1109C:1109B,110BA 110AB:110A5,110BA
  1112E:11131,11127 1112F:11132,11127 1134B:11347,1133E 1134C:11347,11357 11383:11382,113C9
  11385:11384,113BB 1138E:1138B,113C2 11391:11390,113C9 113C5:113C2,113C2 113C7:113C2,113B8
  113C8:113C2,113C9 114BB:114B9,114BA 114BC:114B9,114B0 114BE:114B9,114BD 115BA:115B8,115AF
  115BB:115B9,115AF 11938:11935,11930 16121:1611E,1611E 16122:1611E,16129 16123:1611E,1611F
  16124:16129,1611F 16125:1611E,16120 16126:1611E,1611E,1611F 16127:1611E,16129,1611F
  16128:1611E,1611E,16120 16D68:16D67,16D67 16D69:16D63,16D67 16D6A:16D63,16D67,16D67"

/-- The first syllable of the Hangul script. Syllables follow in the order of their three parts. -/
def firstSyllable : Nat := 0xAC00

/-- The parts of a Hangul syllable: a leading consonant, a vowel and maybe a trailing consonant. -/
def syllableParts? (n : Nat) : Option (List Nat) :=
  let i := n - firstSyllable
  if n < firstSyllable ∨ 19 * 21 * 28 ≤ i then none
  else
    let trailing := if i % 28 = 0 then [] else [0x11A7 + i % 28]
    some ([0x1100 + i / (21 * 28), 0x1161 + i / 28 % 21] ++ trailing)

/-- The Hangul syllable made of a leading consonant and a vowel, or of such a syllable and a
trailing consonant. -/
def joinSyllable? (a b : Nat) : Option Nat :=
  if 0x1100 ≤ a ∧ a < 0x1100 + 19 ∧ 0x1161 ≤ b ∧ b < 0x1161 + 21 then
    some (firstSyllable + ((a - 0x1100) * 21 + (b - 0x1161)) * 28)
  else if firstSyllable ≤ a ∧ a < firstSyllable + 19 * 21 * 28 ∧ (a - firstSyllable) % 28 = 0 ∧
      0x11A7 < b ∧ b < 0x11A7 + 28 then
    some (a + (b - 0x11A7))
  else none

/-- What remains of a row behind a given number in front. -/
def behind? (n : Nat) : List Nat → Option (List Nat)
  | m :: ms => if m = n then some ms else none
  | [] => none

/-- The parts of a character; one that is not composed, as all of ASCII, is its only part. -/
def parts (n : Nat) : List Nat :=
  if n < 0x80 then [n] else (syllableParts? n <|> composites.findSome? (behind? n)).getD [n]

/-- The composed character with the parts of one character and a second one behind them. -/
def join? (a b : Nat) : Option Nat :=
  if b < firstMark then none
  else
    let both := parts a ++ [b]
    joinSyllable? a b <|>
      composites.findSome? fun row => if row.tail = both then row.head? else none

/-- Puts a character in front of a text whose marks are in order, or behind marks of lower class. -/
def place (c : Char) : List Char → List Char
  | [] => [c]
  | d :: ds =>
    if combiningClass d ≠ 0 ∧ combiningClass d < combiningClass c then d :: place c ds
    else c :: d :: ds

/-- A text with its marks in order. Marks of one class keep theirs. -/
def ordered (cs : List Char) : List Char := cs.foldr place []

/-- Whether a character can reach the last base over the marks that follow it, the latest first. -/
def reachesBase (marks : List Char) (c : Char) : Bool :=
  marks.head?.all (combiningClass · < combiningClass c)

/-- Puts together what can be, given the last base and the marks behind it, the latest first. -/
def joined (base : Option Char) (marks : List Char) : List Char → List Char
  | [] => base.toList ++ marks.reverse
  | c :: cs =>
    match if reachesBase marks c then base.bind (join? ·.toNat c.toNat) else none with
    | some n => joined (some (Char.ofNat n)) marks cs
    | none =>
      if combiningClass c = 0 then base.toList ++ marks.reverse ++ joined (some c) [] cs
      else joined base (c :: marks) cs

/-- The composed form of a text. -/
def composed (cs : List Char) : List Char :=
  joined none [] (ordered (cs.flatMap fun c => (parts c.toNat).map Char.ofNat))

end Supervisor.Uri.Domain
