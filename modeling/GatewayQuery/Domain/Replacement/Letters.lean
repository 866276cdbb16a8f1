/-
Capital letters of the scripts below U+2000 and of their extensions, each replaced by its small
letter, and the superscript and other variant letters among them, each replaced by the plain ones.
-/
import GatewayQuery.Text.CodeTable

namespace GatewayQuery.Domain.Replacement

/-- The replacements of letters below U+2000 and from U+A640 to U+ABBF. -/
def letters : Text.CodeTable := .ofText "
A0: 20 A8: 20+308 - 61 AF: 20+304 B2: 32 33 20+301 3BC B8: 20+327 31 6F - 31+2044+34 31+2044+32
33+2044+34 - E0 E1 E2 E3 E4 E5 E6 E7 E8 E9 EA EB EC ED EE EF F0 F1 F2 F3 F4 F5 F6 - F8 F9 FA FB FC
FD FE 100: 101 - 103 - 105 - 107 - 109 - 10B - 10D - 10F - 111 - 113 - 115 - 117 - 119 - 11B - 11D
- 11F - 121 - 123 - 125 - 127 - 129 - 12B - 12D - 12F - 69+307 - 69+6A 69+6A 135 - 137 139: 13A -
13C - 13E - 6C+B7 6C+B7 142 - 144 - 146 - 148 - 2BC+6E 14B - 14D - 14F - 151 - 153 - 155 - 157 -
159 - 15B - 15D - 15F - 161 - 163 - 165 - 167 - 169 - 16B - 16D - 16F - 171 - 173 - 175 - 177 - FF
17A - 17C - 17E - 73 - 253 183 - 185 - 254 188 - 256 257 18C 18E: 1DD 259 25B 192 - 260 263 - 269
268 199 19C: 26F 272 - 275 1A1 - 1A3 - 1A5 - 280 1A8 - 283 1AC: 1AD - 288 1B0 - 28A 28B 1B4 - 1B6
- 292 1B9 1BC: 1BD 1C4: 64+17E 64+17E 64+17E 6C+6A 6C+6A 6C+6A 6E+6A 6E+6A 6E+6A 1CE - 1D0 - 1D2 -
1D4 - 1D6 - 1D8 - 1DA - 1DC 1DE: 1DF - 1E1 - 1E3 - 1E5 - 1E7 - 1E9 - 1EB - 1ED - 1EF 1F1: 64+7A
64+7A 64+7A 1F5 - 195 1BF 1F9 - 1FB - 1FD - 1FF - 201 - 203 - 205 - 207 - 209 - 20B - 20D - 20F -
211 - 213 - 215 - 217 - 219 - 21B - 21D - 21F - 19E - 223 - 225 - 227 - 229 - 22B - 22D - 22F -
231 - 233 23A: 2C65 23C - 19A 2C66 241: 242 - 180 289 28C 247 - 249 - 24B - 24D - 24F 2B0: 68 266
6A 72 279 27B 281 77 79 2D8: 20+306 20+307 20+30A 20+328 20+303 20+30B 2E0: 263 6C 73 78 295 340:
300 301 - 313 308+301 3B9 370: 371 - 373 - 2B9 - 377 37A: 20+3B9 37E: 3B 3F3 384: 20+301
20+308+301 3AC B7 3AD 3AE 3AF - 3CC - 3CD 3CE - 3B1 3B2 3B3 3B4 3B5 3B6 3B7 3B8 3B9 3BA 3BB 3BC
3BD 3BE 3BF 3C0 3C1 - 3C3 3C4 3C5 3C6 3C7 3C8 3C9 3CA 3CB 3CF: 3D7 3B2 3B8 3C5 3CD 3CB 3C6 3C0 -
3D9 - 3DB - 3DD - 3DF - 3E1 - 3E3 - 3E5 - 3E7 - 3E9 - 3EB - 3ED - 3EF - 3BA 3C1 3C3 - 3B8 3B5 -
3F8 - 3C3 3FB 3FD: 37B 37C 37D 450 451 452 453 454 455 456 457 458 459 45A 45B 45C 45D 45E 45F 430
431 432 433 434 435 436 437 438 439 43A 43B 43C 43D 43E 43F 440 441 442 443 444 445 446 447 448
449 44A 44B 44C 44D 44E 44F 460: 461 - 463 - 465 - 467 - 469 - 46B - 46D - 46F - 471 - 473 - 475 -
477 - 479 - 47B - 47D - 47F - 481 48A: 48B - 48D - 48F - 491 - 493 - 495 - 497 - 499 - 49B - 49D -
49F - 4A1 - 4A3 - 4A5 - 4A7 - 4A9 - 4AB - 4AD - 4AF - 4B1 - 4B3 - 4B5 - 4B7 - 4B9 - 4BB - 4BD -
4BF - 4CF 4C2 - 4C4 - 4C6 - 4C8 - 4CA - 4CC - 4CE 4D0: 4D1 - 4D3 - 4D5 - 4D7 - 4D9 - 4DB - 4DD -
4DF - 4E1 - 4E3 - 4E5 - 4E7 - 4E9 - 4EB - 4ED - 4EF - 4F1 - 4F3 - 4F5 - 4F7 - 4F9 - 4FB - 4FD -
4FF - 501 - 503 - 505 - 507 - 509 - 50B - 50D - 50F - 511 - 513 - 515 - 517 - 519 - 51B - 51D -
51F - 521 - 523 - 525 - 527 - 529 - 52B - 52D - 52F 531: 561 562 563 564 565 566 567 568 569 56A
56B 56C 56D 56E 56F 570 571 572 573 574 575 576 577 578 579 57A 57B 57C 57D 57E 57F 580 581 582
583 584 585 586 587: 565+582 675: 627+674 648+674 6C7+674 64A+674 958: 915+93C 916+93C 917+93C
91C+93C 921+93C 922+93C 92B+93C 92F+93C 9DC: 9A1+9BC 9A2+9BC - 9AF+9BC A33: A32+A3C A36: A38+A3C
A59: A16+A3C A17+A3C A1C+A3C A5E: A2B+A3C B5C: B21+B3C B22+B3C E33: E4D+E32 EB3: ECD+EB2 EDC:
EAB+E99 EAB+EA1 F0C: F0B F43: F42+FB7 F4D: F4C+FB7 F52: F51+FB7 F57: F56+FB7 F5C: F5B+FB7 F69:
F40+FB5 F73: F71+F72 - F71+F74 FB2+F80 FB2+F71+F80 FB3+F80 FB3+F71+F80 F81: F71+F80 F93: F92+FB7
F9D: F9C+FB7 FA2: FA1+FB7 FA7: FA6+FB7 FAC: FAB+FB7 FB9: F90+FB5 10A0: 2D00 2D01 2D02 2D03 2D04
2D05 2D06 2D07 2D08 2D09 2D0A 2D0B 2D0C 2D0D 2D0E 2D0F 2D10 2D11 2D12 2D13 2D14 2D15 2D16 2D17
2D18 2D19 2D1A 2D1B 2D1C 2D1D 2D1E 2D1F 2D20 2D21 2D22 2D23 2D24 2D25 - 2D27 10CD: 2D2D 10FC: 10DC
13F8: 13F0 13F1 13F2 13F3 13F4 13F5 1C80: 432 434 43E 441 442 442 44A 463 A64B 1C8A 1C90: 10D0
10D1 10D2 10D3 10D4 10D5 10D6 10D7 10D8 10D9 10DA 10DB 10DC 10DD 10DE 10DF 10E0 10E1 10E2 10E3
10E4 10E5 10E6 10E7 10E8 10E9 10EA 10EB 10EC 10ED 10EE 10EF 10F0 10F1 10F2 10F3 10F4 10F5 10F6
10F7 10F8 10F9 10FA 1CBD: 10FD 10FE 10FF 1D2C: 61 E6 62 - 64 65 1DD 67 68 69 6A 6B 6C 6D 6E - 6F
223 70 72 74 75 77 61 250 251 1D02 62 64 65 259 25B 25C 67 - 6B 6D 14B 6F 254 1D16 1D17 70 74 75
1D1D 26F 76 1D25 3B2 3B3 3B4 3C6 3C7 69 72 75 76 3B2 3B3 3C1 3C6 3C7 1D78: 43D 1D9B: 252 63 255 F0
25C 66 25F 261 265 268 269 26A 1D7B 29D 26D 1D85 29F 271 270 272 273 274 275 278 282 283 1AB 289
28A 1D1C 28B 28C 7A 290 291 292 3B8 1E00: 1E01 - 1E03 - 1E05 - 1E07 - 1E09 - 1E0B - 1E0D - 1E0F -
1E11 - 1E13 - 1E15 - 1E17 - 1E19 - 1E1B - 1E1D - 1E1F - 1E21 - 1E23 - 1E25 - 1E27 - 1E29 - 1E2B -
1E2D - 1E2F - 1E31 - 1E33 - 1E35 - 1E37 - 1E39 - 1E3B - 1E3D - 1E3F - 1E41 - 1E43 - 1E45 - 1E47 -
1E49 - 1E4B - 1E4D - 1E4F - 1E51 - 1E53 - 1E55 - 1E57 - 1E59 - 1E5B - 1E5D - 1E5F - 1E61 - 1E63 -
1E65 - 1E67 - 1E69 - 1E6B - 1E6D - 1E6F - 1E71 - 1E73 - 1E75 - 1E77 - 1E79 - 1E7B - 1E7D - 1E7F -
1E81 - 1E83 - 1E85 - 1E87 - 1E89 - 1E8B - 1E8D - 1E8F - 1E91 - 1E93 - 1E95 1E9A: 61+2BE 1E61 1E9E:
DF - 1EA1 - 1EA3 - 1EA5 - 1EA7 - 1EA9 - 1EAB - 1EAD - 1EAF - 1EB1 - 1EB3 - 1EB5 - 1EB7 - 1EB9 -
1EBB - 1EBD - 1EBF - 1EC1 - 1EC3 - 1EC5 - 1EC7 - 1EC9 - 1ECB - 1ECD - 1ECF - 1ED1 - 1ED3 - 1ED5 -
1ED7 - 1ED9 - 1EDB - 1EDD - 1EDF - 1EE1 - 1EE3 - 1EE5 - 1EE7 - 1EE9 - 1EEB - 1EED - 1EEF - 1EF1 -
1EF3 - 1EF5 - 1EF7 - 1EF9 - 1EFB - 1EFD - 1EFF 1F08: 1F00 1F01 1F02 1F03 1F04 1F05 1F06 1F07 1F18:
1F10 1F11 1F12 1F13 1F14 1F15 1F28: 1F20 1F21 1F22 1F23 1F24 1F25 1F26 1F27 1F38: 1F30 1F31 1F32
1F33 1F34 1F35 1F36 1F37 1F48: 1F40 1F41 1F42 1F43 1F44 1F45 1F59: 1F51 - 1F53 - 1F55 - 1F57 1F68:
1F60 1F61 1F62 1F63 1F64 1F65 1F66 1F67 - 3AC - 3AD - 3AE - 3AF - 3CC - 3CD - 3CE 1F80: 1F00+3B9
1F01+3B9 1F02+3B9 1F03+3B9 1F04+3B9 1F05+3B9 1F06+3B9 1F07+3B9 1F00+3B9 1F01+3B9 1F02+3B9 1F03+3B9
1F04+3B9 1F05+3B9 1F06+3B9 1F07+3B9 1F20+3B9 1F21+3B9 1F22+3B9 1F23+3B9 1F24+3B9 1F25+3B9 1F26+3B9
1F27+3B9 1F20+3B9 1F21+3B9 1F22+3B9 1F23+3B9 1F24+3B9 1F25+3B9 1F26+3B9 1F27+3B9 1F60+3B9 1F61+3B9
1F62+3B9 1F63+3B9 1F64+3B9 1F65+3B9 1F66+3B9 1F67+3B9 1F60+3B9 1F61+3B9 1F62+3B9 1F63+3B9 1F64+3B9
1F65+3B9 1F66+3B9 1F67+3B9 1FB2: 1F70+3B9 3B1+3B9 3AC+3B9 1FB7: 1FB6+3B9 1FB0 1FB1 1F70 3AC
3B1+3B9 20+313 3B9 20+313 20+342 20+308+342 1F74+3B9 3B7+3B9 3AE+3B9 1FC7: 1FC6+3B9 1F72 3AD 1F74
3AE 3B7+3B9 20+313+300 20+313+301 20+313+342 1FD3: 390 1FD8: 1FD0 1FD1 1F76 3AF - 20+314+300
20+314+301 20+314+342 1FE3: 3B0 1FE8: 1FE0 1FE1 1F7A 3CD 1FE5 20+308+300 20+308+301 60 1FF2:
1F7C+3B9 3C9+3B9 3CE+3B9 1FF7: 1FF6+3B9 1F78 3CC 1F7C 3CE 3C9+3B9 20+301 20+314 A640: A641 - A643
- A645 - A647 - A649 - A64B - A64D - A64F - A651 - A653 - A655 - A657 - A659 - A65B - A65D - A65F
- A661 - A663 - A665 - A667 - A669 - A66B - A66D A680: A681 - A683 - A685 - A687 - A689 - A68B -
A68D - A68F - A691 - A693 - A695 - A697 - A699 - A69B - 44A 44C A722: A723 - A725 - A727 - A729 -
A72B - A72D - A72F A732: A733 - A735 - A737 - A739 - A73B - A73D - A73F - A741 - A743 - A745 -
A747 - A749 - A74B - A74D - A74F - A751 - A753 - A755 - A757 - A759 - A75B - A75D - A75F - A761 -
A763 - A765 - A767 - A769 - A76B - A76D - A76F - A76F A779: A77A - A77C - 1D79 A77F - A781 - A783
- A785 - A787 A78B: A78C - 265 A790: A791 - A793 A796: A797 - A799 - A79B - A79D - A79F - A7A1 -
A7A3 - A7A5 - A7A7 - A7A9 - 266 25C 261 26C 26A - 29E 287 29D AB53 A7B5 - A7B7 - A7B9 - A7BB -
A7BD - A7BF - A7C1 - A7C3 - A794 282 1D8E A7C8 - A7CA - 264 A7CD - A7CF - A7D1 - A7D3 - A7D5 -
A7D7 - A7D9 - A7DB - 19B A7F1: 73 63 66 71 A7F6 A7F8: 127 153 AB5C: A727 AB37 26B AB52 AB69: 28D
AB70: 13A0 13A1 13A2 13A3 13A4 13A5 13A6 13A7 13A8 13A9 13AA 13AB 13AC 13AD 13AE 13AF 13B0 13B1
13B2 13B3 13B4 13B5 13B6 13B7 13B8 13B9 13BA 13BB 13BC 13BD 13BE 13BF 13C0 13C1 13C2 13C3 13C4
13C5 13C6 13C7 13C8 13C9 13CA 13CB 13CC 13CD 13CE 13CF 13D0 13D1 13D2 13D3 13D4 13D5 13D6 13D7
13D8 13D9 13DA 13DB 13DC 13DD 13DE 13DF 13E0 13E1 13E2 13E3 13E4 13E5 13E6 13E7 13E8 13E9 13EA
13EB 13EC 13ED 13EE 13EF
"

end GatewayQuery.Domain.Replacement
