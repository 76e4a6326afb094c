namespace AccessPolicy.Text.CaseTable

def runs : String := "
41 61 1A B5 3BC 1 C0 E0 17 D8 F8 7 100 101 1 102 103 1 104 105 1 106 107 1 108 109 1 10A 10B 1 10C 10D 1
10E 10F 1 110 111 1 112 113 1 114 115 1 116 117 1 118 119 1 11A 11B 1 11C 11D 1 11E 11F 1 120 121 1
122 123 1 124 125 1 126 127 1 128 129 1 12A 12B 1 12C 12D 1 12E 12F 1 132 133 1 134 135 1 136 137 1
139 13A 1 13B 13C 1 13D 13E 1 13F 140 1 141 142 1 143 144 1 145 146 1 147 148 1 14A 14B 1 14C 14D 1
14E 14F 1 150 151 1 152 153 1 154 155 1 156 157 1 158 159 1 15A 15B 1 15C 15D 1 15E 15F 1 160 161 1
162 163 1 164 165 1 166 167 1 168 169 1 16A 16B 1 16C 16D 1 16E 16F 1 170 171 1 172 173 1 174 175 1
176 177 1 178 FF 1 179 17A 1 17B 17C 1 17D 17E 1 17F 73 1 181 253 1 182 183 1 184 185 1 186 254 1 187 188 1
189 256 2 18B 18C 1 18E 1DD 1 18F 259 1 190 25B 1 191 192 1 193 260 1 194 263 1 196 269 1 197 268 1
198 199 1 19C 26F 1 19D 272 1 19F 275 1 1A0 1A1 1 1A2 1A3 1 1A4 1A5 1 1A6 280 1 1A7 1A8 1 1A9 283 1
1AC 1AD 1 1AE 288 1 1AF 1B0 1 1B1 28A 2 1B3 1B4 1 1B5 1B6 1 1B7 292 1 1B8 1B9 1 1BC 1BD 1 1C4 1C6 1
1C5 1C6 1 1C7 1C9 1 1C8 1C9 1 1CA 1CC 1 1CB 1CC 1 1CD 1CE 1 1CF 1D0 1 1D1 1D2 1 1D3 1D4 1 1D5 1D6 1
1D7 1D8 1 1D9 1DA 1 1DB 1DC 1 1DE 1DF 1 1E0 1E1 1 1E2 1E3 1 1E4 1E5 1 1E6 1E7 1 1E8 1E9 1 1EA 1EB 1
1EC 1ED 1 1EE 1EF 1 1F1 1F3 1 1F2 1F3 1 1F4 1F5 1 1F6 195 1 1F7 1BF 1 1F8 1F9 1 1FA 1FB 1 1FC 1FD 1
1FE 1FF 1 200 201 1 202 203 1 204 205 1 206 207 1 208 209 1 20A 20B 1 20C 20D 1 20E 20F 1 210 211 1
212 213 1 214 215 1 216 217 1 218 219 1 21A 21B 1 21C 21D 1 21E 21F 1 220 19E 1 222 223 1 224 225 1
226 227 1 228 229 1 22A 22B 1 22C 22D 1 22E 22F 1 230 231 1 232 233 1 23A 2C65 1 23B 23C 1 23D 19A 1
23E 2C66 1 241 242 1 243 180 1 244 289 1 245 28C 1 246 247 1 248 249 1 24A 24B 1 24C 24D 1 24E 24F 1
345 3B9 1 370 371 1 372 373 1 376 377 1 37F 3F3 1 386 3AC 1 388 3AD 3 38C 3CC 1 38E 3CD 2 391 3B1 11
3A3 3C3 9 3C2 3C3 1 3CF 3D7 1 3D0 3B2 1 3D1 3B8 1 3D5 3C6 1 3D6 3C0 1 3D8 3D9 1 3DA 3DB 1 3DC 3DD 1
3DE 3DF 1 3E0 3E1 1 3E2 3E3 1 3E4 3E5 1 3E6 3E7 1 3E8 3E9 1 3EA 3EB 1 3EC 3ED 1 3EE 3EF 1 3F0 3BA 1
3F1 3C1 1 3F4 3B8 1 3F5 3B5 1 3F7 3F8 1 3F9 3F2 1 3FA 3FB 1 3FD 37B 3 400 450 10 410 430 20 460 461 1
462 463 1 464 465 1 466 467 1 468 469 1 46A 46B 1 46C 46D 1 46E 46F 1 470 471 1 472 473 1 474 475 1
476 477 1 478 479 1 47A 47B 1 47C 47D 1 47E 47F 1 480 481 1 48A 48B 1 48C 48D 1 48E 48F 1 490 491 1
492 493 1 494 495 1 496 497 1 498 499 1 49A 49B 1 49C 49D 1 49E 49F 1 4A0 4A1 1 4A2 4A3 1 4A4 4A5 1
4A6 4A7 1 4A8 4A9 1 4AA 4AB 1 4AC 4AD 1 4AE 4AF 1 4B0 4B1 1 4B2 4B3 1 4B4 4B5 1 4B6 4B7 1 4B8 4B9 1
4BA 4BB 1 4BC 4BD 1 4BE 4BF 1 4C0 4CF 1 4C1 4C2 1 4C3 4C4 1 4C5 4C6 1 4C7 4C8 1 4C9 4CA 1 4CB 4CC 1
4CD 4CE 1 4D0 4D1 1 4D2 4D3 1 4D4 4D5 1 4D6 4D7 1 4D8 4D9 1 4DA 4DB 1 4DC 4DD 1 4DE 4DF 1 4E0 4E1 1
4E2 4E3 1 4E4 4E5 1 4E6 4E7 1 4E8 4E9 1 4EA 4EB 1 4EC 4ED 1 4EE 4EF 1 4F0 4F1 1 4F2 4F3 1 4F4 4F5 1
4F6 4F7 1 4F8 4F9 1 4FA 4FB 1 4FC 4FD 1 4FE 4FF 1 500 501 1 502 503 1 504 505 1 506 507 1 508 509 1
50A 50B 1 50C 50D 1 50E 50F 1 510 511 1 512 513 1 514 515 1 516 517 1 518 519 1 51A 51B 1 51C 51D 1
51E 51F 1 520 521 1 522 523 1 524 525 1 526 527 1 528 529 1 52A 52B 1 52C 52D 1 52E 52F 1 531 561 26
10A0 2D00 26 10C7 2D27 1 10CD 2D2D 1 13F8 13F0 6 1C80 432 1 1C81 434 1 1C82 43E 1 1C83 441 2 1C85 442 1
1C86 44A 1 1C87 463 1 1C88 A64B 1 1C90 10D0 2B 1CBD 10FD 3 1E00 1E01 1 1E02 1E03 1 1E04 1E05 1 1E06 1E07 1
1E08 1E09 1 1E0A 1E0B 1 1E0C 1E0D 1 1E0E 1E0F 1 1E10 1E11 1 1E12 1E13 1 1E14 1E15 1 1E16 1E17 1 1E18 1E19 1
1E1A 1E1B 1 1E1C 1E1D 1 1E1E 1E1F 1 1E20 1E21 1 1E22 1E23 1 1E24 1E25 1 1E26 1E27 1 1E28 1E29 1 1E2A 1E2B 1
1E2C 1E2D 1 1E2E 1E2F 1 1E30 1E31 1 1E32 1E33 1 1E34 1E35 1 1E36 1E37 1 1E38 1E39 1 1E3A 1E3B 1 1E3C 1E3D 1
1E3E 1E3F 1 1E40 1E41 1 1E42 1E43 1 1E44 1E45 1 1E46 1E47 1 1E48 1E49 1 1E4A 1E4B 1 1E4C 1E4D 1 1E4E 1E4F 1
1E50 1E51 1 1E52 1E53 1 1E54 1E55 1 1E56 1E57 1 1E58 1E59 1 1E5A 1E5B 1 1E5C 1E5D 1 1E5E 1E5F 1 1E60 1E61 1
1E62 1E63 1 1E64 1E65 1 1E66 1E67 1 1E68 1E69 1 1E6A 1E6B 1 1E6C 1E6D 1 1E6E 1E6F 1 1E70 1E71 1 1E72 1E73 1
1E74 1E75 1 1E76 1E77 1 1E78 1E79 1 1E7A 1E7B 1 1E7C 1E7D 1 1E7E 1E7F 1 1E80 1E81 1 1E82 1E83 1 1E84 1E85 1
1E86 1E87 1 1E88 1E89 1 1E8A 1E8B 1 1E8C 1E8D 1 1E8E 1E8F 1 1E90 1E91 1 1E92 1E93 1 1E94 1E95 1 1E9B 1E61 1
1E9E DF 1 1EA0 1EA1 1 1EA2 1EA3 1 1EA4 1EA5 1 1EA6 1EA7 1 1EA8 1EA9 1 1EAA 1EAB 1 1EAC 1EAD 1 1EAE 1EAF 1
1EB0 1EB1 1 1EB2 1EB3 1 1EB4 1EB5 1 1EB6 1EB7 1 1EB8 1EB9 1 1EBA 1EBB 1 1EBC 1EBD 1 1EBE 1EBF 1 1EC0 1EC1 1
1EC2 1EC3 1 1EC4 1EC5 1 1EC6 1EC7 1 1EC8 1EC9 1 1ECA 1ECB 1 1ECC 1ECD 1 1ECE 1ECF 1 1ED0 1ED1 1 1ED2 1ED3 1
1ED4 1ED5 1 1ED6 1ED7 1 1ED8 1ED9 1 1EDA 1EDB 1 1EDC 1EDD 1 1EDE 1EDF 1 1EE0 1EE1 1 1EE2 1EE3 1 1EE4 1EE5 1
1EE6 1EE7 1 1EE8 1EE9 1 1EEA 1EEB 1 1EEC 1EED 1 1EEE 1EEF 1 1EF0 1EF1 1 1EF2 1EF3 1 1EF4 1EF5 1 1EF6 1EF7 1
1EF8 1EF9 1 1EFA 1EFB 1 1EFC 1EFD 1 1EFE 1EFF 1 1F08 1F00 8 1F18 1F10 6 1F28 1F20 8 1F38 1F30 8 1F48 1F40 6
1F59 1F51 1 1F5B 1F53 1 1F5D 1F55 1 1F5F 1F57 1 1F68 1F60 8 1F88 1F80 8 1F98 1F90 8 1FA8 1FA0 8 1FB8 1FB0 2
1FBA 1F70 2 1FBC 1FB3 1 1FBE 3B9 1 1FC8 1F72 4 1FCC 1FC3 1 1FD8 1FD0 2 1FDA 1F76 2 1FE8 1FE0 2 1FEA 1F7A 2
1FEC 1FE5 1 1FF8 1F78 2 1FFA 1F7C 2 1FFC 1FF3 1 2126 3C9 1 212A 6B 1 212B E5 1 2132 214E 1 2160 2170 10
2183 2184 1 24B6 24D0 1A 2C00 2C30 30 2C60 2C61 1 2C62 26B 1 2C63 1D7D 1 2C64 27D 1 2C67 2C68 1 2C69 2C6A 1
2C6B 2C6C 1 2C6D 251 1 2C6E 271 1 2C6F 250 1 2C70 252 1 2C72 2C73 1 2C75 2C76 1 2C7E 23F 2 2C80 2C81 1
2C82 2C83 1 2C84 2C85 1 2C86 2C87 1 2C88 2C89 1 2C8A 2C8B 1 2C8C 2C8D 1 2C8E 2C8F 1 2C90 2C91 1 2C92 2C93 1
2C94 2C95 1 2C96 2C97 1 2C98 2C99 1 2C9A 2C9B 1 2C9C 2C9D 1 2C9E 2C9F 1 2CA0 2CA1 1 2CA2 2CA3 1 2CA4 2CA5 1
2CA6 2CA7 1 2CA8 2CA9 1 2CAA 2CAB 1 2CAC 2CAD 1 2CAE 2CAF 1 2CB0 2CB1 1 2CB2 2CB3 1 2CB4 2CB5 1 2CB6 2CB7 1
2CB8 2CB9 1 2CBA 2CBB 1 2CBC 2CBD 1 2CBE 2CBF 1 2CC0 2CC1 1 2CC2 2CC3 1 2CC4 2CC5 1 2CC6 2CC7 1 2CC8 2CC9 1
2CCA 2CCB 1 2CCC 2CCD 1 2CCE 2CCF 1 2CD0 2CD1 1 2CD2 2CD3 1 2CD4 2CD5 1 2CD6 2CD7 1 2CD8 2CD9 1 2CDA 2CDB 1
2CDC 2CDD 1 2CDE 2CDF 1 2CE0 2CE1 1 2CE2 2CE3 1 2CEB 2CEC 1 2CED 2CEE 1 2CF2 2CF3 1 A640 A641 1 A642 A643 1
A644 A645 1 A646 A647 1 A648 A649 1 A64A A64B 1 A64C A64D 1 A64E A64F 1 A650 A651 1 A652 A653 1 A654 A655 1
A656 A657 1 A658 A659 1 A65A A65B 1 A65C A65D 1 A65E A65F 1 A660 A661 1 A662 A663 1 A664 A665 1 A666 A667 1
A668 A669 1 A66A A66B 1 A66C A66D 1 A680 A681 1 A682 A683 1 A684 A685 1 A686 A687 1 A688 A689 1 A68A A68B 1
A68C A68D 1 A68E A68F 1 A690 A691 1 A692 A693 1 A694 A695 1 A696 A697 1 A698 A699 1 A69A A69B 1 A722 A723 1
A724 A725 1 A726 A727 1 A728 A729 1 A72A A72B 1 A72C A72D 1 A72E A72F 1 A732 A733 1 A734 A735 1 A736 A737 1
A738 A739 1 A73A A73B 1 A73C A73D 1 A73E A73F 1 A740 A741 1 A742 A743 1 A744 A745 1 A746 A747 1 A748 A749 1
A74A A74B 1 A74C A74D 1 A74E A74F 1 A750 A751 1 A752 A753 1 A754 A755 1 A756 A757 1 A758 A759 1 A75A A75B 1
A75C A75D 1 A75E A75F 1 A760 A761 1 A762 A763 1 A764 A765 1 A766 A767 1 A768 A769 1 A76A A76B 1 A76C A76D 1
A76E A76F 1 A779 A77A 1 A77B A77C 1 A77D 1D79 1 A77E A77F 1 A780 A781 1 A782 A783 1 A784 A785 1 A786 A787 1
A78B A78C 1 A78D 265 1 A790 A791 1 A792 A793 1 A796 A797 1 A798 A799 1 A79A A79B 1 A79C A79D 1 A79E A79F 1
A7A0 A7A1 1 A7A2 A7A3 1 A7A4 A7A5 1 A7A6 A7A7 1 A7A8 A7A9 1 A7AA 266 1 A7AB 25C 1 A7AC 261 1 A7AD 26C 1
A7AE 26A 1 A7B0 29E 1 A7B1 287 1 A7B2 29D 1 A7B3 AB53 1 A7B4 A7B5 1 A7B6 A7B7 1 A7B8 A7B9 1 A7BA A7BB 1
A7BC A7BD 1 A7BE A7BF 1 A7C0 A7C1 1 A7C2 A7C3 1 A7C4 A794 1 A7C5 282 1 A7C6 1D8E 1 A7C7 A7C8 1 A7C9 A7CA 1
A7D0 A7D1 1 A7D6 A7D7 1 A7D8 A7D9 1 A7F5 A7F6 1 AB70 13A0 50 FF21 FF41 1A 10400 10428 28 104B0 104D8 24
10570 10597 B 1057C 105A3 F 1058C 105B3 7 10594 105BB 2 10C80 10CC0 33 118A0 118C0 20 16E40 16E60 20
1E900 1E922 22"

end AccessPolicy.Text.CaseTable
