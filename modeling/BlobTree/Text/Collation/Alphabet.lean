import BlobTree.Text.CharTable

/-!
# BlobTree.Text.Collation.Alphabet

The characters with a place of their own in the alphabetical order, the marks, which count after
letters, and the characters that do not count at all.
-/

namespace BlobTree
namespace Collation

open CharTable (Row rows)

/-- All alphabets one after the other: blanks, punctuation, symbols, currencies, numbers, and the
scripts from Latin on. -/
def alphabet : List Row :=
  rows "
    FFFE 9-D 85 2028-2029 20 203E 5F 2017 2D 58A 1400 1B60 1B7D-1B7E 1806-1807 2010 2012-2015
    2E3A-2E3B 2053 2E43 2E17 2E40 301C 3030 30A0 30FB 10EAD 2C 2E34 2E32 2E41 2E4C 2E4E-2E4F 55D
    60C-60D 66B-66C 7F8 1802 1808 A4FE A60D A6F5 16E97 3001 FE45-FE46 16FE2 3B 61B 61D 204F 2E35
    A6F6 2E49 3A 589 61E 703-708 830-83E 1361 1363-1366 1804-1805 F14 17D6 1B5D A9C7 16EB-16ED
    A6F4 21 A1 55C 7F9 1944 1E95E 3F BF 2E2E 55E 61F 709 1367 1945 2CFA-2CFB A60F A6F7 AAF1 11143
    1E95F 203D 2E18 2E 1801 6D4 701-702 1362 1803 1809 166E 1B5C 2CF9 2CFE 2E30 2E3C A4FF A60E
    A6F3 16AF5 16E98 1BC9F 3002 B7 2E31 2E33 964-965 A8CE-A8CF 1C3B-1C3C A876-A877 1735-1736 A92F
    104A-104B 17D4-17D5 1AA8-1AAB 1B5E-1B5F A9C8-A9C9 AA5D-AA5F AAF0 ABEB 10A56-10A57 11047-11048
    110C0-110C1 11141-11142 111C5-111C6 11238-11239 1144B-1144C 115C2-115C3 11641-11642
    1173C-1173D 11944 11C41-11C42 16A6E-16A6F 1C7E-1C7F 700 7F7 10FB 1360 1368 1A1E-1A1F 1B5A-1B5B
    A9C1-A9C6 A9CA-A9CD A6F2 A95F 10857 10B3A-10B3F 10F55-10F59 10F86-10F89 110BE-110BF 11140
    111C8 111DE-111DF 112A9 1173E 11946 11EF7-11EF8 11F43-11F4F 2055-2056 2058-205E 2E2A-2E2D 2E3D
    2CFC 2CFF 2E19 1093F 10100-10102 1039F 103D0 1091F 12470-12474 12FF1-12FF2 27 2018-201B
    2039-203A 22 201C-201F 2E42 301D-301F AB BB 28-29 5B 5D 7B 7D F3A-F3D 169B-169C 2045-2046
    2308-230B 29FC-29FD 2983-2998 27C5-27C6 27E6-27EF 2768-2775 2E02-2E05 2E09-2E0A 2E0C-2E0D
    2E1C-2E1D 2E20-2E29 2329-232A 300A-3011 3014-301B FD3E-FD3F 2016 2E3E 29D8-29DB A7 2E39 B6
    204B 2E4D 2E3F 40 2A 204E 2051 66D A673 2F 5C 2E4A 26 204A 2E52-2E5D 23 25 66A 2030 609 2031
    60A 2020-2021 2E36-2E38 2E4B 2022-2023 2027 2043 204C-204D 2032 2035 3003 303D 2038 203B 203F
    2054 2040 2050 2041-2042 2E00-2E01 2E06-2E08 2E0B 2E0E-2E16 2E1A-2E1B 2E1E-2E1F 2E44-2E48 A67E
    55A-55B 55F 5BE 5C0 5C3 5C6 5F3-5F4 70A-70D 85E 1800 11660-1166C 116B9 970 A8F8-A8FA A8FC 9FD
    A76 AF0 C77 C84 DF4 E4F E5A-E5B AADE-AADF F04-F0A FD0-FD1 F0B F0D-F12 F85 FD2-FD4 FD9-FDA
    11A3F-11A46 11A9A-11A9C 11A9E-11AA2 11B00-11B09 11C70-11C71 1C3D-1C3F 104C-104F 17D8-17DA
    1AA0-1AA6 1AAC-1AAD 1CC0-1CC7 2D70 A874-A875 1BFC-1BFF A92E A9DE-A9DF AA5C 1056F 11049-1104D
    10A50-10A55 10A58 11C43-11C45 10B39 10AF0-10AF6 10B99-10B9C 110BB-110BC 11174-11175 111CD
    111C7 111DB 111DD 1123A-1123D 1144D 1145A 1144E-1144F 1145B 1145D 114C6 115C1 115C4-115D7
    11643 1183B 11945 119E2 11FFF 16B37-16B3B 16B44 16E99-16E9A 1DA87-1DA8B 10A7F 60 B4 2DC 5E AF
    2D8-2D9 A8 2DA 2DD B8 2DB 1FBD 1FFE 1FC0 309B-309C 2B9 375 2BA 2C2-2CF 2D2-2D5 AB6A-AB6B
    2D6-2D7 2DE-2DF 2E5-2ED 2EF-2FF 1390-1399 A700-A721 A788-A78A AB5B B0 482 58D-58E 608
    1EEF0-1EEF1 60E-60F 6DE 6E9 FDFD-FDFF FBB2-FBC2 FD40-FD4F FDCF 7F6 888 9FA B70 BF3-BF8 BFA
    11FD5-11FDC 11FE1-11FF1 C7F D4F D79 A828-A82B A836-A837 A839 F01-F03 F13 F15-F17 F1A-F1F
    F34:F38 FBE-FC5 FC7-FCC FCE-FCF FD5-FD8 166D 1940 109E-109F AA77-AA79 1173F 19E0-19FF
    1B61-1B6A 1B74-1B7C A9 1F12F AE 1F1AD 2104 2108 2114 2117-2118 211E-211F 2123:2129 212E 213A
    2141-2144 214A 214C 214F 218A-218B 2190 2192 2191 2193-2199 219C-21AD 21AF-21CC 21D0-2203
    2205-2208 220A-220B 220D 3F6 220E-2211 2B B1 F7 D7 3C-3E AC 7C A6 7E 2212 2052 2213-2215 2044
    2216-221B 606 221C 607 221D-2223 2225 2227-222B 222E 2231-2240 2242-2243 2245-2246 2248
    224A-225F 2261 2263-226C 2272-2273 2276-2277 227A-227F 2282-2283 2286-2287 228A-22AB 22B0-22BC
    214B 22BD-22DF 22E4-22E9 22EE-2307 230C-2328 232B-2426 2440-244A 2500-25FF 1FB00-1FB92
    1FB94-1FBCA 2600-262F 2638-266C 2670-2689 2690-26FF 1F1E6-1F1FF 2700-2720 2E50-2E51 2721-2767
    2794-27C4 27C7-27E5 27F0-27FF 2900-2982 2999-29D7 29DC-29FB 29FE-2A0B 2A0D-2A73 2A77-2ADB
    2ADD-2B73 2B76-2B95 2B97-2BFF 2CE5-2CEA 2800-28FF 268A-268F 2630-2637 4DC0-4DFF 1D300-1D356
    A490-A4C6 10137-1013F 10179-10189 1018C-1018E 10190-1019C 101A0 101D0-101FC 10877-10878
    16B3C-16B3F 16B45 1E14F 1D000-1D0F5 1D100-1D126 266D-266F 1D12A-1D139 1D129 1D13A-1D15D
    1D16A-1D16C 1D183-1D184 1D18C-1D1A9 1D1AE-1D1BA 1D1C1-1D1EA 1D200-1D241 1D245 1BC9C
    1CF50-1CFC3 1ECAC 1ED2E 1F000-1F02B 1F030-1F093 1F0A0-1F0AE 1F0B1-1F0BF 1F0C1-1F0CF
    1F0D1-1F0F5 1FA00-1FA53 1FA60-1FA6D 1F10D-1F10F 1F16D-1F16F 1F260-1F265 1F300-1F5FF
    1F900-1F9FF 1FA70-1FA7C 1FA80-1FA88 1FA90-1FABD 1FABF-1FAC5 1FACE-1FADB 1FAE0-1FAE8
    1FAF0-1FAF8 1F600-1F6D7 1F6DC-1F6EC 1F6F0-1F6FC 1F700-1F776 1F77B-1F7D9 1F7E0-1F7EB 1F7F0
    1F800-1F80B 1F810-1F847 1F850-1F859 1F860-1F887 1F890-1F8AD 1F8B0-1F8B1 1D800-1D9FF
    1DA37-1DA3A 1DA6D-1DA74 1DA76-1DA83 1DA85-1DA86 2FF0-2FFB 31C0-31E3 3004 3012-3013 3020 3037
    303E-303F 3190-3191 327F FFFC 2D0-2D1 971 E46 EC6 17D7 1AA7 A9CF A9E6 AA70 AADD AAF3-AAF4
    16B42-16B43 1E13C-1E13D 3005 303B 16FE0-16FE1 16FE3 3031:3035 309D 30FC-30FD A4 A2 24 A3 A5
    58F 60B 7FE-7FF 9F2-9F3 9FB AF1 A838 BF9 11FDD-11FE0 E3F 17DB FDFC 1E2FF 20A0-20B9 1ECB0
    20BA-20C0 9F4-9F9 B72-B77 A830-A835 BF0-BF2 11FC0-11FD4 D58-D5E D70-D78 1372-137C 2180-2182
    2186-2188 10E69-10E7E 2CFD 10322-10323 10CFC-10CFF 10110-10133 10140-10141 10144-10147
    10149-1014E 10150-10157 10160-10172 10174-10178 1018B 102EA-102FB 103D3-103D5 1087E-1087F
    108AD-108AF 108FD-108FF 10A7E 10A9E-10A9F 10917-10919 1085B-1085F 10AED-10AEF 10B5C-10B5F
    10B7C-10B7F 10BAD-10BAF 10F22-10F26 10F52-10F54 10FC9-10FCB 1173A-1173B 1105B-11065
    10A44-10A48 11C63-11C6C 111EA-111F4 118EA-118F2 16B5B-16B61 16E8A-16E93 1D2EA-1D2F3
    1EC7A-1ECA2 1ECAD-1ECAF 1ECB3-1ECB4 1ED0A-1ED2D 1ED37-1ED3D 109C9-109CF 109D2-109F5 109BD
    109F6-109FF 109BC 12432-12433 1245A-12468 1D369-1D371 30-39 61 1D00 2C65 1D8F A7BB 1D01-1D02
    AB31 250-251 AB30 1D90 252 AB64 62 299 180 1D2F 1D03 1D6C A797 1D80 253 183 A7B5 63 1D04 23C
    A793-A794 188 255 2184 A73F 64 1D05-1D06 A7C8 1D6D 1D81 256-257 1D91 18C 221 A771 1E9F 65 1D07
    AB32-AB33 247 1D92 AB34 2C78 1DD 2C7B 259 1D95 25B 1D93 258:25C 1D94 1D08 25D-25E 29A 264 66
    A730 AB35 A799 1D6E 1D82 192 214E A7FB 67 261 AB36 262 1E5 1D83 260 29B 1D77 A77F 263 1A3 68
    29C 195 A795 266 2C68 2C76 A7F6 A727 267 2BB 2BD 69 131 26A A7FE A7F7 1D09 268 1D7B 1D96 A7BD
    269 1D7C 6A 237 1D0A 249 29D 25F 284 6B 1D0B 1D84 199 2C6A A741:A745 29E 6C 29F A747 1D0C A749
    19A 2C61 26B AB38-AB39 26C AB37 1D85 26D A78E 234 A772 26E A781 19B 28E 6D 1D0D 1D6F 1D86 271
    AB3A A7FD A7FF A773 6E 274 1D3B 1D0E 1D70 272 19E A791 1D87 273 235 AB3B A774 14B AB3C 6F 1D0F
    1D11 AB3D 276 1D14 AB41-AB42 AB40 AB43-AB44 1D13 AB3E 254 1D10 1D12 AB3F 1D97 AB62 A74D
    1D16-1D17 2C7A 275 A74B 277 A7B7 223 1D15 70 1D18 1D7D A751 1D71 1D88 1A5 A753 A755 A7FC 278
    2C77 71 A7AF A757 A759 2A0 24B 138 72 AB45 280 AB46 A75B 1D19 24D 1D72 279 1D1A 27A 1D89 27B
    2C79 27C-27D AB49 27E 1D73 27F AB47-AB48 AB4A-AB4C 281 AB68 A775-A776 A75D 73 A731 A7CA
    A7D1:A7D9 1D74 1D8A 282 23F 1E9C-1E9D 283 AB4D 1D8B 1AA 285 1D98 286 74 1D1B 167 2C66 1D75 1AB
    1AD 288 236 A777 287 75 1D1C AB4E 1D1D-1D1E 1D6B AB50-AB51 289 AB4F A7B9 1D7E 1D99 AB52 A7BF
    A7C1 265 2AE-2AF 26F A7FA 1D1F 270 28A 1D7F 76 1D20 A75F 1D8C 28B 2C71 2C74 1EFD 28C 77 1D21
    A7C3 2C73 28D 78 1D8D AB56-AB59 AB53-AB55 79 28F 24F 1B4 1EFF AB5A 21D 7A 1D22 1B6 1D76 1D8E
    225 290-291 240 2C6C A763 292 1D23 1B9 1D9A 1BA 293 FE A765 A767 1BF A769 AB60-AB61 AB63
    A76B:A76F A778 1BB A72B:A72F 1A8 1BD 185 294 242 2C0 2BC 2EE 2BE A723 A78C A78F 295 2BF 2C1
    1D24-1D25 A725 2A1-2A2 296 1C0-1C3 297-298 2AC-2AD 3B1-3B3 1D26 3B4-3B5 3DD 377 3DB 3B6 371
    3B7-3B9 3F3 3BA-3BB 1D27 3BC-3C0 1D28 3FB 3DF 3D9 3C1 1D29 3FC 3C3 37C 37B 37D 3C4-3C8 1D2A
    3C9 AB65 3E1 373 3F8 2C81:2C89 2CB7 2C8B:2C95 2CB9 2C97:2C9B 2CBB 2CBD 2C9D:2CB1 2CBF 2CC1 3E3
    2CEC 2CC3:2CC7 3E5 3E7 2CF3 2CC9 3E9 2CCB:2CD5 3EB 2CEE 2CD7 3ED 2CD9:2CDD 3EF 2CB3 2CB5
    2CDF:2CE3 430 4D9 4D5 431-433 493 4FB 495 4F7 434 501 A681 452 A663 503 499 435 454 436 52B
    A685 497 437 A641 505 511 A643 455 A645 4E1 A689 507 A683 438 48B 456 A647 439 458 A649 43A
    49B 4C4 4A1 49F 49D 51F 51B 43B 1D2B 4C6 52F 513 521 459 A665 509 515 43C 4CE A667 43D 529 4CA
    4A3 4C8 523 4A5 45A 50B 43E 4E9 43F 525 4A7 481 440 48F 517 441 50D 4AB 442 A68D 50F 4AD A68B
    45B 443 4AF 4B1 A64B 479 444-445 4FD 4FF 4B3 4BB 527 A695 461 47F A64D 47D 47B 446 A661 A68F
    4B5 A691 447 52D A693 4B7 4CC 4B9 A687 4BD 4BF 45F 448 A697 449 A64F 2E2F A67F 44A A651
    44B-44C 48D 463 A653 44D-44E A655 A657 44F 519 465 467 A659 46B A65B 469 A65D 46D:475 A65F 4A9
    51D 4CF 2C30-2C5F 10350-10375 10D0 2D00 10D1 2D01 10D2 2D02 10D3 2D03 10D4 2D04 10D5 2D05 10D6
    2D06 10F1 2D21 10D7 2D07 10D8 2D08 10D9 2D09 10DA 2D0A 10DB 2D0B 10DC 2D0C 10F2 2D22 10DD 2D0D
    10DE 2D0E 10DF 2D0F 10E0 2D10 10E1 2D11 10E2 2D12 10F3 2D23 10E3 2D13 10E4 2D14 10E5 2D15 10E6
    2D16 10E7 2D17 10E8 2D18 10E9 2D19 10EA 2D1A 10EB 2D1B 10EC 2D1C 10ED 2D1D 10EE 2D1E 10F4 2D24
    10EF 2D1F 10F0 2D20 10F5 2D25 10F6-10F7 2D27 10F8-10FA 10FD 2D2D 10FE-10FF 561 560 562-575 588
    576-586 559 5D0-5D9 5DB-5DC 5DE 5E0-5E2 5E4 5E6-5EA 10900-10915 800-817 81A-81B 621-623 672
    671 624-625 673 773-774 626 8A8-8A9 8AC 627 66E 628 67B 67E 680 750-755 8A0 756 8BE 8A1
    8B6-8B7 629-62B 679-67A 67C-67D 67F 8B8 8BF-8C0 62C 683-684 686 6BF 687 8A2 8C1 8C5-8C6
    62D-62E 681-682 685 757-758 76E-76F 772 77C 62F-630 688-68D 8AE 68E-690 6EE 759-75A 631-632
    691-699 6EF 75B 76B-76C 771 8AA 8B2 8B9 633-634 69A-69C 6FA 75C 76D 770 77D-77E 635-636 69D
    8AF 69E 6FB 637-638 69F 8A3 639-63A 6A0 8C3 6FC 75D-75F 8B3 641 6A1-6A2 8BB 6A3-6A4 8A4
    6A5-6A6 760-761 66F 642 6A7 8BC 6A8 8C4 8A5 643 6A9-6AC 77F 6AD-6AE 8B4-8B5 6AF 8B0 6B0-6B4
    762 63B-63C 763-764 8C2 644 6B5-6B8 76A 8A6 8C7-8C9 645 765-766 8A7 646 6BA 8BD 6BB-6BD 6B9
    767-769 647 6BE 6C1 6C3 6FF 6D5 648 6C4-6CB 8B1 6CF 778-779 8AB 649-64A 6CC-6CE 6D0-6D1
    63D-63F 620 775-777 8BA 6D2 77A-77B 710 712-713 716 715 717-719 74D 71A-71B 71D-71F 74E
    720-723 725-726 74F 728-72C 860-86A 870-887 889-88E 840-858 780 799-79A 781-783 79C 784-787
    7A2-7A3 788 7A5 789-78B 79B 78C 798 7A0-7A1 78D-78E 7A4 78F-790 79D-79F 791-797 7B1 7A6-7B0
    7CA-7E7 7F4-7F5 2D30-2D3B 2D66 2D3C-2D53 2D67 2D54-2D65 2D6F 1200-120F 2D80 1210-121F
    1380-1383 2D81 1220-122F 2D82 1230-1237 2D83 AB01-AB06 1238-123F 2D84 1240-1248 124A-124D
    1250-1256 1258 125A-125D 1260-1267 1384-1387 2D85 1268-1277 2D86 1278-127F 2D87 1280-1288
    128A-128D 1290-1297 2D88 1298-129F 2D89 12A0-12A7 2D8A 12A8-12B0 12B2-12B5 12B8-12BE 12C0
    12C2-12C5 12C8-12D6 12D8-12DF 2D8B AB11-AB16 12E0-12F7 2D8C AB09-AB0E 12F8-12FF 2D8D 1300-1307
    2D8E 1308-1310 1312-1315 1318-131F 2D93-2D96 1320-1327 2D8F 1328-132F 2D90 AB20-AB26 1330-1337
    2D91 1338-133F AB28-AB2E 1340-134F 1388-138B 1350-1357 138C-138F 2D92 1358-135A 2DA0-2DA6
    2DA8-2DAE 2DB0-2DB6 2DB8-2DBE 2DC0-2DC6 2DC8-2DCE 2DD0-2DD6 2DD8-2DDE 950 A8FD 972 904-906
    973-977 907-90B 960 90C 961 90D-910 A8FE 911-917 97B 918-91C 979 97C 91D-920 978 921 97E
    922-928 92A-92C 97F 92D-92F 97A 930 932-933 935-939 93D 97D 1CE9 1CF5-1CF6 A8F2 A8FB 93E
    93A-93B 94F 956-957 93F-944 962-963 945 955 946-947 94E 948 A8FF 949-94D 980 985-98B 9E0 98C
    9E1 98F-990 993-9A8 9AA-9B0 9F0 9B2 9F1 9B6-9B9 9BD-9C4 9E2-9E3 9C7-9C8 9CB-9CD 9D7 9FC A74
    A73 A09-A0A A13 A05-A06 A10 A14 A72 A07-A08 A0F A38-A39 A51 A15-A28 A2A-A2F A75 A30 A32 A35
    A5C A3E-A42 A47-A48 A4B-A4D AD0 A85-A8B AE0 A8C AE1 A8D A8F-A91 A93-A9C AF9 A9D-AA8 AAA-AB0
    AB2 AB5-AB9 AB3 ABD-AC4 AE2-AE3 AC5 AC7-AC9 ACB-ACD B05-B0B B60 B0C B61 B0F-B10 B13-B28
    B2A-B2F B5F B30 B32-B33 B35 B71 B36-B39 B3D-B44 B62-B63 B47-B48 B4B-B4D B56-B57 BD0 B85-B8A
    B8E-B90 B92-B94 B83 B95 B99-B9A B9E-B9F BA3-BA4 BA8 BAA BAE-BB0 BB2 BB5 BB4 BB3 BB1 BA9 B9C
    BB6-BB9 BBE-BC2 BC6-BC8 BCA-BCD BD7 C05-C0B C60 C0C C61 C0E-C10 C12-C1A C58 C1B-C1C C59
    C1D-C28 C2A-C32 C35-C39 C33-C34 C5A C5D C3D-C44 C62-C63 C46-C48 C4A-C4D C55-C56 C85-C8B CE0
    C8C CE1 C8E-C90 C92-CA8 CAA-CB2 CB5-CB9 CB3 CDE CBD CF1-CF3 C80 CBE-CC4 CE2-CE3 CC6-CC8
    CCA-CCD CD5-CD6 CDD D05-D08 D5F D09-D0B D60 D0C D61 D0E-D10 D12-D30 D32 D35-D39 D33-D34 D31
    D3A D3D D04 D3E-D44 D62-D63 D46-D48 D4A-D4C D57 D4D D85-D96 D9A-DB1 DB3-DBB DBD DC0-DC6
    DCF-DD4 DD6 DD8 DF2 DDF DF3 DD9-DDE DCA AAF2 ABC0-ABDA AAE0-AAEA ABE3-ABEA AAEB-AAEF AAF5
    ABDB-ABE2 ABED AAF6 A800-A806 A82C A807-A80A A80C-A827 A882-A8C4 11083-11099 1109B 1109D-110AA
    110AC-110B9 110C2 11150-1116F 11176 11170-11172 111C4 111DA 11183-111B2 111C1-111C3 111DC
    111B3-111BC 111CE 111BD-111C0 11200-11211 11213-11233 11235 1123F-11241 112B0-112DE
    112E0-112E8 112EA 11280-11283 112A5-112A6 11284-11286 11288 1128A-1128D 1128F-1129D
    1129F-112A4 112A7-112A8 11350 11305-1130B 11360 1130C 11361 1130F-11310 11313-11328
    1132A-11330 11332-11333 11335-11339 1133D 1135E-1135F 1133E-11344 11362-11363 11347-11348
    1134B-1134D 11357 1135D 11449-1144A 11400-11434 11447 11460-11461 11448 1145F 11435-11442
    114C7 11480-114AF 114C4-114C5 114B0-114BE 114C2 11580-115B5 115B8-115BB 115BF 11600-1163C
    1163F 11644 11680-11689 116A8 116A7 116A9 1168A-1168B 116B8 1168C-116A6 116AA 116AD-116B6
    11900-11906 11909 1190C-11910 1193F 11911-11913 11915-11916 11918-11925 11940 11926 11941
    11927 11942 11928-11935 11937-11938 1193D-1193E 119A0-119A7 119AA-119D0 119E1 119E3
    119D1-119D7 119DA 119E4 119DB-119DD 119E0 11800-11836 11839 11700-11704 11706-11715
    11717-11719 11720-1172B 11740-11746 1171D-1171F 11D00-11D06 11D08-11D09 11D0B-11D36 11D3A
    11D3C-11D3D 11D3F 11D44-11D45 11D98 11D60-11D65 11D67-11D68 11D6A-11D8E 11D90-11D91
    11D93-11D94 11D97 1B83-1B8A 1BAE 1B8B-1B98 1BBD 1B99 1BAC 1B9A 1BA1 1B9B 1BA2 1BBB 1B9C 1BA3
    1BBC 1B9D 1BAD 1B9E-1B9F 1BAF 1BA0 1BA4-1BAB 11005-11033 11003-11004 11034-11046 11071-11075
    1107F 10A00-10A03 10A05-10A06 10A0C 10A10 10A32 10A11-10A13 10A15-10A17 10A19-10A1A 10A34
    10A1B 10A33 10A1C-10A2C 10A35 10A2D-10A31 10A3F 11C00-11C08 11C0A-11C2E 11C40 11C2F-11C36
    11C38-11C3B 11C3F E01-E3A E40-E45 EDE E81-E82 E84 E86-E89 EAA E8A:E8E EDF E8D E8F-EA3 EA5
    EA7-EA9 EAB-EBD EC0-EC4 ECE AA80-AABE AAC0 AAC2 AADB-AADC F40 F90 F6B F41 F91 F42 F92 F44 F94
    F45 F95 F46 F96 F47 F97 F49 F99 F4A F9A F4B F9B F4C F9C F4E F9E F4F F9F F50 FA0 F51 FA1 F53
    FA3 F54 FA4 F55 FA5 F56 FA6 F58 FA8 F59 FA9 F5A FAA F5B FAB F5D FAD F5E FAE F5F FAF F60 FB0
    F61 FB1 F62 FB2 F6C F63 FB3 F64 FB4 F65 FB5 F66 FB6 F67 FB7 F68 FB8 F88 F8D F89 F8E F8C F8F
    F8A-F8B F71-F73 F80-F81 F74-F7D F84 11A0B 11A32 11A0C-11A31 11A00-11A0A 11A34 11A47
    11A50-11A53 11A59-11A5A 11A54 11A56 11A55 11A57-11A58 11A5B-11A5C 11A83 11A5D-11A82
    11A84-11A85 11A99 11A9D 11AB0-11ABF 11C72 11C92 11C73 11C93 11C74 11C94 11C75 11C95 11C76
    11C96 11C77 11C97 11C78 11C98 11C79 11C99 11C7A 11C9A 11C7B 11C9B 11C7C 11C9C 11C7D 11C9D
    11C7E 11C9E 11C7F 11C9F 11C80 11CA0 11C81 11CA1 11C82 11CA2 11C83 11CA3 11C84 11CA4 11C85
    11CA5 11C86 11CA6 11C87 11CA7 11C88-11C89 11CA9 11C8A 11CAA 11C8B 11CAB 11C8C 11CAC 11C8D
    11CAD 11C8E 11CAE 11C8F 11CAF-11CB4 1C00-1C09 1C4D-1C4F 1C0A-1C1A 1C24 1C1B 1C25 1C1C-1C23
    1C36 1C26-1C35 A840-A847 A869-A86C A848-A853 A867 A854-A857 A868 A86D A858 A871-A872 A859-A85A
    A86E A85B-A85C A86F-A870 A85D A862-A865 A85E-A861 A866 A873 1900-191C 1920-192B 1930-1938
    1700-1715 171F-1734 1740-1753 1760-176C 176E-1770 1772-1773 1A00-1A1B 11EE0-11EF6 11F00-11F10
    11F12-11F3A 11F3E-11F41 1BC0 1BC2 1BC5:1BCB 1BCE 1BD0-1BD2 1BD4:1BD8 1BDB 1BDD-1BDE 1BE0-1BE5
    1BE7 1BE9-1BEA 1BEC:1BF0 1BF1-1BF3 A930-A953 A90A-A92A 1000 1075 1001 1076 1002 1077 AA60 A9E9
    1003 A9E0 A9EA 1004 105A 1005 1078 AA61 1006 A9E1 AA62 AA7E 1007 AA63 A9EB 1079 AA72 1008 105B
    A9E2 AA64 A9EC 1061 AA7F 1009 107A AA65 A9E7 100A-100B AA66 100C AA67 100D AA68 A9ED 100E AA69
    A9EE 100F 106E A9E3 A9EF 1010-1012 107B A9FB 1013 AA6A A9FC 1014 107C AA6B 105E 1015-1016
    107D-107E AA6F 108E A9E8 1017 107F A9FD 1018 A9E4 A9FE 1019 105F 101A 103B 101B AA73 AA7A 103C
    101C 1060 101D 103D 1082 1080 1050-1051 1065 101E AA6C 101F 1081 AA6D 103E AA6E AA71 1020 A9FA
    105C-105D 106F-1070 1066 1021-1026 1052-1055 1027-102A 102C 1083 1072 109C 102D 1071 102E 1033
    102F 1073-1074 1030 1056-1059 1031 1084 1035 1085 1032 109D 1034 1062 1067-1068 A9E5 1086
    1039-103A 1063-1064 1069-106D 1087 108B 1088 108C-108D 1089-108A 108F 109A-109B AA7B-AA7D
    AA74-AA76 10D00 10D1D-10D21 10D01-10D1C 10D22-10D23 11103-11123 11147 11124-11126 11144
    11127-11132 11145-11146 11133-11134 1780-17A2 17DC 180F 17A3-17B3 17B6-17C5 17D2 1950-196D
    1970-1974 1980-19AB 19B0-19C9 1A20-1A4C 1A53 1A6B 1A55-1A57 1A5C-1A5E 1A4D-1A52 1A61 1A6C
    1A62-1A63 1A65-1A6A 1A6E-1A6F 1A73 1A70-1A72 1A6D 1A60 AA00-AA28 AA33-AA36 AA29-AA32 AA40-AA4D
    1B05-1B13 1B45-1B46 1B14-1B22 1B47 1B23-1B27 1B48 1B28-1B2F 1B49 1B30-1B32 1B4A-1B4C 1B33
    1B35-1B44 A984-A9AA A9BE A9AB A9BF A9AD-A9B2 A9B4 A9BC A9B6-A9B9 A9BD A9BA-A9BB A9C0 1880-1886
    1843 1820 1887 1821 1844 185D 1822 1845 185E 1873 1888 185F 1823 1846 1824 1847 1861 1825 1848
    1826 1849 1860 1827-1829 184A 1862 188A 189B 182A 184B 182B 184C 1866 182C 184D 182D 184E 1864
    189A 1865 182E 184F 182F-1831 1867 189C-189D 18A2 18A4-18A5 1832 1850 1868 1833 1851 1869 1834
    1852 1871 1878 185C 188B 1835 1853 186A 1877 1836 1855 1872 1837 1875 1838 1856 1839 186B 1876
    183A 1857 1863 1874 1889 183B-183C 1854 186E 183D 186F 1858 186C 183E 1859 186D 183F-1842
    185A-185B 1870 188C 189E 188D-188E 189F 188F-1890 1898 18A0 1891 18A1 1892-1893 18A8 1894 18A3
    1895 1899 1896-1897 18A6-18A7 18AA 18A9 1C5A-1C7D AB70-ABBF 13F8-13FD 104D8-104FB 1401-157B
    157D 166F 157E-158D 1670 158E-1595 1671-1676 1596-15A6 157C 15A7-166C 1677-167F 18B0-18F5
    1681-169A 16A0 16A2 16A6 16A8 16F4 16AF-16B2 16F1 16B7 16B9-16BA 16BE 16C1 16F5 16C3:16C7
    16C8-16CA 16F2 16CF 16D2 16D6 16F6 16D7 16DA:16DE 16DF 16F3 16AA 16F7 16AB 16F8 16A3 16E0 16E3
    16B8 16E4 16E1-16E2 16E5-16E6 10CC0 10CC2-10CC9 10CCC-10CD0 10CD2-10CDB 10CDD 10CE0-10CE2
    10CE4-10CEA 10CEC 10CEE-10CF2 10C00 10C02-10C03 10C05-10C07 10C09:10C13 10C14:10C20
    10C21-10C24 10C26:10C2C 10C2D 10C2F-10C32 10C34:10C3C 10C3D-10C3F 10C41:10C47 10C48 A500-A60C
    A6A0-A6EF 16800-16A38 16AD0-16AED 1E800-1E8C4 16E60-16E7F 1E922-1E943 1E94B 1100-115E
    A960-A97C 115F-11A7 D7B0-D7C6 11A8-11FF D7CB-D7FB 3042:3046 1B000 3048 304A-304B 304D:3061
    3064:306A 306B-306F 3072 3075 3078 307B 307E-3082 3084:3088 3089-308D 308F-3093 1B002-1B00E
    1B001 1B00F-1B122 1B132 1B155 3105-3107 31AC 3108 312A 3109-310B 312F 310C-310E 312B 31AD
    310F-3112 312C 31BC-31BD 3113-3119 31B8-31BA 311A-311B 31A6 311C-311D 31A4 311E-3124 31B2 3125
    31B0-31B1 3126-3129 312D 31BE-31BF A000-A48C A4F8-A4FB A4FD A4FC A4D0-A4E9 A4EB A4ED A4EA A4EC
    11FB0 A4EE-A4F7 16F00-16F03 16F45 16F04-16F05 16F07-16F0D 16F48 16F0E-16F0F 16F4A 16F10-16F12
    16F14-16F24 16F26-16F32 16F47 16F33 16F46 16F34-16F39 16F49 16F3A-16F3E 16F40-16F44
    16F50-16F53 16F4F 16F54-16F58 16F81 16F59-16F5C 16F83 16F5D-16F60 16F84 16F61-16F65 16F86
    16F66-16F6D 16F7F 16F87 16F6E-16F72 16F80 16F73-16F74 16F85 16F82 16F75-16F7E 16F8F-16F9F
    1AFF0-1AFF3 1AFF5-1AFFB 1AFFD-1AFFE 118FF 118C0-118DF 11AD5-11ADB 11AC0-11AD4 11ADC-11ADD
    11ADF-11AE3 11ADE 11AE4 11AEF 11AF2 11AF1 11AE6 11AE9 11AE5 11AE8 11AF4 11AF7 11AF3 11AF6
    11AEC 11AEE 11AEB 11AED 11AF5 11AF8 11AE7 11AEA 11AF0 16B00-16B2F 16B40-16B41 16B63-16B77
    16B7D-16B8F 1E100-1E12C 1E137-1E13B 1E14E 1E290-1E2AD 1E2C0-1E2EB 1E4D0-1E4EB 1E7E0-1E7E6
    1E7E8-1E7EB 1E7ED-1E7EE 1E7F0-1E7FE 10280-1029C 102A0-102D0 10920-10939 10300-1030E 1031F
    1030F-1031E 1032D-1034A 10428-1047F 1BC00-1BC6A 1BC70-1BC7C 1BC80-1BC88 1BC90-1BC99
    1CF00-1CF2D 1CF30-1CF46 1D2C0-1D2D3 1DF00-1DF1E 1DF25-1DF2A 10480-1049D 10500-10527
    10530-10563 10597-105A1 105A3-105B1 105B3-105B9 105BB-105BC 110D0-110E8 16A40-16A5E
    16A70-16ABE 10000-1000B 1000D-10026 10028-1003A 1003C-1003D 1003F-1004D 10050-1005D
    10080-100FA 10600-10736 10740-10755 10760-10767 10780 10800-10805 10808 1080A-10835
    10837-10838 1083C 1083F 10A60-10A7C 10A80-10A9C 10B00-10B2D 10B2F-10B35 10860-1086C
    1086E-10876 10881 10883-10885 10887-1088B 1088D:10895 10896-1089B 1089D-1089E 108E0-108F2
    108F4-108F5 10840-10855 10B40-10B55 10B60-10B72 10B80-10B91 10FE0-10FF5 10AC0-10AC7
    10AC9-10AE4 10F00:10F04 10F05 10F07-10F0E 10F11-10F12 10F14-10F15 10F18-10F1A 10F30-10F44
    10F70-10F81 10E80-10EA0 10EB0 10EA1-10EA8 10EB1 10EA9 10FB0-10FC4 10380-1039D 103A0-103C3
    103C8-103CF 12000-12262 122D4-122D5 12263-122D3 122D6-12399 12480-12543 12F90-12FF0
    13000-1342F 13440-13455 109A0-109AF 109B1-109B7 109BE-109BF 1099E-1099F 14400-14646"

/-- The marks in their order; those without a comma between them have one place. The last are the
marks of variants, which are no characters. -/
def marks : List (List Row) :=
  ("
    332, 313 343 486 2CF1, 314 485 2CF0, 301 341 954, 300 340 953, 306, 302, 30C, 30A, 342, 308,
    30B, 303, 307, 338, 327, 328, 304, 30D-30E 312 315 31A 33D-33F 346 34A-34C 350-352 357 35B
    35D-35E 484 487 741 745 B55 17CB-17D1 17DD 1AB0-1AB4 1ABB-1ABC 1DC0-1DC1 1DC3-1DC9 1DCB-1DCE
    1DD1 1DF5-1DF8 1DFB 1DFE 20F0 2CEF A67C-A67D 10AE5 10D24-10D27 10F48-10F4A 10F4C 1BC9D,
    316-319 31C-320 329-32C 32F 333 33A-33C 347-349 34D-34E 353-356 359-35A 35C 35F 362 742 746
    7FD 859-85B 1AB5-1ABA 1ABD 1DC2 1DCF-1DD0 1DF9 1DFC-1DFD 1DFF 20EC-20EF FE27 10A0D 10AE6
    10F46-10F47 10F4B 10F4D-10F50, 336-337 20D8-20DA 20E5 20EA-20EB 1BC9E, 1ABE 20DD-20E0
    20E2-20E4, 3099, 309A, 335, 305, 309, 30F, 310, 311, 31B, 321, 322, 323, 324, 325, 326, 32D,
    32E, 330, 331, 334, 339, 345, 358, 360 FE22 FE29, 361 FE20, 483 FE2E, A66F, 5B0, 5B1, 5B2,
    5B3, 5B4, 5B5, 5B6, 5B7, 5B8 5C7, 5B9-5BA, 5BB, 5C2, 5C1, 5BC, 5BF, FB1E, 81C-81D, 81E-820,
    821-823, 824-825, 826-827, 828-82A, 82B, 82C, 818, 819, 82D, 64B, 8F0, 8E7, 64C, 8F1, 8E8,
    64D, 8F2, 8E9, 64E, 8E4, 8F4, 8F5, 64F, 8E5, 8FE, 650, 8E6, 8F6, 651 AFB 11237, 652 AFA 1123E,
    653 AFC 10EAC, 654 10EAB, 655, 65F, 656, 657, 658, 8FF, 659, 65A, 65B, 65C, 65D, 65E, 8E3,
    8F7, 8F8, 8FD, 8FB, 8FC, 8F9, 8FA, 670, 711, 730, 731, 732, 733, 734, 735, 736, 737, 738, 739,
    73A, 73B, 73C, 73D, 73E, 73F, 7EB, 7EC, 7ED, 7EE, 7EF, 7F0, 7F1, 7F2, 7F3, 135F, 135E, 135D,
    A6F0, A6F1, 16AF0, 16AF1, 16AF2, 16AF3, 16AF4, 1E944-1E946, 1E94A, 1E947, 1E948, 1E949, 93C
    9BC A3C ABC AFD-AFF B3C CBC 1B34 1BE6 1C37 A9B3 110BA 11173 111CA 11236 112E9 1133B-1133C
    11446 114C3 115C0 116B7 1183A 11943 11A33 11D42, 900-901 981 A01 A81 B01 C00-C01 C81 D01 D81
    1B00-1B01 A8C5 A980 11000 11080 11100 11180 111CF 11301 11443 114BF 115BC 11640 1193C
    11A35-11A37 11C3C 11CB6 11D43, 902 982 A02 A82 B02 B82 C02 C04 C82 D00 D02 D82 F7E 1036 17C6
    1A74 1B02 1B80 1CED A80B A880 A981 10A0E 11001 11081 11101 11181 11234 112DF 11300 11302 11444
    114C0 115BD 1163D 116AB 11837 1193B 119DE 11A38 11A96 11C3D 11CB5 11D40 11D95, 903 983 A03 A83
    B03 C03 C83 D03 D83 F7F 1038 17C7 1B04 1B82 1CF2-1CF3 A881 A983 10A0F 11002 11082 11102 11182
    11303 11445 114C1 115BE 1163E 116AC 11838 119DF 11A39 11A97 11C3E 11D41 11D96, 9FE 111C9
    1145E, A70, A71, 1B03, A982, 1B81, ABEC, 10A38, 10A39, 10A3A, 111CB, 111CC, 11A98, E4E, E47,
    E48, E49, E4A, E4B, E4C, E4D, EC8, EC9, ECA, ECB, ECC, ECD, AABF, AAC1, F39, A92B, A92C, A92D,
    1037, 17C8, 17C9, 17CA, 1A75, 1A76, 1A77, 1A78, 1A79, 1A7A, 1A7B, 1A7C, 1939, 193A, 193B,
    16B30 1E131, 16B31 1E136, 16B32 1E132, 16B33 1E133, 16B34 1E130, 16B35 1E134, 16B36 1E135,
    1E2EC, 1E2ED, 1E2EE, 1E2EF, 302A, 302B, 302C, 302D, 302E, 302F, 16FF0, 16FF1, 20D0, 20D1,
    20D2-20D3, 20D4, 20D5, 20D6, 20D7, 20DB, 20DC, 20E1, 20E6, 20E7, 20E8, 20E9, 898-89F 8CA-8D2
    C3C 1AC1-1ACE 1DFA 101FD 10EFD-10EFF 10F82-10F85 11070 11F42 1E08F 1E2AE 1E4EC-1E4EF, 110001,
    110002, 110003, 110004, 110005".splitOn ",").map rows

def ignored : List Row :=
  rows "
    0-8 E-1F 7F-84 86-9F AD 34F 488-489 591-5AF 5BD 5C4-5C5 600-605 610-61A 61C 640 6D6-6DD
    6DF-6E4 6E7-6E8 6EA-6ED 70F 740 743-744 747-74A 7FA 890-891 8D3-8E2 8EA-8EF 8F3 951-952
    F18-F19 F35 F37 F3E-F3F F82-F83 F86-F87 FC6 17B4-17B5 17D3 180A-180E 1A7F 1B6B-1B73 1CD0-1CE8
    1CF4 1CF7-1CF9 200B-200F 202A-202E 2060-2064 2066-206F 2D7F A670-A672 A8E0-A8F1 FE00-FE0F FE21
    FE23-FE26 FE28 FE2A-FE2D FE2F FE73 FEFF FFF9-FFFB 102E0 110BD 110CD 11366-1136C 11370-11374
    13430-1343F 16FE4 1BCA0-1BCA3 1D165-1D169 1D16D-1D182 1D185-1D18B 1D1AA-1D1AD 1D242-1D244
    1DA00-1DA36 1DA3B-1DA6C 1DA75 1DA84 1DA9B-1DA9F 1DAA1-1DAAF 1E8D0-1E8D6 E0001 E0020-E007F
    E0100-E01EF"

end Collation
end BlobTree
