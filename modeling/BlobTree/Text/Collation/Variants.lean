import BlobTree.Text.CharTable

/-!
# BlobTree.Text.Collation.Variants

Characters that stand for others in the alphabetical order, beyond those that are made of them:
digits of all scripts, ligatures, letters with strokes and the like, one table for each kind. The
numbers from 110001 on are the marks of variants.
-/

namespace BlobTree
namespace Collation
namespace Variants

open CharTable (Row rows)

/-- Characters that count as others do. -/
def same : List Row :=
  rows "
    D8=4F.338 F8=6F.338 110=44.335 111=64.335 126=48.335 127=68.335 13F=4C.110001 140=6C.110001
    141=4C.335 142=6C.335 1FE=4F.338.301 1FF=6F.338.301 384=B4 660-669=30 6F0-6F9=30 7C0-7C9=30
    966-96F=30 9E6-9EF=30 A66-A6F=30 AE6-AEF=30 B66-B6F=30 BE6-BEF=30 C66-C6F=30 C78-C7B=30
    C7C-C7E=31 CE6-CEF=30 D66-D6F=30 DE6-DEF=30 E50-E59=30 ED0-ED9=30 F20-F29=30 1040-1049=30
    1090-1099=30 1369-1371=31 17E0-17E9=30 17F0-17F9=30 1810-1819=30 1946-194F=30 19D0-19D9=30
    19DA=31 1A80-1A89=30 1A90-1A99=30 1B50-1B59=30 1BB0-1BB9=30 1C40-1C49=30 1C50-1C59=30
    1FBF=1FBD 1FCD=1FBD.300 1FCE=1FBD.301 1FCF=1FBD.342 210F=68.335 2185=36 3007=30 3008-3009=2329
    3021-3029=31 3032=3031.3099 3034=3033.3099 A620-A629=30 A8D0-A8D9=30 A900-A909=30 A9D0-A9D9=30
    A9F0-A9F9=30 AA50-AA59=30 ABF0-ABF9=30 10107-1010F=31 10142=31 10143=35 10148=35 1014F=35
    10158=31 10159=31 1015A-1015B=31 1015C=32 1015D=32 1015E=32 1015F=35 10173=35 1018A=30
    102E1-102E9=31 10320=31 10321=35 103D1-103D2=31 104A0-104A9=30 10858-1085A=31 10879-1087D=31
    108A7-108AA=31 108AB-108AC=34 108FB=31 108FC=35 10916=31 1091A-1091B=32 109C0-109C8=31
    10A40-10A43=31 10A7D=31 10A9D=31 10AEB=31 10AEC=35 10B58-10B5B=31 10B78-10B7B=31
    10BA9-10BAC=31 10CFA=31 10CFB=35 10D30-10D39=30 10E60-10E68=31 10F1D-10F21=31 10F51=31
    10FC5-10FC8=31 11052-1105A=31 11066-1106F=30 110F0-110F9=30 11136-1113F=30 111D0-111D9=30
    111E1-111E9=31 112F0-112F9=30 11450-11459=30 114D0-114D9=30 11650-11659=30 116C0-116C9=30
    11730-11739=30 118E0-118E9=30 11950-11959=30 11C50-11C59=30 11C5A-11C62=31 11D50-11D59=30
    11DA0-11DA9=30 11F50-11F59=30 12400-12407=32 12408-1240E=33 1240F-12414=34 12415-1241D=31
    1241E-12422=31 12423-12424=32 12425-1242B=33 1242C-1242E=31 1242F-12431=33 12434-12436=31
    12437-12439=33 1243A=33 1243B-1243C=33 1243D=34 1243E=34 1243F=34 12440-12441=36 12442=37
    12443-12444=37 12445-12446=38 12447=39 12448=39 12449=39 1244A-1244E=32 1244F-12452=31
    12453-12454=34 12455=35 12456-12457=32 12458-12459=31 12469-1246E=34 16A60-16A69=30
    16AC0-16AC9=30 16B50-16B59=30 16E80-16E89=30 16E96=33.110001 1D2E0-1D2E9=30 1D360-1D368=31
    1D372-1D376=31 1D377=31 1D378=35 1E140-1E149=30 1E2F0-1E2F9=30 1E4F0-1E4F9=30 1E8C7-1E8CF=31
    1E950-1E959=30 1EC71-1EC79=31 1ECA3-1ECAB=31 1ED01-1ED09=31"

def variants : List Row :=
  rows "
    C6=41.110001.45 D0=44.110001 DF=73.110001.73 E6=61.110001.65 F0=64.110001 152=4F.110001.45
    153=6F.110001.65 17F=73.110002 18D=7A.77 1BE=74.73 238=64.62 239=71.70 2A3=64.7A 2A4=64.292
    2A5=64.291 2A6=74.73 2A7=74.283 2A8=74.255 2A9=66.14B 2AA=6C.73 2AB=6C.7A 363=61 364=65 365=69
    366=6F 367=75 368-369=63 36A=68 36B=6D 36C=72 36D=74 36E=76 36F=78 37A=3B9 3CF=39A.3B1.3B9
    3D7=3BA.3B1.3B9 3F2=3C3 490=413.110002 491=433.110002 5EF=5D9.5D4.5D5.5D4 5F0=5D5.5D5
    5F1=5D5.5D9 5F2=5D9.5D9 674=621 675=627.621 676=648.621 677=6C7.621 678=64A.621 6E5=648
    6E6=64A 6FD=621.110002 6FE=645.110002 714=713.110002 71C=71B.110002 727=726.110002
    72D=712.110003 72E=713.110003 72F=715.110003 7E8=7D6.110001 7E9=7D7.110001 7EA=7D9.110001
    8AD=627 9CE=9A4.9CD D3B=D4D D3C=D4D D4E=D30.D4D D54=D2E.D4D D55=D2F.D4D D56=D34.D4D
    D7A=D23.D4D D7B=D28.D4D D7C=D30.D4D D7D=D32.D4D D7E=D33.D4D D7F=D15.D4D F00=F68.F7C.902
    F2A-F32=31 F33=30 F6A=F62.110002 FBA=FAD.110002 FBB=FB1.110002 FBC=FB2.110002 102B=102C
    103F=101E.1039.101E 1680=20 16A1=16A0.110001 16A4=16A2.110001 16A5=16A2.110002
    16A7=16A6.110001 16A9=16A8.110001 16AC=16A8.110002 16AD=16A8.110003 16AE=16A8.110004
    16B3=16B2.110001 16B4=16B2.110002 16B5=16B2.110003 16B6=16B2.110004 16BB=16BA.110001
    16BC=16BA.110002 16BD=16BA.110003 16BF=16BE.110001 16C0=16BE.110002 16C2=16C1.110001
    16C4=16C3.110001 16C6=16C5.110001 16CB=16CA.110001 16CC=16CA.110003 16CD=16CA.110004
    16CE=16CA.110005 16D0=16CF.110001 16D1=16CF.110002 16D3=16D2.110001 16D4=16D2.110002
    16D5=16C8.110001 16D8=16D7.110001 16D9=16D7.110002 16DB=16DA.110001 16DD=16DC.110001
    16E7=16E6.110001 16E8=16E6.110002 16E9=16B9.110001 16EA=16CA.110002 16EE=16C5.16DA
    16EF=16D7.110001.16D7.110001 16F0=16A6.16A6 191D=1908.1929 191E=190B.192A 19DE=199C.19B6
    19DF=199C.19B6.19C1 1A54=1A46.1A60.1A46 1A58=1A26 1A59=1A26 1A5A=1A3B 1A5B=1A3B 1A64=1A63
    1ABF=77 1AC0=28D 1BBA=1B83 1BC1=1BC0 1BC3=1BC2 1BC4=1BC2 1BC6:1BCC=1BC5 1BCD=1BCB 1BCF=1BCE
    1BD3:1BD9=1BD2 1BDA=1BD8 1BDC=1BDB 1BDF=1BDE 1BE8=1BE7 1BEB:1BEF=1BEA 1C80=432 1C81=434
    1C82=43E 1C83-1C84=441 1C85=442 1C86=44A 1C87=463 1C88=A64B 1CEA=1CE9 1CEB=1CE9 1CEC=1CE9
    1CEE=1CE9 1CEF=1CE9 1CF0=1CE9 1CF1=1CE9 1CFA=1CE9 1D79=67.110002 1D7A=74.110001.68 1DCA=72
    1DD2=A76F 1DD3=61.110001 1DD4=61.110001.65 1DD5=61.6F 1DD6=61.76 1DD7=63.327 1DD8=64.110002
    1DD9=64.110001 1DDA=67 1DDB=262 1DDC-1DDD=6B 1DDE=29F 1DDF=1D0D 1DE0=6E 1DE1=274 1DE2=280
    1DE3=A75B 1DE4=73 1DE5=73.110002 1DE6=7A 1DE7=251 1DE8=62 1DE9=A7B5 1DEA=259 1DEB=66 1DEC=AB38
    1DED=6F.316 1DEE=70 1DEF=283 1DF0=75.316 1DF1=77 1DF2=61.308 1DF3=6F.308 1DF4=75.308
    1E9E=53.110001.53 1EFA=4C.4C 1EFB=6C.6C 214D=41.2F.53 2CE4=2C95.2C81.2C93 2DE0-2DE3=431
    2DE4-2DE5=436 2DE6-2DEE=43A 2DEF-2DF3=445 2DF4=473 2DF5=441.442 2DF6=430 2DF7=435 2DF8=A649
    2DF9=A64B 2DFA=463 2DFB=44E 2DFC=A657 2DFD=467 2DFE=46B 2DFF=46D 2E80=4E36.110001
    2E81=5382.110001 2E82=4E5B 2E83=4E5A 2E84=4E59.110001 2E85=4EBB 2E86=5182.110001
    2E87=51E0.110001 2E88=5200.110001 2E89=5202 2E8A=535C.110001 2E8B=5369.110001 2E8C=5C0F.110001
    2E8D=5C0F.110002 2E8E=5C22.110001 2E8F=5C23 2E90=5C22 2E91=5C23.110001 2E92=5DF3 2E93=5E7A
    2E94=5F51 2E95=5F50.110001 2E96=5FC4 2E97=5FC3.110001 2E98=624C 2E99=6535 2E9B=65E1
    2E9C=65E5.110001 2E9D=6708.110001 2E9E=6B7A.110001 2EA0=6C11 2EA1=6C35 2EA2=6C3A 2EA3=706C
    2EA4=722B 2EA5=722B.110001 2EA6=4E2C 2EA7=725B.110001 2EA8=72AD 2EA9=738B.110001
    2EAA=758B.110001 2EAB=76EE.110001 2EAC=793A.110001 2EAD=793B 2EAE=7AF9.110001 2EAF=7CF9
    2EB0=7E9F 2EB1=7F53 2EB2=7F52 2EB3=7F53.110001 2EB4=7F53.110002 2EB5=7F52.110001
    2EB6=7F8A.110001 2EB7=7F8A.110002 2EB8=7F8B 2EB9=8002 2EBA=8080 2EBB=807F.110001
    2EBC=8089.110001 2EBD=81FC.110001 2EBE=8279 2EBF=8279.110001 2EC0=8279.110002 2EC1=864E
    2EC2=8864 2EC3=8980 2EC4=897F 2EC5=89C1 2EC6=89D2 2EC7=89D2.110001 2EC8=8BA0 2EC9=8D1D
    2ECA=8DB3.110001 2ECB=8F66 2ECC=8FB6 2ECD=8FB6.110001 2ECE=8FB6.110002 2ECF=9091.110001
    2ED0=9485 2ED1-2ED2=9577 2ED3=957F 2ED4=95E8 2ED5=961C.110001 2ED6=961D 2ED7=96E8.110001
    2ED8=9752 2ED9=97E6 2EDA=9875 2EDB=98CE 2EDC-2EDD=98DE 2EDE=98E0.110001 2EDF=98E0 2EE0=9963
    2EE1=9996.110001 2EE2=9A6C 2EE3=9AA8.110001 2EE4=9B3C.110001 2EE5=9C7C 2EE6=9E1F
    2EE7=9E75.110001 2EE8=9EA6 2EE9=9EC4 2EEA=9EFE 2EEB=9F4A.110001 2EEC=9F50 2EED=9F52.110001
    2EEE=9F7F 2EEF=9F8D.110001 2EF0=9F99 2EF1=9F9C.110001 2EF2=9F9C.110002 3006=3057.3081
    303C=307E.3059 312E=311C 31A0=3105.110002 31A1=3117.110002 31A2=3110.110002 31A3=310D.110002
    31A5=31A4.110002 31A7=311B.110002 31A8=3128.110003 31A9=311A.110002 31AA=3127.110002
    31AB=3128.110002 31AE=311E.110002 31AF=3120.110002 A610=A558 A611=A56A A612=A587
    A613=A50C.A60B A614=A51E.A60B A615=A533.A60B A616=A547.A60C A617=A552.A60B A618=A558.A60C
    A619=A55A.A60C A61A=A560.A60B A61B=A585.A60B A61C=A5B4.A60B A61D=A5CB.A60B A61E=A5D1.A60C
    A61F=A5D8.A60B A62A=A56E A62B=A5D1 A668=41E A669=43E A66A=41E A66B=43E A66C=41E A66D=43E
    A66E=43E A674=454 A675=438 A676=456.308 A677=443 A678-A67A=44A A67B=461 A698=41E A699=43E
    A69A=41E A69B=43E A69E=444 A69F=465 A728=54.7A A729=74.7A A732=41.41 A733=61.61 A734=41.4F
    A735=61.6F A736=41.55 A737=61.75 A738=41.56 A739=61.76 A73A=41.110001.56 A73B=61.110001.76
    A73C=41.59 A73D=61.79 A74E=4F.4F A74F=6F.6F A760=56.59 A761=76.79 A779=44.110002
    A77A=64.110002 A77B=46.110002 A77C=66.110002 A77D=47.110002 A782=52.110002 A783=72.110002
    A784=53.110002 A785=73.110002 A786=54.110002 A787=74.110002 A79A=41.308 A79B=61.308
    A79C=4F.308 A79D=6F.308 A79E=55.308 A79F=75.308 A7A0=47.336 A7A1=67.336 A7A2=4B.336
    A7A3=6B.336 A7A4=4E.336 A7A5=6E.336 A7A6=52.336 A7A7=72.336 A7A8=53.336 A7A9=73.336 A8F3=A8F2
    A8F4=A8F2 A8F5=A8F2 A8F6=A8F2 A8F7=A8F2 A9AC=A9AB A9B5=A9B4 AB66=64.290 AB67=74.282
    FB05=73.110002.74 10376=10350 10377=10353 10378=10357 10379=1035D 1037A=10361
    10980=109A0.110001 10981=109A1.110001 10982=109A2.110001 10983=109A3.110001 10984=109A4.110001
    10985=109A5.110001 10986=109A6.110001 10987=109A6.110002 10988=109A7.110001 10989=109A8.110001
    1098A=109A9.110001 1098B=109A9.110002 1098C=109AA.110001 1098D=109AA.110002 1098E=109AB.110001
    1098F=109AB.110002 10990=109AC.110001 10991=109AD.110001 10992=109AE.110001 10993=109AF.110002
    10994=109AF.110003 10995=109B1.110001 10996=109B2.110001 10997=109B3.110001 10998=109B4.110001
    10999=109B4.110002 1099A=109B5.110001 1099B=109B5.110002 1099C=109B6.110001 1099D=109B7.110001
    109B0=109AF.110001 10AC8=10AC7.110002 10B2E=10B2D.110001 10C01=10C00.110001 10C04=10C03.110001
    10C08=10C07.110001 10C0A=10C09.110001 10C0C=10C0B.110001 10C0E=10C0D.110001 10C10=10C0F.110001
    10C12=10C11.110001 10C15=10C14.110001 10C17=10C16.110001 10C19=10C18.110001 10C1B=10C1A.110001
    10C1D=10C1C.110001 10C1F=10C1E.110001 10C25=10C24.110001 10C27=10C26.110001 10C29=10C28.110001
    10C2B=10C2A.110001 10C2E=10C2D.110001 10C33=10C32.110001 10C35=10C34.110001 10C37=10C36.110001
    10C39=10C38.110001 10C3B=10C3A.110001 10C40=10C3F.110001 10C42=10C41.110001 10C44=10C43.110001
    10C46=10C45.110001 10C81=10C80.110001 10C8A=10C89.110001 10C8B=10C89.110002 10C91=10C90.110001
    10C9C=10C9B.110001 10C9E=10C9D.110001 10C9F=10C9D.110002 10CA3=10CA2.110001 10CAB=10CAA.110001
    10CAD=10CAC.110001 10CC1=10CC0.110001 10CCA=10CC9.110001 10CCB=10CC9.110002 10CD1=10CD0.110001
    10CDC=10CDB.110001 10CDE=10CDD.110001 10CDF=10CDD.110002 10CE3=10CE2.110001 10CEB=10CEA.110001
    10CED=10CEC.110001 10F10=10F0E.110002 10F13=10F12.110002 10F17=10F15.110002 10F1C=10F1A.110002
    10F27=10F12.10F18 10F45=10F41.110002 10FF6=10FE6.10FE9 115D8=11582.110001 115D9=11582.110002
    115DA=11583.110001 115DB=11584.110001 115DC=115B2.110001 115DD=115B3.110001 11705=11704.110001
    11716=11715.110001 1171A=11708.110001 16E94=31.110001 16E95=32.110001 16F06=16F04 16F13=16F10
    16F25=16F23 16F3F=16F3D 1E000-1E006=2C30 1E008-1E018=2C38 1E01B-1E021=2C4B 1E023-1E024=2C53
    1E026-1E02A=2C56 1ECB1=31.110001 1ECB2=32.110001 1ED2F=32.110001 1ED30=33.110001
    1ED31=34.110001 1ED32=35.110001 1ED33=36.110001 1ED34=37.110001 1ED35=38.110001
    1ED36=39.110001"

/-- Letters in another typeface. -/
def fonts : List Row :=
  rows "FB26=5DE 1D6D3=3C3 1D70D=3C3 1D747=3C3 1D781=3C3 1D7BB=3C3"

/-- Letters and numbers in circles. -/
def circled : List Row :=
  rows "
    24EB=31.31 24EC=31.32 24ED=31.33 24EE=31.34 24EF=31.35 24F0=31.36 24F1=31.37 24F2=31.38
    24F3=31.39 24F4=32.30 24F5-24FD=31 24FE=31.30 24FF=30 2776-277E=31 277F=31.30 2780-2788=31
    2789=31.30 278A-2792=31 2793=31.30 3248=31.30 3249=32.30 324A=33.30 324B=34.30 324C=35.30
    324D=36.30 324E=37.30 324F=38.30 1F10B=30 1F10C=30 1F150-1F169=41"

/-- Letters and numbers in squares. -/
def squared : List Row :=
  rows "
    1D2C=41 1D2E=42 1D30-1D31=44 1D32=18E 1D33-1D3A=47 1D3C=4F 1D3D=222 1D3E=50 1D3F=52
    1D40-1D41=54 1D42=57 2C7D=56 3300=3042.306F.309A.30FC.3068 3301=3042.308B.3075.3042
    3302=3042.3093.3078.309A.3042 3303=3042.30FC.308B 3304=3044.306B.3093.304F.3099
    3305=3044.3093.3061 3306=3046.304A.3093 3307=3048.3059.304F.30FC.3068.3099
    3308=3048.30FC.304B.30FC 3309=304A.3093.3059 330A=304A.30FC.3080 330B=304B.3044.308A
    330C=304B.3089.3064.3068 330D=304B.308D.308A.30FC 330E=304B.3099.308D.3093
    330F=304B.3099.3093.307E 3310=304D.3099.304B.3099 3311=304D.3099.306B.30FC
    3312=304D.3086.308A.30FC 3313=304D.3099.308B.305F.3099.30FC 3314=304D.308D
    3315=304D.308D.304F.3099.3089.3080 3316=304D.308D.3081.30FC.3068.308B
    3317=304D.308D.308F.3064.3068 3318=304F.3099.3089.3080 3319=304F.3099.3089.3080.3068.3093
    331A=304F.308B.305B.3099.3044.308D 331B=304F.308D.30FC.306D 331C=3051.30FC.3059
    331D=3053.308B.306A 331E=3053.30FC.307B.309A 331F=3055.3044.304F.308B
    3320=3055.3093.3061.30FC.3080 3321=3057.308A.3093.304F.3099 3322=305B.3093.3061
    3323=305B.3093.3068 3324=305F.3099.30FC.3059 3325=3066.3099.3057 3326=3068.3099.308B
    3327=3068.3093 3328=306A.306E 3329=306E.3064.3068 332A=306F.3044.3064
    332B=306F.309A.30FC.305B.3093.3068 332C=306F.309A.30FC.3064 332D=306F.3099.30FC.308C.308B
    332E=3072.309A.3042.3059.3068.308B 332F=3072.309A.304F.308B 3330=3072.309A.3053
    3331=3072.3099.308B 3332=3075.3042.3089.3064.3068.3099 3333=3075.3044.30FC.3068
    3334=3075.3099.3064.3057.3048.308B 3335=3075.3089.3093 3336=3078.304F.305F.30FC.308B
    3337=3078.309A.305D 3338=3078.309A.306B.3072 3339=3078.308B.3064 333A=3078.309A.3093.3059
    333B=3078.309A.30FC.3057.3099 333C=3078.3099.30FC.305F 333D=307B.309A.3044.3093.3068
    333E=307B.3099.308B.3068 333F=307B.3093 3340=307B.309A.3093.3068.3099 3341=307B.30FC.308B
    3342=307B.30FC.3093 3343=307E.3044.304F.308D 3344=307E.3044.308B 3345=307E.3064.306F
    3346=307E.308B.304F 3347=307E.3093.3057.3088.3093 3348=307F.304F.308D.3093 3349=307F.308A
    334A=307F.308A.306F.3099.30FC.308B 334B=3081.304B.3099 334C=3081.304B.3099.3068.3093
    334D=3081.30FC.3068.308B 334E=3084.30FC.3068.3099 334F=3084.30FC.308B 3350=3086.3042.3093
    3351=308A.3064.3068.308B 3352=308A.3089 3353=308B.3072.309A.30FC 3354=308B.30FC.3075.3099.308B
    3355=308C.3080 3356=308C.3093.3068.3051.3099.3093 3357=308F.3064.3068 1F170-1F189=41 1F18A=50
    1F18B=49.43 1F18C=50.41 1F18D=53.41 1F18E=41.42 1F18F=57.43 1F191=43.4C 1F192=43.4F.4F.4C
    1F193=46.52.45.45 1F194=49.44 1F195=4E.45.57 1F196=4E.47 1F197=4F.4B 1F198=53.4F.53
    1F199=55.50.21 1F19A=56.53 1F19B=33.44 1F19C=32.6E.64.20.53.63.72 1F19D=32.4B 1F19E=34.4B
    1F19F=38.4B 1F1A0=35.2E.31 1F1A1=37.2E.31 1F1A2=32.32.2E.32 1F1A3=36.30.50 1F1A4=31.32.30.50
    1F1A5=64 1F1A6=48.63 1F1A7=48.64.52 1F1A8=48.69.20.52.65.73 1F1A9=4C.6F.73.73.6C.65.73.73
    1F1AA=53.48.56 1F1AB=55.48.44 1F1AC=56.4F.44 1F201=3053.3053 1F202=3055 1F213=3066.3099"

def superscripts : List Row :=
  rows "
    1D2D=61.110001.65 1D4C=1D08 1D4E=1D09 1D9E=64.110001 A7F8=68.335 A7F9=6F.110001.65"

def narrow : List Row :=
  rows "
    FF66=3092 FF71=3042 FF72=3044 FF73=3046 FF74=3048 FF75-FF76=304A FF77=304D FF78=304F FF79=3051
    FF7A=3053 FF7B=3055 FF7C=3057 FF7D=3059 FF7E=305B FF7F=305D FF80=305F FF81=3061 FF82=3064
    FF83=3066 FF84=3068 FF85-FF8A=306A FF8B=3072 FF8C=3075 FF8D=3078 FF8E=307B FF8F-FF93=307E
    FF94=3084 FF95=3086 FF96-FF9B=3088 FF9C=308F FF9D=3093"

/-- Forms for vertical text. -/
def vertical : List Row :=
  rows "30FF=3053.3068 31B3=3127.110002 FE3F-FE40=2329"

/-- Forms at the beginning of a word. -/
def initials : List Row :=
  rows "
    11A3A=11A2B 11A86-11A87=11A7C 11A88=11A7F 11A89=11A81 11D46=11D26"

/-- Forms at the end of a word. -/
def finals : List Row :=
  rows "
    3C2=3C3 5DA=5DB 5DD=5DE 5DF=5E0 5E3=5E4 5E5=5E6 724=723 1BBE=1B8A 1BBF=1B99 31B4=3106
    31B5=310A 31B6-31B7=310E 31BB=310D 1086D=1086E 10880=10881 10882=10883 10886=10887
    1088C:10894=1088D 1089C=1089D 10F01=10F00 10F03=10F02 10F06=10F05 10F0F=10F0E 10F16=10F15
    10F1B=10F1A 11A3B-11A3E=11A2A 11A8A-11A8B=11A5C 11A8C=11A60 11A8D=11A6B 11A8E-11A8F=11A6F
    11A90=11A74 11A91-11A92=11A7C 11A93=11A7F 11A94=11A81 11A95=11A7A 11D47=11D26"

/-- Forms that stand alone. -/
def isolated : List Row :=
  rows "
    FBDD=6C7.621 FC5E=64C.651 FC5F=64D.651 FC60=64E.651 FC61=64F.651 FC62=650.651 FC63=651.670
    FE70=64B FE72=64C FE74=64D FE76=64E FE78=64F FE7A=650 FE7C=651 FE7E=652"

/-- Katakana, which count as hiragana. -/
def katakana : List Row :=
  rows "
    30A2:30AA=3042 30AB:30C1=304B 30C4:30CA=3064 30CB-30CF=306B 30D2=3072 30D5=3075 30D8=3078
    30DB=307B 30DE-30E2=307E 30E4:30E8=3084 30E9-30ED=3089 30EF-30F3=308F"

def smallHiragana : List Row :=
  rows "
    3041:3049=3042 3063=3064 3083:3087=3084 308E=308F 3095=304B 3096=3051 1B150-1B152=3090"

def smallKatakana : List Row :=
  rows "
    30A1:30A9=3042 30C3=3064 30E3:30E7=3084 30EE=308F 30F5=304B 30F6=3051 31F0=304F 31F1=3057
    31F2=3059 31F3=3068 31F4=306C 31F5=306F 31F6=3072 31F7=3075 31F8=3078 31F9=307B 31FA=3080
    31FB-31FF=3089 1B164-1B167=3090"

end Variants
end Collation
end BlobTree
