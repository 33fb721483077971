import AdminConsole.Text.Canonical

/-!
# Spelling of domain names

Before a domain name is looked up, its characters are brought to one spelling: capitals become small
letters, variants of a character become that character, some characters vanish, and others may not
stand in a name at all. The table is that of internationalized domain names for Unicode 17.0,
without transitional exceptions.

Characters that can be taken apart are spelled by their parts, and the result is composed again.
-/

namespace AdminConsole.Domain

open AdminConsole.Text

/-- What becomes of the characters of a range. -/
inductive Spelling where
  | refused
  | dropped
  /-- Each becomes the one so far behind it. -/
  | ahead (distance : Nat)
  /-- Each becomes the one so far in front of it. -/
  | back (distance : Nat)
  /-- Every other one becomes the one behind it. -/
  | everyOther
  /-- All become one text. -/
  | same (cs : List Char)
  /-- Each becomes a text of its own. -/
  | each (css : List (List Char))
  deriving Repr

/-- Reads an entry of the table. -/
def Spelling.read : List Char → Spelling
  | 'i' :: _ => .dropped
  | '+' :: cs => .ahead (hexNumber 0 cs).1
  | '<' :: cs => .back (hexNumber 0 cs).1
  | '~' :: _ => .everyOther
  | '=' :: cs => .same (hexChars cs)
  | ':' :: cs => .each ((pieces (· == ',') cs).map hexChars)
  | _ => .refused

/-- The table: refused and dropped characters, distances, texts for all of a range, and texts for
each of a range. Characters that are spelled as they are, or that can be taken apart, are left
out. -/
def spellingText : String :=
  String.join [
    "80-9Fx A0:20 A8:20.308 AA:61 ADi AF:20.304 B2-B5:32,33,20.301,3BC B8-BA:20.327,31,6F ",
    "BC-BE:31.2044.34,31.2044.32,33.2044.34 C6:E6 D0:F0 D8:F8 DE:FE 110-131~ 132-133:69.6A,",
    "69.6A 13F-141:6C.B7,6C.B7,142 149-14A:2BC.6E,14B 152-167~ 17F:73 181-182:253,183 184-185~ ",
    "186-187:254,188 189-18B:256,257,18C 18E-191:1DD,259,25B,192 193-194:260,263 196-198:269,",
    "268,199 19C-19D:26F,272 19F:275 1A2-1A5~ 1A6-1A7:280,1A8 1A9:283 1AC-1AD~ 1AE:288 ",
    "1B1-1B3:28A,28B,1B4 1B5-1B6~ 1B7-1B8:292,1B9 1BC-1BD~ 1C4-1C6=64.17E 1C7-1C9=6C.6A ",
    "1CA-1CC=6E.6A 1E4-1E5~ 1F1-1F3=64.7A 1F6-1F7:195,1BF 21C-21D~ 220:19E 222-225~ ",
    "23A-23B:2C65,23C 23D-23E:19A,2C66 241-242~ 243-246:180,289,28C,247 248-24F~ 2B0-2B8:68,",
    "266,6A,72,279,27B,281,77,79 2D8-2DD:20.306,20.307,20.30A,20.328,20.303,20.30B 2E0-2E4:263,",
    "6C,73,78,295 345:3B9 34Fi 370-377~ 378-379x 37A:20.3B9 37F:3F3 380-383x 384:20.301 ",
    "38B-38Dx 391-3A1+20 3A2x 3A3-3A9+20 3CF-3D2:3D7,3B2,3B8,3C5 3D5-3D6:3C6,3C0 3D8-3EF~ ",
    "3F0-3F2:3BA,3C1,3C3 3F4-3F5:3B8,3B5 3F7-3F8~ 3F9-3FA:3C3,3FB 3FD-3FF<82 402-40F+50 ",
    "410-42F+20 460-481~ 48A-4BF~ 4C0:4CF 4C3-4CE~ 4D4-52F~ 530x 531-556+30 557-558x ",
    "587:565.582 58B-58Cx 590x 5C8-5CFx 5EB-5EEx 5F5-605x 61Cx 675-678:627.674,648.674,6C7.674,",
    "64A.674 6DDx 70E-70Fx 74B-74Cx 7B2-7BFx 7FB-7FCx 82E-82Fx 83Fx 85C-85Dx 85Fx 86B-86Fx ",
    "890-896x 8E2x 984x 98D-98Ex 991-992x 9A9x 9B1x 9B3-9B5x 9BA-9BBx 9C5-9C6x 9C9-9CAx ",
    "9CF-9D6x 9D8-9DEx 9E4-9E5x 9FF-A00x A04x A0B-A0Ex A11-A12x A29x A31x A34x A37x A3A-A3Bx ",
    "A3Dx A43-A46x A49-A4Ax A4E-A50x A52-A58x A5D-A65x A77-A80x A84x A8Ex A92x AA9x AB1x AB4x ",
    "ABA-ABBx AC6x ACAx ACE-ACFx AD1-ADFx AE4-AE5x AF2-AF8x B00x B04x B0D-B0Ex B11-B12x B29x ",
    "B31x B34x B3A-B3Bx B45-B46x B49-B4Ax B4E-B54x B58-B5Ex B64-B65x B78-B81x B84x B8B-B8Dx ",
    "B91x B96-B98x B9Bx B9Dx BA0-BA2x BA5-BA7x BAB-BADx BBA-BBDx BC3-BC5x BC9x BCE-BCFx ",
    "BD1-BD6x BD8-BE5x BFB-BFFx C0Dx C11x C29x C3A-C3Bx C45x C49x C4E-C54x C57x C5Bx C5E-C5Fx ",
    "C64-C65x C70-C76x C8Dx C91x CA9x CB4x CBA-CBBx CC5x CC9x CCE-CD4x CD7-CDBx CDFx CE4-CE5x ",
    "CF0x CF4-CFFx D0Dx D11x D45x D49x D50-D53x D64-D65x D80x D84x D97-D99x DB2x DBCx DBE-DBFx ",
    "DC7-DC9x DCB-DCEx DD5x DD7x DE0-DE5x DF0-DF1x DF5-E00x E33:E4D.E32 E3B-E3Ex E5C-E80x E83x ",
    "E85x E8Bx EA4x EA6x EB3:ECD.EB2 EBE-EBFx EC5x EC7x ECFx EDA-EDBx EDC-EDD:EAB.E99,EAB.EA1 ",
    "EE0-EFFx F0C:F0B F48x F6D-F70x F77:FB2.F71.F80 F79:FB3.F71.F80 F98x FBDx FCDx FDB-FFFx ",
    "10A0-10C5+1C60 10C6x 10C7:2D27 10C8-10CCx 10CD:2D2D 10CE-10CFx 10FC:10DC 115F-1160i 1249x ",
    "124E-124Fx 1257x 1259x 125E-125Fx 1289x 128E-128Fx 12B1x 12B6-12B7x 12BFx 12C1x ",
    "12C6-12C7x 12D7x 1311x 1316-1317x 135B-135Cx 137D-137Fx 139A-139Fx 13F6-13F7x 13F8-13FD<8 ",
    "13FE-13FFx 1680x 169D-169Fx 16F9-16FFx 1716-171Ex 1737-173Fx 1754-175Fx 176Dx 1771x ",
    "1774-177Fx 17B4-17B5i 17DE-17DFx 17EA-17EFx 17FA-17FFx 180B-180Fi 181A-181Fx 1879-187Fx ",
    "18AB-18AFx 18F6-18FFx 191Fx 192C-192Fx 193C-193Fx 1941-1943x 196E-196Fx 1975-197Fx ",
    "19AC-19AFx 19CA-19CFx 19DB-19DDx 1A1C-1A1Dx 1A5Fx 1A7D-1A7Ex 1A8A-1A8Fx 1A9A-1A9Fx ",
    "1AAE-1AAFx 1ADE-1ADFx 1AEC-1AFFx 1B4Dx 1BF4-1BFBx 1C38-1C3Ax 1C4A-1C4Cx 1C80-1C89:432,434,",
    "43E,441,442,442,44A,463,A64B,1C8A 1C8B-1C8Fx 1C90-1CBA<BC0 1CBB-1CBCx 1CBD-1CBF<BC0 ",
    "1CC8-1CCFx 1CFB-1CFFx 1D2C-1D2E:61,E6,62 1D30-1D32:64,65,1DD 1D33-1D3A<1CCC 1D3C-1D4D:6F,",
    "223,70,72,74,75,77,61,250,251,1D02,62,64,65,259,25B,25C,67 1D4F-1D6A:6B,6D,14B,6F,254,",
    "1D16,1D17,70,74,75,1D1D,26F,76,1D25,3B2,3B3,3B4,3C6,3C7,69,72,75,76,3B2,3B3,3C1,3C6,3C7 ",
    "1D78:43D 1D9B-1DAD:252,63,255,F0,25C,66,25F,261,265,268,269,26A,1D7B,29D,26D,1D85,29F,271,",
    "270 1DAE-1DB1<1B3C 1DB2-1DBF:278,282,283,1AB,289,28A,1D1C,28B,28C,7A,290,291,292,3B8 ",
    "1E9A:61.2BE 1E9E:DF 1EFA-1EFF~ 1F16-1FB5x 1FBD:20.313 1FBF-1FC0:20.313,20.342 1FC5-1FF5x ",
    "1FFE:20.314 1FFFx 2002-200A=20 200Bi 200E-200Fx 2011:2010 2017:20.333 2024-2026x ",
    "2028-202Ex 202F:20 2033-2034:2032.2032,2032.2032.2032 2036-2037:2035.2035,2035.2035.2035 ",
    "203C:21.21 203E:20.305 2047-2049:3F.3F,3F.21,21.3F 2057:2032.2032.2032.2032 205F:20 ",
    "2060-2064i 2065-2069x 206A-206Fi 2070-2071:30,69 2072-2073x 2074-2079<2040 207A-207F:2B,",
    "2212,3D,28,29,6E 2080-2089<2050 208A-208E:2B,2212,3D,28,29 208Fx 2090-2095:61,65,6F,78,",
    "259,68 2096-2099<202B 209A-209C:70,73,74 209D-209Fx 20A8:72.73 20C2-20CFx 20F1-20FFx ",
    "2100-2103:61.2F.63,61.2F.73,63,B0.63 2105-2107:63.2F.6F,63.2F.75,25B 2109-210A:B0.66,67 ",
    "210B-210E=68 210F-2113:127,69,69,6C,6C 2115-2116:6E,6E.6F 2119-211B<20A9 211C-211D:72,72 ",
    "2120-2122:73.6D,74.65.6C,74.6D 2124:7A 2128:7A 212C-212D:62,63 212F-2134:65,65,66,214E,6D,",
    "6F 2135-2138<1B65 2139:69 213B-2140:66.61.78,3C0,3B3,3B3,3C0,2211 2145-2149:64,64,65,69,",
    "6A 2150-217F:31.2044.37,31.2044.39,31.2044.31.30,31.2044.33,32.2044.33,31.2044.35,",
    "32.2044.35,33.2044.35,34.2044.35,31.2044.36,35.2044.36,31.2044.38,33.2044.38,35.2044.38,",
    "37.2044.38,31.2044,69,69.69,69.69.69,69.76,76,76.69,76.69.69,76.69.69.69,69.78,78,78.69,",
    "78.69.69,6C,63,64,6D,69,69.69,69.69.69,69.76,76,76.69,76.69.69,76.69.69.69,69.78,78,78.69,",
    "78.69.69,6C,63,64,6D 2183-2184~ 2189:30.2044.33 218C-218Fx 222C-222D:222B.222B,",
    "222B.222B.222B 222F-2230:222E.222E,222E.222E.222E 242A-243Fx 244B-245Fx 2460-2468<242F ",
    "2469-2487:31.30,31.31,31.32,31.33,31.34,31.35,31.36,31.37,31.38,31.39,32.30,28.31.29,",
    "28.32.29,28.33.29,28.34.29,28.35.29,28.36.29,28.37.29,28.38.29,28.39.29,28.31.30.29,",
    "28.31.31.29,28.31.32.29,28.31.33.29,28.31.34.29,28.31.35.29,28.31.36.29,28.31.37.29,",
    "28.31.38.29,28.31.39.29,28.32.30.29 2488-249Bx 249C-24B5:28.61.29,28.62.29,28.63.29,",
    "28.64.29,28.65.29,28.66.29,28.67.29,28.68.29,28.69.29,28.6A.29,28.6B.29,28.6C.29,28.6D.29,",
    "28.6E.29,28.6F.29,28.70.29,28.71.29,28.72.29,28.73.29,28.74.29,28.75.29,28.76.29,28.77.29,",
    "28.78.29,28.79.29,28.7A.29 24B6-24CF<2455 24D0-24E9<246F 24EA:30 2A0C:222B.222B.222B.222B ",
    "2A74-2A76:3A.3A.3D,3D.3D,3D.3D.3D 2B74-2B75x 2C00-2C2F+30 2C60-2C61~ 2C62-2C64:26B,1D7D,",
    "27D 2C67-2C6C~ 2C6D-2C70:251,271,250,252 2C72-2C73~ 2C75-2C76~ 2C7C-2C80:6A,76,23F,240,",
    "2C81 2C82-2CE3~ 2CEB-2CEE~ 2CF2-2CF3~ 2CF4-2CF8x 2D26x 2D28-2D2Cx 2D2E-2D2Fx 2D68-2D6Ex ",
    "2D6F:2D61 2D71-2D7Ex 2D97-2D9Fx 2DA7x 2DAFx 2DB7x 2DBFx 2DC7x 2DCFx 2DD7x 2DDFx ",
    "2E5E-2E7Fx 2E9Ax 2E9F:6BCD 2EF3:9F9F 2EF4-2EFFx 2F00-2FD5:4E00,4E28,4E36,4E3F,4E59,4E85,",
    "4E8C,4EA0,4EBA,513F,5165,516B,5182,5196,51AB,51E0,51F5,5200,529B,52F9,5315,531A,5338,5341,",
    "535C,5369,5382,53B6,53C8,53E3,56D7,571F,58EB,5902,590A,5915,5927,5973,5B50,5B80,5BF8,5C0F,",
    "5C22,5C38,5C6E,5C71,5DDB,5DE5,5DF1,5DFE,5E72,5E7A,5E7F,5EF4,5EFE,5F0B,5F13,5F50,5F61,5F73,",
    "5FC3,6208,6236,624B,652F,6534,6587,6597,65A4,65B9,65E0,65E5,66F0,6708,6728,6B20,6B62,6B79,",
    "6BB3,6BCB,6BD4,6BDB,6C0F,6C14,6C34,706B,722A,7236,723B,723F,7247,7259,725B,72AC,7384,7389,",
    "74DC,74E6,7518,751F,7528,7530,758B,7592,7676,767D,76AE,76BF,76EE,77DB,77E2,77F3,793A,79B8,",
    "79BE,7A74,7ACB,7AF9,7C73,7CF8,7F36,7F51,7F8A,7FBD,8001,800C,8012,8033,807F,8089,81E3,81EA,",
    "81F3,81FC,820C,821B,821F,826E,8272,8278,864D,866B,8840,884C,8863,897E,898B,89D2,8A00,8C37,",
    "8C46,8C55,8C78,8C9D,8D64,8D70,8DB3,8EAB,8ECA,8F9B,8FB0,8FB5,9091,9149,91C6,91CC,91D1,9577,",
    "9580,961C,96B6,96B9,96E8,9751,975E,9762,9769,97CB,97ED,97F3,9801,98A8,98DB,98DF,9996,9999,",
    "99AC,9AA8,9AD8,9ADF,9B25,9B2F,9B32,9B3C,9B5A,9CE5,9E75,9E7F,9EA5,9EBB,9EC3,9ECD,9ED1,9EF9,",
    "9EFD,9F0E,9F13,9F20,9F3B,9F4A,9F52,9F8D,9F9C,9FA0 2FD6-2FFFx 3000:20 3002:2E 3036:3012 ",
    "3038-303A:5341,5344,5345 3040x 3097-3098x 309B-309C:20.3099,20.309A 309F:3088.308A ",
    "30FF:30B3.30C8 3100-3104x 3130x 3131-3139:1100,1101,11AA,1102,11AC,11AD,1103,1104,1105 ",
    "313A-313F<1F8A 3140-3144:111A,1106,1107,1108,1121 3145-314E<203C 314F-3163<1FEE 3164i ",
    "3165-3177:1114,1115,11C7,11C8,11CC,11CE,11D3,11D7,11D9,111C,11DD,11DF,111D,111E,1120,1122,",
    "1123,1127,1129 3178-317C<204D 317D-318E:1132,1136,1140,1147,114C,11F1,11F2,1157,1158,1159,",
    "1184,1185,1188,1191,1192,1194,119E,11A1 318Fx 3192-319F:4E00,4E8C,4E09,56DB,4E0A,4E2D,",
    "4E0B,7532,4E59,4E19,4E01,5929,5730,4EBA 31E6-31EFx 3200-321E:28.1100.29,28.1102.29,",
    "28.1103.29,28.1105.29,28.1106.29,28.1107.29,28.1109.29,28.110B.29,28.110C.29,28.110E.29,",
    "28.110F.29,28.1110.29,28.1111.29,28.1112.29,28.AC00.29,28.B098.29,28.B2E4.29,28.B77C.29,",
    "28.B9C8.29,28.BC14.29,28.C0AC.29,28.C544.29,28.C790.29,28.CC28.29,28.CE74.29,28.D0C0.29,",
    "28.D30C.29,28.D558.29,28.C8FC.29,28.C624.C804.29,28.C624.D6C4.29 321Fx ",
    "3220-3247:28.4E00.29,28.4E8C.29,28.4E09.29,28.56DB.29,28.4E94.29,28.516D.29,28.4E03.29,",
    "28.516B.29,28.4E5D.29,28.5341.29,28.6708.29,28.706B.29,28.6C34.29,28.6728.29,28.91D1.29,",
    "28.571F.29,28.65E5.29,28.682A.29,28.6709.29,28.793E.29,28.540D.29,28.7279.29,28.8CA1.29,",
    "28.795D.29,28.52B4.29,28.4EE3.29,28.547C.29,28.5B66.29,28.76E3.29,28.4F01.29,28.8CC7.29,",
    "28.5354.29,28.796D.29,28.4F11.29,28.81EA.29,28.81F3.29,554F,5E7C,6587,7B8F ",
    "3250-3268:70.74.65,32.31,32.32,32.33,32.34,32.35,32.36,32.37,32.38,32.39,33.30,33.31,",
    "33.32,33.33,33.34,33.35,1100,1102,1103,1105,1106,1107,1109,110B,110C 3269-326D<215B ",
    "326E-327E:AC00,B098,B2E4,B77C,B9C8,BC14,C0AC,C544,C790,CC28,CE74,D0C0,D30C,D558,CC38.ACE0,",
    "C8FC.C758,C6B0 3280-32E3:4E00,4E8C,4E09,56DB,4E94,516D,4E03,516B,4E5D,5341,6708,706B,6C34,",
    "6728,91D1,571F,65E5,682A,6709,793E,540D,7279,8CA1,795D,52B4,79D8,7537,5973,9069,512A,5370,",
    "6CE8,9805,4F11,5199,6B63,4E0A,4E2D,4E0B,5DE6,53F3,533B,5B97,5B66,76E3,4F01,8CC7,5354,591C,",
    "33.36,33.37,33.38,33.39,34.30,34.31,34.32,34.33,34.34,34.35,34.36,34.37,34.38,34.39,35.30,",
    "31.6708,32.6708,33.6708,34.6708,35.6708,36.6708,37.6708,38.6708,39.6708,31.30.6708,",
    "31.31.6708,31.32.6708,68.67,65.72.67,65.76,6C.74.64,30A2,30A4,30A6,30A8,30AA,30AB,30AD,",
    "30AF,30B1,30B3,30B5,30B7,30B9,30BB,30BD,30BF,30C1,30C4,30C6,30C8 32E4-32E9<21A ",
    "32EA-32ED:30D2,30D5,30D8,30DB 32EE-32F2<210 32F3-32F4:30E4,30E6 32F5-32FA<20D ",
    "32FB-32FE<20C 32FF-33C1:4EE4.548C,30A2.30D1.30FC.30C8,30A2.30EB.30D5.30A1,",
    "30A2.30F3.30DA.30A2,30A2.30FC.30EB,30A4.30CB.30F3.30B0,30A4.30F3.30C1,30A6.30A9.30F3,",
    "30A8.30B9.30AF.30FC.30C9,30A8.30FC.30AB.30FC,30AA.30F3.30B9,30AA.30FC.30E0,30AB.30A4.30EA,",
    "30AB.30E9.30C3.30C8,30AB.30ED.30EA.30FC,30AC.30ED.30F3,30AC.30F3.30DE,30AE.30AC,",
    "30AE.30CB.30FC,30AD.30E5.30EA.30FC,30AE.30EB.30C0.30FC,30AD.30ED,30AD.30ED.30B0.30E9.30E0,",
    "30AD.30ED.30E1.30FC.30C8.30EB,30AD.30ED.30EF.30C3.30C8,30B0.30E9.30E0,",
    "30B0.30E9.30E0.30C8.30F3,30AF.30EB.30BC.30A4.30ED,30AF.30ED.30FC.30CD,30B1.30FC.30B9,",
    "30B3.30EB.30CA,30B3.30FC.30DD,30B5.30A4.30AF.30EB,30B5.30F3.30C1.30FC.30E0,",
    "30B7.30EA.30F3.30B0,30BB.30F3.30C1,30BB.30F3.30C8,30C0.30FC.30B9,30C7.30B7,30C9.30EB,",
    "30C8.30F3,30CA.30CE,30CE.30C3.30C8,30CF.30A4.30C4,30D1.30FC.30BB.30F3.30C8,30D1.30FC.30C4,",
    "30D0.30FC.30EC.30EB,30D4.30A2.30B9.30C8.30EB,30D4.30AF.30EB,30D4.30B3,30D3.30EB,",
    "30D5.30A1.30E9.30C3.30C9,30D5.30A3.30FC.30C8,30D6.30C3.30B7.30A7.30EB,30D5.30E9.30F3,",
    "30D8.30AF.30BF.30FC.30EB,30DA.30BD,30DA.30CB.30D2,30D8.30EB.30C4,30DA.30F3.30B9,",
    "30DA.30FC.30B8,30D9.30FC.30BF,30DD.30A4.30F3.30C8,30DC.30EB.30C8,30DB.30F3,30DD.30F3.30C9,",
    "30DB.30FC.30EB,30DB.30FC.30F3,30DE.30A4.30AF.30ED,30DE.30A4.30EB,30DE.30C3.30CF,",
    "30DE.30EB.30AF,30DE.30F3.30B7.30E7.30F3,30DF.30AF.30ED.30F3,30DF.30EA,",
    "30DF.30EA.30D0.30FC.30EB,30E1.30AC,30E1.30AC.30C8.30F3,30E1.30FC.30C8.30EB,30E4.30FC.30C9,",
    "30E4.30FC.30EB,30E6.30A2.30F3,30EA.30C3.30C8.30EB,30EA.30E9,30EB.30D4.30FC,",
    "30EB.30FC.30D6.30EB,30EC.30E0,30EC.30F3.30C8.30B2.30F3,30EF.30C3.30C8,30.70B9,31.70B9,",
    "32.70B9,33.70B9,34.70B9,35.70B9,36.70B9,37.70B9,38.70B9,39.70B9,31.30.70B9,31.31.70B9,",
    "31.32.70B9,31.33.70B9,31.34.70B9,31.35.70B9,31.36.70B9,31.37.70B9,31.38.70B9,31.39.70B9,",
    "32.30.70B9,32.31.70B9,32.32.70B9,32.33.70B9,32.34.70B9,68.70.61,64.61,61.75,62.61.72,",
    "6F.76,70.63,64.6D,64.6D.32,64.6D.33,69.75,5E73.6210,662D.548C,5927.6B63,660E.6CBB,",
    "682A.5F0F.4F1A.793E,70.61,6E.61,3BC.61,6D.61,6B.61,6B.62,6D.62,67.62,63.61.6C,6B.63.61.6C,",
    "70.66,6E.66,3BC.66,3BC.67,6D.67,6B.67,68.7A,6B.68.7A,6D.68.7A,67.68.7A,74.68.7A,3BC.6C,",
    "6D.6C,64.6C,6B.6C,66.6D,6E.6D,3BC.6D,6D.6D,63.6D,6B.6D,6D.6D.32,63.6D.32,6D.32,6B.6D.32,",
    "6D.6D.33,63.6D.33,6D.33,6B.6D.33,6D.2215.73,6D.2215.73.32,70.61,6B.70.61,6D.70.61,",
    "67.70.61,72.61.64,72.61.64.2215.73,72.61.64.2215.73.32,70.73,6E.73,3BC.73,6D.73,70.76,",
    "6E.76,3BC.76,6D.76,6B.76,6D.76,70.77,6E.77,3BC.77,6D.77,6B.77,6D.77,6B.3C9,6D.3C9 33C2x ",
    "33C3-33C6:62.71,63.63,63.64,63.2215.6B.67 33C7x 33C8-33D7:64.62,67.79,68.61,68.70,69.6E,",
    "6B.6B,6B.6D,6B.74,6C.6D,6C.6E,6C.6F.67,6C.78,6D.62,6D.69.6C,6D.6F.6C,70.68 33D8x ",
    "33D9-33FF:70.70.6D,70.72,73.72,73.76,77.62,76.2215.6D,61.2215.6D,31.65E5,32.65E5,33.65E5,",
    "34.65E5,35.65E5,36.65E5,37.65E5,38.65E5,39.65E5,31.30.65E5,31.31.65E5,31.32.65E5,",
    "31.33.65E5,31.34.65E5,31.35.65E5,31.36.65E5,31.37.65E5,31.38.65E5,31.39.65E5,32.30.65E5,",
    "32.31.65E5,32.32.65E5,32.33.65E5,32.34.65E5,32.35.65E5,32.36.65E5,32.37.65E5,32.38.65E5,",
    "32.39.65E5,33.30.65E5,33.31.65E5,67.61.6C A48D-A48Fx A4C7-A4CFx A62C-A63Fx A640-A66D~ ",
    "A680-A69B~ A69C-A69D:44A,44C A6F8-A6FFx A722-A72F~ A732-A76F~ A770:A76F A779-A77C~ ",
    "A77D-A77E:1D79,A77F A780-A787~ A78B-A78C~ A78D:265 A790-A793~ A796-A7A9~ A7AA-A7AE:266,",
    "25C,261,26C,26A A7B0-A7B4:29E,287,29D,AB53,A7B5 A7B6-A7C3~ A7C4-A7C7:A794,282,1D8E,A7C8 ",
    "A7C9-A7CA~ A7CB-A7CC:264,A7CD A7CE-A7DB~ A7DC:19B A7DD-A7F0x A7F1-A7F5:73,63,66,71,A7F6 ",
    "A7F8-A7F9:127,153 A82D-A82Fx A83A-A83Fx A878-A87Fx A8C6-A8CDx A8DA-A8DFx A954-A95Ex ",
    "A97D-A97Fx A9CEx A9DA-A9DDx A9FFx AA37-AA3Fx AA4E-AA4Fx AA5A-AA5Bx AAC3-AADAx AAF7-AB00x ",
    "AB07-AB08x AB0F-AB10x AB17-AB1Fx AB27x AB2Fx AB5C-AB5F:A727,AB37,26B,AB52 AB69:28D ",
    "AB6C-AB6Fx AB70-ABBF<97D0 ABEE-ABEFx ABFA-D7AFx D7C7-D7CAx D7FC-F8FFx FA6E-FAFFx ",
    "FB00-FB06:66.66,66.69,66.6C,66.66.69,66.66.6C,73.74,73.74 FB07-FB12x FB13-FB17:574.576,",
    "574.565,574.56B,57E.576,574.56D FB18-FB1Cx FB20-FB29:5E2,5D0,5D3,5D4,5DB,5DC,5DD,5E8,5EA,",
    "2B FB37-FB45x FB4F-FB51:5D0.5DC,671,671 FB52-FB55=67B FB56-FB59=67E FB5A-FB5D=680 ",
    "FB5E-FB61=67A FB62-FB65=67F FB66-FB69=679 FB6A-FB6D=6A4 FB6E-FB71=6A6 FB72-FB75=684 ",
    "FB76-FB79=683 FB7A-FB7D=686 FB7E-FB81=687 FB82-FB8D:68D,68D,68C,68C,68E,68E,688,688,698,",
    "698,691,691 FB8E-FB91=6A9 FB92-FB95=6AF FB96-FB99=6B3 FB9A-FB9D=6B1 FB9E-FB9F:6BA,6BA ",
    "FBA0-FBA3=6BB FBA4-FBA5:6C0,6C0 FBA6-FBA9=6C1 FBAA-FBAD=6BE FBAE-FBB1:6D2,6D2,6D3,6D3 ",
    "FBD3-FBD6=6AD FBD7-FBE3:6C7,6C7,6C6,6C6,6C8,6C8,6C7.674,6CB,6CB,6C5,6C5,6C9,6C9 ",
    "FBE4-FBE7=6D0 FBE8-FBFB:649,649,626.627,626.627,626.6D5,626.6D5,626.648,626.648,626.6C7,",
    "626.6C7,626.6C6,626.6C6,626.6C8,626.6C8,626.6D0,626.6D0,626.6D0,626.649,626.649,626.649 ",
    "FBFC-FBFF=6CC FC00-FD3D:626.62C,626.62D,626.645,626.649,626.64A,628.62C,628.62D,628.62E,",
    "628.645,628.649,628.64A,62A.62C,62A.62D,62A.62E,62A.645,62A.649,62A.64A,62B.62C,62B.645,",
    "62B.649,62B.64A,62C.62D,62C.645,62D.62C,62D.645,62E.62C,62E.62D,62E.645,633.62C,633.62D,",
    "633.62E,633.645,635.62D,635.645,636.62C,636.62D,636.62E,636.645,637.62D,637.645,638.645,",
    "639.62C,639.645,63A.62C,63A.645,641.62C,641.62D,641.62E,641.645,641.649,641.64A,642.62D,",
    "642.645,642.649,642.64A,643.627,643.62C,643.62D,643.62E,643.644,643.645,643.649,643.64A,",
    "644.62C,644.62D,644.62E,644.645,644.649,644.64A,645.62C,645.62D,645.62E,645.645,645.649,",
    "645.64A,646.62C,646.62D,646.62E,646.645,646.649,646.64A,647.62C,647.645,647.649,647.64A,",
    "64A.62C,64A.62D,64A.62E,64A.645,64A.649,64A.64A,630.670,631.670,649.670,20.64C.651,",
    "20.64D.651,20.64E.651,20.64F.651,20.650.651,20.651.670,626.631,626.632,626.645,626.646,",
    "626.649,626.64A,628.631,628.632,628.645,628.646,628.649,628.64A,62A.631,62A.632,62A.645,",
    "62A.646,62A.649,62A.64A,62B.631,62B.632,62B.645,62B.646,62B.649,62B.64A,641.649,641.64A,",
    "642.649,642.64A,643.627,643.644,643.645,643.649,643.64A,644.645,644.649,644.64A,645.627,",
    "645.645,646.631,646.632,646.645,646.646,646.649,646.64A,649.670,64A.631,64A.632,64A.645,",
    "64A.646,64A.649,64A.64A,626.62C,626.62D,626.62E,626.645,626.647,628.62C,628.62D,628.62E,",
    "628.645,628.647,62A.62C,62A.62D,62A.62E,62A.645,62A.647,62B.645,62C.62D,62C.645,62D.62C,",
    "62D.645,62E.62C,62E.645,633.62C,633.62D,633.62E,633.645,635.62D,635.62E,635.645,636.62C,",
    "636.62D,636.62E,636.645,637.62D,638.645,639.62C,639.645,63A.62C,63A.645,641.62C,641.62D,",
    "641.62E,641.645,642.62D,642.645,643.62C,643.62D,643.62E,643.644,643.645,644.62C,644.62D,",
    "644.62E,644.645,644.647,645.62C,645.62D,645.62E,645.645,646.62C,646.62D,646.62E,646.645,",
    "646.647,647.62C,647.645,647.670,64A.62C,64A.62D,64A.62E,64A.645,64A.647,626.645,626.647,",
    "628.645,628.647,62A.645,62A.647,62B.645,62B.647,633.645,633.647,634.645,634.647,643.644,",
    "643.645,644.645,646.645,646.647,64A.645,64A.647,640.64E.651,640.64F.651,640.650.651,",
    "637.649,637.64A,639.649,639.64A,63A.649,63A.64A,633.649,633.64A,634.649,634.64A,62D.649,",
    "62D.64A,62C.649,62C.64A,62E.649,62E.64A,635.649,635.64A,636.649,636.64A,634.62C,634.62D,",
    "634.62E,634.645,634.631,633.631,635.631,636.631,637.649,637.64A,639.649,639.64A,63A.649,",
    "63A.64A,633.649,633.64A,634.649,634.64A,62D.649,62D.64A,62C.649,62C.64A,62E.649,62E.64A,",
    "635.649,635.64A,636.649,636.64A,634.62C,634.62D,634.62E,634.645,634.631,633.631,635.631,",
    "636.631,634.62C,634.62D,634.62E,634.645,633.647,634.647,637.645,633.62C,633.62D,633.62E,",
    "634.62C,634.62D,634.62E,637.645,638.645,627.64B,627.64B FD50-FD8F:62A.62C.645,62A.62D.62C,",
    "62A.62D.62C,62A.62D.645,62A.62E.645,62A.645.62C,62A.645.62D,62A.645.62E,62C.645.62D,",
    "62C.645.62D,62D.645.64A,62D.645.649,633.62D.62C,633.62C.62D,633.62C.649,633.645.62D,",
    "633.645.62D,633.645.62C,633.645.645,633.645.645,635.62D.62D,635.62D.62D,635.645.645,",
    "634.62D.645,634.62D.645,634.62C.64A,634.645.62E,634.645.62E,634.645.645,634.645.645,",
    "636.62D.649,636.62E.645,636.62E.645,637.645.62D,637.645.62D,637.645.645,637.645.64A,",
    "639.62C.645,639.645.645,639.645.645,639.645.649,63A.645.645,63A.645.64A,63A.645.649,",
    "641.62E.645,641.62E.645,642.645.62D,642.645.645,644.62D.645,644.62D.64A,644.62D.649,",
    "644.62C.62C,644.62C.62C,644.62E.645,644.62E.645,644.645.62D,644.645.62D,645.62D.62C,",
    "645.62D.645,645.62D.64A,645.62C.62D,645.62C.645,645.62E.62C,645.62E.645 ",
    "FD92-FDC7:645.62C.62E,647.645.62C,647.645.645,646.62D.645,646.62D.649,646.62C.645,",
    "646.62C.645,646.62C.649,646.645.64A,646.645.649,64A.645.645,64A.645.645,628.62E.64A,",
    "62A.62C.64A,62A.62C.649,62A.62E.64A,62A.62E.649,62A.645.64A,62A.645.649,62C.645.64A,",
    "62C.62D.649,62C.645.649,633.62E.649,635.62D.64A,634.62D.64A,636.62D.64A,644.62C.64A,",
    "644.645.64A,64A.62D.64A,64A.62C.64A,64A.645.64A,645.645.64A,642.645.64A,646.62D.64A,",
    "642.645.62D,644.62D.645,639.645.64A,643.645.64A,646.62C.62D,645.62E.64A,644.62C.645,",
    "643.645.645,644.62C.645,646.62C.62D,62C.62D.64A,62D.62C.64A,645.62C.64A,641.645.64A,",
    "628.62D.64A,643.645.645,639.62C.645,635.645.645,633.62E.64A,646.62C.64A FDD0-FDEFx ",
    "FDF0-FDFC:635.644.6D2,642.644.6D2,627.644.644.647,627.643.628.631,645.62D.645.62F,",
    "635.644.639.645,631.633.648.644,639.644.64A.647,648.633.644.645,635.644.649,",
    "635.644.649.20.627.644.644.647.20.639.644.64A.647.20.648.633.644.645,",
    "62C.644.20.62C.644.627.644.647,631.6CC.627.644 FE00-FE0Fi FE10-FE11:2C,3001 FE12x ",
    "FE13-FE18:3A,3B,21,3F,3016,3017 FE19-FE1Fx FE30x FE31-FE40:2014,2013,5F,5F,28,29,7B,7D,",
    "3014,3015,3010,3011,300A,300B,3008,3009 FE41-FE44<CE35 FE47-FE48:5B,5D FE49-FE4C=20.305 ",
    "FE4D-FE4F=5F FE50-FE51:2C,3001 FE52-FE53x FE54-FE66:3B,3A,3F,21,2014,28,29,7B,7D,3014,",
    "3015,23,26,2A,2B,2D,3C,3E,3D FE67x FE68-FE6B:5C,24,25,40 FE6C-FE6Fx FE70-FE72:20.64B,",
    "640.64B,20.64C FE74:20.64D FE75x FE76-FE88:20.64E,640.64E,20.64F,640.64F,20.650,640.650,",
    "20.651,640.651,20.652,640.652,621,622,622,623,623,624,624,625,625 FE89-FE8C=626 ",
    "FE8D-FE8E:627,627 FE8F-FE92=628 FE93-FE94:629,629 FE95-FE98=62A FE99-FE9C=62B ",
    "FE9D-FEA0=62C FEA1-FEA4=62D FEA5-FEA8=62E FEA9-FEB0:62F,62F,630,630,631,631,632,632 ",
    "FEB1-FEB4=633 FEB5-FEB8=634 FEB9-FEBC=635 FEBD-FEC0=636 FEC1-FEC4=637 FEC5-FEC8=638 ",
    "FEC9-FECC=639 FECD-FED0=63A FED1-FED4=641 FED5-FED8=642 FED9-FEDC=643 FEDD-FEE0=644 ",
    "FEE1-FEE4=645 FEE5-FEE8=646 FEE9-FEEC=647 FEED-FEF0:648,648,649,649 FEF1-FEF4=64A ",
    "FEF5-FEFC:644.622,644.622,644.623,644.623,644.625,644.625,644.627,644.627 FEFD-FEFEx ",
    "FEFFi FF00x FF01-FF20<FEE0 FF21-FF3A<FEC0 FF3B-FF5E<FEE0 FF5F-FF84:2985,2986,2E,300C,300D,",
    "3001,30FB,30F2,30A1,30A3,30A5,30A7,30A9,30E3,30E5,30E7,30C3,30FC,30A2,30A4,30A6,30A8,30AA,",
    "30AB,30AD,30AF,30B1,30B3,30B5,30B7,30B9,30BB,30BD,30BF,30C1,30C4,30C6,30C8 FF85-FF8A<CEBB ",
    "FF8B-FF8E:30D2,30D5,30D8,30DB FF8F-FF93<CEB1 FF94-FF95:30E4,30E6 FF96-FF9B<CEAE ",
    "FF9C-FF9F:30EF,30F3,3099,309A FFA0i FFA1-FFA9:1100,1101,11AA,1102,11AC,11AD,1103,1104,",
    "1105 FFAA-FFAF<EDFA FFB0-FFB4:111A,1106,1107,1108,1121 FFB5-FFBE<EEAC FFBF-FFC1x ",
    "FFC2-FFC7<EE61 FFC8-FFC9x FFCA-FFCF<EE63 FFD0-FFD1x FFD2-FFD7<EE65 FFD8-FFD9x ",
    "FFDA-FFDC<EE67 FFDD-FFDFx FFE0-FFE6:A2,A3,AC,20.304,A6,A5,20A9 FFE7x FFE8:2502 ",
    "FFE9-FFEC<DE59 FFED-FFEE:25A0,25CB FFEF-FFFFx 1000Cx 10027x 1003Bx 1003Ex 1004E-1004Fx ",
    "1005E-1007Fx 100FB-100FFx 10103-10106x 10134-10136x 1018Fx 1019D-1019Fx 101A1-101CFx ",
    "101FE-1027Fx 1029D-1029Fx 102D1-102DFx 102FC-102FFx 10324-1032Cx 1034B-1034Fx ",
    "1037B-1037Fx 1039Ex 103C4-103C7x 103D6-103FFx 10400-10427+28 1049E-1049Fx 104AA-104AFx ",
    "104B0-104D3+28 104D4-104D7x 104FC-104FFx 10528-1052Fx 10564-1056Ex 10570-1057A+27 1057Bx ",
    "1057C-1058A+27 1058Bx 1058C-10592+27 10593x 10594-10595:105BB,105BC 10596x 105A2x 105B2x ",
    "105BAx 105BD-105BFx 105F4-105FFx 10737-1073Fx 10756-1075Fx 10768-1077Fx 10781-10785:2D0,",
    "2D1,E6,299,253 10786x 10787-107B0:2A3,AB66,2A5,2A4,256,257,1D91,258,25E,2A9,264,262,260,",
    "29B,127,29C,267,284,2AA,2AB,26C,1DF04,A78E,26E,1DF05,28E,1DF06,F8,276,277,71,27A,1DF08,",
    "27D,27E,280,2A8,2A6,AB67,2A7,288,2C71 107B1x 107B2-107BA:28F,2A1,2A2,298,1C0,1C1,1C2,",
    "1DF0A,1DF1E 107BB-107FFx 10806-10807x 10809x 10836x 10839-1083Bx 1083D-1083Ex 10856x ",
    "1089F-108A6x 108B0-108DFx 108F3x 108F6-108FAx 1091C-1091Ex 1093A-1093Ex 1095A-1097Fx ",
    "109B8-109BBx 109D0-109D1x 10A04x 10A07-10A0Bx 10A14x 10A18x 10A36-10A37x 10A3B-10A3Ex ",
    "10A49-10A4Fx 10A59-10A5Fx 10AA0-10ABFx 10AE7-10AEAx 10AF7-10AFFx 10B36-10B38x ",
    "10B56-10B57x 10B73-10B77x 10B92-10B98x 10B9D-10BA8x 10BB0-10BFFx 10C49-10C7Fx ",
    "10C80-10CB2+40 10CB3-10CBFx 10CF3-10CF9x 10D28-10D2Fx 10D3A-10D3Fx 10D50-10D65+20 ",
    "10D66-10D68x 10D86-10D8Dx 10D90-10E5Fx 10E7Fx 10EAAx 10EAE-10EAFx 10EB2-10EC1x ",
    "10EC8-10ECFx 10ED9-10EF9x 10F28-10F2Fx 10F5A-10F6Fx 10F8A-10FAFx 10FCC-10FDFx ",
    "10FF7-10FFFx 1104E-11051x 11076-1107Ex 110BDx 110C3-110CFx 110E9-110EFx 110FA-110FFx ",
    "11135x 11148-1114Fx 11177-1117Fx 111E0x 111F5-111FFx 11212x 11242-1127Fx 11287x 11289x ",
    "1128Ex 1129Ex 112AA-112AFx 112EB-112EFx 112FA-112FFx 11304x 1130D-1130Ex 11311-11312x ",
    "11329x 11331x 11334x 1133Ax 11345-11346x 11349-1134Ax 1134E-1134Fx 11351-11356x ",
    "11358-1135Cx 11364-11365x 1136D-1136Fx 11375-1137Fx 1138Ax 1138C-1138Fx 113B6x 113C1x ",
    "113C3-113C6x 113CBx 113D6x 113D9-113E0x 113E3-113FFx 1145Cx 11462-1147Fx 114C8-114CFx ",
    "114DA-1157Fx 115B6-115B7x 115DE-115FFx 11645-1164Fx 1165A-1165Fx 1166D-1167Fx ",
    "116BA-116BFx 116CA-116CFx 116E4-116FFx 1171B-1171Cx 1172C-1172Fx 11747-117FFx ",
    "1183C-1189Fx 118A0-118BF+20 118F3-118FEx 11907-11908x 1190A-1190Bx 11914x 11917x 11936x ",
    "11939-1193Ax 11947-1194Fx 1195A-1199Fx 119A8-119A9x 119D8-119D9x 119E5-119FFx ",
    "11A48-11A4Fx 11AA3-11AAFx 11AF9-11AFFx 11B0A-11B5Fx 11B68-11BBFx 11BE2-11BEFx ",
    "11BFA-11BFFx 11C09x 11C37x 11C46-11C4Fx 11C6D-11C6Fx 11C90-11C91x 11CA8x 11CB7-11CFFx ",
    "11D07x 11D0Ax 11D37-11D39x 11D3Bx 11D3Ex 11D48-11D4Fx 11D5A-11D5Fx 11D66x 11D69x 11D8Fx ",
    "11D92x 11D99-11D9Fx 11DAA-11DAFx 11DDC-11DDFx 11DEA-11EDFx 11EF9-11EFFx 11F11x ",
    "11F3B-11F3Dx 11F5B-11FAFx 11FB1-11FBFx 11FF2-11FFEx 1239A-123FFx 1246Fx 12475-1247Fx ",
    "12544-12F8Fx 12FF3-12FFFx 13430-1343Fx 13456-1345Fx 143FB-143FFx 14647-160FFx ",
    "1613A-167FFx 16A39-16A3Fx 16A5Fx 16A6A-16A6Dx 16ABFx 16ACA-16ACFx 16AEE-16AEFx ",
    "16AF6-16AFFx 16B46-16B4Fx 16B5Ax 16B62x 16B78-16B7Cx 16B90-16D3Fx 16D7A-16E3Fx ",
    "16E40-16E5F+20 16E9B-16E9Fx 16EA0-16EB8+1B 16EB9-16EBAx 16ED4-16EFFx 16F4B-16F4Ex ",
    "16F88-16F8Ex 16FA0-16FDFx 16FE5-16FEFx 16FF7-16FFFx 18CD6-18CFEx 18D1F-18D7Fx ",
    "18DF3-1AFEFx 1AFF4x 1AFFCx 1AFFFx 1B123-1B131x 1B133-1B14Fx 1B153-1B154x 1B156-1B163x ",
    "1B168-1B16Fx 1B2FC-1BBFFx 1BC6B-1BC6Fx 1BC7D-1BC7Fx 1BC89-1BC8Fx 1BC9A-1BC9Bx ",
    "1BCA0-1BCA3i 1BCA4-1CBFFx 1CCD6-1CCEF<1CC75 1CCF0-1CCF9<1CCC0 1CCFD-1CCFFx 1CEB4-1CEB9x ",
    "1CED1-1CEDFx 1CEF1-1CEFFx 1CF2E-1CF2Fx 1CF47-1CF4Fx 1CFC4-1CFFFx 1D0F6-1D0FFx ",
    "1D127-1D128x 1D173-1D17Ai 1D1EB-1D1FFx 1D246-1D2BFx 1D2D4-1D2DFx 1D2F4-1D2FFx ",
    "1D357-1D35Fx 1D379-1D3FFx 1D400-1D419<1D39F 1D41A-1D433<1D3B9 1D434-1D44D<1D3D3 ",
    "1D44E-1D454<1D3ED 1D455x 1D456-1D467<1D3ED 1D468-1D481<1D407 1D482-1D49B<1D421 1D49C:61 ",
    "1D49Dx 1D49E-1D49F:63,64 1D4A0-1D4A1x 1D4A2:67 1D4A3-1D4A4x 1D4A5-1D4A6:6A,6B ",
    "1D4A7-1D4A8x 1D4A9-1D4AC<1D43B 1D4ADx 1D4AE-1D4B5<1D43B 1D4B6-1D4B9<1D455 1D4BAx 1D4BB:66 ",
    "1D4BCx 1D4BD-1D4C3<1D455 1D4C4x 1D4C5-1D4CF<1D455 1D4D0-1D4E9<1D46F 1D4EA-1D503<1D489 ",
    "1D504-1D505:61,62 1D506x 1D507-1D50A<1D4A3 1D50B-1D50Cx 1D50D-1D514<1D4A3 1D515x ",
    "1D516-1D51C<1D4A3 1D51Dx 1D51E-1D537<1D4BD 1D538-1D539:61,62 1D53Ax 1D53B-1D53E<1D4D7 ",
    "1D53Fx 1D540-1D544<1D4D7 1D545x 1D546:6F 1D547-1D549x 1D54A-1D550<1D4D7 1D551x ",
    "1D552-1D56B<1D4F1 1D56C-1D585<1D50B 1D586-1D59F<1D525 1D5A0-1D5B9<1D53F 1D5BA-1D5D3<1D559 ",
    "1D5D4-1D5ED<1D573 1D5EE-1D607<1D58D 1D608-1D621<1D5A7 1D622-1D63B<1D5C1 1D63C-1D655<1D5DB ",
    "1D656-1D66F<1D5F5 1D670-1D689<1D60F 1D68A-1D6A3<1D629 1D6A4-1D6A5:131,237 1D6A6-1D6A7x ",
    "1D6A8-1D6B8<1D2F7 1D6B9:3B8 1D6BA-1D6C0<1D2F7 1D6C1:2207 1D6C2-1D6D2<1D311 1D6D3:3C3 ",
    "1D6D4-1D6DA<1D311 1D6DB-1D6E1:2202,3B5,3B8,3BA,3C6,3C1,3C0 1D6E2-1D6F2<1D331 1D6F3:3B8 ",
    "1D6F4-1D6FA<1D331 1D6FB:2207 1D6FC-1D70C<1D34B 1D70D:3C3 1D70E-1D714<1D34B ",
    "1D715-1D71B:2202,3B5,3B8,3BA,3C6,3C1,3C0 1D71C-1D72C<1D36B 1D72D:3B8 1D72E-1D734<1D36B ",
    "1D735:2207 1D736-1D746<1D385 1D747:3C3 1D748-1D74E<1D385 1D74F-1D755:2202,3B5,3B8,3BA,3C6,",
    "3C1,3C0 1D756-1D766<1D3A5 1D767:3B8 1D768-1D76E<1D3A5 1D76F:2207 1D770-1D780<1D3BF ",
    "1D781:3C3 1D782-1D788<1D3BF 1D789-1D78F:2202,3B5,3B8,3BA,3C6,3C1,3C0 1D790-1D7A0<1D3DF ",
    "1D7A1:3B8 1D7A2-1D7A8<1D3DF 1D7A9:2207 1D7AA-1D7BA<1D3F9 1D7BB:3C3 1D7BC-1D7C2<1D3F9 ",
    "1D7C3-1D7CB:2202,3B5,3B8,3BA,3C6,3C1,3C0,3DD,3DD 1D7CC-1D7CDx 1D7CE-1D7D7<1D79E ",
    "1D7D8-1D7E1<1D7A8 1D7E2-1D7EB<1D7B2 1D7EC-1D7F5<1D7BC 1D7F6-1D7FF<1D7C6 1DA8C-1DA9Ax ",
    "1DAA0x 1DAB0-1DEFFx 1DF1F-1DF24x 1DF2B-1DFFFx 1E007x 1E019-1E01Ax 1E022x 1E025x ",
    "1E02B-1E02Fx 1E030-1E038<1DC00 1E039-1E03B<1DBFF 1E03C-1E046<1DBFE 1E047-1E050:44B,44D,",
    "44E,A689,4D9,456,458,4E9,4AF,4CF 1E051-1E059<1DC21 1E05A-1E05E:43A,43B,43E,43F,441 ",
    "1E05F-1E064<1DC1C 1E065-1E06D:44A,44B,491,456,455,45F,4AB,A651,4B1 1E06E-1E08Ex ",
    "1E090-1E0FFx 1E12D-1E12Fx 1E13E-1E13Fx 1E14A-1E14Dx 1E150-1E28Fx 1E2AF-1E2BFx ",
    "1E2FA-1E2FEx 1E300-1E4CFx 1E4FA-1E5CFx 1E5FB-1E5FEx 1E600-1E6BFx 1E6DFx 1E6F6-1E6FDx ",
    "1E700-1E7DFx 1E7E7x 1E7ECx 1E7EFx 1E7FFx 1E8C5-1E8C6x 1E8D7-1E8FFx 1E900-1E921+22 ",
    "1E94C-1E94Fx 1E95A-1E95Dx 1E960-1EC70x 1ECB5-1ED00x 1ED3E-1EDFFx 1EE00-1EE03:627,628,62C,",
    "62F 1EE04x 1EE05-1EE09:648,632,62D,637,64A 1EE0A-1EE0D<1E7C7 1EE0E-1EE1F:633,639,641,635,",
    "642,631,634,62A,62B,62E,630,636,638,63A,66E,6BA,6A1,66F 1EE20x 1EE21-1EE22:628,62C 1EE23x ",
    "1EE24:647 1EE25-1EE26x 1EE27:62D 1EE28x 1EE29:64A 1EE2A-1EE2D<1E7E7 1EE2E-1EE32:633,639,",
    "641,635,642 1EE33x 1EE34-1EE37:634,62A,62B,62E 1EE38x 1EE39:636 1EE3Ax 1EE3B:63A ",
    "1EE3C-1EE41x 1EE42:62C 1EE43-1EE46x 1EE47:62D 1EE48x 1EE49:64A 1EE4Ax 1EE4B:644 1EE4Cx ",
    "1EE4D-1EE4F:646,633,639 1EE50x 1EE51-1EE52:635,642 1EE53x 1EE54:634 1EE55-1EE56x ",
    "1EE57:62E 1EE58x 1EE59:636 1EE5Ax 1EE5B:63A 1EE5Cx 1EE5D:6BA 1EE5Ex 1EE5F:66F 1EE60x ",
    "1EE61-1EE62:628,62C 1EE63x 1EE64:647 1EE65-1EE66x 1EE67-1EE6A:62D,637,64A,643 1EE6Bx ",
    "1EE6C-1EE72:645,646,633,639,641,635,642 1EE73x 1EE74-1EE77:634,62A,62B,62E 1EE78x ",
    "1EE79-1EE7C:636,638,63A,66E 1EE7Dx 1EE7E:6A1 1EE7Fx 1EE80-1EE89:627,628,62C,62F,647,648,",
    "632,62D,637,64A 1EE8Ax 1EE8B-1EE8D<1E847 1EE8E-1EE9B:633,639,641,635,642,631,634,62A,62B,",
    "62E,630,636,638,63A 1EE9C-1EEA0x 1EEA1-1EEA3:628,62C,62F 1EEA4x 1EEA5-1EEA9:648,632,62D,",
    "637,64A 1EEAAx 1EEAB-1EEAD<1E867 1EEAE-1EEBB:633,639,641,635,642,631,634,62A,62B,62E,630,",
    "636,638,63A 1EEBC-1EEEFx 1EEF2-1EFFFx 1F02C-1F02Fx 1F094-1F09Fx 1F0AF-1F0B0x 1F0C0x ",
    "1F0D0x 1F0F6-1F100x 1F101-1F10A:30.2C,31.2C,32.2C,33.2C,34.2C,35.2C,36.2C,37.2C,38.2C,",
    "39.2C 1F110-1F12E:28.61.29,28.62.29,28.63.29,28.64.29,28.65.29,28.66.29,28.67.29,28.68.29,",
    "28.69.29,28.6A.29,28.6B.29,28.6C.29,28.6D.29,28.6E.29,28.6F.29,28.70.29,28.71.29,28.72.29,",
    "28.73.29,28.74.29,28.75.29,28.76.29,28.77.29,28.78.29,28.79.29,28.7A.29,3014.73.3015,63,",
    "72,63.64,77.7A 1F130-1F149<1F0CF 1F14A-1F14F:68.76,6D.76,73.64,73.73,70.70.76,77.63 ",
    "1F16A-1F16C:6D.63,6D.64,6D.72 1F190:64.6A 1F1AE-1F1E5x 1F200-1F202:307B.304B,30B3.30B3,",
    "30B5 1F203-1F20Fx 1F210-1F23B:624B,5B57,53CC,30C7,4E8C,591A,89E3,5929,4EA4,6620,7121,6599,",
    "524D,5F8C,518D,65B0,521D,7D42,751F,8CA9,58F0,5439,6F14,6295,6355,4E00,4E09,904A,5DE6,4E2D,",
    "53F3,6307,8D70,6253,7981,7A7A,5408,6E80,6709,6708,7533,5272,55B6,914D 1F23C-1F23Fx ",
    "1F240-1F248:3014.672C.3015,3014.4E09.3015,3014.4E8C.3015,3014.5B89.3015,3014.70B9.3015,",
    "3014.6253.3015,3014.76D7.3015,3014.52DD.3015,3014.6557.3015 1F249-1F24Fx 1F250-1F251:5F97,",
    "53EF 1F252-1F25Fx 1F266-1F2FFx 1F6D9-1F6DBx 1F6ED-1F6EFx 1F6FD-1F6FFx 1F7DA-1F7DFx ",
    "1F7EC-1F7EFx 1F7F1-1F7FFx 1F80C-1F80Fx 1F848-1F84Fx 1F85A-1F85Fx 1F888-1F88Fx ",
    "1F8AE-1F8AFx 1F8BC-1F8BFx 1F8C2-1F8CFx 1F8D9-1F8FFx 1FA58-1FA5Fx 1FA6E-1FA6Fx ",
    "1FA7D-1FA7Fx 1FA8B-1FA8Dx 1FAC7x 1FAC9-1FACCx 1FADD-1FADEx 1FAEB-1FAEEx 1FAF9-1FAFFx ",
    "1FB93x 1FBF0-1FBF9<1FBC0 1FBFB-1FFFFx 2A6E0-2A6FFx 2B81E-2B81Fx 2CEAE-2CEAFx 2EBE1-2EBEFx ",
    "2EE5E-2FFFFx 3134B-3134Fx 3347A-E00FFx E0100-E01EFi E01F0-10FFFFx"]

/-- The table. -/
def spellings : List (Row Spelling) := rows Spelling.read spellingText

/-- The spelling of the character that lies `i` characters behind the first of its range. -/
def Spelling.of (c : Char) (i : Nat) : Spelling → Option (List Char)
  | .refused => none
  | .dropped => some []
  | .ahead n => some [Char.ofNat (c.toNat + n)]
  | .back n => some [Char.ofNat (c.toNat - n)]
  | .everyOther => some [if i % 2 = 0 then Char.ofNat (c.toNat + 1) else c]
  | .same cs => some cs
  | .each css => css[i]?

/-- The spelling of a character that cannot be taken apart; nothing if it is refused. -/
def spell? (c : Char) : Option (List Char) :=
  if c.toNat < 0x80 then some [c.toLower]
  else
    match spellings.find? fun r => r.covers c.toNat with
    | none => some [c]
    | some r => r.entry.of c (c.toNat - r.first)

/-- The spelling of a text. -/
def spelled? (cs : List Char) : Option (List Char) :=
  ((decomposed cs).mapM spell?).map fun css => composed css.flatten

end AdminConsole.Domain
