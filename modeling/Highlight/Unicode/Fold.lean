import Highlight.Unicode.Table

/-!
Characters that are equal but for case. Most of them come in pairs of a fixed distance; where more
than two are equal, they are listed together.
-/

namespace Highlight.Unicode

/-- The lower ones of the pairs, by the distance to the higher ones. -/
def casePairTable : Table := "
1: 100-12E/2 132-136/2 139-147/2 14A-176/2 179-17D/2 182 184 187 18B 191 198 1A0-1A4/2 1A7 1AC 1AF
  1B3 1B5 1B8 1BC 1CD-1DB/2 1DE-1EE/2 1F4 1F8-21E/2 222-232/2 23B 241 246-24E/2 370 372 376
  3D8-3EE/2 3F7 3FA 460 464-480/2 48A-4BE/2 4C1-4CD/2 4D0-52E/2 1C89 1E00-1E5E/2 1E62-1E94/2
  1EA0-1EFE/2 2183 2C60 2C67-2C6B/2 2C72 2C75 2C80-2CE2/2 2CEB 2CED 2CF2 A640-A648/2 A64C-A66C/2
  A680-A69A/2 A722-A72E/2 A732-A76E/2 A779 A77B A77E-A786/2 A78B A790 A792 A796-A7A8/2 A7B4-A7C2/2
  A7C7 A7C9 A7CC A7D0 A7D6-A7DA/2 A7F5 FB05;
7: 3F2 1FE5;
8: 3CF 13F0-13F5 1F00-1F07 1F10-1F15 1F20-1F27 1F30-1F37 1F40-1F45 1F51-1F57/2 1F60-1F67 1F80-1F87
  1F90-1F97 1FA0-1FA7 1FB0-1FB1 1FD0-1FD1 1FE0-1FE1;
9: 1FB3 1FC3 1FF3;
F: 4C0;
10: 2160-216F;
1A: 24B6-24CF;
1C: 2132;
20: 41-4A 4C-52 54-5A C0-C4 C6-D6 D8-DE 391 393-394 396-397 39B 39D-39F 3A4-3A5 3A7-3A8 3AA-3AB
  410-411 413 415-41D 41F-420 423-429 42B-42F FF21-FF3A 10D50-10D65 118A0-118BF 16E40-16E5F;
22: 1E900-1E921;
25: 388-38A;
26: 386;
27: 10570-1057A 1057C-1058A 1058C-10592 10594-10595;
28: 10400-10427 104B0-104D3;
30: 531-556 2C00-2C2F A794;
38: 1BF;
3F: 38E-38F;
40: 38C 10C80-10CB2;
45: 244;
47: 245;
4A: 1F70-1F71;
4F: 18E;
50: 400-40F;
56: 1F72-1F75;
61: 195;
64: 1F76-1F77;
70: 1F7A-1F7B;
74: 37F;
79: FF;
7E: 1F7C-1F7D;
80: 1F78-1F79;
82: 19E 37B-37D;
A3: 19A;
C3: 180;
CA: 18F;
CB: 190;
CD: 189-18A 193;
CE: 186;
CF: 194;
D1: 197;
D2: 181;
D3: 196 19C;
D5: 19D;
D6: 19F;
D9: 1B1-1B2;
DA: 1A6 1A9 1AE;
DB: 1B7;
3A0: A7B3;
BC0: 10D0-10FA 10FD-10FF;
EE6: 1D7D;
1C33: 3B0;
1C43: 390;
1C60: 10A0-10C5 10C7 10CD;
1DBF: DF;
29E7: 27D;
29F7: 26B;
29FD: 271;
2A1C: 251;
2A1E: 252;
2A1F: 250;
2A28: 23E;
2A2B: 23A;
2A3F: 23F-240;
8A04: 1D79;
8A38: 1D8E;
97D0: 13A0-13EF;
A512: 29E;
A515: 29D;
A528: 265;
A52A: 287;
A541: 26C;
A543: 282;
A544: 266 26A;
A54B: 261;
A54F: 25C;
A567: 264;
A641: 19B
"

def caseGroupTable : Table := "
4B 6B 212A;
53 73 17F;
B5 39C 3BC;
C5 E5 212B;
1C4 1C5 1C6;
1C7 1C8 1C9;
1CA 1CB 1CC;
1F1 1F2 1F3;
345 399 3B9 1FBE;
392 3B2 3D0;
395 3B5 3F5;
398 3B8 3D1 3F4;
39A 3BA 3F0;
3A0 3C0 3D6;
3A1 3C1 3F1;
3A3 3C2 3C3;
3A6 3C6 3D5;
3A9 3C9 2126;
412 432 1C80;
414 434 1C81;
41E 43E 1C82;
421 441 1C83;
422 442 1C84 1C85;
42A 44A 1C86;
462 463 1C87;
1C88 A64A A64B;
1E60 1E61 1E9B
"

def caseGroups : List (List Nat) :=
  (Table.entries caseGroupTable).map (fun group => (wordsOf group).map codePoint) ++
    (Table.entries casePairTable).flatMap fun entry =>
      let distance := ((Table.names entry).head?.map codePoint).getD 0
      (Table.ranges entry).flatMap fun range =>
        (List.range (range.2 + 1 - range.1)).map fun i =>
          [range.1 + i, range.1 + i + distance]

def hasCase (c : Char) : Bool := caseGroups.any fun group => c.toNat ∈ group

def foldCase (s : CharSet) : CharSet :=
  s.union (.ofRanges ((caseGroups.filter fun group => group.any s.containsCode).flatMap fun group =>
    group.map fun n => (n, n)))

end Highlight.Unicode
