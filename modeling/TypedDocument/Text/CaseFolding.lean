import TypedDocument.Text.CharRanges

/-!
# Case folding

Folding maps the cased forms of a character to one representative by adding a fixed distance. Two characters differ
only in case when they fold to the same representative.
-/

namespace TypedDocument.CaseFolding

/-- The characters that are not their own representative, grouped by the distance to it. -/
def shifts : List (Int × CharRanges) :=
  [(32, .ofTable "41-5A C0-D6 D8-DE 391-3A1 3A3-3AB 410-42F FF21-FF3A 118A0-118BF 16E40-16E5F"),
   (775, .ofTable "B5"),
   (1, .ofTable "
  100:12E 132:136 139:147 14A:176 179:17D 182:184 187 18B 191 198 1A0:1A4 1A7 1AC 1AF 1B3:1B5 1B8 1BC 1C5 1C8
  1CB:1DB 1DE:1EE 1F2:1F4 1F8:21E 222:232 23B 241 246:24E 370:372 376 3C2 3D8:3EE 3F7 3FA 460:480 48A:4BE 4C1:4CD
  4D0:52E 1E00:1E94 1EA0:1EFE 2183 2C60 2C67:2C6B 2C72 2C75 2C80:2CE2 2CEB:2CED 2CF2 A640:A66C A680:A69A A722:A72E
  A732:A76E A779:A77B A77E:A786 A78B A790:A792 A796:A7A8 A7B4:A7C2 A7C7:A7C9 A7D0 A7D6:A7D8 A7F5"),
   (-121, .ofTable "178"),
   (-268, .ofTable "17F"),
   (210, .ofTable "181"),
   (206, .ofTable "186"),
   (205, .ofTable "189-18A 193"),
   (79, .ofTable "18E"),
   (202, .ofTable "18F"),
   (203, .ofTable "190"),
   (207, .ofTable "194"),
   (211, .ofTable "196 19C"),
   (209, .ofTable "197"),
   (213, .ofTable "19D"),
   (214, .ofTable "19F"),
   (218, .ofTable "1A6 1A9 1AE"),
   (217, .ofTable "1B1-1B2"),
   (219, .ofTable "1B7"),
   (2, .ofTable "1C4 1C7 1CA 1F1"),
   (-97, .ofTable "1F6"),
   (-56, .ofTable "1F7"),
   (-130, .ofTable "220 3FD-3FF"),
   (10795, .ofTable "23A"),
   (-163, .ofTable "23D"),
   (10792, .ofTable "23E"),
   (-195, .ofTable "243"),
   (69, .ofTable "244"),
   (71, .ofTable "245"),
   (116, .ofTable "345 37F"),
   (38, .ofTable "386"),
   (37, .ofTable "388-38A"),
   (64, .ofTable "38C 10C80-10CB2"),
   (63, .ofTable "38E-38F"),
   (8, .ofTable "3CF"),
   (-30, .ofTable "3D0"),
   (-25, .ofTable "3D1"),
   (-15, .ofTable "3D5"),
   (-22, .ofTable "3D6"),
   (-54, .ofTable "3F0"),
   (-48, .ofTable "3F1 A7C4"),
   (-60, .ofTable "3F4"),
   (-64, .ofTable "3F5"),
   (-7, .ofTable "3F9 1FEC"),
   (80, .ofTable "400-40F"),
   (15, .ofTable "4C0"),
   (48, .ofTable "531-556 2C00-2C2F"),
   (7264, .ofTable "10A0-10C5 10C7 10CD"),
   (-8, .ofTable "
  13F8-13FD 1F08-1F0F 1F18-1F1D 1F28-1F2F 1F38-1F3F 1F48-1F4D 1F59:1F5F 1F68-1F6F 1F88-1F8F 1F98-1F9F 1FA8-1FAF
  1FB8-1FB9 1FD8-1FD9 1FE8-1FE9"),
   (-6222, .ofTable "1C80"),
   (-6221, .ofTable "1C81"),
   (-6212, .ofTable "1C82"),
   (-6210, .ofTable "1C83-1C84"),
   (-6211, .ofTable "1C85"),
   (-6204, .ofTable "1C86"),
   (-6180, .ofTable "1C87"),
   (35267, .ofTable "1C88"),
   (-3008, .ofTable "1C90-1CBA 1CBD-1CBF"),
   (-58, .ofTable "1E9B"),
   (-7615, .ofTable "1E9E"),
   (-74, .ofTable "1FBA-1FBB"),
   (-9, .ofTable "1FBC 1FCC 1FFC"),
   (-7173, .ofTable "1FBE"),
   (-86, .ofTable "1FC8-1FCB"),
   (-100, .ofTable "1FDA-1FDB"),
   (-112, .ofTable "1FEA-1FEB"),
   (-128, .ofTable "1FF8-1FF9"),
   (-126, .ofTable "1FFA-1FFB"),
   (-7517, .ofTable "2126"),
   (-8383, .ofTable "212A"),
   (-8262, .ofTable "212B"),
   (28, .ofTable "2132"),
   (16, .ofTable "2160-216F"),
   (26, .ofTable "24B6-24CF"),
   (-10743, .ofTable "2C62"),
   (-3814, .ofTable "2C63"),
   (-10727, .ofTable "2C64"),
   (-10780, .ofTable "2C6D"),
   (-10749, .ofTable "2C6E"),
   (-10783, .ofTable "2C6F"),
   (-10782, .ofTable "2C70"),
   (-10815, .ofTable "2C7E-2C7F"),
   (-35332, .ofTable "A77D"),
   (-42280, .ofTable "A78D"),
   (-42308, .ofTable "A7AA A7AE"),
   (-42319, .ofTable "A7AB"),
   (-42315, .ofTable "A7AC"),
   (-42305, .ofTable "A7AD"),
   (-42258, .ofTable "A7B0"),
   (-42282, .ofTable "A7B1"),
   (-42261, .ofTable "A7B2"),
   (928, .ofTable "A7B3"),
   (-42307, .ofTable "A7C5"),
   (-35384, .ofTable "A7C6"),
   (-38864, .ofTable "AB70-ABBF"),
   (40, .ofTable "10400-10427 104B0-104D3"),
   (39, .ofTable "10570-1057A 1057C-1058A 1058C-10592 10594-10595"),
   (34, .ofTable "1E900-1E921")]

/-- The representative of a code point. -/
def fold (c : Nat) : Nat :=
  match shifts.find? fun (_, rs) => rs.contains c with
  | some (distance, _) => (c + distance).toNat
  | none => c

/-- The code points that differ from a code point only in case, itself included. -/
def variants (c : Nat) : List Nat :=
  let representative := fold c
  representative :: shifts.filterMap fun (distance, rs) =>
    let source := (representative - distance).toNat
    if rs.contains source then some source else none

end TypedDocument.CaseFolding
