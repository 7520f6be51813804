import RequestKeys.Unicode.Ranges

/-!
# Simple case folding

Two characters are equal up to case when they have the same simple case folding.  The table lists
the ordered pairs of distinct equal characters: `first-last/step+distance` pairs each `step`-th
character from `first` to `last` with the one `distance` further on, or back for a minus.
-/

namespace RequestKeys.Unicode

def foldingRuns : String :=
  "41-5A/1+20 4B-4B/1+20DF 53-53/1+12C 61-7A/1-20 6B-6B/1+20BF 73-73/1+10C B5-B5/1+2E7 B5-B5/1+307
  C0-D6/1+20 C5-C5/1+2066 D8-DE/1+20 DF-DF/1+1DBF E0-F6/1-20 E5-E5/1+2046 F8-FE/1-20 FF-FF/1+79
  100-12E/2+1 101-12F/2-1 132-136/2+1 133-137/2-1 139-147/2+1 13A-148/2-1 14A-176/2+1 14B-177/2-1
  178-178/1-79 179-17D/2+1 17A-17E/2-1 17F-17F/1-12C 17F-17F/1-10C 180-180/1+C3 181-181/1+D2
  182-184/2+1 183-185/2-1 186-186/1+CE 187-187/1+1 188-188/1-1 189-18A/1+CD 18B-18B/1+1 18C-18C/1-1
  18E-18E/1+4F 18F-18F/1+CA 190-190/1+CB 191-191/1+1 192-192/1-1 193-193/1+CD 194-194/1+CF
  195-195/1+61 196-196/1+D3 197-197/1+D1 198-198/1+1 199-199/1-1 19A-19A/1+A3 19B-19B/1+A641
  19C-19C/1+D3 19D-19D/1+D5 19E-19E/1+82 19F-19F/1+D6 1A0-1A4/2+1 1A1-1A5/2-1 1A6-1A6/1+DA
  1A7-1A7/1+1 1A8-1A8/1-1 1A9-1A9/1+DA 1AC-1AC/1+1 1AD-1AD/1-1 1AE-1AE/1+DA 1AF-1AF/1+1 1B0-1B0/1-1
  1B1-1B2/1+D9 1B3-1B5/2+1 1B4-1B6/2-1 1B7-1B7/1+DB 1B8-1B8/1+1 1B9-1B9/1-1 1BC-1BC/1+1 1BD-1BD/1-1
  1BF-1BF/1+38 1C4-1C4/1+2 1C4-1C5/1+1 1C5-1C6/1-1 1C6-1C6/1-2 1C7-1C7/1+2 1C7-1C8/1+1 1C8-1C9/1-1
  1C9-1C9/1-2 1CA-1CA/1+2 1CA-1CB/1+1 1CB-1CC/1-1 1CC-1CC/1-2 1CD-1DB/2+1 1CE-1DC/2-1 1DD-1DD/1-4F
  1DE-1EE/2+1 1DF-1EF/2-1 1F1-1F1/1+2 1F1-1F2/1+1 1F2-1F3/1-1 1F3-1F3/1-2 1F4-1F4/1+1 1F5-1F5/1-1
  1F6-1F6/1-61 1F7-1F7/1-38 1F8-21E/2+1 1F9-21F/2-1 220-220/1-82 222-232/2+1 223-233/2-1
  23A-23A/1+2A2B 23B-23B/1+1 23C-23C/1-1 23D-23D/1-A3 23E-23E/1+2A28 23F-240/1+2A3F 241-241/1+1
  242-242/1-1 243-243/1-C3 244-244/1+45 245-245/1+47 246-24E/2+1 247-24F/2-1 250-250/1+2A1F
  251-251/1+2A1C 252-252/1+2A1E 253-253/1-D2 254-254/1-CE 256-257/1-CD 259-259/1-CA 25B-25B/1-CB
  25C-25C/1+A54F 260-260/1-CD 261-261/1+A54B 263-263/1-CF 264-264/1+A567 265-265/1+A528
  266-266/1+A544 268-268/1-D1 269-269/1-D3 26A-26A/1+A544 26B-26B/1+29F7 26C-26C/1+A541 26F-26F/1-D3
  271-271/1+29FD 272-272/1-D5 275-275/1-D6 27D-27D/1+29E7 280-280/1-DA 282-282/1+A543 283-283/1-DA
  287-287/1+A52A 288-288/1-DA 289-289/1-45 28A-28B/1-D9 28C-28C/1-47 292-292/1-DB 29D-29D/1+A515
  29E-29E/1+A512 345-345/1+54 345-345/1+74 345-345/1+1C79 370-372/2+1 371-373/2-1 376-376/1+1
  377-377/1-1 37B-37D/1+82 37F-37F/1+74 386-386/1+26 388-38A/1+25 38C-38C/1+40 38E-38F/1+3F
  390-390/1+1C43 391-3A1/1+20 392-392/1+3E 395-395/1+60 398-398/1+39 398-398/1+5C 399-399/1-54
  399-399/1+1C25 39A-39A/1+56 39C-39C/1-2E7 3A0-3A0/1+36 3A1-3A1/1+50 3A3-3A3/1+1F 3A3-3AB/1+20
  3A6-3A6/1+2F 3A9-3A9/1+1D7D 3AC-3AC/1-26 3AD-3AF/1-25 3B0-3B0/1+1C33 3B1-3C1/1-20 3B2-3B2/1+1E
  3B5-3B5/1+40 3B8-3B8/1+19 3B8-3B8/1+3C 3B9-3B9/1-74 3B9-3B9/1+1C05 3BA-3BA/1+36 3BC-3BC/1-307
  3C0-3C0/1+16 3C1-3C1/1+30 3C2-3C2/1-1F 3C2-3C2/1+1 3C3-3C3/1-1 3C3-3CB/1-20 3C6-3C6/1+F
  3C9-3C9/1+1D5D 3CC-3CC/1-40 3CD-3CE/1-3F 3CF-3CF/1+8 3D0-3D0/1-3E 3D0-3D0/1-1E 3D1-3D1/1-39
  3D1-3D1/1-19 3D1-3D1/1+23 3D5-3D5/1-2F 3D5-3D5/1-F 3D6-3D6/1-36 3D6-3D6/1-16 3D7-3D7/1-8
  3D8-3EE/2+1 3D9-3EF/2-1 3F0-3F0/1-56 3F0-3F0/1-36 3F1-3F1/1-50 3F1-3F1/1-30 3F2-3F2/1+7
  3F3-3F3/1-74 3F4-3F4/1-5C 3F4-3F4/1-3C 3F4-3F4/1-23 3F5-3F5/1-60 3F5-3F5/1-40 3F7-3F7/1+1
  3F8-3F8/1-1 3F9-3F9/1-7 3FA-3FA/1+1 3FB-3FB/1-1 3FD-3FF/1-82 400-40F/1+50 410-42F/1+20
  412-412/1+186E 414-414/1+186D 41E-41E/1+1864 421-422/1+1862 422-422/1+1863 42A-42A/1+185C
  430-44F/1-20 432-432/1+184E 434-434/1+184D 43E-43E/1+1844 441-442/1+1842 442-442/1+1843
  44A-44A/1+183C 450-45F/1-50 460-480/2+1 461-481/2-1 462-462/1+1825 463-463/1+1824 48A-4BE/2+1
  48B-4BF/2-1 4C0-4C0/1+F 4C1-4CD/2+1 4C2-4CE/2-1 4CF-4CF/1-F 4D0-52E/2+1 4D1-52F/2-1 531-556/1+30
  561-586/1-30 10A0-10C5/1+1C60 10C7-10C7/1+1C60 10CD-10CD/1+1C60 10D0-10FA/1+BC0 10FD-10FF/1+BC0
  13A0-13EF/1+97D0 13F0-13F5/1+8 13F8-13FD/1-8 1C80-1C80/1-186E 1C80-1C80/1-184E 1C81-1C81/1-186D
  1C81-1C81/1-184D 1C82-1C82/1-1864 1C82-1C82/1-1844 1C83-1C84/1-1862 1C83-1C84/1-1842 1C84-1C84/1+1
  1C85-1C85/1-1863 1C85-1C85/1-1843 1C85-1C85/1-1 1C86-1C86/1-185C 1C86-1C86/1-183C 1C87-1C87/1-1825
  1C87-1C87/1-1824 1C88-1C88/1+89C2 1C88-1C88/1+89C3 1C89-1C89/1+1 1C8A-1C8A/1-1 1C90-1CBA/1-BC0
  1CBD-1CBF/1-BC0 1D79-1D79/1+8A04 1D7D-1D7D/1+EE6 1D8E-1D8E/1+8A38 1E00-1E94/2+1 1E01-1E95/2-1
  1E60-1E60/1+3B 1E61-1E61/1+3A 1E9B-1E9B/1-3B 1E9B-1E9B/1-3A 1E9E-1E9E/1-1DBF 1EA0-1EFE/2+1
  1EA1-1EFF/2-1 1F00-1F07/1+8 1F08-1F0F/1-8 1F10-1F15/1+8 1F18-1F1D/1-8 1F20-1F27/1+8 1F28-1F2F/1-8
  1F30-1F37/1+8 1F38-1F3F/1-8 1F40-1F45/1+8 1F48-1F4D/1-8 1F51-1F57/2+8 1F59-1F5F/2-8 1F60-1F67/1+8
  1F68-1F6F/1-8 1F70-1F71/1+4A 1F72-1F75/1+56 1F76-1F77/1+64 1F78-1F79/1+80 1F7A-1F7B/1+70
  1F7C-1F7D/1+7E 1F80-1F87/1+8 1F88-1F8F/1-8 1F90-1F97/1+8 1F98-1F9F/1-8 1FA0-1FA7/1+8 1FA8-1FAF/1-8
  1FB0-1FB1/1+8 1FB3-1FB3/1+9 1FB8-1FB9/1-8 1FBA-1FBB/1-4A 1FBC-1FBC/1-9 1FBE-1FBE/1-1C79
  1FBE-1FBE/1-1C25 1FBE-1FBE/1-1C05 1FC3-1FC3/1+9 1FC8-1FCB/1-56 1FCC-1FCC/1-9 1FD0-1FD1/1+8
  1FD3-1FD3/1-1C43 1FD8-1FD9/1-8 1FDA-1FDB/1-64 1FE0-1FE1/1+8 1FE3-1FE3/1-1C33 1FE5-1FE5/1+7
  1FE8-1FE9/1-8 1FEA-1FEB/1-70 1FEC-1FEC/1-7 1FF3-1FF3/1+9 1FF8-1FF9/1-80 1FFA-1FFB/1-7E
  1FFC-1FFC/1-9 2126-2126/1-1D7D 2126-2126/1-1D5D 212A-212A/1-20DF 212A-212A/1-20BF 212B-212B/1-2066
  212B-212B/1-2046 2132-2132/1+1C 214E-214E/1-1C 2160-216F/1+10 2170-217F/1-10 2183-2183/1+1
  2184-2184/1-1 24B6-24CF/1+1A 24D0-24E9/1-1A 2C00-2C2F/1+30 2C30-2C5F/1-30 2C60-2C60/1+1
  2C61-2C61/1-1 2C62-2C62/1-29F7 2C63-2C63/1-EE6 2C64-2C64/1-29E7 2C65-2C65/1-2A2B 2C66-2C66/1-2A28
  2C67-2C6B/2+1 2C68-2C6C/2-1 2C6D-2C6D/1-2A1C 2C6E-2C6E/1-29FD 2C6F-2C6F/1-2A1F 2C70-2C70/1-2A1E
  2C72-2C72/1+1 2C73-2C73/1-1 2C75-2C75/1+1 2C76-2C76/1-1 2C7E-2C7F/1-2A3F 2C80-2CE2/2+1
  2C81-2CE3/2-1 2CEB-2CED/2+1 2CEC-2CEE/2-1 2CF2-2CF2/1+1 2CF3-2CF3/1-1 2D00-2D25/1-1C60
  2D27-2D27/1-1C60 2D2D-2D2D/1-1C60 A640-A66C/2+1 A641-A66D/2-1 A64A-A64A/1-89C2 A64B-A64B/1-89C3
  A680-A69A/2+1 A681-A69B/2-1 A722-A72E/2+1 A723-A72F/2-1 A732-A76E/2+1 A733-A76F/2-1 A779-A77B/2+1
  A77A-A77C/2-1 A77D-A77D/1-8A04 A77E-A786/2+1 A77F-A787/2-1 A78B-A78B/1+1 A78C-A78C/1-1
  A78D-A78D/1-A528 A790-A792/2+1 A791-A793/2-1 A794-A794/1+30 A796-A7A8/2+1 A797-A7A9/2-1
  A7AA-A7AA/1-A544 A7AB-A7AB/1-A54F A7AC-A7AC/1-A54B A7AD-A7AD/1-A541 A7AE-A7AE/1-A544
  A7B0-A7B0/1-A512 A7B1-A7B1/1-A52A A7B2-A7B2/1-A515 A7B3-A7B3/1+3A0 A7B4-A7C2/2+1 A7B5-A7C3/2-1
  A7C4-A7C4/1-30 A7C5-A7C5/1-A543 A7C6-A7C6/1-8A38 A7C7-A7C9/2+1 A7C8-A7CA/2-1 A7CB-A7CB/1-A567
  A7CC-A7DA/2+1 A7CD-A7DB/2-1 A7DC-A7DC/1-A641 A7F5-A7F5/1+1 A7F6-A7F6/1-1 AB53-AB53/1-3A0
  AB70-ABBF/1-97D0 FB05-FB05/1+1 FB06-FB06/1-1 FF21-FF3A/1+20 FF41-FF5A/1-20 10400-10427/1+28
  10428-1044F/1-28 104B0-104D3/1+28 104D8-104FB/1-28 10570-1057A/1+27 1057C-1058A/1+27
  1058C-10592/1+27 10594-10595/1+27 10597-105A1/1-27 105A3-105B1/1-27 105B3-105B9/1-27
  105BB-105BC/1-27 10C80-10CB2/1+40 10CC0-10CF2/1-40 10D50-10D65/1+20 10D70-10D85/1-20
  118A0-118BF/1+20 118C0-118DF/1-20 16E40-16E5F/1+20 16E60-16E7F/1-20 16EA0-16EB8/1+1B
  16EBB-16ED3/1-1B 1E900-1E921/1+22 1E922-1E943/1-22"

/-- Characters at equal steps, each with an equal one at the same distance. -/
structure FoldingRun where
  first : Nat
  last : Nat
  step : Nat
  distance : Int

/-- The reading of `first-last/step+distance`. -/
def readFoldingRun (word : List Char) : FoldingRun :=
  let isMark (c : Char) := c == '-' || c == '/' || c == '+'
  let first := word.takeWhile (!isMark ·)
  let afterFirst := (word.dropWhile (!isMark ·)).drop 1
  let last := afterFirst.takeWhile (!isMark ·)
  let afterLast := (afterFirst.dropWhile (!isMark ·)).drop 1
  let step := afterLast.takeWhile (!isMark ·)
  let afterStep := afterLast.dropWhile (!isMark ·)
  let size : Int := digitsValue 16 (afterStep.drop 1)
  { first := digitsValue 16 first
    last := digitsValue 16 last
    step := digitsValue 16 step
    distance := if afterStep.head? = some '-' then -size else size }

def foldingTable : List FoldingRun := (tableWords foldingRuns).map readFoldingRun

/-- The code points of a run. -/
def FoldingRun.members (r : FoldingRun) : List Nat :=
  (List.range ((r.last - r.first) / r.step + 1)).map fun i => r.first + i * r.step

/-- The members of a set with all characters equal to them up to case. -/
def closeUnderCase (s : Ranges) : Ranges :=
  let partners := foldingTable.flatMap fun r =>
    r.members.filterMap fun n =>
      if s.contains n then
        let m := ((n : Int) + r.distance).toNat
        some (m, m)
      else none
  if partners.isEmpty then s else Ranges.union s (.normalize partners)

end RequestKeys.Unicode
