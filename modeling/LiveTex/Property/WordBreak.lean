import LiveTex.CharSet.Table
import LiveTex.Property.Name

/-!
Classes of characters by which a text is cut into words.
-/

namespace LiveTex.Property

/-- The classes for the bounds of words. Characters without one have the label `XX`. -/
def wordBreaks : Partition := .ofRows
  ["XX:9 LF NL:1 CR XX:11 WSegSpace XX DQ XX:3 SQ XX:3 MN XX MB XX NU:9 ML MN XX:4 LE:19 XX:3",
   "EX XX LE:19 XX:9 NL XX:23 LE XX:1 FO XX:6 LE XX ML XX:1 LE XX:4 LE:16 XX LE:1e XX LE:1df",
   "XX:5 LE:21 Extend:6f LE:4 XX LE:1 XX:1 LE:3 MN LE XX:5 LE ML LE:2 XX LE XX LE:13 XX LE:52",
   "XX LE:8a XX Extend:6 LE:a5 XX LE:25 XX:1 LE:3 XX LE ML LE:28 MN LE XX:5 Extend:2c XX Extend",
   "XX Extend:1 XX Extend:1 XX Extend XX:7 HL:1a XX:3 HL:3 LE ML XX:a NU:5 XX:5 MN:1 XX:1",
   "Extend:a XX FO XX:2 LE:2a Extend:14 NU:9 XX NU MN XX LE:1 Extend LE:62 XX LE Extend:6 NU XX",
   "Extend:5 LE:1 Extend:1 XX Extend:3 LE:1 NU:9 LE:2 XX:1 LE XX:e LE:1 Extend LE:1d Extend:1a",
   "XX:1 LE:58 Extend:a LE XX:d NU:9 LE:20 Extend:8 LE:1 XX:1 MN XX LE XX:1 Extend XX:1 LE:15",
   "Extend:3 LE Extend:8 LE Extend:2 LE Extend:4 XX:11 LE:18 Extend:2 XX:3 LE:a XX:4 LE:17 XX",
   "LE:5 XX NU:1 XX:4 Extend:8 LE:29 Extend:17 NU Extend:20 LE:35 Extend:2 LE Extend:11 LE",
   "Extend:6 LE:9 Extend:1 XX:1 NU:9 XX LE:f Extend:2 XX LE:7 XX:1 LE:1 XX:1 LE:15 XX LE:6 XX",
   "LE XX:2 LE:3 XX:1 Extend LE Extend:6 XX:1 Extend:1 XX:1 Extend:2 LE XX:7 Extend XX:3 LE:1",
   "XX LE:2 Extend:1 XX:1 NU:9 LE:1 XX:9 LE XX Extend XX:1 Extend:2 XX LE:5 XX:3 LE:1 XX:1",
   "LE:15 XX LE:6 XX LE:1 XX LE:1 XX LE:1 XX:1 Extend XX Extend:4 XX:3 Extend:1 XX:1 Extend:2",
   "XX:2 Extend XX:6 LE:3 XX LE XX:6 NU:9 Extend:1 LE:2 Extend XX:a Extend:2 XX LE:8 XX LE:2 XX",
   "LE:15 XX LE:6 XX LE:1 XX LE:4 XX:1 Extend LE Extend:7 XX Extend:2 XX Extend:2 XX:1 LE XX:e",
   "LE:1 Extend:1 XX:1 NU:9 XX:8 LE Extend:5 XX Extend:2 XX LE:7 XX:1 LE:1 XX:1 LE:15 XX LE:6",
   "XX LE:1 XX LE:4 XX:1 Extend LE Extend:6 XX:1 Extend:1 XX:1 Extend:2 XX:6 Extend:2 XX:3 LE:1",
   "XX LE:2 Extend:1 XX:1 NU:9 XX LE XX:f Extend LE XX LE:5 XX:2 LE:2 XX LE:3 XX:2 LE:1 XX LE",
   "XX LE:1 XX:2 LE:1 XX:2 LE:2 XX:2 LE:b XX:3 Extend:4 XX:2 Extend:2 XX Extend:3 XX:1 LE XX:5",
   "Extend XX:d NU:9 XX:f Extend:4 LE:7 XX LE:2 XX LE:16 XX LE:f XX:1 Extend LE Extend:6 XX",
   "Extend:2 XX Extend:3 XX:6 Extend:1 XX LE:2 XX:1 LE XX:1 LE:1 Extend:1 XX:1 NU:9 XX:f LE",
   "Extend:2 XX LE:7 XX LE:2 XX LE:16 XX LE:9 XX LE:4 XX:1 Extend LE Extend:6 XX Extend:2 XX",
   "Extend:3 XX:6 Extend:1 XX:5 LE:1 XX LE:1 Extend:1 XX:1 NU:9 XX LE:1 Extend XX:b Extend:3",
   "LE:8 XX LE:2 XX LE:28 Extend:1 LE Extend:6 XX Extend:2 XX Extend:3 LE XX:4 LE:2 Extend XX:6",
   "LE:2 Extend:1 XX:1 NU:9 XX:9 LE:5 XX Extend:2 XX LE:11 XX:2 LE:17 XX LE:8 XX LE XX:1 LE:6",
   "XX:2 Extend XX:3 Extend:5 XX Extend XX Extend:7 XX:5 NU:9 XX:1 Extend:1 XX:3c Extend XX:1",
   "Extend:6 XX:b Extend:7 XX NU:9 XX:56 Extend XX:1 Extend:8 XX:a Extend:6 XX NU:9 XX:25 LE",
   "XX:16 Extend:1 XX:5 NU:9 XX:a Extend XX Extend XX Extend XX:3 Extend:1 LE:7 XX LE:23 XX:3",
   "Extend:13 XX Extend:1 LE:4 Extend:a XX Extend:23 XX:8 Extend XX:63 Extend:13 XX NU:9 XX:b",
   "Extend:3 XX:3 Extend:2 XX Extend:2 XX:1 Extend:6 XX:2 Extend:3 XX:c Extend:b XX Extend NU:9",
   "Extend:3 XX:1 LE:25 XX LE XX:4 LE XX:1 LE:2a XX LE:14c XX LE:3 XX:1 LE:6 XX LE XX LE:3 XX:1",
   "LE:28 XX LE:3 XX:1 LE:20 XX LE:3 XX:1 LE:6 XX LE XX LE:3 XX:1 LE:e XX LE:38 XX LE:3 XX:1",
   "LE:42 XX:1 Extend:2 XX:1f LE:f XX:f LE:55 XX:1 LE:5 XX:2 LE:26b XX:1 LE:10 WSegSpace LE:19",
   "XX:4 LE:4a XX:2 LE:a XX:6 LE:11 Extend:3 XX:8 LE:12 Extend:2 XX:a LE:11 Extend:1 XX:b LE:c",
   "XX LE:2 XX Extend:1 XX:3f Extend:1f XX:8 Extend XX:1 NU:9 XX:20 Extend:2 FO Extend NU:9",
   "XX:5 LE:58 XX:6 LE:4 Extend:1 LE:21 Extend LE XX:4 LE:45 XX:9 LE:1e XX Extend:b XX:3",
   "Extend:b XX:9 NU:9 XX:7f NU:a XX:24 LE:16 Extend:4 XX:38 Extend:9 XX Extend:1c XX:1 Extend",
   "NU:9 XX:5 NU:9 XX:15 Extend:1e XX:30 Extend:4 LE:2e Extend:10 LE:7 XX:2 NU:9 XX:10 Extend:8",
   "XX:b Extend:2 LE:1d Extend:c LE:1 NU:9 LE:2b Extend:d XX:b LE:23 Extend:13 XX:7 NU:9 XX:2",
   "LE:2 NU:9 LE:23 XX:1 LE:a XX:4 LE:2a XX:1 LE:2 XX:f Extend:2 XX Extend:14 LE:3 Extend LE:5",
   "Extend LE:1 Extend:2 LE XX:4 LE:bf Extend:3f LE:115 XX:1 LE:5 XX:1 LE:25 XX:1 LE:5 XX:1",
   "LE:7 XX LE XX LE XX LE XX LE:1e XX:1 LE:34 XX LE:6 XX LE XX:2 LE:2 XX LE:6 XX:2 LE:3 XX:1",
   "LE:5 XX:3 LE:c XX:4 LE:2 XX LE:6 XX:2 WSegSpace:6 XX WSegSpace:2 XX Extend ZWJ FO:1 XX:7",
   "MB:1 XX:9 MB XX:1 ML NL:1 FO:4 EX XX:e EX:1 XX:2 MN XX:e EX XX:9 WSegSpace FO:4 XX FO:9 XX",
   "LE XX:c LE XX:f LE:c XX:32 Extend:20 XX:10 LE XX:3 LE XX:1 LE:9 XX LE XX:2 LE:4 XX:5 LE XX",
   "LE XX LE XX LE:3 XX LE:a XX:1 LE:3 XX:4 LE:4 XX:3 LE XX:10 LE:28 XX:32c LE:33 XX:715 LE:e4",
   "XX:5 LE:3 Extend:2 LE:1 XX:b LE:25 XX LE XX:4 LE XX:1 LE:37 XX:6 LE XX:e Extend LE:16 XX:8",
   "LE:6 XX LE:6 XX LE:6 XX LE:6 XX LE:6 XX LE:6 XX LE:6 XX LE:6 XX Extend:1f XX:2e LE XX:1cf",
   "WSegSpace XX:3 LE XX:23 Extend:5 XX KA:4 XX:4 LE:1 XX:5b Extend:1 KA:1 XX:2 KA:5a XX KA:3",
   "XX:4 LE:2a XX LE:5d XX:10 LE:1f XX:2f KA:f XX:cf KA:2e XX KA:57 XX:6ca7 LE:48c XX:42 LE:2d",
   "XX:1 LE:10c XX:2 LE:f NU:9 LE:1 XX:13 LE:2e Extend:3 XX Extend:9 XX LE:1e Extend:1 LE:4f",
   "Extend:1 XX:15 LE:c5 XX:1 LE:1 XX LE XX LE:7 XX:14 LE:f Extend LE:2 Extend LE:3 Extend",
   "LE:16 Extend:4 XX:3 Extend XX:12 LE:33 XX:b Extend:1 LE:31 Extend:11 XX:9 NU:9 XX:5",
   "Extend:11 LE:5 XX:2 LE XX LE:1 Extend NU:9 LE:1b Extend:7 XX:1 LE:16 Extend:c XX:b LE:1c",
   "XX:2 Extend:3 LE:2e Extend:d XX:d LE NU:9 XX:a Extend XX:9 NU:9 XX:5 LE:28 Extend:d XX:8",
   "LE:2 Extend LE:7 Extend:1 XX:1 NU:9 XX:20 Extend:2 XX:31 Extend XX Extend:2 XX:1 Extend:1",
   "XX:4 Extend:1 XX Extend XX:1d LE:a Extend:4 XX:1 LE:2 Extend:1 XX:9 LE:5 XX:1 LE:5 XX:1",
   "LE:5 XX:8 LE:6 XX LE:6 XX LE:39 XX:5 LE:72 Extend:7 XX Extend:1 XX:1 NU:9 XX:5 LE:2ba3 XX:b",
   "LE:16 XX:3 LE:30 XX:2303 LE:6 XX:b LE:4 XX:4 HL Extend HL:9 XX HL:c XX HL:4 XX HL XX HL:1",
   "XX HL:1 XX HL:9 LE:61 XX:20 LE:16a XX:11 LE:3f XX:1 LE:35 XX:27 LE:b XX:3 Extend:f XX:2 ML",
   "XX:b Extend:f XX:2 EX:1 XX:17 EX:2 MN XX MB XX MN ML XX:19 LE:4 XX LE:86 XX:1 FO XX:6 MB",
   "XX:3 MN XX MB XX NU:9 ML MN XX:4 LE:19 XX:3 EX XX LE:19 XX:a KA:37 Extend:1 LE:1e XX:2 LE:5",
   "XX:1 LE:5 XX:1 LE:5 XX:1 LE:2 XX:1b FO:2 XX:3 LE:b XX LE:19 XX LE:12 XX LE:1 XX LE:e XX:1",
   "LE:d XX:21 LE:7a XX:44 LE:34 XX:87 Extend XX:81 LE:1c XX:2 LE:30 XX:e Extend XX:1e LE:1f",
   "XX:c LE:1d XX:4 LE:25 Extend:4 XX:4 LE:1d XX:1 LE:23 XX:3 LE:7 XX LE:4 XX:29 LE:9d XX:1",
   "NU:9 XX:5 LE:23 XX:3 LE:23 XX:3 LE:27 XX:7 LE:33 XX:b LE:a XX LE:e XX LE:6 XX LE:1 XX LE:a",
   "XX LE:e XX LE:6 XX LE:1 XX:2 LE:33 XX:b LE:136 XX:8 LE:15 XX:9 LE:7 XX:17 LE:5 XX LE:29 XX",
   "LE:8 XX:44 LE:5 XX:1 LE XX LE:2b XX LE:1 XX:2 LE XX:1 LE:16 XX:9 LE:16 XX:8 LE:1e XX:40",
   "LE:12 XX LE:1 XX:9 LE:15 XX:9 LE:19 XX:45 LE:37 XX:5 LE:1 XX:3f LE Extend:2 XX Extend:1",
   "XX:4 Extend:3 LE:3 XX LE:2 XX LE:1c XX:1 Extend:2 XX:3 Extend XX:1f LE:1c XX:2 LE:1c XX:22",
   "LE:7 XX LE:1b Extend:1 XX:18 LE:35 XX:9 LE:15 XX:9 LE:12 XX:c LE:11 XX:6d LE:48 XX:36 LE:32",
   "XX:c LE:32 XX:c LE:23 Extend:3 XX:7 NU:9 XX:5 NU:9 LE:1b XX:2 Extend:4 XX LE:16 XX:f9 LE:29",
   "XX Extend:1 XX:2 LE:1 XX:f LE:2 XX:36 Extend:3 LE:1c XX:9 LE XX:7 LE:15 Extend:a XX:1e",
   "LE:11 Extend:3 XX:29 LE:14 XX:1a LE:16 XX:8 Extend:2 LE:34 Extend:e XX:1e NU:9 Extend LE:1",
   "Extend:1 LE XX:8 Extend:3 LE:2c Extend:a XX:1 NU XX:3 Extend XX:9 NU XX:1 LE:18 XX:6 NU:9",
   "XX:5 Extend:2 LE:23 Extend:d XX NU:9 XX:3 LE Extend:1 LE XX:7 LE:22 Extend XX:1 LE XX:8",
   "Extend:2 LE:2f Extend:d LE:3 XX:3 Extend:3 XX Extend:1 NU:9 LE XX LE XX:22 LE:11 XX LE:18",
   "Extend:b XX:5 Extend LE:1 Extend XX:3d LE:6 XX LE XX LE:3 XX LE:e XX LE:9 XX:6 LE:2e",
   "Extend:b XX:4 NU:9 XX:5 Extend:3 XX LE:7 XX:1 LE:1 XX:1 LE:15 XX LE:6 XX LE:1 XX LE:4 XX",
   "Extend:1 LE Extend:6 XX:1 Extend:1 XX:1 Extend:2 XX:1 LE XX:5 Extend XX:4 LE:4 Extend:1",
   "XX:1 Extend:6 XX:2 Extend:4 XX:a LE:9 XX LE XX:1 LE XX LE:25 XX LE Extend:8 XX Extend XX:1",
   "Extend XX Extend:3 XX Extend:4 LE Extend LE XX:c Extend:1 XX:1c LE:34 Extend:11 LE:3 XX:4",
   "NU:9 XX:3 Extend LE:2 XX:1d LE:2f Extend:13 LE:1 XX LE XX:7 NU:9 XX:a5 LE:2e Extend:6 XX:1",
   "Extend:8 XX:16 LE:3 Extend:1 XX:21 LE:2f Extend:10 XX:2 LE XX:a NU:9 XX:25 LE:2a Extend:c",
   "LE XX:6 NU:9 XX:5 NU:13 XX:38 Extend:e XX:3 NU:9 XX:c5 LE:2b Extend:e XX:64 LE:3f NU:9",
   "XX:14 LE:7 XX:1 LE XX:1 LE:7 XX LE:1 XX LE:17 Extend:5 XX Extend:1 XX:1 Extend:3 LE Extend",
   "LE Extend:1 XX:b NU:9 XX:45 LE:7 XX:1 LE:26 Extend:6 XX:1 Extend:6 LE XX LE Extend XX:1a LE",
   "Extend:9 LE:27 Extend:6 LE Extend:3 XX:7 Extend XX:7 LE Extend:a LE:2d Extend:f XX:2 LE",
   "XX:11 LE:48 XX:c6 LE:20 XX:e NU:9 XX:5 LE:8 XX LE:24 Extend:7 XX Extend:7 LE XX:e NU:9",
   "XX:17 LE:1d XX:1 Extend:15 XX Extend:d XX:48 LE:6 XX LE:1 XX LE:25 Extend:5 XX:2 Extend XX",
   "Extend:1 XX Extend:6 LE Extend XX:7 NU:9 XX:5 LE:5 XX LE:1 XX LE:1f Extend:4 XX Extend:1 XX",
   "Extend:4 LE XX:6 NU:9 XX:135 LE:12 Extend:3 XX:8 Extend:1 LE Extend LE:c XX LE:21 Extend:6",
   "XX:2 Extend:4 XX:c NU:9 Extend XX:54 LE XX:4e LE:399 XX:65 LE:6e XX:10 LE:c3 XX:a4b LE:60",
   "XX:e LE:42f FO:f Extend LE:5 Extend:e XX:9 LE:f9a XX:4 LE:246 XX:1ab8 LE:1d Extend:11 NU:9",
   "XX:6c5 LE:238 XX:6 LE:1e XX NU:9 XX:5 LE:4e XX NU:9 XX:5 LE:1d XX:1 Extend:4 XX:a LE:2f",
   "Extend:6 XX:8 LE:3 XX:b NU:9 XX:8 LE:14 XX:4 LE:12 XX:1af LE:2c XX:2 NU:9 XX:c5 LE:3f XX:7f",
   "LE:4a XX:3 Extend LE Extend:36 XX:6 Extend:3 LE:c XX:3f LE:1 XX LE Extend XX:a Extend:1",
   "XX:3ffd KA:3 XX KA:6 XX KA:1 XX KA XX:11e KA:2 XX:31 KA XX:d KA:3 XX:a97 LE:6a XX:4 LE:c",
   "XX:2 LE:8 XX:6 LE:9 XX:2 Extend:1 XX FO:3 XX:104b NU:9 XX:205 Extend:2d XX:1 Extend:16",
   "XX:21d Extend:4 XX:2 Extend:5 FO:7 Extend:7 XX:1 Extend:6 XX:1d Extend:3 XX:93 Extend:2",
   "XX:1ba LE:54 XX LE:46 XX LE:1 XX:1 LE XX:1 LE:1 XX:1 LE:3 XX LE:b XX LE XX LE:6 XX LE:40 XX",
   "LE:3 XX:1 LE:7 XX LE:6 XX LE:1b XX LE:3 XX LE:4 XX LE XX:2 LE:6 XX LE:153 XX:1 LE:18 XX",
   "LE:18 XX LE:1e XX LE:18 XX LE:1e XX LE:18 XX LE:1e XX LE:18 XX LE:1e XX LE:18 XX LE:7 XX:1",
   "NU:31 XX:1ff Extend:36 XX:3 Extend:31 XX:7 Extend XX:d Extend XX:15 Extend:4 XX Extend:e",
   "XX:44f LE:1e XX:5 LE:5 XX:d4 Extend:6 XX Extend:10 XX:1 Extend:6 XX Extend:1 XX Extend:4",
   "XX:4 LE:3d XX:20 Extend XX:6f LE:2c XX:2 Extend:6 LE:6 XX:1 NU:9 XX:3 LE XX:140 LE:1d",
   "Extend XX:10 LE:2b Extend:3 NU:9 XX:1d5 LE:1b Extend:3 NU:9 XX:d5 LE:1d Extend:1 LE NU:9",
   "XX:1e4 LE:6 XX LE:3 XX LE:1 XX LE:e XX LE:c4 XX:a Extend:6 XX:28 LE:43 Extend:6 LE XX:3",
   "NU:9 XX:4a5 LE:3 XX LE:1a XX LE:1 XX LE XX:1 LE XX LE:9 XX LE:3 XX LE XX LE XX:5 LE XX:3 LE",
   "XX LE XX LE XX LE:2 XX LE:1 XX LE XX:1 LE XX LE XX LE XX LE XX LE XX LE:1 XX LE XX:1 LE:3",
   "XX LE:6 XX LE:3 XX LE:3 XX LE XX LE:9 XX LE:10 XX:4 LE:2 XX LE:4 XX LE:10 XX:273 LE:19 XX:5",
   "LE:19 XX:5 LE:19 XX:5b RI:19 XX:1fa Extend:4 XX:7ef NU:9 XX:c0406 FO XX:1d Extend:5f XX:7f",
   "Extend:ef XX:2fe0f"]

/-- The names of the classes. -/
def wordBreakNames : List String :=
  ["LE ALetter", "CR", "DQ Double_Quote", "Extend", "EX ExtendNumLet", "FO Format",
   "HL Hebrew_Letter", "KA Katakana", "LF", "ML MidLetter", "MN MidNum", "MB MidNumLet",
   "NL Newline", "NU Numeric", "RI Regional_Indicator", "SQ Single_Quote", "WSegSpace", "ZWJ"]

/-- The characters of the class with a name. -/
def ofWordBreak? (name : Text) : Option CharSet :=
  (label? wordBreakNames name).map fun code => wordBreaks.select (· == code)

end LiveTex.Property
