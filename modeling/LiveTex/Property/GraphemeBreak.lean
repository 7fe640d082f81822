import LiveTex.CharSet.Table
import LiveTex.Property.Name

/-!
Classes of characters by which a text is cut into graphemes, the characters that users see.
-/

namespace LiveTex.Property

/-- The classes for the bounds of graphemes. Characters without one have the label `XX`. -/
def graphemeBreaks : Partition := .ofRows
  ["CN:9 LF CN:1 CR CN:11 XX:5e CN:20 XX:c CN XX:251 EX:6f XX:112 EX:6 XX:106 EX:2c XX EX XX",
   "EX:1 XX EX:1 XX EX XX:37 PP:5 XX:9 EX:a XX CN XX:2d EX:14 XX:f EX XX:64 EX:6 PP XX EX:5",
   "XX:1 EX:1 XX EX:3 XX:20 PP XX EX XX:1d EX:1a XX:5a EX:a XX:39 EX:8 XX:8 EX XX:17 EX:3 XX",
   "EX:8 XX EX:2 XX EX:4 XX:2a EX:2 XX:33 PP:1 XX:4 EX:8 XX:29 EX:17 PP EX:1f SM XX:35 EX SM EX",
   "XX SM:2 EX:7 SM:3 EX SM:1 XX EX:6 XX:9 EX:1 XX:1c EX SM:1 XX:37 EX XX EX SM:1 EX:3 XX:1",
   "SM:1 XX:1 SM:1 EX XX:8 EX XX:9 EX:1 XX:19 EX XX:1 EX:1 SM XX:37 EX XX SM:2 EX:1 XX:3 EX:1",
   "XX:1 EX:2 XX:2 EX XX:1d EX:1 XX:2 EX XX:a EX:1 SM XX:37 EX XX SM:2 EX:4 XX EX:1 SM XX SM:1",
   "EX XX:13 EX:1 XX:15 EX:5 XX EX SM:1 XX:37 EX XX EX:1 SM EX:3 XX:1 SM:1 XX:1 SM:1 EX XX:6",
   "EX:2 XX:9 EX:1 XX:1d EX XX:3a EX SM EX SM:1 XX:2 SM:2 XX SM:2 EX XX:8 EX XX:27 EX SM:2 EX",
   "XX:36 EX XX EX:2 SM:3 XX EX:2 XX EX:3 XX:6 EX:1 XX:a EX:1 XX:1c EX SM:1 XX:37 EX XX SM EX:1",
   "SM EX SM:1 XX EX:2 XX EX:3 XX:6 EX:1 XX:a EX:1 XX:e SM XX:b EX:1 SM:1 XX:36 EX:1 XX EX SM:1",
   "EX:3 XX SM:2 XX SM:2 EX PP XX:7 EX XX:9 EX:1 XX:1c EX SM:1 XX:45 EX XX:3 EX SM:1 EX:2 XX EX",
   "XX SM:6 EX XX:11 SM:1 XX:3c EX XX SM EX:6 XX:b EX:7 XX:61 EX XX SM EX:8 XX:a EX:6 XX:48",
   "EX:1 XX:1a EX XX EX XX EX XX:3 SM:1 XX:30 EX:d SM EX:4 XX EX:1 XX:4 EX:a XX EX:23 XX:8 EX",
   "XX:65 EX:3 SM EX:5 XX EX:1 SM:1 EX:1 XX:16 SM:1 EX:1 XX:3 EX:2 XX:f EX:3 XX:c EX XX SM EX:1",
   "XX:5 EX XX:e EX XX:61 L:5f V:47 T:57 XX:15c EX:2 XX:3b1 EX:3 XX:1b EX:2 XX:1c EX:1 XX:1d",
   "EX:1 XX:3f EX:1 SM EX:6 SM:7 EX SM:1 EX:a XX:8 EX XX:2c EX:2 CN EX XX:74 EX:1 XX:21 EX",
   "XX:75 EX:2 SM:3 EX:1 SM:2 XX:3 SM:1 EX SM:5 EX:2 XX:da EX:1 SM:1 EX XX:38 SM EX SM EX:6 XX",
   "EX XX EX XX:1 EX:7 SM:5 EX:9 XX:1 EX XX:2f EX:1e XX:30 EX:3 SM XX:2e EX:9 SM:3 EX:2 XX:25",
   "EX:8 XX:b EX:1 SM XX:1d SM EX:3 SM:1 EX:5 XX:37 EX SM EX:1 SM:2 EX SM EX:4 XX:2f SM:7 EX:7",
   "SM:1 EX:1 XX:97 EX:2 XX EX:c SM EX:6 XX:3 EX XX:5 EX XX:1 SM EX:1 XX:c5 EX:3f XX:20a CN EX",
   "ZWJ CN:1 XX:17 CN:6 XX:30 CN:f XX:5f EX:20 XX:bfd EX:2 XX:8c EX XX:5f EX:1f XX:229 EX:5",
   "XX:68 EX:1 XX:75d3 EX:3 XX EX:9 XX:1f EX:1 XX:4f EX:1 XX:10f EX XX:2 EX XX:3 EX XX:16 SM:1",
   "EX:1 SM XX:3 EX XX:52 SM:1 XX:31 SM:f EX:1 XX:19 EX:11 XX:c EX XX:25 EX:7 XX:18 EX:a SM EX",
   "XX:b L:1c XX:2 EX:2 SM XX:2e EX SM:1 EX:3 SM:1 EX:1 SM:1 EX XX:23 EX XX:42 EX:5 SM:1 EX:1",
   "SM:1 EX:1 XX:b EX XX:7 EX SM XX:2d EX XX:32 EX XX EX:2 XX:1 EX:1 XX:4 EX:1 XX EX XX:28 SM",
   "EX:1 SM:1 XX:4 SM EX XX:eb SM:1 EX SM:1 EX SM:1 XX SM EX XX:11 LV LVT:1a LV LVT:1a LV",
   "LVT:1a LV LVT:1a LV LVT:1a LV LVT:1a LV LVT:1a LV LVT:1a LV LVT:1a LV LVT:1a LV LVT:1a LV",
   "LVT:1a LV LVT:1a LV LVT:1a LV LVT:1a LV LVT:1a LV LVT:1a LV LVT:1a LV LVT:1a LV LVT:1a LV",
   "LVT:1a LV LVT:1a LV LVT:1a LV LVT:1a LV LVT:1a LV LVT:1a LV LVT:1a LV LVT:1a LV LVT:1a LV",
   "LVT:1a LV LVT:1a LV LVT:1a LV LVT:1a LV LVT:1a LV LVT:1a LV LVT:1a LV LVT:1a LV LVT:1a LV",
   "LVT:1a LV LVT:1a LV LVT:1a LV LVT:1a LV LVT:1a LV LVT:1a LV LVT:1a LV LVT:1a LV LVT:1a LV",
   "LVT:1a LV LVT:1a LV LVT:1a LV LVT:1a LV LVT:1a LV LVT:1a LV LVT:1a LV LVT:1a LV LVT:1a LV",
   "LVT:1a LV LVT:1a LV LVT:1a LV LVT:1a LV LVT:1a LV LVT:1a LV LVT:1a LV LVT:1a LV LVT:1a LV",
   "LVT:1a LV LVT:1a LV LVT:1a LV LVT:1a LV LVT:1a LV LVT:1a LV LVT:1a LV LVT:1a LV LVT:1a LV",
   "LVT:1a LV LVT:1a LV LVT:1a LV LVT:1a LV LVT:1a LV LVT:1a LV LVT:1a LV LVT:1a LV LVT:1a LV",
   "LVT:1a LV LVT:1a LV LVT:1a LV LVT:1a LV LVT:1a LV LVT:1a LV LVT:1a LV LVT:1a LV LVT:1a LV",
   "LVT:1a LV LVT:1a LV LVT:1a LV LVT:1a LV LVT:1a LV LVT:1a LV LVT:1a LV LVT:1a LV LVT:1a LV",
   "LVT:1a LV LVT:1a LV LVT:1a LV LVT:1a LV LVT:1a LV LVT:1a LV LVT:1a LV LVT:1a LV LVT:1a LV",
   "LVT:1a LV LVT:1a LV LVT:1a LV LVT:1a LV LVT:1a LV LVT:1a LV LVT:1a LV LVT:1a LV LVT:1a LV",
   "LVT:1a LV LVT:1a LV LVT:1a LV LVT:1a LV LVT:1a LV LVT:1a LV LVT:1a LV LVT:1a LV LVT:1a LV",
   "LVT:1a LV LVT:1a LV LVT:1a LV LVT:1a LV LVT:1a LV LVT:1a LV LVT:1a LV LVT:1a LV LVT:1a LV",
   "LVT:1a LV LVT:1a LV LVT:1a LV LVT:1a LV LVT:1a LV LVT:1a LV LVT:1a LV LVT:1a LV LVT:1a LV",
   "LVT:1a LV LVT:1a LV LVT:1a LV LVT:1a LV LVT:1a LV LVT:1a LV LVT:1a LV LVT:1a LV LVT:1a LV",
   "LVT:1a LV LVT:1a LV LVT:1a LV LVT:1a LV LVT:1a LV LVT:1a LV LVT:1a LV LVT:1a LV LVT:1a LV",
   "LVT:1a LV LVT:1a LV LVT:1a LV LVT:1a LV LVT:1a LV LVT:1a LV LVT:1a LV LVT:1a LV LVT:1a LV",
   "LVT:1a LV LVT:1a LV LVT:1a LV LVT:1a LV LVT:1a LV LVT:1a LV LVT:1a LV LVT:1a LV LVT:1a LV",
   "LVT:1a LV LVT:1a LV LVT:1a LV LVT:1a LV LVT:1a LV LVT:1a LV LVT:1a LV LVT:1a LV LVT:1a LV",
   "LVT:1a LV LVT:1a LV LVT:1a LV LVT:1a LV LVT:1a LV LVT:1a LV LVT:1a LV LVT:1a LV LVT:1a LV",
   "LVT:1a LV LVT:1a LV LVT:1a LV LVT:1a LV LVT:1a LV LVT:1a LV LVT:1a LV LVT:1a LV LVT:1a LV",
   "LVT:1a LV LVT:1a LV LVT:1a LV LVT:1a LV LVT:1a LV LVT:1a LV LVT:1a LV LVT:1a LV LVT:1a LV",
   "LVT:1a LV LVT:1a LV LVT:1a LV LVT:1a LV LVT:1a LV LVT:1a LV LVT:1a LV LVT:1a LV LVT:1a LV",
   "LVT:1a LV LVT:1a LV LVT:1a LV LVT:1a LV LVT:1a LV LVT:1a LV LVT:1a LV LVT:1a LV LVT:1a LV",
   "LVT:1a LV LVT:1a LV LVT:1a LV LVT:1a LV LVT:1a LV LVT:1a LV LVT:1a LV LVT:1a LV LVT:1a LV",
   "LVT:1a LV LVT:1a LV LVT:1a LV LVT:1a LV LVT:1a LV LVT:1a LV LVT:1a LV LVT:1a LV LVT:1a LV",
   "LVT:1a LV LVT:1a LV LVT:1a LV LVT:1a LV LVT:1a LV LVT:1a LV LVT:1a LV LVT:1a LV LVT:1a LV",
   "LVT:1a LV LVT:1a LV LVT:1a LV LVT:1a LV LVT:1a LV LVT:1a LV LVT:1a LV LVT:1a LV LVT:1a LV",
   "LVT:1a LV LVT:1a LV LVT:1a LV LVT:1a LV LVT:1a LV LVT:1a LV LVT:1a LV LVT:1a LV LVT:1a LV",
   "LVT:1a LV LVT:1a LV LVT:1a LV LVT:1a LV LVT:1a LV LVT:1a LV LVT:1a LV LVT:1a LV LVT:1a LV",
   "LVT:1a LV LVT:1a LV LVT:1a LV LVT:1a LV LVT:1a LV LVT:1a LV LVT:1a LV LVT:1a LV LVT:1a LV",
   "LVT:1a LV LVT:1a LV LVT:1a LV LVT:1a LV LVT:1a LV LVT:1a LV LVT:1a LV LVT:1a LV LVT:1a LV",
   "LVT:1a LV LVT:1a LV LVT:1a LV LVT:1a LV LVT:1a LV LVT:1a LV LVT:1a LV LVT:1a LV LVT:1a LV",
   "LVT:1a LV LVT:1a LV LVT:1a LV LVT:1a LV LVT:1a LV LVT:1a LV LVT:1a LV LVT:1a LV LVT:1a LV",
   "LVT:1a LV LVT:1a LV LVT:1a LV LVT:1a LV LVT:1a LV LVT:1a LV LVT:1a LV LVT:1a LV LVT:1a LV",
   "LVT:1a LV LVT:1a LV LVT:1a LV LVT:1a LV LVT:1a LV LVT:1a LV LVT:1a LV LVT:1a LV LVT:1a LV",
   "LVT:1a LV LVT:1a LV LVT:1a LV LVT:1a LV LVT:1a LV LVT:1a LV LVT:1a LV LVT:1a LV LVT:1a LV",
   "LVT:1a LV LVT:1a LV LVT:1a LV LVT:1a LV LVT:1a LV LVT:1a LV LVT:1a LV LVT:1a LV LVT:1a LV",
   "LVT:1a LV LVT:1a LV LVT:1a LV LVT:1a LV LVT:1a LV LVT:1a LV LVT:1a LV LVT:1a LV LVT:1a LV",
   "LVT:1a LV LVT:1a LV LVT:1a LV LVT:1a LV LVT:1a LV LVT:1a LV LVT:1a LV LVT:1a LV LVT:1a LV",
   "LVT:1a LV LVT:1a LV LVT:1a LV LVT:1a LV LVT:1a LV LVT:1a LV LVT:1a LV LVT:1a LV LVT:1a LV",
   "LVT:1a LV LVT:1a LV LVT:1a LV LVT:1a LV LVT:1a LV LVT:1a LV LVT:1a LV LVT:1a LV LVT:1a LV",
   "LVT:1a XX:b V:16 XX:3 T:30 XX:2321 EX XX:2e0 EX:f XX:f EX:f XX:ce CN XX:9d EX:1 XX:4f CN:b",
   "XX:200 EX XX:e1 EX XX:94 EX:4 XX:685 EX:2 XX EX:1 XX:4 EX:3 XX:27 EX:2 XX:3 EX XX:a4 EX:1",
   "XX:23c EX:3 XX:40 EX:4 XX:13c EX:1 XX:4e EX:3 XX:45 EX:a XX:30 EX:3 XX:79 SM EX SM XX:34",
   "EX:e XX:28 EX XX:1 EX:1 XX:9 EX:2 SM XX:2c SM:2 EX:3 SM:1 EX:1 XX:1 PP XX:3 EX XX:9 PP",
   "XX:31 EX:2 XX:23 EX:4 SM EX:7 XX:f SM:1 XX:2b EX XX:b EX:1 SM XX:2f SM:2 EX:8 SM EX XX PP:1",
   "XX:4 EX:3 XX SM EX XX:5b SM:2 EX:2 SM:1 EX:3 XX:5 EX XX:1 EX XX:9c EX SM:2 EX:7 XX:14 EX:1",
   "SM:1 XX:36 EX:1 XX EX SM EX SM:3 XX:1 SM:1 XX:1 SM:1 EX XX:8 EX XX:9 SM:1 XX:1 EX:6 XX:2",
   "EX:4 XX:42 EX SM:1 EX:5 XX EX XX:1 EX XX EX:2 SM XX SM:1 EX:2 PP EX XX:d EX:1 XX:51 SM:2",
   "EX:7 SM:1 EX:2 SM EX XX:16 EX XX:50 EX SM:1 EX:5 SM EX SM:1 EX SM EX:1 SM EX:1 XX:ea EX",
   "SM:1 EX:3 XX:1 SM:3 EX:1 SM EX:1 XX:1a EX:1 XX:51 SM:2 EX:7 SM:1 EX SM EX:1 XX:69 EX SM EX",
   "SM:1 EX:7 XX:64 EX SM EX XX:1 EX:3 SM EX:4 XX:ff SM:2 EX:8 SM EX:1 XX:f4 EX SM:4 XX SM:1",
   "XX:1 EX:3 PP SM PP SM EX XX:8c SM:2 EX:3 XX:1 EX:1 SM:3 EX XX:2 SM XX:1b EX:9 XX:27 EX:5 SM",
   "PP EX:3 XX:7 EX XX:8 EX:5 SM:1 EX:2 XX:27 PP:5 EX:c SM EX:1 XX:194 SM EX:6 XX EX:5 SM EX",
   "XX:51 EX:15 XX SM EX:6 SM EX:1 SM EX:1 XX:79 EX:5 XX:2 EX XX EX:1 XX EX:6 PP EX XX:41 SM:4",
   "XX EX:1 XX SM:1 EX SM EX XX:15a EX:1 SM:1 XX:8 EX:1 PP SM XX:2f SM:1 EX:4 XX:2 SM:1 EX:2",
   "XX:16 EX XX:14d4 CN:f EX XX:5 EX:e XX:2cc7 EX:b SM:2 EX:2 XX:9bf EX:4 XX:3a EX:6 XX:22b V",
   "XX:2 V:3 XX:1e3 EX XX SM:36 XX:6 EX:3 XX:50 EX XX:a EX:1 XX:4caa EX:1 XX CN:3 XX:125b EX:2d",
   "XX:1 EX:16 XX:21d EX:4 XX:2 EX:5 CN:7 EX:7 XX:1 EX:6 XX:1d EX:3 XX:93 EX:2 XX:7ba EX:36",
   "XX:3 EX:31 XX:7 EX XX:d EX XX:15 EX:4 XX EX:e XX:54f EX:6 XX EX:10 XX:1 EX:6 XX EX:1 XX",
   "EX:4 XX:63 EX XX:9f EX:6 XX:176 EX XX:3c EX:3 XX:1fb EX:3 XX:fd EX:1 XX:2df EX:6 XX:6c EX:6",
   "XX:89a RI:19 XX:1fa EX:4 XX:c0bff CN:1f EX:5f CN:7f EX:ef CN:e0f XX:2efff"]

/-- The names of the classes. -/
def graphemeBreakNames : List String :=
  ["CR", "CN Control", "EX Extend", "L", "LF", "LV", "LVT", "PP Prepend", "RI Regional_Indicator",
   "SM SpacingMark", "T", "V", "ZWJ"]

/-- The characters of the class with a name. -/
def ofGraphemeBreak? (name : Text) : Option CharSet :=
  (label? graphemeBreakNames name).map fun code => graphemeBreaks.select (· == code)

end LiveTex.Property
