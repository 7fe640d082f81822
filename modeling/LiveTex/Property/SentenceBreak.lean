import LiveTex.CharSet.Table
import LiveTex.Property.Name

/-!
Classes of characters by which a text is cut into sentences.
-/

namespace LiveTex.Property

/-- The classes for the bounds of sentences. Characters without one have the label `XX`. -/
def sentenceBreaks : Partition := .ofRows
  ["XX:8 SP LF SP:1 CR XX:11 SP ST CL XX:3 CL:2 XX:1 SC:1 AT XX NU:9 SC:1 XX:2 ST XX UP:19 CL",
   "XX CL XX:2 LO:19 CL XX CL XX:6 SE XX:19 SP XX:8 LO CL XX FO XX:6 LO XX:3 LO CL XX:3 UP:16",
   "XX UP:6 LO:17 XX LO:7 UP LO UP LO UP LO UP LO UP LO UP LO UP LO UP LO UP LO UP LO UP LO UP",
   "LO UP LO UP LO UP LO UP LO UP LO UP LO UP LO UP LO UP LO UP LO UP LO UP LO UP LO UP LO UP",
   "LO UP LO:1 UP LO UP LO UP LO UP LO UP LO UP LO UP LO UP LO:1 UP LO UP LO UP LO UP LO UP LO",
   "UP LO UP LO UP LO UP LO UP LO UP LO UP LO UP LO UP LO UP LO UP LO UP LO UP LO UP LO UP LO",
   "UP LO UP LO UP LO UP:1 LO UP LO UP LO:2 UP:1 LO UP LO UP:1 LO UP:2 LO:1 UP:3 LO UP:1 LO",
   "UP:2 LO:2 UP:1 LO UP:1 LO UP LO UP LO UP:1 LO UP LO:1 UP LO UP:1 LO UP:2 LO UP LO UP:1 LO:1",
   "LE UP LO:2 LE:3 UP:1 LO UP:1 LO UP:1 LO UP LO UP LO UP LO UP LO UP LO UP LO UP LO UP LO:1",
   "UP LO UP LO UP LO UP LO UP LO UP LO UP LO UP LO UP LO:1 UP:1 LO UP LO UP:2 LO UP LO UP LO",
   "UP LO UP LO UP LO UP LO UP LO UP LO UP LO UP LO UP LO UP LO UP LO UP LO UP LO UP LO UP LO",
   "UP LO UP LO UP LO UP LO UP LO UP LO UP LO UP LO UP LO UP LO UP LO UP LO:6 UP:1 LO UP:1 LO:1",
   "UP LO UP:3 LO UP LO UP LO UP LO UP LO:44 LE LO:23 LE:6 LO:1 XX:3 LE:b XX:d LO:4 XX:6 LE XX",
   "LE XX:10 EX:6f UP LO UP LO LE XX UP LO XX:1 LO:3 SC UP XX:5 UP XX UP:2 XX UP XX UP:1 LO",
   "UP:10 XX UP:8 LO:22 UP LO:1 UP:2 LO:2 UP LO UP LO UP LO UP LO UP LO UP LO UP LO UP LO UP LO",
   "UP LO UP LO UP LO:4 UP LO XX UP LO UP:1 LO:1 UP:32 LO:2f UP LO UP LO UP LO UP LO UP LO UP",
   "LO UP LO UP LO UP LO UP LO UP LO UP LO UP LO UP LO UP LO UP LO UP LO XX EX:6 UP LO UP LO UP",
   "LO UP LO UP LO UP LO UP LO UP LO UP LO UP LO UP LO UP LO UP LO UP LO UP LO UP LO UP LO UP",
   "LO UP LO UP LO UP LO UP LO UP LO UP LO UP LO UP LO UP LO UP:1 LO UP LO UP LO UP LO UP LO UP",
   "LO UP LO:1 UP LO UP LO UP LO UP LO UP LO UP LO UP LO UP LO UP LO UP LO UP LO UP LO UP LO UP",
   "LO UP LO UP LO UP LO UP LO UP LO UP LO UP LO UP LO UP LO UP LO UP LO UP LO UP LO UP LO UP",
   "LO UP LO UP LO UP LO UP LO UP LO UP LO UP LO UP LO UP LO UP LO UP LO UP LO UP LO UP LO UP",
   "LO UP LO UP LO UP LO UP LO XX UP:25 XX:1 LE XX:2 SC XX:1 LO:28 ST XX:6 EX:2c XX EX XX EX:1",
   "XX EX:1 XX EX XX:7 LE:1a XX:3 LE:4 XX:b NU:5 XX:5 SC:1 XX:1 EX:a XX FO ST:2 LE:2a EX:14",
   "NU:9 XX NU:1 XX LE:1 EX LE:62 ST LE EX:6 NU XX EX:5 LE:1 EX:1 XX EX:3 LE:1 NU:9 LE:2 XX:1",
   "LE ST:2 XX:b FO LE EX LE:1d EX:1a XX:1 LE:58 EX:a LE XX:d NU:9 LE:20 EX:8 LE:1 XX:1 SC ST",
   "LE XX:1 EX XX:1 LE:15 EX:3 LE EX:8 LE EX:2 LE EX:4 XX:8 ST XX ST XX:2 ST:1 XX LE:18 EX:2",
   "XX:3 LE:a XX:4 LE:17 XX LE:5 XX NU:1 XX:4 EX:8 LE:29 EX:17 NU EX:20 LE:35 EX:2 LE EX:11 LE",
   "EX:6 LE:9 EX:1 ST:1 NU:9 XX LE:f EX:2 XX LE:7 XX:1 LE:1 XX:1 LE:15 XX LE:6 XX LE XX:2 LE:3",
   "XX:1 EX LE EX:6 XX:1 EX:1 XX:1 EX:2 LE XX:7 EX XX:3 LE:1 XX LE:2 EX:1 XX:1 NU:9 LE:1 XX:9",
   "LE XX EX XX:1 EX:2 XX LE:5 XX:3 LE:1 XX:1 LE:15 XX LE:6 XX LE:1 XX LE:1 XX LE:1 XX:1 EX XX",
   "EX:4 XX:3 EX:1 XX:1 EX:2 XX:2 EX XX:6 LE:3 XX LE XX:6 NU:9 EX:1 LE:2 EX XX:a EX:2 XX LE:8",
   "XX LE:2 XX LE:15 XX LE:6 XX LE:1 XX LE:4 XX:1 EX LE EX:7 XX EX:2 XX EX:2 XX:1 LE XX:e LE:1",
   "EX:1 XX:1 NU:9 XX:8 LE EX:5 XX EX:2 XX LE:7 XX:1 LE:1 XX:1 LE:15 XX LE:6 XX LE:1 XX LE:4",
   "XX:1 EX LE EX:6 XX:1 EX:1 XX:1 EX:2 XX:6 EX:2 XX:3 LE:1 XX LE:2 EX:1 XX:1 NU:9 XX LE XX:f",
   "EX LE XX LE:5 XX:2 LE:2 XX LE:3 XX:2 LE:1 XX LE XX LE:1 XX:2 LE:1 XX:2 LE:2 XX:2 LE:b XX:3",
   "EX:4 XX:2 EX:2 XX EX:3 XX:1 LE XX:5 EX XX:d NU:9 XX:f EX:4 LE:7 XX LE:2 XX LE:16 XX LE:f",
   "XX:1 EX LE EX:6 XX EX:2 XX EX:3 XX:6 EX:1 XX LE:2 XX:1 LE XX:1 LE:1 EX:1 XX:1 NU:9 XX:f LE",
   "EX:2 XX LE:7 XX LE:2 XX LE:16 XX LE:9 XX LE:4 XX:1 EX LE EX:6 XX EX:2 XX EX:3 XX:6 EX:1",
   "XX:5 LE:1 XX LE:1 EX:1 XX:1 NU:9 XX LE:1 EX XX:b EX:3 LE:8 XX LE:2 XX LE:28 EX:1 LE EX:6 XX",
   "EX:2 XX EX:3 LE XX:4 LE:2 EX XX:6 LE:2 EX:1 XX:1 NU:9 XX:9 LE:5 XX EX:2 XX LE:11 XX:2 LE:17",
   "XX LE:8 XX LE XX:1 LE:6 XX:2 EX XX:3 EX:5 XX EX XX EX:7 XX:5 NU:9 XX:1 EX:1 XX:c LE:2f EX",
   "LE:1 EX:6 XX:4 LE:6 EX:7 XX NU:9 XX:26 LE:1 XX LE XX LE:4 XX LE:17 XX LE XX LE:9 EX LE:1",
   "EX:8 LE XX:1 LE:4 XX LE XX EX:6 XX NU:9 XX:1 LE:3 XX:1f LE XX:16 EX:1 XX:5 NU:9 XX:a EX XX",
   "EX XX EX CL:3 EX:1 LE:7 XX LE:23 XX:3 EX:13 XX EX:1 LE:4 EX:a XX EX:23 XX:8 EX XX:38 LE:2a",
   "EX:13 LE NU:9 ST:1 XX:3 LE:5 EX:3 LE:3 EX:2 LE EX:2 LE:1 EX:6 LE:2 EX:3 LE:c EX:b LE EX",
   "NU:9 EX:3 XX:1 UP:25 XX UP XX:4 UP XX:1 LE:2a XX LO LE:14b XX LE:3 XX:1 LE:6 XX LE XX LE:3",
   "XX:1 LE:28 XX LE:3 XX:1 LE:20 XX LE:3 XX:1 LE:6 XX LE XX LE:3 XX:1 LE:e XX LE:38 XX LE:3",
   "XX:1 LE:42 XX:1 EX:2 XX:1 ST XX:3 ST:1 XX:16 LE:f XX:f UP:55 XX:1 LO:5 XX:2 LE:26b XX ST",
   "LE:10 SP LE:19 CL:1 XX:2 LE:4a XX:2 LE:a XX:6 LE:11 EX:3 XX:8 LE:12 EX:2 ST:1 XX:8 LE:11",
   "EX:1 XX:b LE:c XX LE:2 XX EX:1 XX:b LE:33 EX:1f ST:1 XX LE XX:3 LE EX XX:1 NU:9 XX:17 SC ST",
   "XX:3 SC ST XX EX:2 FO EX NU:9 XX:5 LE:58 XX:6 LE:4 EX:1 LE:21 EX LE XX:4 LE:45 XX:9 LE:1e",
   "XX EX:b XX:3 EX:b XX:7 ST:1 NU:9 LE:1d XX:1 LE:4 XX:a LE:2b XX:3 LE:19 XX:5 NU:a XX:24",
   "LE:16 EX:4 XX:3 LE:34 EX:9 XX EX:1c XX:1 EX NU:9 XX:5 NU:9 XX:c LE ST:3 XX:3 EX:1e XX:30",
   "EX:4 LE:2e EX:10 LE:7 XX ST:1 NU:9 ST:1 XX:1 ST:1 XX:a EX:8 XX:8 ST:2 EX:2 LE:1d EX:c LE:1",
   "NU:9 LE:2b EX:d XX:b LE:23 EX:13 XX:2 ST:1 XX:2 NU:9 XX:2 LE:2 NU:9 LE:23 ST:1 LO:8 UP LO",
   "XX:4 LE:2a XX:1 LE:2 XX:f EX:2 XX EX:14 LE:3 EX LE:5 EX LE:1 EX:2 LE XX:4 LO:bf EX:3f UP LO",
   "UP LO UP LO UP LO UP LO UP LO UP LO UP LO UP LO UP LO UP LO UP LO UP LO UP LO UP LO UP LO",
   "UP LO UP LO UP LO UP LO UP LO UP LO UP LO UP LO UP LO UP LO UP LO UP LO UP LO UP LO UP LO",
   "UP LO UP LO UP LO UP LO UP LO UP LO UP LO UP LO UP LO UP LO UP LO UP LO UP LO UP LO UP LO",
   "UP LO UP LO UP LO UP LO UP LO UP LO UP LO UP LO UP LO UP LO UP LO UP LO UP LO UP LO UP LO",
   "UP LO UP LO UP LO UP LO UP LO UP LO UP LO UP LO UP LO UP LO UP LO UP LO UP LO UP LO:8 UP LO",
   "UP LO UP LO UP LO UP LO UP LO UP LO UP LO UP LO UP LO UP LO UP LO UP LO UP LO UP LO UP LO",
   "UP LO UP LO UP LO UP LO UP LO UP LO UP LO UP LO UP LO UP LO UP LO UP LO UP LO UP LO UP LO",
   "UP LO UP LO UP LO UP LO UP LO UP LO UP LO UP LO UP LO UP LO UP LO UP LO UP LO UP LO UP LO",
   "UP LO UP LO UP LO:8 UP:7 LO:5 XX:1 UP:5 XX:1 LO:7 UP:7 LO:7 UP:7 LO:5 XX:1 UP:5 XX:1 LO:7",
   "XX UP XX UP XX UP XX UP LO:7 UP:7 LO:d XX:1 LO:7 UP:7 LO:7 UP:7 LO:7 UP:7 LO:4 XX LO:1 UP:4",
   "XX LO XX:2 LO:2 XX LO:1 UP:4 XX:2 LO:3 XX:1 LO:1 UP:3 XX:3 LO:7 UP:4 XX:4 LO:2 XX LO:1 UP:4",
   "XX:2 SP:a FO EX:1 FO:1 XX:2 SC:1 XX:2 CL:7 XX:3 AT XX:2 SE:1 FO:4 SP XX:8 CL:1 XX ST:1 XX:6",
   "CL:1 ST:2 XX:14 SP FO:4 XX FO:9 XX LO XX:a CL:1 LO XX:c CL:1 XX LO:c XX:32 EX:20 XX:10 UP",
   "XX:3 UP XX:1 LO UP:2 LO:1 UP:2 LO XX UP XX:2 UP:4 XX:5 UP XX UP XX UP XX UP:3 XX LO UP:3 LO",
   "LE:3 LO XX:1 LO:1 UP:1 XX:4 UP LO:3 XX:3 LO XX:10 UP:f LO:f LE:2 UP LO LE:3 XX:17e CL:3",
   "XX:1c CL:1 XX:18a UP:19 LO:19 XX:270 CL:5 XX:6 CL:d XX:4e CL:1 XX:1e CL:9 XX:192 CL:15",
   "XX:3e CL:3 XX:1f CL:1 XX:201 UP:2f LO:2f UP LO UP:2 LO:1 UP LO UP LO UP LO UP:3 LO UP LO:1",
   "UP LO:7 UP:2 LO UP LO UP LO UP LO UP LO UP LO UP LO UP LO UP LO UP LO UP LO UP LO UP LO UP",
   "LO UP LO UP LO UP LO UP LO UP LO UP LO UP LO UP LO UP LO UP LO UP LO UP LO UP LO UP LO UP",
   "LO UP LO UP LO UP LO UP LO UP LO UP LO UP LO UP LO UP LO UP LO UP LO UP LO UP LO UP LO UP",
   "LO UP LO UP LO UP LO UP LO UP LO UP LO:1 XX:5 UP LO UP LO EX:2 UP LO XX:4 ST:2 XX:3 LO:25",
   "XX LO XX:4 LO XX:1 LE:37 XX:6 LE XX:e EX LE:16 XX:8 LE:6 XX LE:6 XX LE:6 XX LE:6 XX LE:6 XX",
   "LE:6 XX LE:6 XX LE:6 XX EX:1f CL:d XX:d CL:1 XX:1 CL:9 XX:3 ST LE XX:b ST XX:4 CL XX:f ST:1",
   "CL:7 XX:1a2 SP SC ST XX:1 LE:2 CL:9 XX:1 CL:7 XX CL:2 XX LE:8 EX:5 XX LE:4 XX:1 LE:4 XX:3",
   "LE:55 XX:1 EX:1 XX:1 LE:2 XX LE:59 XX LE:3 XX:4 LE:2a XX LE:5d XX:10 LE:1f XX:2f LE:f",
   "XX:1ff LE:19bf XX:3f LE:568c XX:42 LE:2d XX ST LE:10c XX ST:1 LE:f NU:9 LE:1 XX:13 UP LO UP",
   "LO UP LO UP LO UP LO UP LO UP LO UP LO UP LO UP LO UP LO UP LO UP LO UP LO UP LO UP LO UP",
   "LO UP LO UP LO UP LO UP LO UP LO UP LO LE EX:3 XX EX:9 XX LE UP LO UP LO UP LO UP LO UP LO",
   "UP LO UP LO UP LO UP LO UP LO UP LO UP LO UP LO UP LO:2 EX:1 LE:4f EX:1 XX ST XX:2 ST XX:1e",
   "LE:8 XX:1 UP LO UP LO UP LO UP LO UP LO UP LO UP LO:2 UP LO UP LO UP LO UP LO UP LO UP LO",
   "UP LO UP LO UP LO UP LO UP LO UP LO UP LO UP LO UP LO UP LO UP LO UP LO UP LO UP LO UP LO",
   "UP LO UP LO UP LO UP LO UP LO UP LO UP LO UP LO UP LO UP LO:9 UP LO UP LO UP:1 LO UP LO UP",
   "LO UP LO UP LO LE XX:1 UP LO UP LO LE UP LO UP LO:2 UP LO UP LO UP LO UP LO UP LO UP LO UP",
   "LO UP LO UP LO UP LO UP:4 LO UP:4 LO UP LO UP LO UP LO UP LO UP LO UP LO UP LO UP:3 LO UP",
   "LO UP:1 LO XX:1 UP LO XX LO XX LO UP LO UP LO UP LO UP XX:14 LO:2 UP LO LE LO:2 LE:6 EX",
   "LE:2 EX LE:3 EX LE:16 EX:4 XX:3 EX XX:12 LE:33 XX:1 ST:1 XX:7 EX:1 LE:31 EX:11 XX:7 ST:1",
   "NU:9 XX:5 EX:11 LE:5 XX:2 LE XX LE:1 EX NU:9 LE:1b EX:7 XX ST LE:16 EX:c XX:b LE:1c XX:2",
   "EX:3 LE:2e EX:d XX:6 ST:1 XX:4 LE NU:9 XX:5 LE:4 EX LE:9 NU:9 LE:4 XX LE:28 EX:d XX:8 LE:2",
   "EX LE:7 EX:1 XX:1 NU:9 XX:2 ST:2 LE:16 XX:2 LE EX:2 LE:31 EX LE EX:2 LE:1 EX:1 LE:4 EX:1 LE",
   "EX LE XX:17 LE:2 XX:1 LE:a EX:4 ST:1 LE:2 EX:1 XX:9 LE:5 XX:1 LE:5 XX:1 LE:5 XX:8 LE:6 XX",
   "LE:6 XX LO:2a XX LO:d XX:5 LO:4f LE:22 EX:7 ST EX:1 XX:1 NU:9 XX:5 LE:2ba3 XX:b LE:16 XX:3",
   "LE:30 XX:2103 LE:16d XX:1 LE:69 XX:25 LO:6 XX:b LO:4 XX:4 LE EX LE:9 XX LE:c XX LE:4 XX LE",
   "XX LE:1 XX LE:1 XX LE:6b XX:20 LE:16a CL:1 XX:f LE:3f XX:1 LE:35 XX:27 LE:b XX:3 EX:f SC:1",
   "ST SC:1 ST:1 CL:1 XX:6 EX:f XX SC:1 XX:1 CL:f XX:1 CL:1 XX:6 SC:1 AT XX SC:1 ST:1 SC CL:5",
   "XX:3 SC XX:b LE:4 XX LE:86 XX:1 FO XX ST XX:5 CL:1 XX:1 SC:1 AT XX NU:9 SC:1 XX:2 ST XX",
   "UP:19 CL XX CL XX:2 LO:19 CL XX CL XX CL:1 ST CL:1 SC XX LE:37 EX:1 LE:1e XX:2 LE:5 XX:1",
   "LE:5 XX:1 LE:5 XX:1 LE:2 XX:1b FO:2 XX:3 LE:b XX LE:19 XX LE:12 XX LE:1 XX LE:e XX:1 LE:d",
   "XX:21 LE:7a XX:44 LE:34 XX:87 EX XX:81 LE:1c XX:2 LE:30 XX:e EX XX:1e LE:1f XX:c LE:1d XX:4",
   "LE:25 EX:4 XX:4 LE:1d XX:1 LE:23 XX:3 LE:7 XX LE:4 XX:29 UP:27 LO:27 LE:4d XX:1 NU:9 XX:5",
   "UP:23 XX:3 LO:23 XX:3 LE:27 XX:7 LE:33 XX:b UP:a XX UP:e XX UP:6 XX UP:1 XX LO:a XX LO:e XX",
   "LO:6 XX LO:1 XX:2 LE:33 XX:b LE:136 XX:8 LE:15 XX:9 LE:7 XX:17 LO LE:1 LO:2 XX LO:29 XX",
   "LO:8 XX:44 LE:5 XX:1 LE XX LE:2b XX LE:1 XX:2 LE XX:1 LE:16 XX:9 LE:16 XX:8 LE:1e XX:40",
   "LE:12 XX LE:1 XX:9 LE:15 XX:9 LE:19 XX:45 LE:37 XX:5 LE:1 XX:3f LE EX:2 XX EX:1 XX:4 EX:3",
   "LE:3 XX LE:2 XX LE:1c XX:1 EX:2 XX:3 EX XX:15 ST:1 XX:7 LE:1c XX:2 LE:1c XX:22 LE:7 XX",
   "LE:1b EX:1 XX:18 LE:35 XX:9 LE:15 XX:9 LE:12 XX:c LE:11 XX:6d LE:48 XX:36 UP:32 XX:c LO:32",
   "XX:c LE:23 EX:3 XX:7 NU:9 XX:5 NU:9 LE:5 UP:15 XX:2 EX:4 XX LE LO:15 XX:f9 LE:29 XX EX:1",
   "XX:2 LE:1 XX:f LE:2 XX:36 EX:3 LE:1c XX:9 LE XX:7 LE:15 EX:a XX:3 ST:4 XX:15 LE:11 EX:3",
   "ST:3 XX:25 LE:14 XX:1a LE:16 XX:8 EX:2 LE:34 EX:e ST:1 XX:1c NU:9 EX LE:1 EX:1 LE XX:8 EX:3",
   "LE:2c EX:a XX:1 NU ST:3 EX XX:9 NU XX:1 LE:18 XX:6 NU:9 XX:5 EX:2 LE:23 EX:d XX NU:9 XX",
   "ST:2 LE EX:1 LE XX:7 LE:22 EX XX:1 LE XX:8 EX:2 LE:2f EX:d LE:3 ST:1 XX:1 EX:3 ST EX:1 NU:9",
   "LE XX LE XX ST:1 XX:1f LE:11 XX LE:18 EX:b ST:1 XX ST:1 XX EX LE:1 EX XX:3d LE:6 XX LE XX",
   "LE:3 XX LE:e XX LE:9 ST XX:5 LE:2e EX:b XX:4 NU:9 XX:5 EX:3 XX LE:7 XX:1 LE:1 XX:1 LE:15 XX",
   "LE:6 XX LE:1 XX LE:4 XX EX:1 LE EX:6 XX:1 EX:1 XX:1 EX:2 XX:1 LE XX:5 EX XX:4 LE:4 EX:1",
   "XX:1 EX:6 XX:2 EX:4 XX:a LE:9 XX LE XX:1 LE XX LE:25 XX LE EX:8 XX EX XX:1 EX XX EX:3 XX",
   "EX:4 LE EX LE ST:1 XX:a EX:1 XX:1c LE:34 EX:11 LE:3 ST:1 XX:2 NU:9 XX:3 EX LE:2 XX:1d LE:2f",
   "EX:13 LE:1 XX LE XX:7 NU:9 XX:a5 LE:2e EX:6 XX:1 EX:8 XX ST:1 XX:4 ST:e LE:3 EX:1 XX:21",
   "LE:2f EX:10 ST:1 XX LE XX:a NU:9 XX:25 LE:2a EX:c LE XX:6 NU:9 XX:5 NU:13 XX:1b LE:1a XX:1",
   "EX:e XX:3 NU:9 XX:1 ST:2 XX LE:6 XX:b8 LE:2b EX:e XX:64 UP:1f LO:1f NU:9 XX:14 LE:7 XX:1 LE",
   "XX:1 LE:7 XX LE:1 XX LE:17 EX:5 XX EX:1 XX:1 EX:3 LE EX LE EX:1 ST XX ST XX:8 NU:9 XX:45",
   "LE:7 XX:1 LE:26 EX:6 XX:1 EX:6 LE XX LE EX XX:1a LE EX:9 LE:27 EX:6 LE EX:3 XX:2 ST:1 XX:2",
   "EX XX:7 LE EX:a LE:2d EX:f XX ST:1 LE XX:11 LE:48 XX:c6 LE:20 XX:e NU:9 XX:5 LE:8 XX LE:24",
   "EX:7 XX EX:7 LE ST:1 XX:c NU:9 XX:17 LE:1d XX:1 EX:15 XX EX:d XX:48 LE:6 XX LE:1 XX LE:25",
   "EX:5 XX:2 EX XX EX:1 XX EX:6 LE EX XX:7 NU:9 XX:5 LE:5 XX LE:1 XX LE:1f EX:4 XX EX:1 XX",
   "EX:4 LE XX:6 NU:9 XX:135 LE:12 EX:3 ST:1 XX:6 EX:1 LE EX LE:c XX LE:21 EX:6 XX:2 EX:4 ST:1",
   "XX:a NU:9 EX XX:54 LE XX:4e LE:399 XX:65 LE:6e XX:10 LE:c3 XX:a4b LE:60 XX:e LE:42f FO:f EX",
   "LE:5 EX:e XX:9 LE:f9a XX:4 LE:246 XX:1ab8 LE:1d EX:11 NU:9 XX:6c5 LE:238 XX:6 LE:1e XX NU:9",
   "XX:3 ST:1 LE:4e XX NU:9 XX:5 LE:1d XX:1 EX:4 ST XX:9 LE:2f EX:6 ST:1 XX:6 LE:3 ST XX:a NU:9",
   "XX:8 LE:14 XX:4 LE:12 XX:1af LE:2c XX ST:1 NU:9 XX:c5 UP:1f LO:1f XX:17 ST XX:66 LE:4a XX:3",
   "EX LE EX:36 XX:6 EX:3 LE:c XX:3f LE:1 XX LE EX XX:a EX:1 XX:d LE:17f7 XX:7 LE:4d5 XX:28",
   "LE:9 XX:22e6 LE:3 XX LE:6 XX LE:1 XX LE:122 XX:e LE XX:1c LE:2 XX:1 LE XX:d LE:3 XX:7",
   "LE:18b XX:903 LE:6a XX:4 LE:c XX:2 LE:8 XX:6 LE:9 XX:2 EX:1 ST FO:3 XX:104b NU:9 XX:205",
   "EX:2d XX:1 EX:16 XX:21d EX:4 XX:2 EX:5 FO:7 EX:7 XX:1 EX:6 XX:1d EX:3 XX:93 EX:2 XX:1ba",
   "UP:19 LO:19 UP:19 LO:6 XX LO:11 UP:19 LO:19 UP XX UP:1 XX:1 UP XX:1 UP:1 XX:1 UP:3 XX UP:7",
   "LO:3 XX LO XX LO:6 XX LO:a UP:19 LO:19 UP:1 XX UP:3 XX:1 UP:7 XX UP:6 XX LO:19 UP:1 XX UP:3",
   "XX UP:4 XX UP XX:2 UP:6 XX LO:19 UP:19 LO:19 UP:19 LO:19 UP:19 LO:19 UP:19 LO:19 UP:19",
   "LO:19 UP:19 LO:1b XX:1 UP:18 XX LO:18 XX LO:5 UP:18 XX LO:18 XX LO:5 UP:18 XX LO:18 XX LO:5",
   "UP:18 XX LO:18 XX LO:5 UP:18 XX LO:18 XX LO:5 UP LO XX:1 NU:31 XX:1ff EX:36 XX:3 EX:31 XX:7",
   "EX XX:d EX XX:2 ST XX:11 EX:4 XX EX:e XX:44f LO:9 LE LO:13 XX:5 LO:5 XX:d4 EX:6 XX EX:10",
   "XX:1 EX:6 XX EX:1 XX EX:4 XX:4 LO:3d XX:20 EX XX:6f LE:2c XX:2 EX:6 LE:6 XX:1 NU:9 XX:3 LE",
   "XX:140 LE:1d EX XX:10 LE:2b EX:3 NU:9 XX:1d5 LE:1b EX:3 NU:9 XX:d5 LE:1d EX:1 LE NU:9",
   "XX:1e4 LE:6 XX LE:3 XX LE:1 XX LE:e XX LE:c4 XX:a EX:6 XX:28 UP:21 LO:21 EX:6 LE XX:3 NU:9",
   "XX:4a5 LE:3 XX LE:1a XX LE:1 XX LE XX:1 LE XX LE:9 XX LE:3 XX LE XX LE XX:5 LE XX:3 LE XX",
   "LE XX LE XX LE:2 XX LE:1 XX LE XX:1 LE XX LE XX LE XX LE XX LE XX LE:1 XX LE XX:1 LE:3 XX",
   "LE:6 XX LE:3 XX LE:3 XX LE XX LE:9 XX LE:10 XX:4 LE:2 XX LE:4 XX LE:10 XX:273 UP:19 XX:5",
   "UP:19 XX:5 UP:19 XX:4eb CL:2 XX:576 NU:9 XX:405 LE:a6df XX:1f LE:1039 XX:5 LE:dd XX:1",
   "LE:1681 XX:d LE:1d30 XX:e LE:26d XX:9a1 LE:21d XX:5e1 LE:134a XX:4 LE:105f XX:adc50 FO",
   "XX:1d EX:5f XX:7f EX:ef XX:2fe0f"]

/-- The names of the classes. -/
def sentenceBreakNames : List String :=
  ["AT ATerm", "CR", "CL Close", "EX Extend", "FO Format", "LF", "LO Lower", "NU Numeric",
   "LE OLetter", "SC SContinue", "ST STerm", "SE Sep", "SP", "UP Upper"]

/-- The characters of the class with a name. -/
def ofSentenceBreak? (name : Text) : Option CharSet :=
  (label? sentenceBreakNames name).map fun code => sentenceBreaks.select (· == code)

end LiveTex.Property
