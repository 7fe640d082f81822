import LiveTex.CharSet.Table
import LiveTex.Property.Name

/-!
The age of a character is the version of the standard that assigned it.
-/

namespace LiveTex.Property

/-- The ages, as versions. Unassigned code points have the label `NA`. -/
def ages : Partition := .ofRows
  ["1.1:1f5 3.0:3 1.1:1d 3.0:7 3.2 4.0 3.0:11 4.0:2 4.1:a 5.0:d 1.1:58 3.0:4 4.0:1 1.1:2e 3.0",
   "1.1:9 3.0:4 4.0:10 1.1:45 3.0:8 3.2 4.0:7 4.1:4 4.0:2 1.1:1 3.0 3.2:c 5.1:3 1.1:1 5.1:1",
   "NA:1 1.1 5.0:2 1.1 7.0 NA:3 1.1:6 NA 1.1 NA 1.1:13 NA 1.1:2b 5.1 1.1:6 3.0 3.2:1 1.1 3.0",
   "1.1 3.0 1.1 3.0 1.1 3.0 1.1:11 3.1:1 3.2 4.0:4 4.1:3 3.0 1.1:b 3.0 1.1:41 3.0 1.1:b 3.0",
   "1.1:28 5.1 3.0:1 3.2:1 3.0:3 1.1:34 3.2:1 1.1:1 3.2:1 1.1:1 3.2:1 5.0 1.1:1b 3.0:1 1.1:7",
   "4.1:1 1.1:1 5.0:5 3.2:f 5.0:3 5.1:f 5.2:1 6.0:1 7.0:7 NA 1.1:25 NA:1 1.1:6 11.0 1.1:26 11.0",
   "1.1 3.0 NA:1 7.0:1 6.1 NA 2.0:10 4.1 2.0:c 1.1:9 5.0 1.1:8 2.0 4.1:2 NA:7 1.1:1a NA:3 11.0",
   "1.1:4 NA:a 4.0:3 6.1 7.0 5.1:4 4.1 1.1 4.0:8 5.1:4 1.1 6.3 14.0 4.1 1.1 6.0 1.1:19 5.1:4",
   "1.1:12 3.0:2 4.0:2 4.1:5 6.0 1.1:d 3.2:1 1.1:47 3.0:1 1.1:4 3.0 1.1:e 3.0 1.1:1d 4.0:1",
   "1.1:9 3.0:4 4.0 3.0:d NA 3.0:1d 4.0:2 3.0:1a NA:1 4.0:2 4.1:1d 5.1:11 3.0:30 3.2 NA:d",
   "5.0:3a NA:1 11.0:2 5.2:2d NA:1 5.2:e NA 6.0:1b NA:1 6.0 NA 10.0:a NA:4 14.0:1e NA 14.0:1",
   "NA:4 16.0 14.0:7 6.1 7.0 6.1:a 7.0:5 8.0:1 14.0 9.0:7 13.0:9 14.0:a 11.0 9.0:e 8.0 6.1:1a",
   "7.0 5.2 1.1:2 4.0 1.1:34 6.0:1 1.1:11 5.2 6.0 1.1:4 5.2 6.0:1 1.1:18 5.1:1 6.0:4 7.0 5.2:1",
   "5.0:1 4.1 5.0:1 7.0 1.1:2 NA 1.1:7 NA:1 1.1:1 NA:1 1.1:15 NA 1.1:6 NA 1.1 NA:2 1.1:3 NA:1",
   "1.1 4.0 1.1:6 NA:1 1.1:1 NA:1 1.1:2 4.1 NA:7 1.1 NA:3 1.1:1 NA 1.1:4 NA:1 1.1:14 5.2 10.0:1",
   "11.0 NA:1 4.0 1.1 4.0 NA 1.1:5 NA:3 1.1:1 NA:1 1.1:15 NA 1.1:6 NA 1.1:1 NA 1.1:1 NA 1.1:1",
   "NA:1 1.1 NA 1.1:4 NA:3 1.1:1 NA:1 1.1:2 NA:2 5.1 NA:6 1.1:3 NA 1.1 NA:6 1.1:e 5.1 11.0 NA:9",
   "1.1:2 NA 1.1:6 4.0 1.1 NA 1.1:2 NA 1.1:15 NA 1.1:6 NA 1.1:1 NA 1.1:4 NA:1 1.1:9 NA 1.1:2 NA",
   "1.1:2 NA:1 1.1 NA:e 1.1 4.0:2 NA:1 1.1:9 6.1 4.0 NA:6 8.0 10.0:5 NA 1.1:2 NA 1.1:7 NA:1",
   "1.1:1 NA:1 1.1:15 NA 1.1:6 NA 1.1:1 NA 4.0 1.1:3 NA:1 1.1:7 5.1 NA:1 1.1:1 NA:1 1.1:2 NA:6",
   "13.0 1.1:1 NA:3 1.1:1 NA 1.1:2 5.1:1 NA:1 1.1:a 4.0 6.0:5 NA:9 1.1:1 NA 1.1:5 NA:2 1.1:2 NA",
   "1.1:3 NA:2 1.1:1 NA 1.1 NA 1.1:1 NA:2 1.1:1 NA:2 1.1:2 NA:2 1.1:7 4.1 1.1:2 NA:3 1.1:4 NA:2",
   "1.1:2 NA 1.1:3 NA:1 5.1 NA:5 1.1 NA:d 4.1 1.1:b 4.0:7 NA:4 7.0 1.1:2 11.0 1.1:7 NA 1.1:2 NA",
   "1.1:16 NA 1.1:9 7.0 1.1:4 NA:1 14.0 5.1 1.1:6 NA 1.1:2 NA 1.1:3 NA:6 1.1:1 NA 5.1:1 8.0",
   "NA:1 14.0 NA:1 1.1:1 5.1:1 NA:1 1.1:9 NA:6 12.0 5.1:7 9.0 7.0 1.1:1 11.0 1.1:7 NA 1.1:2 NA",
   "1.1:16 NA 1.1:9 NA 1.1:4 NA:1 4.0:1 1.1:6 NA 1.1:2 NA 1.1:3 NA:6 1.1:1 NA:5 14.0 1.1 NA",
   "1.1:1 5.0:1 NA:1 1.1:9 NA 5.0:1 15.0 NA:b 10.0 7.0 1.1:1 13.0 1.1:7 NA 1.1:2 NA 1.1:16 6.0",
   "1.1:f 6.0 10.0:1 5.1 1.1:5 5.1 NA 1.1:2 NA 1.1:3 6.0 9.0 NA:3 9.0:2 1.1 9.0:6 8.0 1.1:1",
   "5.1:1 NA:1 1.1:9 5.1:5 9.0:2 5.1:6 NA 13.0 3.0:1 NA 3.0:11 NA:2 3.0:17 NA 3.0:8 NA 3.0 NA:1",
   "3.0:6 NA:2 3.0 NA:3 3.0:5 NA 3.0 NA 3.0:7 NA:5 7.0:9 NA:1 3.0:2 NA:b 1.1:39 NA:3 1.1:1c",
   "NA:24 1.1:1 NA 1.1 NA 12.0 1.1:1 12.0 1.1 NA 12.0 1.1 12.0:5 1.1:3 12.0 1.1:6 12.0 1.1:2 NA",
   "1.1 NA 1.1 12.0:1 1.1:1 12.0 1.1:c 12.0 1.1:2 NA:1 1.1:4 NA 1.1 NA 1.1:5 15.0 NA 1.1:9 NA:1",
   "1.1:1 6.1:1 NA:1f 2.0:47 NA 2.0:20 3.0 5.1:1 NA:3 2.0:1a 6.0:3 2.0:5 3.0 2.0 NA 2.0:14",
   "3.0:2 2.0:6 3.0 2.0 3.0:2 NA 3.0:e NA 5.1 3.0 4.1:1 5.1:2 5.2:3 6.0:1 NA:24 3.0:21 5.1",
   "3.0:4 5.1 3.0:1 5.1 3.0:6 5.1:2 3.0:3 5.1:5 3.0:19 5.1:3f 5.2:3 5.1:1 1.1:25 NA 6.1 NA:4",
   "6.1 NA:1 1.1:26 3.2:1 4.1:1 1.1 4.1 6.1:2 1.1:59 5.2:4 1.1:43 5.2:4 1.1:51 5.2:5 3.0:6 4.1",
   "3.0:3e 4.1 3.0 NA 3.0:3 NA:1 3.0:6 NA 3.0 NA 3.0:3 NA:1 3.0:26 4.1 3.0 NA 3.0:3 NA:1 3.0:1e",
   "4.1 3.0 NA 3.0:3 NA:1 3.0:6 NA 3.0 NA 3.0:3 NA:1 3.0:6 4.1 3.0:6 NA 3.0:16 4.1 3.0:1e 4.1",
   "3.0 NA 3.0:3 NA:1 3.0:6 4.1 3.0:26 4.1 3.0:12 NA:1 6.0:1 4.1:1 3.0:1b NA:2 4.1:19 NA:5",
   "3.0:54 8.0 NA:1 8.0:5 NA:1 5.2 3.0:275 5.2:8 3.0:1c NA:2 3.0:50 7.0:7 NA:6 3.2:c 14.0 3.2:6",
   "14.0 NA:8 14.0 3.2:16 NA:8 3.2:13 NA:b 3.2:c NA 3.2:2 NA 3.2:1 NA:b 3.0:5c 4.0 NA:1 3.0:9",
   "NA:5 4.0:9 NA:5 3.0:e 14.0 3.0:9 NA:5 3.0:57 11.0 NA:6 3.0:29 5.1 NA:4 5.2:45 NA:9 4.0:1c",
   "7.0:1 NA 4.0:b NA:3 4.0:b NA:3 4.0 NA:2 4.0:29 NA:1 4.0:4 NA:a 4.1:29 5.2:1 NA:3 4.1:19",
   "NA:5 4.1:9 5.2 NA:2 4.1:1 4.0:1f 4.1:1b NA:1 4.1:1 5.2:3e NA 5.2:1c NA:1 5.2:a NA:5 5.2:9",
   "NA:5 5.2:d NA:1 7.0:e 13.0:1 14.0:d NA:30 5.0:4b 14.0 NA 16.0:1 5.0:2c 14.0:1 16.0 5.1:2a",
   "6.1:2 5.1:b 6.1:5 6.0:33 NA:7 6.0:3 5.1:37 NA:2 5.1:e NA:2 5.1:32 9.0:8 16.0:1 NA:4 11.0:2a",
   "NA:1 11.0:2 6.1:7 NA:7 5.2:22 6.1:3 10.0 7.0:1 12.0 NA:4 4.0:6b 4.1:57 5.0:6 5.1:1b 7.0:e",
   "10.0:3 14.0 9.0 6.0 5.2 5.0:1 1.1:9a 2.0 5.1:3 1.1:59 5.1:5 1.1:15 NA:1 1.1:5 NA:1 1.1:25",
   "NA:1 1.1:5 NA:1 1.1:7 NA 1.1 NA 1.1 NA 1.1 NA 1.1:1e NA:1 1.1:34 NA 1.1:e NA 1.1:d NA:1",
   "1.1:5 NA 1.1:12 NA:1 1.1:2 NA 1.1:8 NA 1.1:2e 3.0 1.1:16 3.2 3.0:5 3.2:4 4.0:1 4.1:1 3.2",
   "4.1:6 3.2:4 5.1 NA 6.3:3 1.1:6 3.2 NA:1 1.1:1a NA 4.1:4 6.0:7 NA:2 1.1:a 2.0 2.1 3.0:2",
   "3.2:1 4.1:3 5.2:2 6.0 6.2 7.0:2 8.0 10.0 14.0 NA:e 1.1:11 3.0:1 3.2:6 4.1 5.0:3 5.1 NA:e",
   "1.1:38 3.0:1 4.0 4.1 3.2:e 4.1 5.0:1 5.1 5.2:2 1.1:2f 3.0 5.0 5.1:3 5.2 8.0:1 NA:3 1.1:5a",
   "3.0:8 3.2:b 1.1:f1 3.2:d 1.1 3.0 1.1:78 3.0 3.2 3.0:1d 3.2:33 4.0:1 4.1:a 5.0:b 5.2 6.0:a",
   "7.0:6 9.0:3 10.0 1.1:24 3.0:1 16.0:2 NA:15 1.1:a NA:14 1.1:8a 3.2:13 4.0 1.1:95 3.2:9",
   "1.1:4f 3.0:7 3.2:7 1.1:13 4.0:1 3.2:1 4.1 3.0 1.1:55 3.0:1 3.2:b 4.1:1 3.2:9 4.0:7 4.1:a",
   "5.1 5.2:1 4.0:1 4.1:f 5.0 5.1:9 5.2:2 5.1:3 5.2:9 6.0 5.2:12 6.0 5.2 6.0:3 5.2:17 7.0 1.1:3",
   "6.0 1.1:3 6.0:1 1.1:1b 6.0 1.1:22 6.0 1.1 6.0 1.1:3 6.0:2 1.1 5.2 1.1:6 6.0:1 1.1:6 3.2:d",
   "1.1:1e 6.0:2 1.1:17 6.0 1.1:d 6.0 4.1:6 5.0:3 6.1 5.1 6.1 6.0:1 3.2:1b 5.1:3 3.2:f 3.0:ff",
   "3.2:1ff 4.0:d 4.1:5 5.0:6 5.1:4 5.0:3 5.1:28 7.0:2 5.1:4 5.2:4 7.0:19 NA:1 7.0:1f NA 13.0",
   "7.0:21 11.0:2 7.0:b 12.0 7.0:7 10.0 11.0:18 8.0:3 11.0:e 12.0 4.1:2e 14.0 4.1:2e 14.0 5.0:c",
   "5.1:2 5.2 5.1:2 5.0:3 5.1:5 5.2:1 4.1:6a 5.2:6 6.1:1 NA:4 4.1:2c NA 6.1 NA:4 6.1 NA:1",
   "4.1:35 6.1:1 NA:6 4.1 6.0 NA:d 6.0 4.1:16 NA:8 4.1:6 NA 4.1:6 NA 4.1:6 NA 4.1:6 NA 4.1:6 NA",
   "4.1:6 NA 4.1:6 NA 4.1:6 NA 5.1:1f 4.1:17 5.1:3 4.1:1 5.1:12 5.2 6.1:9 7.0:6 9.0:1 10.0:4",
   "11.0:4 12.0 13.0:2 14.0:a NA:21 3.0:19 NA 3.0:58 NA:b 3.0:d5 NA:19 3.0:b 15.1:3 1.1:37",
   "3.0:2 3.2:2 3.0 1.1 NA 1.1:53 3.2:1 NA:1 1.1:5 3.2:1 1.1:5d 3.2 NA:4 1.1:27 5.1 10.0 11.0",
   "NA 1.1:5d NA 1.1:f 3.0:17 6.0:2 13.0:4 4.1:f 5.1:13 16.0:1 NA:8 15.1 3.2:f 1.1:1c 4.0:1 NA",
   "1.1:23 5.2:b 4.0 3.2:e 1.1:1b 4.0:1 4.1 1.1:31 3.2:e 1.1:b 4.0:3 1.1:2e 12.1 1.1:76 4.0:3",
   "1.1:62 4.0:1 1.1:1e 4.0 3.0:19b5 13.0:9 4.0:3f 1.1:51a5 4.1:15 5.1:7 5.2:7 6.1 8.0:8",
   "10.0:14 11.0:4 13.0:c 14.0:2 3.0:48c NA:2 3.0:11 3.2:1 3.0:f 3.2 3.0:b 3.2 3.0:2 3.2 3.0",
   "NA:8 5.2:2f 5.1:12b NA:13 5.1:1f 6.0:1 5.1:11 6.1:7 5.1:1b 7.0:5 8.0 6.1 5.2:57 NA:7 4.1:16",
   "5.0:3 5.1:4 5.0:1 5.1:6a 6.0:1 8.0 6.0:1 6.1:1 7.0:b 6.0:9 6.1 7.0:2 9.0 11.0 7.0:1 8.0:5",
   "11.0:1 12.0:5 14.0:1 12.0:4 13.0:3 16.0:2 NA:1 14.0:1 NA 14.0 NA 14.0:4 16.0:2 NA:14 14.0:2",
   "13.0:1 7.0 6.1:1 6.0 5.1:4 4.1:2b 13.0 NA:2 5.2:9 NA:5 5.0:37 NA:7 5.1:44 9.0 NA:7 5.1:b",
   "NA:5 5.2:1b 8.0:1 11.0:1 5.1:53 NA:a 5.1 5.2:1c NA:2 5.2:4d NA 5.2:a NA:3 5.2:1 7.0:1e NA",
   "5.1:36 NA:8 5.1:d NA:1 5.1:9 NA:1 5.1:3 5.2:1b 7.0:3 5.2:42 NA:17 5.2:4 6.1:16 NA:9 6.0:5",
   "NA:1 6.0:5 NA:1 6.0:5 NA:8 6.0:6 NA 6.0:6 NA 7.0:2f 8.0:3 7.0:1 12.0:1 13.0:3 NA:3 8.0:4f",
   "5.2:2d NA:1 5.2:9 NA:5 2.0:2ba3 NA:b 5.2:16 NA:3 5.2:30 NA:803 1.1:1a2d 6.1:1 3.2:3a 5.2:2",
   "NA:1 4.1:69 NA:25 1.1:6 NA:b 1.1:4 NA:4 3.0 1.1:18 NA 1.1:4 NA 1.1 NA 1.1:1 NA 1.1:1 NA",
   "1.1:6b 6.0:f 14.0 NA:f 1.1:16c 14.0:f 1.1:3f NA:1 1.1:35 NA:6 14.0 3.1:1f 1.1:b 3.2 4.0",
   "14.0:1 3.2:f 4.1:9 NA:5 1.1:3 5.1:2 7.0:6 8.0:1 1.1:14 3.2:1 4.0:1 1.1:9 NA 1.1:12 NA 1.1:3",
   "NA:3 1.1:2 3.2 1.1 NA 1.1:86 NA:1 1.1 NA 1.1:5d 3.2:1 1.1:5d NA:2 1.1:5 NA:1 1.1:5 NA:1",
   "1.1:5 NA:1 1.1:2 NA:2 1.1:6 NA 1.1:6 NA:9 3.0:2 2.1 1.1:2 4.0:b NA 4.0:19 NA 4.0:12 NA",
   "4.0:1 NA 4.0:e NA:1 4.0:d NA:21 4.0:7a NA:4 4.0:2 NA:3 4.0:2c NA:2 4.0:8 4.1:4a 7.0:1 9.0:1",
   "NA 5.1:b 13.0 NA:2 7.0 NA:2e 5.1:2d NA:81 5.1:1c NA:2 5.1:30 NA:e 7.0:1b NA:3 3.1:1e 7.0",
   "3.1:3 NA:8 10.0:2 3.1:1a NA:4 7.0:2a NA:4 4.0:1d NA 4.0 4.1:23 NA:3 4.1:d NA:29 3.1:25",
   "4.0:1 3.1:25 4.0:4f NA:1 4.0:9 NA:5 9.0:23 NA:3 9.0:23 NA:3 7.0:27 NA:7 7.0:33 NA:a 7.0",
   "14.0:a NA 14.0:e NA 14.0:6 NA 14.0:1 NA 14.0:a NA 14.0:e NA 14.0:6 NA 14.0:1 NA:2 16.0:33",
   "NA:b 7.0:136 NA:8 7.0:15 NA:9 7.0:7 NA:17 14.0:5 NA 14.0:29 NA 14.0:8 NA:44 4.0:5 NA:1 4.0",
   "NA 4.0:2b NA 4.0:1 NA:2 4.0 NA:1 4.0 5.2:15 NA 5.2:8 7.0:3e NA:7 7.0:8 NA:2f 8.0:12 NA",
   "8.0:1 NA:4 8.0:4 5.0:19 5.2:1 NA:2 5.0 5.1:19 NA:4 5.1 NA:3f 6.1:37 NA:3 8.0:1 6.1:1 8.0:f",
   "NA:1 8.0:2d 4.1:3 NA 4.1:1 NA:4 4.1:7 NA 4.1:2 NA 4.1:1a 11.0:1 NA:1 4.1:2 NA:3 4.1:8 11.0",
   "NA:6 4.1:8 NA:6 5.2:1f 7.0:1f NA:1f 7.0:26 NA:3 7.0:b NA:8 5.2:35 NA:2 5.2:1c NA:1 5.2:1a",
   "NA:4 5.2:7 7.0:11 NA:6 7.0:3 NA:b 7.0:6 NA:4f 5.2:48 NA:36 8.0:32 NA:c 8.0:32 NA:6 8.0:5",
   "11.0:27 NA:7 11.0:9 NA:5 16.0:25 NA:2 16.0:1c NA:7 16.0:1 NA:cf 5.2:1e NA 13.0:29 NA 13.0:2",
   "NA:1 13.0:1 NA:f 16.0:2 NA:36 16.0 15.0:2 11.0:27 NA:7 11.0:29 NA:15 14.0:19 NA:25 13.0:1b",
   "NA:13 12.0:16 NA:8 6.0:4d NA:3 6.0:1d 14.0:5 NA:8 7.0 5.2:41 14.0 NA:9 11.0 NA:1 6.1:18",
   "NA:6 6.1:9 NA:5 6.1:34 NA 6.1:d 11.0:2 13.0 NA:7 7.0:26 NA:8 6.1:48 8.0:3 7.0 13.0:1 6.1:9",
   "7.0 8.0:4 NA 7.0:13 NA:a 7.0:11 NA 7.0:2a 9.0 15.0:2 NA:3d 8.0:6 NA 8.0 NA 8.0:3 NA 8.0:e",
   "NA 8.0:a NA:5 7.0:3a NA:4 7.0:9 NA:5 8.0 7.0:2 NA 7.0:7 NA:1 7.0:1 NA:1 7.0:15 NA 7.0:6 NA",
   "7.0:1 NA 7.0:4 NA 11.0 7.0:8 NA:1 7.0:1 NA:1 7.0:2 NA:1 8.0 NA:5 7.0 NA:4 7.0:6 NA:1 7.0:6",
   "NA:2 7.0:4 NA:a 16.0:9 NA 16.0 NA:1 16.0 NA 16.0:25 NA 16.0:9 NA 16.0 NA:1 16.0 NA 16.0:3",
   "NA 16.0:9 NA 16.0:1 NA:7 16.0:1 NA:1c 9.0:59 13.0 9.0 NA 9.0 11.0 12.0 13.0:1 NA:1d 7.0:47",
   "NA:7 7.0:9 NA:a5 7.0:35 NA:1 7.0:11 8.0:13 NA:21 7.0:44 NA:a 7.0:9 NA:5 9.0:c NA:12 6.1:37",
   "12.0 14.0 NA:5 6.1:9 NA:5 16.0:13 NA:1b 8.0:19 11.0 NA:1 8.0:e NA:3 8.0:f 14.0:6 NA:b8",
   "11.0:3b NA:63 7.0:52 NA:b 7.0 13.0:6 NA:1 13.0 NA:1 13.0:7 NA 13.0:1 NA 13.0:1d NA 13.0:1",
   "NA:1 13.0:b NA:8 13.0:9 NA:45 12.0:7 NA:1 12.0:2d NA:1 12.0:a NA:1a 10.0:47 NA:7 10.0:33",
   "12.0:1 10.0:16 11.0 10.0:4 NA:c 14.0:f 7.0:38 NA:6 15.0:9 NA:b5 16.0:21 NA:d 16.0:9 NA:5",
   "9.0:8 NA 9.0:2c NA 9.0:d NA:9 9.0:1c NA:2 9.0:1f NA:1 9.0:15 NA 9.0:d NA:48 10.0:6 NA",
   "10.0:1 NA 10.0:2b NA:2 10.0 NA 10.0:1 NA 10.0:8 NA:7 10.0:9 NA:5 11.0:5 NA 11.0:1 NA",
   "11.0:24 NA 11.0:1 NA 11.0:5 NA:6 11.0:9 NA:135 11.0:18 NA:6 15.0:10 NA 15.0:28 NA:2 15.0:1b",
   "16.0 NA:54 13.0 NA:e 12.0:31 NA:c 12.0 5.0:36e 7.0:29 8.0 NA:65 5.0:62 7.0:b NA 5.0:3 7.0",
   "NA:a 8.0:c3 NA:a4b 14.0:62 NA:c 5.2:42e 15.0 12.0:8 15.0:1c NA:9 16.0:f9a NA:4 8.0:246",
   "NA:1ab8 16.0:39 NA:6c5 6.0:238 NA:6 7.0:1e NA 7.0:9 NA:3 7.0:1 14.0:4e NA 14.0:9 NA:5",
   "7.0:1d NA:1 7.0:5 NA:9 7.0:45 NA:9 7.0:9 NA 7.0:6 NA 7.0:14 NA:4 7.0:12 NA:1af 16.0:39",
   "NA:c5 11.0:5a NA:64 6.1:44 12.0:5 NA:3 12.0 6.1:2e 12.0:8 NA:6 6.1:10 NA:3f 9.0 10.0 12.0:1",
   "13.0 NA:a 13.0:1 NA:d 9.0:17ec 11.0:4 12.0:5 NA:7 9.0:2f2 13.0:1e2 NA:28 16.0 13.0:8",
   "NA:22e6 14.0:3 NA 14.0:6 NA 14.0:1 NA 6.0:1 10.0:11c 14.0:3 NA:e 15.0 NA:1c 12.0:2 NA:1",
   "15.0 NA:d 12.0:3 NA:7 10.0:18b NA:903 7.0:6a NA:4 7.0:c NA:2 7.0:8 NA:6 7.0:9 NA:1 7.0:7",
   "NA:f5b 16.0:f9 NA:5 16.0:1b3 NA:4b 14.0:2d NA:1 14.0:16 NA:8 14.0:73 NA:3b 3.1:f5 NA:9",
   "3.1:26 NA:1 5.1 3.1:b3 8.0:a 14.0:1 NA:14 4.1:45 NA:79 15.0:13 NA:b 11.0:13 NA:b 4.0:56",
   "NA:8 5.0:11 11.0:6 NA:86 3.1:54 NA 3.1:46 NA 3.1:1 NA:1 3.1 NA:1 3.1:1 NA:1 3.1:3 NA 3.1:b",
   "NA 3.1 NA 3.1:3 4.0 3.1:1 NA 3.1:40 NA 3.1:3 NA:1 3.1:7 NA 3.1:6 NA 3.1:1b NA 3.1:3 NA",
   "3.1:4 NA 3.1 NA:2 3.1:6 NA 3.1:151 4.1:1 NA:1 3.1:121 5.0:1 NA:1 3.1:31 8.0:28b NA:e 8.0:4",
   "NA 8.0:e NA:44f 14.0:1e NA:5 15.0:5 NA:d4 9.0:6 NA 9.0:10 NA:1 9.0:6 NA 9.0:1 NA 9.0:4 NA:4",
   "15.0:3d NA:20 15.0 NA:6f 12.0:2c NA:2 12.0:d NA:1 12.0:9 NA:3 12.0:1 NA:13f 14.0:1e NA:10",
   "12.0:39 NA:4 12.0 NA:1cf 15.0:29 NA:d5 16.0:2a NA:3 16.0 NA:1df 14.0:6 NA 14.0:3 NA 14.0:1",
   "NA 14.0:e NA 7.0:c4 NA:1 7.0:f NA:28 9.0:4a 12.0 NA:3 9.0:9 NA:3 9.0:1 NA:310 11.0:43 NA:4b",
   "12.0:3c NA:c1 6.1:3 NA 6.1:1a NA 6.1:1 NA 6.1 NA:1 6.1 NA 6.1:9 NA 6.1:3 NA 6.1 NA 6.1 NA:5",
   "6.1 NA:3 6.1 NA 6.1 NA 6.1 NA 6.1:2 NA 6.1:1 NA 6.1 NA:1 6.1 NA 6.1 NA 6.1 NA 6.1 NA 6.1 NA",
   "6.1:1 NA 6.1 NA:1 6.1:3 NA 6.1:6 NA 6.1:3 NA 6.1:3 NA 6.1 NA 6.1:9 NA 6.1:10 NA:4 6.1:2 NA",
   "6.1:4 NA 6.1:10 NA:33 6.1:1 NA:10d 5.1:2b NA:3 5.1:63 NA:b 6.0:e NA:1 6.0:d 7.0 NA 6.0:e NA",
   "6.0:e 7.0:15 NA:9 5.2:a 7.0:1 13.0:2 5.2:1e 11.0 6.0 5.2 6.0:a 5.2 6.0 5.2 6.0:1 5.2 6.0:2",
   "5.2 6.0:2 5.2:4 6.0:7 5.2 6.0:6 5.2 6.0:9 6.1:1 12.0 13.0:2 6.0:8 5.2 6.0 5.2:1 6.0:1 5.2",
   "6.0:9 5.2:3 6.0:1 5.2 6.0:9 9.0:11 13.0 NA:37 6.0:19 5.2 6.0:1 NA:c 5.2:21 6.0:8 9.0 NA:3",
   "5.2:8 NA:6 6.0:1 NA:d 10.0:5 NA:99 6.0:20 7.0:b 8.0:2 6.0:5 7.0 6.0:45 7.0 8.0:1 6.0:13",
   "7.0:b 6.0:24 7.0 6.0:4 7.0:3 8.0:4 7.0:b 6.0:10 7.0:6 8.0:7 6.0:3e 7.0 6.0 7.0 6.0:b5 7.0",
   "6.0:3 7.0:1 8.0 6.0:3d 7.0:1 6.1:3 7.0:6 8.0:4 6.0:17 7.0:11 9.0 7.0:28 9.0 7.0:55 6.0:4",
   "6.1 6.0:f 6.1 6.0:2 6.1 6.0 6.1 6.0 6.1 6.0 6.1 6.0:2 6.1 6.0:5 6.1:1 6.0:3 6.1 6.0 6.1:1",
   "6.0:3 6.1 6.0:b 7.0:1 8.0:1 6.0:a 7.0:2f 6.0:45 7.0:9 8.0 9.0:1 10.0:1 12.0 13.0:1 NA:3",
   "15.0 14.0:2 7.0:c NA:2 7.0:3 9.0:2 10.0:1 11.0 12.0 13.0:1 NA:2 6.0:73 15.0:2 NA:3 15.0:4",
   "7.0:54 11.0:3 15.0 NA:5 12.0:b NA:3 14.0 NA:e 7.0:b NA:3 7.0:37 NA:7 7.0:9 NA:5 7.0:27 NA:7",
   "7.0:1d NA:1 13.0:1 16.0:9 NA:3 16.0:1 NA:3d 10.0:b 13.0 12.0:2 8.0:8 9.0:5 10.0 9.0:7",
   "10.0:7 9.0 10.0:1 9.0:b 12.0 9.0:b 10.0 11.0:2 9.0:e 10.0:c 11.0:4 12.0 13.0 11.0:3 13.0:1",
   "14.0 11.0 12.0 11.0:3 8.0:4 9.0:c 10.0:5 11.0:a 13.0:1 12.0:5 13.0:2 12.0:1 11.0:9 12.0:5",
   "8.0 11.0:1 12.0:7 13.0 14.0 12.0:2 10.0:16 11.0:18 12.0:53 NA:b 11.0:d NA:1 12.0:3 13.0",
   "15.0:2 12.0:2 14.0:1 NA:2 12.0:2 13.0:3 15.0:1 16.0 NA:4 16.0 12.0:5 13.0:12 14.0:3 15.0:2",
   "13.0:6 14.0:3 15.0:2 16.0 15.0 13.0:2 14.0:2 16.0 NA:6 15.0:1 13.0:6 14.0:2 15.0:1 16.0",
   "NA:1 16.0 14.0:7 15.0 16.0 NA:5 14.0:6 15.0:1 NA:6 13.0:92 NA 13.0:36 16.0:24 13.0:9 NA:403",
   "2.0:1 3.1:a6d6 13.0:6 14.0:1 NA:1f 5.2:1034 14.0:3 15.0 NA:5 6.0:dd NA:1 8.0:1681 NA:d",
   "10.0:1d30 NA:e 15.1:26d NA:9a1 3.1:21d NA:5df 2.0:1 13.0:134a NA:4 15.0:105f NA:dc4d 2.0:1",
   "NA:fffd 2.0:1 NA:fffd 2.0:1 NA:fffd 2.0:1 NA:fffd 2.0:1 NA:fffd 2.0:1 NA:fffd 2.0:1 NA:fffd",
   "2.0:1 NA:fffd 2.0:1 NA:fffd 2.0:1 NA:fffd 2.0:1 NA 3.1 NA:1d 3.1:5f NA:7f 4.0:ef NA:fe0d",
   "2.0:20001"]

/-- The names of the versions in their order. -/
def ageNames : List String :=
  ["1.1 V1_1", "2.0 V2_0", "2.1 V2_1", "3.0 V3_0", "3.1 V3_1", "3.2 V3_2", "4.0 V4_0", "4.1 V4_1",
   "5.0 V5_0", "5.1 V5_1", "5.2 V5_2", "6.0 V6_0", "6.1 V6_1", "6.2 V6_2", "6.3 V6_3", "7.0 V7_0",
   "8.0 V8_0", "9.0 V9_0", "10.0 V10_0", "11.0 V11_0", "12.0 V12_0", "12.1 V12_1", "13.0 V13_0",
   "14.0 V14_0", "15.0 V15_0", "15.1 V15_1", "16.0 V16_0"]

/-- The characters that a version has, those of earlier versions included. -/
def ofAge? (name : Text) : Option CharSet :=
  (label? ageNames name).map fun version =>
    let later := (ageNames.filterMap fun row => (Text.words row).head?).dropWhile (· != version)
    ages.select fun age => age != "NA".toList && !(later.drop 1).contains age

end LiveTex.Property
