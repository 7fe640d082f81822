import LiveTex.CharSet.Table
import LiveTex.Property.Name

/-!
Scripts, the systems of writing that characters belong to. Characters of several scripts are common or
inherit the script of the character before them; the extensions of scripts name the ones that use them.
-/

namespace LiveTex.Property

/-- The scripts by their codes of four letters. Unassigned code points have the code `Zzzz`. -/
def scripts : Partition := .ofRows
  ["Zyyy:40 Latn:19 Zyyy:5 Latn:19 Zyyy:2e Latn Zyyy:e Latn Zyyy:4 Latn:16 Zyyy Latn:1e Zyyy",
   "Latn:1c0 Zyyy:26 Latn:4 Zyyy:4 Bopo:1 Zyyy:13 Zinh:6f Grek:3 Zyyy Grek:2 Zzzz:1 Grek:3 Zyyy",
   "Grek Zzzz:3 Grek Zyyy Grek Zyyy Grek:2 Zzzz Grek Zzzz Grek:13 Zzzz Grek:3e Copt:d Grek:f",
   "Cyrl:84 Zinh:1 Cyrl:a8 Zzzz Armn:25 Zzzz:1 Armn:31 Zzzz:1 Armn:2 Zzzz Hebr:36 Zzzz:7",
   "Hebr:1a Zzzz:3 Hebr:5 Zzzz:a Arab:4 Zyyy Arab:5 Zyyy Arab:d Zyyy Arab:2 Zyyy Arab:1f Zyyy",
   "Arab:9 Zinh:a Arab:19 Zinh Arab:6b Zyyy Arab:21 Syrc:d Zzzz Syrc:3b Zzzz:1 Syrc:2 Arab:2f",
   "Thaa:31 Zzzz:d Nkoo:3a Zzzz:1 Nkoo:2 Samr:2d Zzzz:1 Samr:e Zzzz Mand:1b Zzzz:1 Mand Zzzz",
   "Syrc:a Zzzz:4 Arab:1e Zzzz Arab:1 Zzzz:4 Arab:4a Zyyy Arab:1c Deva:50 Zinh:3 Deva:e Zyyy:1",
   "Deva:19 Beng:3 Zzzz Beng:7 Zzzz:1 Beng:1 Zzzz:1 Beng:15 Zzzz Beng:6 Zzzz Beng Zzzz:2 Beng:3",
   "Zzzz:1 Beng:8 Zzzz:1 Beng:1 Zzzz:1 Beng:3 Zzzz:7 Beng Zzzz:3 Beng:1 Zzzz Beng:4 Zzzz:1",
   "Beng:18 Zzzz:1 Guru:2 Zzzz Guru:5 Zzzz:3 Guru:1 Zzzz:1 Guru:15 Zzzz Guru:6 Zzzz Guru:1 Zzzz",
   "Guru:1 Zzzz Guru:1 Zzzz:1 Guru Zzzz Guru:4 Zzzz:3 Guru:1 Zzzz:1 Guru:2 Zzzz:2 Guru Zzzz:6",
   "Guru:3 Zzzz Guru Zzzz:6 Guru:10 Zzzz:9 Gujr:2 Zzzz Gujr:8 Zzzz Gujr:2 Zzzz Gujr:15 Zzzz",
   "Gujr:6 Zzzz Gujr:1 Zzzz Gujr:4 Zzzz:1 Gujr:9 Zzzz Gujr:2 Zzzz Gujr:2 Zzzz:1 Gujr Zzzz:e",
   "Gujr:3 Zzzz:1 Gujr:b Zzzz:6 Gujr:6 Zzzz Orya:2 Zzzz Orya:7 Zzzz:1 Orya:1 Zzzz:1 Orya:15",
   "Zzzz Orya:6 Zzzz Orya:1 Zzzz Orya:4 Zzzz:1 Orya:8 Zzzz:1 Orya:1 Zzzz:1 Orya:2 Zzzz:6 Orya:2",
   "Zzzz:3 Orya:1 Zzzz Orya:4 Zzzz:1 Orya:11 Zzzz:9 Taml:1 Zzzz Taml:5 Zzzz:2 Taml:2 Zzzz",
   "Taml:3 Zzzz:2 Taml:1 Zzzz Taml Zzzz Taml:1 Zzzz:2 Taml:1 Zzzz:2 Taml:2 Zzzz:2 Taml:b Zzzz:3",
   "Taml:4 Zzzz:2 Taml:2 Zzzz Taml:3 Zzzz:1 Taml Zzzz:5 Taml Zzzz:d Taml:14 Zzzz:4 Telu:c Zzzz",
   "Telu:2 Zzzz Telu:16 Zzzz Telu:f Zzzz:1 Telu:8 Zzzz Telu:2 Zzzz Telu:3 Zzzz:6 Telu:1 Zzzz",
   "Telu:2 Zzzz:1 Telu Zzzz:1 Telu:3 Zzzz:1 Telu:9 Zzzz:6 Telu:8 Knda:c Zzzz Knda:2 Zzzz",
   "Knda:16 Zzzz Knda:9 Zzzz Knda:4 Zzzz:1 Knda:8 Zzzz Knda:2 Zzzz Knda:3 Zzzz:6 Knda:1 Zzzz:5",
   "Knda:1 Zzzz Knda:3 Zzzz:1 Knda:9 Zzzz Knda:2 Zzzz:b Mlym:c Zzzz Mlym:2 Zzzz Mlym:32 Zzzz",
   "Mlym:2 Zzzz Mlym:5 Zzzz:3 Mlym:f Zzzz:1 Mlym:19 Zzzz Sinh:2 Zzzz Sinh:11 Zzzz:2 Sinh:17",
   "Zzzz Sinh:8 Zzzz Sinh Zzzz:1 Sinh:6 Zzzz:2 Sinh Zzzz:3 Sinh:5 Zzzz Sinh Zzzz Sinh:7 Zzzz:5",
   "Sinh:9 Zzzz:1 Sinh:2 Zzzz:b Thai:39 Zzzz:3 Zyyy Thai:1b Zzzz:24 Laoo:1 Zzzz Laoo Zzzz",
   "Laoo:4 Zzzz Laoo:17 Zzzz Laoo Zzzz Laoo:16 Zzzz:1 Laoo:4 Zzzz Laoo Zzzz Laoo:6 Zzzz Laoo:9",
   "Zzzz:1 Laoo:3 Zzzz:1f Tibt:47 Zzzz Tibt:23 Zzzz:3 Tibt:26 Zzzz Tibt:23 Zzzz Tibt:e Zzzz",
   "Tibt:6 Zyyy:3 Tibt:1 Zzzz:24 Mymr:9f Geor:25 Zzzz Geor Zzzz:4 Geor Zzzz:1 Geor:2a Zyyy",
   "Geor:3 Hang:ff Ethi:48 Zzzz Ethi:3 Zzzz:1 Ethi:6 Zzzz Ethi Zzzz Ethi:3 Zzzz:1 Ethi:28 Zzzz",
   "Ethi:3 Zzzz:1 Ethi:20 Zzzz Ethi:3 Zzzz:1 Ethi:6 Zzzz Ethi Zzzz Ethi:3 Zzzz:1 Ethi:e Zzzz",
   "Ethi:38 Zzzz Ethi:3 Zzzz:1 Ethi:42 Zzzz:1 Ethi:1f Zzzz:2 Ethi:19 Zzzz:5 Cher:55 Zzzz:1",
   "Cher:5 Zzzz:1 Cans:27f Ogam:1c Zzzz:2 Runr:4a Zyyy:2 Runr:a Zzzz:6 Tglg:15 Zzzz:8 Tglg",
   "Hano:14 Zyyy:1 Zzzz:8 Buhd:13 Zzzz:b Tagb:c Zzzz Tagb:2 Zzzz Tagb:1 Zzzz:b Khmr:5d Zzzz:1",
   "Khmr:9 Zzzz:5 Khmr:9 Zzzz:5 Mong:1 Zyyy:1 Mong Zyyy Mong:13 Zzzz:5 Mong:58 Zzzz:6 Mong:2a",
   "Zzzz:4 Cans:45 Zzzz:9 Limb:1e Zzzz Limb:b Zzzz:3 Limb:b Zzzz:3 Limb Zzzz:2 Limb:b Tale:1d",
   "Zzzz:1 Tale:4 Zzzz:a Talu:2b Zzzz:3 Talu:19 Zzzz:5 Talu:a Zzzz:2 Talu:1 Khmr:1f Bugi:1b",
   "Zzzz:1 Bugi:1 Lana:3e Zzzz Lana:1c Zzzz:1 Lana:a Zzzz:5 Lana:9 Zzzz:5 Lana:d Zzzz:1 Zinh:1e",
   "Zzzz:30 Bali:4c Zzzz Bali:31 Sund:3f Batk:33 Zzzz:7 Batk:3 Lepc:37 Zzzz:2 Lepc:e Zzzz:2",
   "Lepc:2 Olck:2f Cyrl:a Zzzz:4 Geor:2a Zzzz:1 Geor:2 Sund:7 Zzzz:7 Zinh:2 Zyyy Zinh:c Zyyy",
   "Zinh:6 Zyyy:3 Zinh Zyyy:5 Zinh Zyyy:2 Zinh:1 Zyyy Zzzz:4 Latn:25 Grek:4 Cyrl Latn:30 Grek:4",
   "Latn:3 Grek:4 Latn:c Cyrl Latn:45 Grek Zinh:3f Latn:ff Grek:15 Zzzz:1 Grek:5 Zzzz:1 Grek:25",
   "Zzzz:1 Grek:5 Zzzz:1 Grek:7 Zzzz Grek Zzzz Grek Zzzz Grek Zzzz Grek:1e Zzzz:1 Grek:34 Zzzz",
   "Grek:e Zzzz Grek:d Zzzz:1 Grek:5 Zzzz Grek:12 Zzzz:1 Grek:2 Zzzz Grek:8 Zzzz Zyyy:b Zinh:1",
   "Zyyy:56 Zzzz Zyyy:a Latn Zzzz:1 Zyyy:a Latn Zyyy:e Zzzz Latn:c Zzzz:2 Zyyy:20 Zzzz:e",
   "Zinh:20 Zzzz:e Zyyy:25 Grek Zyyy:2 Latn:1 Zyyy:5 Latn Zyyy:1a Latn Zyyy:10 Latn:28 Zyyy:2",
   "Zzzz:3 Zyyy:299 Zzzz:15 Zyyy:a Zzzz:14 Zyyy:39f Brai:ff Zyyy:273 Zzzz:1 Zyyy:1f Zzzz",
   "Zyyy:68 Glag:5f Latn:1f Copt:73 Zzzz:4 Copt:6 Geor:25 Zzzz Geor Zzzz:4 Geor Zzzz:1 Tfng:37",
   "Zzzz:6 Tfng:1 Zzzz:d Tfng Ethi:16 Zzzz:8 Ethi:6 Zzzz Ethi:6 Zzzz Ethi:6 Zzzz Ethi:6 Zzzz",
   "Ethi:6 Zzzz Ethi:6 Zzzz Ethi:6 Zzzz Ethi:6 Zzzz Cyrl:1f Zyyy:5d Zzzz:21 Hani:19 Zzzz",
   "Hani:58 Zzzz:b Hani:d5 Zzzz:19 Zyyy:14 Hani Zyyy Hani Zyyy:18 Hani:8 Zinh:3 Hang:1 Zyyy:7",
   "Hani:3 Zyyy:3 Zzzz Hira:55 Zzzz:1 Zinh:1 Zyyy:1 Hira:2 Zyyy Kana:59 Zyyy:1 Kana:2 Zzzz:4",
   "Bopo:2a Zzzz Hang:5d Zzzz Zyyy:f Bopo:1f Zyyy:25 Zzzz:8 Zyyy Kana:f Hang:1e Zzzz Zyyy:3f",
   "Hang:1e Zyyy:50 Kana:2e Zyyy Kana:57 Zyyy:a7 Hani:19bf Zyyy:3f Hani:51ff Yiii:48c Zzzz:2",
   "Yiii:36 Zzzz:8 Lisu:2f Vaii:12b Zzzz:13 Cyrl:5f Bamu:57 Zzzz:7 Zyyy:21 Latn:65 Zyyy:2",
   "Latn:42 Zzzz:1 Latn:1 Zzzz Latn Zzzz Latn:7 Zzzz:14 Latn:d Sylo:2c Zzzz:2 Zyyy:9 Zzzz:5",
   "Phag:37 Zzzz:7 Saur:45 Zzzz:7 Saur:b Zzzz:5 Deva:1f Kali:2d Zyyy Kali Rjng:23 Zzzz:a Rjng",
   "Hang:1c Zzzz:2 Java:4d Zzzz Zyyy Java:9 Zzzz:3 Java:1 Mymr:1e Zzzz Cham:36 Zzzz:8 Cham:d",
   "Zzzz:1 Cham:9 Zzzz:1 Cham:3 Mymr:1f Tavt:42 Zzzz:17 Tavt:4 Mtei:16 Zzzz:9 Ethi:5 Zzzz:1",
   "Ethi:5 Zzzz:1 Ethi:5 Zzzz:8 Ethi:6 Zzzz Ethi:6 Zzzz Latn:2a Zyyy Latn:8 Grek Latn:3 Zyyy:1",
   "Zzzz:3 Cher:4f Mtei:2d Zzzz:1 Mtei:9 Zzzz:5 Hang:2ba3 Zzzz:b Hang:16 Zzzz:3 Hang:30",
   "Zzzz:2103 Hani:16d Zzzz:1 Hani:69 Zzzz:25 Latn:6 Zzzz:b Armn:4 Zzzz:4 Hebr:19 Zzzz Hebr:4",
   "Zzzz Hebr Zzzz Hebr:1 Zzzz Hebr:1 Zzzz Hebr:9 Arab:72 Zzzz:f Arab:16a Zyyy:1 Arab:4f Zzzz:1",
   "Arab:35 Zzzz:6 Arab Zzzz:1f Arab:f Zinh:f Zyyy:9 Zzzz:5 Zinh:d Cyrl:1 Zyyy:22 Zzzz Zyyy:12",
   "Zzzz Zyyy:3 Zzzz:3 Arab:4 Zzzz Arab:86 Zzzz:1 Zyyy Zzzz Zyyy:1f Latn:19 Zyyy:5 Latn:19",
   "Zyyy:a Kana:9 Zyyy Kana:2c Zyyy:1 Hang:1e Zzzz:2 Hang:5 Zzzz:1 Hang:5 Zzzz:1 Hang:5 Zzzz:1",
   "Hang:2 Zzzz:2 Zyyy:6 Zzzz Zyyy:6 Zzzz:9 Zyyy:4 Zzzz:1 Linb:b Zzzz Linb:19 Zzzz Linb:12 Zzzz",
   "Linb:1 Zzzz Linb:e Zzzz:1 Linb:d Zzzz:21 Linb:7a Zzzz:4 Zyyy:2 Zzzz:3 Zyyy:2c Zzzz:2 Zyyy:8",
   "Grek:4e Zzzz Zyyy:c Zzzz:2 Grek Zzzz:2e Zyyy:2c Zinh Zzzz:81 Lyci:1c Zzzz:2 Cari:30 Zzzz:e",
   "Zinh Zyyy:1a Zzzz:3 Ital:23 Zzzz:8 Ital:2 Goth:1a Zzzz:4 Perm:2a Zzzz:4 Ugar:1d Zzzz Ugar",
   "Xpeo:23 Zzzz:3 Xpeo:d Zzzz:29 Dsrt:4f Shaw:2f Osma:1d Zzzz:1 Osma:9 Zzzz:5 Osge:23 Zzzz:3",
   "Osge:23 Zzzz:3 Elba:27 Zzzz:7 Aghb:33 Zzzz:a Aghb Vith:a Zzzz Vith:e Zzzz Vith:6 Zzzz",
   "Vith:1 Zzzz Vith:a Zzzz Vith:e Zzzz Vith:6 Zzzz Vith:1 Zzzz:2 Todr:33 Zzzz:b Lina:136",
   "Zzzz:8 Lina:15 Zzzz:9 Lina:7 Zzzz:17 Latn:5 Zzzz Latn:29 Zzzz Latn:8 Zzzz:44 Cprt:5 Zzzz:1",
   "Cprt Zzzz Cprt:2b Zzzz Cprt:1 Zzzz:2 Cprt Zzzz:1 Cprt Armi:15 Zzzz Armi:8 Palm:1f Nbat:1e",
   "Zzzz:7 Nbat:8 Zzzz:2f Hatr:12 Zzzz Hatr:1 Zzzz:4 Hatr:4 Phnx:1b Zzzz:2 Phnx Lydi:19 Zzzz:4",
   "Lydi Zzzz:3f Mero:1f Merc:17 Zzzz:3 Merc:13 Zzzz:1 Merc:2d Khar:3 Zzzz Khar:1 Zzzz:4 Khar:7",
   "Zzzz Khar:2 Zzzz Khar:1c Zzzz:1 Khar:2 Zzzz:3 Khar:9 Zzzz:6 Khar:8 Zzzz:6 Sarb:1f Narb:1f",
   "Zzzz:1f Mani:26 Zzzz:3 Mani:b Zzzz:8 Avst:35 Zzzz:2 Avst:6 Prti:15 Zzzz:1 Prti:7 Phli:12",
   "Zzzz:4 Phli:7 Phlp:11 Zzzz:6 Phlp:3 Zzzz:b Phlp:6 Zzzz:4f Orkh:48 Zzzz:36 Hung:32 Zzzz:c",
   "Hung:32 Zzzz:6 Hung:5 Rohg:27 Zzzz:7 Rohg:9 Zzzz:5 Gara:25 Zzzz:2 Gara:1c Zzzz:7 Gara:1",
   "Zzzz:cf Arab:1e Zzzz Yezi:29 Zzzz Yezi:2 Zzzz:1 Yezi:1 Zzzz:f Arab:2 Zzzz:36 Arab:3 Sogo:27",
   "Zzzz:7 Sogd:29 Zzzz:15 Ougr:19 Zzzz:25 Chrs:1b Zzzz:13 Elym:16 Zzzz:8 Brah:4d Zzzz:3",
   "Brah:23 Zzzz:8 Brah Kthi:42 Zzzz:9 Kthi Zzzz:1 Sora:18 Zzzz:6 Sora:9 Zzzz:5 Cakm:34 Zzzz",
   "Cakm:11 Zzzz:7 Mahj:26 Zzzz:8 Shrd:5f Zzzz Sinh:13 Zzzz:a Khoj:11 Zzzz Khoj:2e Zzzz:3d",
   "Mult:6 Zzzz Mult Zzzz Mult:3 Zzzz Mult:e Zzzz Mult:a Zzzz:5 Sind:3a Zzzz:4 Sind:9 Zzzz:5",
   "Gran:3 Zzzz Gran:7 Zzzz:1 Gran:1 Zzzz:1 Gran:15 Zzzz Gran:6 Zzzz Gran:1 Zzzz Gran:4 Zzzz",
   "Zinh Gran:8 Zzzz:1 Gran:1 Zzzz:1 Gran:2 Zzzz:1 Gran Zzzz:5 Gran Zzzz:4 Gran:6 Zzzz:1 Gran:6",
   "Zzzz:2 Gran:4 Zzzz:a Tutg:9 Zzzz Tutg Zzzz:1 Tutg Zzzz Tutg:25 Zzzz Tutg:9 Zzzz Tutg Zzzz:1",
   "Tutg Zzzz Tutg:3 Zzzz Tutg:9 Zzzz Tutg:1 Zzzz:7 Tutg:1 Zzzz:1c Newa:5b Zzzz Newa:4 Zzzz:1d",
   "Tirh:47 Zzzz:7 Tirh:9 Zzzz:a5 Sidd:35 Zzzz:1 Sidd:25 Zzzz:21 Modi:44 Zzzz:a Modi:9 Zzzz:5",
   "Mong:c Zzzz:12 Takr:39 Zzzz:5 Takr:9 Zzzz:5 Mymr:13 Zzzz:1b Ahom:1a Zzzz:1 Ahom:e Zzzz:3",
   "Ahom:16 Zzzz:b8 Dogr:3b Zzzz:63 Wara:52 Zzzz:b Wara Diak:6 Zzzz:1 Diak Zzzz:1 Diak:7 Zzzz",
   "Diak:1 Zzzz Diak:1d Zzzz Diak:1 Zzzz:1 Diak:b Zzzz:8 Diak:9 Zzzz:45 Nand:7 Zzzz:1 Nand:2d",
   "Zzzz:1 Nand:a Zzzz:1a Zanb:47 Zzzz:7 Soyo:52 Zzzz:c Cans:f Pauc:38 Zzzz:6 Deva:9 Zzzz:b5",
   "Sunu:21 Zzzz:d Sunu:9 Zzzz:5 Bhks:8 Zzzz Bhks:2c Zzzz Bhks:d Zzzz:9 Bhks:1c Zzzz:2 Marc:1f",
   "Zzzz:1 Marc:15 Zzzz Marc:d Zzzz:48 Gonm:6 Zzzz Gonm:1 Zzzz Gonm:2b Zzzz:2 Gonm Zzzz Gonm:1",
   "Zzzz Gonm:8 Zzzz:7 Gonm:9 Zzzz:5 Gong:5 Zzzz Gong:1 Zzzz Gong:24 Zzzz Gong:1 Zzzz Gong:5",
   "Zzzz:6 Gong:9 Zzzz:135 Maka:18 Zzzz:6 Kawi:10 Zzzz Kawi:28 Zzzz:2 Kawi:1c Zzzz:54 Lisu",
   "Zzzz:e Taml:31 Zzzz:c Taml Xsux:399 Zzzz:65 Xsux:6e Zzzz Xsux:4 Zzzz:a Xsux:c3 Zzzz:a4b",
   "Cpmn:62 Zzzz:c Egyp:455 Zzzz:9 Egyp:f9a Zzzz:4 Hluw:246 Zzzz:1ab8 Gukh:39 Zzzz:6c5 Bamu:238",
   "Zzzz:6 Mroo:1e Zzzz Mroo:9 Zzzz:3 Mroo:1 Tnsa:4e Zzzz Tnsa:9 Zzzz:5 Bass:1d Zzzz:1 Bass:5",
   "Zzzz:9 Hmng:45 Zzzz:9 Hmng:9 Zzzz Hmng:6 Zzzz Hmng:14 Zzzz:4 Hmng:12 Zzzz:1af Krai:39",
   "Zzzz:c5 Medf:5a Zzzz:64 Miao:4a Zzzz:3 Miao:38 Zzzz:6 Miao:10 Zzzz:3f Tang Nshu Hani:1 Kits",
   "Zzzz:a Hani:1 Zzzz:d Tang:17f7 Zzzz:7 Tang:2ff Kits:1d5 Zzzz:28 Kits Tang:8 Zzzz:22e6",
   "Kana:3 Zzzz Kana:6 Zzzz Kana:1 Zzzz Kana Hira:11e Kana:2 Zzzz:e Hira Zzzz:1c Hira:2 Zzzz:1",
   "Kana Zzzz:d Kana:3 Zzzz:7 Nshu:18b Zzzz:903 Dupl:6a Zzzz:4 Dupl:c Zzzz:2 Dupl:8 Zzzz:6",
   "Dupl:9 Zzzz:1 Dupl:3 Zyyy:3 Zzzz:f5b Zyyy:f9 Zzzz:5 Zyyy:1b3 Zzzz:4b Zinh:2d Zzzz:1 Zinh:16",
   "Zzzz:8 Zyyy:73 Zzzz:3b Zyyy:f5 Zzzz:9 Zyyy:26 Zzzz:1 Zyyy:3d Zinh:2 Zyyy:10 Zinh:7 Zyyy:1",
   "Zinh:6 Zyyy:1d Zinh:3 Zyyy:3c Zzzz:14 Grek:45 Zzzz:79 Zyyy:13 Zzzz:b Zyyy:13 Zzzz:b Zyyy:56",
   "Zzzz:8 Zyyy:18 Zzzz:86 Zyyy:54 Zzzz Zyyy:46 Zzzz Zyyy:1 Zzzz:1 Zyyy Zzzz:1 Zyyy:1 Zzzz:1",
   "Zyyy:3 Zzzz Zyyy:b Zzzz Zyyy Zzzz Zyyy:6 Zzzz Zyyy:40 Zzzz Zyyy:3 Zzzz:1 Zyyy:7 Zzzz Zyyy:6",
   "Zzzz Zyyy:1b Zzzz Zyyy:3 Zzzz Zyyy:4 Zzzz Zyyy Zzzz:2 Zyyy:6 Zzzz Zyyy:153 Zzzz:1 Zyyy:123",
   "Zzzz:1 Zyyy:31 Sgnw:28b Zzzz:e Sgnw:4 Zzzz Sgnw:e Zzzz:44f Latn:1e Zzzz:5 Latn:5 Zzzz:d4",
   "Glag:6 Zzzz Glag:10 Zzzz:1 Glag:6 Zzzz Glag:1 Zzzz Glag:4 Zzzz:4 Cyrl:3d Zzzz:20 Cyrl",
   "Zzzz:6f Hmnp:2c Zzzz:2 Hmnp:d Zzzz:1 Hmnp:9 Zzzz:3 Hmnp:1 Zzzz:13f Toto:1e Zzzz:10 Wcho:39",
   "Zzzz:4 Wcho Zzzz:1cf Nagm:29 Zzzz:d5 Onao:2a Zzzz:3 Onao Zzzz:1df Ethi:6 Zzzz Ethi:3 Zzzz",
   "Ethi:1 Zzzz Ethi:e Zzzz Mend:c4 Zzzz:1 Mend:f Zzzz:28 Adlm:4b Zzzz:3 Adlm:9 Zzzz:3 Adlm:1",
   "Zzzz:310 Zyyy:43 Zzzz:4b Zyyy:3c Zzzz:c1 Arab:3 Zzzz Arab:1a Zzzz Arab:1 Zzzz Arab Zzzz:1",
   "Arab Zzzz Arab:9 Zzzz Arab:3 Zzzz Arab Zzzz Arab Zzzz:5 Arab Zzzz:3 Arab Zzzz Arab Zzzz",
   "Arab Zzzz Arab:2 Zzzz Arab:1 Zzzz Arab Zzzz:1 Arab Zzzz Arab Zzzz Arab Zzzz Arab Zzzz Arab",
   "Zzzz Arab:1 Zzzz Arab Zzzz:1 Arab:3 Zzzz Arab:6 Zzzz Arab:3 Zzzz Arab:3 Zzzz Arab Zzzz",
   "Arab:9 Zzzz Arab:10 Zzzz:4 Arab:2 Zzzz Arab:4 Zzzz Arab:10 Zzzz:33 Arab:1 Zzzz:10d Zyyy:2b",
   "Zzzz:3 Zyyy:63 Zzzz:b Zyyy:e Zzzz:1 Zyyy:e Zzzz Zyyy:e Zzzz Zyyy:24 Zzzz:9 Zyyy:ad Zzzz:37",
   "Zyyy:19 Hira Zyyy:1 Zzzz:c Zyyy:2b Zzzz:3 Zyyy:8 Zzzz:6 Zyyy:1 Zzzz:d Zyyy:5 Zzzz:99",
   "Zyyy:3d7 Zzzz:3 Zyyy:10 Zzzz:2 Zyyy:c Zzzz:2 Zyyy:76 Zzzz:3 Zyyy:5e Zzzz:5 Zyyy:b Zzzz:3",
   "Zyyy Zzzz:e Zyyy:b Zzzz:3 Zyyy:37 Zzzz:7 Zyyy:9 Zzzz:5 Zyyy:27 Zzzz:7 Zyyy:1d Zzzz:1 Zyyy:b",
   "Zzzz:3 Zyyy:1 Zzzz:3d Zyyy:153 Zzzz:b Zyyy:d Zzzz:1 Zyyy:c Zzzz:2 Zyyy:9 Zzzz:4 Zyyy:37",
   "Zzzz:6 Zyyy:e Zzzz:1 Zyyy:a Zzzz:5 Zyyy:8 Zzzz:6 Zyyy:92 Zzzz Zyyy:65 Zzzz:405 Hani:a6df",
   "Zzzz:1f Hani:1039 Zzzz:5 Hani:dd Zzzz:1 Hani:1681 Zzzz:d Hani:1d30 Zzzz:e Hani:26d Zzzz:9a1",
   "Hani:21d Zzzz:5e1 Hani:134a Zzzz:4 Hani:105f Zzzz:adc50 Zyyy Zzzz:1d Zyyy:5f Zzzz:7f",
   "Zinh:ef Zzzz:2fe0f"]

/-- The scripts that use a character, with points between them, where they are more than its own script
or others. The rest has a hyphen. -/
def sharedScripts : Partition := .ofRows
  ["-:b6 Avst.Cari.Copt.Dupl.Elba.Geor.Glag.Gong.Goth.Grek.Hani.Latn.Lydi.Mahj.Perm.Shaw -:203",
   "Beng.Cyrl.Deva.Latn.Lisu.Thai.Toto -:9 Bopo.Latn - Bopo.Latn:2 - Latn.Lisu -:8 Latn.Thai -",
   "Bopo.Latn -:25 Cher.Copt.Cyrl.Grek.Latn.Perm.Sunu.Tale",
   "Cher.Cyrl.Grek.Latn.Osge.Sunu.Tale.Todr Cher.Cyrl.Latn.Tfng Glag.Latn.Sunu.Syrc.Thai",
   "Aghb.Cher.Copt.Cyrl.Goth.Grek.Latn.Osge.Syrc.Tfng.Todr Copt.Elba.Glag.Goth.Kana.Latn",
   "Cyrl.Grek.Latn.Perm Copt.Dupl.Hebr.Latn.Perm.Syrc.Tale.Tfng.Todr",
   "Armn.Cyrl.Dupl.Goth.Grek.Hebr.Latn.Perm.Syrc.Tale Latn.Tfng Dupl.Latn.Syrc",
   "Cher.Cyrl.Latn.Osge Cher.Latn.Tale Latn.Sunu Ethi.Latn - Latn.Sunu Cyrl.Latn.Todr -",
   "Grek.Latn.Perm.Todr -:b Latn.Syrc -:1 Cher.Dupl.Kana.Latn.Syrc Cher.Dupl.Latn.Syrc",
   "Latn.Syrc -:6 Latn.Sunu.Syrc Latn.Syrc - Cher.Latn.Syrc Aghb.Cher.Goth.Latn.Sunu.Thai -:f",
   "Grek -:1 Grek -:11 Latn.Osge -:4 Aghb.Latn.Todr -:3 Latn:c -:3 Copt.Grek:1 -:10c Cyrl.Perm",
   "Cyrl.Glag Cyrl.Latn:1 Cyrl.Glag -:100 Armn.Geor.Glag -:81",
   "Arab.Gara.Nkoo.Rohg.Syrc.Thaa.Yezi -:d Arab.Gara.Nkoo.Rohg.Syrc.Thaa.Yezi Arab.Syrc.Thaa",
   "-:1 Adlm.Arab.Gara.Nkoo.Rohg.Syrc.Thaa.Yezi -:1f",
   "Adlm.Arab.Mand.Mani.Ougr.Phlp.Rohg.Sogd.Syrc -:9 Arab.Syrc:a -:9 Arab.Thaa.Yezi:9 -:5",
   "Arab.Syrc -:62 Arab.Rohg -:27b",
   "Beng.Deva.Gran.Gujr.Guru.Knda.Latn.Mlym.Orya.Shrd.Taml.Telu.Tirh",
   "Beng.Deva.Gran.Gujr.Guru.Knda.Latn.Mlym.Orya.Taml.Telu.Tirh -:10",
   "Beng.Deva.Dogr.Gong.Gonm.Gran.Gujr.Guru.Knda.Mahj.Mlym.Nand.Onao.Orya.Sind.Sinh.Sylo.Takr.Taml.Telu.Tirh",
   "Beng.Deva.Dogr.Gong.Gonm.Gran.Gujr.Gukh.Guru.Knda.Limb.Mahj.Mlym.Nand.Onao.Orya.Sind.Sinh.Sylo.Takr.Taml.Telu.Tirh",
   "Deva.Dogr.Kthi.Mahj:9 -:75 Beng.Cakm.Sylo:9 -:75 Guru.Mult:9 -:75 Gujr.Khoj:9 -:f5",
   "Gran.Taml:d -:f1 Knda.Nand.Tutg:9 -:34f Cakm.Mymr.Tale:9 -:b0 Geor.Glag.Latn -:5ee Runr:2",
   "-:46 Buhd.Hano.Tagb.Tglg:1 -:ca Mong.Phag:1 - Mong.Phag -:4c9 Beng.Deva.Gran.Knda Deva",
   "Beng.Deva.Gran.Knda Deva.Gran.Knda Deva Beng.Deva:1 Deva.Shrd Beng.Deva Deva.Shrd",
   "Deva.Knda.Mlym.Orya.Taml.Telu Deva Deva.Shrd:1 Deva:1 Deva.Shrd Beng.Deva Deva:6 Deva.Nand",
   "Beng.Deva Deva:1 Beng.Deva Deva:3 Beng.Deva.Gran.Knda.Mlym.Nand.Orya.Sinh.Telu.Tirh.Tutg",
   "Deva.Gran Deva.Gran.Knda.Tutg Beng.Deva:1 Beng Deva.Gran:1 Nand -:c4 Grek:1 -:35",
   "Cyrl.Latn.Syrc - Syrc -:233 Latn.Mong.Phag -:1e Adlm.Arab -:9 Cari.Geor.Glag.Hung.Lyci.Orkh",
   "-:1 Cari.Grek.Hung.Mero -:91 Deva.Gran.Latn -:d25 Copt.Latn -:17 Avst.Orkh",
   "Avst.Cari.Geor.Hung.Kthi.Lydi.Samr -:9 Dupl -:3 Adlm.Arab.Hung - Cyrl.Glag -:1ab",
   "Hani.Tang:f - Bopo.Hang.Hani.Hira.Kana.Mong.Yiii Bopo.Hang.Hani.Hira.Kana.Mong.Phag.Yiii",
   "Bopo.Hang.Hani.Hira.Kana -:1 Hani - Bopo.Hang.Hani.Hira.Kana.Mong.Tibt.Yiii:1",
   "Bopo.Hang.Hani.Hira.Kana.Lisu.Mong.Tibt.Yiii:1 Bopo.Hang.Hani.Hira.Kana.Yiii:5 -",
   "Bopo.Hang.Hani.Hira.Kana Bopo.Hang.Hani.Hira.Kana.Yiii:7 Bopo.Hang.Hani.Hira.Kana:3 -:9",
   "Bopo.Hani:3 -:1 Bopo.Hang.Hani.Hira.Kana Hira.Kana:4 - Bopo.Hang.Hani.Hira.Kana -:3",
   "Hani.Hira.Kana:1 Hani:1 -:58 Hira.Kana:3 -:2 Hira.Kana -:59 Bopo.Hang.Hani.Hira.Kana.Yiii",
   "Hira.Kana -:92 Hani:f -:1f Hani:25 -:8 Hani.Tang -:2f Hani:27 -:37 Hani:30 -:e Hani:b -:32",
   "Hani -:57 Hani:18 -:9 Hani:4 -:5f Hani:1e -:726f Cyrl.Glag -:8f Hani.Latn:7 -:127",
   "Deva.Dogr.Gujr.Guru.Khoj.Knda.Kthi.Mahj.Mlym.Modi.Nand.Shrd.Sind.Takr.Tirh.Tutg:2",
   "Deva.Dogr.Gujr.Guru.Khoj.Knda.Kthi.Mahj.Modi.Nand.Shrd.Sind.Takr.Tirh.Tutg:2",
   "Deva.Dogr.Gujr.Guru.Khoj.Kthi.Mahj.Modi.Sind.Takr.Tirh:1",
   "Deva.Dogr.Gujr.Guru.Khoj.Kthi.Mahj.Modi.Shrd.Sind.Takr.Tirh",
   "Deva.Dogr.Gujr.Guru.Khoj.Kthi.Mahj.Modi.Sind.Takr.Tirh -:b6 Beng.Deva.Tutg - Deva.Taml -:39",
   "Kali.Latn.Mymr -:9f Bugi.Java -:536d Arab.Nkoo:1 -:b1 Arab.Thaa -:9 Arab.Thaa -:46",
   "Bopo.Hang.Hani.Hira.Kana:1 -:119 Bopo.Hang.Hani.Hira.Kana.Yiii:4 -:9 Hira.Kana -:2c",
   "Hira.Kana:1 -:15f Cpmn.Cprt.Linb:1 Cprt.Linb -:3 Cprt.Lina.Linb:2c -:2 Cprt.Linb:8 -:19f",
   "Arab.Copt:1b -:7f5 Mani.Ougr -:80d Gran.Taml - Gran.Taml -:36 Gran.Taml:1 -:c92 Gran.Taml:1",
   "- Gran.Taml -:9ccb Dupl:3 -:16bb Hani:11 -:1edd Hani:1 -:f0dad"]

/-- The names of the scripts, the code first. -/
def scriptNames : List String :=
  ["Adlm Adlam", "Ahom", "Hluw Anatolian_Hieroglyphs", "Arab Arabic", "Armn Armenian",
   "Avst Avestan", "Bali Balinese", "Bamu Bamum", "Bass Bassa_Vah", "Batk Batak", "Beng Bengali",
   "Bhks Bhaiksuki", "Bopo Bopomofo", "Brah Brahmi", "Brai Braille", "Bugi Buginese",
   "Buhd Buhid", "Cans Canadian_Aboriginal", "Cari Carian", "Aghb Caucasian_Albanian",
   "Cakm Chakma", "Cham", "Cher Cherokee", "Chrs Chorasmian", "Zyyy Common", "Copt Coptic qaac",
   "Xsux Cuneiform", "Cprt Cypriot", "Cpmn Cypro_Minoan", "Cyrl Cyrillic", "Dsrt Deseret",
   "Deva Devanagari", "Diak Dives_Akuru", "Dogr Dogra", "Dupl Duployan",
   "Egyp Egyptian_Hieroglyphs", "Elba Elbasan", "Elym Elymaic", "Ethi Ethiopic", "Gara Garay",
   "Geor Georgian", "Glag Glagolitic", "Goth Gothic", "Gran Grantha", "Grek Greek",
   "Gujr Gujarati", "Gong Gunjala_Gondi", "Guru Gurmukhi", "Gukh Gurung_Khema", "Hani Han",
   "Hang Hangul", "Rohg Hanifi_Rohingya", "Hano Hanunoo", "Hatr Hatran", "Hebr Hebrew",
   "Hira Hiragana", "Armi Imperial_Aramaic", "Zinh Inherited qaai", "Phli Inscriptional_Pahlavi",
   "Prti Inscriptional_Parthian", "Java Javanese", "Kthi Kaithi", "Knda Kannada", "Kana Katakana",
   "Kawi", "Kali Kayah_Li", "Khar Kharoshthi", "Kits Khitan_Small_Script", "Khmr Khmer",
   "Khoj Khojki", "Sind Khudawadi", "Krai Kirat_Rai", "Laoo Lao", "Latn Latin", "Lepc Lepcha",
   "Limb Limbu", "Lina Linear_A", "Linb Linear_B", "Lisu", "Lyci Lycian", "Lydi Lydian",
   "Mahj Mahajani", "Maka Makasar", "Mlym Malayalam", "Mand Mandaic", "Mani Manichaean",
   "Marc Marchen", "Gonm Masaram_Gondi", "Medf Medefaidrin", "Mtei Meetei_Mayek",
   "Mend Mende_Kikakui", "Merc Meroitic_Cursive", "Mero Meroitic_Hieroglyphs", "Miao plrd",
   "Modi", "Mong Mongolian", "Mroo Mro", "Mult Multani", "Mymr Myanmar", "Nbat Nabataean",
   "Nagm Nag_Mundari", "Nand Nandinagari", "Talu New_Tai_Lue", "Newa", "Nkoo Nko", "Nshu Nushu",
   "Hmnp Nyiakeng_Puachue_Hmong", "Ogam Ogham", "Olck Ol_Chiki", "Onao Ol_Onal",
   "Hung Old_Hungarian", "Ital Old_Italic", "Narb Old_North_Arabian", "Perm Old_Permic",
   "Xpeo Old_Persian", "Sogo Old_Sogdian", "Sarb Old_South_Arabian", "Orkh Old_Turkic",
   "Ougr Old_Uyghur", "Orya Oriya", "Osge Osage", "Osma Osmanya", "Hmng Pahawh_Hmong",
   "Palm Palmyrene", "Pauc Pau_Cin_Hau", "Phag Phags_Pa", "Phnx Phoenician",
   "Phlp Psalter_Pahlavi", "Rjng Rejang", "Runr Runic", "Samr Samaritan", "Saur Saurashtra",
   "Shrd Sharada", "Shaw Shavian", "Sidd Siddham", "Sgnw SignWriting", "Sinh Sinhala",
   "Sogd Sogdian", "Sora Sora_Sompeng", "Soyo Soyombo", "Sund Sundanese", "Sunu Sunuwar",
   "Sylo Syloti_Nagri", "Syrc Syriac", "Tglg Tagalog", "Tagb Tagbanwa", "Tale Tai_Le",
   "Lana Tai_Tham", "Tavt Tai_Viet", "Takr Takri", "Taml Tamil", "Tnsa Tangsa", "Tang Tangut",
   "Telu Telugu", "Thaa Thaana", "Thai", "Tibt Tibetan", "Tfng Tifinagh", "Tirh Tirhuta",
   "Todr Todhri", "Toto", "Tutg Tulu_Tigalari", "Ugar Ugaritic", "Vaii Vai", "Vith Vithkuqi",
   "Wcho Wancho", "Wara Warang_Citi", "Yezi Yezidi", "Yiii Yi", "Zanb Zanabazar_Square"]

/-- The characters that belong to the script with a name. -/
def ofScript? (name : Text) : Option CharSet :=
  (label? scriptNames name).map fun code => scripts.select (· == code)

/-- The characters that the script with a name uses. -/
def ofScriptExtension? (name : Text) : Option CharSet :=
  (label? scriptNames name).map fun code =>
    let shared := sharedScripts.select fun codes => (Text.pieces '.' codes).contains code
    let settled := sharedScripts.select (· != ['-'])
    shared ∪ scripts.select (· == code) \ settled

end LiveTex.Property
