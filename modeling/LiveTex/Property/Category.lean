import LiveTex.CharSet.Table
import LiveTex.Property.Name

/-!
The general category, which sorts every code point by what it is used for: letters, marks, numbers,
punctuation, symbols, separators, and the rest.
-/

namespace LiveTex.Property

/-- The categories by their two-letter codes. The surrogates have the code `Cs`. -/
def categories : Partition := .ofRows
  ["Cc:1f Zs Po:2 Sc Po:2 Ps Pe Po Sm Po Pd Po:1 Nd:9 Po:1 Sm:2 Po:1 Lu:19 Ps Po Pe Sk Pc Sk",
   "Ll:19 Ps Sm Pe Sm Cc:20 Zs Po Sc:3 So Po Sk So Lo Pi Sm Cf So Sk So Sm No:1 Sk Ll Po:1 Sk",
   "No Lo Pf No:2 Po Lu:16 Sm Lu:6 Ll:17 Sm Ll:7 Lu Ll Lu Ll Lu Ll Lu Ll Lu Ll Lu Ll Lu Ll Lu",
   "Ll Lu Ll Lu Ll Lu Ll Lu Ll Lu Ll Lu Ll Lu Ll Lu Ll Lu Ll Lu Ll Lu Ll Lu Ll Lu Ll Lu Ll Lu",
   "Ll Lu Ll Lu Ll Lu Ll Lu Ll Lu Ll:1 Lu Ll Lu Ll Lu Ll Lu Ll Lu Ll Lu Ll Lu Ll Lu Ll:1 Lu Ll",
   "Lu Ll Lu Ll Lu Ll Lu Ll Lu Ll Lu Ll Lu Ll Lu Ll Lu Ll Lu Ll Lu Ll Lu Ll Lu Ll Lu Ll Lu Ll",
   "Lu Ll Lu Ll Lu Ll Lu Ll Lu Ll Lu Ll Lu Ll Lu:1 Ll Lu Ll Lu Ll:2 Lu:1 Ll Lu Ll Lu:1 Ll Lu:2",
   "Ll:1 Lu:3 Ll Lu:1 Ll Lu:2 Ll:2 Lu:1 Ll Lu:1 Ll Lu Ll Lu Ll Lu:1 Ll Lu Ll:1 Lu Ll Lu:1 Ll",
   "Lu:2 Ll Lu Ll Lu:1 Ll:1 Lo Lu Ll:2 Lo:3 Lu Lt Ll Lu Lt Ll Lu Lt Ll Lu Ll Lu Ll Lu Ll Lu Ll",
   "Lu Ll Lu Ll Lu Ll Lu Ll:1 Lu Ll Lu Ll Lu Ll Lu Ll Lu Ll Lu Ll Lu Ll Lu Ll Lu Ll:1 Lu Lt Ll",
   "Lu Ll Lu:2 Ll Lu Ll Lu Ll Lu Ll Lu Ll Lu Ll Lu Ll Lu Ll Lu Ll Lu Ll Lu Ll Lu Ll Lu Ll Lu Ll",
   "Lu Ll Lu Ll Lu Ll Lu Ll Lu Ll Lu Ll Lu Ll Lu Ll Lu Ll Lu Ll Lu Ll Lu Ll Lu Ll Lu Ll Lu Ll",
   "Lu Ll:6 Lu:1 Ll Lu:1 Ll:1 Lu Ll Lu:3 Ll Lu Ll Lu Ll Lu Ll Lu Ll:44 Lo Ll:1a Lm:11 Sk:3 Lm:b",
   "Sk:d Lm:4 Sk:6 Lm Sk Lm Sk:10 Mn:6f Lu Ll Lu Ll Lm Sk Lu Ll Cn:1 Lm Ll:2 Po Lu Cn:3 Sk:1 Lu",
   "Po Lu:2 Cn Lu Cn Lu:1 Ll Lu:10 Cn Lu:8 Ll:22 Lu Ll:1 Lu:2 Ll:2 Lu Ll Lu Ll Lu Ll Lu Ll Lu",
   "Ll Lu Ll Lu Ll Lu Ll Lu Ll Lu Ll Lu Ll Lu Ll:4 Lu Ll Sm Lu Ll Lu:1 Ll:1 Lu:32 Ll:2f Lu Ll",
   "Lu Ll Lu Ll Lu Ll Lu Ll Lu Ll Lu Ll Lu Ll Lu Ll Lu Ll Lu Ll Lu Ll Lu Ll Lu Ll Lu Ll Lu Ll",
   "Lu Ll So Mn:4 Me:1 Lu Ll Lu Ll Lu Ll Lu Ll Lu Ll Lu Ll Lu Ll Lu Ll Lu Ll Lu Ll Lu Ll Lu Ll",
   "Lu Ll Lu Ll Lu Ll Lu Ll Lu Ll Lu Ll Lu Ll Lu Ll Lu Ll Lu Ll Lu Ll Lu Ll Lu Ll Lu Ll Lu Ll",
   "Lu:1 Ll Lu Ll Lu Ll Lu Ll Lu Ll Lu Ll Lu Ll:1 Lu Ll Lu Ll Lu Ll Lu Ll Lu Ll Lu Ll Lu Ll Lu",
   "Ll Lu Ll Lu Ll Lu Ll Lu Ll Lu Ll Lu Ll Lu Ll Lu Ll Lu Ll Lu Ll Lu Ll Lu Ll Lu Ll Lu Ll Lu",
   "Ll Lu Ll Lu Ll Lu Ll Lu Ll Lu Ll Lu Ll Lu Ll Lu Ll Lu Ll Lu Ll Lu Ll Lu Ll Lu Ll Lu Ll Lu",
   "Ll Lu Ll Lu Ll Lu Ll Lu Ll Lu Ll Lu Ll Lu Ll Lu Ll Lu Ll Lu Ll Cn Lu:25 Cn:1 Lm Po:5 Ll:28",
   "Po Pd Cn:1 So:1 Sc Cn Mn:2c Pd Mn Po Mn:1 Po Mn:1 Po Mn Cn:7 Lo:1a Cn:3 Lo:3 Po:1 Cn:a Cf:5",
   "Sm:2 Po:1 Sc Po:1 So:1 Mn:a Po Cf Po:2 Lo:1f Lm Lo:9 Mn:14 Nd:9 Po:3 Lo:1 Mn Lo:62 Po Lo",
   "Mn:6 Cf So Mn:5 Lm:1 Mn:1 So Mn:3 Lo:1 Nd:9 Lo:2 So:1 Lo Po:d Cn Cf Lo Mn Lo:1d Mn:1a Cn:1",
   "Lo:58 Mn:a Lo Cn:d Nd:9 Lo:20 Mn:8 Lm:1 So Po:2 Lm Cn:1 Mn Sc:1 Lo:15 Mn:3 Lm Mn:8 Lm Mn:2",
   "Lm Mn:4 Cn:1 Po:e Cn Lo:18 Mn:2 Cn:1 Po Cn Lo:a Cn:4 Lo:17 Sk Lo:5 Cn Cf:1 Cn:4 Mn:8 Lo:28",
   "Lm Mn:17 Cf Mn:1f Mc Lo:35 Mn Mc Mn Lo Mc:2 Mn:7 Mc:3 Mn Mc:1 Lo Mn:6 Lo:9 Mn:1 Po:1 Nd:9",
   "Po Lm Lo:e Mn Mc:1 Cn Lo:7 Cn:1 Lo:1 Cn:1 Lo:15 Cn Lo:6 Cn Lo Cn:2 Lo:3 Cn:1 Mn Lo Mc:2",
   "Mn:3 Cn:1 Mc:1 Cn:1 Mc:1 Mn Lo Cn:7 Mc Cn:3 Lo:1 Cn Lo:2 Mn:1 Cn:1 Nd:9 Lo:1 Sc:1 No:5 So",
   "Sc Lo Po Mn Cn:1 Mn:1 Mc Cn Lo:5 Cn:3 Lo:1 Cn:1 Lo:15 Cn Lo:6 Cn Lo:1 Cn Lo:1 Cn Lo:1 Cn:1",
   "Mn Cn Mc:2 Mn:1 Cn:3 Mn:1 Cn:1 Mn:2 Cn:2 Mn Cn:6 Lo:3 Cn Lo Cn:6 Nd:9 Mn:1 Lo:2 Mn Po Cn:9",
   "Mn:1 Mc Cn Lo:8 Cn Lo:2 Cn Lo:15 Cn Lo:6 Cn Lo:1 Cn Lo:4 Cn:1 Mn Lo Mc:2 Mn:4 Cn Mn:1 Mc Cn",
   "Mc:1 Mn Cn:1 Lo Cn:e Lo:1 Mn:1 Cn:1 Nd:9 Po Sc Cn:6 Lo Mn:5 Cn Mn Mc:1 Cn Lo:7 Cn:1 Lo:1",
   "Cn:1 Lo:15 Cn Lo:6 Cn Lo:1 Cn Lo:4 Cn:1 Mn Lo Mc Mn Mc Mn:3 Cn:1 Mc:1 Cn:1 Mc:1 Mn Cn:6",
   "Mn:1 Mc Cn:3 Lo:1 Cn Lo:2 Mn:1 Cn:1 Nd:9 So Lo No:5 Cn:9 Mn Lo Cn Lo:5 Cn:2 Lo:2 Cn Lo:3",
   "Cn:2 Lo:1 Cn Lo Cn Lo:1 Cn:2 Lo:1 Cn:2 Lo:2 Cn:2 Lo:b Cn:3 Mc:1 Mn Mc:1 Cn:2 Mc:2 Cn Mc:2",
   "Mn Cn:1 Lo Cn:5 Mc Cn:d Nd:9 No:2 So:5 Sc So Cn:4 Mn Mc:2 Mn Lo:7 Cn Lo:2 Cn Lo:16 Cn Lo:f",
   "Cn:1 Mn Lo Mn:2 Mc:3 Cn Mn:2 Cn Mn:3 Cn:6 Mn:1 Cn Lo:2 Cn:1 Lo Cn:1 Lo:1 Mn:1 Cn:1 Nd:9",
   "Cn:6 Po No:6 So Lo Mn Mc:1 Po Lo:7 Cn Lo:2 Cn Lo:16 Cn Lo:9 Cn Lo:4 Cn:1 Mn Lo Mc Mn Mc:4",
   "Cn Mn Mc:1 Cn Mc:1 Mn:1 Cn:6 Mc:1 Cn:5 Lo:1 Cn Lo:1 Mn:1 Cn:1 Nd:9 Cn Lo:1 Mc Cn:b Mn:1",
   "Mc:1 Lo:8 Cn Lo:2 Cn Lo:28 Mn:1 Lo Mc:2 Mn:3 Cn Mc:2 Cn Mc:2 Mn Lo So Cn:3 Lo:2 Mc No:6",
   "Lo:2 Mn:1 Cn:1 Nd:9 No:8 So Lo:5 Cn Mn Mc:1 Cn Lo:11 Cn:2 Lo:17 Cn Lo:8 Cn Lo Cn:1 Lo:6",
   "Cn:2 Mn Cn:3 Mc:2 Mn:2 Cn Mn Cn Mc:7 Cn:5 Nd:9 Cn:1 Mc:1 Po Cn:b Lo:2f Mn Lo:1 Mn:6 Cn:3 Sc",
   "Lo:5 Lm Mn:7 Po Nd:9 Po:1 Cn:24 Lo:1 Cn Lo Cn Lo:4 Cn Lo:17 Cn Lo Cn Lo:9 Mn Lo:1 Mn:8 Lo",
   "Cn:1 Lo:4 Cn Lm Cn Mn:6 Cn Nd:9 Cn:1 Lo:3 Cn:1f Lo So:2 Po:e So Po So:2 Mn:1 So:5 Nd:9 No:9",
   "So Mn So Mn So Mn Ps Pe Ps Pe Mc:1 Lo:7 Cn Lo:23 Cn:3 Mn:d Mc Mn:4 Po Mn:1 Lo:4 Mn:a Cn",
   "Mn:23 Cn So:7 Mn So:5 Cn So:1 Po:4 So:3 Po:1 Cn:24 Lo:2a Mc:1 Mn:3 Mc Mn:5 Mc Mn:1 Mc:1",
   "Mn:1 Lo Nd:9 Po:5 Lo:5 Mc:1 Mn:1 Lo:3 Mn:2 Lo Mc:2 Lo:1 Mc:6 Lo:2 Mn:3 Lo:c Mn Mc:1 Mn:1",
   "Mc:5 Mn Lo Mc Nd:9 Mc:2 Mn So:1 Lu:25 Cn Lu Cn:4 Lu Cn:1 Ll:2a Po Lm Ll:2 Lo:148 Cn Lo:3",
   "Cn:1 Lo:6 Cn Lo Cn Lo:3 Cn:1 Lo:28 Cn Lo:3 Cn:1 Lo:20 Cn Lo:3 Cn:1 Lo:6 Cn Lo Cn Lo:3 Cn:1",
   "Lo:e Cn Lo:38 Cn Lo:3 Cn:1 Lo:42 Cn:1 Mn:2 Po:8 No:13 Cn:2 Lo:f So:9 Cn:5 Lu:55 Cn:1 Ll:5",
   "Cn:1 Pd Lo:26b So Po Lo:10 Zs Lo:19 Ps Pe Cn:2 Lo:4a Po:2 Nl:2 Lo:7 Cn:6 Lo:11 Mn:2 Mc Cn:8",
   "Lo:12 Mn:1 Mc Po:1 Cn:8 Lo:11 Mn:1 Cn:b Lo:c Cn Lo:2 Cn Mn:1 Cn:b Lo:33 Mn:1 Mc Mn:6 Mc:7",
   "Mn Mc:1 Mn:a Po:2 Lm Po:2 Sc Lo Mn Cn:1 Nd:9 Cn:5 No:9 Cn:5 Po:5 Pd Po:3 Mn:2 Cf Mn Nd:9",
   "Cn:5 Lo:22 Lm Lo:34 Cn:6 Lo:4 Mn:1 Lo:21 Mn Lo Cn:4 Lo:45 Cn:9 Lo:1e Cn Mn:2 Mc:3 Mn:1 Mc:2",
   "Cn:3 Mc:1 Mn Mc:5 Mn:2 Cn:3 So Cn:2 Po:1 Nd:9 Lo:1d Cn:1 Lo:4 Cn:a Lo:2b Cn:3 Lo:19 Cn:5",
   "Nd:9 No Cn:2 So:21 Lo:16 Mn:1 Mc:1 Mn Cn:1 Po:1 Lo:34 Mc Mn Mc Mn:6 Cn Mn Mc Mn Mc:1 Mn:7",
   "Mc:5 Mn:9 Cn:1 Mn Nd:9 Cn:5 Nd:9 Cn:5 Po:6 Lm Po:5 Cn:1 Mn:d Me Mn:f Cn:30 Mn:3 Mc Lo:2e Mn",
   "Mc Mn:4 Mc Mn Mc:4 Mn Mc:1 Lo:7 Cn Po:1 Nd:9 Po:6 So:9 Mn:8 So:8 Po:2 Mn:1 Mc Lo:1d Mc Mn:3",
   "Mc:1 Mn:1 Mc Mn:2 Lo:1 Nd:9 Lo:2b Mn Mc Mn:1 Mc:2 Mn Mc Mn:2 Mc:1 Cn:7 Po:3 Lo:23 Mc:7 Mn:7",
   "Mc:1 Mn:1 Cn:2 Po:4 Nd:9 Cn:2 Lo:2 Nd:9 Lo:1d Lm:5 Po:1 Ll:8 Lu Ll Cn:4 Lu:2a Cn:1 Lu:2",
   "Po:7 Cn:7 Mn:2 Po Mn:c Mc Mn:6 Lo:3 Mn Lo:5 Mn Lo:1 Mc Mn:1 Lo Cn:4 Ll:2b Lm:3e Ll:c Lm",
   "Ll:21 Lm:24 Mn:3f Lu Ll Lu Ll Lu Ll Lu Ll Lu Ll Lu Ll Lu Ll Lu Ll Lu Ll Lu Ll Lu Ll Lu Ll",
   "Lu Ll Lu Ll Lu Ll Lu Ll Lu Ll Lu Ll Lu Ll Lu Ll Lu Ll Lu Ll Lu Ll Lu Ll Lu Ll Lu Ll Lu Ll",
   "Lu Ll Lu Ll Lu Ll Lu Ll Lu Ll Lu Ll Lu Ll Lu Ll Lu Ll Lu Ll Lu Ll Lu Ll Lu Ll Lu Ll Lu Ll",
   "Lu Ll Lu Ll Lu Ll Lu Ll Lu Ll Lu Ll Lu Ll Lu Ll Lu Ll Lu Ll Lu Ll Lu Ll Lu Ll Lu Ll Lu Ll",
   "Lu Ll Lu Ll Lu Ll Lu Ll Lu Ll Lu Ll Lu Ll Lu Ll Lu Ll Lu Ll Lu Ll Lu Ll Lu Ll Lu Ll Lu Ll",
   "Lu Ll Lu Ll Lu Ll:8 Lu Ll Lu Ll Lu Ll Lu Ll Lu Ll Lu Ll Lu Ll Lu Ll Lu Ll Lu Ll Lu Ll Lu Ll",
   "Lu Ll Lu Ll Lu Ll Lu Ll Lu Ll Lu Ll Lu Ll Lu Ll Lu Ll Lu Ll Lu Ll Lu Ll Lu Ll Lu Ll Lu Ll",
   "Lu Ll Lu Ll Lu Ll Lu Ll Lu Ll Lu Ll Lu Ll Lu Ll Lu Ll Lu Ll Lu Ll Lu Ll Lu Ll Lu Ll Lu Ll",
   "Lu Ll Lu Ll Lu Ll Lu Ll Lu Ll Lu Ll Lu Ll:8 Lu:7 Ll:5 Cn:1 Lu:5 Cn:1 Ll:7 Lu:7 Ll:7 Lu:7",
   "Ll:5 Cn:1 Lu:5 Cn:1 Ll:7 Cn Lu Cn Lu Cn Lu Cn Lu Ll:7 Lu:7 Ll:d Cn:1 Ll:7 Lt:7 Ll:7 Lt:7",
   "Ll:7 Lt:7 Ll:4 Cn Ll:1 Lu:3 Lt Sk Ll Sk:2 Ll:2 Cn Ll:1 Lu:3 Lt Sk:2 Ll:3 Cn:1 Ll:1 Lu:3 Cn",
   "Sk:2 Ll:7 Lu:4 Sk:2 Cn:1 Ll:2 Cn Ll:1 Lu:3 Lt Sk:1 Cn Zs:a Cf:4 Pd:5 Po:1 Pi Pf Ps Pi:1 Pf",
   "Ps Pi Po:7 Zl Zp Cf:4 Zs Po:8 Pi Pf Po:3 Pc:1 Po:2 Sm Ps Pe Po:a Sm Po Pc Po:9 Zs Cf:4 Cn",
   "Cf:9 No Lm Cn:1 No:5 Sm:2 Ps Pe Lm No:9 Sm:2 Ps Pe Cn Lm:c Cn:2 Sc:20 Cn:e Mn:c Me:3 Mn",
   "Me:2 Mn:b Cn:e So:1 Lu So:3 Lu So:1 Ll Lu:2 Ll:1 Lu:2 Ll So Lu So:1 Sm Lu:4 So:5 Lu So Lu",
   "So Lu So Lu:3 So Ll Lu:3 Ll Lo:3 Ll So:1 Ll:1 Lu:1 Sm:4 Lu Ll:3 So Sm So:1 Ll So No:f Nl:22",
   "Lu Ll Nl:3 No So:1 Cn:3 Sm:4 So:4 Sm:1 So:3 Sm So:1 Sm So:1 Sm So:6 Sm So:1e Sm:1 So:1 Sm",
   "So Sm So:1e Sm:10b So:7 Ps Pe Ps Pe So:13 Sm:1 So:6 Ps Pe So:50 Sm So:1d Sm:18 So:27 Sm:5",
   "So:47 Cn:15 So:a Cn:14 No:3b So:4d No:15 So:b6 Sm So:8 Sm So:35 Sm:7 So:6e Sm So:f7 Ps Pe",
   "Ps Pe Ps Pe Ps Pe Ps Pe Ps Pe Ps Pe No:1d So:2b Sm:4 Ps Pe Sm:1e Ps Pe Ps Pe Ps Pe Ps Pe Ps",
   "Pe Sm:f So:ff Sm:82 Ps Pe Ps Pe Ps Pe Ps Pe Ps Pe Ps Pe Ps Pe Ps Pe Ps Pe Ps Pe Ps Pe Sm:3e",
   "Ps Pe Ps Pe Sm:1f Ps Pe Sm:101 So:2f Sm:14 So:1 Sm:5 So:26 Cn:1 So:1f Cn So:68 Lu:2f Ll:2f",
   "Lu Ll Lu:2 Ll:1 Lu Ll Lu Ll Lu Ll Lu:3 Ll Lu Ll:1 Lu Ll:5 Lm:1 Lu:2 Ll Lu Ll Lu Ll Lu Ll Lu",
   "Ll Lu Ll Lu Ll Lu Ll Lu Ll Lu Ll Lu Ll Lu Ll Lu Ll Lu Ll Lu Ll Lu Ll Lu Ll Lu Ll Lu Ll Lu",
   "Ll Lu Ll Lu Ll Lu Ll Lu Ll Lu Ll Lu Ll Lu Ll Lu Ll Lu Ll Lu Ll Lu Ll Lu Ll Lu Ll Lu Ll Lu",
   "Ll Lu Ll Lu Ll Lu Ll Lu Ll Lu Ll Lu Ll Lu Ll Lu Ll Lu Ll Lu Ll Lu Ll Lu Ll Lu Ll Lu Ll Lu",
   "Ll:1 So:5 Lu Ll Lu Ll Mn:2 Lu Ll Cn:4 Po:3 No Po:1 Ll:25 Cn Ll Cn:4 Ll Cn:1 Lo:37 Cn:6 Lm",
   "Po Cn:d Mn Lo:16 Cn:8 Lo:6 Cn Lo:6 Cn Lo:6 Cn Lo:6 Cn Lo:6 Cn Lo:6 Cn Lo:6 Cn Lo:6 Cn Mn:1f",
   "Po:1 Pi Pf Pi Pf Po:2 Pi Pf Po Pi Pf Po:8 Pd Po:1 Pd Po Pi Pf Po:1 Pi Pf Ps Pe Ps Pe Ps Pe",
   "Ps Pe Po:4 Lm Po:9 Pd:1 Po:3 Pd Po Ps Po:c So:1 Po:2 Ps Pe Ps Pe Ps Pe Ps Pe Pd Cn:21 So:19",
   "Cn So:58 Cn:b So:d5 Cn:19 So:f Zs Po:2 So Lm Lo Nl Ps Pe Ps Pe Ps Pe Ps Pe Ps Pe So:1 Ps Pe",
   "Ps Pe Ps Pe Ps Pe Pd Ps Pe:1 So Nl:8 Mn:3 Mc:1 Pd Lm:4 So:1 Nl:2 Lm Lo Po So:1 Cn Lo:55",
   "Cn:1 Mn:1 Sk:1 Lm:1 Lo Pd Lo:59 Po Lm:2 Lo Cn:4 Lo:2a Cn Lo:5d Cn So:1 No:3 So:9 Lo:1f",
   "So:25 Cn:8 So Lo:f So:1e Cn No:9 So:1d No:7 So No:e So:1f No:9 So:26 No:e So:13f Lo:19bf",
   "So:3f Lo:5214 Lm Lo:476 Cn:2 So:36 Cn:8 Lo:27 Lm:5 Po:1 Lo:10b Lm Po:2 Lo:f Nd:9 Lo:1 Cn:13",
   "Lu Ll Lu Ll Lu Ll Lu Ll Lu Ll Lu Ll Lu Ll Lu Ll Lu Ll Lu Ll Lu Ll Lu Ll Lu Ll Lu Ll Lu Ll",
   "Lu Ll Lu Ll Lu Ll Lu Ll Lu Ll Lu Ll Lu Ll Lu Ll Lo Mn Me:2 Po Mn:9 Po Lm Lu Ll Lu Ll Lu Ll",
   "Lu Ll Lu Ll Lu Ll Lu Ll Lu Ll Lu Ll Lu Ll Lu Ll Lu Ll Lu Ll Lu Ll Lm:1 Mn:1 Lo:45 Nl:9 Mn:1",
   "Po:5 Cn:7 Sk:16 Lm:8 Sk:1 Lu Ll Lu Ll Lu Ll Lu Ll Lu Ll Lu Ll Lu Ll:2 Lu Ll Lu Ll Lu Ll Lu",
   "Ll Lu Ll Lu Ll Lu Ll Lu Ll Lu Ll Lu Ll Lu Ll Lu Ll Lu Ll Lu Ll Lu Ll Lu Ll Lu Ll Lu Ll Lu",
   "Ll Lu Ll Lu Ll Lu Ll Lu Ll Lu Ll Lu Ll Lu Ll Lu Ll Lu Ll Lu Ll Lu Ll Lu Ll Lm Ll:7 Lu Ll Lu",
   "Ll Lu:1 Ll Lu Ll Lu Ll Lu Ll Lu Ll Lm Sk:1 Lu Ll Lu Ll Lo Lu Ll Lu Ll:2 Lu Ll Lu Ll Lu Ll",
   "Lu Ll Lu Ll Lu Ll Lu Ll Lu Ll Lu Ll Lu Ll Lu:4 Ll Lu:4 Ll Lu Ll Lu Ll Lu Ll Lu Ll Lu Ll Lu",
   "Ll Lu Ll Lu:3 Ll Lu Ll Lu:1 Ll Cn:1 Lu Ll Cn Ll Cn Ll Lu Ll Lu Ll Lu Ll Lu Cn:14 Lm:2 Lu Ll",
   "Lo Lm:1 Ll Lo:6 Mn Lo:2 Mn Lo:3 Mn Lo:16 Mc:1 Mn:1 Mc So:3 Mn Cn:2 No:5 So:1 Sc So Cn:5",
   "Lo:33 Po:3 Cn:7 Mc:1 Lo:31 Mc:f Mn:1 Cn:7 Po:1 Nd:9 Cn:5 Mn:11 Lo:5 Po:2 Lo Po Lo:1 Mn Nd:9",
   "Lo:1b Mn:7 Po:1 Lo:16 Mn:a Mc:1 Cn:a Po Lo:1c Cn:2 Mn:2 Mc Lo:2e Mn Mc:1 Mn:3 Mc:1 Mn:1",
   "Mc:2 Po:c Cn Lm Nd:9 Cn:3 Po:1 Lo:4 Mn Lm Lo:8 Nd:9 Lo:4 Cn Lo:28 Mn:5 Mc:1 Mn:1 Mc:1 Mn:1",
   "Cn:8 Lo:2 Mn Lo:7 Mn Mc Cn:1 Nd:9 Cn:1 Po:3 Lo:f Lm Lo:5 So:2 Lo Mc Mn Mc Lo:31 Mn Lo Mn:2",
   "Lo:1 Mn:1 Lo:4 Mn:1 Lo Mn Lo Cn:17 Lo:1 Lm Po:1 Lo:a Mc Mn:1 Mc:1 Po:1 Lo Lm:1 Mc Mn Cn:9",
   "Lo:5 Cn:1 Lo:5 Cn:1 Lo:5 Cn:8 Lo:6 Cn Lo:6 Cn Ll:2a Sk Lm:3 Ll:8 Lm Sk:1 Cn:3 Ll:4f Lo:22",
   "Mc:1 Mn Mc:1 Mn Mc:1 Po Mc Mn Cn:1 Nd:9 Cn:5 Lo:2ba3 Cn:b Lo:16 Cn:3 Lo:30 Cn:3 Cs:7ff",
   "Co:18ff Lo:16d Cn:1 Lo:69 Cn:25 Ll:6 Cn:b Ll:4 Cn:4 Lo Mn Lo:9 Sm Lo:c Cn Lo:4 Cn Lo Cn",
   "Lo:1 Cn Lo:1 Cn Lo:6b Sk:10 Cn:f Lo:16a Pe Ps So:f Lo:3f Cn:1 Lo:35 Cn:6 So Cn:1f Lo:b Sc",
   "So:2 Mn:f Po:6 Ps Pe Po Cn:5 Mn:f Po Pd:1 Pc:1 Ps Pe Ps Pe Ps Pe Ps Pe Ps Pe Ps Pe Ps Pe Ps",
   "Pe Po:1 Ps Pe Po:3 Pc:2 Po:2 Cn Po:3 Pd Ps Pe Ps Pe Ps Pe Po:2 Sm Pd Sm:2 Cn Po Sc Po:1",
   "Cn:3 Lo:4 Cn Lo:86 Cn:1 Cf Cn Po:2 Sc Po:2 Ps Pe Po Sm Po Pd Po:1 Nd:9 Po:1 Sm:2 Po:1 Lu:19",
   "Ps Po Pe Sk Pc Sk Ll:19 Ps Sm Pe Sm Ps Pe Po Ps Pe Po:1 Lo:9 Lm Lo:2c Lm:1 Lo:1e Cn:2 Lo:5",
   "Cn:1 Lo:5 Cn:1 Lo:5 Cn:1 Lo:2 Cn:2 Sc:1 Sm Sk So Sc:1 Cn So Sm:3 So:1 Cn:9 Cf:2 So:1 Cn:1",
   "Lo:b Cn Lo:19 Cn Lo:12 Cn Lo:1 Cn Lo:e Cn:1 Lo:d Cn:21 Lo:7a Cn:4 Po:2 Cn:3 No:2c Cn:2 So:8",
   "Nl:34 No:3 So:10 No:1 So:2 Cn So:c Cn:2 So Cn:2e So:2c Mn Cn:81 Lo:1c Cn:2 Lo:30 Cn:e Mn",
   "No:1a Cn:3 Lo:1f No:3 Cn:8 Lo:13 Nl Lo:7 Nl Cn:4 Lo:25 Mn:4 Cn:4 Lo:1d Cn Po Lo:23 Cn:3",
   "Lo:7 Po Nl:4 Cn:29 Lu:27 Ll:27 Lo:4d Cn:1 Nd:9 Cn:5 Lu:23 Cn:3 Ll:23 Cn:3 Lo:27 Cn:7 Lo:33",
   "Cn:a Po Lu:a Cn Lu:e Cn Lu:6 Cn Lu:1 Cn Ll:a Cn Ll:e Cn Ll:6 Cn Ll:1 Cn:2 Lo:33 Cn:b Lo:136",
   "Cn:8 Lo:15 Cn:9 Lo:7 Cn:17 Lm:5 Cn Lm:29 Cn Lm:8 Cn:44 Lo:5 Cn:1 Lo Cn Lo:2b Cn Lo:1 Cn:2",
   "Lo Cn:1 Lo:16 Cn Po No:7 Lo:16 So:1 No:6 Lo:1e Cn:7 No:8 Cn:2f Lo:12 Cn Lo:1 Cn:4 No:4",
   "Lo:15 No:5 Cn:2 Po Lo:19 Cn:4 Po Cn:3f Lo:37 Cn:3 No:1 Lo:1 No:f Cn:1 No:2d Lo Mn:2 Cn Mn:1",
   "Cn:4 Mn:3 Lo:3 Cn Lo:2 Cn Lo:1c Cn:1 Mn:2 Cn:3 Mn No:8 Cn:6 Po:8 Cn:6 Lo:1c No:1 Po Lo:1c",
   "No:2 Cn:1f Lo:7 So Lo:1b Mn:1 Cn:3 No:4 Po:6 Cn:8 Lo:35 Cn:2 Po:6 Lo:15 Cn:1 No:7 Lo:12",
   "Cn:4 No:7 Lo:11 Cn:6 Po:3 Cn:b No:6 Cn:4f Lo:48 Cn:36 Lu:32 Cn:c Ll:32 Cn:6 No:5 Lo:23 Mn:3",
   "Cn:7 Nd:9 Cn:5 Nd:9 Lo:3 Lm Lo Lu:15 Cn:2 Mn:4 Pd Lm Ll:15 Cn:7 Sm:1 Cn:cf No:1e Cn Lo:29",
   "Cn Mn:1 Pd Cn:1 Lo:1 Cn:f Lo:2 Cn:36 Mn:3 Lo:1c No:9 Lo Cn:7 Lo:15 Mn:a No:3 Po:4 Cn:15",
   "Lo:11 Mn:3 Po:3 Cn:25 Lo:14 No:6 Cn:13 Lo:16 Cn:8 Mc Mn Mc Lo:34 Mn:e Po:6 Cn:3 No:13 Nd:9",
   "Mn Lo:1 Mn:1 Lo Cn:8 Mn:2 Mc Lo:2c Mc:2 Mn:3 Mc:1 Mn:1 Po:1 Cf Po:3 Mn Cn:9 Cf Cn:1 Lo:18",
   "Cn:6 Nd:9 Cn:5 Mn:2 Lo:23 Mn:4 Mc Mn:7 Cn Nd:9 Po:3 Lo Mc:1 Lo Cn:7 Lo:22 Mn Po:1 Lo Cn:8",
   "Mn:1 Mc Lo:2f Mc:2 Mn:8 Mc:1 Lo:3 Po:3 Mn:3 Po Mc Mn Nd:9 Lo Po Lo Po:2 Cn No:13 Cn:a Lo:11",
   "Cn Lo:18 Mc:2 Mn:2 Mc:1 Mn Mc Mn:1 Po:5 Mn Lo:1 Mn Cn:3d Lo:6 Cn Lo Cn Lo:3 Cn Lo:e Cn Lo:9",
   "Po Cn:5 Lo:2e Mn Mc:2 Mn:7 Cn:4 Nd:9 Cn:5 Mn:1 Mc:1 Cn Lo:7 Cn:1 Lo:1 Cn:1 Lo:15 Cn Lo:6 Cn",
   "Lo:1 Cn Lo:4 Cn Mn:1 Lo Mc:1 Mn Mc:3 Cn:1 Mc:1 Cn:1 Mc:2 Cn:1 Lo Cn:5 Mc Cn:4 Lo:4 Mc:1",
   "Cn:1 Mn:6 Cn:2 Mn:4 Cn:a Lo:9 Cn Lo Cn:1 Lo Cn Lo:25 Cn Lo Mc:2 Mn:5 Cn Mc Cn:1 Mc Cn Mc:3",
   "Cn Mc:1 Mn Mc Mn Lo Mn Lo Po:1 Cn Po:1 Cn:7 Mn:1 Cn:1c Lo:34 Mc:2 Mn:7 Mc:1 Mn:2 Mc Mn Lo:3",
   "Po:4 Nd:9 Po:1 Cn Po Mn Lo:2 Cn:1d Lo:2f Mc:2 Mn:5 Mc Mn Mc:3 Mn:1 Mc Mn:1 Lo:1 Po Lo Cn:7",
   "Nd:9 Cn:a5 Lo:2e Mc:2 Mn:3 Cn:1 Mc:3 Mn:1 Mc Mn:1 Po:16 Lo:3 Mn:1 Cn:21 Lo:2f Mc:2 Mn:7",
   "Mc:1 Mn Mc Mn:1 Po:2 Lo Cn:a Nd:9 Cn:5 Po:c Cn:12 Lo:2a Mn Mc Mn Mc:1 Mn:5 Mc Mn Lo Po Cn:5",
   "Nd:9 Cn:5 Nd:13 Cn:1b Lo:1a Cn:1 Mn Mc Mn Mc:1 Mn:3 Mc Mn:4 Cn:3 Nd:9 No:1 Po:2 So Lo:6",
   "Cn:b8 Lo:2b Mc:2 Mn:8 Mc Mn:1 Po Cn:63 Lu:1f Ll:1f Nd:9 No:8 Cn:b Lo:7 Cn:1 Lo Cn:1 Lo:7 Cn",
   "Lo:1 Cn Lo:17 Mc:5 Cn Mc:1 Cn:1 Mn:1 Mc Mn Lo Mc Lo Mc Mn Po:2 Cn:8 Nd:9 Cn:45 Lo:7 Cn:1",
   "Lo:26 Mc:2 Mn:3 Cn:1 Mn:1 Mc:3 Mn Lo Po Lo Mc Cn:1a Lo Mn:9 Lo:27 Mn:5 Mc Lo Mn:3 Po:7 Mn",
   "Cn:7 Lo Mn:5 Mc:1 Mn:2 Lo:2d Mn:c Mc Mn:1 Po:2 Lo Po:4 Cn:c Lo:48 Cn:6 Po:9 Cn:b5 Lo:20 Po",
   "Cn:d Nd:9 Cn:5 Lo:8 Cn Lo:24 Mc Mn:6 Cn Mn:5 Mc Mn Lo Po:4 Cn:9 Nd:9 No:12 Cn:2 Po:1 Lo:1d",
   "Cn:1 Mn:15 Cn Mc Mn:6 Mc Mn:1 Mc Mn:1 Cn:48 Lo:6 Cn Lo:1 Cn Lo:25 Mn:5 Cn:2 Mn Cn Mn:1 Cn",
   "Mn:6 Lo Mn Cn:7 Nd:9 Cn:5 Lo:5 Cn Lo:1 Cn Lo:1f Mc:4 Cn Mn:1 Cn Mc:1 Mn Mc Mn Lo Cn:6 Nd:9",
   "Cn:135 Lo:12 Mn:1 Mc:1 Po:1 Cn:6 Mn:1 Lo Mc Lo:c Cn Lo:21 Mc:1 Mn:4 Cn:2 Mc:1 Mn Mc Mn Po:c",
   "Nd:9 Mn Cn:54 Lo Cn:e No:14 So:7 Sc:3 So:10 Cn:c Po Lo:399 Cn:65 Nl:6e Cn Po:4 Cn:a Lo:c3",
   "Cn:a4b Lo:60 Po:1 Cn:c Lo:42f Cf:f Mn Lo:5 Mn:e Cn:9 Lo:f9a Cn:4 Lo:246 Cn:1ab8 Lo:1d Mn:b",
   "Mc:2 Mn:2 Nd:9 Cn:6c5 Lo:238 Cn:6 Lo:1e Cn Nd:9 Cn:3 Po:1 Lo:4e Cn Nd:9 Cn:5 Lo:1d Cn:1",
   "Mn:4 Po Cn:9 Lo:2f Mn:6 Po:4 So:3 Lm:3 Po So Cn:9 Nd:9 Cn No:6 Cn Lo:14 Cn:4 Lo:12 Cn:1af",
   "Lm:2 Lo:27 Lm:1 Po:2 Nd:9 Cn:c5 Lu:1f Ll:1f No:16 Po:3 Cn:64 Lo:4a Cn:3 Mn Lo Mc:36 Cn:6",
   "Mn:3 Lm:c Cn:3f Lm:1 Po Lm Mn Cn:a Mc:1 Cn:d Lo:17f7 Cn:7 Lo:4d5 Cn:28 Lo:9 Cn:22e6 Lm:3 Cn",
   "Lm:6 Cn Lm:1 Cn Lo:122 Cn:e Lo Cn:1c Lo:2 Cn:1 Lo Cn:d Lo:3 Cn:7 Lo:18b Cn:903 Lo:6a Cn:4",
   "Lo:c Cn:2 Lo:8 Cn:6 Lo:9 Cn:1 So Mn:1 Po Cf:3 Cn:f5b So:ef Nd:9 Cn:5 So:1b3 Cn:4b Mn:2d",
   "Cn:1 Mn:16 Cn:8 So:73 Cn:3b So:f5 Cn:9 So:26 Cn:1 So:3b Mc:1 Mn:2 So:2 Mc:5 Cf:7 Mn:7 So:1",
   "Mn:6 So:1d Mn:3 So:3c Cn:14 So:41 Mn:2 So Cn:79 No:13 Cn:b No:13 Cn:b So:56 Cn:8 No:18",
   "Cn:86 Lu:19 Ll:19 Lu:19 Ll:6 Cn Ll:11 Lu:19 Ll:19 Lu Cn Lu:1 Cn:1 Lu Cn:1 Lu:1 Cn:1 Lu:3 Cn",
   "Lu:7 Ll:3 Cn Ll Cn Ll:6 Cn Ll:a Lu:19 Ll:19 Lu:1 Cn Lu:3 Cn:1 Lu:7 Cn Lu:6 Cn Ll:19 Lu:1 Cn",
   "Lu:3 Cn Lu:4 Cn Lu Cn:2 Lu:6 Cn Ll:19 Lu:19 Ll:19 Lu:19 Ll:19 Lu:19 Ll:19 Lu:19 Ll:19 Lu:19",
   "Ll:19 Lu:19 Ll:1b Cn:1 Lu:18 Sm Ll:18 Sm Ll:5 Lu:18 Sm Ll:18 Sm Ll:5 Lu:18 Sm Ll:18 Sm Ll:5",
   "Lu:18 Sm Ll:18 Sm Ll:5 Lu:18 Sm Ll:18 Sm Ll:5 Lu Ll Cn:1 Nd:31 So:1ff Mn:36 So:3 Mn:31 So:7",
   "Mn So:d Mn So:1 Po:4 Cn:e Mn:4 Cn Mn:e Cn:44f Ll:9 Lo Ll:13 Cn:5 Ll:5 Cn:d4 Mn:6 Cn Mn:10",
   "Cn:1 Mn:6 Cn Mn:1 Cn Mn:4 Cn:4 Lm:3d Cn:20 Mn Cn:6f Lo:2c Cn:2 Mn:6 Lm:6 Cn:1 Nd:9 Cn:3 Lo",
   "So Cn:13f Lo:1d Mn Cn:10 Lo:2b Mn:3 Nd:9 Cn:4 Sc Cn:1cf Lo:1a Lm Mn:3 Nd:9 Cn:d5 Lo:1d Mn:1",
   "Lo Nd:9 Cn:3 Po Cn:1df Lo:6 Cn Lo:3 Cn Lo:1 Cn Lo:e Cn Lo:c4 Cn:1 No:8 Mn:6 Cn:28 Lu:21",
   "Ll:21 Mn:6 Lm Cn:3 Nd:9 Cn:3 Po:1 Cn:310 No:3a So No:2 Sc No:3 Cn:4b No:2c So No:e Cn:c1",
   "Lo:3 Cn Lo:1a Cn Lo:1 Cn Lo Cn:1 Lo Cn Lo:9 Cn Lo:3 Cn Lo Cn Lo Cn:5 Lo Cn:3 Lo Cn Lo Cn Lo",
   "Cn Lo:2 Cn Lo:1 Cn Lo Cn:1 Lo Cn Lo Cn Lo Cn Lo Cn Lo Cn Lo:1 Cn Lo Cn:1 Lo:3 Cn Lo:6 Cn",
   "Lo:3 Cn Lo:3 Cn Lo Cn Lo:9 Cn Lo:10 Cn:4 Lo:2 Cn Lo:4 Cn Lo:10 Cn:33 Sm:1 Cn:10d So:2b Cn:3",
   "So:63 Cn:b So:e Cn:1 So:e Cn So:e Cn So:24 Cn:9 No:c So:a0 Cn:37 So:1c Cn:c So:2b Cn:3 So:8",
   "Cn:6 So:1 Cn:d So:5 Cn:99 So:fa Sk:4 So:2d7 Cn:3 So:10 Cn:2 So:c Cn:2 So:76 Cn:3 So:5e Cn:5",
   "So:b Cn:3 So Cn:e So:b Cn:3 So:37 Cn:7 So:9 Cn:5 So:27 Cn:7 So:1d Cn:1 So:b Cn:3 So:1 Cn:3d",
   "So:153 Cn:b So:d Cn:1 So:c Cn:2 So:9 Cn:4 So:37 Cn:6 So:e Cn:1 So:a Cn:5 So:8 Cn:6 So:92 Cn",
   "So:5b Nd:9 Cn:405 Lo:a6df Cn:1f Lo:1039 Cn:5 Lo:dd Cn:1 Lo:1681 Cn:d Lo:1d30 Cn:e Lo:26d",
   "Cn:9a1 Lo:21d Cn:5e1 Lo:134a Cn:4 Lo:105f Cn:adc50 Cf Cn:1d Cf:5f Cn:7f Mn:ef Cn:fe0f",
   "Co:fffd Cn:1 Co:fffd Cn:1"]

/-- The names of the categories, the code first. A code of one letter is that of all categories that
begin with the letter, and `LC` is that of the letters with a case. -/
def categoryNames : List String :=
  ["Lu Uppercase_Letter", "Ll Lowercase_Letter", "Lt Titlecase_Letter", "Lm Modifier_Letter",
   "Lo Other_Letter", "Mn Nonspacing_Mark", "Mc Spacing_Mark", "Me Enclosing_Mark",
   "Nd Decimal_Number digit", "Nl Letter_Number", "No Other_Number", "Pc Connector_Punctuation",
   "Pd Dash_Punctuation", "Ps Open_Punctuation", "Pe Close_Punctuation", "Pi Initial_Punctuation",
   "Pf Final_Punctuation", "Po Other_Punctuation", "Sm Math_Symbol", "Sc Currency_Symbol",
   "Sk Modifier_Symbol", "So Other_Symbol", "Zs Space_Separator", "Zl Line_Separator",
   "Zp Paragraph_Separator", "Cc Control cntrl", "Cf Format", "Co Private_Use", "Cn Unassigned",
   "L Letter", "LC Cased_Letter", "M Mark combiningmark", "N Number", "P Punctuation punct",
   "S Symbol", "Z Separator", "C Other"]

/-- The characters of some categories, each one given by its code or by the first letter of it. -/
def category (codes : List String) : CharSet :=
  categories.select fun code => codes.any fun wanted => wanted.toList.isPrefixOf code

/-- The characters of the category with a name. -/
def ofCategory? (name : Text) : Option CharSet :=
  if name = "any".toList then some .all
  else if name = "ascii".toList then some .ascii
  else if name = "assigned".toList then some (category ["Cn"]).compl
  else (label? categoryNames name).map fun code =>
    category (if code = "LC".toList then ["Lu", "Ll", "Lt"] else [String.ofList code])

end LiveTex.Property
