import LiveTex.CharSet.Basic

/-!
The characters of a set in UTF-8. A range of characters is cut into pieces whose encodings are all the
ways to choose each byte from a range of its own.
-/

namespace LiveTex.CharSet

/-- The bytes of a code point. -/
def encode (n : Nat) : List Nat :=
  if n < 0x80 then [n]
  else if n < 0x800 then [0xc0 + n / 0x40, 0x80 + n % 0x40]
  else if n < 0x10000 then [0xe0 + n / 0x1000, 0x80 + n / 0x40 % 0x40, 0x80 + n % 0x40]
  else [0xf0 + n / 0x40000, 0x80 + n / 0x1000 % 0x40, 0x80 + n / 0x40 % 0x40, 0x80 + n % 0x40]

/-- Where to cut a range: where encodings get longer, or at the first or the last multiple of a power of
64 when the range goes over several and is not made of whole ones. -/
def seam? (low high : Nat) : Option Nat :=
  match [0x80, 0x800, 0x10000].find? fun n => low < n && n ≤ high with
  | some n => some n
  | .none =>
    if high < 0x80 then .none
    else [0x40, 0x1000, 0x40000].findSome? fun block =>
      if low / block = high / block then .none
      else if low % block ≠ 0 then some ((low / block + 1) * block)
      else if high % block ≠ block - 1 then some (high / block * block)
      else .none

/-- The pieces of a range, each one as its ranges of bytes. -/
def pieces (low high : Nat) : List (List (Nat × Nat)) :=
  match seam? low high with
  | .none => [(encode low).zip (encode high)]
  | some n =>
    if _h : low < n ∧ n ≤ high then pieces low (n - 1) ++ pieces n high else []
termination_by high - low

/-- The pieces of a set, in ascending order. -/
def byteRanges (s : CharSet) : List (List (Nat × Nat)) :=
  let (first, last) := surrogates
  (s.ranges.flatMap fun (low, high) =>
    [(low, min high (first - 1)), (max low (last + 1), high)].filter fun r => r.1 ≤ r.2).flatMap
      fun (low, high) => pieces low high

end LiveTex.CharSet
