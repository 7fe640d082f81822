import LiveTex.Text.Blank

/-!
The zones of a name: what stands on the line, the subscript, the superscript, and the text after the
name. Outside braces a space ends a name, and so does a command after its first character.
-/

namespace LiveTex.Name

/-- Where a character of a name belongs. -/
inductive Zone where
  | main | sub | sup
  deriving Repr, DecidableEq

/-- A name taken apart, and the text that was not read. -/
structure Zones where
  main : Text
  sub : Text
  sup : Text
  trailing : Text
  deriving Repr, DecidableEq

def Zones.rest (trailing : Text) : Zones := ⟨[], [], [], trailing⟩

/-- Puts a character in front of its zone. -/
def Zones.push (z : Zones) (zone : Zone) (c : Char) : Zones :=
  match zone with
  | .main => { z with main := c :: z.main }
  | .sub => { z with sub := c :: z.sub }
  | .sup => { z with sup := c :: z.sup }

/-- What the scanner knows when it comes to a character. Braces that close nothing make the depth
negative, and then nothing counts as outside braces until it is back at zero. -/
structure Scan where
  zone : Zone
  depth : Int
  /-- The last character was a backslash that begins an escape. -/
  escaped : Bool
  /-- A command name is being read outside braces. -/
  inCommand : Bool
  /-- The main zone is not empty. -/
  started : Bool
  deriving Repr, DecidableEq

def Scan.start : Scan := ⟨.main, 0, false, false, false⟩

/-- A backslash outside braces begins a command unless the one before it escapes it; a space outside
braces ends the command. -/
def Scan.noteCommand (s : Scan) (c : Char) : Scan :=
  if c = '\\' then
    { s with inCommand := s.inCommand || (!s.escaped && s.depth == 0), escaped := !s.escaped }
  else { s with inCommand := s.inCommand && !(c == ' ' && s.depth == 0), escaped := false }

/-- Braces change the depth; the one that closes the last group ends a command. -/
def Scan.noteBrace (s : Scan) (c : Char) : Scan :=
  if c = '{' then { s with depth := s.depth + 1 }
  else if c = '}' then
    { s with depth := s.depth - 1, inCommand := s.inCommand && s.depth - 1 != 0 }
  else s

/-- The scanner is outside braces and scripts. -/
def Scan.onLine (s : Scan) : Bool := s.zone == .main && s.depth == 0

/-- The script that a character opens. -/
def Scan.script? (s : Scan) (c : Char) : Option Zone :=
  if !s.onLine then none
  else if c = '_' then some .sub
  else if c = '^' then some .sup
  else none

/-- After a character was kept: a script ends with the first character outside braces that is not part
of a command name. -/
def Scan.advance (s : Scan) : Scan :=
  match s.zone with
  | .main => { s with started := true }
  | _ => if s.depth == 0 && !s.inCommand then { s with zone := .main } else s

/-- The zones of the first name in a text, read from the state `s` on. -/
def zonesFrom (s : Scan) : Text → Zones
  | [] => .rest []
  | c :: t =>
    let s := s.noteCommand c
    match s.script? c with
    | some zone => zonesFrom { s with zone := zone } t
    | none =>
      let s := s.noteBrace c
      if s.onLine && c == ' ' then .rest t
      else if s.onLine && c == '\\' && s.started then .rest (c :: t)
      else (zonesFrom s.advance t).push s.zone c

/-- The zones of the first name in a text. Blanks before it are passed over. -/
def zones (t : Text) : Zones := zonesFrom .start (Text.trimStart t)

@[simp] theorem trailing_push (z : Zones) (zone : Zone) (c : Char) :
    (z.push zone c).trailing = z.trailing := by
  cases zone <;> rfl

theorem length_trailing_zonesFrom_le (s : Scan) (t : Text) :
    (zonesFrom s t).trailing.length ≤ t.length := by
  induction t generalizing s with
  | nil => simp [zonesFrom, Zones.rest]
  | cons c t ih =>
    simp only [zonesFrom]
    split
    · exact Nat.le_trans (ih _) (Nat.le_succ _)
    · split
      · exact Nat.le_succ _
      · split
        · exact Nat.le_refl _
        · rw [trailing_push]
          exact Nat.le_trans (ih _) (Nat.le_succ _)

theorem length_trailing_zonesFrom_lt {s : Scan} {t : Text} (hs : s.started = false) (ht : t ≠ []) :
    (zonesFrom s t).trailing.length < t.length := by
  obtain ⟨c, t, rfl⟩ := List.exists_cons_of_ne_nil ht
  have hcommand : (s.noteCommand c).started = false := by
    unfold Scan.noteCommand; split <;> exact hs
  have hbrace : ((s.noteCommand c).noteBrace c).started = false := by
    unfold Scan.noteBrace; split
    · exact hcommand
    · split <;> exact hcommand
  simp only [zonesFrom]
  split
  · exact Nat.lt_succ_of_le (length_trailing_zonesFrom_le _ t)
  · split
    · exact Nat.lt_succ_self _
    · split
      · next h => simp [hbrace] at h
      · rw [trailing_push]
        exact Nat.lt_succ_of_le (length_trailing_zonesFrom_le _ t)

/-- Every name takes something off the text. -/
theorem length_trailing_lt {t : Text} (h : (zones t).trailing ≠ []) :
    (zones t).trailing.length < t.length := by
  by_cases ht : Text.trimStart t = []
  · simp [zones, ht, zonesFrom, Zones.rest] at h
  · exact Nat.lt_of_lt_of_le (length_trailing_zonesFrom_lt rfl ht) (Text.length_trimStart_le t)

end LiveTex.Name
