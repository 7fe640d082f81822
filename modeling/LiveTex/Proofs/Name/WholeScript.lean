import LiveTex.Proofs.Name.Scripted
import LiveTex.Proofs.Name.Wrappers

/-!
Scripts in braces with escapes in them. Where a script ends the scanner counts every brace, an escaped one as well, and
whether braces enclose a text is seen without the escapes. So a script is read whole as long as no escaped brace seems
to close it.
-/

namespace LiveTex.Name

/-! Marks are not made more by reading names. -/

/-- How often a character stands in the zones of a name and behind it. -/
def Zones.count (z : Zones) (c : Char) : Nat := z.main.count c + z.sub.count c + z.sup.count c + z.trailing.count c

theorem Zones.count_push (z : Zones) (zone : Zone) (c d : Char) :
    (z.push zone c).count d = [c].count d + z.count d := by
  cases zone <;> (simp only [push, count, List.count_cons, List.count_nil]; omega)

theorem Zones.count_rest (t : Text) (c : Char) : (Zones.rest t).count c = t.count c := by
  simp [rest, count]

theorem Zones.sub_push {z : Zones} {zone : Zone} (hzone : zone ≠ .sub) (c : Char) : (z.push zone c).sub = z.sub := by
  cases zone with
  | main | sup => rfl
  | sub => exact absurd rfl hzone

/-- Every mark that opens a subscript is left out. -/
theorem count_zonesFrom_le (s : Scan) (t : Text) : (zonesFrom s t).count '_' ≤ t.count '_' ∧
    (s.zone ≠ .sub → (zonesFrom s t).sub ≠ [] → (zonesFrom s t).count '_' < t.count '_') := by
  induction t generalizing s with
  | nil => simp [zonesFrom, Zones.rest, Zones.count]
  | cons c t ih =>
    have hcons : (c :: t).count '_' = [c].count '_' + t.count '_' := by
      rw [← List.singleton_append, List.count_append]
    rw [hcons]
    obtain ⟨-, zone, hmark, hscan⟩ | ⟨-, rest, hrest, hscan⟩ | ⟨-, hscan⟩ := zonesFrom_cons s c t
    · obtain ⟨hle, hlt⟩ := ih { s.noteCommand c with zone }
      rw [hscan]
      cases hmark with
      | sub => exact ⟨by omega, fun _ _ => by rw [List.count_singleton_self]; omega⟩
      | sup => exact ⟨by omega, fun _ hsub => Nat.lt_add_left _ (hlt (by simp) hsub)⟩
    · rw [hscan, Zones.count_rest]
      refine ⟨?_, fun _ hsub => absurd rfl hsub⟩
      obtain ⟨rfl, -⟩ | ⟨rfl, -⟩ := hrest
      · omega
      · rw [hcons]
    · obtain ⟨hle, hlt⟩ := ih (s.after c)
      rw [hscan, Zones.count_push]
      refine ⟨by omega, fun hsub hne => ?_⟩
      rw [Zones.sub_push hsub] at hne
      have hsub' : (s.after c).zone ≠ .sub := by
        obtain h | ⟨h, -⟩ := s.after_cases c <;> simp [h, hsub]
      have := hlt hsub' hne
      omega

theorem count_scriptText?_le {zone s : Text} (h : scriptText? zone = some s) (c : Char) : s.count c ≤ zone.count c := by
  have hinner : ((unbraced? zone).getD zone).Sublist zone := by
    cases hsome : unbraced? zone with
    | none => exact List.Sublist.refl _
    | some inner =>
      have hbraces := eq_braced_of_unbraced? hsome
      have hpart : inner <:+: zone := ⟨['{'], ['}'], hbraces.symm⟩
      exact hpart.sublist
  unfold scriptText? at h
  split at h
  · cases h
  · next heq =>
    cases h
    rw [heq] at hinner
    exact ((Text.isInfix_trim _).sublist.trans hinner).count_le c

/-- Only the mark in front of a script can be new. -/
theorem count_zoneScript_le (mark : Char) (zone : Text) : (zoneScript mark .braced zone).count '_' ≤
    zone.count '_' + if zone = [] then 0 else [mark].count '_' := by
  rw [zoneScript_eq]
  cases hs : scriptText? zone with
  | none => simp
  | some s =>
    have hle := count_scriptText?_le hs '_'
    have hne : zone ≠ [] := by
      rintro rfl
      cases hs
    rw [if_neg hne, Option.map_some, Option.getD_some, script, if_neg (by simp)]
    simp only [List.count_append, List.count_cons, List.count_nil, beq_iff_eq, Char.reduceEq, ↓reduceIte]
    omega

/-- The marks of subscripts in the names of a text, by what the scanner finds in it. -/
theorem count_names_le_zones (t : Text)
    (hfurther : (names .braced (zones t).trailing).count '_' ≤ (zones t).trailing.count '_') :
    (names .braced t).count '_' ≤ (zones t).count '_' + if (zones t).sub = [] then 0 else 1 := by
  have hsub := count_zoneScript_le '_' (zones t).sub
  have hsup := count_zoneScript_le '^' (zones t).sup
  have hback : (furtherNames t).count '_' ≤ (zones t).trailing.count '_' := by
    unfold furtherNames
    split
    · simp
    · rwa [List.count_cons_of_ne (by decide)]
  rw [List.count_singleton_self] at hsub
  rw [show ['^'].count '_' = 0 from rfl, ite_self] at hsup
  rw [names_eq, List.count_append, List.count_append, List.count_append, Zones.count]
  omega

/-- Reading the names of a text makes no new marks of subscripts. -/
theorem count_names_le (t : Text) : (names .braced t).count '_' ≤ t.count '_' := by
  induction hlength : t.length using Nat.strongRecOn generalizing t with
  | ind n ih =>
    have hfurther : (names .braced (zones t).trailing).count '_' ≤ (zones t).trailing.count '_' := by
      by_cases htrailing : (zones t).trailing = []
      · rw [htrailing]
        decide +kernel
      · exact ih _ (hlength ▸ length_trailing_lt htrailing) _ rfl
    have hnames := count_names_le_zones t hfurther
    obtain ⟨hle, hlt⟩ := count_zonesFrom_le .start (Text.trimStart t)
    have htrim : (Text.trimStart t).count '_' ≤ t.count '_' := (List.dropWhile_suffix _).sublist.count_le '_'
    have hzones : zonesFrom .start (Text.trimStart t) = zones t := rfl
    rw [hzones] at hle hlt
    split at hnames
    · omega
    · next hsub =>
      have := hlt (by simp [Scan.start]) hsub
      omega

/-! Where the scanner ends a script in braces. -/

section

variable {b c : Text}

/-- The first brace that closes more than was opened before it, when escaped braces count. -/
theorem exists_first_closing (h : ¬ ∀ front, front <+: c → front.count '}' ≤ front.count '{') :
    ∃ p rest, c = p ++ '}' :: rest ∧ (∀ front, front <+: p → front.count '}' ≤ front.count '{') ∧
      p.count '{' = p.count '}' := by
  induction c using List.reverseRecOn with
  | nil => exact absurd (by simp) h
  | append_singleton c d ih =>
    by_cases hc : ∀ front, front <+: c → front.count '}' ≤ front.count '{'
    · refine ⟨c, [], ?_⟩
      have hle := hc c (List.prefix_refl c)
      have hlt : ¬ (c ++ [d]).count '}' ≤ (c ++ [d]).count '{' := by
        intro hwhole
        refine h fun front hfront => ?_
        rw [List.prefix_concat_iff] at hfront
        obtain rfl | hfront := hfront
        · exact hwhole
        · exact hc front hfront
      rw [List.count_append, List.count_append] at hlt
      have hclose : d = '}' := by
        by_contra hne
        rw [List.count_singleton, if_neg (by simpa using hne)] at hlt
        omega
      subst hclose
      rw [show ['}'].count '}' = 1 from rfl, show ['}'].count '{' = 0 from rfl] at hlt
      exact ⟨rfl, hc, by omega⟩
    · obtain ⟨p, rest, rfl, hp, hcount⟩ := ih hc
      exact ⟨p, rest ++ [d], by simp, hp, hcount⟩

/-- The last brace belongs to the script, whether it closes it or not. -/
theorem zonesFrom_last_brace {zone : Zone} (hzone : zone ≠ .main) (depth : Int) (escaped : Bool) :
    zonesFrom ⟨zone, depth, escaped, false, true⟩ ['}'] = (Zones.rest []).push zone '}' := by
  rw [zonesFrom_of_script hzone, zonesFrom]

theorem zones_whole_script (hne : b ≠ []) (hb : ∀ d ∈ b, isOrdinary d = true)
    (hc : ∀ front, front <+: c → front.count '}' ≤ front.count '{') :
    zones (b ++ '_' :: '{' :: c ++ ['}']) = ⟨b, '{' :: c ++ ['}'], [], []⟩ := by
  obtain ⟨escaped, hscan⟩ := exists_zonesFrom_inside Marks.sub.ne_main 1 (u := c)
    (fun front hfront => by have := hc front hfront; omega) false ['}']
  rw [List.append_assoc, zones_ordinary_append _ hne hb, List.cons_append, List.cons_append, zonesFrom_mark_brace .sub,
    hscan, zonesFrom_last_brace Marks.sub.ne_main]
  simp [Zones.rest, Zones.push, Zones.put, Zones.onLine]

theorem zones_closed_script (hne : b ≠ []) (hb : ∀ d ∈ b, isOrdinary d = true)
    (hc : ∀ front, front <+: c → front.count '}' ≤ front.count '{') (hall : c.count '{' = c.count '}') (t : Text) :
    zones (b ++ '_' :: '{' :: c ++ '}' :: t) =
      ((zonesFrom (.main true) t).put .sub ('{' :: c ++ ['}'])).onLine b := by
  rw [List.append_assoc, zones_ordinary_append _ hne hb, zonesFrom_braces .sub hc hall]

/-- Nothing but the scanner changes a name with a script in braces. -/
theorem canonical_script (hne : b ≠ []) (hb : ∀ d ∈ b, isOrdinary d = true)
    (hcolor : ∀ command ∈ colorCommands, mentions command c = false) (hbalanced : Balanced (unescaped c)) :
    canonical (b ++ '_' :: '{' :: c ++ ['}']) = names .braced (b ++ '_' :: '{' :: c ++ ['}']) := by
  have hstripped : stripped (b ++ '_' :: '{' :: c ++ ['}']) = b ++ '_' :: '{' :: c ++ ['}'] := by
    obtain ⟨d, b, rfl⟩ := List.exists_cons_of_ne_nil hne
    have hd := hb d (.head _)
    have htrimmed : Text.Trimmed (d :: b ++ '_' :: '{' :: c ++ ['}']) := by
      refine ⟨by simpa using isBlank_of_isOrdinary hd, ?_⟩
      rw [List.getLast?_concat]
      simpa using (by decide : Text.isBlank '}' = false)
    have hhead : (d :: b ++ '_' :: '{' :: c ++ ['}']).head? ≠ some '{' := by
      simpa using (ne_of_isOrdinary hd).2.1
    exact stripped_eq_self htrimmed (unbraced?_of_head?_ne hhead)
  rw [canonical, spelled, hstripped, uncolored_eq_self]
  intro command hcommand
  apply mentions_eq_false_of_withSpaces
  have hfront : ∀ d ∈ b ++ ['_', '{'], d ≠ '\\' := by
    intro d hd
    simp only [List.mem_append, List.mem_cons, List.not_mem_nil, or_false] at hd
    obtain hd | rfl | rfl := hd
    · exact (ne_of_isOrdinary (hb d hd)).1
    · decide
    · decide
  have hends : Ends ['}'] := by simp [Ends]
  have hlast : withSpaces command ['}'] = ['}'] := by
    have hclose := withSpaces_append (s := ['}']) [] hcommand (by simp)
    rwa [withSpaces, List.append_nil] at hclose
  have hkeeps := withSpaces_append (c ++ ['}']) hcommand hfront
  rw [withSpaces_append_of_balanced hcommand hbalanced (hcolor command hcommand) hends, hlast] at hkeeps
  simpa using hkeeps

/-- Braces that nothing fills get a second pair. -/
theorem zoneScript_of_unfilled (mark : Char) (h : unbraced? ('{' :: c ++ ['}']) = none) :
    zoneScript mark .braced ('{' :: c ++ ['}']) = mark :: '{' :: ('{' :: c ++ ['}']) ++ ['}'] := by
  rw [zoneScript_of_trimmed .braced (by rw [h]; rfl) (by simp) (trimmed_braces c)]
  rfl

theorem braced_cons_ne (t x y : Text) : '{' :: t ++ x ≠ t ++ '}' :: y := by
  induction t with
  | nil => simp
  | cons d t ih =>
    intro heq
    obtain ⟨rfl, heq⟩ := List.cons.inj heq
    exact ih heq

/-- Where a brace closes more than was opened, the text before it does not fill the braces around it. -/
theorem unbraced?_closed_script {rest : Text} (hbalanced : Balanced (unescaped (c ++ '}' :: rest))) :
    unbraced? ('{' :: c ++ ['}']) = none := by
  rw [unbraced?_braced_eq_none_iff]
  rintro ⟨hinside, hend⟩
  rw [unescaped_append hend, unescaped_cons (by decide)] at hbalanced
  have hle := hbalanced.1 (unescaped c ++ ['}']) ⟨unescaped rest, by simp⟩
  have heq := hinside.2
  simp only [List.count_append, List.count_cons, List.count_nil, beq_iff_eq, Char.reduceEq, ↓reduceIte] at hle
  omega

/-- A script that seems to be closed before its end is not read as it is written. -/
theorem names_closed_script_ne (hne : b ≠ []) (hb : ∀ d ∈ b, isOrdinary d = true) {rest : Text}
    (hc : ∀ front, front <+: c → front.count '}' ≤ front.count '{') (hall : c.count '{' = c.count '}')
    (hbalanced : Balanced (unescaped (c ++ '}' :: rest))) :
    names .braced (b ++ '_' :: '{' :: (c ++ '}' :: rest) ++ ['}']) ≠ b ++ '_' :: '{' :: (c ++ '}' :: rest) ++ ['}'] := by
  have htext : b ++ '_' :: '{' :: (c ++ '}' :: rest) ++ ['}'] = b ++ '_' :: '{' :: c ++ '}' :: (rest ++ ['}']) := by simp
  rw [htext]
  intro heq
  have hzones := zones_closed_script hne hb hc hall (rest ++ ['}'])
  have hline := head?_main_zonesFrom_ne .sub (s := .main true) (fun _ => rfl) (rest ++ ['}'])
  obtain ⟨-, hmarks⟩ := count_zonesFrom_le (.main true) (rest ++ ['}'])
  generalize zonesFrom (.main true) (rest ++ ['}']) = z at hzones hline hmarks
  have hmain : (zones (b ++ '_' :: '{' :: c ++ '}' :: (rest ++ ['}']))).main = b ++ z.main := by
    rw [hzones]
    rfl
  have hsub : (zones (b ++ '_' :: '{' :: c ++ '}' :: (rest ++ ['}']))).sub = '{' :: c ++ ['}'] ++ z.sub := by
    rw [hzones]
    rfl
  by_cases hfurther : z.sub = []
  · -- The script has no braces to lose, so it gets a second pair.
    rw [hfurther, List.append_nil] at hsub
    rw [names_eq, hmain, hsub, zoneScript_of_unfilled '_' (unbraced?_closed_script hbalanced)] at heq
    simp only [List.append_assoc, List.append_cancel_left_eq] at heq
    cases hz : z.main with
    | nil =>
      rw [hz] at heq
      simp only [List.nil_append, List.cons_append, List.cons.injEq, true_and] at heq
      exact braced_cons_ne c _ _ (by simpa using heq)
    | cons d m =>
      rw [hz] at heq hline
      exact hline (congrArg some (List.cons.inj heq).1)
  · -- A second subscript was opened, and its mark is lost.
    have hnames := count_names_le_zones _ (count_names_le (zones (b ++ '_' :: '{' :: c ++ '}' :: (rest ++ ['}']))).trailing)
    have hlost := hmarks (by simp [Scan.main]) hfurther
    have hcount : (zones (b ++ '_' :: '{' :: c ++ '}' :: (rest ++ ['}']))).count '_' =
        b.count '_' + c.count '_' + z.count '_' := by
      rw [hzones]
      simp only [Zones.count, Zones.onLine, Zones.put, List.count_append, List.count_cons, List.count_nil, beq_iff_eq,
        Char.reduceEq, ↓reduceIte]
      omega
    rw [heq, hcount] at hnames
    simp only [List.count_append, List.count_cons, List.count_nil, beq_iff_eq, Char.reduceEq, ↓reduceIte] at hnames hlost
    split at hnames <;> omega

/-- A script whose braces are balanced without its escapes is written back as it is, when it does not end in an escape
and no front of it closes more braces than it opens, the escaped ones counted. Otherwise it is not. -/
theorem braced_script_is_kept_iff (hne : b ≠ []) (hb : ∀ d ∈ b, isOrdinary d = true) (hc : c ≠ [])
    (htrimmed : Text.Trimmed c) (hcolor : ∀ command ∈ colorCommands, mentions command c = false)
    (hbalanced : Balanced (unescaped c)) :
    canonical (b ++ '_' :: '{' :: c ++ ['}']) = b ++ '_' :: '{' :: c ++ ['}'] ↔
      endsInEscape c = false ∧ ∀ front, front <+: c → front.count '}' ≤ front.count '{' := by
  rw [canonical_script hne hb hcolor hbalanced]
  by_cases hfronts : ∀ front, front <+: c → front.count '}' ≤ front.count '{'
  · rw [and_iff_left hfronts, names_eq, furtherNames, zones_whole_script hne hb hfronts]
    cases hend : endsInEscape c with
    | false =>
      have hinner := unbraced?_braced_iff.mpr ⟨hbalanced, hend⟩
      rw [zoneScript_of_trimmed .braced (by rw [hinner]; rfl) hc htrimmed]
      simp [zoneScript, script, unbraced?]
    | true =>
      refine iff_of_false ?_ (by simp)
      have hnone : unbraced? ('{' :: c ++ ['}']) = none := unbraced?_braced_eq_none_iff.mpr (by simp [hend])
      rw [zoneScript_of_unfilled '_' hnone]
      intro heq
      have hlength := congrArg List.length heq
      simp [zoneScript, unbraced?] at hlength
  · refine iff_of_false ?_ (fun h => hfronts h.2)
    obtain ⟨p, rest, rfl, hp, hcount⟩ := exists_first_closing hfronts
    exact names_closed_script_ne hne hb hp hcount hbalanced

theorem braced_script_is_kept_of_escaped_pair :
    let b : Text := ['x']
    let c : Text := "\\\x7ba\\\x7d_\x7b2\x7d".toList
    Balanced (unescaped c) ∧ endsInEscape c = false ∧ (∀ front, front <+: c → front.count '}' ≤ front.count '{') ∧
      canonical (b ++ '_' :: '{' :: c ++ ['}']) = b ++ '_' :: '{' :: c ++ ['}'] := by
  intro b c
  have hb : ∀ d ∈ b, isOrdinary d = true := List.all_eq_true.mp (by decide)
  have hvisible : c.all (! Text.isBlank ·) = true := by decide
  have htrimmed : Text.Trimmed c := Text.trimmed_of_mem (by simpa using hvisible)
  have hcolor : ∀ command ∈ colorCommands, mentions command c = false := by decide
  have hbalanced : Balanced (unescaped c) := by decide +kernel
  have hend : endsInEscape c = false := by decide +kernel
  have hfronts : ∀ front ∈ c.inits, front.count '}' ≤ front.count '{' := by decide
  simp only [List.mem_inits] at hfronts
  exact ⟨hbalanced, hend, hfronts,
    (braced_script_is_kept_iff (by decide) hb (by decide) htrimmed hcolor hbalanced).mpr ⟨hend, hfronts⟩⟩

/-- An escaped closing brace ends the script, and what stands behind it comes to stand on the line. -/
theorem braced_script_is_lost_of_escaped_brace :
    let b : Text := ['x']
    let c : Text := "\\\x7d".toList
    AllLetters b ∧ Text.Trimmed c ∧ (∀ command ∈ colorCommands, mentions command c = false) ∧
      Balanced (unescaped c) ∧ endsInEscape c = false ∧
      canonical (b ++ '_' :: '{' :: c ++ ['}']) = "x\x7d_\x7b\x7b\\\x7d\x7d".toList ∧
      canonical (b ++ '_' :: '{' :: c ++ ['}']) ≠ b ++ '_' :: '{' :: c ++ ['}'] := by
  intro b c
  have hletters : AllLetters b := List.forall_mem_singleton.mpr (by decide)
  have hvisible : c.all (! Text.isBlank ·) = true := by decide
  have htrimmed : Text.Trimmed c := Text.trimmed_of_mem (by simpa using hvisible)
  exact ⟨hletters, htrimmed, by decide, by decide +kernel, by decide +kernel, by decide +kernel, by decide +kernel⟩

end

end LiveTex.Name
