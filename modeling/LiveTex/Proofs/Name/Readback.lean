import LiveTex.Proofs.Name.Balance
import LiveTex.Proofs.Name.Scanning

/-!
Names without backslashes whose braces are balanced. Such a name can be read back from any of its spellings, so two
names that share a spelling have all spellings in common.
-/

namespace LiveTex.Name

/-! The zones of a tidy text. -/

/-- What stands in a zone. -/
def Zones.text (z : Zones) : Zone → Text
  | .main => z.main
  | .sub => z.sub
  | .sup => z.sup

/-- What does not stand in a zone outside braces: on the line, a mark begins a script and a space ends the name. -/
def Zone.marks : Zone → List Char
  | .main => ['_', '^', ' ']
  | .sub | .sup => []

theorem Zones.text_push (z : Zones) (zone other : Zone) (c : Char) :
    (z.push zone c).text other = if zone = other then c :: z.text other else z.text other := by
  cases zone <;> cases other <;> rfl

theorem Zones.text_rest (t : Text) (zone : Zone) : (Zones.rest t).text zone = [] := by
  cases zone <;> rfl

/-- The scanner in a text without backslashes. -/
def Scan.within (zone : Zone) (depth : Nat) (started : Bool) : Scan := ⟨zone, depth, false, false, started⟩

section

variable {zone : Zone} {depth : Nat} {started : Bool} {c : Char} {t : Text}

theorem zonesFrom_opens (zone : Zone) (depth : Nat) (started : Bool) (t : Text) :
    ∃ started', zonesFrom (.within zone depth started) ('{' :: t) =
      (zonesFrom (.within zone (depth + 1) started') t).push zone '{' := by
  have hinside : (depth : Int) + 1 ≠ 0 := by omega
  refine ⟨started || zone == .main, ?_⟩
  rw [zonesFrom_stands (by simp), Scan.after_open, Scan.advance_eq]
  simp [Scan.within, hinside]

/-- The brace that closes the last group ends a script. -/
theorem zonesFrom_closes (zone : Zone) (depth : Nat) (started : Bool) (t : Text) :
    ∃ started', zonesFrom (.within zone (depth + 1) started) ('}' :: t) =
      (zonesFrom (.within (if depth = 0 then .main else zone) depth started') t).push zone '}' := by
  refine ⟨started || zone == .main, ?_⟩
  rw [zonesFrom_stands (by simp), Scan.after_close, Scan.advance_eq]
  simp [Scan.within]

/-- A character inside braces or in a script belongs to its zone. On the line it does so unless it is a mark: then it
begins a script or ends the name. -/
theorem zonesFrom_quiet (zone : Zone) (depth : Nat) (started : Bool) (t : Text) (hc : isQuiet c = true) :
    (depth = 0 ∧ ∃ zone', zonesFrom (.within zone depth started) (c :: t) = zonesFrom (.within zone' 0 started) t) ∨
    (depth = 0 ∧ zonesFrom (.within zone depth started) (c :: t) = .rest t) ∨
    ∃ zone' started', (zone' = zone ∨ depth = 0) ∧ (depth = 0 → c ∉ zone.marks) ∧
      zonesFrom (.within zone depth started) (c :: t) =
        (zonesFrom (.within zone' depth started') t).push zone c := by
  obtain ⟨hbackslash, hopen, hclose⟩ := isQuiet_iff.mp hc
  have hline : (Scan.within zone depth started).onLine = true ↔ zone = .main ∧ depth = 0 := by
    simp [Scan.onLine_eq_true_iff, Scan.within]
  obtain ⟨hon, zone', -, hscan⟩ | ⟨hon, rest, hrest, hscan⟩ | ⟨hplain, hscan⟩ :=
    zonesFrom_cons (.within zone depth started) c t
  · obtain ⟨rfl, rfl⟩ := hline.mp hon
    refine .inl ⟨rfl, zone', ?_⟩
    rw [hscan, Scan.noteCommand, if_neg hbackslash]
    simp [Scan.within]
  · obtain ⟨rfl, -⟩ | ⟨-, rfl⟩ := hrest
    · exact .inr (.inl ⟨(hline.mp hon).2, hscan⟩)
    · exact absurd rfl hbackslash
  · refine .inr (.inr ⟨if depth = 0 then .main else zone, started || zone == .main, ?_, fun hdepth => ?_, ?_⟩)
    · split
      · next hdepth => exact .inr hdepth
      · exact .inl rfl
    · cases zone with
      | main => exact hplain (hline.mpr ⟨rfl, hdepth⟩)
      | sub | sup => exact List.not_mem_nil
    · rw [hscan, Scan.after_of_ne hbackslash hopen hclose, Scan.advance_eq]
      simp [Scan.within]

end

/-- Outside braces it makes no difference in which zone the scan goes on. -/
theorem Tidy.owed {marks : List Char} {zone zone' other : Zone} {depth : Nat} {t : Text}
    (h : Tidy marks (if zone' = other then depth else 0) t) (hzone : zone' = zone ∨ depth = 0) :
    Tidy marks (if zone = other then depth else 0) t := by
  obtain rfl | rfl := hzone
  · exact h
  · rwa [ite_self] at h ⊢

/-- The zones of a tidy text are tidy. What is open when the scan begins is closed in the zone where it begins. -/
theorem Tidy.zonesFrom {zone : Zone} {depth : Nat} {started : Bool} {t : Text} (h : Tidy [] depth t) (other : Zone) :
    Tidy other.marks (if zone = other then depth else 0)
      ((zonesFrom (.within zone depth started) t).text other) := by
  induction h generalizing zone started with
  | nil =>
    rw [Name.zonesFrom, Zones.text_rest, ite_self]
    exact .nil
  | @opens depth t _ ih =>
    obtain ⟨started', hscan⟩ := zonesFrom_opens zone depth started t
    have ih := @ih zone started'
    rw [hscan, Zones.text_push]
    by_cases hother : zone = other
    · rw [if_pos hother] at ih
      rw [if_pos hother, if_pos hother]
      exact .opens ih
    · rw [if_neg hother] at ih
      rwa [if_neg hother, if_neg hother]
  | @closes depth t _ ih =>
    obtain ⟨started', hscan⟩ := zonesFrom_closes zone depth started t
    have hzone : (if depth = 0 then .main else zone) = zone ∨ depth = 0 := by
      by_cases hdepth : depth = 0
      · exact .inr hdepth
      · exact .inl (if_neg hdepth)
    have ih := (@ih _ started').owed hzone
    rw [hscan, Zones.text_push]
    by_cases hother : zone = other
    · rw [if_pos hother] at ih
      rw [if_pos hother, if_pos hother]
      exact .closes ih
    · rw [if_neg hother] at ih
      rwa [if_neg hother, if_neg hother]
  | @quiet depth c t hc _ _ ih =>
    obtain ⟨rfl, zone', hscan⟩ | ⟨rfl, hscan⟩ | ⟨zone', started', hzone, hmark, hscan⟩ :=
      zonesFrom_quiet zone depth started t hc
    · have ih := @ih zone' started
      rw [ite_self] at ih ⊢
      rwa [hscan]
    · rw [hscan, Zones.text_rest, ite_self]
      exact .nil
    · have ih := (@ih zone' started').owed hzone
      rw [hscan, Zones.text_push]
      by_cases hother : zone = other
      · rw [if_pos hother] at ih
        rw [if_pos hother, if_pos hother]
        exact .quiet hc (hother ▸ hmark) ih
      · rw [if_neg hother] at ih
        rwa [if_neg hother, if_neg hother]

theorem Tidy.zones {t : Text} (h : Tidy [] 0 t) (zone : Zone) : Tidy zone.marks 0 ((zones t).text zone) := by
  have hzone : Tidy zone.marks (if Zone.main = zone then 0 else 0)
      ((Name.zonesFrom (.within .main 0 false) (Text.trimStart t)).text zone) := h.trimStart.zonesFrom zone
  rwa [ite_self] at hzone

/-! Reading a name back from its spelling. -/

/-- What a script says: its zone without the braces around it and the blanks inside them. An empty zone says nothing. -/
def scriptText? (zone : Text) : Option Text :=
  match (unbraced? zone).getD zone with
  | [] => none
  | c :: t => some (Text.trim (c :: t))

theorem zoneScript_eq (mark : Char) (spelling : Spelling) (zone : Text) :
    zoneScript mark spelling zone = ((scriptText? zone).map (script mark spelling)).getD [] := by
  cases h : (unbraced? zone).getD zone <;> simp [zoneScript, scriptText?, h]

theorem zoneScript_of_trimmed {mark : Char} {zone s : Text} (spelling : Spelling) (hzone : (unbraced? zone).getD zone = s)
    (hne : s ≠ []) (htrimmed : Text.Trimmed s) : zoneScript mark spelling zone = script mark spelling s := by
  obtain ⟨c, t, rfl⟩ := List.exists_cons_of_ne_nil hne
  rw [zoneScript, hzone]
  simp only [Text.trim_eq_self htrimmed]

theorem Tidy.scriptText? {zone s : Text} (h : Tidy [] 0 zone) (hs : scriptText? zone = some s) : Tidy [] 0 s := by
  have hinner : Tidy [] 0 ((unbraced? zone).getD zone) := by
    cases hsome : unbraced? zone with
    | none => exact h
    | some inner => exact h.of_unbraced? hsome
  unfold Name.scriptText? at hs
  split at hs
  · cases hs
  · next heq =>
    cases hs
    rw [heq] at hinner
    exact hinner.trim

/-- A tidy script is a single character, or it stands in braces. -/
theorem script_eq (mark : Char) (spelling : Spelling) {s : Text} (h : Tidy [] 0 s) :
    (∃ c, s = [c] ∧ isQuiet c = true ∧ script mark spelling s = [mark, c]) ∨
      script mark spelling s = mark :: '{' :: s ++ ['}'] := by
  unfold script
  split
  · next hsingle =>
    simp only [Bool.and_eq_true, beq_iff_eq] at hsingle
    left
    have hisSingle := hsingle.2
    unfold isSingle at hisSingle
    split at hisSingle
    · next c => exact ⟨c, rfl, h.isQuiet_of_singleton, rfl⟩
    · exact absurd rfl (h.ne_backslash '\\' (List.mem_cons_self ..))
    · cases hisSingle
  · exact .inr rfl

/-- A script can be read back, however it is spelled. -/
theorem script_append_inj {mark : Char} {spelling spelling' : Spelling} {s s' r r' : Text} (hs : Tidy [] 0 s)
    (hs' : Tidy [] 0 s') (h : script mark spelling s ++ r = script mark spelling' s' ++ r') : s = s' ∧ r = r' := by
  obtain ⟨c, rfl, hc, hscript⟩ | hscript := script_eq mark spelling hs <;>
    obtain ⟨c', rfl, hc', hscript'⟩ | hscript' := script_eq mark spelling' hs' <;>
      rw [hscript, hscript'] at h
  · simp only [List.cons_append, List.nil_append, List.cons.injEq, true_and] at h
    exact ⟨congrArg ([·]) h.1, h.2⟩
  · simp only [List.cons_append, List.nil_append, List.cons.injEq, true_and] at h
    rw [h.1] at hc
    cases hc
  · simp only [List.cons_append, List.nil_append, List.cons.injEq, true_and] at h
    rw [← h.1] at hc'
    cases hc'
  · simp only [List.cons_append, List.append_assoc, List.cons.injEq, true_and] at h
    obtain ⟨rfl, hrest⟩ := hs.append_inj hs' (bars_cons (.inl rfl)) (bars_cons (.inl rfl)) (by simp) h
    exact ⟨rfl, List.tail_eq_of_cons_eq hrest⟩

/-- The script of a zone can be read back, when what follows does not begin with its mark. -/
theorem zoneScript_append_inj {mark : Char} {spelling spelling' : Spelling} {zone zone' r r' : Text}
    (hzone : Tidy [] 0 zone) (hzone' : Tidy [] 0 zone') (hr : r.head? ≠ some mark) (hr' : r'.head? ≠ some mark)
    (h : zoneScript mark spelling zone ++ r = zoneScript mark spelling' zone' ++ r') :
    scriptText? zone = scriptText? zone' ∧ r = r' := by
  have hhead (spelling : Spelling) (s rest : Text) : (script mark spelling s ++ rest).head? = some mark := by
    unfold script
    split <;> rfl
  rw [zoneScript_eq, zoneScript_eq] at h
  cases hs : scriptText? zone with
  | none =>
    cases hs' : scriptText? zone' with
    | none =>
      rw [hs, hs'] at h
      exact ⟨rfl, h⟩
    | some s' =>
      rw [hs, hs'] at h
      exact absurd ((congrArg List.head? h).trans (hhead ..)) hr
  | some s =>
    cases hs' : scriptText? zone' with
    | none =>
      rw [hs, hs'] at h
      exact absurd ((congrArg List.head? h).symm.trans (hhead ..)) hr'
    | some s' =>
      rw [hs, hs'] at h
      obtain ⟨rfl, hrest⟩ := script_append_inj (hzone.scriptText? hs) (hzone'.scriptText? hs') h
      exact ⟨rfl, hrest⟩

/-- The names of a text behind the first one, with a space before them. -/
def furtherNames (t : Text) : Text :=
  if (zones t).trailing = [] then [] else ' ' :: names .braced (zones t).trailing

theorem names_eq (spelling : Spelling) (t : Text) : names spelling t = (zones t).main ++
    (zoneScript '_' spelling (zones t).sub ++ (zoneScript '^' spelling (zones t).sup ++ furtherNames t)) := by
  rw [names, furtherNames]
  split <;> simp [Zones.name]

theorem head?_furtherNames (t : Text) : ∀ c ∈ (furtherNames t).head?, c = ' ' := by
  unfold furtherNames
  split <;> simp

theorem head?_zoneScript_append {mark : Char} {spelling : Spelling} {zone r : Text} :
    ∀ c ∈ (zoneScript mark spelling zone ++ r).head?, c = mark ∨ c ∈ r.head? := by
  intro c hc
  rw [zoneScript_eq] at hc
  cases hs : scriptText? zone with
  | none =>
    rw [hs] at hc
    exact .inr hc
  | some s =>
    rw [hs, Option.map_some, Option.getD_some] at hc
    unfold script at hc
    split at hc <;> exact .inl (Option.some.inj hc).symm

/-- A tidy name can be read back from its spelling: what stands on the line, what its scripts say, and what
follows. -/
theorem names_inj {spelling spelling' : Spelling} {t t' : Text} (ht : Tidy [] 0 t) (ht' : Tidy [] 0 t')
    (h : names spelling t = names spelling' t') :
    (zones t).main = (zones t').main ∧ scriptText? (zones t).sub = scriptText? (zones t').sub ∧
      scriptText? (zones t).sup = scriptText? (zones t').sup ∧ furtherNames t = furtherNames t' := by
  have hsup (spelling : Spelling) (t : Text) :
      ∀ c ∈ (zoneScript '^' spelling (zones t).sup ++ furtherNames t).head?, c = '^' ∨ c = ' ' := fun c hc =>
    (head?_zoneScript_append c hc).imp_right (head?_furtherNames t c)
  have hsub (spelling : Spelling) (t : Text) : Bars Zone.main.marks
      (zoneScript '_' spelling (zones t).sub ++ (zoneScript '^' spelling (zones t).sup ++ furtherNames t)) := by
    intro c hc
    obtain rfl | hc := head?_zoneScript_append c hc
    · exact .inr (by simp [Zone.marks])
    · obtain rfl | rfl := hsup spelling t c hc <;> exact .inr (by simp [Zone.marks])
  rw [names_eq, names_eq] at h
  obtain ⟨hmain, h⟩ := (ht.zones .main).append_inj (ht'.zones .main) (hsub _ _) (hsub _ _) (by simp [Zone.marks]) h
  obtain ⟨hsubs, h⟩ := zoneScript_append_inj (ht.zones .sub) (ht'.zones .sub)
    (fun heq => by cases hsup _ _ _ heq <;> contradiction) (fun heq => by cases hsup _ _ _ heq <;> contradiction) h
  obtain ⟨hsups, h⟩ := zoneScript_append_inj (ht.zones .sup) (ht'.zones .sup)
    (fun heq => by cases head?_furtherNames _ _ heq) (fun heq => by cases head?_furtherNames _ _ heq) h
  exact ⟨hmain, hsubs, hsups, h⟩

/-- Tidy names that share a spelling have all spellings in common. -/
theorem names_eq_of_names_eq {spelling spelling' : Spelling} {t t' : Text} (ht : Tidy [] 0 t) (ht' : Tidy [] 0 t')
    (h : names spelling t = names spelling' t') (other : Spelling) : names other t = names other t' := by
  obtain ⟨hmain, hsub, hsup, hfurther⟩ := names_inj ht ht' h
  rw [names_eq, names_eq, hmain, zoneScript_eq, zoneScript_eq, zoneScript_eq, zoneScript_eq, hsub, hsup, hfurther]

theorem spelled_of_tidy {t : Text} (h : Tidy [] 0 t) (spelling : Spelling) :
    spelled spelling t = names spelling (stripped t) := by
  rw [spelled, h.stripped.uncolored_eq]

/-- Tidy names share both aliases or none. -/
theorem aliases_eq_of_shared {t t' a : Text} (h : IsTidy t) (h' : IsTidy t') (ha : a ∈ aliases t)
    (ha' : a ∈ aliases t') : aliases t = aliases t' := by
  have ht := Tidy.of_isTidy h
  have ht' := Tidy.of_isTidy h'
  have hspelled {t : Text} (ha : a ∈ aliases t) : ∃ spelling, a = spelled spelling t := by
    rw [aliases, List.mem_pair] at ha
    exact ha.elim (fun ha => ⟨.braced, ha⟩) fun ha => ⟨.compact, ha⟩
  obtain ⟨spelling, rfl⟩ := hspelled ha
  obtain ⟨spelling', hshared⟩ := hspelled ha'
  rw [spelled_of_tidy ht, spelled_of_tidy ht'] at hshared
  have hall := names_eq_of_names_eq ht.stripped ht'.stripped hshared
  rw [aliases, aliases, canonical, canonical, spelled_of_tidy ht, spelled_of_tidy ht', spelled_of_tidy ht,
    spelled_of_tidy ht', hall, hall]

end LiveTex.Name
