import LiveTex.Proofs.Name.Replacement

/-!
The runs of letters of a text. Replacing a name of letters acts on the longest runs of letters, one by
one, so several such replacements act like one after the other on each run.
-/

namespace LiveTex.Name

/-- There are only ASCII letters. -/
def AllLetters (t : Text) : Prop := ∀ c ∈ t, c.isAlpha = true

instance (t : Text) : Decidable (AllLetters t) := List.decidableBAll _ t

/-- The longest runs of letters between the characters that are no letters; a run can be empty. The run
that has been read so far is `run`. -/
def runs (run : Text) : Text → List Text
  | [] => [run]
  | c :: t => if c.isAlpha then runs (run ++ [c]) t else run :: runs [] t

/-- The text with every longest run of letters changed. -/
def mapRuns (σ : Text → Text) (run : Text) : Text → Text
  | [] => σ run
  | c :: t => if c.isAlpha then mapRuns σ (run ++ [c]) t else σ run ++ c :: mapRuns σ [] t

variable {σ τ : Text → Text}

/-- A longest run of letters at the front of a text. -/
theorem takeWhile_run {u rest : Text} (hu : AllLetters u) (hrest : noLetter rest.head? = true) :
    (u ++ rest).takeWhile Char.isAlpha = u ∧ (u ++ rest).dropWhile Char.isAlpha = rest := by
  rw [List.takeWhile_append_of_pos hu, List.dropWhile_append_of_pos hu]
  cases rest with
  | nil => simp
  | cons d rest =>
    have hd : d.isAlpha = false := by simpa [noLetter] using hrest
    simp [hd]

/-- A text that begins with a letter begins with a longest run of letters. -/
theorem exists_run (c : Char) (t : Text) (hc : c.isAlpha = true) :
    ∃ u rest, c :: t = u ++ rest ∧ u = c :: t.takeWhile Char.isAlpha ∧ AllLetters u ∧ noLetter rest.head? = true := by
  refine ⟨_, t.dropWhile Char.isAlpha, ?_, rfl, ?_, ?_⟩
  · rw [List.cons_append, List.takeWhile_append_dropWhile]
  · intro d hd
    obtain rfl | hd := List.mem_cons.mp hd
    · exact hc
    · exact List.all_eq_true.mp List.all_takeWhile d hd
  · cases hrest : t.dropWhile Char.isAlpha with
    | nil => rfl
    | cons d s =>
      have hd := List.head_dropWhile_not Char.isAlpha (l := t) (by simp [hrest])
      simpa [noLetter, hrest] using hd

theorem runs_append (run u : Text) {t : Text} (hu : AllLetters u) : runs run (u ++ t) = runs (run ++ u) t := by
  induction u generalizing run with
  | nil => simp
  | cons c u ih =>
    have hc := hu c (List.mem_cons_self ..)
    rw [List.cons_append, runs, if_pos hc, ih _ fun d hd => hu d (List.mem_cons_of_mem _ hd)]
    simp

theorem mapRuns_append (run u : Text) {t : Text} (hu : AllLetters u) :
    mapRuns σ run (u ++ t) = mapRuns σ (run ++ u) t := by
  induction u generalizing run with
  | nil => simp
  | cons c u ih =>
    have hc := hu c (List.mem_cons_self ..)
    rw [List.cons_append, mapRuns, if_pos hc, ih _ fun d hd => hu d (List.mem_cons_of_mem _ hd)]
    simp

theorem mapRuns_eq_self (run t : Text) (h : ∀ u ∈ runs run t, σ u = u) : mapRuns σ run t = run ++ t := by
  induction t generalizing run with
  | nil => simpa [mapRuns] using h run (by simp [runs])
  | cons c t ih =>
    rw [mapRuns]
    rw [runs] at h
    split
    · next hc =>
      rw [if_pos hc] at h
      simpa using ih _ h
    · next hc =>
      rw [if_neg hc] at h
      rw [h run (List.mem_cons_self ..), ih [] fun u hu => h u (List.mem_cons_of_mem _ hu)]
      rfl

/-- The runs of the changed text are the changed runs. -/
theorem runs_mapRuns (hσ : ∀ u, AllLetters u → AllLetters (σ u)) (run t : Text) (hrun : AllLetters run) :
    runs [] (mapRuns σ run t) = (runs run t).map σ := by
  induction t generalizing run with
  | nil =>
    have happend := runs_append [] (σ run) (t := []) (hσ run hrun)
    simpa [mapRuns, runs] using happend
  | cons c t ih =>
    rw [mapRuns, runs]
    split
    · next hc =>
      apply ih
      intro d hd
      rcases List.mem_append.mp hd with hd | hd
      · exact hrun d hd
      · rw [List.mem_singleton.mp hd]
        exact hc
    · next hc =>
      rw [runs_append [] (σ run) (hσ run hrun), List.nil_append, runs, if_neg hc,
        ih [] (by simp [AllLetters])]
      rfl

theorem mapRuns_mapRuns (hσ : ∀ u, AllLetters u → AllLetters (σ u)) (run t : Text)
    (hrun : AllLetters run) : mapRuns τ [] (mapRuns σ run t) = mapRuns (τ ∘ σ) run t := by
  induction t generalizing run with
  | nil =>
    have happend := mapRuns_append (σ := τ) [] (σ run) (t := []) (hσ run hrun)
    simpa [mapRuns] using happend
  | cons c t ih =>
    rw [mapRuns, mapRuns]
    split
    · next hc =>
      apply ih
      intro d hd
      rcases List.mem_append.mp hd with hd | hd
      · exact hrun d hd
      · rw [List.mem_singleton.mp hd]
        exact hc
    · next hc =>
      rw [mapRuns_append [] (σ run) (hσ run hrun), List.nil_append, mapRuns, if_neg hc,
        ih [] (by simp [AllLetters])]
      rfl

/-- Puts a replacement in the place of a run that is the name. -/
def replacing (name replacement run : Text) : Text := if run = name then replacement else run

theorem replacing_of_ne {name replacement run : Text} (h : run ≠ name) :
    replacing name replacement run = run := if_neg h

@[simp] theorem replacing_self (name replacement : Text) : replacing name replacement name = replacement :=
  if_pos rfl

theorem allLetters_replacing {name replacement : Text} (h : AllLetters replacement) (u : Text)
    (hu : AllLetters u) : AllLetters (replacing name replacement u) := by
  unfold replacing
  split
  · exact h
  · exact hu

section

variable {first : Char} {more replacement : Text}

theorem replaceEach_of_not_alpha {c : Char} {t : Text} (hfirst : first.isAlpha = true)
    (hc : c.isAlpha = false) (previous : Option Char) :
    replaceEach first more replacement previous (c :: t) =
      c :: replaceEach first more replacement (some c) t := by
  apply replaceEach_of_none
  rw [Text.after?, if_neg]
  rintro rfl
  rw [hfirst] at hc
  cases hc

/-- Behind a letter no token begins, so the rest of a run is kept. -/
theorem replaceEach_within_run {p : Char} {v rest : Text} (hfirst : first.isAlpha = true)
    (hp : p.isAlpha = true) (hv : AllLetters v) (hrest : noLetter rest.head? = true) :
    replaceEach first more replacement (some p) (v ++ rest) =
      v ++ replaceEach first more replacement none rest := by
  induction v generalizing p with
  | nil =>
    cases rest with
    | nil => simp [replaceEach]
    | cons c rest =>
      have hc : c.isAlpha = false := by simpa [noLetter] using hrest
      simp only [List.nil_append, replaceEach_of_not_alpha hfirst hc]
  | cons c v ih =>
    have hkeep : replaceEach first more replacement (some p) (c :: (v ++ rest)) =
        c :: replaceEach first more replacement (some c) (v ++ rest) := by
      cases hafter : Text.after? (first :: more) (c :: (v ++ rest)) with
      | none => exact replaceEach_of_none _ hafter
      | some after => rw [replaceEach_of_some _ hafter, if_neg (by simp [noLetter, hp])]
    rw [List.cons_append, hkeep, ih (hv c (List.mem_cons_self ..)) fun d hd => hv d (List.mem_cons_of_mem _ hd)]
    rfl

/-- A longest run of letters is replaced as a whole or not at all. -/
theorem replaceEach_run {u rest : Text} (hname : AllLetters (first :: more)) (hu : AllLetters u)
    (hne : u ≠ []) (hrest : noLetter rest.head? = true) {previous : Option Char}
    (hprevious : noLetter previous = true) :
    replaceEach first more replacement previous (u ++ rest) =
      replacing (first :: more) replacement u ++ replaceEach first more replacement none rest := by
  obtain ⟨c, v, rfl⟩ := List.exists_cons_of_ne_nil hne
  have hfirst := hname first (List.mem_cons_self ..)
  have hc := hu c (List.mem_cons_self ..)
  have hv : AllLetters v := fun d hd => hu d (List.mem_cons_of_mem _ hd)
  have hkept : replaceEach first more replacement (some c) (v ++ rest) =
      v ++ replaceEach first more replacement none rest := replaceEach_within_run hfirst hc hv hrest
  by_cases hwhole : c :: v = first :: more
  · have hafter : Text.after? (first :: more) (c :: (v ++ rest)) = some rest := by
      rw [Text.after?_eq_some_iff, ← hwhole]
      rfl
    rw [List.cons_append, replaceEach_of_some _ hafter, if_pos (by simp [hprevious, hrest]), hwhole,
      replacing_self]
    -- What stands before a text that begins with no letter makes no difference.
    cases rest with
    | nil => simp [replaceEach]
    | cons d rest =>
      have hd : d.isAlpha = false := by simpa [noLetter] using hrest
      simp only [replaceEach_of_not_alpha hfirst hd]
  · rw [replacing_of_ne hwhole, List.cons_append, List.cons_append, ← hkept]
    cases hafter : Text.after? (first :: more) (c :: (v ++ rest)) with
    | none => exact replaceEach_of_none _ hafter
    | some after =>
      rw [replaceEach_of_some _ hafter, if_neg]
      rw [hprevious, Bool.true_and]
      intro hend
      -- Two longest runs of letters at the same place are equal.
      apply hwhole
      have happend : c :: v ++ rest = first :: more ++ after := Text.after?_eq_some_iff.mp hafter
      rw [← (takeWhile_run hu hrest).1, happend, (takeWhile_run hname hend).1]

/-- Replacing a name of letters renames the runs of letters. -/
theorem replaceEach_eq_mapRuns (hname : AllLetters (first :: more)) (t : Text) {previous : Option Char}
    (hprevious : noLetter previous = true) :
    replaceEach first more replacement previous t =
      mapRuns (replacing (first :: more) replacement) [] t := by
  induction h : t.length using Nat.strongRecOn generalizing t previous with
  | ind n ih =>
    have hfirst := hname first (List.mem_cons_self ..)
    cases t with
    | nil => rw [replaceEach, mapRuns, replacing_of_ne (by simp)]
    | cons c t =>
      by_cases hc : c.isAlpha = true
      · obtain ⟨u, rest, hsplit, hu, hletters, hhead⟩ := exists_run c t hc
        have hne : u ≠ [] := hu ▸ List.cons_ne_nil _ _
        rw [hsplit, replaceEach_run hname hletters hne hhead hprevious,
          mapRuns_append [] u hletters, List.nil_append]
        cases hrest : rest with
        | nil => simp [replaceEach, mapRuns]
        | cons d s =>
          have hd : d.isAlpha = false := by simpa [noLetter, hrest] using hhead
          have hlength := congrArg List.length hsplit
          rw [hrest] at hlength
          simp only [List.length_append, List.length_cons] at hlength h
          have hu := List.length_pos_iff.mpr hne
          rw [replaceEach_of_not_alpha hfirst hd, mapRuns, if_neg (by simp [hd]),
            ih s.length (by omega) s (by simp [noLetter, hd]) rfl]
      · simp only [Bool.not_eq_true] at hc
        rw [replaceEach_of_not_alpha hfirst hc, mapRuns, if_neg (by simp [hc]), replacing_of_ne (by simp),
          ih t.length (by rw [← h]; simp) t (by simp [noLetter, hc]) rfl]
        rfl

end

/-- Replacing a name of letters renames the runs of letters. -/
theorem replaceWhole?_eq_mapRuns {name : Text} (hname : AllLetters name) (hne : name ≠ [])
    (t replacement : Text) :
    (replaceWhole? t name replacement).getD t = mapRuns (replacing name replacement) [] t := by
  obtain ⟨first, more, rfl⟩ := List.exists_cons_of_ne_nil hne
  rw [getD_replaceWhole?, replaceEach_eq_mapRuns hname t rfl]

/-- What a run of letters comes to when it is looked up among the names. -/
def looked (pairs : List (Text × Text)) (run : Text) : Text := (pairs.lookup run).getD run

theorem looked_cons (pair : Text × Text) (pairs : List (Text × Text)) (run : Text) :
    looked (pair :: pairs) run = if run = pair.1 then pair.2 else looked pairs run := by
  rw [looked, List.lookup_cons]
  split <;> simp_all [looked]

/-- Replacing names of letters one after the other looks up the runs of letters, if no replacement is a name. -/
theorem substitute_eq_mapRuns {pairs : List (Text × Text)} (hnames : ∀ p ∈ pairs, AllLetters p.1 ∧ p.1 ≠ [])
    (hreplacements : ∀ p ∈ pairs, AllLetters p.2) (happart : ∀ p ∈ pairs, ∀ q ∈ pairs, p.2 ≠ q.1) (t : Text) :
    substitute t pairs = mapRuns (looked pairs) [] t := by
  induction pairs generalizing t with
  | nil => exact (mapRuns_eq_self [] t fun _ _ => rfl).symm
  | cons pair pairs ih =>
    obtain ⟨hletters, hne⟩ := hnames pair (.head _)
    have hkept : looked pairs pair.2 = pair.2 := by
      have hnone : pairs.lookup pair.2 = none :=
        List.lookup_eq_none_iff.mpr fun q hq => by simpa using happart pair (.head _) q (.tail _ hq)
      rw [looked, hnone, Option.getD_none]
    have hcomp : looked pairs ∘ replacing pair.1 pair.2 = looked (pair :: pairs) := by
      funext run
      rw [Function.comp_apply, replacing, looked_cons]
      split
      · exact hkept
      · rfl
    calc substitute t (pair :: pairs)
      _ = substitute ((replaceWhole? t pair.1 pair.2).getD t) pairs := rfl
      _ = mapRuns (looked pairs) [] (mapRuns (replacing pair.1 pair.2) [] t) := by
        rw [replaceWhole?_eq_mapRuns hletters hne]
        exact ih (fun p hp => hnames p (.tail _ hp)) (fun p hp => hreplacements p (.tail _ hp))
          (fun p hp q hq => happart p (.tail _ hp) q (.tail _ hq)) _
      _ = mapRuns (looked (pair :: pairs)) [] t := by
        rw [mapRuns_mapRuns (allLetters_replacing (hreplacements pair (.head _))) [] t (by simp [AllLetters]), hcomp]

end LiveTex.Name
