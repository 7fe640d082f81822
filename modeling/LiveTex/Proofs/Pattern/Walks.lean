import LiveTex.Pattern.Occurrences

/-!
What a search follows. Every thread of a search has walked from the first instruction to where it is, one instruction
at a time, so a match that is found ends a walk from the place where it starts to the accepting instruction.
-/

namespace LiveTex.Pattern

/-- The surroundings of a position in a text, given the character before the text. -/
def placeAt (before : Option Char) (t : Text) (here : Nat) : Place := ⟨(t.take here).getLast?.or before, t[here]?, here⟩

/-- One step of a thread: it goes on where it is, or takes the character there. -/
inductive Step (program : Array Instr) (before : Option Char) (t : Text) : Nat → Thread → Nat → Thread → Prop where
  | stay {here : Nat} {u v : Thread} {instr : Instr} (hinstr : program[u.address]? = some instr)
      (hnext : v ∈ u.next (placeAt before t here) instr) : Step program before t here u here v
  | take {here : Nat} {u : Thread} {s : CharSet} {c : Char} (hinstr : program[u.address]? = some (.char s))
      (hc : t[here]? = some c) (hs : s.has c = true) :
      Step program before t here u (here + 1) { u with address := u.address + 1 }

/-- Some steps of a thread, one after the other. -/
inductive Walk (program : Array Instr) (before : Option Char) (t : Text) : Nat → Nat → Thread → Nat → Thread → Prop where
  | refl (here : Nat) (u : Thread) : Walk program before t 0 here u here u
  | step {steps here there stop : Nat} {u v w : Thread} (hstep : Step program before t here u there v)
      (hrest : Walk program before t steps there v stop w) : Walk program before t (steps + 1) here u stop w

section

variable {program : Array Instr} {before : Option Char} {t : Text} {here there : Nat} {u v : Thread}

theorem Thread.start_of_mem_next {place : Place} {instr : Instr} (h : v ∈ u.next place instr) : v.start = u.start := by
  cases instr with
  | char | accept => simp [Thread.next] at h
  | jump | groupStart | groupEnd =>
    obtain rfl := List.mem_singleton.mp h
    rfl
  | split =>
    obtain rfl | h := List.mem_cons.mp h
    · rfl
    · obtain rfl := List.mem_singleton.mp h
      rfl
  | anchor a =>
    rw [Thread.next] at h
    split at h
    · obtain rfl := List.mem_singleton.mp h
      rfl
    · simp at h

theorem Step.start_eq (h : Step program before t here u there v) : v.start = u.start := by
  cases h with
  | stay _ hnext => exact Thread.start_of_mem_next hnext
  | take => rfl

theorem Walk.concat {steps stop : Nat} {w : Thread} (h : Walk program before t steps here u there v)
    (hstep : Step program before t there v stop w) : Walk program before t (steps + 1) here u stop w := by
  induction h with
  | refl => exact .step hstep (.refl _ _)
  | step hfirst _ ih => exact .step hfirst (ih hstep)

/-- The thread has walked from the first instruction, at the place where its match starts, to where it is. -/
def Arrives (program : Array Instr) (before : Option Char) (t : Text) (here : Nat) (u : Thread) : Prop :=
  ∃ steps, Walk program before t steps u.start ⟨0, u.start, none, none⟩ here u

theorem arrives_start (here : Nat) : Arrives program before t here ⟨0, here, none, none⟩ := ⟨0, .refl _ _⟩

theorem Arrives.step (h : Arrives program before t here u) (hstep : Step program before t here u there v) :
    Arrives program before t there v := by
  obtain ⟨steps, hwalk⟩ := h
  refine ⟨steps + 1, ?_⟩
  rw [hstep.start_eq]
  exact hwalk.concat hstep

theorem arrives_follow (fuel : Nat) (threads : List Thread) (crowd : Crowd)
    (hthreads : ∀ u ∈ threads, Arrives program before t here u)
    (hcrowd : ∀ u ∈ crowd.waiting, Arrives program before t here u) :
    ∀ u ∈ (follow program (placeAt before t here) fuel threads crowd).waiting, Arrives program before t here u := by
  induction fuel generalizing threads crowd with
  | zero => exact hcrowd
  | succ fuel ih =>
    cases threads with
    | nil => exact hcrowd
    | cons u threads =>
      obtain ⟨hu, hrest⟩ := List.forall_mem_cons.mp hthreads
      rw [follow]
      split
      · exact ih threads crowd hrest hcrowd
      · next instr hinstr =>
        split
        · exact ih threads crowd hrest hcrowd
        · apply ih
          · intro v hv
            obtain hv | hv := List.mem_append.mp hv
            · exact hu.step (.stay hinstr hv)
            · exact hrest v hv
          · intro v hv
            split at hv
            · obtain rfl | hv := List.mem_cons.mp hv
              · exact hu
              · exact hcrowd v hv
            · exact hcrowd v hv

theorem arrives_enter {crowd : Crowd} (hu : Arrives program before t here u)
    (hcrowd : ∀ v ∈ crowd.waiting, Arrives program before t here v) :
    ∀ v ∈ (enter program (placeAt before t here) u crowd).waiting, Arrives program before t here v :=
  arrives_follow _ _ _ (by simpa using hu) hcrowd

theorem arrives_started {crowd : Crowd} (hcrowd : ∀ u ∈ crowd.waiting, Arrives program before t here u)
    (best : Option Hit) :
    ∀ u ∈ (crowd.started program (placeAt before t here) best).waiting.reverse, Arrives program before t here u := by
  intro u hu
  rw [List.mem_reverse, Crowd.started] at hu
  split at hu
  · exact arrives_enter (arrives_start here) hcrowd u hu
  · exact hcrowd u hu

/-- The match is that of a thread that has arrived at the accepting instruction. -/
def Accepted (program : Array Instr) (before : Option Char) (t : Text) (hit : Hit) : Prop :=
  ∃ here u, Arrives program before t here u ∧ program[u.address]? = some .accept ∧ hit = u.hit here

theorem accepted_of_advance {c : Option Char} {place : Place} {threads : List Thread} {crowd : Crowd} {hit : Hit}
    (hthreads : ∀ u ∈ threads, Arrives program before t here u)
    (h : (advance program here c place threads crowd).2 = some hit) : Accepted program before t hit := by
  induction threads generalizing crowd with
  | nil => simp [advance] at h
  | cons u threads ih =>
    obtain ⟨hu, hrest⟩ := List.forall_mem_cons.mp hthreads
    rw [advance] at h
    split at h
    · next haccept => exact ⟨here, u, hu, haccept, by simpa using h.symm⟩
    · split at h <;> exact ih hrest h
    · exact ih hrest h

theorem arrives_advance {c : Char} (hc : t[here]? = some c) {threads : List Thread} {crowd : Crowd}
    (hthreads : ∀ u ∈ threads, Arrives program before t here u)
    (hcrowd : ∀ u ∈ crowd.waiting, Arrives program before t (here + 1) u) :
    ∀ u ∈ (advance program here (some c) (placeAt before t (here + 1)) threads crowd).1.waiting,
      Arrives program before t (here + 1) u := by
  induction threads generalizing crowd with
  | nil => exact hcrowd
  | cons u threads ih =>
    obtain ⟨hu, hrest⟩ := List.forall_mem_cons.mp hthreads
    rw [advance]
    split
    · exact hcrowd
    · next s hinstr =>
      split
      · next hs => exact ih hrest (arrives_enter (hu.step (.take hinstr hc (by simpa using hs))) hcrowd)
      · exact ih hrest hcrowd
    · exact ih hrest hcrowd

/-- The place at the head of what is left of the text. -/
theorem placeAt_eq (before : Option Char) {rest : Text} (h : t.drop here = rest) :
    placeAt before t here = ⟨(placeAt before t here).before, rest.head?, here⟩ := by
  rw [← h, List.head?_drop]
  rfl

/-- Behind a character stands the rest of the text. -/
theorem placeAt_succ (before : Option Char) {c : Char} {rest : Text} (h : t.drop here = c :: rest) :
    t[here]? = some c ∧ t.drop (here + 1) = rest ∧ placeAt before t (here + 1) = ⟨some c, rest.head?, here + 1⟩ := by
  have hc : t[here]? = some c := by
    rw [← List.head?_drop, h]
    rfl
  have hrest : t.drop (here + 1) = rest := by
    rw [← List.tail_drop, h]
    rfl
  refine ⟨hc, hrest, ?_⟩
  rw [placeAt, List.take_add_one, hc, ← List.head?_drop, hrest]
  simp

theorem run_cons (crowd : Crowd) (best : Option Hit) (previous : Option Char) (c : Char) (rest : Text) :
    let started := crowd.started program ⟨previous, some c, here⟩ best
    let after := advance program here (some c) ⟨some c, rest.head?, here + 1⟩ started.waiting.reverse ⟨[], started.seen⟩
    run program crowd here best previous (c :: rest) =
      if best.isSome && started.waiting.isEmpty then best
      else run program after.1 (here + 1) (after.2.or best) (some c) rest := by
  intro started after
  rw [run]

/-- A run that follows threads that have arrived finds only what they come to. -/
theorem accepted_of_run {crowd : Crowd} {best : Option Hit} {previous : Option Char} {rest : Text} {hit : Hit}
    (hrest : t.drop here = rest) (hprevious : previous = (placeAt before t here).before)
    (hcrowd : ∀ u ∈ crowd.waiting, Arrives program before t here u) (hbest : ∀ hit ∈ best, Accepted program before t hit)
    (h : run program crowd here best previous rest = some hit) : Accepted program before t hit := by
  induction rest generalizing crowd here best previous with
  | nil =>
    have hplace := placeAt_eq before hrest
    rw [List.head?_nil, ← hprevious] at hplace
    rw [run, ← hplace, Option.or_eq_some_iff] at h
    obtain h | ⟨-, h⟩ := h
    · exact accepted_of_advance (arrives_started hcrowd best) h
    · exact hbest hit h
  | cons c rest ih =>
    have hplace := placeAt_eq before hrest
    obtain ⟨hc, hdrop, hafter⟩ := placeAt_succ before hrest
    have hthreads := arrives_started hcrowd best
    rw [List.head?_cons, ← hprevious] at hplace
    rw [run_cons, ← hplace, ← hafter] at h
    split at h
    · exact hbest hit h
    · refine ih hdrop (by rw [hafter]) (arrives_advance hc hthreads ?_) (fun hit hhit => ?_) h
      · simp
      · obtain hhit | ⟨-, hhit⟩ := Option.or_eq_some_iff.mp hhit
        · exact accepted_of_advance hthreads hhit
        · exact hbest hit hhit

/-- A match that a search finds is one that a thread has walked to. -/
theorem accepted_of_search {hit : Hit} (h : search program before t = some hit) : Accepted program before t hit := by
  refine accepted_of_run List.drop_zero rfl (fun u hu => ?_) (fun best hbest => ?_) h
  · simp [Crowd.empty] at hu
  · cases hbest

end

end LiveTex.Pattern
