import LiveTex.Proofs.Pattern.Walks
import Mathlib.Logic.Relation

/-!
What a pattern matches, said by its parts, and that a search finds nothing else. The instructions of a part lead every
thread that is going to accept from the first of them to the one behind the last, and on the way the thread takes what
the part matches.
-/

namespace LiveTex.Pattern

/-- How far a match has come, with the ends of the first group. -/
structure Progress where
  here : Nat
  groupStart : Option Nat
  groupEnd : Option Nat

/-- Rounds, one after the other. -/
def Rounds (r : Progress → Progress → Prop) : (count : Nat) → Progress → Progress → Prop
  | 0 => Eq
  | count + 1 => Relation.Comp r (Rounds r count)

/-- What a pattern matches in a text, given the character before the text: from where to where it can lead. -/
def Matches (before : Option Char) (t : Text) : Pattern → Progress → Progress → Prop
  | .empty => Eq
  | .char s => fun σ τ => (∃ c, t[σ.here]? = some c ∧ s.has c = true) ∧ τ = { σ with here := σ.here + 1 }
  | .anchor a => fun σ τ => a.holds (placeAt before t σ.here).before (placeAt before t σ.here).after = true ∧ τ = σ
  | .seq p q => Relation.Comp (Matches before t p) (Matches before t q)
  | .alt p q => fun σ τ => Matches before t p σ τ ∨ Matches before t q σ τ
  | .repeated p least most _ => fun σ τ =>
    ∃ count, least ≤ count ∧ (∀ m ∈ most, count ≤ max least m) ∧ Rounds (Matches before t p) count σ τ
  | .group index p =>
    if index = 1 then fun σ τ =>
      ∃ υ, Matches before t p { σ with groupStart := some σ.here } υ ∧ τ = { υ with groupEnd := some υ.here }
    else Matches before t p

/-- The program begins with these instructions. -/
def Begins (program code : Array Instr) : Prop :=
  ∀ (a : Nat) (instr : Instr), code[a]? = some instr → program[a]? = some instr

section

variable {program code : Array Instr}

theorem Begins.of_push {instr : Instr} (h : Begins program (code.push instr)) :
    Begins program code ∧ program[code.size]? = some instr := by
  constructor
  · intro a other ha
    obtain ⟨hlt, heq⟩ := Array.getElem?_eq_some_iff.mp ha
    exact h a other (by rw [Array.getElem?_push_lt hlt, heq])
  · exact h _ _ Array.getElem?_push_size

theorem Begins.of_rounds {round : Array Instr → Array Instr}
    (hround : ∀ code, Begins program (round code) → Begins program code) {count : Nat}
    (h : Begins program (rounds round count code)) : Begins program code := by
  induction count generalizing code with
  | zero => exact h
  | succ count ih => exact hround code (ih h)

theorem Begins.of_emit {p : Pattern} (h : Begins program (emit p code)) : Begins program code := by
  induction p generalizing code with
  | empty => exact h
  | char | anchor => exact h.of_push.1
  | seq p q ihp ihq => exact ihp (ihq h)
  | alt p q ihp ihq => exact (ihp (ihq h).of_push.1).of_push.1
  | group index p ih =>
    rw [emit] at h
    split at h
    · exact (ih h.of_push.1).of_push.1
    · exact ih h
  | repeated p least most greedy ih =>
    cases most with
    | some most =>
      rw [emit] at h
      exact (h.of_rounds fun _ h => (ih h).of_push.1).of_rounds fun _ => ih
    | none =>
      rw [emit] at h
      split at h
      · exact (ih h.of_push.1).of_push.1
      · exact (ih h.of_push.1).of_rounds fun _ => ih

end

/-- A thread at a position, as far as its match has come. -/
def Thread.progress (u : Thread) (here : Nat) : Progress := ⟨here, u.groupStart, u.groupEnd⟩

/-- Every walk from address `first` to the goal comes by address `last`, with `r` between the two. -/
def Leads (program : Array Instr) (before : Option Char) (t : Text) (stop : Nat) (goal : Thread)
    (r : Progress → Progress → Prop) (first last : Nat) : Prop :=
  ∀ steps here u, u.address = first → Walk program before t steps here u stop goal →
    ∃ left ≤ steps, ∃ there v, v.address = last ∧ v.start = u.start ∧ r (u.progress here) (v.progress there) ∧
      Walk program before t left there v stop goal

section

variable {program code : Array Instr} {before : Option Char} {t : Text} {here there stop : Nat} {u v goal : Thread}
variable {q r : Progress → Progress → Prop} {first middle last : Nat} {instr : Instr}

theorem leads_refl (first : Nat) : Leads program before t stop goal Eq first first :=
  fun steps here u hu hwalk => ⟨steps, Nat.le_refl _, here, u, hu, rfl, rfl, hwalk⟩

theorem Leads.comp (hr : Leads program before t stop goal r first middle)
    (hq : Leads program before t stop goal q middle last) :
    Leads program before t stop goal (Relation.Comp r q) first last := by
  intro steps here u hu hwalk
  obtain ⟨left, hleft, there, v, hv, hstart, hfirst, hwalk⟩ := hr steps here u hu hwalk
  obtain ⟨less, hless, place, w, hw, hsame, hsecond, hwalk⟩ := hq left there v hv hwalk
  exact ⟨less, Nat.le_trans hless hleft, place, w, hw, hsame.trans hstart, ⟨_, hfirst, hsecond⟩, hwalk⟩

theorem Leads.mono (hr : Leads program before t stop goal r first last) (h : ∀ σ τ, r σ τ → q σ τ) :
    Leads program before t stop goal q first last := by
  intro steps here u hu hwalk
  obtain ⟨left, hleft, there, v, hv, hstart, hfirst, hwalk⟩ := hr steps here u hu hwalk
  exact ⟨left, hleft, there, v, hv, hstart, h _ _ hfirst, hwalk⟩

/-- A thread that goes on from an instruction that does not accept makes a step first. -/
theorem Walk.exists_step {steps : Nat} (h : Walk program before t steps here u stop goal)
    (hgoal : program[goal.address]? = some .accept) (hinstr : program[u.address]? = some instr) (hne : instr ≠ .accept) :
    ∃ left there v, steps = left + 1 ∧ Step program before t here u there v ∧
      Walk program before t left there v stop goal := by
  cases h with
  | refl =>
    rw [hinstr, Option.some.injEq] at hgoal
    exact absurd hgoal hne
  | step hstep hrest => exact ⟨_, _, _, rfl, hstep, hrest⟩

theorem Step.cases_of_instr (h : Step program before t here u there v) (hinstr : program[u.address]? = some instr) :
    there = here ∧ v ∈ u.next (placeAt before t here) instr ∨
      ∃ s c, instr = .char s ∧ t[here]? = some c ∧ s.has c = true ∧ there = here + 1 ∧
        v = { u with address := u.address + 1 } := by
  cases h with
  | stay hsome hnext =>
    rw [hinstr, Option.some.injEq] at hsome
    subst hsome
    exact .inl ⟨rfl, hnext⟩
  | take hsome hc hs =>
    rw [hinstr, Option.some.injEq] at hsome
    exact .inr ⟨_, _, hsome, hc, hs, rfl, rfl⟩

/-- An instruction that takes no character leads to where each thread goes on. -/
theorem leads_of_next (hgoal : program[goal.address]? = some .accept) (hinstr : program[first]? = some instr)
    (hwaits : instr.waits = false)
    (hnext : ∀ (here : Nat) (u v : Thread), u.address = first → v ∈ u.next (placeAt before t here) instr →
      v.address = last ∧ r (u.progress here) (v.progress here)) : Leads program before t stop goal r first last := by
  intro steps here u hu hwalk
  rw [← hu] at hinstr
  have hne : instr ≠ .accept := by
    rintro rfl
    cases hwaits
  obtain ⟨left, there, v, rfl, hstep, hrest⟩ := hwalk.exists_step hgoal hinstr hne
  obtain ⟨rfl, hv⟩ | ⟨s, c, rfl, -⟩ := hstep.cases_of_instr hinstr
  · obtain ⟨hlast, hr⟩ := hnext there u v hu hv
    exact ⟨left, Nat.le_succ _, there, v, hlast, hstep.start_eq, hr, hrest⟩
  · cases hwaits

theorem leads_char {s : CharSet} (hgoal : program[goal.address]? = some .accept)
    (hinstr : program[first]? = some (.char s)) :
    Leads program before t stop goal (Matches before t (.char s)) first (first + 1) := by
  intro steps here u hu hwalk
  rw [← hu] at hinstr
  obtain ⟨left, there, v, rfl, hstep, hrest⟩ := hwalk.exists_step hgoal hinstr (by simp)
  obtain ⟨-, hv⟩ | ⟨s', c, heq, hc, hs, rfl, rfl⟩ := hstep.cases_of_instr hinstr
  · simp [Thread.next] at hv
  · cases heq
    refine ⟨left, Nat.le_succ _, here + 1, { u with address := u.address + 1 }, ?_, rfl, ⟨⟨c, hc, hs⟩, rfl⟩, hrest⟩
    rw [← hu]

theorem Thread.mem_next_fork {place : Place} {greedy : Bool} {inside outside : Nat} :
    v ∈ u.next place (fork greedy inside outside) ↔
      v = { u with address := inside } ∨ v = { u with address := outside } := by
  cases greedy <;> simp [fork, Thread.next, or_comm]

/-- A fork leads inside or outside, with fewer steps left. -/
theorem Walk.exists_fork {greedy : Bool} {inside outside steps : Nat} (h : Walk program before t steps here u stop goal)
    (hgoal : program[goal.address]? = some .accept) (hinstr : program[u.address]? = some (fork greedy inside outside)) :
    ∃ left v, left < steps ∧ (v.address = inside ∨ v.address = outside) ∧ v.start = u.start ∧
      v.progress here = u.progress here ∧ Walk program before t left here v stop goal := by
  have hwaits : (fork greedy inside outside).waits = false := by cases greedy <;> rfl
  have hne : fork greedy inside outside ≠ .accept := by cases greedy <;> simp [fork]
  obtain ⟨left, there, v, rfl, hstep, hrest⟩ := h.exists_step hgoal hinstr hne
  obtain ⟨rfl, hv⟩ | ⟨s, c, heq, -⟩ := hstep.cases_of_instr hinstr
  · refine ⟨left, v, Nat.lt_succ_self _, ?_, hstep.start_eq, ?_, hrest⟩ <;>
      obtain rfl | rfl := Thread.mem_next_fork.mp hv <;> simp [Thread.progress]
  · rw [heq] at hwaits
    cases hwaits

theorem leads_fork {greedy : Bool} {inside outside : Nat} (hgoal : program[goal.address]? = some .accept)
    (hinstr : program[first]? = some (fork greedy inside outside))
    (hinside : Leads program before t stop goal r inside last)
    (houtside : Leads program before t stop goal q outside last) :
    Leads program before t stop goal (fun σ τ => r σ τ ∨ q σ τ) first last := by
  intro steps here u hu hwalk
  rw [← hu] at hinstr
  obtain ⟨left, v, hleft, hv, hstart, hsame, hrest⟩ := hwalk.exists_fork hgoal hinstr
  rw [← hsame, ← hstart]
  obtain hv | hv := hv
  · obtain ⟨less, hless, there, w, hw, hstill, hr, hrest⟩ := hinside left here v hv hrest
    exact ⟨less, by omega, there, w, hw, hstill, .inl hr, hrest⟩
  · obtain ⟨less, hless, there, w, hw, hstill, hq, hrest⟩ := houtside left here v hv hrest
    exact ⟨less, by omega, there, w, hw, hstill, .inr hq, hrest⟩

/-- The instruction is the fork of a loop or jumps to it. -/
def Turns (program : Array Instr) (greedy : Bool) (inside outside a : Nat) : Prop :=
  program[a]? = some (fork greedy inside outside) ∨
    ∃ b : Nat, program[a]? = some (.jump b) ∧ program[b]? = some (fork greedy inside outside)

/-- A loop leads outside after some rounds. -/
theorem leads_loop {greedy : Bool} {inside outside back : Nat} (hgoal : program[goal.address]? = some .accept)
    (hbody : Leads program before t stop goal r inside back) (hback : Turns program greedy inside outside back)
    (hfirst : Turns program greedy inside outside first) :
    Leads program before t stop goal (fun σ τ => ∃ count, Rounds r count σ τ) first outside := by
  intro steps
  induction steps using Nat.strongRecOn generalizing first with
  | _ steps ih =>
    intro here u hu hwalk
    subst hu
    obtain hfork | ⟨b, hjump, hfork⟩ := hfirst
    · obtain ⟨left, v, hleft, hv | hv, hstart, hsame, hrest⟩ := hwalk.exists_fork hgoal hfork
      · obtain ⟨less, hless, there, w, hw, hsameStart, hr, hrest⟩ := hbody left here v hv hrest
        obtain ⟨few, hfew, place, x, hx, hstill, ⟨count, hrounds⟩, hrest⟩ := ih less (by omega) hback there w hw hrest
        refine ⟨few, by omega, place, x, hx, hstill.trans (hsameStart.trans hstart), ⟨count + 1, _, ?_, hrounds⟩, hrest⟩
        rwa [hsame] at hr
      · exact ⟨left, Nat.le_of_lt hleft, here, v, hv, hstart, ⟨0, hsame.symm⟩, hrest⟩
    · obtain ⟨left, there, v, rfl, hstep, hrest⟩ := hwalk.exists_step hgoal hjump (by simp)
      obtain ⟨rfl, hv⟩ | ⟨s, c, heq, -⟩ := hstep.cases_of_instr hjump
      · obtain rfl := List.mem_singleton.mp hv
        obtain ⟨less, hless, hfound⟩ := ih left (Nat.lt_succ_self _) (.inl hfork) there _ rfl hrest
        exact ⟨less, by omega, hfound⟩
      · cases heq

theorem rounds_succ (round : Array Instr → Array Instr) (count : Nat) (code : Array Instr) :
    rounds round (count + 1) code = rounds round count (round code) := rfl

theorem leads_rounds {round : Array Instr → Array Instr}
    (hkeep : ∀ code, Begins program (round code) → Begins program code)
    (hround : ∀ code, Begins program (round code) → Leads program before t stop goal r code.size (round code).size)
    {count : Nat} (h : Begins program (rounds round count code)) :
    Leads program before t stop goal (Rounds r count) code.size (rounds round count code).size := by
  induction count generalizing code with
  | zero => exact leads_refl _
  | succ count ih => exact (hround code (h.of_rounds hkeep)).comp (ih h)

theorem rounds_append {first second : Nat} {σ υ τ : Progress} (hfirst : Rounds r first σ υ)
    (hsecond : Rounds r second υ τ) : Rounds r (first + second) σ τ := by
  induction first generalizing σ with
  | zero =>
    obtain rfl := hfirst
    rwa [Nat.zero_add]
  | succ first ih =>
    obtain ⟨φ, hround, hrest⟩ := hfirst
    rw [Nat.succ_add]
    exact ⟨φ, hround, ih hrest⟩

end

/-- Wherever the instructions of the pattern stand in the program, they lead from the first of them to behind the last,
and take on the way what the pattern matches. -/
def Faithful (program : Array Instr) (before : Option Char) (t : Text) (stop : Nat) (goal : Thread) (p : Pattern) :
    Prop :=
  ∀ code, Begins program (emit p code) →
    Leads program before t stop goal (Matches before t p) code.size (emit p code).size

section

variable {program : Array Instr} {before : Option Char} {t : Text} {stop : Nat} {goal : Thread} {p q : Pattern}

theorem faithful_anchor (hgoal : program[goal.address]? = some .accept) (a : Anchor) :
    Faithful program before t stop goal (.anchor a) := by
  intro code h
  rw [emit, Array.size_push]
  refine leads_of_next hgoal h.of_push.2 rfl fun here u v hu hv => ?_
  rw [Thread.next] at hv
  split at hv
  · next hholds =>
    obtain rfl := List.mem_singleton.mp hv
    exact ⟨by rw [← hu], hholds, rfl⟩
  · simp at hv

theorem Faithful.alt (hp : Faithful program before t stop goal p) (hq : Faithful program before t stop goal q)
    (hgoal : program[goal.address]? = some .accept) : Faithful program before t stop goal (.alt p q) := by
  intro code h
  rw [emit] at h ⊢
  obtain ⟨hfirst, hjump⟩ := h.of_emit.of_push
  have hfork : program[code.size]? = some (fork true (code.size + 1) (code.size + p.codeLength + 2)) :=
    hfirst.of_emit.of_push.2
  have hinside := hp _ hfirst
  have houtside := hq _ h
  have hother : code.size + p.codeLength + 2 = code.size + 1 + p.codeLength + 1 := by omega
  simp only [Array.size_push, size_emit, hother] at hjump hinside houtside hfork ⊢
  have hend : Leads program before t stop goal Eq (code.size + 1 + p.codeLength)
      (code.size + 1 + p.codeLength + 1 + q.codeLength) := by
    refine leads_of_next hgoal hjump rfl fun here u v hu hv => ?_
    obtain rfl := List.mem_singleton.mp hv
    exact ⟨rfl, rfl⟩
  refine (leads_fork hgoal hfork (hinside.comp hend) houtside).mono fun σ τ hστ => ?_
  obtain ⟨υ, hσ, rfl⟩ | hσ := hστ
  · exact .inl hσ
  · exact .inr hσ

/-- Rounds that can be left before each of them. -/
theorem Faithful.optional (hp : Faithful program before t stop goal p) (hgoal : program[goal.address]? = some .accept)
    {greedy : Bool} {last count : Nat} {code : Array Instr}
    (h : Begins program (rounds (fun code => emit p (code.push (fork greedy (code.size + 1) last))) count code))
    (hlast : (rounds (fun code => emit p (code.push (fork greedy (code.size + 1) last))) count code).size = last) :
    Leads program before t stop goal (fun σ τ => ∃ taken ≤ count, Rounds (Matches before t p) taken σ τ)
      code.size last := by
  induction count generalizing code with
  | zero =>
    rw [← hlast]
    exact (leads_refl _).mono fun σ τ heq => ⟨0, Nat.le_refl _, heq⟩
  | succ count ih =>
    have hround : Begins program (emit p (code.push (fork greedy (code.size + 1) last))) :=
      Begins.of_rounds (fun _ h => h.of_emit.of_push.1) (rounds_succ _ count code ▸ h)
    have hinside := hp _ hround
    rw [Array.size_push] at hinside
    have hboth := leads_fork hgoal hround.of_emit.of_push.2 (hinside.comp (ih h hlast)) (leads_refl last)
    refine hboth.mono fun σ τ hστ => ?_
    obtain ⟨υ, hfirst, taken, htaken, hrest⟩ | rfl := hστ
    · exact ⟨taken + 1, by omega, υ, hfirst, hrest⟩
    · exact ⟨0, by omega, rfl⟩

theorem Faithful.between (hp : Faithful program before t stop goal p) (hgoal : program[goal.address]? = some .accept)
    (least most : Nat) (greedy : Bool) : Faithful program before t stop goal (.repeated p least (some most) greedy) := by
  intro code h
  rw [emit] at h ⊢
  have hround (stop : Nat) (code : Array Instr) :
      (emit p (code.push (fork greedy (code.size + 1) stop))).size = code.size + (p.codeLength + 1) := by
    rw [size_emit, Array.size_push]
    omega
  have hleast := leads_rounds (fun _ h => h.of_emit) hp (h.of_rounds fun _ h => h.of_emit.of_push.1)
  have hmost := hp.optional hgoal h (size_rounds (hround _) _ _)
  rw [size_rounds (hround _)]
  refine (hleast.comp hmost).mono fun σ τ hστ => ?_
  obtain ⟨υ, hfirst, taken, htaken, hrest⟩ := hστ
  refine ⟨least + taken, by omega, fun m hm => ?_, rounds_append hfirst hrest⟩
  obtain rfl := Option.some.inj hm
  omega

theorem Faithful.anyNumber (hp : Faithful program before t stop goal p) (hgoal : program[goal.address]? = some .accept)
    (greedy : Bool) : Faithful program before t stop goal (.repeated p 0 none greedy) := by
  intro code h
  rw [emit, if_pos rfl] at h ⊢
  obtain ⟨hbody, hback⟩ := h.of_push
  have hfork := hbody.of_emit.of_push.2
  have hinside := hp _ hbody
  have hturns : Turns program greedy (code.size + 1) (code.size + p.codeLength + 2)
      (emit p (code.push (fork greedy (code.size + 1) (code.size + p.codeLength + 2)))).size := by
    split at hback
    · exact .inl hback
    · exact .inr ⟨code.size, hback, hfork⟩
  have houtside : code.size + p.codeLength + 2 = code.size + 1 + p.codeLength + 1 := by omega
  have hloop := leads_loop hgoal (Array.size_push _ ▸ hinside) hturns (.inl hfork)
  simp only [Array.size_push, size_emit, ← houtside]
  refine hloop.mono fun σ τ hστ => ?_
  obtain ⟨count, hrounds⟩ := hστ
  exact ⟨count, Nat.zero_le _, by simp, hrounds⟩

theorem Faithful.atLeast (hp : Faithful program before t stop goal p) (hgoal : program[goal.address]? = some .accept)
    {least : Nat} (hleast : least ≠ 0) (greedy : Bool) :
    Faithful program before t stop goal (.repeated p least none greedy) := by
  intro code h
  rw [emit, if_neg hleast] at h ⊢
  obtain ⟨hbody, hfork⟩ := h.of_push
  have hfirst := leads_rounds (fun _ h => h.of_emit) hp hbody.of_emit
  have hinside := hp _ hbody
  have hloop := leads_loop hgoal hinside (.inl hfork) (.inl hfork)
  rw [Array.size_push, size_emit]
  refine (hfirst.comp (hinside.comp hloop)).mono fun σ τ hστ => ?_
  obtain ⟨υ, hbefore, φ, hround, count, hrest⟩ := hστ
  have hlater : Rounds (Matches before t p) (count + 1) υ τ := ⟨φ, hround, hrest⟩
  exact ⟨least - 1 + (count + 1), by omega, by simp, rounds_append hbefore hlater⟩

theorem Faithful.group (hp : Faithful program before t stop goal p) (hgoal : program[goal.address]? = some .accept)
    (index : Nat) : Faithful program before t stop goal (.group index p) := by
  intro code h
  rw [emit] at h ⊢
  rw [Matches]
  split at h
  · next hone =>
    obtain ⟨hbody, hend⟩ := h.of_push
    have hinside := hp _ hbody
    have hopen : Leads program before t stop goal (fun σ τ => τ = { σ with groupStart := some σ.here })
        code.size (code.size + 1) := by
      refine leads_of_next hgoal hbody.of_emit.of_push.2 rfl fun here u v hu hv => ?_
      obtain rfl := List.mem_singleton.mp hv
      exact ⟨by rw [← hu], rfl⟩
    have hclose : Leads program before t stop goal (fun σ τ => τ = { σ with groupEnd := some σ.here })
        (emit p (code.push .groupStart)).size ((emit p (code.push .groupStart)).size + 1) := by
      refine leads_of_next hgoal hend rfl fun here u v hu hv => ?_
      obtain rfl := List.mem_singleton.mp hv
      exact ⟨by rw [← hu], rfl⟩
    rw [if_pos hone, if_pos hone, Array.size_push]
    rw [Array.size_push] at hinside
    refine ((hopen.comp hinside).comp hclose).mono fun σ τ hστ => ?_
    obtain ⟨υ, ⟨φ, hφ, hinside⟩, hτ⟩ := hστ
    exact ⟨υ, hφ ▸ hinside, hτ⟩
  · next hone =>
    rw [if_neg hone, if_neg hone]
    exact hp _ h

theorem faithful (hgoal : program[goal.address]? = some .accept) (p : Pattern) :
    Faithful program before t stop goal p := by
  induction p with
  | empty => exact fun code _ => leads_refl _
  | char s =>
    intro code h
    rw [emit, Array.size_push]
    exact leads_char hgoal h.of_push.2
  | anchor a => exact faithful_anchor hgoal a
  | seq p q ihp ihq =>
    intro code h
    rw [emit] at h ⊢
    exact (ihp _ h.of_emit).comp (ihq _ h)
  | alt p q ihp ihq => exact ihp.alt ihq hgoal
  | repeated p least most greedy ih =>
    cases most with
    | some most => exact ih.between hgoal least most greedy
    | none =>
      by_cases hleast : least = 0
      · rw [hleast]
        exact ih.anyNumber hgoal greedy
      · exact ih.atLeast hgoal hleast greedy
  | group index p ih => exact ih.group hgoal index

/-- No thread goes on from the accepting instruction. -/
theorem Walk.eq_of_accept {steps here : Nat} {u : Thread} (h : Walk program before t steps here u stop goal)
    (haccept : program[u.address]? = some .accept) : here = stop ∧ u = goal := by
  cases h with
  | refl => exact ⟨rfl, rfl⟩
  | step hstep _ =>
    obtain ⟨-, hv⟩ | ⟨s, c, heq, -⟩ := hstep.cases_of_instr haccept
    · simp [Thread.next] at hv
    · cases heq

/-- A search finds nothing but what the pattern matches. -/
theorem matches_of_search {hit : Hit} (h : search p.program before t = some hit) :
    ∃ τ : Progress, Matches before t p ⟨hit.start, none, none⟩ τ ∧
      hit = (⟨0, hit.start, τ.groupStart, τ.groupEnd⟩ : Thread).hit τ.here := by
  obtain ⟨here, u, ⟨steps, hwalk⟩, haccept, rfl⟩ := accepted_of_search h
  have hwhole : Begins p.program ((emit p #[]).push .accept) := fun _ _ h => h
  obtain ⟨hbegins, hend⟩ := hwhole.of_push
  obtain ⟨left, -, there, v, hv, hstart, hmatches, hrest⟩ := faithful haccept p _ hbegins steps u.start _ rfl hwalk
  obtain ⟨rfl, rfl⟩ := hrest.eq_of_accept (hv ▸ hend)
  exact ⟨_, hmatches, rfl⟩

/-! What sets of characters match. -/

variable {s : CharSet} {σ τ : Progress}

theorem exists_of_matches_char (h : Matches before t (.char s) σ τ) :
    ∃ c, s.has c = true ∧ t.drop σ.here = c :: t.drop τ.here ∧ τ = { σ with here := σ.here + 1 } := by
  obtain ⟨⟨c, hc, hs⟩, rfl⟩ := h
  obtain ⟨hlt, rfl⟩ := List.getElem?_eq_some_iff.mp hc
  exact ⟨_, hs, List.drop_eq_getElem_cons hlt, rfl⟩

theorem exists_of_rounds_char {count : Nat} (h : Rounds (Matches before t (.char s)) count σ τ) :
    ∃ body, (∀ c ∈ body, s.has c = true) ∧ t.drop σ.here = body ++ t.drop τ.here ∧
      τ = { σ with here := σ.here + body.length } := by
  induction count generalizing σ with
  | zero =>
    obtain rfl := h
    exact ⟨[], List.forall_mem_nil _, rfl, rfl⟩
  | succ count ih =>
    obtain ⟨υ, hfirst, hrest⟩ := h
    obtain ⟨c, hc, hdrop, rfl⟩ := exists_of_matches_char hfirst
    obtain ⟨body, hbody, hmore, rfl⟩ := ih hrest
    refine ⟨c :: body, List.forall_mem_cons.mpr ⟨hc, hbody⟩, ?_, ?_⟩
    · rw [hdrop, hmore]
      rfl
    · simp only [List.length_cons]
      congr 1
      omega

end

end LiveTex.Pattern
