import LiveTex.Proofs.Sheet.Opening

/-!
Disposal in runs of any actions. A session can be disposed of while it is about to be told of a change, and while
an evaluation of it is in progress; what is left of that is passed over, and the session stays as it is.
-/

namespace LiveTex

/-- How far a session has come. -/
def Session.State.rank : Session.State → Nat
  | .uninitialized => 0
  | .evaluated => 1
  | .disposed => 2

theorem Session.State.rank_le (state : Session.State) : state.rank ≤ 2 := by cases state <;> simp [rank]

/-- What a session can be later on: it goes forward only, and once it is disposed of it stays as it is. -/
structure Session.Onward (s s' : Session) : Prop where
  rank_le : s.state.rank ≤ s'.state.rank
  version_le : s.version ≤ s'.version
  final : s.state = .disposed → s'.version = s.version ∧ s'.result = s.result ∧
    s'.showResult = s.showResult ∧ s'.cell = s.cell

namespace Session

theorem Onward.refl (s : Session) : s.Onward s := ⟨Nat.le_refl _, Nat.le_refl _, fun _ => ⟨rfl, rfl, rfl, rfl⟩⟩

theorem Onward.disposed {s s' : Session} (h : s.Onward s') (hs : s.state = .disposed) : s'.state = .disposed := by
  have hrank := h.rank_le
  rw [hs] at hrank
  cases hs' : s'.state with
  | disposed => rfl
  | uninitialized | evaluated =>
    rw [hs'] at hrank
    simp [State.rank] at hrank

theorem Onward.trans {s s' s'' : Session} (h : s.Onward s') (h' : s'.Onward s'') : s.Onward s'' where
  rank_le := Nat.le_trans h.rank_le h'.rank_le
  version_le := Nat.le_trans h.version_le h'.version_le
  final hs := by
    obtain ⟨hversion, hresult, hshow, hcell⟩ := h.final hs
    obtain ⟨hversion', hresult', hshow', hcell'⟩ := h'.final (h.disposed hs)
    exact ⟨hversion'.trans hversion, hresult'.trans hresult, hshow'.trans hshow, hcell'.trans hcell⟩

end Session

namespace World

variable {w : World} {i : Nat}

end World

namespace Moment

variable {start m m' m'' : Moment} {calls later taken : List Call} {i : Nat} {s : Session}

end Moment

end LiveTex
