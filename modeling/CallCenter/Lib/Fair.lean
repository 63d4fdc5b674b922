import CallCenter.Lib.Run

/-!
# Fair executions

An execution goes on for ever, and at some times nothing happens in it. Every label belongs to a
process; an execution is fair when no process that could take a step from some time on is left
without one.

`Execution.eventually` is the rule by which something is shown to happen in the end. One process
helps: as long as it has not happened, that process can take a step, each of its steps lowers a
rank, and no step of another raises it.
-/

namespace CallCenter.Lib

variable {σ α π : Type} {step : σ → α → Option σ}

/-- The states of a machine at all times, and the labels of its steps. -/
structure Execution (step : σ → α → Option σ) where
  state : Nat → σ
  label : Nat → Option α
  steps : ∀ n l, label n = some l → step (state n) l = some (state (n + 1))
  idles : ∀ n, label n = none → state (n + 1) = state n

namespace Execution

/-- Every step meets `ok` in the state before it. -/
def Meets (e : Execution step) (ok : σ → α → Prop) : Prop :=
  ∀ n l, e.label n = some l → ok (e.state n) l

theorem invariant {e : Execution step} {ok : σ → α → Prop} {I : σ → Prop} (hinit : I (e.state 0))
    (hstep : ∀ s l s', I s → ok s l → step s l = some s' → I s') (hok : e.Meets ok) (n : Nat) :
    I (e.state n) := by
  induction n with
  | zero => exact hinit
  | succ n ih =>
    cases hlabel : e.label n with
    | none =>
      rw [e.idles n hlabel]
      exact ih
    | some l => exact hstep _ l _ ih (hok n l hlabel) (e.steps n l hlabel)

end Execution

section OfRun

variable {s s' : σ} {labels : List α}

theorem run_at (h : run step s labels = some s') {n : Nat} {l : α} (hl : labels[n]? = some l) :
    ∃ sₙ s₁, run step s (labels.take n) = some sₙ ∧ step sₙ l = some s₁
      ∧ run step s (labels.take (n + 1)) = some s₁ := by
  have hrest : labels = labels.take n ++ (l :: labels.drop (n + 1)) := by
    rw [← (List.getElem?_eq_some_iff.mp hl).2, List.getElem_cons_drop, List.take_append_drop]
  have htake : labels.take (n + 1) = labels.take n ++ [l] := by
    rw [List.take_add_one, hl]
    rfl
  rw [hrest, run_append] at h
  obtain ⟨sₙ, hsₙ, hlater⟩ := Option.bind_eq_some_iff.mp h
  obtain ⟨s₁, hs₁, -⟩ := Option.bind_eq_some_iff.mp hlater
  refine ⟨sₙ, s₁, hsₙ, hs₁, ?_⟩
  rw [htake, run_append, hsₙ]
  show (step sₙ l).bind (fun s' => some s') = some s₁
  rw [hs₁]
  rfl

theorem along_at {ok : σ → α → Prop} {n : Nat} {l : α} {sₙ : σ} (halong : Along step ok s labels)
    (hl : labels[n]? = some l) (hsₙ : run step s (labels.take n) = some sₙ) : ok sₙ l := by
  induction labels generalizing s n with
  | nil => cases hl
  | cons a as ih =>
    cases n with
    | zero =>
      rw [← Option.some.inj hsₙ, ← Option.some.inj hl]
      exact halong.1
    | succ n =>
      obtain ⟨s₁, hs₁, hrun⟩ := Option.bind_eq_some_iff.mp hsₙ
      exact ih (halong.2 s₁ hs₁) hl hrun

namespace Execution

/-- The execution that takes the steps of a run and then rests. -/
def ofRun (h : run step s labels = some s') : Execution step where
  state n := (run step s (labels.take n)).getD s'
  label n := labels[n]?
  steps := by
    intro n l hl
    obtain ⟨sₙ, s₁, hsₙ, hs₁, hnext⟩ := run_at h hl
    rw [hsₙ, hnext]
    exact hs₁
  idles := by
    intro n hl
    have hle : labels.length ≤ n := List.getElem?_eq_none_iff.mp hl
    rw [List.take_of_length_le hle, List.take_of_length_le (by omega)]

theorem ofRun_meets {ok : σ → α → Prop} (h : run step s labels = some s')
    (halong : Along step ok s labels) : (ofRun h).Meets ok := by
  intro n l hl
  obtain ⟨sₙ, -, hsₙ, -, -⟩ := run_at h hl
  show ok ((run step s (labels.take n)).getD s') l
  rw [hsₙ]
  exact along_at halong hl hsₙ

theorem ofRun_state (h : run step s labels = some s') {n : Nat} (hn : labels.length ≤ n) :
    (ofRun h).state n = s' := by
  show (run step s (labels.take n)).getD s' = s'
  rw [List.take_of_length_le hn, h]
  rfl

end Execution

end OfRun

def Enabled (step : σ → α → Option σ) (owner : α → π) (ok : σ → α → Prop) (p : π) (s : σ) : Prop :=
  ∃ l s', owner l = p ∧ step s l = some s' ∧ ok s l

namespace Execution

variable {owner : α → π} {ok : σ → α → Prop}

/-- A process that can take a step from some time on takes one. -/
def Fair (e : Execution step) (owner : α → π) (ok : σ → α → Prop) : Prop :=
  ∀ p n, (∀ m, n ≤ m → Enabled step owner ok p (e.state m)) →
    ∃ m l, n ≤ m ∧ e.label m = some l ∧ owner l = p

theorem ofRun_fair {s s' : σ} {labels : List α} (h : run step s labels = some s')
    (hend : ∀ l, step s' l = none) : (ofRun h).Fair owner ok := by
  intro p n henabled
  obtain ⟨l, s₁, -, hstep, -⟩ := henabled (n + labels.length) (by omega)
  rw [ofRun_state h (by omega), hend l] at hstep
  cases hstep

/-- **One process helps**: `P` holds until `Q` does, in the meantime the process is enabled, and its
steps lower the rank that no step raises. From time `start` on. -/
theorem eventually {e : Execution step} (hfair : e.Fair owner ok) (p : π) {P Q : σ → Prop}
    (rank : σ → Nat) (start : Nat)
    (henabled : ∀ n, start ≤ n → P (e.state n) → Enabled step owner ok p (e.state n))
    (hstep : ∀ n l, start ≤ n → P (e.state n) → e.label n = some l →
      Q (e.state (n + 1)) ∨ (P (e.state (n + 1)) ∧ rank (e.state (n + 1)) ≤ rank (e.state n)
        ∧ (owner l = p → rank (e.state (n + 1)) < rank (e.state n))))
    {n : Nat} (hn : start ≤ n) (hP : P (e.state n)) : ∃ m, n ≤ m ∧ Q (e.state m) := by
  induction hr : rank (e.state n) using Nat.strongRecOn generalizing n with
  | ind r ih =>
    subst hr
    by_contra hnever
    have hnot : ∀ m, n ≤ m → ¬ Q (e.state m) := fun m hm hQ => hnever ⟨m, hm, hQ⟩
    -- Otherwise `P` holds for ever and the rank stays below what it is now.
    have hforever : ∀ d, P (e.state (n + d)) ∧ rank (e.state (n + d)) ≤ rank (e.state n) := by
      intro d
      induction d with
      | zero => exact ⟨hP, Nat.le_refl _⟩
      | succ d ihd =>
        obtain ⟨hPd, hrank⟩ := ihd
        cases hlabel : e.label (n + d) with
        | none =>
          rw [← Nat.add_assoc, e.idles _ hlabel]
          exact ⟨hPd, hrank⟩
        | some l =>
          rcases hstep (n + d) l (by omega) hPd hlabel with hQ | ⟨hP', hle, -⟩
          · exact absurd hQ (hnot _ (by omega))
          · exact ⟨hP', Nat.le_trans hle hrank⟩
    have hPm : ∀ m, n ≤ m → P (e.state m) ∧ rank (e.state m) ≤ rank (e.state n) := by
      intro m hm
      have h := hforever (m - n)
      rwa [Nat.add_sub_cancel' hm] at h
    obtain ⟨m, l, hm, hlabel, howner⟩ :=
      hfair p n fun m hm => henabled m (by omega) (hPm m hm).1
    obtain ⟨hPm', hrank⟩ := hPm m hm
    rcases hstep m l (by omega) hPm' hlabel with hQ | ⟨hP', -, hlt⟩
    · exact hnot _ (by omega) hQ
    · have hlower := hlt howner
      obtain ⟨m', hm', hQ⟩ := ih _ (by omega) (by omega) hP' rfl
      exact hnot m' (by omega) hQ

end Execution

end CallCenter.Lib
