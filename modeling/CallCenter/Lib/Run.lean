import Mathlib.Data.List.Perm.Basic

/-!
# Runs of a machine

Two shapes of machine cover everything below. One always accepts its input and
answers (`outputs`); two of them are compared by a simulation relation, which may
look at the inputs still to come. The other takes a step only when the state
allows it (`run`), and its invariants are proved one step at a time, possibly
only for the steps that meet a condition in the state before them (`Along`).
-/

namespace CallCenter.Lib

variable {σ τ α β : Type}

/-! ## Machines that answer every input -/

def final (step : σ → α → σ × β) : σ → List α → σ
  | s, [] => s
  | s, a :: as => final step (step s a).1 as

def outputs (step : σ → α → σ × β) : σ → List α → List β
  | _, [] => []
  | s, a :: as => (step s a).2 :: outputs step (step s a).1 as

theorem final_append (step : σ → α → σ × β) (s : σ) (as bs : List α) :
    final step s (as ++ bs) = final step (final step s as) bs := by
  induction as generalizing s with
  | nil => rfl
  | cons a as ih => exact ih _

theorem outputs_append (step : σ → α → σ × β) (s : σ) (as bs : List α) :
    outputs step s (as ++ bs) = outputs step s as ++ outputs step (final step s as) bs := by
  induction as generalizing s with
  | nil => rfl
  | cons a as ih => simp only [List.cons_append, outputs, final, ih]

/-- **Simulation.** Machines whose related states answer alike and stay related
answer alike for ever. The relation may depend on the inputs still to come. -/
theorem outputs_eq_of_simulation {f : σ → α → σ × β} {g : τ → α → τ × β}
    {R : List α → σ → τ → Prop}
    (hstep : ∀ a as s t, R (a :: as) s t →
      (f s a).2 = (g t a).2 ∧ R as (f s a).1 (g t a).1) :
    ∀ (as : List α) (s : σ) (t : τ), R as s t →
      outputs f s as = outputs g t as ∧ R [] (final f s as) (final g t as) := by
  intro as
  induction as with
  | nil => exact fun s t h => ⟨rfl, h⟩
  | cons a as ih =>
    intro s t h
    obtain ⟨hout, hrel⟩ := hstep a as s t h
    obtain ⟨houts, hfinal⟩ := ih _ _ hrel
    exact ⟨by rw [outputs, outputs, hout, houts], hfinal⟩

/-! ## Machines whose steps have guards -/

section Guarded

variable {step : σ → α → Option σ}

/-- The state after a sequence of labels, each of which its state allowed. -/
def run (step : σ → α → Option σ) : σ → List α → Option σ
  | s, [] => some s
  | s, a :: as => (step s a).bind fun s' => run step s' as

/-- Every step of the run meets `ok` in the state before it. -/
def Along (step : σ → α → Option σ) (ok : σ → α → Prop) : σ → List α → Prop
  | _, [] => True
  | s, a :: as => ok s a ∧ ∀ s', step s a = some s' → Along step ok s' as

/-- Whether a given run meets a decidable condition can be computed. -/
instance Along.decidable {ok : σ → α → Prop} [∀ s a, Decidable (ok s a)] :
    ∀ (s : σ) (as : List α), Decidable (Along step ok s as)
  | _, [] => .isTrue trivial
  | s, a :: as =>
    match h : step s a with
    | none => decidable_of_iff (ok s a) ⟨fun hok => ⟨hok, by simp [h]⟩, And.left⟩
    | some s' =>
      haveI : Decidable (Along step ok s' as) := Along.decidable s' as
      decidable_of_iff (ok s a ∧ Along step ok s' as) (by simp [Along, h])

variable {ok : σ → α → Prop}

/-- **Invariant rule.** What holds at the start, and is kept by every step that
meets `ok`, holds in every state reached by such steps. -/
theorem run_invariant {Inv : σ → Prop}
    (hstep : ∀ s a s', Inv s → ok s a → step s a = some s' → Inv s') :
    ∀ (as : List α) {s s' : σ}, Inv s → Along step ok s as → run step s as = some s' →
      Inv s' := by
  intro as
  induction as with
  | nil =>
    intro s s' hinv _ hrun
    cases hrun
    exact hinv
  | cons a as ih =>
    intro s s' hinv halong hrun
    obtain ⟨s₁, hs₁, hrun⟩ := Option.bind_eq_some_iff.mp hrun
    exact ih (hstep s a s₁ hinv halong.1 hs₁) (halong.2 s₁ hs₁) hrun

/-- The same for an invariant that speaks of the labels so far. -/
theorem run_invariant_seen {Inv : List α → σ → Prop}
    (hstep : ∀ seen s a s', Inv seen s → ok s a → step s a = some s' → Inv (seen ++ [a]) s') :
    ∀ (as seen : List α) {s s' : σ}, Inv seen s → Along step ok s as → run step s as = some s' →
      Inv (seen ++ as) s' := by
  intro as
  induction as with
  | nil =>
    intro seen s s' hinv _ hrun
    rw [List.append_nil, ← Option.some.inj hrun]
    exact hinv
  | cons a as ih =>
    intro seen s s' hinv halong hrun
    obtain ⟨s₁, hs₁, hrun⟩ := Option.bind_eq_some_iff.mp hrun
    have hrest := ih (seen ++ [a]) (hstep seen s a s₁ hinv halong.1 hs₁) (halong.2 s₁ hs₁) hrun
    rw [List.append_assoc, List.singleton_append] at hrest
    exact hrest

theorem along_of_forall (h : ∀ s a, ok s a) :
    ∀ (as : List α) (s : σ), Along step ok s as
  | [], _ => trivial
  | a :: as, s => ⟨h s a, fun s' _ => along_of_forall h as s'⟩

theorem along_of_mem {ok : α → Prop} {as : List α} (h : ∀ a ∈ as, ok a) (s : σ) :
    Along step (fun _ => ok) s as := by
  induction as generalizing s with
  | nil => trivial
  | cons a as ih =>
    exact ⟨h a List.mem_cons_self, fun s' _ => ih (fun b hb => h b (List.mem_cons_of_mem a hb)) s'⟩

/-- If every step that misses `ok` ends in a state without steps, a run that ends elsewhere meets
`ok` all along. -/
theorem along_of_not_stuck (Inv stuck : σ → Prop)
    (hstep : ∀ s a s', Inv s → step s a = some s' → Inv s')
    (hmiss : ∀ s a s', Inv s → step s a = some s' → ¬ok s a → stuck s')
    (hstuck : ∀ s a s', step s a = some s' → ¬stuck s) :
    ∀ (as : List α) {s s' : σ}, Inv s → run step s as = some s' → ¬stuck s' →
      Along step ok s as := by
  intro as
  induction as with
  | nil =>
    intro s s' _ _ _
    trivial
  | cons a as ih =>
    intro s s' hinv hrun hend
    obtain ⟨s₁, hs₁, hrun⟩ := Option.bind_eq_some_iff.mp hrun
    -- The state after the step has the next step, or is the end of the run.
    have hfree : ¬stuck s₁ := by
      cases as with
      | nil =>
        rw [Option.some.inj hrun]
        exact hend
      | cons b bs =>
        obtain ⟨s₂, hs₂, _⟩ := Option.bind_eq_some_iff.mp hrun
        exact hstuck s₁ b s₂ hs₂
    refine ⟨?_, ?_⟩
    all_goals grind

theorem Along.and {ok' : σ → α → Prop} {as : List α} {s : σ} (h : Along step ok s as)
    (h' : Along step ok' s as) : Along step (fun s a => ok s a ∧ ok' s a) s as := by
  induction as generalizing s with
  | nil => trivial
  | cons a as ih => exact ⟨⟨h.1, h'.1⟩, fun s' hs' => ih (h.2 s' hs') (h'.2 s' hs')⟩

theorem run_append (as bs : List α) (s : σ) :
    run step s (as ++ bs) = (run step s as).bind fun s' => run step s' bs := by
  induction as generalizing s with
  | nil => rfl
  | cons a as ih =>
    show (step s a).bind (fun s' => run step s' (as ++ bs)) = _
    rw [run, Option.bind_assoc]
    exact congrArg _ (funext ih)

theorem along_append {s s' : σ} {as bs : List α} (ha : Along step ok s as)
    (hrun : run step s as = some s') (hb : Along step ok s' bs) : Along step ok s (as ++ bs) := by
  induction as generalizing s with
  | nil =>
    rw [Option.some.inj hrun]
    exact hb
  | cons a as ih =>
    obtain ⟨s₁, hs₁, hrun⟩ := Option.bind_eq_some_iff.mp hrun
    refine ⟨ha.1, fun s₂ hs₂ => ?_⟩
    rw [← Option.some.inj (hs₁.symm.trans hs₂)]
    exact ih (ha.2 s₁ hs₁) hrun

theorem of_guard {c : Prop} [Decidable c] {s s' : σ} (h : (if c then some s else none) = some s') :
    c ∧ s' = s := by
  obtain ⟨hc, hs⟩ := Option.ite_none_right_eq_some.mp h
  exact ⟨hc, (Option.some.inj hs).symm⟩

end Guarded

/-! ## Traces

A trace is the list of what was seen, the latest last. -/

/-- Nothing in `Q` was seen after something that `P` accepts, with what had been seen before it. -/
def NeverAfter (P : List α → α → Prop) (Q : α → Prop) (trace : List α) : Prop :=
  ∀ before x after, trace = before ++ x :: after → P before x → ∀ y ∈ after, ¬ Q y

theorem NeverAfter.nil {P : List α → α → Prop} {Q : α → Prop} : NeverAfter P Q [] :=
  fun _ _ _ heq _ => absurd heq (by simp)

theorem NeverAfter.snoc {P : List α → α → Prop} {Q : α → Prop} {trace : List α} {e : α}
    (h : NeverAfter P Q trace)
    (he : Q e → ∀ before x after, trace = before ++ x :: after → ¬ P before x) :
    NeverAfter P Q (trace ++ [e]) := by
  intro before x after heq hx y hy hQ
  rcases List.eq_nil_or_concat after with rfl | ⟨after', z, rfl⟩
  · cases hy
  · have hsplit : trace ++ [e] = (before ++ x :: after') ++ [z] := by simpa using heq
    obtain ⟨htrace, hlast⟩ := List.append_inj' hsplit rfl
    obtain rfl : e = z := by simpa using hlast
    rw [List.concat_eq_append] at hy
    rcases List.mem_append.mp hy with hold | hnew
    · exact h before x after' htrace hx y hold hQ
    · rw [List.mem_singleton.mp hnew] at hQ
      exact he hQ before x after' htrace hx

/-! ## Pools

A pool is a list of parties, one of which moves at a time. -/

variable {l : List α} {i : Nat} {x : α}

theorem mem_pool {z : α} (h : l[i]? = some x) :
    z ∈ l ↔ z = x ∨ z ∈ l.eraseIdx i := by
  obtain ⟨hlt, rfl⟩ := List.getElem?_eq_some_iff.mp h
  rw [← List.mem_cons]
  exact (List.getElem_cons_eraseIdx_perm hlt).mem_iff.symm

theorem mem_set_append {new : List α} {y z : α} (h : l[i]? = some x) :
    z ∈ l.set i y ++ new ↔ z = y ∨ z ∈ new ∨ z ∈ l.eraseIdx i := by
  obtain ⟨hlt, -⟩ := List.getElem?_eq_some_iff.mp h
  rw [List.mem_append, (List.set_perm_cons_eraseIdx hlt y).mem_iff, List.mem_cons]
  tauto

theorem getElem?_set_append {j : Nat} (h : l[i]? = some x) (y : α) (new : List α) :
    (l.set j y ++ new)[i]? = some (if i = j then y else x) := by
  grind

theorem getElem?_modify_ite {f : α → α} {j : Nat} :
    (l.modify i f)[j]? = l[j]?.map fun x => if i = j then f x else x := by
  grind

variable (p : α → Bool)

theorem countP_pool (h : l[i]? = some x) :
    l.countP p = (l.eraseIdx i).countP p + if p x then 1 else 0 := by
  obtain ⟨hlt, rfl⟩ := List.getElem?_eq_some_iff.mp h
  rw [← (List.getElem_cons_eraseIdx_perm hlt).countP_eq p, List.countP_cons]

theorem countP_set_append {new : List α} (y : α) (h : l[i]? = some x) : (l.set i y ++ new).countP p
      = (l.eraseIdx i).countP p + (if p y then 1 else 0) + new.countP p := by
  obtain ⟨hlt, -⟩ := List.getElem?_eq_some_iff.mp h
  rw [List.countP_append, (List.set_perm_cons_eraseIdx hlt y).countP_eq p, List.countP_cons]

/-- What moves in and out of a selection when one party of a pool changes. -/
theorem filter_set (h : l[i]? = some x) :
    ∃ before after, l.filter p = before ++ (if p x then [x] else []) ++ after
      ∧ ∀ y, (l.set i y).filter p = before ++ (if p y then [y] else []) ++ after := by
  obtain ⟨hlt, hx⟩ := List.getElem?_eq_some_iff.mp h
  have hsingle : ∀ y : α, [y].filter p = if p y then [y] else [] := by
    intro y
    by_cases hp : p y <;> simp [hp]
  refine ⟨(l.take i).filter p, (l.drop (i + 1)).filter p, ?_, fun y => ?_⟩
  all_goals grind [List.append_assoc, List.set_eq_take_append_cons_drop,
    List.singleton_append, List.take_append_drop, List.take_append_getElem]

theorem filter_set_of_eq_singleton {p : α → Bool} (h : l[i]? = some x) (hp : p x)
    (hl : ∃ z, l.filter p = [z]) (y : α) :
    l.filter p = [x] ∧ (l.set i y).filter p = if p y then [y] else [] := by
  obtain ⟨before, after, hold, hnew⟩ := filter_set p h
  obtain ⟨z, hz⟩ := hl
  rw [if_pos hp] at hold
  rw [hold] at hz
  have hlen := congrArg List.length hz
  simp only [List.length_append, List.length_singleton] at hlen
  have hbefore : before = [] := List.eq_nil_of_length_eq_zero (by omega)
  grind

theorem filter_set_of_eq_nil {p : α → Bool} (h : l[i]? = some x) (hl : l.filter p = []) (y : α) :
    (l.set i y).filter p = if p y then [y] else [] := by
  obtain ⟨before, after, hold, hnew⟩ := filter_set p h
  grind [List.append_eq_nil_iff]

end CallCenter.Lib
