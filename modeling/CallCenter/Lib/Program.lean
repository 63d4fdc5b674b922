import CallCenter.Lib.Run

/-!
# Programs that ask their surroundings

A goroutine computes little by itself: it asks and goes on with the reply. `Prog Reply α` is such a
program as the tree of what it asks. A loop is given a number of rounds; a loop that needs more is
`running`, and what is proved for every number of rounds is proved for the loop.

A program is held to a `Contract`, whose monitor watches what is asked and replied. `Meets` is the
weakest precondition of the contract: it goes through `bind` and, with an invariant, through `loop`.
It is connected to the single steps of a program that runs beside others (`Meets.step`).
-/

namespace CallCenter.Lib

variable {Op : Type} {Reply : Op → Type} {α β σ M : Type}

/-- A program that asks for operations and goes on with their replies. -/
inductive Prog (Reply : Op → Type) (α : Type) where
  | ret (a : α)
  | ask (o : Op) (k : Reply o → Prog Reply α)
  /-- A loop that has used up its rounds: it has not returned. -/
  | running

abbrev Exchange (Reply : Op → Type) := (o : Op) × Reply o

namespace Prog

def bind : Prog Reply α → (α → Prog Reply β) → Prog Reply β
  | ret a, f => f a
  | ask o k, f => ask o fun r => (k r).bind f
  | running, _ => running

instance : Monad (Prog Reply) where
  pure := ret
  bind := Prog.bind

def request (o : Op) : Prog Reply (Reply o) := ask o ret

/-- A loop of at most so many rounds. A round ends the loop with a result, or goes on
with new locals. -/
def loop (round : σ → Prog Reply (σ ⊕ α)) : Nat → σ → Prog Reply α
  | 0, _ => running
  | n + 1, s => (round s).bind fun
    | .inl s' => loop round n s'
    | .inr a => ret a

def asking : Prog Reply α → Option Op
  | ask o _ => some o
  | _ => none

/-- The program after one exchange, if that is what it asks for. -/
def step [DecidableEq Op] : Prog Reply α → Exchange Reply → Option (Prog Reply α)
  | ask o k, e => if h : e.1 = o then some (k (h ▸ e.2)) else none
  | _, _ => none

theorem step_eq_some [DecidableEq Op] {p p' : Prog Reply α} {e : Exchange Reply}
    (h : p.step e = some p') : ∃ k, p = ask e.1 k ∧ p' = k e.2 := by
  obtain ⟨o', r⟩ := e
  cases p with
  | ret a => exact absurd h (by simp [step])
  | running => exact absurd h (by simp [step])
  | ask o k =>
    by_cases heq : o' = o
    · subst heq
      have h : (if h : o' = o' then some (k (h ▸ r)) else none) = some p' := h
      rw [dif_pos rfl] at h
      exact ⟨k, rfl, (Option.some.inj h).symm⟩
    · have h : (if h : o' = o then some (k (h ▸ r)) else none) = some p' := h
      rw [dif_neg heq] at h
      exact absurd h (by simp)

def Only (P : Op → Prop) : Prog Reply α → Prop
  | ret _ => True
  | ask o k => P o ∧ ∀ r, (k r).Only P
  | running => True

section Only

variable {P : Op → Prop}

theorem Only.pure (a : α) : Only P (Pure.pure a : Prog Reply α) := trivial

theorem Only.request {o : Op} (h : P o) : Only P (request o : Prog Reply (Reply o)) :=
  ⟨h, fun _ => trivial⟩

theorem Only.bind {p : Prog Reply α} {f : α → Prog Reply β} (hp : p.Only P)
    (hf : ∀ a, (f a).Only P) : (p >>= f).Only P := by
  induction p with
  | ret a => exact hf a
  | ask o k ih => exact ⟨hp.1, fun r => ih r (hp.2 r)⟩
  | running => exact trivial

theorem Only.ite {c : Prop} [Decidable c] {p q : Prog Reply α} (hp : p.Only P) (hq : q.Only P) :
    (if c then p else q).Only P := by
  split
  · exact hp
  · exact hq

theorem Only.loop {round : σ → Prog Reply (σ ⊕ α)} (h : ∀ s, (round s).Only P) :
    ∀ (n : Nat) (s : σ), (loop round n s).Only P := by
  intro n
  induction n with
  | zero => exact fun _ => trivial
  | succ n ih =>
    intro s
    refine Only.bind (h s) fun a => ?_
    cases a with
    | inl s' => exact ih s'
    | inr a => exact trivial

theorem Only.imp {P' : Op → Prop} {p : Prog Reply α} (h : p.Only P) (himp : ∀ o, P o → P' o) :
    p.Only P' := by
  induction p with
  | ret a => exact trivial
  | ask o k ih => exact ⟨himp o h.1, fun r => ih r (h.2 r)⟩
  | running => exact trivial

end Only

end Prog

/-! ## Contracts -/

/-- What a program is held to. The monitor has a state: `pre` must hold of it before an
operation is asked for, and `next` says what it may be after the reply. A reply with
no next state is one the surroundings do not give. -/
structure Contract (Reply : Op → Type) (M : Type) where
  pre : M → Op → Prop
  next : M → (o : Op) → Reply o → M → Prop

/-- The program keeps the contract whatever the replies, and if it returns, then with a
result and a state of the monitor in `Q`. -/
def Meets (c : Contract Reply M) : Prog Reply α → M → (α → M → Prop) → Prop
  | .ret a, m, Q => Q a m
  | .ask o k, m, Q => c.pre m o ∧ ∀ r m', c.next m o r m' → Meets c (k r) m' Q
  | .running, _, _ => True

section Rules

variable {c : Contract Reply M} {m : M} {Q : α → M → Prop}

theorem Meets.imp {p : Prog Reply α} {Q' : α → M → Prop} (h : Meets c p m Q)
    (himp : ∀ a m', Q a m' → Q' a m') : Meets c p m Q' := by
  induction p generalizing m with
  | ret a => exact himp a m h
  | ask o k ih => exact ⟨h.1, fun r m' hnext => ih r (h.2 r m' hnext)⟩
  | running => exact trivial

/-- **Sequencing.** What the first part ends in is what the second starts from. -/
theorem Meets.bind {p : Prog Reply α} {f : α → Prog Reply β} {Q : β → M → Prop}
    (h : Meets c p m fun a m' => Meets c (f a) m' Q) : Meets c (p.bind f) m Q := by
  induction p generalizing m with
  | ret a => exact h
  | ask o k ih => exact ⟨h.1, fun r m' hnext => ih r (h.2 r m' hnext)⟩
  | running => exact trivial

/-- Sequencing in two steps, with what holds in between. -/
theorem Meets.seq {p : Prog Reply α} {f : α → Prog Reply β} {Q : β → M → Prop}
    {R : α → M → Prop} (h : Meets c p m R) (hf : ∀ a m', R a m' → Meets c (f a) m' Q) :
    Meets c (p.bind f) m Q :=
  Meets.bind (h.imp hf)

/-- A program whose operations all keep an invariant of the monitor keeps it. -/
theorem Meets.of_only {P : Op → Prop} {Inv : M → Prop} {p : Prog Reply α} (hp : p.Only P)
    (hpre : ∀ m o, P o → Inv m → c.pre m o)
    (hnext : ∀ m o r m', P o → Inv m → c.next m o r m' → Inv m') (hinv : Inv m) :
    Meets c p m fun _ m' => Inv m' := by
  induction p generalizing m with
  | ret a => exact hinv
  | ask o k ih =>
    exact ⟨hpre m o hp.1 hinv, fun r m' h => ih r (hp.2 r) (hnext m o r m' hp.1 hinv h)⟩
  | running => exact trivial

/-- **The loop rule.** The invariant holds of the locals and the monitor at the head of
every round. -/
theorem meets_loop (Inv : σ → M → Prop) {round : σ → Prog Reply (σ ⊕ α)}
    (hround : ∀ s m, Inv s m → Meets c (round s) m (Sum.elim Inv Q)) :
    ∀ (n : Nat) {s : σ} {m : M}, Inv s m → Meets c (Prog.loop round n s) m Q := by
  intro n
  induction n with
  | zero => exact fun _ => trivial
  | succ n ih =>
    intro s m hinv
    refine Meets.seq (hround s m hinv) fun a m' ha => ?_
    cases a with
    | inl s' => exact ih ha
    | inr a => exact ha

/-! ## What a contract says about what happens -/

/-- **Steps.** A program that meets the contract asks only for what it may, and meets
it after the reply. -/
theorem Meets.step [DecidableEq Op] {p p' : Prog Reply α} {e : Exchange Reply}
    (h : Meets c p m Q) (hstep : p.step e = some p') :
    c.pre m e.1 ∧ ∀ m', c.next m e.1 e.2 m' → Meets c p' m' Q := by
  obtain ⟨k, rfl, rfl⟩ := Prog.step_eq_some hstep
  exact ⟨h.1, h.2 e.2⟩

theorem Meets.asks {p : Prog Reply α} {o : Op} (h : Meets c p m Q) (ho : p.asking = some o) :
    c.pre m o := by
  cases p with
  | ask o' k =>
    cases ho
    exact h.1
  | ret a => cases ho
  | running => cases ho

/-- What a program meets from one state of the monitor it meets from another that its first
request does not tell apart. -/
theorem Meets.of_head {p : Prog Reply α} {o : Op} {m' : M} (h : Meets c p m Q)
    (ho : p.asking = some o) (hpre : c.pre m' o ↔ c.pre m o)
    (hnext : ∀ r m'', c.next m' o r m'' ↔ c.next m o r m'') : Meets c p m' Q := by
  cases p with
  | ask o' k =>
    cases ho
    exact ⟨hpre.mpr h.1, fun r m'' hr => h.2 r m'' ((hnext r m'').mp hr)⟩
  | ret a => cases ho
  | running => cases ho

/-- The contract of a monitor that only watches. -/
def Contract.watch (step : M → Exchange Reply → M) : Contract Reply M where
  pre _ _ := True
  next m o r m' := m' = step m ⟨o, r⟩

instance (step : M → Exchange Reply → M) (m : M) (o : Op) :
    Decidable ((Contract.watch step).pre m o) :=
  inferInstanceAs (Decidable True)

instance [DecidableEq M] (step : M → Exchange Reply → M) (m : M) (o : Op) (r : Reply o) (m' : M) :
    Decidable ((Contract.watch step).next m o r m') :=
  inferInstanceAs (Decidable (_ = _))

end Rules

/-! ## Programs that keep an invariant -/

/-- Whatever the replies, the program keeps the contract and an invariant of the monitor. -/
def Keeps (c : Contract Reply M) (Inv : M → Prop) (p : Prog Reply α) : Prop :=
  ∀ m, Inv m → Meets c p m fun _ m' => Inv m'

section Keeps

variable {c : Contract Reply M} {Inv : M → Prop}

theorem Keeps.pure (a : α) : Keeps c Inv (Pure.pure a : Prog Reply α) := fun _ hm => hm

theorem Keeps.bind {p : Prog Reply α} {f : α → Prog Reply β} (hp : Keeps c Inv p)
    (hf : ∀ a, Keeps c Inv (f a)) : Keeps c Inv (p >>= f) :=
  fun m hm => Meets.seq (hp m hm) fun a m' hm' => hf a m' hm'

theorem Keeps.ite {b : Prop} [Decidable b] {p q : Prog Reply α} (hp : Keeps c Inv p)
    (hq : Keeps c Inv q) : Keeps c Inv (if b then p else q) := by
  split
  · exact hp
  · exact hq

theorem Keeps.loop {round : σ → Prog Reply (σ ⊕ α)} (h : ∀ s, Keeps c Inv (round s)) (n : Nat)
    (s : σ) : Keeps c Inv (Prog.loop round n s) := by
  intro m hm
  refine meets_loop (fun _ m => Inv m) (fun s m hm => (h s m hm).imp fun a m' hm' => ?_) n hm
  cases a with
  | inl s' => exact hm'
  | inr a => exact hm'

end Keeps

/-! ## Programs that can be walked through

A program without a loop, whose replies are finitely many, is walked through by evaluation. -/

class Listed (α : Type) where
  all : List α
  mem_all : ∀ a : α, a ∈ all

instance : Listed Bool := ⟨[true, false], by decide⟩

section Walks

variable [∀ o, Listed (Reply o)]

def Prog.walksOnly (P : Op → Prop) [DecidablePred P] : Prog Reply α → Bool
  | ret _ => true
  | ask o k => decide (P o) && (Listed.all : List (Reply o)).all fun r => (k r).walksOnly P
  | running => true

theorem Prog.Only.walk {P : Op → Prop} [DecidablePred P] {p : Prog Reply α}
    (h : p.walksOnly P = true) : p.Only P := by
  induction p with
  | ret a => exact trivial
  | running => exact trivial
  | ask o k ih =>
    obtain ⟨ho, hk⟩ := Bool.and_eq_true_iff.mp h
    exact ⟨of_decide_eq_true ho, fun r => ih r (List.all_eq_true.mp hk r (Listed.mem_all r))⟩

variable [Listed M] (c : Contract Reply M) [∀ m o, Decidable (c.pre m o)]
  [∀ m o r m', Decidable (c.next m o r m')]

def Prog.walks (Q : α → M → Prop) [∀ a m, Decidable (Q a m)] : Prog Reply α → M → Bool
  | ret a, m => decide (Q a m)
  | ask o k, m => decide (c.pre m o) && (Listed.all : List (Reply o)).all fun r =>
    (Listed.all : List M).all fun m' => !decide (c.next m o r m') || (k r).walks Q m'
  | running, _ => true

variable {c}

theorem Meets.walk {Q : α → M → Prop} [∀ a m, Decidable (Q a m)] {p : Prog Reply α} {m : M}
    (h : p.walks c Q m = true) : Meets c p m Q := by
  induction p generalizing m with
  | ret a =>
    have hQ : Q a m := of_decide_eq_true h
    exact hQ
  | running => exact trivial
  | ask o k ih =>
    obtain ⟨hpre, hk⟩ := Bool.and_eq_true_iff.mp h
    refine ⟨of_decide_eq_true hpre, fun r m' hnext => ih r ?_⟩
    have hr := List.all_eq_true.mp hk r (Listed.mem_all r)
    have hm' := List.all_eq_true.mp hr m' (Listed.mem_all m')
    rwa [decide_eq_true hnext, Bool.not_true, Bool.false_or] at hm'

end Walks

/-! ## Programs followed by what is known

The surroundings of a program may change while it waits for a reply: others are at work in them.
What is known of them after each exchange is then less than what they are, and is followed by a
monitor that computes. -/

/-- What is `safe` to ask with what is known, and what is known `after` an exchange; no next
state is for an exchange that does not happen. -/
structure Tracker (Reply : Op → Type) (M : Type) where
  safe : M → Op → Bool
  after : M → Exchange Reply → Option M

def Tracker.contract (t : Tracker Reply M) : Contract Reply M where
  pre m o := t.safe m o = true
  next m o r m' := t.after m ⟨o, r⟩ = some m'

section Tracks

variable {t : Tracker Reply M} {m : M}

theorem Meets.ask {o : Op} {f : Reply o → Prog Reply α} {Q : α → M → Prop}
    (hsafe : t.safe m o = true)
    (hf : ∀ r m', t.after m ⟨o, r⟩ = some m' → Meets t.contract (f r) m' Q) :
    Meets t.contract (Prog.request o >>= f) m Q :=
  ⟨hsafe, hf⟩

/-- A part whose requests change nothing that is known. -/
theorem Meets.kept {p : Prog Reply α}
    (h : p.Only fun o => t.safe m o = true ∧ ∀ r, t.after m ⟨o, r⟩ = some m) :
    Meets t.contract p m fun _ m' => m' = m := by
  refine Meets.of_only h (fun _ _ ho hm => hm ▸ ho.1) (fun _ _ r _ ho hm hnext => ?_) rfl
  subst hm
  exact (Option.some.inj ((ho.2 r).symm.trans hnext)).symm

variable [∀ o, Listed (Reply o)] {Inv : M → Bool} {Q : α → M → Bool} {p : Prog Reply α}

def Prog.tracks (t : Tracker Reply M) (Q : α → M → Bool) : Prog Reply α → M → Bool
  | ret a, m => Q a m
  | ask o k, m => t.safe m o && (Listed.all : List (Reply o)).all fun r =>
    (t.after m ⟨o, r⟩).all fun m' => (k r).tracks t Q m'
  | running, _ => true

theorem Meets.track (h : p.tracks t Q m = true) :
    Meets t.contract p m fun a m' => Q a m' = true := by
  induction p generalizing m with
  | ret a => exact h
  | running => exact trivial
  | ask o k ih =>
    obtain ⟨hsafe, hk⟩ := Bool.and_eq_true_iff.mp h
    refine ⟨hsafe, fun r m' hnext => ih r ?_⟩
    have hr := List.all_eq_true.mp hk r (Listed.mem_all r)
    have hnext : t.after m ⟨o, r⟩ = some m' := hnext
    rw [hnext] at hr
    exact hr

/-- The same from every state of an invariant. -/
theorem Meets.tracked [Listed M] (hm : Inv m = true)
    (h : ((Listed.all : List M).all fun m => !Inv m || p.tracks t Q m) = true) :
    Meets t.contract p m fun a m' => Q a m' = true := by
  have hp := List.all_eq_true.mp h m (Listed.mem_all m)
  rw [hm, Bool.not_true, Bool.false_or] at hp
  exact Meets.track hp

end Tracks

end CallCenter.Lib
