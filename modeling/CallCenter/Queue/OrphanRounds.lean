import CallCenter.Queue.PlainProof

/-!
# The rounds of a goroutine that has invited an agent

A goroutine that has invited an agent leaves the loop over the two calls in many ways. After most of
them the agent's call has hung up, or is hung up before the local variable is cleared; after some it
is not looked at again. Those are singled out here (`leavesLeg`, and for the join-agent queue an
invite after the member has hung up).

The goroutine is followed by what is known of its calls: whether the current one can be open,
whether one it has let go of can, and whether the member's call has hung up.
-/

namespace CallCenter.Queue

open Lib

inductive LegKind where
  | inbound | joinAgent | progressive | predict
  deriving DecidableEq

def LegKind.run (k : LegKind) (q : QueueConfig) (rounds : Nat) : Go Unit :=
  match k with
  | .inbound => InboundQueue.run q rounds
  | .joinAgent => JoinAgentCallQueue.run q rounds
  | .progressive => ProgressiveCallQueue.run q rounds
  | .predict => PredictCallQueue.runOfferingAgents q rounds

def drops : Action → Bool
  | .newAgentCall | .clearAgentCall | .setCall .agent => true
  | _ => false

/-- After this exchange the agent's call has hung up, has been asked to, or is bridged. -/
def settles : Exchange Action.Reply → Bool
  | ⟨.rpc (.hangup .agent), _⟩ => true
  | ⟨.rpc .bridge, ok⟩ => ok
  | ⟨.read (.call .agent .hangupAt), v⟩ => v
  | ⟨.read (.call .agent .hangupCause), v⟩ => v
  | ⟨.read (.call .agent .transferTo), v⟩ => v
  | ⟨.read (.call .agent .bridgeAt), v⟩ => v
  | ⟨.select .offer, s⟩ => decide (s = .agent .hangup)
  | ⟨.select .legs, s⟩ => decide (s = .agent .hangup)
  | _ => false

def hears : Exchange Action.Reply → Bool
  | ⟨.read (.call .member .hangupAt), v⟩ => v
  | ⟨.read (.call .member .hangupCause), v⟩ => v
  | ⟨.select .offer, s⟩ => decide (s = .member .hangup)
  | ⟨.select .legs, s⟩ => decide (s = .member .hangup)
  | _ => false

def denies : Exchange Action.Reply → Bool
  | ⟨.read (.call .member .hangupAt), v⟩ => !v
  | _ => false

def namesTransferFrom : Exchange Action.Reply → Bool
  | ⟨.read (.call .member .transferFrom), v⟩ => v
  | _ => false

/-- The goroutine turns away from the agent's call without hanging it up: a cancel or the
cause of the member's hangup ends the loop, or the member's call was passed on to another
attempt, or an outbound one was transferred; the progressive queue makes a second call; the
predictive one finds the attempt bridged. -/
def leavesLeg (k : LegKind) (transferFrom : Bool) : Exchange Action.Reply → Bool :=
  match k with
  | .inbound => fun
    | ⟨.select .offer, s⟩ => decide (s = .cancel)
    | ⟨.read (.call .member .hangupCause), v⟩ => v
    | ⟨.read (.call .member .transferToAttemptId), v⟩ => v
    | ⟨.read (.call .member .outbound), v⟩ => v && transferFrom
    | _ => false
  | .joinAgent => fun
    | ⟨.read (.call .member .hangupCause), v⟩ => v
    | ⟨.read (.call .member .transferToAttemptId), v⟩ => v
    | _ => false
  | .progressive => fun
    | ⟨.newAgentCall, _⟩ => true
    | _ => false
  | .predict => fun
    | ⟨.read (.attempt .bridgedAt), v⟩ => v
    | _ => false

/-! ## What is known of the calls -/

structure LegsView where
  /-- The agent's call may be open: invited, and neither hung up, nor asked to, nor bridged. -/
  opened : Bool
  /-- One of the calls let go of may be open. -/
  lost : Bool
  /-- The member's call has hung up. -/
  hung : Bool
  /-- So it has, and without a `TransferFrom` if the agent's call is open. -/
  spared : Bool
  deriving DecidableEq

instance : Listed LegsView where
  all := [true, false].flatMap fun opened => [true, false].flatMap fun lost =>
    [true, false].flatMap fun hung => [true, false].map fun spared => ⟨opened, lost, hung, spared⟩
  mem_all := by rintro ⟨_ | _, _ | _, _ | _, _ | _⟩ <;> decide

/-- No call can be open. -/
def LegsView.closed (m : LegsView) : Bool := !m.opened && !m.lost

def LegsView.held (m : LegsView) : Bool := !m.lost

/-- What is known after an exchange; no next state is one that cannot come. -/
def LegsView.after (k : LegKind) (m : LegsView) (e : Exchange Action.Reply) : Option LegsView :=
  -- the call may be open, and the goroutine is not one that turns away from it
  let opened := m.opened && !(leavesLeg k false e || m.spared && namesTransferFrom e)
  if m.hung && (denies e || decide (k = .joinAgent ∧ e.1 = .rpc (.invite .agent))) then none
  else some {
    opened := (opened && !drops e.1 || decide (e.1 = .rpc (.invite .agent))) && !settles e
    lost := m.lost || opened && drops e.1
    hung := m.hung && decide (e.1 ≠ .setCall .member) || hears e
    spared := m.hung && leavesLeg k true e }

def legsTracker (k : LegKind) : Tracker Action.Reply LegsView where
  safe m o := decide (o ≠ .select .waitCall) || m.closed
  after m e := m.after k e

abbrev LegKind.Meets {α : Type} (k : LegKind) (p : Go α) (m : LegsView)
    (Q : α → LegsView → Prop) : Prop :=
  Lib.Meets (legsTracker k).contract p m Q

/-- No call can be open after the part if none could before. -/
abbrev LegKind.Closes {α : Type} (k : LegKind) (p : Go α) : Prop :=
  Keeps (legsTracker k).contract (·.closed = true) p

section Parts

variable {k : LegKind} {α σ : Type} {p : Go α} {m : LegsView}

theorem closed_after {m' : LegsView} {e : Exchange Action.Reply} (hm : m.closed = true)
    (he : e.1 ≠ .rpc (.invite .agent)) (h : m.after k e = some m') : m'.closed = true := by
  obtain ⟨hopened, hlost⟩ := Bool.and_eq_true_iff.mp hm
  rw [Bool.not_eq_true'] at hopened hlost
  rw [LegsView.after] at h
  split at h
  · cases h
  · obtain rfl := Option.some.inj h
    simp [LegsView.closed, hopened, hlost, he]

theorem closed_part (h : p.Only (· ≠ .rpc (.invite .agent))) : k.Closes p :=
  fun _ hm => Meets.of_only h (fun _ _ _ hm => Bool.or_eq_true_iff.mpr (.inr hm))
    (fun _ _ _ _ ho hm h => closed_after hm ho h) hm

theorem closed_act {o : Action} (ho : o ≠ .rpc (.invite .agent)) : k.Closes (act o) :=
  closed_part (.request ho)

theorem closed_aloof (h : Aloof p) : k.Closes p := by
  refine closed_part (h.imp fun o ho => ?_)
  rintro rfl
  cases ho

/-- A loop that starts with a call held ends with none open. -/
def legsRound (r : σ ⊕ α) (m : LegsView) : Bool :=
  match r with
  | .inl _ => m.held
  | .inr _ => m.closed

theorem meets_legLoop {round : σ → Go (σ ⊕ α)}
    (hround : ∀ s m, m.held = true → k.Meets (round s) m fun r m' => legsRound r m' = true)
    (n : Nat) (s : σ) (hm : m.held = true) :
    k.Meets (Prog.loop round n s) m fun _ m' => m'.closed = true := by
  refine meets_loop (fun _ m => m.held = true)
    (fun s m hm => (hround s m hm).imp fun r m' hr => ?_) n hm
  cases r with
  | inl s' => exact hr
  | inr a => exact hr

theorem closed_invite {f : Bool → Go α}
    (hf : ∀ ok m, m.held = true → k.Meets (f ok) m fun _ m' => m'.closed = true) :
    k.Closes (do
      act .newAgentCall
      distribute
      let ok ← rpc (.invite .agent)
      f ok) := by
  refine .bind (closed_act nofun) fun _ => .bind (closed_part (.walk rfl)) fun _ m hm => ?_
  refine Meets.seq (R := fun _ m => m.held = true) ?_ hf
  cases k <;> exact .tracked hm rfl

end Parts

/-! ## Inbound and joined calls -/

variable (rounds : Nat)

theorem closed_inboundWaitRound (l : CallLocals) :
    LegKind.inbound.Closes (InboundQueue.waitRound rounds l) := by
  refine .bind (closed_act nofun) fun signal => ?_
  cases signal with
  | member s =>
    cases s with
    | hangup =>
      refine .bind (closed_part (only_andThen (.pure _) (.walk rfl))) fun _ => ?_
      exact .ite (closed_part (.walk rfl)) (.pure _)
    | _ => exact .pure _
  | timeout | contextDone | cancel => exact .pure _
  | agents =>
    refine .bind (closed_act nofun) fun _ => .ite (.bind (closed_act nofun) fun _ =>
      .ite (.pure _) (closed_invite fun _ m hm => ?_)) (.pure _)
    refine Meets.seq (meets_legLoop (fun _ _ hm => .tracked hm rfl) rounds () hm)
      fun forward m₁ hm₁ => ?_
    cases forward with
    | true => exact hm₁
    | false => exact closed_part (.walk rfl) m₁ hm₁

variable (q : QueueConfig)

theorem closed_inbound (rounds : Nat) : LegKind.inbound.Closes (InboundQueue.run q rounds) := by
  have hwait : LegKind.inbound.Closes
      (InboundQueue.wait rounds) :=
    .bind (closed_act nofun) fun _ => .ite (.pure _) (.loop (closed_inboundWaitRound rounds) _ _)
  refine .bind (closed_act nofun) fun _ => .bind (closed_act nofun) fun _ =>
    .ite (.bind (closed_act nofun) fun _ => .bind (closed_act nofun) fun _ =>
      .bind hwait fun ended => ?_) (.pure _)
  cases ended with
  | none => exact .pure _
  | some l => exact .bind (closed_aloof (aloof_inboundFinish q l)) fun _ => closed_act nofun

/-- Before the agent is invited: a caller who is lost has hung up. -/
def LegsView.answers (lost : Bool) (m : LegsView) : Bool := m.closed && (!lost || m.hung)

theorem closed_joinAgent (rounds : Nat) :
    LegKind.joinAgent.Closes (JoinAgentCallQueue.run q rounds) := by
  refine .bind (closed_act nofun) fun _ => .bind (closed_act nofun) fun _ =>
    .ite (fun m hm => ?_) (.pure _)
  refine Meets.seq (R := fun lost m => m.answers lost = true) (.tracked hm rfl)
    fun lost m₁ hm₁ => ?_
  cases lost with
  | true =>
    -- a member who has hung up is not one an agent is invited for
    refine Meets.seq (R := fun _ m => m.hung = true) (.tracked hm₁ rfl) fun _ m₂ hm₂ => ?_
    refine Meets.seq (R := fun _ m => m.hung = true) (.tracked hm₂ rfl) fun _ m₃ hm₃ => ?_
    exact Meets.seq (R := fun _ _ => false = true) (.tracked hm₃ rfl) nofun
  | false =>
    refine closed_invite (fun _ m₂ hm₂ => ?_) m₁ (Bool.and_eq_true_iff.mp hm₁).1
    refine Meets.seq (meets_legLoop (fun _ _ hm => .tracked hm rfl) rounds () hm₂)
      fun forward m₃ hm₃ => ?_
    cases forward with
    | true => exact hm₃
    | false =>
      refine Meets.seq (closed_aloof (aloof_joinFinish q) m₃ hm₃) fun _ m₄ hm₄ => ?_
      exact .tracked hm₄ rfl

/-! ## Predictive calls -/

theorem closed_predictWaitRound (l : CallLocals) :
    LegKind.predict.Closes (PredictCallQueue.waitRound rounds l) := by
  refine .bind (closed_act nofun) fun signal => ?_
  cases signal with
  | timeout | contextDone | cancel => exact closed_part (.walk rfl)
  | member s => cases s <;> exact .pure _
  | agents =>
    refine .bind (closed_act nofun) fun _ => .ite (.bind (closed_act nofun) fun _ =>
      .ite (.pure _) (closed_invite fun _ m hm => ?_)) (.pure _)
    have hround : ∀ s m, m.held = true → LegKind.predict.Meets (PredictCallQueue.offerRound s) m
        fun _ m' => m'.held = true := fun _ _ hm => .tracked hm rfl
    refine Meets.seq (Keeps.loop hround rounds () m hm) fun _ m₁ hm₁ => ?_
    exact Meets.seq (R := fun _ m => m.closed = true) (.tracked hm₁ rfl) fun _ m₂ hm₂ =>
      closed_part (.walk rfl) m₂ hm₂

theorem closed_predict (rounds : Nat) :
    LegKind.predict.Closes (PredictCallQueue.runOfferingAgents q rounds) := by
  have hwait : LegKind.predict.Closes
      (PredictCallQueue.wait rounds) :=
    .bind (closed_act nofun) fun _ => .ite (.pure _) (.loop (closed_predictWaitRound rounds) _ _)
  have hrest : LegKind.predict.Closes (PredictCallQueue.waitAndFinish q rounds) := by
    refine .bind hwait fun ended => ?_
    cases ended with
    | none => exact .pure _
    | some l => exact .bind (closed_aloof (aloof_predictFinish q l)) fun _ => closed_act nofun
  refine .bind (closed_act nofun) fun _ => .bind (closed_act nofun) fun _ =>
    .bind (closed_act nofun) fun r => ?_
  cases r with
  | failed => exact .pure _
  | released => exact hrest
  | kept => exact hrest

/-! ## Progressive calls -/

/-- Around the loop over both calls: a call that is still open is the current one, and the
member has hung up. -/
def LegsView.pending (agentCall : Bool) (m : LegsView) : Bool :=
  m.held && (!m.opened || agentCall && m.hung)

/-- Within that loop: once `calling` is false, no call is open. -/
def LegsView.called (calling : Bool) (m : LegsView) : Bool := m.held && (calling || m.closed)

/-- After it. -/
def LegsView.left (calling : Bool) (m : LegsView) : Bool := m.pending true && m.called calling

theorem closed_of_left {m : LegsView} (h : m.left false = true) : m.closed = true :=
  (Bool.and_eq_true_iff.mp (Bool.and_eq_true_iff.mp h).2).2

theorem meets_progressiveLoop {m : LegsView} (hm : m.held = true) :
    LegKind.progressive.Meets (Prog.loop ProgressiveCallQueue.offerRound rounds true) m
      fun calling m' => m'.left calling = true := by
  refine meets_loop (fun calling m => m.called calling = true) (fun calling m hm => ?_) rounds
    (by rw [LegsView.called, hm]; rfl)
  have hround : LegKind.progressive.Meets (ProgressiveCallQueue.offerRound calling) m
      fun r m' => (match r with
        | .inl calling => m'.called calling
        | .inr calling => m'.left calling) = true := by
    cases calling <;> exact .tracked hm rfl
  refine hround.imp fun r m' hr => ?_
  cases r with
  | inl calling' => exact hr
  | inr calling' => exact hr

def pendingRound (r : Bool ⊕ Bool) (m : LegsView) : Bool :=
  m.pending (r.elim id id)

theorem meets_progressiveRound {m : LegsView} (agentCall : Bool)
    (hm : m.pending agentCall = true) :
    LegKind.progressive.Meets (ProgressiveCallQueue.round rounds agentCall) m
      fun r m' => pendingRound r m' = true := by
  refine Meets.seq (R := fun _ m => m.pending agentCall = true)
    (by cases agentCall <;> exact .tracked hm rfl) fun signal m₁ hm₁ => ?_
  have hanswer : LegKind.progressive.Meets (ProgressiveCallQueue.answered rounds agentCall) m₁
      fun r m' => pendingRound r m' = true := by
    refine Meets.seq (R := fun _ m => m.pending agentCall = true)
      (by cases agentCall <;> exact .tracked hm₁ rfl) fun amd m₂ hm₂ => ?_
    cases amd with
    | true => exact hm₂
    | false =>
      refine Meets.seq (R := fun _ m => m.pending agentCall = true)
        (by cases agentCall <;> exact .tracked hm₂ rfl) fun ok m₃ hm₃ => ?_
      cases ok with
      | false => cases agentCall <;> exact .tracked hm₃ rfl
      | true =>
        refine Meets.seq (R := fun _ m => m.closed = true)
          (by cases agentCall <;> exact .tracked hm₃ rfl) fun _ m₄ hm₄ => ?_
        refine Meets.seq (R := fun _ m => m.closed = true) (.tracked hm₄ rfl)
          fun hungUp m₅ hm₅ => ?_
        cases hungUp with
        | true => exact .tracked hm₅ rfl
        | false =>
          refine Meets.seq (R := fun _ m => m.held = true) (.tracked hm₅ rfl) fun _ m₆ hm₆ => ?_
          refine Meets.seq (meets_progressiveLoop rounds hm₆) fun calling m₇ hm₇ => ?_
          cases calling <;> exact .tracked hm₇ rfl
  cases signal with
  | state s =>
    cases s with
    | accept => exact hanswer
    | detectAmd => exact hanswer
    | _ => exact hm₁
  | _ => cases agentCall <;> exact .tracked hm₁ rfl

theorem meets_progressiveFinish {m : LegsView} {agentCall : Bool}
    (hm : m.pending agentCall = true) :
    LegKind.progressive.Meets (ProgressiveCallQueue.finish q agentCall) m
      fun _ m' => m'.closed = true := by
  cases agentCall with
  | false => exact .tracked hm rfl
  | true =>
    refine Meets.seq (R := fun isBridged m => m.left (!isBridged) = true) (.tracked hm rfl)
      fun isBridged m₁ hm₁ => ?_
    cases isBridged with
    | true => exact closed_aloof (aloof_reportCall q) m₁ (closed_of_left hm₁)
    | false =>
      refine Meets.seq (R := fun b m => m.left b = true) (.tracked hm₁ rfl) fun b m₂ hm₂ => ?_
      cases b with
      | false => exact closed_part (.walk rfl) m₂ (closed_of_left hm₂)
      | true =>
        exact Meets.seq (R := fun _ m => m.closed = true) (.tracked hm₂ rfl) fun _ m₃ hm₃ =>
          closed_part (.walk rfl) m₃ hm₃

theorem closed_progressive (rounds : Nat) :
    LegKind.progressive.Closes (ProgressiveCallQueue.run q rounds) := by
  have habandoned : LegKind.progressive.Closes
      abandonedWithParams :=
    closed_part (.walk rfl)
  refine .bind (closed_aloof (routine_doDistributeSchema q).aloof) fun _ =>
    .ite (.bind (closed_act nofun) fun _ => .ite (.bind (closed_act nofun) fun _ =>
      .ite habandoned ?_) habandoned) (closed_act nofun)
  refine .bind (closed_part (.walk rfl)) fun _ => .bind (closed_act nofun) fun _ m hm => ?_
  refine Meets.seq (meets_loop (fun agentCall m => m.pending agentCall = true)
    (Q := fun agentCall m => m.pending agentCall = true) (fun agentCall m hm => ?_) rounds ?_)
    fun agentCall m₁ hm₁ => meets_progressiveFinish q hm₁
  · refine (meets_progressiveRound rounds agentCall hm).imp fun r m' hr => ?_
    cases r with
    | inl agentCall' => exact hr
    | inr agentCall' => exact hr
  · obtain ⟨hopened, hlost⟩ := Bool.and_eq_true_iff.mp hm
    rw [LegsView.pending, LegsView.held, hopened, hlost]
    rfl

/-- Whenever the goroutine waits for an agent or returns, no call is open. -/
theorem closed_run (k : LegKind) (q : QueueConfig) (rounds : Nat) : k.Closes (k.run q rounds) := by
  cases k with
  | inbound => exact closed_inbound q rounds
  | joinAgent => exact closed_joinAgent q rounds
  | progressive => exact closed_progressive q rounds
  | predict => exact closed_predict q rounds

end CallCenter.Queue
