import CallCenter.Queue.ChatOffer
import CallCenter.Queue.PlainProof

/-!
# The rounds of a chat with an agent

The goroutine of a chat waits for an agent, invites the agent, and then has a loop of its own for
the chat, which ends when the session is stopped, and gives the agent up when it receives
`Declined`. Here the goroutine is followed by how far the offer can have got (`OfferPhase`): if a
session is stopped only in the select of that loop, and `Declined` is the next state that comes, the
goroutine counts the agent as missed and never waits for an agent while it has one.
-/

namespace CallCenter.Queue

open Lib

/-- What is known of the offer to an agent. -/
inductive OfferPhase where
  | free
  /-- An agent was chosen, but not invited yet. -/
  | chosen
  /-- The agent was invited, and the session is stopped at most in the select. -/
  | offered
  /-- The select has ended by the timer. -/
  | passed
  /-- The session is not stopped, or the conversation has ended. -/
  | talking
  | ended
  /-- `Declined` was received. -/
  | received
  /-- The agent who has declined was counted as missed. -/
  | missed
  deriving DecidableEq

instance : Listed OfferPhase where
  all := [.free, .chosen, .offered, .passed, .talking, .ended, .received, .missed]
  mem_all p := by cases p <;> decide

namespace OfferPhase

def stage : OfferPhase → DeclineStage
  | received => .received
  | missed => .missed
  | _ => .settled

/-- No `Declined` is being handled. -/
def settled (p : OfferPhase) : Bool := decide (p.stage = .settled)

/-- The goroutine waits for an agent without one, and for the chat with one; and between a
`Declined` and the next wait it does what is due to a missed agent. -/
def safe (p : OfferPhase) (o : Action) : Bool :=
  p.stage.asks o && match o with
    | .select (.waitChat held) => decide (held = false ∧ p = free)
    | .inviteInternal => decide (p = chosen)
    | .select (.chat held) => decide (held = true ∧ p = offered)
    | _ => true

def after (p : OfferPhase) : Exchange Action.Reply → Option OfferPhase
  | ⟨.select (.waitChat _), s⟩ =>
    match s with
    | .agents => some chosen
    | .timeout => some p
    | .cancel | .contextDone => some ended
  | ⟨.inviteInternal, r⟩ => some (if r = .ok then offered else free)
  | ⟨.select (.chat _), s⟩ =>
    match s with
    | .timeout => some passed
    | .cancel | .contextDone | .state .close => some ended
    | .state .declined => some received
    | .state .idle | .state .invite | .state .bridge => some p
  | ⟨.read (.conv .active), v⟩ =>
    if v then
      if p = ended then none else some (if p = talking then offered else p)
    else some ended
  | ⟨.read (.conv .agentStopAt), v⟩ => if p = offered ∧ v = true then none else some p
  -- A chat that was just declined is not bridged, and the timer stops one that is not.
  | ⟨.read (.conv .bridgedAt), v⟩ =>
    some (if v then if p = passed then talking else p else ended)
  | ⟨.store .setAttemptMissedAgent, _⟩ => some (if p = received then missed else p)
  | ⟨.setState .waitAgent, _⟩ => some (if p = missed then free else p)
  | _ => some p

end OfferPhase

def offerTracker : Tracker Action.Reply OfferPhase := ⟨OfferPhase.safe, OfferPhase.after⟩

abbrev OfferMeets {α : Type} (part : Go α) (p : OfferPhase) (Q : α → OfferPhase → Prop) : Prop :=
  Meets offerTracker.contract part p Q

section Parts

variable {o : Action} {p p' : OfferPhase} {α : Type} {part : Go α}

theorem safe_of_settled (h : o.handlesLegs = false) (hp : p.settled = true) : p.safe o = true := by
  have hasks : p.stage.asks o = true := by
    rw [of_decide_eq_true hp]
    rfl
  cases o with
  | select s => cases h
  | inviteInternal => cases h
  | _ => exact Bool.and_eq_true_iff.mpr ⟨hasks, rfl⟩

theorem settled_after {v : o.Reply} (h : o.handlesLegs = false) (hp : p.settled = true)
    (hafter : p.after ⟨o, v⟩ = some p') : p'.settled = true := by
  cases o with
  | select s => cases h
  | inviteInternal => cases h
  | read d =>
    cases d with
    | conv f =>
      cases f <;> cases v <;> cases p <;> cases hafter <;> first | rfl | exact hp
    | _ => cases hafter; exact hp
  | store c => cases c <;> cases p <;> cases hafter <;> first | rfl | exact hp
  | setState s => cases s <;> cases p <;> cases hafter <;> first | rfl | exact hp
  | _ => cases hafter; exact hp

theorem settled_aloof (h : Aloof part) :
    Keeps offerTracker.contract (·.settled = true) part :=
  fun _ hp => Meets.of_only h (fun _ _ ho hp => safe_of_settled ho hp)
    (fun _ _ _ _ ho hp hafter => settled_after ho hp hafter) hp

end Parts

/-! ## The rounds -/

/-- In the loop of a chat with an agent. -/
def OfferPhase.talks (p : OfferPhase) : Bool :=
  decide (p = .offered ∨ p = .talking ∨ p = .ended)

/-- After that loop: there is no agent, or the conversation has ended. -/
def OfferPhase.rests (agent : Bool) (p : OfferPhase) : Bool :=
  decide (p = .free ∧ agent = false ∨ p = .ended)

def talkRound (r : InboundChatQueue.Locals ⊕ InboundChatQueue.Locals) (p : OfferPhase) : Bool :=
  match r with
  | .inl l => l.agent && p.talks
  | .inr l => p.rests l.agent

/-- The head of the loop ends it only when the conversation has ended. -/
def OfferPhase.heads (goes : Bool) (p : OfferPhase) : Bool :=
  decide (p = if goes then .offered else .ended)

variable (q : QueueConfig)

theorem talking_checkIdle :
    OfferMeets (InboundChatQueue.checkIdle q) .talking fun _ p => p.talks = true := by
  unfold InboundChatQueue.checkIdle
  cases decide (0 < q.maxIdleAgent) <;> cases decide (0 < q.maxIdleClient) <;>
    cases decide (0 < q.maxIdleDialog) <;> exact .track rfl

variable {l : InboundChatQueue.Locals}

theorem meets_chatAgentRound {p : OfferPhase} (hl : l.agent = true) (hp : p.talks = true) :
    OfferMeets (InboundChatQueue.agentRound q l) p fun r p' => talkRound r p' = true := by
  obtain ⟨agent, team, aSess⟩ := l
  obtain rfl : agent = true := hl
  refine Meets.seq (R := fun goes p => p.heads goes = true) (.tracked hp rfl) fun goes p₁ hp₁ => ?_
  obtain rfl := of_decide_eq_true hp₁
  cases goes with
  | false => exact rfl
  | true =>
    refine Meets.ask rfl fun s p₂ hp₂ => ?_
    cases s with
    | cancel | contextDone => cases hp₂; exact rfl
    | state st => cases st <;> cases hp₂ <;> exact .track rfl
    | timeout =>
      cases hp₂
      refine Meets.ask rfl fun v p₃ hp₃ => ?_
      cases v with
      | false => cases hp₃; exact rfl
      | true =>
        cases hp₃
        exact Meets.seq (talking_checkIdle q) fun _ _ hp₄ => hp₄

/-- Before a round that waits for an agent there is none. -/
def waitRound (r : InboundChatQueue.Locals ⊕ Option InboundChatQueue.Locals) (p : OfferPhase) :
    Bool :=
  match r with
  | .inl l => decide (p = .free ∧ l.agent = false)
  | .inr _ => p.settled

theorem meets_whileActive {p : OfferPhase} (hp : p.rests l.agent = true) :
    OfferMeets (InboundChatQueue.whileActive l) p fun r p' => waitRound r p' = true := by
  obtain ⟨agent, team, aSess⟩ := l
  cases agent <;> exact .tracked hp rfl

variable (rounds : Nat)

theorem meets_chatWait (hl : l.agent = false) :
    OfferMeets (InboundChatQueue.waitRound q rounds l) .free fun r p => waitRound r p = true := by
  obtain ⟨agent, team, aSess⟩ := l
  obtain rfl : agent = false := hl
  refine Meets.ask rfl fun s p₁ hp₁ => ?_
  cases s with
  | cancel | contextDone | timeout => cases hp₁; exact .track rfl
  | agents =>
    cases hp₁
    refine Meets.ask rfl fun ok p₂ hp₂ => ?_
    cases hp₂
    cases ok with
    | false => exact rfl
    | true =>
      refine Meets.ask rfl fun r p₃ hp₃ => ?_
      cases hp₃
      cases r with
      | special | failed => exact .track rfl
      | ok =>
        refine Meets.seq (R := fun _ p => p.talks = true) (.track rfl) fun _ p₄ hp₄ => ?_
        refine Meets.seq (R := fun (l : InboundChatQueue.Locals) p => p.rests l.agent = true) ?_
          fun _ _ h => meets_whileActive h
        refine meets_loop (fun (l : InboundChatQueue.Locals) p => l.agent = true ∧ p.talks = true)
          (fun l p h => ?_) rounds ⟨rfl, hp₄⟩
        refine (meets_chatAgentRound q h.1 h.2).imp fun r p' hr => ?_
        cases r with
        | inl l' => exact Bool.and_eq_true_iff.mp hr
        | inr l' => exact hr

theorem aloof_chatFinish (l : InboundChatQueue.Locals) : Aloof (InboundChatQueue.finish q l) := by
  have hclose : Aloof (InboundChatQueue.closeSession l) :=
    .bind (only_andThen (.pure _) (.walk rfl)) fun _ => .ite (.walk rfl) (.pure _)
  refine .ite (.bind hclose fun _ => .bind (.walk rfl) fun _ => .bind (.walk rfl) fun _ => ?_)
    (.walk rfl)
  refine .ite ?_ (.walk rfl)
  exact .bind (.walk rfl) fun _ => .bind (.walk rfl) fun _ => aloof_reporting q _ _

theorem meets_chatProcess :
    OfferMeets (InboundChatQueue.process q rounds) .free fun _ p => p.settled = true := by
  have hwait : OfferMeets (InboundChatQueue.wait q rounds) .free fun _ p => p.settled = true := by
    refine Meets.ask rfl fun v p hp => ?_
    cases v with
    | false => cases hp; exact rfl
    | true =>
      cases hp
      refine meets_loop (fun l p => p = .free ∧ l.agent = false) (fun l p h => ?_) rounds ⟨rfl, rfl⟩
      obtain ⟨rfl, hl⟩ := h
      refine (meets_chatWait q rounds hl).imp fun r p' hr => ?_
      cases r with
      | inl l' =>
        have hl' : p' = .free ∧ l'.agent = false := of_decide_eq_true hr
        exact hl'
      | inr a => exact hr
  refine Meets.ask rfl fun ok p₁ hp₁ => ?_
  cases hp₁
  cases ok with
  | false => exact Meets.ask rfl nofun
  | true =>
    refine Meets.ask rfl fun _ p₂ hp₂ => ?_
    cases hp₂
    refine Meets.ask rfl fun _ p₃ hp₃ => ?_
    cases hp₃
    refine Meets.ask rfl fun ok p₄ hp₄ => ?_
    cases hp₄
    cases ok with
    | false => exact .track rfl
    | true =>
      refine Meets.seq hwait fun ended p₅ hp₅ => ?_
      cases ended with
      | none => exact hp₅
      | some l => exact settled_aloof (.bind (aloof_chatFinish q l) fun _ => .walk rfl) p₅ hp₅

end CallCenter.Queue
