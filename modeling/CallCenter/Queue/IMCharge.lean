import CallCenter.Queue.WaitQueues

/-!
# The agents of an IM attempt

`InboundIMQueue.run` has two ideas of its agent: the local variable `agent`, which only a new agent
replaces, and `attempt.Agent()`, which is cleared when the agent was missed or skipped. At the end
of the attempt `finalizeAttempt` gets one or the other.

Agents are numbered in the order in which they are brought, so a number is an offer. The record has
what `finalizeAttempt` was called with, which team call it made, and for which offers a missed event
was published.
-/

namespace CallCenter.Queue

open Lib

inductive IMOutcome where
  | abandoned | missed | reported
  deriving DecidableEq

structure IMRecord where
  agent : Option Nat
  brought : Nat
  pending : Bool
  rowWaits : Bool
  held : Option Nat
  /-- The last select was the one that waits for an agent, and it has received none. -/
  waits : Bool
  final : Option Nat
  outcome : Option IMOutcome
  missedFor : List Nat

namespace IMRecord

/-- The agent that `finalizeAttempt` gets: the local one from the loop that waits, and
`attempt.Agent()` after the interaction. -/
def charged (m : IMRecord) : Option Nat := if m.waits then m.held else m.final

/-- Whose missed event `MissedAgent` publishes: in `finalizeAttempt`, or before. -/
def missing (m : IMRecord) : Option Nat :=
  if m.outcome = some .missed then m.charged else m.held

def bring (m : IMRecord) : IMRecord :=
  { m with agent := some m.brought, brought := m.brought + 1, pending := true, rowWaits := false }

/-- The record after an exchange of the goroutine, if it is possible. An event of an agent who was
cleared in the meantime is not received: the goroutine panics. -/
def exchange (m : IMRecord) : Exchange Action.Reply → Option IMRecord
  | ⟨.store (.setFindAgentState _), ok⟩ | ⟨.store .setAttemptMissedAgent, ok⟩ =>
    some { m with rowWaits := m.rowWaits || ok }
  | ⟨.distributeAgent, _⟩ => some { m with pending := true }
  | ⟨.clearAgent, _⟩ => some { m with agent := none }
  | ⟨.select .waitIM, s⟩ =>
    if s = .agents then
      if m.pending = true ∧ m.agent.isSome = true then
        some { m with pending := false, held := m.agent, waits := false }
      else none
    else some { m with waits := true }
  | ⟨.read (.attempt .agentSet), v⟩ =>
    if v = m.agent.isSome then some { m with final := m.agent } else none
  | ⟨.store .setAttemptAbandonedWithParams, _⟩ => some { m with outcome := some .abandoned }
  | ⟨.store .setAttemptMissed, _⟩ => some { m with outcome := some .missed }
  | ⟨.getAttempt, _⟩ | ⟨.read (.attempt .draft), _⟩ => some { m with outcome := some .reported }
  | ⟨.setState .missed, _⟩ => some { m with missedFor := m.missing.toList ++ m.missedFor }
  | _ => some m

end IMRecord

def chargesAgent : Action → Bool
  | .store .setAttemptMissed | .getAttempt | .read (.attempt .draft) => true
  | _ => false

structure IMWorld where
  prog : Go Unit
  record : IMRecord

inductive IMLabel where
  | bring
  | go (e : Exchange Action.Reply)

def imStep (w : IMWorld) : IMLabel → Option IMWorld
  | .bring => if w.record.rowWaits then some { w with record := w.record.bring } else none
  | .go e => (w.prog.step e).bind fun p => (w.record.exchange e).map fun m => ⟨p, m⟩

/-- The attempt is distributed: the target of a transfer to an agent has its agent. -/
def imStart (q : QueueConfig) (rounds : Nat) : IMWorld where
  prog := InboundIMQueue.run q rounds
  record :=
    { agent := if q.transferAgent then some 0 else none
      brought := 1
      pending := false
      rowWaits := false
      held := none
      waits := false
      final := none
      outcome := none
      missedFor := [] }

end CallCenter.Queue
