import CallCenter.CallManager.CallWorld
import CallCenter.Queue.WaitQueues

/-!
# A goroutine and its calls

The goroutine of a queue works with calls that change under its hands. Here it is a program, its
calls are the worlds of the call manager, and the two interleave step by step.

What the goroutine reads of a call is what the call holds at that moment. A select takes the next
state out of the call's channel, `Hangup` starts in the call's world, `Invite` sets the call up and
starts the dial, `Bridge` is refused for a call that has hung up, and `GetTransferredCall` finds a
call that is in the cache and alive, or joins one that the switch has. Times are not negative, so
`> 0` and `!= 0` are the same question.
-/

namespace CallCenter.Queue

open Lib

structure AgentLeg where
  call : CallManager.World
  invited : Bool
  requested : Bool
  bridged : Bool

/-- The call has hung up, `Hangup` has been called, or it was bridged. -/
def AgentLeg.settled (a : AgentLeg) : Bool :=
  a.call.call.hangupAt ≠ 0 || a.requested || a.bridged

/-- How far a transfer of the agent's call has come. -/
inductive TransferStage where
  /-- `GetTransferredCall` has not been asked for the new call. -/
  | open
  /-- It has brought the new call. -/
  | found
  /-- `TransferFrom` has been called. -/
  | called
  /-- The new call is the agent's, and the goroutine is to go on with it. -/
  | taken
  /-- It has brought no call, or a dead one. -/
  | lost
  deriving DecidableEq

structure LegsWorld where
  prog : Go Unit
  member : CallManager.World
  agent : Option AgentLeg
  /-- What `agentCall` was before. -/
  past : List AgentLeg
  /-- The call that a transfer of the agent's call leads to; `nc` after a success. -/
  target : CallManager.World
  /-- `Call().Get` finds that call, and `JoinQueue` would join it. -/
  joinable : Bool
  stage : TransferStage
  /-- For how many exchanges a transfer of the agent's call has been waiting. -/
  delay : Nat

/-- What a read of a call answers, as far as the call's fields decide it. -/
def answerOf (c : CallManager.CallImpl) : CallField → Option Bool
  | .hangupAt => some (c.hangupAt ≠ 0)
  | .hangupCause => some (c.hangupCause ≠ "")
  | .bridgeAt => some (c.bridgeAt ≠ 0)
  | .acceptAt => some (c.acceptAt ≠ 0)
  | .reportingAt => some (c.reportingAt ≠ 0)
  | .transferTo => some c.transferTo.isSome
  | .transferToAgentId => some c.transferToAgentId.isSome
  | .transferFromAttemptId => some c.transferFromAttemptId.isSome
  | .transferToAttemptId => some c.transferToAttemptId.isSome
  | .transferFrom => some c.transferFrom.isSome
  | .attendedTransfer => some (c.hangupCause = "ATTENDED_TRANSFER")
  | .outbound => some c.outbound
  | .billSeconds | .answered | .err | .transferred | .shouldMarkAsMissed | .hasProcessAmd
  | .longEnough => none

def agrees (c : CallManager.CallImpl) (f : CallField) (v : Bool) : Prop :=
  ∀ b ∈ answerOf c f, v = b

instance (c : CallManager.CallImpl) (f : CallField) (v : Bool) : Decidable (agrees c f v) :=
  inferInstanceAs (Decidable (∀ b ∈ answerOf c f, v = b))

/-- The next state in the channel of the call is `s`, and is taken. -/
def takeState (c : CallManager.World) (s : CallState) : Option CallManager.World :=
  if c.call.chState.head? = some s then CallManager.step c .receive else none

/-- `Invite`: its own steps, and the goroutine for the dial. -/
def inviteCall (c : CallManager.World) (r : CallManager.Reply) : Option CallManager.World :=
  run CallManager.step c [.invite, .advance c.threads.length r, .advance c.threads.length r]

def hangupAwaited (c : CallManager.CallImpl) : Prop :=
  0 < c.hangupCh ∨ c.hangupCause ≠ "" ∨ ∃ e ∈ c.hangup, ∃ code ∈ e.sipCode, code ≠ 0 ∧ code ≠ 200

instance (c : CallManager.CallImpl) : Decidable (hangupAwaited c) :=
  inferInstanceAs (Decidable (_ ∨ _ ∨ _))

/-- A call somewhere in its life, for those that the goroutine did not make. -/
def someCall (o : CallManager.Origin) (labels : List CallManager.Label) :
    Option CallManager.World :=
  run CallManager.step (CallManager.start o) labels

/-- `GetCall(id)` finds the call and it has not hung up. -/
def live (c : CallManager.World) : Prop := c.cached = true ∧ c.call.hangupAt = 0

instance (c : CallManager.World) : Decidable (live c) :=
  inferInstanceAs (Decidable (_ ∧ _))

/-- The transfer the hangup of a call names: `TransferTo`, `TransferToAgentId` and
`TransferFromAttemptId`. -/
def carriesTransfer (c : CallManager.CallImpl) : Prop :=
  c.transferTo.isSome = true ∧ c.transferToAgentId.isSome = true
    ∧ c.transferFromAttemptId.isSome = true

instance (c : CallManager.CallImpl) : Decidable (carriesTransfer c) :=
  inferInstanceAs (Decidable (_ ∧ _ ∧ _))

namespace LegsWorld

def leg (w : LegsWorld) : CallLeg → Option CallManager.World
  | .member => some w.member
  | .agent => w.agent.map (·.call)
  | .transferred => some w.target

def takeAgent (w : LegsWorld) (s : CallState) : Option LegsWorld :=
  w.agent.bind fun a =>
    (takeState a.call s).map fun c => { w with agent := some { a with call := c } }

def takeMember (w : LegsWorld) (s : CallState) : Option LegsWorld :=
  (takeState w.member s).map fun c => { w with member := c }

/-- The call is not in the cache, and `ConnectCall` would bring it. -/
def Joins (w : LegsWorld) : Prop := w.target.cached = false ∧ w.joinable = true

instance (w : LegsWorld) : Decidable w.Joins := inferInstanceAs (Decidable (_ ∧ _))

/-- `GetTransferredCall` succeeds with a live call, or has done so. -/
def ReachableAt (w : LegsWorld) : TransferStage → Prop
  | .open | .taken => live w.target ∨ w.Joins
  | .found | .called => w.target.call.hangupAt = 0
  | .lost => False

instance (w : LegsWorld) : ∀ s, Decidable (w.ReachableAt s)
  | .open | .taken => inferInstanceAs (Decidable (_ ∨ _))
  | .found | .called => inferInstanceAs (Decidable (_ = _))
  | .lost => inferInstanceAs (Decidable False)

abbrev Reachable (w : LegsWorld) : Prop := w.ReachableAt w.stage

/-- The agent's call was hung up by a transfer, and the call it leads to can be had. -/
def TransferWaits (w : LegsWorld) : Prop :=
  (∃ a ∈ w.agent, carriesTransfer a.call.call) ∧ w.Reachable

instance (w : LegsWorld) : Decidable w.TransferWaits :=
  inferInstanceAs (Decidable (_ ∧ _))

/-- The calls after an exchange of the goroutine, if the calls allow it. `r` answers the
calls' own requests, and `someCall o labels` is a call that is found. -/
def exchange (w : LegsWorld) (r : CallManager.Reply) (o : CallManager.Origin)
    (labels : List CallManager.Label) : Exchange Action.Reply → Option LegsWorld
  | ⟨.read (.call l f), v⟩ =>
    (w.leg l).bind fun c => if agrees c.call f v then some w else none
  | ⟨.select .call, .state s⟩ | ⟨.select .outbound, .state s⟩ | ⟨.select .legs, .agent s⟩
  | ⟨.select .offer, .agent s⟩ => w.takeAgent s
  | ⟨.select .member, .state s⟩ | ⟨.select .legs, .member s⟩ | ⟨.select .offer, .member s⟩
  | ⟨.select .waitCall, .member s⟩ => w.takeMember s
  | ⟨.select .member, .hangup⟩ => if 0 < w.member.call.hangupCh then some w else none
  | ⟨.rpc (.invite .agent), _⟩ =>
    w.agent.bind fun a => (inviteCall a.call r).map fun c =>
      { w with agent := some { a with call := c, invited := true } }
  | ⟨.rpc (.invite .member), _⟩ =>
    (inviteCall w.member r).map fun c => { w with member := c }
  | ⟨.rpc (.hangup .agent), _⟩ =>
    w.agent.bind fun a => (CallManager.step a.call (.hangup "ORIGINATOR_CANCEL")).map fun c =>
      { w with agent := some { a with call := c, requested := true } }
  | ⟨.rpc (.hangup .member), _⟩ =>
    (CallManager.step w.member (.hangup "ORIGINATOR_CANCEL")).map fun c => { w with member := c }
  | ⟨.rpc (.waitForHangup l), _⟩ =>
    (w.leg l).bind fun c => if hangupAwaited c.call then some w else none
  | ⟨.rpc .bridge, success⟩ =>
    w.agent.bind fun a =>
      if success then
        if a.call.call.hangupCause = "" ∧ w.member.call.hangupCause = "" then
          some { w with
            agent := some { a with
              call := { a.call with call := { a.call.call with bridgeAt := r.now } }
              bridged := true } }
        else none
      else some w
  | ⟨.rpc (.getTransferredCall .agent), found⟩ =>
    if live w.target then (if found then some w else none)
    -- Not in the cache, or hung up: `ConnectCall` brings one.
    else if found then
      if w.target.cached || w.joinable then (someCall o labels).map fun c => { w with target := c }
      else none
    else if w.Joins then none
    else some w
  | ⟨.newAgentCall, _⟩ =>
    match o with
    | .newCall timeout => some { w with
        past := w.agent.toList ++ w.past
        agent := some ⟨CallManager.start (.newCall timeout), false, false, false⟩ }
    | .joined .. => none
  | ⟨.clearAgentCall, _⟩ =>
    some { w with past := w.agent.toList ++ w.past, agent := none }
  | ⟨.setCall .agent, _⟩ =>
    (someCall o labels).map fun c => { w with
      past := w.agent.toList ++ w.past
      agent := some ⟨w.target, false, false, w.target.call.bridgeAt ≠ 0⟩
      target := c }
  | ⟨.setCall .member, _⟩ => (someCall o labels).map fun c => { w with member := c }
  | _ => some w

end LegsWorld

/-- What the goroutine itself does to its calls is not among the steps of the others. -/
def ofOthers : CallManager.Label → Bool
  | .invite | .receive => false
  | _ => true

def otherStep (c : CallManager.World) (l : CallManager.Label) : Option CallManager.World :=
  if ofOthers l then CallManager.step c l else none

def AgentLeg.step (a : AgentLeg) (l : CallManager.Label) : Option AgentLeg :=
  (otherStep a.call l).map fun c =>
    { a with call := c, bridged := a.bridged || decide (c.call.bridgeAt ≠ 0) }

inductive LegsLabel where
  -- the others, on one of the calls
  | member (l : CallManager.Label) | agent (l : CallManager.Label)
  | past (i : Nat) (l : CallManager.Label) | target (l : CallManager.Label)
  /-- The call that a transfer leads to comes up at the switch, or ends there. -/
  | joinable (b : Bool)
  | go (e : Exchange Action.Reply) (r : CallManager.Reply) (o : CallManager.Origin)
    (labels : List CallManager.Label)

def stageAfter (s : TransferStage) : Exchange Action.Reply → TransferStage
  | ⟨.rpc (.getTransferredCall .agent), found⟩ => if found then .found else .lost
  | ⟨.read (.call .transferred .hangupAt), hungUp⟩ => if hungUp then .lost else s
  -- `TransferFrom` asks for the agent first.
  | ⟨.rpc .getAgent, _⟩ => if s = .found then .called else s
  | ⟨.setCall .agent, _⟩ => .taken
  | ⟨.newAgentCall, _⟩ | ⟨.clearAgentCall, _⟩ => .open
  -- The goroutine goes on with the new call until it waits for its next state, or finds that it,
  -- or the member, has hung up.
  | ⟨.read (.call _ .hangupCause), hungUp⟩ => if s = .taken ∧ hungUp = true then .open else s
  | ⟨.select _, _⟩ => if s = .taken then .open else s
  | _ => s

def legsStep (w : LegsWorld) : LegsLabel → Option LegsWorld
  | .member l => (otherStep w.member l).map fun c => { w with member := c }
  | .agent l => w.agent.bind fun a => (a.step l).map fun a' => { w with agent := some a' }
  | .past i l =>
    w.past[i]?.bind fun a => (a.step l).map fun a' => { w with past := w.past.set i a' }
  | .target l => (otherStep w.target l).map fun c => { w with target := c }
  | .joinable b => some { w with joinable := b }
  | .go e r o labels =>
    (w.prog.step e).bind fun p => (w.exchange r o labels e).map fun w' =>
      { w' with
        prog := p
        stage := stageAfter w.stage e
        delay := if w.TransferWaits then w.delay + 1 else 0 }

def legsStart (prog : Go Unit) (member : CallManager.World)
    (agent : Option CallManager.World) (target : CallManager.World) : LegsWorld where
  prog := prog
  member := member
  agent := agent.map fun c => ⟨c, false, false, c.call.bridgeAt ≠ 0⟩
  past := []
  target := target
  joinable := false
  stage := .open
  delay := 0

end CallCenter.Queue
