import CallCenter.Queue.Team

/-!
# The goroutines of the queues with an agent from the start

Offline, preview, progressive, IVR, join-agent and outbound calls, and the tasks: the
attempt has its agent (or needs none) when the goroutine starts. Each `run` is the
source's function; its loop is a round that says whether the loop goes on. `rounds`
bounds the rounds of every loop.
-/

namespace CallCenter.Queue

open Lib Store

abbrev goOn {σ α : Type} (s : σ) : Go (σ ⊕ α) := pure (.inl s)

abbrev leave {σ α : Type} (a : α) : Go (σ ⊕ α) := pure (.inr a)

def abandonedWithParams : Go Unit := do
  setAttemptAbandonedWithParams
  act .leavingMember

/-! ## Offline and preview calls -/

def agentCallRound (_ : Unit) : Go (Unit ⊕ Unit) := do
  match ← act (.select .call) with
  | .state .ringing => do
    offering
    goOn ()
  | .state .accept => do
    answered
    goOn ()
  | .state .bridge => do
    bridged
    goOn ()
  | .state _ => goOn ()
  | .hangup => do
    if ← receiveTransfer .agent then goOn () else leave ()

namespace OfflineCallQueue

def run (q : QueueConfig) (rounds : Nat) : Go Unit := do
  if ← doDistributeSchema q then
    if ← rpc .newCall then
      distribute
      let _ ← rpc (.invite .agent)
      Prog.loop agentCallRound rounds ()
      if ← orElse (readCall .agent .billSeconds) (readCall .agent .acceptAt) then reportCall q
      else missed
    else abandonedWithParams
  else act .leavingMember

end OfflineCallQueue

namespace PreviewCallQueue

def run (q : QueueConfig) (rounds : Nat) : Go Unit := do
  if ← doDistributeSchema q then
    if ← rpc .newCall then
      distribute
      let _ ← rpc (.invite .agent)
      Prog.loop agentCallRound rounds ()
      if ← andThen (readCall .agent .acceptAt)
          (andThen (negate (readCall .agent .bridgeAt)) (pure (!q.processing))) then
        setWrap
      else if ← orElse (readCall .agent .acceptAt) (readAttempt .callback) then reportCall q
      else
        cancelAgentAttempt
        act .leavingMember
    else abandonedWithParams
  else act .leavingMember

end PreviewCallQueue

/-! ## IVR -/

namespace IVRQueue

def round (_ : Unit) : Go (Unit ⊕ Unit) := do
  match ← act (.select .call) with
  | .hangup => leave ()
  | .state .ringing => do
    setState .offering
    let _ ← store .setAttemptOffering
    goOn ()
  | .state .detectAmd | .state .accept => do
    if ← readCall .member .hasProcessAmd then goOn ()
    else
      setState .bridged
      let _ ← store .setAttemptBridged
      goOn ()
  | .state .hangup => leave ()
  | .state _ => goOn ()

def finish : Go Unit := do
  let success ← andThen (readAttempt .stateBridged)
    (andThen (readCall .member .acceptAt) (readCall .member .longEnough))
  match ← act .afterDistributeSchema with
  | some res =>
    if res.success then setAttemptSuccess else setAttemptAbandonedWithParams
    act .leavingMember
  | none =>
    if success then setAttemptSuccess else setAttemptAbandonedWithParams
    act .leavingMember

def run (q : QueueConfig) (rounds : Nat) : Go Unit := do
  if ← doDistributeSchema q then
    if ← rpc .newCall then
      setState .joined
      let _ ← rpc (.invite .member)
      if ← readCall .member .err then pure ()
      else
        Prog.loop round rounds ()
        finish
    else abandonedWithParams
  else act .leavingMember

end IVRQueue

/-! ## Progressive calls -/

namespace ProgressiveCallQueue

/-- The loop over both calls; its local is `calling`. -/
def offerRound (calling : Bool) : Go (Bool ⊕ Bool) := do
  if ← orElse (readCall .agent .hangupCause)
      (orElse (readCall .member .hangupCause) (readCall .agent .transferTo)) then
    leave calling
  else
    match ← act (.select .legs) with
    | .agent .ringing => do
      offering
      goOn calling
    | .agent .accept => do
      if ← rpc .bridge then goOn calling
      else
        if ← readCall .agent .hangupAt then pure ()
        else
          let _ ← rpc (.hangup .agent)
        goOn false
    | .agent .hangup => do
      if ← receiveTransfer .agent then leave calling
      else
        if ← andThen (negate (readCall .member .hangupAt))
            (andThen (negate (readCall .agent .billSeconds))
              (negate (readCall .agent .transferTo))) then
          let _ ← rpc (.hangup .member)
        else pure ()
        leave false
    | .agent _ => goOn calling
    | .member .bridge => do
      bridged
      goOn calling
    | .member .hangup => do
      hangupAgentCall
      leave calling
    | .member _ => goOn calling

/-- The round of a member who has answered: the agent is called. -/
def answered (rounds : Nat) (agentCall : Bool) : Go (Bool ⊕ Bool) := do
  if ← readCall .member .hasProcessAmd then goOn agentCall
  else if ← act .confirmAttempt then
    act .newAgentCall
    if ← readCall .member .hangupCause then leave true
    else
      let _ ← rpc (.invite .agent)
      if ← Prog.loop offerRound rounds true then goOn true else leave true
  else
    let _ ← rpc (.hangup .member)
    goOn agentCall

/-- The loop over the member's call; its local is whether there is an agent's call. -/
def round (rounds : Nat) (agentCall : Bool) : Go (Bool ⊕ Bool) := do
  match ← act (.select .member) with
  | .cancel => do
    let _ ← rpc (.hangup .member)
    goOn agentCall
  | .state .accept | .state .detectAmd => answered rounds agentCall
  | .state _ => goOn agentCall
  | .hangup => leave agentCall

def finish (q : QueueConfig) (agentCall : Bool) : Go Unit := do
  if agentCall then
    if ← readCall .agent .bridgeAt then reportCall q
    else
      if ← andThen (negate (readCall .agent .hangupAt))
          (andThen (negate (readCall .agent .transferTo)) (readCall .member .hangupAt)) then
        let _ ← rpc (.hangup .agent)
      else pure ()
      if ← readCall .agent .shouldMarkAsMissed then missed else cancelAttemptAndReleaseAgent
      act .leavingMember
  else
    cancel
    act .leavingMember

def run (q : QueueConfig) (rounds : Nat) : Go Unit := do
  if ← doDistributeSchema q then
    if ← rpc .newCall then
      if ← readAttempt .canceled then abandonedWithParams
      else
        distribute
        let _ ← rpc (.invite .member)
        let agentCall ← Prog.loop (round rounds) rounds false
        finish q agentCall
    else abandonedWithParams
  else act .leavingMember

end ProgressiveCallQueue

/-! ## Calls that are joined to an agent -/

/-- The states of the agent's call while a call of the member waits: whether the loop
goes on. -/
def agentCallState : CallState → Go Bool
  | .ringing => do
    offering
    pure true
  | .accept => do
    if ← rpc .bridge then
      if ← andThen (negate (readAttempt .processTransfer))
          (andThen (readCall .member .outbound) (negate (readAttempt .stateBridged))) then
        bridged
      else pure ()
    else if ← readCall .agent .hangupAt then pure ()
    else
      let _ ← rpc (.hangup .agent)
    pure true
  | .bridge => do
    if ← readAttempt .stateBridged then pure () else bridged
    pure true
  | .hangup => receiveTransfer .agent
  | _ => pure true

inductive MemberLeg where
  | goesOn
  | ends
  | forward

/-- The states of the member's call; `hangupAgent` is what follows a hang-up. -/
def memberCallState (hangupAgent : Go Unit) : CallState → Go MemberLeg
  | .bridge => do
    if ← readAttempt .stateBridged then pure () else bridged
    pure .goesOn
  | .hangup => do
    match ← transferResult with
    | .forward => pure .forward
    | .success => pure .goesOn
    | .skip =>
      hangupAgent
      pure .ends
  | _ => pure .goesOn

namespace JoinAgentCallQueue

/-- The result is whether the attempt was passed on. -/
def round (_ : Unit) : Go (Unit ⊕ Bool) := do
  if ← orElse (readCall .agent .hangupCause) (readCall .member .hangupCause) then leave false
  else
    match ← act (.select .legs) with
    | .agent s => do
      if ← agentCallState s then goOn () else leave false
    | .member s => do
      match ← memberCallState hangupAgentCall s with
      | .goesOn => goOn ()
      | .ends => leave false
      | .forward => leave true

def finish (q : QueueConfig) : Go Unit := do
  if ← readCall .agent .bridgeAt then reportCall q
  else
    if ← readCall .agent .shouldMarkAsMissed then missed else cancelAttemptAndReleaseAgent
    act .leavingMember

/-- The result is whether the attempt was passed on. A caller who has hung up already:
the loop is not entered. -/
def offer (rounds : Nat) (lost : Bool) : Go Bool :=
  if lost then pure false else Prog.loop round rounds ()

def run (q : QueueConfig) (rounds : Nat) : Go Unit := do
  setState .joined
  if ← act .getTeam then
    let lost ← readCall .member .hangupCause
    act .newAgentCall
    distribute
    let _ ← rpc (.invite .agent)
    if ← offer rounds lost then pure ()
    else
      finish q
      act .off
  else pure ()

end JoinAgentCallQueue

/-! ## Outbound calls of an agent -/

namespace OutboundCallQueue

def round (_ : Unit) : Go (Unit ⊕ Unit) := do
  if ← readCall .agent .hangupCause then leave ()
  else
    match ← act (.select .outbound) with
    | .cancel => leave ()
    | .state .accept | .state .bridge => do
      if ← readAttempt .stateBridged then pure () else bridged
      goOn ()
    | .state .hangup => do
      let _ ← receiveTransfer .agent
      goOn ()
    | .state _ => goOn ()

def talking (rounds : Nat) : Go Unit := do
  if ← readCall .agent .hangupAt then pure () else Prog.loop round rounds ()

def calling (q : QueueConfig) (rounds : Nat) : Go Unit := do
  distribute
  offering
  if ← orElse (readCall .agent .bridgeAt) (pure q.processingWithoutAnswer) then bridged
  else pure ()
  talking rounds

def finish (q : QueueConfig) : Go Unit := do
  if ← orElse (readCall .agent .answered) (pure q.processingWithoutAnswer) then reportCall q
  else if ← sendAfterDistributeSchema then pure ()
  else setWrap

def run (q : QueueConfig) (rounds : Nat) : Go Unit := do
  calling q rounds
  finish q
  act .off

end OutboundCallQueue

/-! ## Tasks -/

def taskRound (_ : Unit) : Go (Unit ⊕ Unit) := do
  match ← act (.select .task) with
  | .state .bridged => do
    bridged
    goOn ()
  | .state .closed => leave ()
  | .state .idle => goOn ()
  | .timeout => leave ()

/-- `TaskAgent.run` and `TaskInboundQueue.run`, which are the same. -/
def taskRun (q : QueueConfig) (rounds : Nat) : Go Unit := do
  if ← doDistributeSchema q then
    distribute
    offering
    Prog.loop taskRound rounds ()
    if ← andThen (readTask .declined) (negate (readTask .reportingAt)) then
      cancelAgentAttempt
      act .leavingMember
    else
      let reported ← readTask .reportingAt
      reporting q reported false
  else act .leavingMember

namespace TaskAgent

def run (q : QueueConfig) (rounds : Nat) : Go Unit := taskRun q rounds

end TaskAgent

namespace TaskInboundQueue

def run (q : QueueConfig) (rounds : Nat) : Go Unit := taskRun q rounds

end TaskInboundQueue

namespace TaskOutboundQueue

def execSchema : Go Unit := do
  let _ ← rpc .startSyncFlow

def finish : Go Unit := do
  match ← act .afterDistributeSchema with
  | some res => do
    if res.success then setAttemptSuccess else setAttemptAbandonedWithParams
    act .leavingMember
  | none => do
    let last ← readAttempt .lastSeq
    if last then setAttemptSuccess else setAttemptAbandonedWithParams
    act .leavingMember

def run (q : QueueConfig) : Go Unit := do
  if ← doDistributeSchema q then
    setState .joined
    let _ ← store .setAttemptBridged
    setState .bridged
    if q.schema then
      execSchema
      finish
    else finish
  else act .leavingMember

end TaskOutboundQueue

end CallCenter.Queue
