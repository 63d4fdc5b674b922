import CallCenter.Queue.CallQueues

/-!
# The goroutines of the queues that wait for an agent

Inbound and predictive calls, chats and IM threads. The goroutine makes the stored
attempt wait for an agent, sets its state in memory and subscribes to the agents that
the dispatcher brings, each queue in its own order, and then waits in a select. An agent
who does not take the attempt is released, and the goroutine waits again.
-/

namespace CallCenter.Queue

open Lib Store

/-- The end of a goroutine, unless its loop has made it return. -/
def finishWith {σ : Type} (ended : Option σ) (finish : σ → Go Unit) : Go Unit :=
  match ended with
  | none => pure ()
  | some l => finish l

/-- The locals of a call that waits: `agent != nil`, `agentCall != nil`. -/
structure CallLocals where
  agent : Bool
  agentCall : Bool

/-- The agent's call has ended. Not bridged, the agent is released and the attempt waits
again; the loop goes on while the member's call is neither hung up nor bridged. -/
def afterOffer : Go (CallLocals ⊕ Option CallLocals) := do
  if ← readCall .agent .bridgeAt then leave (some ⟨true, true⟩)
  else
    releaseAgentAndWait
    if ← andThen (negate (readCall .member .hangupAt)) (negate (readCall .member .bridgeAt)) then
      goOn ⟨false, false⟩
    else leave (some ⟨false, false⟩)

/-! ## Inbound calls -/

namespace InboundQueue

/-- After a hang-up of the member; a transferred outbound call leaves the agent's. -/
def hangupAgent : Go Unit := do
  if ← orElse (readCall .agent .hangupAt)
      (andThen (readCall .member .outbound) (readCall .member .transferFrom)) then
    pure ()
  else
    let _ ← rpc (.hangup .agent)
    let _ ← rpc (.waitForHangup .agent)

/-- The loop over both calls; the result is whether the attempt was passed on. -/
def offerRound (_ : Unit) : Go (Unit ⊕ Bool) := do
  if ← orElse (readCall .agent .hangupCause) (readCall .member .hangupCause) then leave false
  else
    match ← act (.select .offer) with
    | .cancel => leave false
    | .agent s => do
      if ← agentCallState s then goOn () else leave false
    | .member s => do
      match ← memberCallState hangupAgent s with
      | .goesOn => goOn ()
      | .ends => leave false
      | .forward => leave true

/-- The loop that waits for an agent; it ends with the locals, or with none when the
goroutine returns. -/
def waitRound (rounds : Nat) (l : CallLocals) : Go (CallLocals ⊕ Option CallLocals) := do
  match ← act (.select .waitCall) with
  | .timeout | .contextDone | .cancel => leave (some l)
  | .member .hangup => do
    if ← andThen (pure l.agentCall) (negate (readCall .agent .bridgeAt)) then
      releaseAgentAndWait
      leave (some ⟨false, false⟩)
    else leave (some l)
  | .member _ => goOn l
  | .agents => do
    if ← act .getTeam then
      if ← readCall .member .hangupCause then leave (some { l with agent := true })
      else
        act .newAgentCall
        distribute
        let _ ← rpc (.invite .agent)
        if ← Prog.loop offerRound rounds () then leave none else afterOffer
    else goOn { l with agent := true }

def finish (q : QueueConfig) (l : CallLocals) : Go Unit := do
  if ← andThen (pure l.agentCall) (readCall .agent .bridgeAt) then reportCall q
  else if ← sendAfterDistributeSchema then pure ()
  else abandoned

def wait (rounds : Nat) : Go (Option CallLocals) := do
  if ← readCall .member .hangupAt then pure (some ⟨false, false⟩)
  else Prog.loop (waitRound rounds) rounds ⟨false, false⟩

def run (q : QueueConfig) (rounds : Nat) : Go Unit := do
  setState .joined
  if ← store (.setFindAgentState false) then
    act .on
    setState .waitAgent
    let ended ← wait rounds
    finishWith ended fun l => do
      finish q l
      act .off
  else pure ()

end InboundQueue

/-! ## Predictive calls -/

namespace PredictCallQueue

def hangupMember : Go Unit := do
  let _ ← rpc (.hangup .member)
  let _ ← rpc (.waitForHangup .member)

def offerRound (_ : Unit) : Go (Unit ⊕ Unit) := do
  if ← orElse (readCall .agent .hangupCause) (readCall .member .hangupCause) then leave ()
  else
    match ← act (.select .offer) with
    | .cancel => do
      hangupMember
      goOn ()
    | .agent .ringing => do
      offering
      goOn ()
    | .agent .accept => do
      if ← rpc .bridge then pure ()
      else if ← readCall .agent .hangupAt then pure ()
      else
        let _ ← rpc (.hangup .agent)
      goOn ()
    | .agent .hangup => do
      if ← receiveTransfer .agent then goOn () else leave ()
    | .agent _ => goOn ()
    | .member .bridge => do
      bridged
      goOn ()
    | .member .hangup => do
      hangupAgentCall
      leave ()
    | .member _ => goOn ()

/-- The agent's call is hung up unless the attempt is bridged. -/
def hangupUnbridged : Go Unit := do
  if ← andThen (negate (readAttempt .bridgedAt)) (negate (readCall .agent .hangupAt)) then
    let _ ← rpc (.hangup .agent)
  else pure ()

def waitRound (rounds : Nat) (l : CallLocals) : Go (CallLocals ⊕ Option CallLocals) := do
  match ← act (.select .waitCall) with
  | .cancel => do
    hangupMember
    goOn l
  | .timeout | .contextDone => do
    hangupMember
    leave (some l)
  | .member .hangup => leave (some l)
  | .member _ => goOn l
  | .agents => do
    if ← act .getTeam then
      if ← readCall .member .hangupCause then leave (some { l with agent := true })
      else
        act .newAgentCall
        distribute
        let _ ← rpc (.invite .agent)
        Prog.loop offerRound rounds ()
        hangupUnbridged
        afterOffer
    else leave none

/-- No agent was bridged to the member. -/
def lose (q : QueueConfig) : Go Unit := do
  let _ ← store .losePredictAttempt
  if ← sendAfterDistributeSchema then pure ()
  else if q.retryAbandoned then abandonedWithParams
  else abandoned

def finish (q : QueueConfig) (l : CallLocals) : Go Unit := do
  if ← andThen (pure l.agentCall) (readCall .agent .bridgeAt) then reportCall q else lose q

def wait (rounds : Nat) : Go (Option CallLocals) := do
  if ← readCall .member .hangupAt then pure (some ⟨false, false⟩)
  else Prog.loop (waitRound rounds) rounds ⟨false, false⟩

def waitAndFinish (q : QueueConfig) (rounds : Nat) : Go Unit := do
  let ended ← wait rounds
  finishWith ended fun l => do
    finish q l
    act .off

/-- The order of the first three steps is the one its comment asks for. -/
def runOfferingAgents (q : QueueConfig) (rounds : Nat) : Go Unit := do
  act .on
  setState .waitAgent
  match ← act .answerPredictAndFindAgent with
  | .failed => pure ()
  | .released | .kept => waitAndFinish q rounds

/-- The loop over the member's call; the result is whether it was answered. -/
def parkRound (_ : Unit) : Go (Unit ⊕ Bool) := do
  match ← act (.select .member) with
  | .cancel => do
    hangupMember
    goOn ()
  | .state .accept | .state .detectAmd => do
    if ← readCall .member .hasProcessAmd then goOn () else leave true
  | .state _ => goOn ()
  | .hangup => leave false

def maxRetryCount : Nat := 10

/-- `retryCounter` and `lastExec`; whether the next resource may be called makes no
difference to what is asked. -/
structure Retry where
  retryCounter : Nat
  lastExec : Bool

/-- From `last_`: again from there, or, at the end, again from `retry_` or not. -/
def lastRound (s : Retry) : Go (Retry ⊕ Option Retry) := do
  match ← act .afterDistributeSchema with
  | none => do
    abandonedWithParams
    leave none
  | some res =>
    if res.success then do
      setAttemptSuccess
      act .leavingMember
      leave none
    else if res.retry && s.retryCounter < maxRetryCount then do
      let s := { s with retryCounter := s.retryCounter + 1 }
      match ← act .flipAttemptResource with
      | .failed | .noResource =>
        if s.lastExec then do
          abandonedWithParams
          leave none
        else goOn { s with lastExec := true }
      | .flipped _ => leave (some s)
    else do
      abandonedWithParams
      leave none

def retryRound (q : QueueConfig) (rounds : Nat) (s : Retry) : Go (Retry ⊕ Unit) := do
  if ← rpc .resourceTake then
    if ← rpc .newCall then
      let _ ← rpc (.invite .member)
      if ← Prog.loop parkRound rounds () then
        runOfferingAgents q rounds
        leave ()
      else
        match ← Prog.loop lastRound rounds s with
        | none => leave ()
        | some s => goOn s
    else
      abandonedWithParams
      leave ()
  else
    abandonedWithParams
    leave ()

def runPark (q : QueueConfig) (rounds : Nat) : Go Unit := do
  if ← doDistributeSchema q then Prog.loop (retryRound q rounds) rounds ⟨1, false⟩
  else act .leavingMember

end PredictCallQueue

/-! ## Chats -/

namespace InboundChatQueue

/-- `agent != nil`, `team != nil`, `aSess != nil`. -/
structure Locals where
  agent : Bool
  team : Bool
  aSess : Bool

/-- The timer of a bridged chat: each limit that is set is compared with how long its
side has been silent. -/
def checkIdle (q : QueueConfig) : Go Unit := do
  if ← andThen (pure (0 < q.maxIdleAgent)) (readConv .idleAgent) then
    let _ ← rpc .leaveChat
  else if ← andThen (pure (0 < q.maxIdleClient)) (readConv .idleClient) then
    let _ ← rpc .leaveChat
  else if ← andThen (pure (0 < q.maxIdleDialog)) (readConv .idleDialog) then
    let _ ← rpc .leaveChat
  else pure ()

def agentRound (q : QueueConfig) (l : Locals) : Go (Locals ⊕ Locals) := do
  if ← andThen (readConv .active) (negate (readConv .agentStopAt)) then
    match ← act (.select (.chat l.agent)) with
    | .cancel | .contextDone => goOn l
    | .timeout => do
      if ← readConv .bridgedAt then checkIdle q else pure ()
      goOn l
    | .state .invite => do
      offering
      goOn l
    | .state .declined => do
      missedAgentAndWaitingAttempt
      setState .waitAgent
      leave { l with agent := false, aSess := false }
    | .state .bridge => do
      bridged
      goOn l
    | .state .close | .state .idle => goOn l
  else leave l

def whileActive (l : Locals) : Go (Locals ⊕ Option Locals) := do
  if ← readConv .active then goOn l else leave (some l)

def waitRound (q : QueueConfig) (rounds : Nat) (l : Locals) : Go (Locals ⊕ Option Locals) := do
  match ← act (.select (.waitChat l.agent)) with
  | .cancel | .contextDone => whileActive l
  | .timeout => do
    let _ ← readConv .bridgedAt
    whileActive l
  | .agents => do
    if ← act .getTeam then
      match ← act .inviteInternal with
      | .special => do
        cancelAgentAttempt
        leave (some { l with agent := false, team := false })
      | .failed => do
        missedAgentAndWaitingAttempt
        setState .waitAgent
        goOn { l with agent := false, team := false }
      | .ok => do
        distribute
        let l ← Prog.loop (agentRound q) rounds ⟨true, true, true⟩
        whileActive l
    else leave none

/-- The session of the agent is closed when the queue itself ends the chat. -/
def closeSession (l : Locals) : Go Unit := do
  if ← andThen (pure l.aSess) (andThen (negate (readConv .agentStopAt)) (readConv .causeEmpty)) then
    let _ ← rpc .closeChat
  else pure ()

def finish (q : QueueConfig) (l : Locals) : Go Unit := do
  if l.agent && l.team then
    closeSession l
    let transferred ← readConv .causeTransfer
    if ← andThen (readConv .bridgedAt) (pure (!(transferred && q.transferAbandoned))) then
      let reported ← readConv .reportingAt
      let transfer ← readConv .causeTransfer
      reporting q reported transfer
    else
      if ← readConv .causeClientLeave then cancelAttemptAndReleaseAgent else missed
      act .leavingMember
  else abandoned

def wait (q : QueueConfig) (rounds : Nat) : Go (Option Locals) := do
  if ← readConv .active then Prog.loop (waitRound q rounds) rounds ⟨false, false, false⟩
  else pure (some ⟨false, false, false⟩)

def process (q : QueueConfig) (rounds : Nat) : Go Unit := do
  if ← store (.setFindAgentState false) then
    setState .waitAgent
    act .on
    if ← rpc .newConversation then
      let ended ← wait q rounds
      finishWith ended fun l => do
        finish q l
        act .off
        let _ ← rpc .removeConversation
    else
      abandoned
      act .off
  else
    let never ← act .crash
    nomatch never

end InboundChatQueue

/-! ## IM threads -/

namespace InboundIMQueue

/-- `agent != nil`, `team != nil`, `task != nil`. -/
structure Locals where
  agent : Bool
  team : Bool
  task : Bool

def checkIdleTimeouts (q : QueueConfig) : Go Bool := do
  if ← negate (readAttempt .bridgedAt) then pure false
  else if ← andThen (pure (0 < q.maxIdleAgent)) (readAttempt .idleAgent) then pure false
  else if ← andThen (pure (0 < q.maxIdleClient)) (readAttempt .idleClient) then pure false
  else if ← andThen (pure (0 < q.maxIdleDialog)) (readAttempt .idleDialog) then pure false
  else pure true

def removePreview : Go Unit := do
  if ← readAttempt .hasPreview then
    let _ ← rpc .removePreview
  else pure ()

/-- `joinAgent` and `transferAgent`: whether there was no error. -/
def joinAgent (q : QueueConfig) : Go Bool := do
  if q.transferFrom then
    removePreview
    rpc .transferMember
  else if ← readAttempt .userJoined then pure true
  else if ← readAttempt .hasPreview then rpc .upgradePreview
  else rpc .addMember

/-- The agent is missed: the attempt waits again, unless it was a transfer to this
agent. -/
def missAgent (q : QueueConfig) : Go Bool := do
  missedAgentAndWaitingAttempt
  if q.transferAgent then pure false
  else
    setState .waitAgent
    pure true

/-- The preview is taken away, and the agent is missed. -/
def giveUpAgent (q : QueueConfig) : Go (Unit ⊕ Bool) := do
  removePreview
  let wait ← missAgent q
  leave wait

/-- `handleAgentInteraction`: whether to wait for another agent. -/
def interactionRound (q : QueueConfig) (_ : Unit) : Go (Unit ⊕ Bool) := do
  match ← act (.select .im) with
  | .cancel => do
    let _ ← readTask .bridgedAt
    goOn ()
  | .imTransferred | .sessionDone => leave false
  | .task .bridged => do
    if ← joinAgent q then
      bridged
      goOn ()
    else giveUpAgent q
  | .task .closed => do
    if ← readTask .declined then giveUpAgent q else leave false
  | .task .idle => goOn ()
  | .inviteTimeout => do
    let _ ← readTask .bridgedAt
    goOn ()
  | .timeout => do
    if ← checkIdleTimeouts q then goOn () else leave false

def cleanupSession (agent : Bool) : Go Unit := do
  if agent then removePreview else pure ()
  if ← andThen (pure agent) (negate (readAttempt .imTransferred)) then
    let _ ← rpc .removeMember
  else pure ()
  act .off

/-- A transfer that was reserved and not made cancels its target. -/
def cancelPendingTransfer : Go Unit := do
  if ← readAttempt .imTransferred then pure ()
  else
    let _ ← readAttempt .pendingIMTransfer

def endAttempt (q : QueueConfig) (l : Locals) : Go Unit := do
  if l.agent && l.team then
    if ← andThen (pure l.task) (andThen (readTask .declined) (negate (readTask .reportingAt))) then
      missed
      act .leavingMember
    else
      let reported ← andThen (pure l.task) (readTask .reportingAt)
      let transfer ← readAttempt .imTransferred
      reporting q reported transfer
  else abandoned

def finalizeAttempt (q : QueueConfig) (l : Locals) : Go Unit := do
  cancelPendingTransfer
  endAttempt q l
  cleanupSession l.agent

def finalize (q : QueueConfig) (l : Locals) : Go (Locals ⊕ Unit) := do
  finalizeAttempt q l
  leave ()

/-- `givePreview`: without a timeout of the invite there is no preview. -/
def givePreview (q : QueueConfig) : Go InviteReply := do
  if q.invitePreview then act .givePreview else pure .ok

def interact (q : QueueConfig) (rounds : Nat) : Go (Locals ⊕ Unit) := do
  distribute
  offering
  if ← Prog.loop (interactionRound q) rounds () then goOn ⟨true, true, true⟩
  else
    let agent ← readAttempt .agentSet
    finalize q ⟨agent, true, true⟩

/-- An agent has been brought, and the team found: `none` when the goroutine is done. -/
def offerAgent (q : QueueConfig) (rounds : Nat) : Go (Locals ⊕ Unit) := do
  match ← givePreview q with
  | .failed => do
    if ← missAgent q then goOn ⟨true, true, true⟩ else finalize q ⟨false, true, true⟩
  | .ok | .special => interact q rounds

def waitRound (q : QueueConfig) (rounds : Nat) (l : Locals) : Go (Locals ⊕ Unit) := do
  match ← act (.select .waitIM) with
  | .cancel | .contextDone | .sessionDone => finalize q l
  | .agents => do
    if ← act .getTeam then
      if ← readAttempt .transferInitiator then
        let _ ← store (.setFindAgentState true)
        act .clearAgent
        setState .waitAgent
        goOn { l with agent := true, team := true }
      else offerAgent q rounds
    else leave ()
  | .timeout => do
    if ← checkIdleTimeouts q then goOn l else finalize q l

def distributeTransfer (q : QueueConfig) : Go Unit :=
  if q.transferAgent then act .distributeAgent else pure ()

def waitAgents (q : QueueConfig) (rounds : Nat) : Go Unit := do
  setState .waitAgent
  act .on
  distributeTransfer q
  Prog.loop (waitRound q rounds) rounds ⟨false, false, false⟩

def run (q : QueueConfig) (rounds : Nat) : Go Unit := do
  if q.transferAgent then waitAgents q rounds
  else if ← store (.setFindAgentState false) then waitAgents q rounds
  else pure ()

end InboundIMQueue

end CallCenter.Queue
