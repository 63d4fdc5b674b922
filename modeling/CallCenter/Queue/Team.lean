import CallCenter.Queue.Action

/-!
# What the queues share

The functions of a team and of the queue manager that the goroutines call, as parts of goroutines.
Each is the source's sequence of store calls, changes of the attempt and published events, with the
early return after a failed store call where there is one. Not every function that ends the work
with an agent ends the attempt.
-/

namespace CallCenter.Queue

open Lib Store

/-! ## The team -/

def distribute : Go Unit := do
  let _ ← rpc .publish

def answered : Go Unit := do
  setState .active
  let _ ← rpc .publish

def offering : Go Unit := do
  if ← store .setAttemptOffering then
    setState .offering
    let _ ← rpc .publish
  else pure ()

def bridged : Go Unit := do
  if ← store .setAttemptBridged then
    setState .bridged
    let _ ← rpc .publish
  else pure ()

/-- `MissedAgent`: an agent with too many missed attempts goes on a break. -/
def missedAgent : Go Unit := do
  if ← readAttempt .maxNoAnswer then
    let _ ← rpc .setAgentBreakOut
  else pure ()
  setState .missed
  let _ ← rpc .publish

def missed : Go Unit := do
  let _ ← act .afterDistributeSchema
  if ← store .setAttemptMissed then missedAgent else pure ()

def cancelAgentAttempt : Go Unit := do
  if ← store .cancelAgentAttempt then missedAgent else pure ()

def cancelAttemptAndReleaseAgent : Go Unit := do
  if ← store .cancelAttemptAndReleaseAgent then
    let _ ← rpc .publish
  else pure ()

def cancel : Go Unit := do
  let _ ← act .afterDistributeSchema
  if ← store .setAttemptAbandonedWithParams then
    let _ ← rpc .publish
  else pure ()

/-- `MissedAgentAndWaitingAttempt`, and `…WithError`, whose event has the error. -/
def missedAgentAndWaitingAttempt : Go Unit := do
  if ← store .setAttemptMissedAgent then
    missedAgent
    act .clearAgent
  else pure ()

def waitingAgentAndWaitingAttempt : Go Unit := do
  if ← store .setAttemptWaitingAgent then
    let _ ← rpc .publish
    act .clearAgent
  else pure ()

/-- The agent did not take the call: missed, or free again. -/
def releaseAgentAndWait : Go Unit := do
  if ← readCall .agent .shouldMarkAsMissed then missedAgentAndWaitingAttempt
  else waitingAgentAndWaitingAttempt
  setState .waitAgent
  act .clearAgentCall

def setWrap : Go Unit := do
  let _ ← act .afterDistributeSchema
  if ← store .setAttemptResult then
    let _ ← rpc .publish
  else pure ()
  act .leavingMember

/-! ## The manager -/

def doDistributeSchema (q : QueueConfig) : Go Bool := do
  if q.doSchema then
    match ← act .doDistributeAttempt with
    | .failed | .confirm => pure true
    | .cancel =>
      let _ ← store .setDistributeCancel
      pure false
  else pure true

def abandoned : Go Unit := do
  let _ ← store .setAttemptAbandonedWithParams
  act .leavingMember

def setAttemptSuccess : Go Unit := do
  let _ ← store .setAttemptResult

def setAttemptAbandonedWithParams : Go Unit := do
  let _ ← store .setAttemptAbandonedWithParams

def sendAfterDistributeSchema : Go Bool := do
  match ← act .afterDistributeSchema with
  | some res =>
    if res.success then setAttemptSuccess else setAttemptAbandonedWithParams
    act .leavingMember
    pure true
  | none => pure false

def transferTo : Go Unit := do
  let _ ← store .transferredTo
  act .leavingMember

def transferFrom : Go Bool := do
  if ← rpc .getAgent then
    let _ ← store .transferredFrom
    if ← readAttempt .agentSet then
      let _ ← rpc .publish
    else pure ()
    let _ ← rpc .publish
    pure true
  else pure false

def doLeavingReporting : Go Bool := do
  let ok ← rpc .publish
  act .leavingMember
  pure ok

/-- `ReportingAttempt(id, *attempt.Callback(), true, false)`: whether it returned no
error. An attempt that is no longer in the cache has left. -/
def reportingAttempt : Go Bool := do
  if ← act .getAttempt then
    let _ ← act .afterDistributeSchema
    if ← store .callbackReporting then doLeavingReporting else pure false
  else
    if ← store .callbackReporting then rpc .publish else pure false

/-- The end of `Reporting`: the agent wraps up, or has to report in time. -/
def wrapOrProcess (q : QueueConfig) (transfer : Bool) : Go Unit := do
  let transfer := transfer && processingTransfer
  if ← orElse (pure (!q.processing || transfer)) (readAttempt .processTransfer) then setWrap
  else if ← store (.setAttemptReporting q.processingSec) then
    setState .processing
    let _ ← rpc .publish
  else pure ()

def reporting (q : QueueConfig) (agentSendReporting transfer : Bool) : Go Unit := do
  if ← andThen (pure q.waitChannelClose) (readAttempt .callback) then
    let _ ← reportingAttempt
  else
    let useDraft ← readAttempt .draft
    -- the report that has marked the channel is to leave the attempt
    if agentSendReporting && !useDraft then pure () else wrapOrProcess q transfer

/-! ## Calls -/

/-- `Reporting`, with what the agent's call says of the report and of a transfer. -/
def reportCall (q : QueueConfig) : Go Unit := do
  let reported ← readCall .agent .reportingAt
  let transferred ← readCall .agent .transferred
  reporting q reported transferred

/-- `TransferTo() != nil && TransferToAgentId() != nil && TransferFromAttemptId() != nil`. -/
def isTransferred (leg : CallLeg) : Go Bool :=
  andThen (readCall leg .transferTo)
    (andThen (readCall leg .transferToAgentId) (readCall leg .transferFromAttemptId))

/-- A call that was hung up by a transfer to another agent is replaced by the new one:
whether it was. -/
def receiveTransfer (leg : CallLeg) : Go Bool := do
  if ← isTransferred leg then
    if ← rpc (.getTransferredCall leg) then
      if ← readCall .transferred .hangupAt then pure false
      else
        let _ ← transferFrom
        act (.setCall leg)
        pure true
    else pure false
  else pure false

inductive CallTransfer where
  | forward | success | skip

/-- `transferResult`, for the member's call that was hung up. -/
def transferResult : Go CallTransfer := do
  if ← readCall .member .transferToAttemptId then
    transferTo
    pure .forward
  else if ← andThen (readCall .member .transferFrom)
      (orElse (readAttempt .processTransfer) (readCall .member .attendedTransfer)) then
    if ← rpc (.getTransferredCall .member) then
      act (.setCall .member)
      pure .success
    else pure .skip
  else pure .skip

/-- The agent's call is hung up after the member's, unless it has been already. -/
def hangupAgentCall : Go Unit := do
  if ← readCall .agent .hangupAt then pure ()
  else
    let _ ← rpc (.hangup .agent)
    let _ ← rpc (.waitForHangup .agent)

end CallCenter.Queue
