import CallCenter.Lib.Program
import CallCenter.Store.Rows

/-!
# What a queue's goroutine asks for

The goroutine of a queue is a program over these actions: store calls and remote calls with their
results, what its selects receive, what it reads of the calls, the conversation, the task and the
attempt it shares with other goroutines, and its changes of the attempt itself. No goroutine decides
by anything else. A read is answered by the surroundings each time it is made.
-/

namespace CallCenter.Queue

open Lib Store

inductive CallState where
  | new | invite | ringing | progress | accept | join | leaving | bridge | hold
  | detectAmd | hangup
  deriving DecidableEq

inductive ChatState where
  | idle | invite | declined | bridge | close
  deriving DecidableEq

inductive TaskState where
  | idle | bridged | closed
  deriving DecidableEq

/-! ## Selects -/

inductive CallSignal where
  | state (s : CallState) | hangup
  deriving DecidableEq

inductive MemberSignal where
  | cancel | state (s : CallState) | hangup
  deriving DecidableEq

inductive OutboundSignal where
  | cancel | state (s : CallState)
  deriving DecidableEq

inductive LegsSignal where
  | agent (s : CallState) | member (s : CallState)
  deriving DecidableEq

inductive OfferSignal where
  | cancel | agent (s : CallState) | member (s : CallState)
  deriving DecidableEq

/-- A call that waits for an agent: the timer, the context, `attempt.Cancel()`,
`mCall.State()`, and the channel of `attempt.On(AttemptHookDistributeAgent)`. -/
inductive CallWait where
  | timeout | contextDone | cancel | member (s : CallState) | agents
  deriving DecidableEq

inductive ChatWait where
  | cancel | contextDone | agents | timeout
  deriving DecidableEq

inductive ChatSignal where
  | cancel | timeout | contextDone | state (s : ChatState)
  deriving DecidableEq

inductive IMWait where
  | cancel | contextDone | sessionDone | agents | timeout
  deriving DecidableEq

inductive IMSignal where
  | cancel | imTransferred | sessionDone | task (s : TaskState) | inviteTimeout | timeout
  deriving DecidableEq

inductive TaskSignal where
  | state (s : TaskState) | timeout
  deriving DecidableEq

inductive Select where
  | call | member | outbound | legs | offer | waitCall | waitIM | im | task
  /-- The selects of a chat, with what the goroutine holds there: `agent != nil`. -/
  | waitChat (agent : Bool)
  | chat (agent : Bool)
  deriving DecidableEq

@[reducible] def Select.Signal : Select → Type
  | call => CallSignal
  | member => MemberSignal
  | outbound => OutboundSignal
  | legs => LegsSignal
  | offer => OfferSignal
  | waitCall => CallWait
  | waitChat _ => ChatWait
  | chat _ => ChatSignal
  | waitIM => IMWait
  | im => IMSignal
  | task => TaskSignal

/-- The selects among whose channels is that of the agents. -/
def Select.waits : Select → Bool
  | waitCall | waitChat _ | waitIM => true
  | _ => false

/-! ## Calls -/

/-- The calls of a goroutine: `mCall`, `agentCall` (or `call`), and `nc`, what
`GetTransferredCall` has returned. -/
inductive CallLeg where
  | member | agent | transferred
  deriving DecidableEq

inductive StoreCall where
  /-- `again` is the second place of the IM queue, which only logs a failure. -/
  | setFindAgentState (again : Bool)
  | setAttemptOffering
  | setAttemptBridged
  /-- `cc_attempt_leaving`. -/
  | setAttemptResult
  /-- `cc_attempt_leaving` with the result `missed`. -/
  | setAttemptMissed
  | setAttemptAbandonedWithParams
  | setAttemptReporting (deadlineSec : Nat)
  | setAttemptMissedAgent
  | setAttemptWaitingAgent
  | cancelAgentAttempt
  | cancelAttemptAndReleaseAgent
  /-- `cc_attempt_end_reporting`. -/
  | callbackReporting
  | transferredTo
  | transferredFrom
  | setDistributeCancel
  | losePredictAttempt
  deriving DecidableEq

/-- Calls to the call, chat, flow and gateway services of which the goroutine sees at
most whether they failed. -/
inductive Rpc where
  | newCall | resourceTake | invite (leg : CallLeg) | bridge | hangup (leg : CallLeg)
  | waitForHangup (leg : CallLeg)
  /-- For the call that the hangup of this leg names. -/
  | getTransferredCall (leg : CallLeg)
  | getAgent | setAgentBreakOut
  | newConversation | leaveChat | closeChat | removeConversation
  | addMember | upgradePreview | transferMember | removePreview | removeMember
  | startSyncFlow
  | publish
  deriving DecidableEq

/-- `AnswerPredictAndFindAgent`: the caller does not see whether the agent was kept. -/
inductive AnswerReply where
  | failed | released | kept
  deriving DecidableEq

/-- `DoDistributeAttempt`: a bad result counts as a confirmation. -/
inductive DistributeReply where
  | failed | cancel | confirm

/-- What `AfterDistributeSchema` returns: `Status == success`, `Type == retry`. -/
structure SchemaResult where
  success : Bool
  retry : Bool
  deriving DecidableEq

/-- `FlipAttemptResource`: a resource was found, and may be called. -/
inductive FlipReply where
  | failed | noResource | flipped (allowCall : Bool)
  deriving DecidableEq

/-- `conv.InviteInternal` and `sess.GivePreviewUser`, whose errors are told apart:
`ErrChannelNotFound` for a chat, "already a member" for a thread. -/
inductive InviteReply where
  | ok | special | failed
  deriving DecidableEq

/-! ## Reads -/

/-- Questions about a call; times are asked to be set (`> 0`), pointers not to be nil. -/
inductive CallField where
  | hangupAt | hangupCause | bridgeAt | acceptAt | billSeconds | answered | err
  | transferTo | transferToAgentId | transferFromAttemptId | transferToAttemptId
  | transferFrom | attendedTransfer | transferred | reportingAt | shouldMarkAsMissed
  | outbound | hasProcessAmd | longEnough
  deriving DecidableEq

inductive ConvField where
  | active | bridgedAt | agentStopAt | causeTransfer | causeClientLeave | causeEmpty
  | reportingAt | idleAgent | idleClient | idleDialog
  deriving DecidableEq

inductive TaskField where
  | declined | reportingAt | bridgedAt
  deriving DecidableEq

inductive AttemptField where
  | callback | draft | processTransfer | canceled | stateBridged | bridgedAt
  | agentSet | maxNoAnswer | lastSeq
  | imTransferred | pendingIMTransfer | transferInitiator | userJoined | hasPreview
  | idleAgent | idleClient | idleDialog
  deriving DecidableEq

inductive Read where
  | call (leg : CallLeg) (f : CallField)
  | conv (f : ConvField)
  | task (f : TaskField)
  | attempt (f : AttemptField)
  deriving DecidableEq

/-! ## Actions -/

inductive Action where
  | setState (s : State)
  /-- `attempt.agent = nil`. -/
  | clearAgent
  | on
  | off
  | distributeAgent
  | newAgentCall
  /-- `agentCall = nil`. -/
  | clearAgentCall
  /-- The transferred call takes the place of this leg. -/
  | setCall (leg : CallLeg)
  | store (c : StoreCall)
  | answerPredictAndFindAgent
  /-- `ConfirmAttempt`: no error and some rows. -/
  | confirmAttempt
  | flipAttemptResource
  | rpc (c : Rpc)
  | inviteInternal
  | givePreview
  | doDistributeAttempt
  | afterDistributeSchema
  | getTeam
  | read (r : Read)
  | select (s : Select)
  | leavingMember
  | getAttempt
  /-- `panic`: no reply. -/
  | crash
  deriving DecidableEq

@[reducible] def Action.Reply : Action → Type
  | setState _ | clearAgent | on | off | distributeAgent | leavingMember => Unit
  | newAgentCall | clearAgentCall | setCall _ => Unit
  -- `true` is success.
  | store _ | rpc _ | confirmAttempt | getTeam | getAttempt => Bool
  | answerPredictAndFindAgent => AnswerReply
  | flipAttemptResource => FlipReply
  | inviteInternal | givePreview => InviteReply
  | doDistributeAttempt => DistributeReply
  -- `none` also when the queue has no schema.
  | afterDistributeSchema => Option SchemaResult
  | read _ => Bool
  | select s => s.Signal
  | crash => Empty

abbrev Go (α : Type) := Prog Action.Reply α

abbrev act (a : Action) : Go a.Reply := Prog.request a

abbrev store (c : StoreCall) : Go Bool := act (.store c)

abbrev rpc (c : Rpc) : Go Bool := act (.rpc c)

abbrev setState (s : State) : Go Unit := act (.setState s)

abbrev readCall (leg : CallLeg) (f : CallField) : Go Bool := act (.read (.call leg f))

abbrev readConv (f : ConvField) : Go Bool := act (.read (.conv f))

abbrev readTask (f : TaskField) : Go Bool := act (.read (.task f))

abbrev readAttempt (f : AttemptField) : Go Bool := act (.read (.attempt f))

/-- `a && b` with the second operand asked for only when needed. -/
def andThen (a b : Go Bool) : Go Bool := do
  if ← a then b else pure false

def orElse (a b : Go Bool) : Go Bool := do
  if ← a then pure true else b

def negate (a : Go Bool) : Go Bool := do
  if ← a then pure false else pure true

structure QueueConfig where
  /-- Of the manager: reports wait for the channel to be closed. -/
  waitChannelClose : Bool
  /-- The queue has a schema to run before the attempt. -/
  doSchema : Bool
  processing : Bool
  processingSec : Nat
  retryAbandoned : Bool
  processingWithoutAnswer : Bool
  schema : Bool
  transferAbandoned : Bool
  maxIdleAgent : Nat
  maxIdleClient : Nat
  maxIdleDialog : Nat
  transferAgent : Bool
  transferFrom : Bool
  /-- The invite has a timeout, so that the agent gets a preview of the thread. -/
  invitePreview : Bool
  deriving Inhabited

def processingTransfer : Bool := false

end CallCenter.Queue
