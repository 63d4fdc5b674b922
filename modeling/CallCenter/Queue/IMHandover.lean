import CallCenter.IM.Client
import CallCenter.Queue.IMTransfer

/-!
# Handing a conversation over

The gateway has accepted the transfer of a conversation from attempt A to attempt B. Three parties
go on from there in any order. B's goroutine completes the transfer on A. The event loop receives
the gateway's event, which names A's agent, and hands it to the sessions of the thread. A's
goroutine leaves its loop when A is marked transferred, but also when its session is cancelled.

`finalizeAttempt` asks first whether A is transferred and then, separately, for the pending target,
which it cancels. So A must not get there before B has completed the transfer, and the event loop
can send it there.
-/

namespace CallCenter.Queue

open IM Lib

def attemptResultTransfer : String := "transfer"

def attemptResultAgentTimeout : String := "agent_timeout"

def attemptResultClientTimeout : String := "client_timeout"

def attemptResultDialogTimeout : String := "dialog_timeout"

inductive Leg where
  | a | b

/-- A's goroutine: in `handleAgentInteraction`, then through `finalizeAttempt`. -/
inductive SourcePc where
  | interacting
  | checkTransferred
  | checkPending
  | cancelTarget (toId : Int)
  | reporting
  | finalised
  deriving DecidableEq

inductive TargetPc where
  | awaitingReply | completing | bridged | ended
  deriving DecidableEq

structure HandoverWorld where
  targetId : Int
  source : IMTransfer
  /-- Is A still in `membersCache`? -/
  cached : Bool
  sessA : Session
  sessB : Session
  /-- Messages of the gateway not yet received. -/
  events : List IMMessage
  /-- The message the event loop is at, with the sessions still to be handed to. -/
  handling : Option (IMMessage × List Leg)
  pcA : SourcePc
  pcB : TargetPc
  result : Option String
  cancels : List Int

inductive IdleTimeout where
  | agent | client | dialog
  deriving DecidableEq

def IdleTimeout.result : IdleTimeout → String
  | .agent => attemptResultAgentTimeout
  | .client => attemptResultClientTimeout
  | .dialog => attemptResultDialogTimeout

inductive HandoverLabel where
  /-- The reply of `Transfer` reaches B, with the member B's agent has become. -/
  | reply (memberId userId : String)
  | complete
  | targetEnds
  | emit (msg : IMMessage)
  | receive
  | handle (now : Int)
  | seesTransferred
  | seesDone
  | agentCloses
  | idle (t : IdleTimeout)
  /-- The next step of A's `finalizeAttempt`; `leaves` tells whether the report takes A
  out of `membersCache`. -/
  | finalize (leaves : Bool)

def threadSessions (w : HandoverWorld) (threadId : String) : List Leg :=
  (if w.sessA.threadId = threadId then [.a] else [])
    ++ (if w.sessB.threadId = threadId then [.b] else [])

def finalizeStep (w : HandoverWorld) (leaves : Bool) : SourcePc → Option HandoverWorld
  | .interacting | .finalised => none
  | .checkTransferred =>
    if w.source.transferred then
      some { w with result := some attemptResultTransfer, pcA := .reporting }
    else some { w with pcA := .checkPending }
  | .checkPending =>
    let toId := w.source.pendingIMTransfer
    some { w with pcA := if toId ≠ 0 then .cancelTarget toId else .reporting }
  | .cancelTarget toId => some { w with cancels := toId :: w.cancels, pcA := .reporting }
  | .reporting => some { w with cached := w.cached && !leaves, pcA := .finalised }

def handoverStep (w : HandoverWorld) : HandoverLabel → Option HandoverWorld
  | .reply memberId userId =>
    if w.pcB = .awaitingReply then
      some { w with sessB := w.sessB.setAgent memberId userId, pcB := .completing }
    else none
  | .complete =>
    if w.pcB = .completing then
      some { w with
        source := if w.cached then w.source.completeIMTransfer else w.source
        pcB := .bridged }
    else none
  | .targetEnds =>
    if w.pcB = .bridged then
      some { w with
        source := if w.cached then w.source.releaseIMTransfer w.targetId else w.source
        pcB := .ended }
    else none
  | .emit msg => some { w with events := w.events ++ [msg] }
  | .receive =>
    match w.handling, w.events with
    | none, msg :: rest =>
      some { w with events := rest, handling := some (msg, threadSessions w msg.threadId) }
    | _, _ => none
  | .handle now =>
    match w.handling with
    | none => none
    | some (_, []) => some { w with handling := none }
    | some (msg, .a :: legs) =>
      some { w with sessA := handleEvent w.sessA msg now, handling := some (msg, legs) }
    | some (msg, .b :: legs) =>
      some { w with sessB := handleEvent w.sessB msg now, handling := some (msg, legs) }
  | .seesTransferred =>
    if w.pcA = .interacting ∧ w.source.transferred then some { w with pcA := .checkTransferred }
    else none
  | .seesDone =>
    if w.pcA = .interacting ∧ w.sessA.done then some { w with pcA := .checkTransferred } else none
  | .agentCloses =>
    if w.pcA = .interacting then some { w with pcA := .checkTransferred } else none
  | .idle t =>
    if w.pcA = .interacting then
      some { w with result := some t.result, pcA := .checkTransferred }
    else none
  | .finalize leaves => finalizeStep w leaves w.pcA

/-- The moment the gateway accepts the transfer to B: A is bridged and pending to B, and
the gateway's event joins whatever messages are still to be received. -/
def HandoverWorld.start (targetId : Int) (sessA sessB : Session) (backlog : List IMMessage)
    (event : IMMessage) : HandoverWorld where
  targetId := targetId
  source := ⟨true, targetId, false⟩
  cached := true
  sessA := sessA
  sessB := sessB
  events := backlog ++ [event]
  handling := none
  pcA := .interacting
  pcB := .awaitingReply
  result := none
  cancels := []

end CallCenter.Queue
