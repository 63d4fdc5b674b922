import CallCenter.Queue.IMTransfer
import CallCenter.Queue.Settings

/-!
# Joining

Eight operations of the queue manager bring a new attempt to life. Each has the store insert a row,
and then comes a series of lookups and remote calls until the queue's goroutine is started. In
between, `CreateAttemptIfNotExists` puts the attempt into `membersCache` and the wait group.

Whatever fails is an outcome here, given from outside. Failures are undone in three ways:
`DistributeCallToQueueCancel` puts the row into the state `leaving`, `Abandoned` also leaves the
attempt, and `LeavingMember` leaves it. Which of them an error meets differs from one operation to
the next, and some meet none.
-/

namespace CallCenter.Queue

open Store

structure AppError where
  id : String
  statusCode : Nat
  deriving DecidableEq

inductive JoinEnd where
  | error (e : AppError)
  | panic

/-- The row of the attempt: in the state it was inserted with (`waiting`, `active` or `1`), or in
the state `leaving`. -/
inductive JoinRow where
  | inserted | leaving

/-- The state an operation works on; the row is the one its store function inserts. -/
structure JoinWorld where
  row : Option JoinRow
  membersCache : List Int
  waitGroup : Int
  /-- The transfer fields of the attempt that `TransferIM` is asked to transfer. -/
  source : IMTransfer

/-! ## Outcomes -/

structure Created where
  id : Int
  listCommunicationId : Option Int
  agentId : Option Int
  agentUpdatedAt : Option Int
  hasResource : Bool
  /-- The variables `inviter_channel_id` and `inviter_user_id` are there. -/
  inviterChannelId : Bool
  inviterUserId : Bool

inductive CreateReply where
  | failed (e : AppError)
  /-- `cc_distribute_direct_member_to_queue` has inserted the row and then found no team of the
  agent, so that it returns nothing. -/
  | lost (e : AppError)
  | created (c : Created)

structure Outcomes where
  create : CreateReply
  getQueue : Option AppError
  inboundCallQueue : Option AppError
  connectCall : Option AppError
  getAgent : Option AppError
  getAttemptAgent : Option AppError
  /-- `GetQueue` of `DistributeAttempt`, with the type of the queue. -/
  getAttemptQueue : Except AppError QueueType
  getCall : Bool
  getTeam : Option AppError
  getResource : Bool
  attemptWeight : Option AppError
  distributeCallToQueueCancel : Bool
  setAttemptAbandoned : Bool
  setBarred : Bool

structure JoinAttempt where
  id : Int
  memberCallId : Bool
  barred : Bool
  hasResource : Bool
  agent : Bool
  inviterChannelId : Bool
  inviterUserId : Bool

structure JoinMember where
  created : Created
  memberCallId : Bool
  hasAgent : Bool

structure TransferSource where
  domainId : Int
  channel : Channel
  hasThread : Bool
  agentId : Option Int
  bridged : Bool
  destinationOk : Bool

/-- A request to transfer; a target of zero is none. -/
structure TransferRequest where
  source : Option TransferSource
  domainId : Int
  agentId : Int

def TransferRequest.invalid (r : TransferRequest) : Option AppError :=
  match r.source with
  | none => some ⟨"qm.transfer_im.valid.attempt", 404⟩
  | some s =>
    if s.domainId ≠ r.domainId then some ⟨"qm.transfer_im.valid.attempt", 404⟩
    else if s.channel ≠ .im then some ⟨"qm.transfer_im.valid.channel", 400⟩
    else if !s.hasThread then some ⟨"qm.transfer_im.valid.thread", 400⟩
    else if s.agentId.isNone || !s.bridged then some ⟨"qm.transfer_im.valid.state", 409⟩
    else if r.agentId ≠ 0 ∧ some r.agentId = s.agentId then
      some ⟨"qm.transfer_im.valid.agent", 400⟩
    else if !s.destinationOk then some ⟨"qm.transfer_im.destination", 500⟩
    else none

/-! ## The parts -/

abbrev Join := ExceptT JoinEnd (StateM JoinWorld)

namespace Join

/-- `return nil, err`. -/
def fail {α : Type} (e : AppError) : Join α := throw (.error e)

def panics {α : Type} : Join α := throw .panic

/-- `if err != nil { undo; return nil, err }`. -/
def onError {α : Type} (p : Join α) (undo : Join Unit) : Join α :=
  tryCatch p fun
    | .error e => do undo; fail e
    | .panic => panics

/-- `if err != nil { log }`. -/
def logged (p : Join Unit) : Join Unit :=
  tryCatch p fun
    | .error _ => pure ()
    | .panic => panics

/-- The error of a call that may fail. -/
def check (err : Option AppError) : Join Unit :=
  match err with
  | none => pure ()
  | some e => fail e

section Parts

variable (o : Outcomes)

def createRow : Join Created :=
  match o.create with
  | .failed e => fail e
  | .lost e => do
    modify fun w => { w with row := some .inserted }
    fail e
  | .created c => do
    modify fun w => { w with row := some .inserted }
    pure c

/-- `DistributeCallToQueueCancel`; its error is printed. -/
def cancelRow : Join Unit :=
  modify fun w => if o.distributeCallToQueueCancel then { w with row := some .leaving } else w

def createAttemptIfNotExists (m : JoinMember) : Join JoinAttempt := do
  if m.created.id ∈ (← get).membersCache then panics
  modify fun w => { w with
    membersCache := m.created.id :: w.membersCache, waitGroup := w.waitGroup + 1 }
  if m.hasAgent && o.getAttemptAgent.isSome then panics
  pure {
    id := m.created.id
    memberCallId := m.memberCallId
    barred := m.created.listCommunicationId.isSome
    hasResource := m.created.hasResource
    agent := m.hasAgent
    inviterChannelId := m.created.inviterChannelId
    inviterUserId := m.created.inviterUserId }

def leavingMember (id : Int) : Join Unit :=
  modify fun w =>
    if id ∈ w.membersCache then
      { w with membersCache := w.membersCache.filter (· ≠ id), waitGroup := w.waitGroup - 1 }
    else w

def abandoned (id : Int) : Join Unit := do
  modify fun w => if o.setAttemptAbandoned then { w with row := some .leaving } else w
  leavingMember id

/-- What every operation does when the queue refuses the attempt. -/
def abandonAndLeave (id : Int) : Join Unit := do
  abandoned o id
  leavingMember id

end Parts

/-! ### The queues -/

def errorResourceRequired : AppError := ⟨"queue.distribute.invalid_resource.error", 401⟩

def errorCallRequired : AppError := ⟨"queue.distribute.invalid_call.error", 401⟩

def errorAgentRequired : AppError := ⟨"queue.distribute.invalid_agent.error", 400⟩

def errorVariableRequired : AppError := ⟨"queue.distribute.invalid_variable.error", 400⟩

def errorNotImplement : AppError := ⟨"dialing.queue.new_queue.app_error", 500⟩

section Queues

variable (o : Outcomes) (a : JoinAttempt)

def requireResource : Join Unit :=
  if a.hasResource && o.getResource then pure () else fail errorResourceRequired

def requireAgent : Join Unit := if a.agent then pure () else fail errorAgentRequired

def derefMemberCallId : Join Unit := if a.memberCallId then pure () else panics

def requireCall : Join Unit := if o.getCall then pure () else fail errorCallRequired

/-- `if attempt.MemberCallId() == nil`. -/
def requireMemberCallId : Join Unit := if a.memberCallId then pure () else fail errorCallRequired

def requireVariable (found : Bool) : Join Unit :=
  if found then pure () else fail errorVariableRequired

def queueDistributeAttempt : QueueType → Join Unit
  | .offlineCall | .previewCall | .progressiveCall => do
    requireResource o a
    requireAgent a
    check o.getTeam
  | .ivrCall | .predictCall => requireResource o a
  | .inboundCall => do
    derefMemberCallId a
    requireCall o
  | .inboundChat => do
    requireMemberCallId a
    requireVariable a.inviterChannelId
    requireVariable a.inviterUserId
  | .agentTask => do
    requireAgent a
    check o.getTeam
  | .outboundTask => pure ()
  | .inboundIM => derefMemberCallId a
  | .outboundCall => fail errorNotImplement

/-- `Manager.DistributeAttempt`. `GetQueue` fails for a queue of a type that `NewQueue` does not
know. -/
def distributeAttempt : Join Unit :=
  match o.getAttemptQueue with
  | .error e => fail e
  | .ok type =>
    if type = .outboundCall then fail errorNotImplement
    else if a.barred then do
      modify fun w => if o.setBarred then { w with row := some .leaving } else w
      leavingMember a.id
    else onError (queueDistributeAttempt o a type) (abandonAndLeave o a.id)

/-- `if _, err = qm.DistributeAttempt(attempt); err != nil { cancel; return nil, err }`. -/
def distributeOrCancel : Join Unit := onError (distributeAttempt o a) (cancelRow o)

end Queues

/-! ## The operations -/

section Operations

variable (o : Outcomes)

def distributeCall : Join Unit := do
  let res ← createRow o
  check o.getQueue
  onError (check o.inboundCallQueue) (cancelRow o)
  let attempt ← createAttemptIfNotExists o ⟨{ res with listCommunicationId := none }, true, false⟩
  distributeOrCancel o attempt

def distributeCallToAgent : Join Unit := do
  let res ← createRow o
  check o.getAgent
  onError (check o.connectCall) (cancelRow o)
  let attempt ← createAttemptIfNotExists o ⟨res, true, true⟩
  onError (requireCall o) (abandonAndLeave o attempt.id)

/-- The queue is an `OutboundCallQueue`, and the agent is set on the attempt. -/
def outboundCall : Join Unit := do
  let res ← createRow o
  check o.getAgent
  onError (check o.connectCall) (cancelRow o)
  let attempt ← createAttemptIfNotExists o ⟨res, true, true⟩
  onError (do requireCall o; check o.getTeam) (abandonAndLeave o attempt.id)

def distributeTaskToAgent : Join Unit := do
  let res ← createRow o
  check o.getAgent
  let attempt ← createAttemptIfNotExists o ⟨res, false, true⟩
  onError (check o.getTeam) (abandonAndLeave o attempt.id)

def distributeChatToQueue : Join Unit := do
  let res ← createRow o
  let attempt ← createAttemptIfNotExists o ⟨res, true, false⟩
  distributeOrCancel o attempt

def startIMAttempt (res : Created) (agentId : Option Int) : Join Unit := do
  let attempt ← createAttemptIfNotExists o
    ⟨res, true, agentId.isSome && res.agentUpdatedAt.isSome⟩
  distributeOrCancel o attempt

def distributeIMDestination : Join Unit := do
  let res ← createRow o
  startIMAttempt o res none

/-- `rejoins`: the thread has a bridged session, and its attempt is cached. -/
def distributeIMToQueue (rejoins : Bool) : Join Unit :=
  if rejoins then pure () else distributeIMDestination o

/-- Errors after the insertion of the row are logged, and the attempt is returned. -/
def distributeDirectMember : Join Unit := do
  let res ← createRow o
  let attempt ← createAttemptIfNotExists o
    ⟨res, false, res.agentId.isSome && res.agentUpdatedAt.isSome⟩
  logged (distributeAttempt o attempt)

def reserveTransfer : Join Unit := do
  match (← get).source.reserveIMTransfer with
  | none => fail ⟨"qm.transfer_im.valid.pending", 409⟩
  | some s => modify fun w => { w with source := s }

def distributeIMTransfer (agentId : Int) : Join Unit :=
  if agentId ≠ 0 then do
    let res ← createRow o
    startIMAttempt o res (some agentId)
  else do
    check o.attemptWeight
    distributeIMDestination o

def transferIM (r : TransferRequest) (toId : Int) : Join Unit := do
  check r.invalid
  reserveTransfer
  onError (distributeIMTransfer o r.agentId)
    (modify fun w => { w with source := w.source.releaseIMTransfer 0 })
  modify fun w => { w with source := w.source.setIMTransferTo toId }

end Operations

end Join

inductive JoinRequest where
  | call | callToAgent | outboundCall | taskToAgent | chat
  | im (rejoins : Bool)
  | directMember
  | transferIM (r : TransferRequest)

def Outcomes.newId (o : Outcomes) : Int :=
  match o.create with
  | .created c => c.id
  | _ => 0

def JoinRequest.run (o : Outcomes) : JoinRequest → Join Unit
  | call => Join.distributeCall o
  | callToAgent => Join.distributeCallToAgent o
  | outboundCall => Join.outboundCall o
  | taskToAgent => Join.distributeTaskToAgent o
  | chat => Join.distributeChatToQueue o
  | im rejoins => Join.distributeIMToQueue o rejoins
  | directMember => Join.distributeDirectMember o
  | transferIM r => Join.transferIM o r o.newId

def JoinWorld.start (membersCache : List Int) (waitGroup : Int) (source : IMTransfer) :
    JoinWorld :=
  ⟨none, membersCache, waitGroup, source⟩

/-- **The property.** It does not panic; and if it returns an error, a row that was inserted is in
the state `leaving`, and its attempt is neither in the cache nor in the wait group. -/
def LeavesNothing (id waitGroup : Int) : Except JoinEnd Unit × JoinWorld → Prop
  | (.ok (), _) => True
  | (.error .panic, _) => False
  | (.error (.error _), w) =>
    ∀ r, w.row = some r → r = .leaving ∧ id ∉ w.membersCache ∧ w.waitGroup = waitGroup

end CallCenter.Queue
