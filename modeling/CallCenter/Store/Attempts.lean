import CallCenter.Store.Rows

/-!
# The store functions on attempts

Each function of the database that moves an attempt through its life updates the row of the attempt,
and with the row so returned the row of the member, the row of the agent's channel, or both.
`onAttempt` is that outline; a function whose `WHERE` finds no row does nothing more. Only
`cc_attempt_end_reporting` asks for the attempt's state, and only it asks for the agent's other
attempts. Every function takes the time `now()` of its transaction.
-/

namespace CallCenter.Store

open Lib

structure Db where
  attempts : Table Attempt.id
  members : Table Member.id
  channels : Table AgentChannel.key
  agents : Table Agent.id
  teams : Table Team.id
  queues : Table Queue.id
  history : List Attempt
  /-- `flow.calendar_timezone_offsets`: the zone that is the first of an entry's names. -/
  zones : Int → Option Zone
  timeZone : Zone

/-- Empty tables, in a session on UTC. -/
def Db.empty : Db :=
  ⟨.empty, .empty, .empty, .empty, .empty, .empty, [], fun _ => none, .fixed 0⟩

def Db.zoneOf (db : Db) (m : Member) : Option Zone := m.sysOffsetId.bind db.zones

def sec (n : Int) : Int := n * 1000

/-! ## Row triggers -/

/-- `cc_member_set_sys_destinations_tg`, run before an update whose `communications`
differ from the old ones. -/
def ccMemberSetSysDestinationsTg (now : Int) (old new : Member) : Member :=
  match old.communications, new.communications with
  | some before, some after =>
    if after ≠ before then
      let new := if new.stopCause.isSome then { new with readyAt := none } else new
      if new.stopAt.isNone && (after.filter Communication.isOpen).isEmpty then
        { new with stopAt := some now, stopCause := some "no_communications" }
      else new
    else new
  | _, _ => new

/-- `cc_set_agent_channel_change_status`, run before an update of the state. -/
def ccSetAgentChannelChangeStatus (old new : AgentChannel) : AgentChannel :=
  if old.state ≠ new.state then
    if new.state = .waiting then { new with queueId := none, attemptId := none } else new
  else new

/-! ## Updates of one row -/

namespace Db

/-- `UPDATE cc_member_attempt SET f WHERE id = … AND p RETURNING *`, and `rest` on the
row as it was and as it is returned. -/
def onAttempt (db : Db) (id : Int) (p : Attempt → Bool) (f : Attempt → Attempt)
    (rest : Attempt → Attempt → Db → Db) : Db :=
  match db.attempts.get? id with
  | none => db
  | some a =>
    if p a then rest a (f a) { db with attempts := db.attempts.replace (f a) } else db

def updateMember (db : Db) (now : Int) (id : Option Int) (f : Member → Member) : Db :=
  { db with members := match id.bind db.members.get? with
    | none => db.members
    | some m => db.members.replace (ccMemberSetSysDestinationsTg now m (f m)) }

def updateChannel (db : Db) (agentId : Option Int) (channel : Channel)
    (f : AgentChannel → AgentChannel) : Db :=
  { db with channels := match agentId.bind fun id => db.channels.get? (id, channel) with
    | none => db.channels
    | some c => db.channels.replace (ccSetAgentChannelChangeStatus c (f c)) }

end Db

/-! ## The member's side of a finished attempt -/

/-- Is there another try: another number, or an attempt below the maximum? -/
def retriesLeft (perNumber : Bool) (maxAttempts : Int) (attempt : Attempt) (m : Member) : Bool :=
  if perNumber then
    attempt.waitingOtherNumbers > 0
      || (maxAttempts > 0 && m.attemptsOf attempt.communicationIdx + 1 < maxAttempts)
  else maxAttempts > 0 && m.attempts + 1 < maxAttempts

/-- `not result in (…)`, which a `NULL` result does not satisfy. -/
def resultNotIn (results : List String) (attempt : Attempt) : Bool :=
  attempt.result.any fun r => r ∉ results

/-- The number was tried as often as the queue allows for one number. -/
def numberUsedUp (perNumber : Bool) (maxAttempts : Int) (attempt : Attempt) (m : Member) : Bool :=
  perNumber && m.attemptsOf attempt.communicationIdx + 1 ≥ maxAttempts

/-- The dialled communication in `base`, written from its value in the member with one
more attempt. Setting a path of a document to `NULL` gives `NULL`: so it is when the
member has no such communication. -/
def dialled (m : Member) (base : Option (List Communication)) (attempt : Attempt)
    (lastActivityAt stopAt : Option Int) : Option (List Communication) :=
  base.bind fun cs => (m.communications.bind (·[attempt.communicationIdx]?)).map fun c =>
    cs.set attempt.communicationIdx { c with
      lastActivityAt := lastActivityAt
      attemptId := some attempt.id
      attempts := some (m.attemptsOf attempt.communicationIdx + 1)
      stopAt := stopAt.or c.stopAt }

/-- `case when vars notnull then coalesce(old, '{}') || vars else old end`. -/
def mergeVars (old vars : Option Vars) : Option Vars :=
  match vars with
  | none => old
  | some v => some ((old.getD []).merge v)

/-! ## Finishing an attempt -/

structure AbandonedArgs where
  id : Int
  maxCount : Int
  nextAfter : Int
  vars : Option Vars
  perNumber : Bool
  excludeDest : Bool
  redial : Bool
  description : Option String
  stickyAgentId : Option Int

/-- `case when offering_at isnull and resource_id notnull then 'failed' else 'abandoned' end`. -/
def abandonedResult (a : Attempt) : String :=
  if a.offeringAt.isNone && a.resourceId.isSome then "failed" else "abandoned"

def ccAttemptAbandoned (now : Int) (p : AbandonedArgs) (db : Db) : Db :=
  db.onAttempt p.id (fun _ => true)
    (fun a => { a with
      leavingAt := some now
      lastStateChange := now
      result := some (abandonedResult a)
      state := .leaving
      description := p.description.or a.description })
    fun _ attempt db => db.updateMember now attempt.memberId fun m =>
      let again := m.stopCause.isSome || retriesLeft p.perNumber p.maxCount attempt m
      { m with
        lastAgent := attempt.agentId.or m.lastAgent
        stopAt := if again then m.stopAt else attempt.leavingAt
        stopCause := if again then m.stopCause else attempt.result
        readyAt := some (now + sec p.nextAfter)
        communications := dialled m m.communications attempt
          (if p.redial then some 0 else attempt.leavingAt)
          (if p.excludeDest || numberUsedUp p.perNumber p.maxCount attempt m then some now else
            none)
        vars := mergeVars m.vars p.vars
        attempts := m.attempts + 1
        agentId := p.stickyAgentId.or m.agentId }

structure LeavingArgs where
  id : Int
  result : String
  agentHoldSec : Int
  vars : Option Vars
  maxAttempts : Int
  waitBetweenRetries : Int
  perNumber : Bool
  description : Option String
  stickyAgentId : Option Int

/-- `case when agent_hold_sec_ > 0 then now() + … else null end`. -/
def holdUntil (now agentHoldSec : Int) : Option Int :=
  if agentHoldSec > 0 then some (now + sec agentHoldSec) else none

def ccAttemptLeaving (now : Int) (p : LeavingArgs) (db : Db) : Db :=
  db.onAttempt p.id (fun _ => true)
    (fun a => { a with
      leavingAt := some now
      result := some p.result
      state := .leaving
      description := p.description.or a.description })
    fun _ attempt db =>
      (db.updateMember now attempt.memberId fun m =>
        let again := m.stopAt.isSome || (resultNotIn ["success", "cancel"] attempt
          && retriesLeft p.perNumber p.maxAttempts attempt m)
        { m with
          lastAgent := attempt.agentId.or m.lastAgent
          stopAt := if again then m.stopAt else attempt.leavingAt
          stopCause := if again then m.stopCause else attempt.result
          readyAt := some (now + sec p.waitBetweenRetries)
          communications := dialled m m.communications attempt attempt.leavingAt
            (if numberUsedUp p.perNumber p.maxAttempts attempt m then some now else none)
          attempts := m.attempts + 1
          vars := mergeVars m.vars p.vars
          agentId := p.stickyAgentId.or m.agentId }).updateChannel attempt.agentId attempt.channel
      fun c => { c with
        state := if p.agentHoldSec > 0 then .wrapTime else .waiting
        joinedAt := now
        noAnswers := if attempt.bridgedAt.isSome then 0 else c.noAnswers + 1
        timeout := holdUntil now p.agentHoldSec }

/-- `cc_attempt_cancel_release_agent`: the attempt leaves and the agent is free, and the
member's row is not touched. -/
def ccAttemptCancelReleaseAgent (now id : Int) (db : Db) : Db :=
  db.onAttempt id (fun _ => true)
    (fun a => { a with
      leavingAt := some now
      lastStateChange := now
      result := some (abandonedResult a)
      state := .leaving })
    fun _ attempt db => db.updateChannel attempt.agentId attempt.channel fun c => { c with
      state := .waiting
      joinedAt := attempt.lastStateChange
      timeout := none
      attemptId := none
      queueId := none }

def ccAttemptAgentCancel (now id : Int) (result : String) (agentStatus : State)
    (agentHoldSec : Int) (db : Db) : Db :=
  db.onAttempt id (fun _ => true)
    (fun a => { a with leavingAt := some now, result := some result, state := .leaving })
    fun _ attempt db => db.updateChannel attempt.agentId attempt.channel fun c => { c with
      state := agentStatus
      joinedAt := now
      noAnswers := c.noAnswers + 1
      timeout := holdUntil now agentHoldSec }

/-! ## Reports -/

/-- The arguments of `cc_attempt_end_reporting` and `cc_attempt_schema_result`; the second
has no `onlyCurrentCommunication`. -/
structure ReportArgs where
  id : Int
  status : Option String
  description : Option String
  expireAt : Option Int
  nextOfferingAt : Option Int
  stickyAgentId : Option Int
  vars : Option Vars
  maxAttempts : Int
  waitBetweenRetries : Int
  excludeDest : Bool
  perNumber : Bool
  onlyCurrentCommunication : Bool

/-- The check at the head of `cc_attempt_end_reporting`. It reads the result of the record
`attempt`, to which nothing has been assigned yet. -/
def badNextOffering (db : Db) (now : Int) (p : ReportArgs) (attempt : Option Attempt) : Bool :=
  p.nextOfferingAt.isSome
    && (attempt.any (resultNotIn ["success", "cancel", "canceled_by_timeout"]))
    && p.nextOfferingAt.any fun t => db.timeZone.ofLocal t < now

/-- The communications with every other open number stopped. -/
def stopOthers (time : Int) (idx : Nat) (cs : List Communication) : List Communication :=
  cs.mapIdx fun i c => if c.isOpen && i ≠ idx then { c with stopAt := some time } else c

/-- The wrap-up time of an agent in a team: `NULL` for an agent on demand, and for one
who does not exist. -/
def wrapTime (db : Db) (agentId : Int) (teamId : Option Int) : Option Int :=
  (db.agents.get? agentId).bind fun a =>
    if a.onDemand then none
    else some (((teamId.bind db.teams.get?).map Team.wrapUpTime).getD 0)

/-- `wrap_time_ > 0 or wrap_time_ isnull`. -/
def wraps (wrapTime : Option Int) : Bool := wrapTime.all fun t => t > 0

/-- The channel of an agent who has done with an attempt, by the agent's wrap-up time. -/
def releaseChannel (now : Int) (wrapTime : Option Int) (attempt : Attempt) (c : AgentChannel) :
    AgentChannel :=
  if wraps wrapTime then
    { c with
      state := .wrapTime
      joinedAt := now
      timeout := wrapTime.map fun t => now + sec t
      lastBucketId := attempt.bucketId.or c.lastBucketId }
  else
    { c with
      state := .waiting
      joinedAt := now
      timeout := none
      lastBucketId := attempt.bucketId.or c.lastBucketId
      queueId := none }

/-- The agent's other attempts that have not left, asked for on the chat channel only.
The channel they are on is not looked at. -/
def otherCount (db : Db) (agentId : Int) (attempt : Attempt) : Nat :=
  if (db.agents.get? agentId).isSome && attempt.channel = .chat then
    (db.attempts.rows.filter fun a =>
      a.agentId = some agentId && a.id ≠ attempt.id && a.state ≠ .leaving).length
  else 0

def reported (now : Int) (p : ReportArgs) (a : Attempt) : Attempt :=
  { a with
    state := .leaving
    reportingAt := some now
    leavingAt := a.leavingAt.or (some now)
    result := p.status
    vars := mergeVars a.vars p.vars
    description := p.description }

/-- The member's row after `cc_attempt_end_reporting`. The next time is one without a zone, and is
read on the member's clocks. -/
def reportedMember (db : Db) (now : Int) (p : ReportArgs) (attempt : Attempt) (m : Member) :
    Member :=
  let again := p.nextOfferingAt.isSome || m.stopAt.isSome || p.onlyCurrentCommunication
    || (resultNotIn ["success", "cancel", "canceled_by_timeout"] attempt
      && retriesLeft p.perNumber p.maxAttempts attempt m)
  { m with
    vars := mergeVars m.vars p.vars
    expireAt := p.expireAt.or m.expireAt
    agentId := p.stickyAgentId.or m.agentId
    stopAt := if again then m.stopAt else attempt.leavingAt
    stopCause := if again then m.stopCause else attempt.result
    readyAt := match p.nextOfferingAt with
      | some t => (db.zoneOf m).map fun z => z.ofLocal t
      | none => some (now + sec p.waitBetweenRetries)
    lastAgent := attempt.agentId.or m.lastAgent
    communications := dialled m
      (if p.onlyCurrentCommunication then
        m.communications.map (stopOthers now attempt.communicationIdx)
      else m.communications)
      attempt (if p.nextOfferingAt.isSome then some 0 else some now)
      (if p.excludeDest || numberUsedUp p.perNumber p.maxAttempts attempt m then some now else none)
    attempts := m.attempts + 1 }

/-- The agent's channel after `cc_attempt_end_reporting`: one of an agent with other
attempts is left as it is. -/
def reportedChannel (db : Db) (now agentId : Int) (attempt : Attempt) (c : AgentChannel) :
    AgentChannel :=
  if otherCount db agentId attempt > 0 then
    { c with lastBucketId := attempt.bucketId.or c.lastBucketId }
  else releaseChannel now (wrapTime db agentId attempt.teamId) attempt c

def endReporting (now : Int) (p : ReportArgs) (db : Db) : Db :=
  db.onAttempt p.id (fun a => a.state ≠ .leaving) (reported now p) fun _ attempt db =>
    let db := db.updateMember now attempt.memberId (reportedMember db now p attempt)
    match attempt.agentId with
    | none => db
    | some agentId =>
      db.updateChannel (some agentId) attempt.channel (reportedChannel db now agentId attempt)

def ccAttemptEndReporting (now : Int) (p : ReportArgs) (db : Db) : Except String Db :=
  if badNextOffering db now p none then .error "bad parameter: next distribute at"
  else .ok (endReporting now p db)

def saved (p : ReportArgs) (a : Attempt) : Attempt :=
  { a with
    result := p.status.or a.result
    description := p.description.or a.description
    schemaProcessing := false }

def savedMember (db : Db) (now : Int) (p : ReportArgs) (attempt : Attempt) (m : Member) : Member :=
  let again := p.nextOfferingAt.isSome || m.stopAt.isSome
    || (resultNotIn ["success", "cancel", "canceled_by_timeout"] attempt
      && retriesLeft p.perNumber p.maxAttempts attempt m)
  { m with
    vars := mergeVars m.vars p.vars
    expireAt := p.expireAt.or m.expireAt
    agentId := p.stickyAgentId.or m.agentId
    stopAt := if again then m.stopAt else attempt.leavingAt
    stopCause := if again then m.stopCause else attempt.result
    -- A time with a zone, turned into the member's local time and stored as if that
    -- were local to the session.
    readyAt := match p.nextOfferingAt with
      | some t => (db.zoneOf m).map fun z => db.timeZone.ofLocal (z.toLocal t)
      | none => some (now + sec p.waitBetweenRetries)
    lastAgent := attempt.agentId.or m.lastAgent
    communications := dialled m m.communications attempt
      (if p.nextOfferingAt.isSome then some 0 else some now)
      (if p.excludeDest || numberUsedUp p.perNumber p.maxAttempts attempt m then some now else none)
    attempts := m.attempts + 1 }

def ccAttemptSchemaResult (now : Int) (p : ReportArgs) (db : Db) : Db :=
  db.onAttempt p.id (fun _ => true) (saved p) fun _ attempt db =>
    db.updateMember now attempt.memberId (savedMember db now p attempt)

/-! ## Timeouts -/

structure TimeoutArgs where
  id : Int
  agentStatus : State
  agentHoldSec : Int
  maxAttempts : Int
  perNumber : Bool
  doLeaving : Bool

/-- `from cc_queue q where q.id = a.queue_id or a.queue_id is null` finds a queue. -/
def joinsQueue (db : Db) (a : Attempt) : Bool :=
  match a.queueId with
  | none => !db.queues.rows.isEmpty
  | some q => (db.queues.get? q).isSome

def timeoutResult (db : Db) (maxAttempts : Int) (a : Attempt) : String :=
  if a.queueId.isNone then "timeout"
  else if maxAttempts = 1 && (a.queueId.bind db.queues.get?).any fun q =>
      !q.prolongationIsTimeoutRetry then "canceled_by_timeout"
  else "timeout"

def ccAttemptTimeout (now : Int) (p : TimeoutArgs) (db : Db) : Db :=
  db.onAttempt p.id (joinsQueue db)
    (fun a => { a with
      reportingAt := some now
      result := some (timeoutResult db p.maxAttempts a)
      state := .leaving
      schemaProcessing := p.doLeaving })
    fun _ attempt db =>
      let db := match p.doLeaving, attempt.queueId.bind db.queues.get? with
        | false, some q => db.updateMember now attempt.memberId fun m =>
          let again := m.stopAt.isSome || (resultNotIn ["success", "cancel"] attempt
            && retriesLeft p.perNumber p.maxAttempts attempt m)
          { m with
            lastAgent := attempt.agentId.or m.lastAgent
            stopAt := if again then m.stopAt else attempt.leavingAt
            stopCause := if again then m.stopCause else attempt.result
            readyAt := some (now + sec (q.waitBetweenRetries.getD 0))
            communications := dialled m m.communications attempt attempt.leavingAt
              (if numberUsedUp p.perNumber p.maxAttempts attempt m then some now else none)
            attempts := m.attempts + 1 }
        | _, _ => db
      db.updateChannel attempt.agentId attempt.channel fun c => { c with
        state := p.agentStatus
        joinedAt := now
        timeout := holdUntil now p.agentHoldSec }

/-- The rows that `GetTimeouts` selects. It does not ask for their state. -/
def timedOut (db : Db) (now : Int) (nodeId : String) (a : Attempt) : Bool :=
  a.timeout.any (fun t => t < now) && a.nodeId = nodeId && !a.schemaProcessing
    && (a.agentId.bind db.agents.get?).isSome

def timeoutArgs (db : Db) (a : Attempt) : TimeoutArgs :=
  let queue := a.queueId.bind db.queues.get?
  { id := a.id
    agentStatus := .waiting
    agentHoldSec := 0
    maxAttempts := (queue.bind Queue.maxAttempts).getD 0
    perNumber := (queue.bind Queue.perNumbers).getD false
    doLeaving := (queue.bind Queue.afterSchemaId).isSome }

/-- `GetTimeouts`: one statement that runs `cc_attempt_timeout` on every row it selects. -/
def getTimeouts (now : Int) (nodeId : String) (db : Db) : Db :=
  (db.attempts.rows.filter (timedOut db now nodeId)).foldl
    (fun db' a => ccAttemptTimeout now (timeoutArgs db a) db') db

def archivable (a : Attempt) : Bool := a.state = .leaving && !a.schemaProcessing

/-- `SaveToHistory` on the rows it could lock, at most a hundred. -/
def saveToHistory (ids : List Int) (db : Db) : Db :=
  if ids.length ≤ 100 then
    let moved := fun a : Attempt => a.id ∈ ids && archivable a
    { db with
      attempts := db.attempts.delete moved
      history := db.history ++ db.attempts.rows.filter moved }
  else db

/-! ## The agent's side of a running attempt -/

structure OfferingArgs where
  id : Int
  agentId : Option Int
  agentCallId : Option String
  memberCallId : Option String

def ccAttemptOffering (now : Int) (p : OfferingArgs) (db : Db) : Db :=
  db.onAttempt p.id (fun _ => true)
    (fun a => { a with
      state := .offering
      lastStateChange := now
      offeredAgentIds := match a.agentId.or p.agentId with
        | some id => if id ∈ a.offeredAgentIds then a.offeredAgentIds else a.offeredAgentIds ++ [id]
        | none => a.offeredAgentIds
      offeringAt := some now
      agentId := a.agentId.or p.agentId
      agentCallId := a.agentCallId.or p.agentCallId
      memberCallId := a.memberCallId.or p.memberCallId })
    fun _ attempt db => db.updateChannel attempt.agentId attempt.channel fun c => { c with
      state := .offering
      joinedAt := now
      lastOfferingAt := some now
      queueId := attempt.queueId
      attemptId := some attempt.id
      lastBucketId := attempt.bucketId.or c.lastBucketId }

def ccAttemptBridged (now id : Int) (db : Db) : Db :=
  db.onAttempt id (fun _ => true)
    (fun a => { a with state := .bridged, bridgedAt := some now, lastStateChange := now })
    fun _ attempt db => db.updateChannel attempt.agentId attempt.channel fun c => { c with
      state := attempt.state
      noAnswers := 0
      joinedAt := now
      lastBridgedAt := some now }

/-- `SetAttemptReporting`. The state of an attempt that has left stays, and is copied
into the channel all the same. -/
def setAttemptReporting (now id deadlineSec : Int) (db : Db) : Db :=
  db.onAttempt id (fun _ => true)
    (fun a => { a with
      timeout := holdUntil now deadlineSec
      leavingAt := some now
      lastStateChange := now
      state := if a.state ≠ .leaving then .processing else a.state })
    fun _ attempt db => db.updateChannel attempt.agentId attempt.channel fun c => { c with
      state := attempt.state
      joinedAt := now }

def backToWaiting (now : Int) (a : Attempt) : Attempt :=
  { a with
    state := .waitAgent
    lastStateChange := now
    agentId := none
    teamId := none
    agentCallId := none }

def ccAttemptMissedAgent (now id agentHold : Int) (db : Db) : Db :=
  db.onAttempt id (fun _ => true) (backToWaiting now)
    fun a _ db => db.updateChannel a.agentId a.channel fun c => { c with
      state := .missed
      joinedAt := now
      timeout := some (now + sec agentHold)
      noAnswers := c.noAnswers + 1
      attemptId := some id
      lastMissedAt := some now }

def ccAttemptWaitingAgent (now id : Int) (db : Db) : Db :=
  db.onAttempt id (fun _ => true) (backToWaiting now)
    fun a _ db => db.updateChannel a.agentId a.channel fun c => { c with
      state := .waiting
      joinedAt := now
      timeout := none
      noAnswers := 0
      lastMissedAt := some now
      attemptId := none
      queueId := none }

def ccAttemptTransferredFrom (now id toAgentId : Int) (agentSessId : Option String)
    (db : Db) : Db :=
  db.onAttempt id (fun _ => true)
    (fun a => { a with
      transferredAgentId := a.agentId
      agentId := some toAgentId
      agentCallId := agentSessId })
    fun _ attempt db =>
      match attempt.transferredAgentId with
      | none => db
      | some agentId =>
        db.updateChannel (some agentId) attempt.channel
          (releaseChannel now (wrapTime db agentId attempt.teamId) attempt)

def ccAttemptTransferredTo (now id toAttemptId : Int) (db : Db) : Db :=
  db.onAttempt id (fun _ => true)
    (fun a => { a with
      transferredAttemptId := some toAttemptId
      result := some "transferred"
      leavingAt := some now
      lastStateChange := now
      state := .leaving })
    fun _ _ db => db

/-- The channels that `GetChannelTimeout` selects. It does not ask for their state. -/
def channelTimedOut (db : Db) (now : Int) (c : AgentChannel) : Bool :=
  c.timeout.any (fun t => t < now) && (db.agents.get? c.agentId).isSome

def getChannelTimeout (now : Int) (db : Db) : Db :=
  { db with
    channels := db.channels.update (channelTimedOut db now)
      (fun c => ccSetAgentChannelChangeStatus c
        { c with state := .waiting, timeout := none, joinedAt := now })
      (fun c => by
        unfold ccSetAgentChannelChangeStatus
        split
        · rfl
        · rfl) }

/-! ## All operations -/

inductive Op where
  | offering (p : OfferingArgs)
  | bridged (id : Int)
  | reporting (id deadlineSec : Int)
  | endReporting (p : ReportArgs)
  | leaving (p : LeavingArgs)
  | abandoned (p : AbandonedArgs)
  | cancelReleaseAgent (id : Int)
  | agentCancel (id : Int) (result : String) (agentStatus : State) (agentHoldSec : Int)
  | missedAgent (id agentHold : Int)
  | waitingAgent (id : Int)
  | schemaResult (p : ReportArgs)
  | getTimeouts (nodeId : String)
  | saveToHistory (ids : List Int)
  | transferredFrom (id toAgentId : Int) (agentSessId : Option String)
  | transferredTo (id toAttemptId : Int)
  | getChannelTimeout

/-- An operation at a time. One that raises an error is rolled back. -/
def perform (db : Db) (now : Int) : Op → Db
  | .offering p => ccAttemptOffering now p db
  | .bridged id => ccAttemptBridged now id db
  | .reporting id deadlineSec => setAttemptReporting now id deadlineSec db
  | .endReporting p =>
    match ccAttemptEndReporting now p db with
    | .ok db' => db'
    | .error _ => db
  | .leaving p => ccAttemptLeaving now p db
  | .abandoned p => ccAttemptAbandoned now p db
  | .cancelReleaseAgent id => ccAttemptCancelReleaseAgent now id db
  | .agentCancel id result agentStatus agentHoldSec =>
    ccAttemptAgentCancel now id result agentStatus agentHoldSec db
  | .missedAgent id agentHold => ccAttemptMissedAgent now id agentHold db
  | .waitingAgent id => ccAttemptWaitingAgent now id db
  | .schemaResult p => ccAttemptSchemaResult now p db
  | .getTimeouts nodeId => getTimeouts now nodeId db
  | .saveToHistory ids => saveToHistory ids db
  | .transferredFrom id toAgentId agentSessId =>
    ccAttemptTransferredFrom now id toAgentId agentSessId db
  | .transferredTo id toAttemptId => ccAttemptTransferredTo now id toAttemptId db
  | .getChannelTimeout => getChannelTimeout now db

/-- The store as a system: an operation and the time it runs at. -/
def storeStep (db : Db) (l : Int × Op) : Option Db := some (perform db l.1 l.2)

/-! ## The outline -/

/-- **The outline of every function.** It found no row and did nothing, or it replaced the
row it found and went on from there. -/
theorem onAttempt_induction {motive : Db → Prop} (db : Db) (id : Int) (p : Attempt → Bool)
    (f : Attempt → Attempt) (rest : Attempt → Attempt → Db → Db) (hnone : motive db)
    (hfound : ∀ a, db.attempts.get? id = some a → p a = true →
      motive (rest a (f a) { db with attempts := db.attempts.replace (f a) })) :
    motive (db.onAttempt id p f rest) := by
  grind [Db.onAttempt]

theorem tg_keeps (now : Int) (old new : Member) :
    (ccMemberSetSysDestinationsTg now old new).id = new.id
      ∧ (ccMemberSetSysDestinationsTg now old new).attempts = new.attempts
      ∧ (ccMemberSetSysDestinationsTg now old new).communications = new.communications := by
  grind [ccMemberSetSysDestinationsTg]

theorem updateMember_self {db : Db} {m : Member} {j : Int} (now : Int) {f : Member → Member}
    (hf : ∀ m, (f m).id = m.id) (h : db.members.get? j = some m) :
    (db.updateMember now (some j) f).members.get? j
      = some (ccMemberSetSysDestinationsTg now m (f m)) := by
  have hm : m.id = j := (Table.get?_eq_some.mp h).2
  grind [Db.updateMember, ccMemberSetSysDestinationsTg, Table.get?_replace, tg_keeps]

theorem updateMember_of_ne {db : Db} {id : Option Int} {j : Int} (now : Int) {f : Member → Member}
    (hf : ∀ m, (f m).id = m.id) (hne : id ≠ some j) :
    (db.updateMember now id f).members.get? j = db.members.get? j := by
  unfold Db.updateMember
  dsimp only
  split
  · rfl
  · rename_i m hm
    obtain ⟨k, hk, hget⟩ := Option.bind_eq_some_iff.mp hm
    have hkey : (ccMemberSetSysDestinationsTg now m (f m)).id = k :=
      (tg_keeps now m (f m)).1.trans ((hf m).trans (Table.get?_eq_some.mp hget).2)
    refine Table.get?_replace_of_ne ?_
    rw [hkey]
    intro heq
    exact hne (hk.trans (congrArg some heq.symm))

theorem row_self {db : Db} {a : Attempt} {id : Int} (h : db.attempts.get? id = some a) :
    db.attempts.get? a.id = some a := by
  rw [(Table.get?_eq_some.mp h).2]
  exact h

/-- The record is empty when the check of `cc_attempt_end_reporting` reads it, so the check
never fails. -/
theorem ccAttemptEndReporting_eq (now : Int) (p : ReportArgs) (db : Db) :
    ccAttemptEndReporting now p db = .ok (endReporting now p db) := by
  grind [badNextOffering, ccAttemptEndReporting]

theorem timeoutResult_notMem (db : Db) (max : Int) (a : Attempt) :
    timeoutResult db max a ∉ ["success", "cancel"] := by
  unfold timeoutResult
  split
  · decide
  · split
    · decide
    · decide

theorem timeout_get?_of_ne (now : Int) (db : Db) (p : TimeoutArgs) {j : Int} (hne : j ≠ p.id) :
    (ccAttemptTimeout now p db).attempts.get? j = db.attempts.get? j := by
  refine onAttempt_induction (motive := fun db' => db'.attempts.get? j = db.attempts.get? j)
    db _ _ _ _ rfl fun a hget _ => ?_
  have hid : a.id = p.id := (Table.get?_eq_some.mp hget).2
  have hother : ∀ r : Attempt, r.id = a.id →
      (db.attempts.replace r).get? j = db.attempts.get? j :=
    fun r hr => Table.get?_replace_of_ne (by rw [hr, hid]; exact hne)
  dsimp only
  split
  · exact hother _ rfl
  · exact hother _ rfl

theorem timeouts_get?_of_notMem (now : Int) (args : Attempt → TimeoutArgs)
    (hargs : ∀ a, (args a).id = a.id) (selected : List Attempt) {j : Int}
    (hj : j ∉ selected.map Attempt.id) (db : Db) :
    (selected.foldl (fun db' a => ccAttemptTimeout now (args a) db') db).attempts.get? j
      = db.attempts.get? j := by
  induction selected generalizing db with
  | nil => rfl
  | cons a rest ih =>
    grind [timeout_get?_of_ne]

end CallCenter.Store
