import CallCenter.Lib.Intake
import CallCenter.Lib.Rounding
import CallCenter.Store.Rows

/-!
# Calls that join an inbound queue

`cc_distribute_inbound_call_to_queue` lets a call into a queue: it looks at the queue, the call and
the calendar, counts the attempts that wait, looks at the list of banned numbers, works out a weight
and a sticky agent, and inserts an attempt. A queue with `max_waiting_size` refuses the call when
the count has reached it; a call with a bucket is compared with the attempts of its bucket.

The statements of the function see what is committed when each of them starts, and nothing holds
other calls back.
-/

namespace CallCenter.Store.Inbound

open Lib

structure InboundQueue where
  id : Int
  domainId : Int
  type : Int
  enabled : Bool
  updatedAt : Int
  calendarId : Option Int
  ignoreCalendar : Bool
  dncListId : Option Int
  team : Option (Int × Int)
  stickyAgent : Bool
  stickyIgnoreStatus : Bool
  granteeId : Option Int
  maxWaitingSize : Option Int
  discardAbandonedAfter : Option Int

structure CallRow where
  id : String
  domainId : Int
  state : Option String
  direction : Option String
  userId : Option Int
  fromNumber : Option String
  fromName : Option String
  toName : Option String
  destination : Option String
  appId : Option String
  timestamp : Option Int
  answeredAt : Option Int
  bridgedAt : Option Int
  createdAt : Int
  parentId : Option String
  queueId : Option Int
  teamId : Option Int
  attemptId : Option Int
  granteeId : Option Int
  payload : Option Vars

structure HistoryRow where
  queueId : Option Int
  result : Option String
  leavingAt : Int
  destination : Option String

structure StickyRow where
  id : Int
  domainId : Int
  online : Bool
  skills : List (Int × Int)

/-- The other tables, as they are at a time. `accepts` is what `flow.calendar_check_timing` says of
a calendar of a domain. -/
structure Tables where
  now : Int
  calls : List CallRow
  accepts : Int → Int → Bool
  listNumbers : List (Int × String)
  history : List HistoryRow
  agents : List StickyRow
  /-- The skills of a queue, with the least and the greatest capacity. -/
  queueSkills : List (Int × Int × Int × Int)

structure QueuedAttempt extends Attempt where
  domainId : Int
  weight : Int
  destination : Option String × Option String
  stickyAgentId : Option Int
  parentId : Option Int
  queueType : Int

structure JoinRequest where
  node : String
  queueId : Int
  callId : String
  vars : Option Vars
  bucketId : Option BucketId
  priority : Int
  stickyAgentId : Option Int

inductive JoinError where
  | queueNotInbound
  | queueDisabled
  | anotherDomain
  | notFoundCall
  | calendarNotWorking (number : Option String) (calendarId : Int)
  | maxWaitingSize
  | banned (number : String)
  | constraint

def textOf (s : Option String) : String := s.getD "<NULL>"

def JoinError.message : JoinError → String
  | queueNotInbound => "queue not inbound"
  | queueDisabled => "queue disabled"
  | anotherDomain => "the queue on another domain"
  | notFoundCall => "not found call"
  | calendarNotWorking number calendarId =>
    "number " ++ textOf number ++ " calendar not working [" ++ toString calendarId ++ "]"
  | maxWaitingSize => "Queue maximum waiting size"
  | banned number => "number " ++ number ++ " banned"
  | constraint => "constraint"

/-- `aa.queue_id = … and aa.bridged_at isnull and aa.leaving_at isnull`, in some of the buckets. -/
def QueuedAttempt.waitsIn (queueId : Int) (buckets : Option BucketId → Bool) (a : QueuedAttempt) :
    Bool :=
  decide (a.queueId = some queueId) && a.bridgedAt.isNone && a.leavingAt.isNone
    && buckets a.bucketId

/-- `bucket_id_ isnull or aa.bucket_id = bucket_id_`. -/
def comparedWith (bucketId : Option BucketId) (b : Option BucketId) : Bool :=
  bucketId.isNone || decide (b = bucketId)

/-! ## Up to the count -/

structure Admitted where
  request : JoinRequest
  queue : InboundQueue
  number : Option String
  name : Option String
  parentId : Option Int

def CallRow.party (c : CallRow) : Option String × Option String :=
  if c.direction ≠ some "outbound" ∨ c.userId.isSome then (c.fromNumber, c.fromName)
  else (c.destination, none)

def isFull (queue : InboundQueue) (committed : List QueuedAttempt) (r : JoinRequest) : Bool :=
  queue.maxWaitingSize.any fun size : Int => decide (0 < size)
    && decide (size ≤ committed.countP (QueuedAttempt.waitsIn r.queueId (comparedWith r.bucketId)))

/-- The first half of `cc_distribute_inbound_call_to_queue`. A queue that is not found has `NULL` in
every test, and fails at the insert. -/
def admission (queues : List InboundQueue) (t : Tables) (committed : List QueuedAttempt)
    (r : JoinRequest) : Except JoinError Admitted :=
  let call := t.calls.find? fun c => c.id = r.callId
  match queues.find? fun q => q.id = r.queueId with
  | none => .error (if call.any fun c => c.direction.isSome then .constraint else .notFoundCall)
  | some queue =>
    if queue.type ≠ 1 then .error .queueNotInbound
    else if queue.enabled = false then .error .queueDisabled
    else match call with
    | none => .error .notFoundCall
    | some c =>
      if c.domainId ≠ queue.domainId then .error .anotherDomain
      else if c.direction.isNone then .error .notFoundCall
      else match queue.calendarId.filter fun k =>
          !queue.ignoreCalendar && !t.accepts queue.domainId k with
      | some k => .error (.calendarNotWorking c.party.1 k)
      | none =>
        if isFull queue committed r then .error .maxWaitingSize
        else .ok ⟨r, queue, c.party.1, c.party.2, c.attemptId⟩

/-! ## From the count to the insert -/

def latest : List HistoryRow → Option HistoryRow
  | [] => none
  | h :: rest =>
    match latest rest with
    | none => some h
    | some h' => if h.leavingAt < h'.leavingAt then some h' else some h

/-- The weight of a number that was abandoned a short time ago: the seconds since, and the
priority. -/
def weightOf (t : Tables) (a : Admitted) : Int :=
  let priority := a.request.priority
  match a.queue.discardAbandonedAfter.filter fun sec => 0 < sec with
  | none => priority
  | some sec =>
    match latest (t.history.filter fun h => decide (t.now - sec * 1000 ≤ h.leavingAt)
        && decide (h.queueId = some a.request.queueId)
        && (a.number.isSome && decide (h.destination = a.number))) with
    | none => priority
    | some h =>
      if h.result = some "abandoned" then roundDiv (t.now - h.leavingAt) 1000 + priority
      else priority

/-- The sticky agent is one of the domain, online or not asked to be, with a skill of the queue. -/
def stickyOf (t : Tables) (a : Admitted) : Option Int :=
  a.request.stickyAgentId.filter fun id => a.queue.stickyAgent && t.agents.any fun x =>
    decide (x.id = id) && decide (x.domainId = a.queue.domainId)
      && (x.online || a.queue.stickyIgnoreStatus)
      && x.skills.any fun s => t.queueSkills.any fun k => decide (k.1 = a.request.queueId)
        && decide (k.2.1 = s.1) && decide (k.2.2.1 ≤ s.2) && decide (s.2 ≤ k.2.2.2)

def newAttempt (t : Tables) (id : Int) (a : Admitted) : QueuedAttempt :=
  { Attempt.inserted t.now id with
    domainId := a.queue.domainId
    state := .waiting
    queueId := some a.request.queueId
    teamId := a.queue.team.map Prod.fst
    bucketId := a.request.bucketId
    weight := weightOf t a
    memberCallId := some a.request.callId
    destination := (a.number, a.name.or a.number)
    nodeId := a.request.node
    stickyAgentId := stickyOf t a
    parentId := a.parentId
    queueType := 1 }

def CallRow.joined (c : CallRow) (a : Admitted) (attempt : QueuedAttempt) : CallRow :=
  { c with
    queueId := attempt.queueId
    teamId := a.queue.team.map Prod.fst
    attemptId := some attempt.id
    payload := a.request.vars.or (c.payload.or (some []))
    granteeId := a.queue.granteeId }

structure InboundCallQueue where
  attemptId : Int
  queueId : Option Int
  queueUpdatedAt : Int
  destination : Option String × Option String
  vars : Option Vars
  name : Option String
  teamUpdatedAt : Option Int
  callId : String
  callState : Option String
  callDirection : Option String
  callDestination : Option String
  callTimestamp : Option Int
  callAppId : Option String
  callFromNumber : Option String
  callFromName : Option String
  callAnsweredAt : Option Int
  callBridgedAt : Option Int
  callCreatedAt : Int
  parentCallId : Option String

def returned (c : CallRow) (a : Admitted) (attempt : QueuedAttempt) : InboundCallQueue where
  attemptId := attempt.id
  queueId := attempt.queueId
  queueUpdatedAt := a.queue.updatedAt
  destination := attempt.destination
  vars := a.request.vars
  name := c.fromName
  teamUpdatedAt := a.queue.team.map Prod.snd
  callId := c.id
  callState := c.state
  callDirection := c.direction
  callDestination := c.destination
  callTimestamp := c.timestamp
  callAppId := c.appId
  callFromNumber := a.number
  callFromName :=
    if c.direction ≠ some "outbound" ∧ c.toName.any (· ≠ "") then c.fromName else c.toName
  callAnsweredAt := c.answeredAt
  callBridgedAt := c.bridgedAt
  callCreatedAt := c.createdAt
  parentCallId := c.parentId

/-- The second half: the banned numbers, the weight, the sticky agent, the insert, and the update of
the call, which must still be there. -/
def insertAttempt (t : Tables) (id : Int) (a : Admitted) :
    Except JoinError (QueuedAttempt × InboundCallQueue) :=
  match a.number.filter fun n => a.queue.dncListId.any fun l => decide ((l, n) ∈ t.listNumbers) with
  | some n => .error (.banned n)
  | none =>
    match t.calls.find? fun c => c.id = a.request.callId with
    | none => .error .notFoundCall
    | some c =>
      if c.direction.isNone then .error .notFoundCall
      else
        let attempt := newAttempt t id a
        .ok (attempt, returned (c.joined a attempt) a attempt)

/-! ## Calls side by side -/

inductive Joining where
  | admitted (a : Admitted)
  | inserted (a : Admitted) (attempt : QueuedAttempt) (answer : InboundCallQueue)

def Joining.goesTo (queueId : Int) (buckets : Option BucketId → Bool) : Joining → Bool
  | admitted a => decide (a.request.queueId = queueId) && buckets a.request.bucketId
  | inserted _ attempt _ => decide (attempt.queueId = some queueId) && buckets attempt.bucketId

structure JoinWorld where
  tables : Tables
  attempts : Intake QueuedAttempt Joining
  nextId : Int

inductive JoinLabel where
  | join (r : JoinRequest)
  | insert (i : Nat)
  | commit (i : Nat)
  | rollback (i : Nat)
  | bridge (id now : Int)
  | leave (id now : Int)
  | archive (id : Int)
  | change (tables : Tables)

def JoinWorld.onAttempt (w : JoinWorld) (id : Int) (f : QueuedAttempt → QueuedAttempt) :
    JoinWorld :=
  { w with attempts := { w.attempts with
    rows := w.attempts.rows.map fun a => if a.id = id then f a else a } }

def joinStep (queues : List InboundQueue) (w : JoinWorld) : JoinLabel → Option JoinWorld
  | .join r =>
    match admission queues w.tables w.attempts.rows r with
    | .error _ => some w
    | .ok a => some { w with attempts := w.attempts.enter (.admitted a) }
  | .insert i =>
    match w.attempts.flying[i]? with
    | some (.admitted a) =>
      match insertAttempt w.tables w.nextId a with
      | .error _ => some { w with attempts := w.attempts.drop i, nextId := w.nextId + 1 }
      | .ok (attempt, answer) => some { w with
          attempts := w.attempts.advance i (.inserted a attempt answer), nextId := w.nextId + 1 }
    | _ => none
  | .commit i =>
    match w.attempts.flying[i]? with
    | some (.inserted a attempt _) =>
      some { w with
        tables := { w.tables with calls := w.tables.calls.map fun c =>
          if c.id = a.request.callId then c.joined a attempt else c }
        attempts := w.attempts.land i attempt }
    | _ => none
  | .rollback i => some { w with attempts := w.attempts.drop i }
  | .bridge id now => some (w.onAttempt id fun a => { a with bridgedAt := some now })
  | .leave id now => some (w.onAttempt id fun a => { a with leavingAt := some now })
  | .archive id =>
    some { w with attempts := { w.attempts with
      rows := w.attempts.rows.filter fun a => !(decide (a.id = id) && a.leavingAt.isSome) } }
  | .change tables => some { w with tables := tables }

/-- The attempts waiting in some of the buckets of a queue, with the calls on their way there. -/
def JoinWorld.load (queueId : Int) (buckets : Option BucketId → Bool) (w : JoinWorld) : Nat :=
  w.attempts.load (QueuedAttempt.waitsIn queueId buckets) (Joining.goesTo queueId buckets)

/-- The condition on a call, in the state before its count: if the committed attempts leave it room,
so do they together with the calls on their way. -/
def leavesRoom (queues : List InboundQueue) (w : JoinWorld) : JoinLabel → Prop
  | .join r => ∀ queue ∈ queues.find? fun q => q.id = r.queueId,
      ∀ size ∈ queue.maxWaitingSize, 0 < size →
        w.attempts.Sees (QueuedAttempt.waitsIn r.queueId (comparedWith r.bucketId))
          (Joining.goesTo r.queueId (comparedWith r.bucketId)) size.toNat
  | _ => True

instance (queues : List InboundQueue) (w : JoinWorld) (l : JoinLabel) :
    Decidable (leavesRoom queues w l) := by
  unfold leavesRoom
  split <;> infer_instance

end CallCenter.Store.Inbound
