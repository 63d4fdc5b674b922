import CallCenter.Store.Reports

/-!
# Processing timeouts

`routeIdleAgents` polls the attempts whose processing has timed out. `GetTimeouts` has already ended
them in the database: a row whose queue has an after-schema keeps its `schema_processing` flag until
the result of the schema is saved. The program then leaves each attempt that it has in its cache,
with `LeavingMember` or with `TimeoutLeavingMember`, which runs the schema first.

A draft is a report that an agent has saved but not sent. It takes the place of the result of a
timeout, and the result of a schema takes the place of the draft. The outcomes of the schema and of
the statements are given from outside.
-/

namespace CallCenter.Queue.Timeouts

open Lib Store

structure TimeoutQueue where
  afterSchemaId : Option Int
  processingAutosave : Bool
  isProlongationEnabled : Bool
  isProlongationTimeoutRetry : Bool

structure LiveAttempt where
  id : Int
  queue : Option TimeoutQueue
  draft : Option AttemptCallback
  config : ReportingConfig

structure SchemaResult where
  status : String
  maxAttempts : Int
  waitBetweenRetries : Int
  vars : Vars
  agentId : Int
  description : String

structure TimeoutOutcomes where
  now : Int
  resultAttempt : Option SchemaResult
  saveResult : Bool
  saveDraft : Bool
  setTimeoutError : Bool

/-- What is recorded of an attempt: the result that its schema returned, and what was saved. -/
inductive TimeoutEvent where
  | schema (r : SchemaResult)
  | saved (callback : AttemptCallback)

structure TimeoutWorld where
  db : Db
  membersCache : Table LiveAttempt.id
  events : List (Int × TimeoutEvent)

structure ReportingTimeout where
  attemptId : Int
  afterSchemaId : Option Int

def reportingTimeouts (now : Int) (nodeId : String) (db : Db) : List ReportingTimeout :=
  (db.attempts.rows.filter (timedOut db now nodeId)).map fun a =>
    ⟨a.id, (a.queueId.bind db.queues.get?).bind Queue.afterSchemaId⟩

/-! ## Leaving -/

section Leaving

variable (o : TimeoutOutcomes)

/-- `SchemaResult`; `none` is an error. -/
def TimeoutWorld.save (ok : Bool) (a : LiveAttempt) (callback : AttemptCallback)
    (w : TimeoutWorld) : Option TimeoutWorld :=
  if ok then
    (schemaResult o.now a.id callback a.config w.db).map fun db =>
      { w with db := db, events := w.events ++ [(a.id, .saved callback)] }
  else none

def flushDraft (a : LiveAttempt) (w : TimeoutWorld) : TimeoutWorld :=
  if a.queue.any TimeoutQueue.processingAutosave then
    match a.draft with
    | some draft => (w.save o o.saveDraft a draft).getD w
    | none => w
  else w

/-- `LeavingMember`; `none` is a panic. -/
def leavingMember (a : LiveAttempt) (w : TimeoutWorld) : Option TimeoutWorld :=
  if (w.membersCache.get? a.id).isNone then some w
  else
    let w := flushDraft o a w
    let w := { w with membersCache := w.membersCache.delete fun b => b.id = a.id }
    if a.queue.isNone then none else some w

def timeoutCallback (status : String) : AttemptCallback where
  status := status
  nextCallAt := none
  expireAt := none
  description := ""
  vars := []
  stickyAgentId := none
  excludeCurrentCommunication := none
  waitBetweenRetries := none
  onlyCurrentCommunication := none

def SchemaResult.callback (r : SchemaResult) : AttemptCallback :=
  { timeoutCallback r.status with
    description := r.description
    vars := r.vars
    stickyAgentId := if r.agentId > 0 then some r.agentId else none }

/-- What `AfterDistributeSchema` and the `DropDraftResult` after it change of the attempt. -/
def LiveAttempt.afterSchema (a : LiveAttempt) (r : SchemaResult) : LiveAttempt :=
  { a with
    draft := none
    config := { a.config with
      maxAttempts := if r.maxAttempts > 0 then r.maxAttempts else a.config.maxAttempts
      waitBetween := if r.waitBetweenRetries > 0 then r.waitBetweenRetries
        else a.config.waitBetween } }

/-- `AfterDistributeSchema`: without a schema there is no result. -/
def afterDistributeSchema (q : TimeoutQueue) : Option SchemaResult :=
  q.afterSchemaId.bind fun _ => o.resultAttempt

/-- The end of `TimeoutLeavingMember`: a draft is left for `LeavingMember` to save. -/
def saveAndLeave (a : LiveAttempt) (result : AttemptCallback) (w : TimeoutWorld) :
    Option TimeoutWorld :=
  if a.draft.isNone then
    match w.save o o.saveResult a result with
    | none => some w
    | some w => leavingMember o a w
  else leavingMember o a w

def timeoutLeavingMember (a : LiveAttempt) (w : TimeoutWorld) : Option TimeoutWorld :=
  match a.queue with
  | none => some w
  | some q =>
    match afterDistributeSchema o q with
    | some r =>
      saveAndLeave o (a.afterSchema r) r.callback { w with
        membersCache := w.membersCache.replace (a.afterSchema r)
        events := w.events ++ [(a.id, .schema r)] }
    | none =>
      saveAndLeave o a
        (timeoutCallback (if q.isProlongationTimeoutRetry then "timeout"
          else "canceled_by_timeout")) w

/-- `a.queue != nil && a.queue.IsProlongationEnabled() && !a.queue.IsProlongationTimeoutRetry()`. -/
def LiveAttempt.isProlongationTimeout (a : LiveAttempt) : Bool :=
  a.queue.any fun q => q.isProlongationEnabled && !q.isProlongationTimeoutRetry

def handleTimeout (v : ReportingTimeout) (w : TimeoutWorld) : Option TimeoutWorld :=
  match w.membersCache.get? v.attemptId with
  | some a =>
    if v.afterSchemaId.isNone && !a.isProlongationTimeout then leavingMember o a w
    else timeoutLeavingMember o a w
  | none =>
    some (if o.setTimeoutError then { w with db := setTimeoutError v.attemptId w.db } else w)

end Leaving

def routeIdleAgents (now : Int) (nodeId : String) (o : Int → TimeoutOutcomes) (w : TimeoutWorld) :
    Option TimeoutWorld :=
  (reportingTimeouts now nodeId w.db).foldlM (fun w v => handleTimeout (o v.attemptId) v w)
    { w with db := getTimeouts now nodeId w.db, events := [] }

end CallCenter.Queue.Timeouts
