import CallCenter.Utils.Lru

/-!
# Leaving an attempt

An attempt is tracked from `createAttempt`, which puts it into `membersCache` and adds one to a wait
group, to `LeavingMember`, which takes it out and calls `Done`. Three kinds of goroutine reach
`LeavingMember`: that of the attempt's queue, a report of the agent, and the dispatcher's timeout
route. Each is a thread, a program counter over the calls it makes. `LeavingMember` looks the
attempt up in the cache (`check`) several steps before it removes it (`remove`).

The queue of an attempt is assigned by `DistributeAttempt`, after `createAttempt` has returned.
Until then `attempt.queue` is nil, and code that calls it panics: no step follows.
-/

namespace CallCenter.Queue

open Utils

structure QueueParams where
  processingAutosave : Bool
  isProlongationEnabled : Bool
  isProlongationTimeoutRetry : Bool
  /-- `TypeName() == "predictive" || TypeName() == "inbound"`. -/
  waitsHangup : Bool

structure LiveAttempt where
  queue : Option QueueParams
  isChat : Bool
  waitAgent : Bool
  canceled : Bool
  hasDraft : Bool
  hasProcessingFields : Bool
  hasMemberChannel : Bool

inductive Pc where
  -- `CreateAttemptIfNotExists`, `createAttempt`
  | createGet | createAdd | createWgAdd
  -- `Abandoned`
  | setAttemptAbandoned
  -- `ReportingAttempt`, `doLeavingReporting`
  | reportingGet (system draft : Bool) | setChannelReporting | callbackReporting (system : Bool)
  | closeBeforeReporting | doLeavingReporting | waitHangup
  -- `routeIdleAgents`, `TimeoutLeavingMember`
  | timeoutGet (afterSchema : Bool) | afterDistributeSchema | schemaResult
  -- `LeavingMember`
  | check | flush | draftResult | hook | close | remove | wgDone
  | finished
  deriving DecidableEq

structure Thread where
  attempt : Int
  pc : Pc
  /-- Another `LeavingMember` follows: `DistributeAttempt` calls it after `Abandoned`. -/
  again : Bool
  dispatcher : Bool
  queueGoroutine : Bool

def Thread.afterLeaving (t : Thread) : Thread :=
  { t with pc := if t.again then .check else .finished, again := false }

/-- What the outside world answers a step: the clock, whether the call succeeded,
and which of two ways it went. -/
structure Reply where
  now : Int64
  ok : Bool
  alt : Bool

structure World where
  membersCache : Cache Int Int
  waitGroup : Int
  attempts : Int → LiveAttempt
  threads : List Thread
  issued : List Int
  created : List Int
  crashed : Bool
  /-- The attempts whose leaving hook ran, whose cache entry was removed and for
  which `Done` was called, once for every time. -/
  hooked : List Int
  removed : List Int
  left : List Int

namespace World

def setThread (w : World) (i : Nat) (t : Thread) : World :=
  { w with threads := w.threads.set i t }

def setAttempt (w : World) (id : Int) (a : LiveAttempt) : World :=
  { w with attempts := Function.update w.attempts id a }

def cacheGet (w : World) (now : Int64) (id : Int) : World :=
  { w with membersCache := (w.membersCache.get now id).1 }

def cacheHit (w : World) (now : Int64) (id : Int) : Bool :=
  (w.membersCache.get now id).2.isSome

end World

def afterCheck (a : LiveAttempt) : Pc :=
  if (a.queue.map QueueParams.processingAutosave).getD false then .flush else .hook

/-- `a.queue != nil && a.queue.IsProlongationEnabled() && !a.queue.IsProlongationTimeoutRetry()`. -/
def isProlongationTimeout (a : LiveAttempt) : Bool :=
  (a.queue.map fun q => q.isProlongationEnabled && !q.isProlongationTimeoutRetry).getD false

def advance (w : World) (i : Nat) (t : Thread) (r : Reply) : Option World :=
  let id := t.attempt
  let a := w.attempts id
  let goto (w : World) (pc : Pc) : World := w.setThread i { t with pc := pc }
  match t.pc with
  | .createGet =>
    -- An attempt that is already cached is a panic.
    if w.cacheHit r.now id then some { w.cacheGet r.now id with crashed := true }
    else some (goto (w.cacheGet r.now id) .createAdd)
  | .createAdd =>
    some (goto { w with membersCache := w.membersCache.addWithDefaultExpires r.now id id }
      .createWgAdd)
  | .createWgAdd =>
    some (goto { w with waitGroup := w.waitGroup + 1, created := id :: w.created } .finished)
  | .setAttemptAbandoned => some (goto w .check)
  | .reportingGet system draft =>
    if w.cacheHit r.now id then
      if draft then some (goto (w.cacheGet r.now id) .finished)
      else some (goto (w.setAttempt id { a with hasDraft := false } |>.cacheGet r.now id)
        (if r.alt && !system then .setChannelReporting else .callbackReporting system))
    else some (goto (w.cacheGet r.now id) .finished)
  | .setChannelReporting =>
    -- An error of the channel ends the report unless the attempt is in processing.
    some (goto w (if r.ok then .callbackReporting false else .finished))
  | .callbackReporting system =>
    if r.ok then some (goto w (if system then .doLeavingReporting else .closeBeforeReporting))
    else some (goto w .finished)
  | .closeBeforeReporting =>
    -- A task channel is found through the cache, the other channels are not.
    some (goto (if r.alt then w.cacheGet r.now id else w) .doLeavingReporting)
  | .doLeavingReporting =>
    let a' := if a.isChat && a.waitAgent && !a.canceled then { a with canceled := true } else a
    match a.queue with
    | none => some { w.setAttempt id a' with crashed := true }
    | some q => some (goto (w.setAttempt id a')
        (if q.waitsHangup && a.hasMemberChannel then .waitHangup else .check))
  | .waitHangup => some (goto w .check)
  | .timeoutGet afterSchema =>
    if w.cacheHit r.now id then
      some (goto (w.cacheGet r.now id)
        (if !afterSchema && !isProlongationTimeout a then .check
          -- `TimeoutLeavingMember` returns at once when there is no queue.
          else if a.queue.isNone then .finished else .afterDistributeSchema))
    else some (goto (w.cacheGet r.now id) .finished)
  | .afterDistributeSchema =>
    let a' := if r.ok then { a with hasDraft := false } else a
    some (goto (w.setAttempt id a') (if a'.hasDraft then .check else .schemaResult))
  | .schemaResult => some (goto w (if r.ok then .check else .finished))
  | .check =>
    if w.cacheHit r.now id then some (goto (w.cacheGet r.now id) (afterCheck a))
    else some ((w.cacheGet r.now id).setThread i t.afterLeaving)
  | .flush => some (goto w (if a.hasDraft then .draftResult else .hook))
  | .draftResult => some (goto w .hook)
  | .hook =>
    match a.queue with
    | none => some { w.setAttempt id { a with waitAgent := false } with crashed := true }
    | some _ => some (goto { w.setAttempt id { a with waitAgent := false } with
        hooked := id :: w.hooked } .close)
  | .close => some (goto w .remove)
  | .remove =>
    some (goto { w with
      membersCache := w.membersCache.remove id, removed := id :: w.removed } .wgDone)
  | .wgDone =>
    -- A negative counter is a panic of `WaitGroup`.
    some ({ w with
      waitGroup := w.waitGroup - 1, left := id :: w.left, crashed := w.waitGroup - 1 < 0
      }.setThread i t.afterLeaving)
  | .finished => none

inductive Label where
  /-- The database issues a new attempt, and `CreateAttemptIfNotExists` is called. -/
  | create (id : Int)
  | setQueue (id : Int) (q : QueueParams)
  | touch (id : Int) (a : LiveAttempt)
  | queueLeaving (id : Int)
  | queueAbandoned (id : Int) (again : Bool)
  | reporting (id : Int) (system draft : Bool)
  | timeout (id : Int) (afterSchema : Bool)
  | thread (i : Nat) (r : Reply)

def queueIdle (w : World) (id : Int) : Bool :=
  w.threads.all fun t => !(t.queueGoroutine && t.attempt = id) || t.pc = .finished

def dispatcherIdle (w : World) : Bool :=
  w.threads.all fun t => !t.dispatcher || t.pc = .finished

def World.spawn (w : World) (t : Thread) : World := { w with threads := w.threads ++ [t] }

def step (w : World) : Label → Option World
  | .create id =>
    if !w.crashed && decide (id ∉ w.issued) then
      some ({ w with issued := id :: w.issued }.spawn ⟨id, .createGet, false, false, false⟩)
    else none
  | .setQueue id q =>
    if !w.crashed && decide (id ∈ w.created) then
      some (w.setAttempt id { w.attempts id with queue := some q })
    else none
  | .touch id a =>
    if !w.crashed then some (w.setAttempt id { a with queue := (w.attempts id).queue }) else none
  | .queueLeaving id =>
    if !w.crashed && (w.attempts id).queue.isSome && queueIdle w id then
      some (w.spawn ⟨id, .check, false, false, true⟩)
    else none
  | .queueAbandoned id again =>
    if !w.crashed && (w.attempts id).queue.isSome && queueIdle w id then
      some (w.spawn ⟨id, .setAttemptAbandoned, again, false, true⟩)
    else none
  | .reporting id system draft =>
    if !w.crashed then some (w.spawn ⟨id, .reportingGet system draft, false, false, false⟩)
    else none
  | .timeout id afterSchema =>
    if !w.crashed && dispatcherIdle w then
      some (w.spawn ⟨id, .timeoutGet afterSchema, false, true, false⟩)
    else none
  | .thread i r =>
    if w.crashed then none else (w.threads[i]?).bind fun t => advance w i t r

/-- A manager with nothing in it. Fields of attempts are what they are made with. -/
def World.start (size : Nat) (attempts : Int → LiveAttempt) : World where
  membersCache := newLruWithParams Int Int size 0
  waitGroup := 0
  attempts := fun id => { attempts id with queue := none }
  threads := []
  issued := []
  created := []
  crashed := false
  hooked := []
  removed := []
  left := []

end CallCenter.Queue
