import CallCenter.Lib.Run

/-!
# Transferring an IM conversation

`TransferIM` on an attempt reserves the transfer, starts a target attempt and then records its id.
The target runs in its own goroutine; whatever way that run ends, a deferred call releases the
reservation of the source. A target that takes the conversation over completes the transfer instead.
The system is one source attempt, any number of `TransferIM` calls on it and any number of targets.
-/

namespace CallCenter.Queue

/-- The transfer fields of an `Attempt`. `transferred` is the closed channel
`imTransferred`; the target id zero is no target. -/
structure IMTransfer where
  pending : Bool
  toId : Int
  transferred : Bool

namespace IMTransfer

/-- `reserveIMTransfer`; `none` is its false. -/
def reserveIMTransfer (a : IMTransfer) : Option IMTransfer :=
  if a.pending || a.transferred then none else some { a with pending := true }

def setIMTransferTo (a : IMTransfer) (toId : Int) : IMTransfer := { a with toId := toId }

def releaseIMTransfer (a : IMTransfer) (toId : Int) : IMTransfer :=
  if a.toId = 0 ∨ a.toId = toId then { a with pending := false, toId := 0 } else a

def pendingIMTransfer (a : IMTransfer) : Int := a.toId

def completeIMTransfer (a : IMTransfer) : IMTransfer :=
  if a.transferred then a else { a with pending := false, transferred := true }

end IMTransfer

/-- A `TransferIM` call by the step it takes next. `returned` calls are over. -/
inductive TransferCall where
  | reserve
  | distribute
  | record (toId : Int)
  | release
  | returned
  deriving DecidableEq

/-- The run of a target attempt: never started, under way, or over, its deferred
release executed. -/
inductive TargetRun where
  | notStarted | running | released
  deriving DecidableEq

structure Target where
  id : Int
  run : TargetRun

/-- How `distributeIMTransfer` ends: with an error, with a target that is barred
(`DistributeAttempt` then returns no error and starts no run), or with a target
whose run was started. -/
inductive Distributed where
  | failed
  | barred (toId : Int)
  | started (toId : Int)

structure TransferWorld where
  source : IMTransfer
  /-- Is the source still in `membersCache`? -/
  cached : Bool
  calls : List TransferCall
  targets : List Target

inductive TransferLabel where
  | transferIM
  | call (i : Nat) (d : Distributed)
  | complete (toId : Int)
  | runEnds (toId : Int)
  | sourceLeaves

/-- The new target of a call: its id comes from the database, so it is new and not zero. -/
def newTarget (w : TransferWorld) (toId : Int) : Bool :=
  toId ≠ 0 && w.targets.all fun t => t.id ≠ toId

def advanceTransfer (w : TransferWorld) (i : Nat) (d : Distributed) :
    TransferCall → Option TransferWorld
  | .reserve =>
    match w.source.reserveIMTransfer with
    | none => some { w with calls := w.calls.set i .returned }
    | some s => some { w with source := s, calls := w.calls.set i .distribute }
  | .distribute =>
    match d with
    | .failed => some { w with calls := w.calls.set i .release }
    | .barred toId =>
      if newTarget w toId then
        some { w with
          calls := w.calls.set i (.record toId), targets := ⟨toId, .notStarted⟩ :: w.targets }
      else none
    | .started toId =>
      if newTarget w toId then
        some { w with
          calls := w.calls.set i (.record toId), targets := ⟨toId, .running⟩ :: w.targets }
      else none
  | .record toId =>
    some { w with source := w.source.setIMTransferTo toId, calls := w.calls.set i .returned }
  | .release =>
    some { w with source := w.source.releaseIMTransfer 0, calls := w.calls.set i .returned }
  | .returned => none

def isRunning (w : TransferWorld) (toId : Int) : Bool :=
  w.targets.any fun t => t.id = toId && t.run = .running

def transferStep (w : TransferWorld) : TransferLabel → Option TransferWorld
  | .transferIM => if w.cached then some { w with calls := w.calls ++ [.reserve] } else none
  | .call i d => (w.calls[i]?).bind (advanceTransfer w i d)
  | .complete toId =>
    if isRunning w toId then
      -- The source is looked up in the cache; one that is gone is only logged.
      some (if w.cached then { w with source := w.source.completeIMTransfer } else w)
    else none
  | .runEnds toId =>
    if isRunning w toId then
      let targets := w.targets.map fun t => if t.id = toId then { t with run := .released } else t
      some { w with
        targets := targets
        source := if w.cached then w.source.releaseIMTransfer toId else w.source }
    else none
  | .sourceLeaves => some { w with cached := false }

/-- A bridged source without transfers. -/
def TransferWorld.start : TransferWorld where
  source := ⟨false, 0, false⟩
  cached := true
  calls := []
  targets := []

def transferring (w : TransferWorld) : Bool := w.calls.any fun c => c ≠ .returned

/-- Some target that the source names is still running, so its release is still to come. -/
def NotLockedOut (w : TransferWorld) : Prop :=
  transferring w = false → w.source.pending = true →
    ∃ t ∈ w.targets, t.id = w.source.toId ∧ t.run = .running

end CallCenter.Queue
