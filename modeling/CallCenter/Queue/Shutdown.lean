import CallCenter.Lib.Fair

/-!
# The shutdown of the dialer

`DialingImpl.Start` leaves four watchers and the loop of the queue manager running. The dialing
watcher polls for attempts and sends each of them on the manager's unbuffered channel `input`.
`DialingImpl.Stop` stops them one after the other: the manager comes before the dialing watcher that
sends to it, and the manager closes `input` when it ends.

A send on a closed channel panics, and so does one that was blocked when the channel is closed.
-/

namespace CallCenter.Queue.Shutdown

open Lib

inductive WatcherId where
  | waitingList | dialing | statistics | expired
  deriving DecidableEq

inductive Chan where
  | stop | input | stopped
  | watcherStop (w : WatcherId) | watcherStopped (w : WatcherId)
  deriving DecidableEq

structure Polled where
  id : Int
  memberId : Option Int
  deriving DecidableEq

/-- Where a watcher is: in its `select`, in a poll with these attempts to send, or at its end. -/
inductive WatcherPc where
  | selecting
  | polling (rest : List Polled)
  | finished
  deriving DecidableEq

/-- Where the loop of `Manager.Start` is: in its `select`, in `DistributeAttempt`, before
`close(qm.input)`, before `close(qm.stopped)`, or at its end. -/
inductive ManagerPc where
  | selecting | distributing | closing | returning | finished
  deriving DecidableEq

inductive StopAction where
  | close (c : Chan)
  | await (c : Chan)
  /-- The wait for the attempts, and the reports for those that are left when it times out. -/
  | closeAttempts
  deriving DecidableEq

def stopWatcher (w : WatcherId) : List StopAction :=
  [.close (.watcherStop w), .await (.watcherStopped w)]

def stopManager : List StopAction :=
  stopWatcher .waitingList ++ [.closeAttempts, .close .stop, .await .stopped]

def stopDialing : List StopAction :=
  stopManager ++ stopWatcher .dialing ++ stopWatcher .statistics ++ stopWatcher .expired

structure Dialer where
  /-- What `Stop` has still to do. -/
  stop : List StopAction
  manager : ManagerPc
  watchers : WatcherId → WatcherPc
  closed : Chan → Bool
  panicked : Bool

def Dialer.start : Dialer where
  stop := stopDialing
  manager := .selecting
  watchers := fun _ => .selecting
  closed := fun _ => false
  panicked := false

namespace Dialer

def close (d : Dialer) (c : Chan) : Dialer :=
  { d with closed := fun c' => if c' = c then true else d.closed c' }

def setWatcher (d : Dialer) (w : WatcherId) (pc : WatcherPc) : Dialer :=
  { d with watchers := fun w' => if w' = w then pc else d.watchers w' }

def pending (d : Dialer) : List Polled :=
  match d.watchers .dialing with
  | .polling rest => rest
  | _ => []

end Dialer

/-- What a poll has to send: only `routeIdleAttempts` sends, and it skips attempts without a
member. -/
def toSend (w : WatcherId) (found : List Polled) : List Polled :=
  if w = .dialing then found.filter fun a => a.memberId.isSome else []

inductive Label where
  | stop
  | receive | distributed
  | takeStop | closeInput | closeStopped
  | poll (w : WatcherId) (found : List Polled)
  | sendClosed
  | polled (w : WatcherId)
  | watcherStop (w : WatcherId)
  deriving DecidableEq

/-- A step of the dialer. A statement that blocks is no step. -/
def shutdownStep (d : Dialer) (l : Label) : Option Dialer :=
  if d.panicked then none else
  match l with
  | .stop =>
    match d.stop with
    | [] => none
    | .close c :: rest =>
      if d.closed c then some { d with panicked := true } else some { d.close c with stop := rest }
    | .await c :: rest => if d.closed c then some { d with stop := rest } else none
    | .closeAttempts :: rest => some { d with stop := rest }
  | .receive =>
    match d.manager, d.watchers .dialing with
    | .selecting, .polling (_ :: rest) =>
      if d.closed .input then none
      else some { d.setWatcher .dialing (.polling rest) with manager := .distributing }
    | _, _ => none
  | .distributed =>
    if d.manager = .distributing then some { d with manager := .selecting } else none
  | .takeStop =>
    if d.manager = .selecting ∧ d.closed .stop = true then some { d with manager := .closing }
    else none
  | .closeInput =>
    if d.manager = .closing then some { d.close .input with manager := .returning } else none
  | .closeStopped =>
    if d.manager = .returning then some { d.close .stopped with manager := .finished } else none
  | .poll w found =>
    if d.watchers w = .selecting then some (d.setWatcher w (.polling (toSend w found))) else none
  | .sendClosed =>
    if d.pending ≠ [] ∧ d.closed .input = true then some { d with panicked := true } else none
  | .polled w => if d.watchers w = .polling [] then some (d.setWatcher w .selecting) else none
  | .watcherStop w =>
    if d.watchers w = .selecting ∧ d.closed (.watcherStop w) = true then
      some ((d.setWatcher w .finished).close (.watcherStopped w))
    else none

inductive Goroutine where
  | stop | manager | watcher (w : WatcherId)
  deriving DecidableEq

def Label.goroutine : Label → Goroutine
  | .stop => .stop
  | .receive | .distributed | .takeStop | .closeInput | .closeStopped => .manager
  | .poll w _ | .polled w | .watcherStop w => .watcher w
  | .sendClosed => .watcher .dialing

def Dialer.looping (d : Dialer) : Prop := d.manager = .selecting ∨ d.manager = .distributing

/-- The condition on a step, in the state before it. The manager takes the stop when the dialing
watcher has nothing left to send, and a poll that starts later finds nothing to send. -/
def orderly (d : Dialer) : Label → Prop
  | .takeStop => d.pending = []
  | .poll w found => d.looping ∨ toSend w found = []
  | _ => True

instance (d : Dialer) : Decidable d.looping :=
  inferInstanceAs (Decidable (_ ∨ _))

instance (d : Dialer) (l : Label) : Decidable (orderly d l) := by
  unfold orderly
  split <;> infer_instance

/-- From this time on no poll finds anything to send, and no watcher polls when it was told to
stop. -/
def QuietFrom (e : Execution shutdownStep) (start : Nat) : Prop :=
  ∀ n w found, start ≤ n → e.label n = some (.poll w found) →
    toSend w found = [] ∧ (e.state n).closed (.watcherStop w) = false

end CallCenter.Queue.Shutdown
