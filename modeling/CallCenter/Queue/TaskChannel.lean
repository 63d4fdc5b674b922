import CallCenter.Lib.Run
import CallCenter.Queue.Action
import CallCenter.Queue.Joins

/-!
# The task of an agent

The agent's requests (`AcceptAgentTask`, `CloseAgentTask`, a report) tell the queue's goroutine by
the task's channel `stateC`, whose buffer has room for one state. They send while they hold the lock
of the task. The queue's goroutine, the *owner*, is the only one that receives; between two receives
it takes the lock too, and the IM queue also sends to its own channel.

Two things can then stop the owner for good. It sends while its buffer is full, and nobody but
itself could make room. Or a request waits in its send, with the lock, until the owner receives, and
the owner wants the lock first (`Jammed`).
-/

namespace CallCenter.Queue

open Lib

structure TaskChannel where
  id : String
  state : TaskState
  stateC : Option TaskState
  createdAt : Nat
  bridgedAt : Nat
  closedAt : Nat
  reportingAt : Nat

def newTaskChannel (id : String) (now : Nat) : TaskChannel where
  id := id
  state := .idle
  stateC := none
  createdAt := now
  bridgedAt := 0
  closedAt := 0
  reportingAt := 0

namespace TaskChannel

def isDeclined (t : TaskChannel) : Bool := t.bridgedAt = 0

def setAnswered (now : Nat) (t : TaskChannel) : Except AppError TaskChannel :=
  if t.bridgedAt ≠ 0 then .error ⟨"queue.task.valid.bridged_at", 400⟩
  else .ok { t with bridgedAt := now, state := .bridged }

def setClosed (now : Nat) (t : TaskChannel) : Except AppError TaskChannel :=
  if t.closedAt ≠ 0 then .error ⟨"queue.task.valid.closed_at", 400⟩
  else .ok { t with closedAt := now, state := .closed }

def send (t : TaskChannel) : Option TaskChannel :=
  match t.stateC with
  | none => some { t with stateC := some t.state }
  | some _ => none

/-- `Reporting`, as it returns. A send that finds the buffer full waits, with the lock, until the
owner has received what is there; a report that waits for good does not return. -/
def report (now : Nat) (t : TaskChannel) : TaskChannel × Option AppError :=
  let t := { t with reportingAt := now }
  if t.closedAt = 0 then
    match t.setClosed now with
    | .ok t => ({ t with stateC := some t.state }, none)
    | .error e => (t, some e)
  else (t, none)

end TaskChannel

/-! ## The owner and the requests -/

/-- The queue of the owner. For an IM queue, whether the attempt is a transfer to an agent. -/
inductive TaskQueue where
  | im (transfer : Bool)
  | task
  deriving DecidableEq

inductive OwnerPc where
  | offering
  /-- The agent is in the thread already: about to call `SetAnswered`. -/
  | answering
  | selecting
  /-- Cancelled, or the invite has timed out: reads `bridgedAt`, without the lock. -/
  | checking
  | closing
  | sending
  /-- Received `bridged`: `joinAgent`. -/
  | joining
  /-- Received `closed`: about to call `IsDeclined`. -/
  | deciding
  /-- Waits for the next agent; the variable `task` still has this one. -/
  | waiting
  /-- `finalizeAttempt`, or the end of `run` of a task queue: about to call `IsDeclined`. -/
  | finalizing
  | declined
  | reporting
  | ending
  | done
  deriving DecidableEq

def OwnerPc.needsLock : OwnerPc → Bool
  | .answering | .closing | .deciding | .finalizing | .declined | .reporting => true
  | _ => false

/-- Where a request is: before the lock of `SetAnswered`, of `SetClosed` or of `Reporting`, past
the first part of `Reporting`, in its send, or back. -/
inductive Request where
  | accept | close | report | reported | sending | returned
  deriving DecidableEq

/-- Who holds the lock from one step to the next. Only a goroutine in its send does. -/
inductive Holder where
  | owner
  | request (i : Nat)
  deriving DecidableEq

structure TaskWorld where
  now : Nat
  queue : TaskQueue
  task : TaskChannel
  lock : Option Holder
  owner : OwnerPc
  cancelArmed : Bool
  /-- The timer of the invite, or of the accept timeout, has neither fired nor been stopped. -/
  timerArmed : Bool
  requests : List Request

def taskWorld (queue : TaskQueue) (id : String) (now : Nat) : TaskWorld where
  now := now
  queue := queue
  task := newTaskChannel id now
  lock := none
  owner := .offering
  cancelArmed := true
  timerArmed := true
  requests := []

inductive OwnerMove where
  | refused
  | previewFails
  | alreadyMember
  | offered
  | setAnswered
  | send
  | receive
  | cancelled
  | inviteTimeout
  | check
  | setClosed
  /-- The session is done, the attempt transferred, or the time is up. -/
  | leave
  | joined
  /-- `stored` says whether `SetAttemptMissedAgent` has succeeded, which takes the agent from the
  attempt. -/
  | joinFails (stored : Bool)
  | decide (stored : Bool)
  | nextAgent
  /-- The attempt is cancelled or out of time while it waits for the next agent. -/
  | stopWaiting
  | isDeclined
  | reportingAt
  | reportingAtAgain
  | finish

inductive TaskLabel where
  | wait (ms : Nat)
  | call (r : Request)
  | owner (m : OwnerMove)
  | request (i : Nat)

namespace TaskWorld

def goes (w : TaskWorld) (p : OwnerPc) (next : OwnerPc) : Option TaskWorld :=
  if w.owner = p then some { w with owner := next } else none

def locks (w : TaskWorld) (p : OwnerPc) (next : OwnerPc) : Option TaskWorld :=
  if w.owner = p ∧ w.lock = none then some { w with owner := next } else none

def ownerSets (w : TaskWorld) (p : OwnerPc) (set : Except AppError TaskChannel) :
    Option TaskWorld :=
  if w.owner = p ∧ w.lock = none then
    match set with
    -- the error is dropped
    | .error _ => some { w with owner := .selecting }
    | .ok t => some { w with task := t, lock := some .owner, owner := .sending }
  else none

def isIM (w : TaskWorld) : Bool := w.queue ≠ .task

def afterReceive (w : TaskWorld) : TaskState → OwnerPc
  | .idle => .selecting
  | .bridged => if w.isIM then .joining else .selecting
  | .closed => if w.isIM then .deciding else .finalizing

/-- A state received from the channel. The IM queue stops the timer whichever it is. -/
def receive (w : TaskWorld) : Option TaskWorld :=
  match w.task.stateC with
  | some s =>
    { w with task := { w.task with stateC := none }
             timerArmed := w.timerArmed && (s == TaskState.idle && !w.isIM) }.goes .selecting
      (w.afterReceive s)
  | none => none

/-- After the agent is missed: a transfer to an agent ends, any other attempt waits for the next
one. `finalizeAttempt` does not look at the task of an attempt without an agent. -/
def afterMissed (w : TaskWorld) (stored : Bool) : OwnerPc :=
  if w.queue = .im true then (if stored then .done else .finalizing) else .waiting

def ownerStep (w : TaskWorld) : OwnerMove → Option TaskWorld
  | .refused => if w.isIM then none else w.goes .offering .done
  | .previewFails =>
    if w.isIM then w.goes .offering (if w.queue = .im true then .done else .waiting) else none
  | .alreadyMember => if w.isIM then w.goes .offering .answering else none
  | .offered => w.goes .offering .selecting
  | .setAnswered => w.ownerSets .answering (w.task.setAnswered w.now)
  | .send =>
    if w.owner = .sending then
      w.task.send.map fun t => { w with task := t, lock := none, owner := .selecting }
    else none
  | .receive => w.receive
  | .cancelled =>
    if w.isIM ∧ w.cancelArmed then { w with cancelArmed := false }.goes .selecting .checking
    else none
  | .inviteTimeout =>
    if w.isIM ∧ w.timerArmed then { w with timerArmed := false }.goes .selecting .checking
    else none
  -- an accept may come between this read and the lock of `SetClosed`
  | .check => w.goes .checking (if w.task.bridgedAt = 0 then .closing else .selecting)
  | .setClosed => w.ownerSets .closing (w.task.setClosed w.now)
  | .leave => if w.isIM ∨ w.timerArmed then w.goes .selecting .finalizing else none
  | .joined => w.goes .joining .selecting
  | .joinFails stored => w.goes .joining (w.afterMissed stored)
  | .decide stored =>
    w.locks .deciding (if w.task.isDeclined then w.afterMissed stored else .finalizing)
  | .nextAgent => w.goes .waiting .done
  | .stopWaiting => w.goes .waiting .finalizing
  | .isDeclined => w.locks .finalizing (if w.task.isDeclined then .declined else .reporting)
  | .reportingAt => w.locks .declined (if w.task.reportingAt = 0 then .ending else .reporting)
  | .reportingAtAgain => w.locks .reporting .ending
  | .finish => w.goes .ending .done

def requestSets (w : TaskWorld) (i : Nat) (set : Except AppError TaskChannel) :
    Option TaskWorld :=
  if w.lock = none then
    match set with
    | .error _ => some { w with requests := w.requests.set i .returned }
    | .ok t =>
      some { w with task := t, lock := some (.request i), requests := w.requests.set i .sending }
  else none

def requestStep (w : TaskWorld) (i : Nat) : Option TaskWorld :=
  match w.requests[i]? with
  | some .accept => w.requestSets i (w.task.setAnswered w.now)
  | some .close => w.requestSets i (w.task.setClosed w.now)
  | some .report =>
    if w.lock = none then
      some { w with task := { w.task with reportingAt := w.now }
                    requests := w.requests.set i .reported }
    else none
  -- `closedAt` is read without the lock
  | some .reported =>
    some { w with requests := w.requests.set i (if w.task.closedAt = 0 then .close else .returned) }
  | some .sending =>
    if w.lock = some (.request i) then
      w.task.send.map fun t =>
        { w with task := t, lock := none, requests := w.requests.set i .returned }
    else none
  | some .returned | none => none

end TaskWorld

def taskStep (w : TaskWorld) : TaskLabel → Option TaskWorld
  | .wait ms => some { w with now := w.now + ms }
  | .call r =>
    if r = .accept ∨ r = .close ∨ r = .report then
      some { w with requests := w.requests ++ [r] }
    else none
  | .owner m => w.ownerStep m
  | .request i => w.requestStep i

/-! ## Blocked for good -/

namespace TaskWorld

/-- The owner is in its send or waits for the lock, and cannot go on. -/
def Blocked (w : TaskWorld) : Prop :=
  (w.owner = .sending ∨ w.owner.needsLock) ∧ ∀ m, w.ownerStep m = none

def PermanentlyBlocked (w : TaskWorld) : Prop :=
  ∀ ls w', run taskStep w ls = some w' → w'.Blocked

/-- A request waits in its send, with the lock, for the owner to receive. -/
def Jammed (w : TaskWorld) : Prop :=
  w.task.stateC ≠ none ∧ w.lock ≠ none ∧ w.lock ≠ some .owner

instance (w : TaskWorld) : Decidable w.Jammed := by unfold Jammed; infer_instance

/-- The next step of request `i` begins a send, once it has the lock. -/
def BeginsSend (w : TaskWorld) (i : Nat) : Prop :=
  (w.requests[i]? = some .accept ∧ w.task.bridgedAt = 0)
    ∨ (w.requests[i]? = some .close ∧ w.task.closedAt = 0)

instance (w : TaskWorld) (i : Nat) : Decidable (w.BeginsSend i) := by
  unfold BeginsSend; infer_instance

/-- The order of steps in which nobody gets stuck: the owner sends only into an empty buffer, it
does not go where it needs the lock while a request waits in its send, and no request begins to
wait there while the owner needs the lock. -/
def Orderly (w : TaskWorld) : TaskLabel → Prop
  | .owner .setAnswered => w.task.bridgedAt = 0 → w.task.stateC = none
  | .owner .setClosed => w.task.closedAt = 0 → w.task.stateC = none
  | .owner .check => w.task.bridgedAt = 0 → ¬ w.Jammed
  | .owner .alreadyMember => ¬ w.Jammed
  | .owner .leave => ¬ w.Jammed
  | .owner (.joinFails _) => ¬ w.Jammed
  | .owner .stopWaiting => ¬ w.Jammed
  | .request i => w.BeginsSend i → w.task.stateC = none ∨ ¬ w.owner.needsLock
  | _ => True

instance (w : TaskWorld) (l : TaskLabel) : Decidable (w.Orderly l) := by
  unfold Orderly; split <;> infer_instance

end TaskWorld

/-! ## What a request can do -/

/-- A step of request `i`: it sends nothing and keeps the lock as it is, it begins its send, or it
ends it. -/
inductive RequestEffect (w : TaskWorld) (i : Nat) : TaskWorld → Prop where
  | quiet {t : TaskChannel} {r : Request} (hbuffer : t.stateC = w.task.stateC)
      (hi : w.requests[i]? ≠ some .sending) :
      RequestEffect w i { w with task := t, requests := w.requests.set i r }
  | begins {t : TaskChannel} (hbuffer : t.stateC = w.task.stateC) (hlock : w.lock = none)
      (hbegins : w.BeginsSend i) :
      RequestEffect w i
        { w with task := t, lock := some (.request i), requests := w.requests.set i .sending }
  | sends {t : TaskChannel} (hlock : w.lock = some (.request i)) (hempty : w.task.stateC = none) :
      RequestEffect w i { w with task := t, lock := none, requests := w.requests.set i .returned }

namespace TaskChannel

variable {t t' : TaskChannel} {now : Nat}

theorem send_eq_some (h : t.send = some t') : t.stateC = none := by
  unfold send at h
  split at h
  · assumption
  · cases h

theorem setAnswered_eq_ok (h : t.setAnswered now = .ok t') :
    t.bridgedAt = 0 ∧ t'.stateC = t.stateC := by
  unfold setAnswered at h
  split_ifs at h with hset
  rw [← Except.ok.inj h]
  exact ⟨not_not.mp hset, rfl⟩

theorem setClosed_eq_ok (h : t.setClosed now = .ok t') :
    t.closedAt = 0 ∧ t'.stateC = t.stateC := by
  unfold setClosed at h
  split_ifs at h with hset
  rw [← Except.ok.inj h]
  exact ⟨not_not.mp hset, rfl⟩

end TaskChannel

section

variable {w w' : TaskWorld} {i : Nat}

theorem requestEffect_of_requestSets {set : Except AppError TaskChannel}
    (hi : w.requests[i]? ≠ some .sending)
    (hset : ∀ t, set = .ok t → t.stateC = w.task.stateC ∧ w.BeginsSend i)
    (hs : w.requestSets i set = some w') : RequestEffect w i w' := by
  obtain ⟨hlock, hs⟩ := Option.ite_none_right_eq_some.mp hs
  cases set with
  | error e =>
    cases hs
    exact .quiet rfl hi
  | ok t =>
    cases hs
    exact .begins (hset t rfl).1 hlock (hset t rfl).2

theorem requestEffect_of_requestStep (hs : w.requestStep i = some w') : RequestEffect w i w' := by
  unfold TaskWorld.requestStep at hs
  split at hs
  next hi =>
    refine requestEffect_of_requestSets (by simp [hi]) (fun t ht => ?_) hs
    obtain ⟨hfirst, hbuffer⟩ := TaskChannel.setAnswered_eq_ok ht
    exact ⟨hbuffer, .inl ⟨hi, hfirst⟩⟩
  next hi =>
    refine requestEffect_of_requestSets (by simp [hi]) (fun t ht => ?_) hs
    obtain ⟨hfirst, hbuffer⟩ := TaskChannel.setClosed_eq_ok ht
    exact ⟨hbuffer, .inr ⟨hi, hfirst⟩⟩
  next hi =>
    obtain ⟨_, rfl⟩ := of_guard hs
    exact .quiet rfl (by simp [hi])
  next hi =>
    cases hs
    exact .quiet rfl (by simp [hi])
  next hi =>
    obtain ⟨hlock, hs⟩ := Option.ite_none_right_eq_some.mp hs
    obtain ⟨t, ht, rfl⟩ := Option.map_eq_some_iff.mp hs
    exact .sends hlock (TaskChannel.send_eq_some ht)
  · cases hs
  · cases hs

end

/-! ## Stuck in its own send -/

structure SendsToItself (w : TaskWorld) : Prop where
  owner : w.owner = .sending
  lock : w.lock = some .owner
  full : w.task.stateC ≠ none

namespace SendsToItself

variable {w w' : TaskWorld}

theorem ownerStep_eq_none (h : SendsToItself w) (m : OwnerMove) : w.ownerStep m = none := by
  obtain ⟨s, hs⟩ := Option.ne_none_iff_exists'.mp h.full
  cases m <;>
    simp [TaskWorld.ownerStep, TaskWorld.goes, TaskWorld.locks, TaskWorld.ownerSets,
      TaskWorld.receive, TaskChannel.send, h.owner, h.lock, hs]

theorem step (h : SendsToItself w) {l : TaskLabel} (hs : taskStep w l = some w') :
    SendsToItself w' := by
  cases l with
  | wait ms =>
    cases hs
    exact ⟨h.owner, h.lock, h.full⟩
  | call r =>
    obtain ⟨_, rfl⟩ := of_guard hs
    exact ⟨h.owner, h.lock, h.full⟩
  | owner m =>
    rw [taskStep, h.ownerStep_eq_none] at hs
    cases hs
  | request i =>
    -- whatever a request does to the channel it does with the lock
    cases requestEffect_of_requestStep hs with
    | quiet hbuffer _ => exact ⟨h.owner, h.lock, hbuffer ▸ h.full⟩
    | begins _ hlock _ => cases h.lock.symm.trans hlock
    | sends hlock _ => cases h.lock.symm.trans hlock

theorem permanentlyBlocked (h : SendsToItself w) : w.PermanentlyBlocked := by
  intro ls w' hrun
  have h' : SendsToItself w' :=
    run_invariant (fun _ _ _ hinv _ hs => step hinv hs) ls h
      (along_of_forall (fun _ _ => trivial) ls w) hrun
  exact ⟨.inl h'.owner, h'.ownerStep_eq_none⟩

end SendsToItself

/-! ## Nobody stuck -/

/-- Whoever has the lock is in its send, and nobody's send is in the owner's way. -/
structure TaskInv (w : TaskWorld) : Prop where
  /-- The owner's own send finds room. -/
  sending : w.owner = .sending → w.lock = some .owner ∧ w.task.stateC = none
  owner : w.lock = some .owner → w.owner = .sending
  request : ∀ i, w.lock = some (.request i) → w.requests[i]? = some .sending
  /-- No request waits in its send for an owner that wants the lock. -/
  calm : w.owner.needsLock → ¬ w.Jammed

namespace TaskInv

variable {w w' : TaskWorld}

theorem init (queue : TaskQueue) (id : String) (now : Nat) : TaskInv (taskWorld queue id now) where
  sending h := by cases h
  owner h := by cases h
  request _ h := by cases h
  calm h := by cases h

theorem moves (h : TaskInv w) {p : OwnerPc} (hfrom : w.owner ≠ .sending) (hto : p ≠ .sending)
    (hcalm : p.needsLock → ¬ w.Jammed) (c t : Bool) :
    TaskInv { w with owner := p, cancelArmed := c, timerArmed := t } where
  sending hp := absurd hp hto
  owner hlock := absurd (h.owner hlock) hfrom
  request := h.request
  calm := hcalm

theorem goes (h : TaskInv w) {p q : OwnerPc} (hp : p ≠ .sending) (hq : q ≠ .sending)
    (hcalm : q.needsLock → ¬ w.Jammed) (hs : w.goes p q = some w') : TaskInv w' := by
  obtain ⟨hfrom, rfl⟩ := of_guard hs
  exact h.moves (hfrom ▸ hp) hq hcalm w.cancelArmed w.timerArmed

theorem locks (h : TaskInv w) {p q : OwnerPc} (hp : p ≠ .sending) (hq : q ≠ .sending)
    (hs : w.locks p q = some w') : TaskInv w' := by
  obtain ⟨⟨hfrom, hlock⟩, rfl⟩ := of_guard hs
  exact h.moves (hfrom ▸ hp) hq (fun _ hjam => hjam.2.1 hlock) w.cancelArmed w.timerArmed

theorem ownerSets (h : TaskInv w) {p : OwnerPc} {set : Except AppError TaskChannel}
    (hp : p ≠ .sending) (hset : ∀ t, set = .ok t → t.stateC = none)
    (hs : w.ownerSets p set = some w') : TaskInv w' := by
  obtain ⟨⟨hfrom, hlock⟩, hs⟩ := Option.ite_none_right_eq_some.mp hs
  cases set with
  | error e =>
    cases hs
    exact h.moves (hfrom ▸ hp) (by decide) (fun hneeds => by cases hneeds) w.cancelArmed
      w.timerArmed
  | ok t =>
    cases hs
    exact {
      sending := fun _ => ⟨rfl, hset t rfl⟩
      owner := fun _ => rfl
      request := fun _ hi => by cases hi
      calm := fun hneeds => by cases hneeds }

theorem afterMissed_ne (w : TaskWorld) (stored : Bool) : w.afterMissed stored ≠ .sending := by
  unfold TaskWorld.afterMissed
  split_ifs <;> decide

theorem afterReceive_ne (w : TaskWorld) (s : TaskState) : w.afterReceive s ≠ .sending := by
  unfold TaskWorld.afterReceive
  split <;> (try split_ifs) <;> decide

theorem receive (h : TaskInv w) (hs : w.receive = some w') : TaskInv w' := by
  unfold TaskWorld.receive at hs
  split at hs
  next s _ =>
    obtain ⟨hfrom, rfl⟩ := of_guard hs
    exact {
      sending := fun hp => absurd hp (afterReceive_ne w s)
      owner := fun hlock => by cases (h.owner hlock).symm.trans hfrom
      request := h.request
      calm := fun _ hjam => hjam.1 rfl }
  · cases hs

theorem ownerStep (h : TaskInv w) {m : OwnerMove} (hok : w.Orderly (.owner m))
    (hs : w.ownerStep m = some w') : TaskInv w' := by
  have hnever : ∀ {p : OwnerPc}, p.needsLock = false → p.needsLock → ¬ w.Jammed :=
    fun hp hneeds => absurd hneeds (by simp [hp])
  cases m with
  | refused =>
    obtain ⟨_, hs⟩ := Option.ite_none_left_eq_some.mp hs
    exact h.goes (by decide) (by decide) (hnever rfl) hs
  | previewFails =>
    obtain ⟨_, hs⟩ := Option.ite_none_right_eq_some.mp hs
    refine h.goes (by decide) ?_ ?_ hs
    · split_ifs <;> decide
    · split_ifs <;> exact hnever rfl
  | alreadyMember =>
    obtain ⟨_, hs⟩ := Option.ite_none_right_eq_some.mp hs
    exact h.goes (by decide) (by decide) (fun _ => hok) hs
  | offered => exact h.goes (by decide) (by decide) (hnever rfl) hs
  | setAnswered =>
    refine h.ownerSets (by decide) (fun t ht => ?_) hs
    obtain ⟨hfirst, hbuffer⟩ := TaskChannel.setAnswered_eq_ok ht
    exact hbuffer.trans (hok hfirst)
  | send =>
    obtain ⟨hfrom, hs⟩ := Option.ite_none_right_eq_some.mp hs
    obtain ⟨t, _, rfl⟩ := Option.map_eq_some_iff.mp hs
    exact {
      sending := fun hp => by cases hp
      owner := fun hlock => by cases hlock
      request := fun _ hlock => by cases hlock
      calm := fun hneeds => by cases hneeds }
  | receive => exact h.receive hs
  | cancelled =>
    obtain ⟨_, hs⟩ := Option.ite_none_right_eq_some.mp hs
    obtain ⟨hfrom, rfl⟩ := of_guard hs
    have hfrom : w.owner = .selecting := hfrom
    exact h.moves (by rw [hfrom]; decide) (by decide) (hnever rfl) false w.timerArmed
  | inviteTimeout =>
    obtain ⟨_, hs⟩ := Option.ite_none_right_eq_some.mp hs
    obtain ⟨hfrom, rfl⟩ := of_guard hs
    have hfrom : w.owner = .selecting := hfrom
    exact h.moves (by rw [hfrom]; decide) (by decide) (hnever rfl) w.cancelArmed false
  | check =>
    refine h.goes (by decide) ?_ ?_ hs
    · split_ifs <;> decide
    · split_ifs with hzero
      · exact fun _ => hok hzero
      · exact hnever rfl
  | setClosed =>
    refine h.ownerSets (by decide) (fun t ht => ?_) hs
    obtain ⟨hfirst, hbuffer⟩ := TaskChannel.setClosed_eq_ok ht
    exact hbuffer.trans (hok hfirst)
  | leave =>
    obtain ⟨_, hs⟩ := Option.ite_none_right_eq_some.mp hs
    exact h.goes (by decide) (by decide) (fun _ => hok) hs
  | joined => exact h.goes (by decide) (by decide) (hnever rfl) hs
  | joinFails stored => exact h.goes (by decide) (afterMissed_ne w stored) (fun _ => hok) hs
  | decide stored =>
    refine h.locks (by decide) ?_ hs
    split_ifs
    · exact afterMissed_ne w stored
    · decide
  | nextAgent => exact h.goes (by decide) (by decide) (hnever rfl) hs
  | stopWaiting => exact h.goes (by decide) (by decide) (fun _ => hok) hs
  | isDeclined => exact h.locks (by decide) (by split_ifs <;> decide) hs
  | reportingAt => exact h.locks (by decide) (by split_ifs <;> decide) hs
  | reportingAtAgain => exact h.locks (by decide) (by decide) hs
  | finish => exact h.goes (by decide) (by decide) (hnever rfl) hs

theorem getElem?_of_beginsSend {i : Nat} (h : w.BeginsSend i) : i < w.requests.length := by
  rcases h with ⟨hi, _⟩ | ⟨hi, _⟩ <;> exact (List.getElem?_eq_some_iff.mp hi).1

theorem requestStep (h : TaskInv w) {i : Nat} (hok : w.Orderly (.request i))
    (hs : w.requestStep i = some w') : TaskInv w' := by
  cases requestEffect_of_requestStep hs with
  | @quiet t r hbuffer hi =>
    exact {
      sending := fun hp => ⟨(h.sending hp).1, hbuffer.trans (h.sending hp).2⟩
      owner := h.owner
      request := fun j hlock => by
        have hj := h.request j hlock
        have hne : i ≠ j := fun heq => hi (heq ▸ hj)
        exact (List.getElem?_set_ne hne).trans hj
      calm := fun hneeds hjam => h.calm hneeds ⟨hbuffer ▸ hjam.1, hjam.2⟩ }
  | @begins t hbuffer hlock hbegins =>
    exact {
      sending := fun hp => by cases hlock.symm.trans (h.sending hp).1
      owner := fun hlock => by cases hlock
      request := fun j hj => by
        obtain rfl : i = j := by cases hj; rfl
        exact List.getElem?_set_self (getElem?_of_beginsSend hbegins)
      -- it waits only if the buffer is full, and then the owner does not need the lock
      calm := fun hneeds hjam => by
        rcases hok hbegins with hempty | hfree
        · exact hjam.1 (hbuffer.trans hempty)
        · exact hfree hneeds }
  | @sends t hlock hempty =>
    exact {
      sending := fun hp => by cases hlock.symm.trans (h.sending hp).1
      owner := fun hnone => by cases hnone
      request := fun _ hnone => by cases hnone
      calm := fun _ hjam => hjam.2.1 rfl }

theorem step (h : TaskInv w) {l : TaskLabel} (hok : w.Orderly l) (hs : taskStep w l = some w') :
    TaskInv w' := by
  cases l with
  | wait ms =>
    cases hs
    exact ⟨h.sending, h.owner, h.request, h.calm⟩
  | call r =>
    obtain ⟨_, rfl⟩ := of_guard hs
    refine ⟨h.sending, h.owner, fun i hlock => ?_, h.calm⟩
    have hi := h.request i hlock
    exact (List.getElem?_append_left (List.getElem?_eq_some_iff.mp hi).1).trans hi
  | owner m => exact h.ownerStep hok hs
  | request i => exact h.requestStep hok hs

end TaskInv

namespace TaskWorld

theorem ownerStep_of_needsLock {w : TaskWorld} (hneeds : w.owner.needsLock)
    (hlock : w.lock = none) : ∃ m, w.ownerStep m ≠ none := by
  have hsets : ∀ {p : OwnerPc} {set : Except AppError TaskChannel}, w.owner = p →
      w.ownerSets p set ≠ none := by
    intro p set hp
    unfold ownerSets
    rw [if_pos ⟨hp, hlock⟩]
    cases set <;> exact Option.some_ne_none _
  have hreads : ∀ {p q : OwnerPc}, w.owner = p → w.locks p q ≠ none := by
    intro p q hp
    unfold locks
    rw [if_pos ⟨hp, hlock⟩]
    exact Option.some_ne_none _
  cases hp : w.owner with
  | answering => exact ⟨.setAnswered, hsets hp⟩
  | closing => exact ⟨.setClosed, hsets hp⟩
  | deciding => exact ⟨.decide true, hreads hp⟩
  | finalizing => exact ⟨.isDeclined, hreads hp⟩
  | declined => exact ⟨.reportingAt, hreads hp⟩
  | reporting => exact ⟨.reportingAtAgain, hreads hp⟩
  | _ => rw [hp] at hneeds; cases hneeds

/-- Either the owner can go on, or it waits for the lock of a request whose send finds the buffer
empty. -/
theorem not_permanentlyBlocked {w : TaskWorld} (h : TaskInv w) : ¬ w.PermanentlyBlocked := by
  intro hblocked
  obtain ⟨hwhere, hstuck⟩ := hblocked [] w rfl
  rcases hwhere with hsending | hneeds
  · -- its own send finds the buffer empty
    obtain ⟨_, hempty⟩ := h.sending hsending
    have hsend := hstuck .send
    simp [ownerStep, hsending, TaskChannel.send, hempty] at hsend
  · cases hlock : w.lock with
    | none =>
      obtain ⟨m, hm⟩ := ownerStep_of_needsLock hneeds hlock
      exact hm (hstuck m)
    | some holder =>
      cases holder with
      | owner =>
        rw [h.owner hlock] at hneeds
        cases hneeds
      | request i =>
        have hempty : w.task.stateC = none := by
          by_contra hfull
          exact h.calm hneeds ⟨hfull, by simp [hlock], by simp [hlock]⟩
        -- once its send is over, the lock is free
        have hnext : ∃ w', taskStep w (.request i) = some w' ∧ w'.owner = w.owner
            ∧ w'.lock = none := by
          simp [taskStep, requestStep, h.request i hlock, hlock, TaskChannel.send, hempty]
        obtain ⟨w', hs, howner, hfree⟩ := hnext
        obtain ⟨m, hm⟩ := ownerStep_of_needsLock (howner ▸ hneeds) hfree
        exact hm ((hblocked [.request i] w' (by simp [run, hs])).2 m)

end TaskWorld

/-- **The owner of a task is never stuck on it**, in any orderly run. -/
theorem owner_never_stuck {queue : TaskQueue} {id : String} {now : Nat} {ls : List TaskLabel}
    {w : TaskWorld} (hrun : run taskStep (taskWorld queue id now) ls = some w)
    (horder : Along taskStep TaskWorld.Orderly (taskWorld queue id now) ls) :
    ¬ w.PermanentlyBlocked :=
  TaskWorld.not_permanentlyBlocked
    (run_invariant (fun _ _ _ hinv hok hs => hinv.step hok hs) ls (TaskInv.init queue id now) horder
      hrun)

/-- An agent who accepts, is joined and closes, each time after the owner has read the state. -/
def acceptThenClose : List TaskLabel :=
  [.owner .offered, .call .accept, .request 0, .request 0, .owner .receive, .owner .joined,
    .call .close, .request 1, .request 1, .owner .receive]

theorem acceptThenClose_goes_on :
    ∃ w, run taskStep (taskWorld (.im false) "1" 1) acceptThenClose = some w
      ∧ w.owner = .deciding ∧ ¬ w.PermanentlyBlocked := by
  have horder : Along taskStep TaskWorld.Orderly (taskWorld (.im false) "1" 1) acceptThenClose := by
    decide
  exact ⟨_, rfl, rfl, owner_never_stuck rfl horder⟩

/-- The invite times out, and the agent accepts after the owner has read `bridgedAt` and before it
closes the task: the owner sends `closed` on top of the `bridged` it has not received. -/
theorem acceptAtTimeout_stuck :
    ∃ w, run taskStep (taskWorld (.im false) "1" 1)
        [.owner .offered, .owner .inviteTimeout, .owner .check, .call .accept, .request 0,
          .request 0, .owner .setClosed] = some w
      ∧ w.PermanentlyBlocked :=
  ⟨_, rfl, SendsToItself.permanentlyBlocked ⟨rfl, rfl, by decide⟩⟩

end CallCenter.Queue
