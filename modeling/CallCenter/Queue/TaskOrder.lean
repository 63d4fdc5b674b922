import CallCenter.Queue.TaskChannel

/-!
# The order of the states of a task

A task is answered, then closed; or it is closed without having been answered, and then it is
declined. Around it are the goroutines that call `SetAnswered`, `SetClosed` and `Reporting`, and the
reader of its channel, which calls `IsDeclined` whenever it likes. What they see is a log.

A state that was set goes through three places: the send of the goroutine that has set it, the
buffer, and the reader. `pipe` is all three, the oldest first, and the invariant is an equation: the
pipe is `Bridged` if the task has a time of the answer, followed by `Closed` if it has a time of the
closing. Only `SetAnswered` breaks it, which answers a task that is closed.
-/

namespace CallCenter.Queue

open Lib

inductive TaskEvent where
  | delivered (s : TaskState)
  | answered (ok : Bool)
  | closed (ok : Bool)
  | declined (b : Bool)
  deriving DecidableEq

def TaskEvent.sent : TaskState → TaskEvent
  | .bridged => .answered true
  | _ => .closed true

structure ReaderWorld where
  now : Nat
  task : TaskChannel
  lock : Option Holder
  own : Request
  requests : List Request
  log : List TaskEvent

def readerWorld (id : String) (now : Nat) : ReaderWorld where
  now := now
  task := newTaskChannel id now
  lock := none
  own := .returned
  requests := []
  log := []

inductive ReaderLabel where
  | wait (ms : Nat)
  | call (r : Request)
  | callOwn (r : Request)
  | request (i : Nat)
  | own
  | receive
  | isDeclined

namespace ReaderWorld

def sets (w : ReaderWorld) (h : Holder) (set : Except AppError TaskChannel) (failed : TaskEvent) :
    Option (ReaderWorld × Request) :=
  if w.lock = none then
    match set with
    | .error _ => some ({ w with log := w.log ++ [failed] }, .returned)
    | .ok t => some ({ w with task := t, lock := some h }, .sending)
  else none

def advance (w : ReaderWorld) (h : Holder) : Request → Option (ReaderWorld × Request)
  | .accept => w.sets h (w.task.setAnswered w.now) (.answered false)
  | .close => w.sets h (w.task.setClosed w.now) (.closed false)
  | .report =>
    if w.lock = none then
      some ({ w with task := { w.task with reportingAt := w.now } }, .reported)
    else none
  -- `closedAt` is read without the lock
  | .reported => some (w, if w.task.closedAt = 0 then .close else .returned)
  | .sending =>
    if w.lock = some h then
      w.task.send.map fun t =>
        ({ w with task := t, lock := none, log := w.log ++ [.sent t.state] }, .returned)
    else none
  | .returned => none

end ReaderWorld

def Request.isCall (r : Request) : Bool := r = .accept || r = .close || r = .report

def readerStep (w : ReaderWorld) : ReaderLabel → Option ReaderWorld
  | .wait ms => some { w with now := w.now + ms }
  | .call r => if r.isCall then some { w with requests := w.requests ++ [r] } else none
  | .callOwn r => if w.own = .returned ∧ r.isCall then some { w with own := r } else none
  | .request i =>
    w.requests[i]?.bind fun r =>
      (w.advance (.request i) r).map fun p => { p.1 with requests := p.1.requests.set i p.2 }
  | .own => (w.advance .owner w.own).map fun p => { p.1 with own := p.2 }
  | .receive =>
    match w.own, w.task.stateC with
    | .returned, some s => some { w with
        task := { w.task with stateC := none }, log := w.log ++ [.delivered s] }
    | _, _ => none
  | .isDeclined =>
    if w.own = .returned ∧ w.lock = none then
      some { w with log := w.log ++ [.declined w.task.isDeclined] }
    else none

/-! ## Closed is final -/

/-- What the reader may count on, of a task and of what was seen of it. -/
structure ClosedIsFinal (log : List TaskEvent) (t : TaskChannel) : Prop where
  once : ∀ s, log.count (.delivered s) ≤ 1
  last : NeverAfter (fun _ e => e = .delivered .closed) (fun e => ∃ s, e = .delivered s) log
  refuses : NeverAfter (fun _ e => e = .closed true) (fun e => e = .answered true) log
  /-- `Closed` without `Bridged` before it: declined now, and whenever the reader has asked. -/
  declined : ∀ before after, log = before ++ .delivered .closed :: after →
    .delivered .bridged ∉ before → t.isDeclined
  staysDeclined : NeverAfter
    (fun before e => e = .delivered .closed ∧ .delivered .bridged ∉ before)
    (fun e => e = .declined false) log

namespace ReaderWorld

/-- The goroutine that is about to move is about to take the lock for `SetAnswered`. -/
def answering (w : ReaderWorld) : ReaderLabel → Bool
  | .request i => w.requests[i]? = some .accept
  | .own => w.own = .accept
  | _ => false

/-- No `SetAnswered` gets to a task that is closed and was never answered. -/
def InTime (w : ReaderWorld) (l : ReaderLabel) : Prop :=
  w.answering l → w.task.closedAt ≠ 0 → w.task.bridgedAt ≠ 0

instance (w : ReaderWorld) (l : ReaderLabel) : Decidable (w.InTime l) := by
  unfold InTime; infer_instance

end ReaderWorld

/-! ## What a step can do -/

/-- A step, by what it does to the task, the lock and the log. -/
inductive ReaderEffect (w : ReaderWorld) (l : ReaderLabel) : ReaderWorld → Prop where
  | silent {n r : Nat} {o : Request} {rs : List Request} (hn : w.now ≤ n) :
      ReaderEffect w l { w with
        now := n, task := { w.task with reportingAt := r }, own := o, requests := rs }
  | fails {e : TaskEvent} {o : Request} {rs : List Request}
      (he : e = .answered false ∨ e = .closed false) :
      ReaderEffect w l { w with own := o, requests := rs, log := w.log ++ [e] }
  | answers {h : Holder} {o : Request} {rs : List Request} (hl : w.answering l)
      (hlock : w.lock = none) (hfirst : w.task.bridgedAt = 0) :
      ReaderEffect w l { w with
        task := { w.task with bridgedAt := w.now, state := .bridged }
        lock := some h, own := o, requests := rs }
  | closes {h : Holder} {o : Request} {rs : List Request} (hlock : w.lock = none)
      (hfirst : w.task.closedAt = 0) :
      ReaderEffect w l { w with
        task := { w.task with closedAt := w.now, state := .closed }
        lock := some h, own := o, requests := rs }
  | sends {h : Holder} {o : Request} {rs : List Request} (hlock : w.lock = some h)
      (hempty : w.task.stateC = none) :
      ReaderEffect w l { w with
        task := { w.task with stateC := some w.task.state }
        lock := none, own := o, requests := rs, log := w.log ++ [.sent w.task.state] }
  | receives {s : TaskState} (hs : w.task.stateC = some s) :
      ReaderEffect w l { w with
        task := { w.task with stateC := none }, log := w.log ++ [.delivered s] }
  | looks (hlock : w.lock = none) :
      ReaderEffect w l { w with log := w.log ++ [.declined w.task.isDeclined] }

section

variable {w w' : ReaderWorld}

theorem readerEffect_of_advance {l : ReaderLabel} {h : Holder} {r : Request}
    {p : ReaderWorld × Request} (hl : r = .accept → w.answering l)
    (hs : w.advance h r = some p) (o : Request) (rs : List Request) :
    ReaderEffect w l { p.1 with own := o, requests := rs } := by
  cases r with
  | accept =>
    obtain ⟨hlock, hs⟩ := Option.ite_none_right_eq_some.mp hs
    unfold TaskChannel.setAnswered at hs
    split_ifs at hs with hset
    · cases hs
      exact .fails (.inl rfl)
    · cases hs
      exact .answers (hl rfl) hlock (not_not.mp hset)
  | close =>
    obtain ⟨hlock, hs⟩ := Option.ite_none_right_eq_some.mp hs
    unfold TaskChannel.setClosed at hs
    split_ifs at hs with hset
    · cases hs
      exact .fails (.inr rfl)
    · cases hs
      exact .closes hlock (not_not.mp hset)
  | report =>
    obtain ⟨-, hp⟩ := of_guard hs
    rw [hp]
    exact .silent le_rfl
  | reported =>
    cases hs
    exact .silent le_rfl
  | sending =>
    obtain ⟨hlock, hs⟩ := Option.ite_none_right_eq_some.mp hs
    obtain ⟨t, ht, rfl⟩ := Option.map_eq_some_iff.mp hs
    have hempty := TaskChannel.send_eq_some ht
    rw [TaskChannel.send, hempty] at ht
    cases ht
    exact .sends hlock hempty
  | returned => cases hs

theorem readerStep_effect {l : ReaderLabel} (hs : readerStep w l = some w') :
    ReaderEffect w l w' := by
  cases l with
  | wait ms =>
    cases hs
    exact .silent (Nat.le_add_right _ _)
  | call r =>
    obtain ⟨-, rfl⟩ := of_guard hs
    exact .silent le_rfl
  | callOwn r =>
    obtain ⟨-, rfl⟩ := of_guard hs
    exact .silent le_rfl
  | request i =>
    obtain ⟨r, hr, hs⟩ := Option.bind_eq_some_iff.mp hs
    obtain ⟨p, hp, rfl⟩ := Option.map_eq_some_iff.mp hs
    grind [ReaderWorld.answering, readerEffect_of_advance]
  | own =>
    obtain ⟨p, hp, rfl⟩ := Option.map_eq_some_iff.mp hs
    grind [ReaderWorld.answering, readerEffect_of_advance]
  | receive =>
    simp only [readerStep] at hs
    split at hs
    next hstate =>
      cases hs
      exact .receives hstate
    · cases hs
  | isDeclined =>
    obtain ⟨⟨-, hlock⟩, rfl⟩ := of_guard hs
    exact .looks hlock

end

/-! ## The pipe -/

def deliveries (log : List TaskEvent) : List TaskState :=
  log.filterMap fun
    | .delivered s => some s
    | _ => none

/-- The states that were set, the oldest first: received, in the buffer, in a send. -/
def ReaderWorld.pipe (w : ReaderWorld) : List TaskState :=
  deliveries w.log ++ w.task.stateC.toList ++ if w.lock = none then [] else [w.task.state]

def TaskChannel.history (t : TaskChannel) : List TaskState :=
  (if t.bridgedAt = 0 then [] else [.bridged]) ++ if t.closedAt = 0 then [] else [.closed]

variable {log : List TaskEvent}

variable {s : TaskState}

theorem mem_deliveries : s ∈ deliveries log ↔ .delivered s ∈ log := by
  grind [deliveries]

theorem deliveries_snoc {e : TaskEvent} (he : ∀ s, e ≠ .delivered s) :
    deliveries (log ++ [e]) = deliveries log := by
  grind [deliveries]

theorem deliveries_append_cons {before after : List TaskEvent} :
    deliveries (before ++ .delivered s :: after)
      = deliveries before ++ s :: deliveries after := by
  simp [deliveries, List.filterMap_append]

theorem count_deliveries : (deliveries log).count s = log.count (.delivered s) := by
  induction log with
  | nil => rfl
  | cons e log ih =>
    grind [deliveries]

theorem TaskChannel.history_pairwise (t : TaskChannel) :
    t.history.Pairwise fun a b => a = .bridged ∧ b = .closed := by
  unfold history
  split_ifs <;> simp

/-- The reader gets what happened to the task, in that order. -/
structure ReaderInv (w : ReaderWorld) : Prop where
  /-- A time that is set can be told from one that is not. -/
  clock : w.now ≠ 0
  /-- What was received, is buffered or is being sent is what happened to the task, in order. -/
  pipe : w.pipe = w.task.history
  closed : .closed true ∈ w.log → w.task.closedAt ≠ 0
  /-- A task that was closed is not answered. -/
  refuses : NeverAfter (fun _ e => e = .closed true) (fun e => e = .answered true) w.log
  /-- A task whose end was received without an answer stays declined. -/
  staysDeclined : NeverAfter
    (fun before e => e = .delivered .closed ∧ .delivered .bridged ∉ before)
    (fun e => e = .declined false) w.log

namespace ReaderInv

variable {w w' : ReaderWorld}

theorem init {id : String} {now : Nat} (hnow : now ≠ 0) : ReaderInv (readerWorld id now) where
  clock := hnow
  pipe := rfl
  closed h := by cases h
  refuses := NeverAfter.nil
  staysDeclined := NeverAfter.nil

theorem deliveries_prefix (h : ReaderInv w) : deliveries w.log <+: w.task.history := by
  rw [← h.pipe, ReaderWorld.pipe, List.append_assoc]
  exact List.prefix_append _ _

theorem deliveries_pairwise (h : ReaderInv w) :
    (deliveries w.log).Pairwise fun a b => a = .bridged ∧ b = .closed :=
  w.task.history_pairwise.sublist h.deliveries_prefix.sublist

theorem bridgedAt_eq_zero (h : ReaderInv w) {before after : List TaskEvent}
    (hlog : w.log = before ++ .delivered .closed :: after)
    (hbridged : .delivered .bridged ∉ before) :
    w.task.bridgedAt = 0 := by
  have hprefix := h.deliveries_prefix
  rw [hlog, deliveries_append_cons] at hprefix
  have hb : TaskState.bridged ∉ deliveries before := fun hmem => hbridged (mem_deliveries.mp hmem)
  by_contra hne
  unfold TaskChannel.history at hprefix
  rw [if_neg hne] at hprefix
  cases hd : deliveries before with
  | nil =>
    rw [hd] at hprefix
    simp at hprefix
  | cons s ss =>
    grind

theorem history_of_lock (h : ReaderInv w) {holder : Holder} (hlock : w.lock = some holder) :
    ∃ earlier, w.task.history = earlier ++ [w.task.state] := by
  grind [cases ReaderInv, ReaderWorld.pipe, deliveries]

theorem logs (h : ReaderInv w) {e : TaskEvent} (he : e = .answered false ∨ e = .closed false)
    (o : Request) (rs : List Request) :
    ReaderInv { w with own := o, requests := rs, log := w.log ++ [e] } where
  clock := h.clock
  pipe := by
    have hd : deliveries (w.log ++ [e]) = deliveries w.log :=
      deliveries_snoc fun s hs => by rcases he with rfl | rfl <;> cases hs
    rw [← h.pipe, ReaderWorld.pipe, ReaderWorld.pipe, hd]
  closed hmem := by
    rcases List.mem_append.mp hmem with hold | hnew
    · exact h.closed hold
    · rcases he with rfl | rfl <;> simp at hnew
  refuses := h.refuses.snoc fun hQ => by rcases he with rfl | rfl <;> cases hQ
  staysDeclined := h.staysDeclined.snoc fun hQ => by rcases he with rfl | rfl <;> cases hQ

theorem answers (h : ReaderInv w) (hlock : w.lock = none) (hfirst : w.task.bridgedAt = 0)
    (hopen : w.task.closedAt = 0) (holder : Holder) (o : Request) (rs : List Request) :
    ReaderInv { w with
      task := { w.task with bridgedAt := w.now, state := .bridged }
      lock := some holder, own := o, requests := rs } where
  clock := h.clock
  pipe := by
    have hold := h.pipe
    simp only [ReaderWorld.pipe, TaskChannel.history, hlock, hfirst, hopen, if_true,
      List.append_nil] at hold
    simp [ReaderWorld.pipe, TaskChannel.history, hold, h.clock, hopen]
  closed := h.closed
  refuses := h.refuses
  staysDeclined := h.staysDeclined

theorem closes (h : ReaderInv w) (hlock : w.lock = none) (hfirst : w.task.closedAt = 0)
    (holder : Holder) (o : Request) (rs : List Request) :
    ReaderInv { w with
      task := { w.task with closedAt := w.now, state := .closed }
      lock := some holder, own := o, requests := rs } where
  clock := h.clock
  pipe := by
    have hold := h.pipe
    simp only [ReaderWorld.pipe, TaskChannel.history, hlock, hfirst, if_true,
      List.append_nil] at hold
    simp [ReaderWorld.pipe, TaskChannel.history, hold, h.clock]
  closed _ := h.clock
  refuses := h.refuses
  staysDeclined := h.staysDeclined

theorem sends (h : ReaderInv w) {holder : Holder} (hlock : w.lock = some holder)
    (hempty : w.task.stateC = none) (o : Request) (rs : List Request) :
    ReaderInv { w with
      task := { w.task with stateC := some w.task.state }
      lock := none, own := o, requests := rs, log := w.log ++ [.sent w.task.state] } := by
  obtain ⟨earlier, hlast⟩ := h.history_of_lock hlock
  have hne : ∀ s, TaskEvent.sent w.task.state ≠ .delivered s := by
    intro s hs
    cases hstate : w.task.state <;> simp [TaskEvent.sent, hstate] at hs
  exact {
    clock := h.clock
    pipe := by
      have hold := h.pipe
      simp only [ReaderWorld.pipe, TaskChannel.history, hlock, hempty] at hold
      simpa [ReaderWorld.pipe, TaskChannel.history, deliveries_snoc hne] using hold
    closed := fun hmem => by
      rcases List.mem_append.mp hmem with hold | hnew
      · exact h.closed hold
      · -- what it has sent is not `Bridged`, so it is the `Closed` of the history
        intro hopen
        have hopen : w.task.closedAt = 0 := hopen
        unfold TaskChannel.history at hlast
        rw [if_pos hopen, List.append_nil] at hlast
        have hstate : w.task.state = .bridged := by
          split_ifs at hlast
          · simp at hlast
          · have hsplit : [] ++ [TaskState.bridged] = earlier ++ [w.task.state] := hlast
            have hend := (List.append_inj' hsplit rfl).2
            exact (List.cons.inj hend).1.symm
        rw [hstate] at hnew
        simp [TaskEvent.sent] at hnew
    refuses := h.refuses.snoc fun hQ before x after hlog hx => by
      -- the answer is the last of the history, so the task is not closed
      have hclosed : w.task.closedAt ≠ 0 := h.closed (by rw [hlog, hx]; simp)
      have hstate : w.task.state = .bridged := by
        cases hs : w.task.state <;> simp [TaskEvent.sent, hs] at hQ ⊢
      unfold TaskChannel.history at hlast
      rw [if_neg hclosed, hstate] at hlast
      have := (List.append_inj' hlast rfl).2
      simp at this
    staysDeclined := h.staysDeclined.snoc fun hQ => by
      cases hs : w.task.state <;> simp [TaskEvent.sent, hs] at hQ }

theorem receives (h : ReaderInv w) {s : TaskState} (hs : w.task.stateC = some s) :
    ReaderInv { w with
      task := { w.task with stateC := none }, log := w.log ++ [.delivered s] } where
  clock := h.clock
  pipe := by
    have hold := h.pipe
    simp only [ReaderWorld.pipe, TaskChannel.history, hs] at hold
    simpa [ReaderWorld.pipe, TaskChannel.history, deliveries] using hold
  closed hmem := h.closed (by simpa using hmem)
  refuses := h.refuses.snoc fun hQ => by cases hQ
  staysDeclined := h.staysDeclined.snoc fun hQ => by cases hQ

theorem looks (h : ReaderInv w) :
    ReaderInv { w with log := w.log ++ [.declined w.task.isDeclined] } where
  clock := h.clock
  pipe := by
    rw [ReaderWorld.pipe, deliveries_snoc fun s hs => by cases hs]
    exact h.pipe
  closed hmem := h.closed (by simpa using hmem)
  refuses := h.refuses.snoc fun hQ => by cases hQ
  staysDeclined := h.staysDeclined.snoc fun hQ before x after hlog hx => by
    obtain ⟨rfl, hbridged⟩ := hx
    have hzero := h.bridgedAt_eq_zero hlog hbridged
    simp [TaskChannel.isDeclined, hzero] at hQ

theorem step (h : ReaderInv w) {l : ReaderLabel} (hok : w.InTime l)
    (hstep : readerStep w l = some w') : ReaderInv w' := by
  cases readerStep_effect hstep with
  | silent hn =>
    exact ⟨fun hzero => h.clock (Nat.le_zero.mp (hzero ▸ hn)), h.pipe, h.closed, h.refuses,
      h.staysDeclined⟩
  | fails he => exact h.logs he _ _
  | answers hl hlock hfirst =>
    have hopen : w.task.closedAt = 0 := by
      by_contra hclosed
      exact hok hl hclosed hfirst
    exact h.answers hlock hfirst hopen _ _ _
  | closes hlock hfirst => exact h.closes hlock hfirst _ _ _
  | sends hlock hempty => exact h.sends hlock hempty _ _
  | receives hs => exact h.receives hs
  | looks => exact h.looks

theorem closedIsFinal (h : ReaderInv w) : ClosedIsFinal w.log w.task where
  once s := by
    have hnodup : (deliveries w.log).Nodup :=
      h.deliveries_pairwise.imp fun hab heq => by
        rw [hab.1, hab.2] at heq
        cases heq
    rw [← count_deliveries]
    exact List.nodup_iff_count_le_one.mp hnodup s
  last before e after hlog he y hy hdelivered := by
    obtain ⟨s, rfl⟩ := hdelivered
    have hpairwise := h.deliveries_pairwise
    rw [hlog, he, deliveries_append_cons] at hpairwise
    have hclosed := (List.pairwise_append.mp hpairwise).2.1
    have hfirst := (List.pairwise_cons.mp hclosed).1 s (mem_deliveries.mpr hy)
    cases hfirst.1
  refuses := h.refuses
  declined before after hlog hbridged := by
    simp [TaskChannel.isDeclined, h.bridgedAt_eq_zero hlog hbridged]
  staysDeclined := h.staysDeclined

end ReaderInv

/-- **Closed is final for a task**, whoever calls its methods and in whatever order, as long as no
`SetAnswered` gets to a task that was closed without an answer. -/
theorem closed_is_final {id : String} {now : Nat} (hnow : now ≠ 0) {ls : List ReaderLabel}
    {w : ReaderWorld} (hrun : run readerStep (readerWorld id now) ls = some w)
    (htime : Along readerStep ReaderWorld.InTime (readerWorld id now) ls) :
    ClosedIsFinal w.log w.task :=
  (run_invariant (fun _ _ _ hinv hok hs => hinv.step hok hs) ls (ReaderInv.init hnow) htime
    hrun).closedIsFinal

/-- The agent closes the task without having accepted it, and reports; the reader asks. -/
def closedUnanswered : List ReaderLabel :=
  [.call .close, .request 0, .request 0, .receive, .isDeclined, .call .report, .request 1,
    .request 1, .isDeclined]

theorem closedUnanswered_final :
    ∃ w, run readerStep (readerWorld "1" 1) closedUnanswered = some w
      ∧ w.log = [.closed true, .delivered .closed, .declined true, .declined true]
      ∧ ClosedIsFinal w.log w.task := by
  have htime : Along readerStep ReaderWorld.InTime (readerWorld "1" 1) closedUnanswered := by
    decide
  exact ⟨_, rfl, rfl, closed_is_final Nat.one_ne_zero rfl htime⟩

def closedThenAnswered : List ReaderLabel :=
  [.call .close, .request 0, .request 0, .receive, .isDeclined, .call .accept, .request 1,
    .request 1, .isDeclined, .receive]

theorem answered_after_closed :
    ∃ w, run readerStep (readerWorld "1" 1) closedThenAnswered = some w
      ∧ w.log = [.closed true, .delivered .closed, .declined true, .answered true,
        .declined false, .delivered .bridged]
      ∧ ¬ ClosedIsFinal w.log w.task :=
  ⟨_, rfl, rfl, fun h => h.refuses [] (.closed true) _ rfl rfl (.answered true) (by decide) rfl⟩

/-! ## The goroutine of a queue

The goroutine of a task queue or of an IM queue is such a reader. -/

def OwnerPc.own : OwnerPc → Request
  | .answering => .accept
  | .closing => .close
  | .sending => .sending
  | _ => .returned

namespace TaskWorld

def reader (w : TaskWorld) (log : List TaskEvent) : ReaderWorld where
  now := w.now
  task := w.task
  lock := w.lock
  own := w.owner.own
  requests := w.requests
  log := log

def readerLabels (w : TaskWorld) : TaskLabel → List ReaderLabel
  | .wait ms => [.wait ms]
  | .call r => [.call r]
  | .request i => [.request i]
  | .owner .alreadyMember => [.callOwn .accept]
  | .owner .check => if w.task.bridgedAt = 0 then [.callOwn .close] else []
  | .owner .setAnswered | .owner .setClosed | .owner .send => [.own]
  | .owner .receive => [.receive]
  | .owner (.decide _) | .owner .isDeclined => [.isDeclined]
  | .owner _ => []

variable {w w' : TaskWorld}

variable {p q : OwnerPc}

theorem reader_goes {log : List TaskEvent} (hs : w.goes p q = some w') (hown : p.own = q.own) :
    w'.reader log = w.reader log := by
  obtain ⟨rfl, rfl⟩ := of_guard hs
  simp [reader, hown]

theorem reader_locks {log : List TaskEvent} (hs : w.locks p q = some w') (hown : p.own = q.own) :
    w'.reader log = w.reader log := by
  obtain ⟨⟨rfl, -⟩, rfl⟩ := of_guard hs
  simp [reader, hown]

theorem own_afterMissed (w : TaskWorld) (stored : Bool) :
    (w.afterMissed stored).own = .returned := by
  unfold afterMissed
  split_ifs <;> rfl

theorem own_afterReceive (w : TaskWorld) (s : TaskState) : (w.afterReceive s).own = .returned := by
  unfold afterReceive
  split <;> (try split_ifs) <;> rfl

theorem reader_asks (hp : p.own = .returned) (hq : q.own = .returned) (log : List TaskEvent)
    (hs : w.locks p q = some w') :
    readerStep (w.reader log) .isDeclined
      = some (w'.reader (log ++ [.declined w.task.isDeclined])) := by
  obtain ⟨⟨rfl, hlock⟩, rfl⟩ := of_guard hs
  simp [readerStep, reader, hp, hq, hlock]

theorem reader_calls {r : Request} (hp : p.own = .returned) (hq : q.own = r) (hr : r.isCall)
    (log : List TaskEvent) (hs : w.goes p q = some w') :
    readerStep (w.reader log) (.callOwn r) = some (w'.reader log) := by
  obtain ⟨rfl, rfl⟩ := of_guard hs
  simp [readerStep, reader, hp, hq, hr]

theorem reader_sets {set : Except AppError TaskChannel} (failed : TaskEvent) (log : List TaskEvent)
    (hs : w.ownerSets p set = some w') :
    ∃ log', ((w.reader log).sets .owner set failed).map (fun r => { r.1 with own := r.2 })
      = some (w'.reader log') := by
  obtain ⟨⟨hp, hlock⟩, hs⟩ := Option.ite_none_right_eq_some.mp hs
  cases set with
  | error e =>
    cases hs
    exact ⟨log ++ [failed], by simp [ReaderWorld.sets, reader, hlock, OwnerPc.own]⟩
  | ok t =>
    cases hs
    exact ⟨log, by simp [ReaderWorld.sets, reader, hlock, OwnerPc.own]⟩

variable (log : List TaskEvent)

theorem reader_receives (hs : w.receive = some w') :
    ∃ log', readerStep (w.reader log) .receive = some (w'.reader log') := by
  unfold receive at hs
  split at hs
  next s hstate =>
    obtain ⟨howner, rfl⟩ := of_guard hs
    have howner : w.owner = .selecting := howner
    have hown : w.owner.own = .returned := by rw [howner]; rfl
    refine ⟨log ++ [.delivered s], ?_⟩
    simp [readerStep, reader, hown, hstate, own_afterReceive]
  · cases hs

theorem reader_ownerStep {m : OwnerMove} (hlock : w.owner = .sending → w.lock = some .owner)
    (hs : w.ownerStep m = some w') :
    ∃ log', run readerStep (w.reader log) (w.readerLabels (.owner m)) = some (w'.reader log') := by
  have silent : w'.reader log = w.reader log →
      ∃ log', run readerStep (w.reader log) [] = some (w'.reader log') :=
    fun h => ⟨log, congrArg some h.symm⟩
  have single : ∀ l log', readerStep (w.reader log) l = some (w'.reader log') →
      ∃ log', run readerStep (w.reader log) [l] = some (w'.reader log') :=
    fun _ log' h => ⟨log', by rw [run, h]; rfl⟩
  cases m with
  | refused =>
    obtain ⟨_, hs⟩ := Option.ite_none_left_eq_some.mp hs
    exact silent (reader_goes hs rfl)
  | previewFails =>
    obtain ⟨_, hs⟩ := Option.ite_none_right_eq_some.mp hs
    exact silent (reader_goes hs (by split_ifs <;> rfl))
  | alreadyMember =>
    obtain ⟨_, hs⟩ := Option.ite_none_right_eq_some.mp hs
    exact single _ _ (reader_calls rfl rfl rfl log hs)
  | offered => exact silent (reader_goes hs rfl)
  | setAnswered =>
    obtain ⟨⟨howner, -⟩, -⟩ := Option.ite_none_right_eq_some.mp hs
    obtain ⟨log', h⟩ := reader_sets (.answered false) log hs
    have hown : (w.reader log).own = _ := congrArg OwnerPc.own howner
    refine single _ log' ?_
    rw [readerStep, hown]
    exact h
  | send =>
    obtain ⟨howner, hs⟩ := Option.ite_none_right_eq_some.mp hs
    obtain ⟨t, ht, rfl⟩ := Option.map_eq_some_iff.mp hs
    have hlock := hlock howner
    have hown : w.owner.own = .sending := by rw [howner]; rfl
    refine single _ (log ++ [.sent t.state]) ?_
    simp [readerStep, reader, hown, ReaderWorld.advance, hlock, ht]
    rfl
  | receive =>
    obtain ⟨log', h⟩ := reader_receives log hs
    exact single _ _ h
  | cancelled =>
    obtain ⟨_, hs⟩ := Option.ite_none_right_eq_some.mp hs
    exact silent ((reader_goes hs rfl).trans rfl)
  | inviteTimeout =>
    obtain ⟨_, hs⟩ := Option.ite_none_right_eq_some.mp hs
    exact silent ((reader_goes hs rfl).trans rfl)
  | check =>
    unfold readerLabels
    by_cases hzero : w.task.bridgedAt = 0
    · rw [if_pos hzero]
      simp only [ownerStep, if_pos hzero] at hs
      exact single _ _ (reader_calls rfl rfl rfl log hs)
    · rw [if_neg hzero]
      simp only [ownerStep, if_neg hzero] at hs
      exact silent (reader_goes hs rfl)
  | setClosed =>
    obtain ⟨⟨howner, -⟩, -⟩ := Option.ite_none_right_eq_some.mp hs
    obtain ⟨log', h⟩ := reader_sets (.closed false) log hs
    have hown : (w.reader log).own = _ := congrArg OwnerPc.own howner
    refine single _ log' ?_
    rw [readerStep, hown]
    exact h
  | leave =>
    obtain ⟨_, hs⟩ := Option.ite_none_right_eq_some.mp hs
    exact silent (reader_goes hs rfl)
  | joined => exact silent (reader_goes hs rfl)
  | joinFails stored => exact silent (reader_goes hs (own_afterMissed w stored).symm)
  | decide stored =>
    refine single _ _ (reader_asks rfl ?_ log hs)
    split_ifs
    · exact own_afterMissed w stored
    · rfl
  | nextAgent => exact silent (reader_goes hs rfl)
  | stopWaiting => exact silent (reader_goes hs rfl)
  | isDeclined => exact single _ _ (reader_asks rfl (by split_ifs <;> rfl) log hs)
  | reportingAt => exact silent (reader_locks hs (by split_ifs <;> rfl))
  | reportingAtAgain => exact silent (reader_locks hs rfl)
  | finish => exact silent (reader_goes hs rfl)

theorem reader_requestSets {i : Nat} {set : Except AppError TaskChannel} (failed : TaskEvent)
    (log : List TaskEvent) (hs : w.requestSets i set = some w') :
    ∃ log', ((w.reader log).sets (.request i) set failed).map
        (fun r => { r.1 with requests := r.1.requests.set i r.2 }) = some (w'.reader log') := by
  obtain ⟨hlock, hs⟩ := Option.ite_none_right_eq_some.mp hs
  cases set with
  | error e =>
    cases hs
    exact ⟨log ++ [failed], by simp [ReaderWorld.sets, reader, hlock]⟩
  | ok t =>
    cases hs
    exact ⟨log, by simp [ReaderWorld.sets, reader, hlock]⟩

theorem reader_requestStep {i : Nat} (hs : w.requestStep i = some w') :
    ∃ log', readerStep (w.reader log) (.request i) = some (w'.reader log') := by
  have hpool : (w.reader log).requests = w.requests := rfl
  unfold requestStep at hs
  rw [readerStep, hpool]
  split at hs
  next hi =>
    rw [hi]
    exact reader_requestSets (.answered false) log hs
  next hi =>
    rw [hi]
    exact reader_requestSets (.closed false) log hs
  next hi =>
    obtain ⟨hlock, rfl⟩ := of_guard hs
    exact ⟨log, by simp [hi, ReaderWorld.advance, reader, hlock]⟩
  next hi =>
    cases hs
    exact ⟨log, by rw [hi]; rfl⟩
  next hi =>
    obtain ⟨hlock, hs⟩ := Option.ite_none_right_eq_some.mp hs
    obtain ⟨t, ht, rfl⟩ := Option.map_eq_some_iff.mp hs
    exact ⟨log ++ [.sent t.state], by simp [hi, ReaderWorld.advance, reader, hlock, ht]⟩
  · cases hs
  · cases hs

theorem reader_step {l : TaskLabel} (hlock : w.owner = .sending → w.lock = some .owner)
    (hs : taskStep w l = some w') :
    ∃ log', run readerStep (w.reader log) (w.readerLabels l) = some (w'.reader log') := by
  cases l with
  | wait ms =>
    cases hs
    exact ⟨log, rfl⟩
  | call r =>
    obtain ⟨hr, rfl⟩ := of_guard hs
    have hcall : r.isCall := by simpa [Request.isCall, or_assoc] using hr
    exact ⟨log, by simp [readerLabels, run, readerStep, reader, hcall]⟩
  | owner m => exact reader_ownerStep log hlock hs
  | request i =>
    obtain ⟨log', h⟩ := reader_requestStep log hs
    exact ⟨log', by rw [readerLabels, run, h]; rfl⟩

def readerTrace : TaskWorld → List TaskLabel → List ReaderLabel
  | _, [] => []
  | w, l :: ls =>
    w.readerLabels l ++ match taskStep w l with
      | some w' => w'.readerTrace ls
      | none => []

end TaskWorld

/-- The reader in its own send has the lock. -/
def ReaderWorld.Holds (w : ReaderWorld) : Prop := w.own = .sending → w.lock = some .owner

namespace ReaderWorld

variable {w w' : ReaderWorld}

/-- What a step in a call does to the lock: nothing, or it takes it for a send, or it gives it
back after one. -/
theorem advance_lock {h : Holder} {r : Request} {p : ReaderWorld × Request}
    (hs : w.advance h r = some p) : p.1.own = w.own
      ∧ (p.1.lock = w.lock ∧ p.2 ≠ .sending ∨ w.lock = none ∧ p.1.lock = some h
        ∨ w.lock = some h ∧ p.2 = .returned) := by
  have hsets : ∀ {set : Except AppError TaskChannel} {failed : TaskEvent},
      w.sets h set failed = some p → p.1.own = w.own
        ∧ (p.1.lock = w.lock ∧ p.2 ≠ .sending ∨ w.lock = none ∧ p.1.lock = some h
          ∨ w.lock = some h ∧ p.2 = .returned) := by
    intro set failed hs
    obtain ⟨hlock, hs⟩ := Option.ite_none_right_eq_some.mp hs
    grind
  cases r with
  | accept => exact hsets hs
  | close => exact hsets hs
  | report =>
    obtain ⟨-, rfl⟩ := of_guard hs
    exact ⟨rfl, .inl ⟨rfl, by simp⟩⟩
  | reported =>
    cases hs
    refine ⟨rfl, .inl ⟨rfl, ?_⟩⟩
    dsimp only
    split_ifs <;> decide
  | sending =>
    obtain ⟨hlock, hs⟩ := Option.ite_none_right_eq_some.mp hs
    grind [Option.map_eq_some_iff]
  | returned => cases hs

theorem Holds.step {l : ReaderLabel} (h : w.Holds) (hs : readerStep w l = some w') : w'.Holds := by
  cases l with
  | wait ms =>
    cases hs
    exact h
  | call r =>
    obtain ⟨-, rfl⟩ := of_guard hs
    exact h
  | callOwn r =>
    obtain ⟨⟨-, hr⟩, rfl⟩ := of_guard hs
    intro hown
    have hown : r = .sending := hown
    rw [hown] at hr
    cases hr
  | request i =>
    obtain ⟨r, -, hs⟩ := Option.bind_eq_some_iff.mp hs
    obtain ⟨p, hp, rfl⟩ := Option.map_eq_some_iff.mp hs
    obtain ⟨hown, hlock⟩ := advance_lock hp
    intro hsending
    have hheld : w.lock = some .owner := h (hown ▸ hsending)
    grind
  | own =>
    obtain ⟨p, hp, rfl⟩ := Option.map_eq_some_iff.mp hs
    intro hsending
    grind [advance_lock]
  | receive =>
    simp only [readerStep] at hs
    split at hs
    · cases hs
      exact h
    · cases hs
  | isDeclined =>
    obtain ⟨-, rfl⟩ := of_guard hs
    exact h

end ReaderWorld

/-- **The goroutine of a queue is a reader.** Every run of it and of the requests is, to the task,
a run of a reader among callers. -/
theorem readerTrace_run {w w' : TaskWorld} {ls : List TaskLabel} (hlock : (w.reader log).Holds)
    (hrun : run taskStep w ls = some w') :
    ∃ log', run readerStep (w.reader log) (w.readerTrace ls) = some (w'.reader log') := by
  induction ls generalizing w log with
  | nil =>
    cases hrun
    exact ⟨log, rfl⟩
  | cons l ls ih =>
    obtain ⟨w₁, hs, hrun⟩ := Option.bind_eq_some_iff.mp hrun
    have hsend : w.owner = .sending → w.lock = some .owner := fun howner =>
      hlock (congrArg OwnerPc.own howner)
    obtain ⟨log₁, hstep⟩ := TaskWorld.reader_step log hsend hs
    have hlock₁ : (w₁.reader log₁).Holds :=
      run_invariant (fun _ _ _ hinv _ hs => ReaderWorld.Holds.step hinv hs) _ hlock
        (along_of_forall (fun _ _ => trivial) _ _) hstep
    grind [TaskWorld.readerTrace, run_append]

/-- The goroutine of a queue is a reader, in every run; so closed is final for it as well, as long
as its steps are in time. -/
theorem queue_closed_is_final {queue : TaskQueue} {id : String} {now : Nat}
    {ls : List TaskLabel} {w : TaskWorld}
    (hrun : run taskStep (taskWorld queue id now) ls = some w) :
    ∃ log, run readerStep (readerWorld id now) ((taskWorld queue id now).readerTrace ls)
        = some (w.reader log)
      ∧ (now ≠ 0 → Along readerStep ReaderWorld.InTime (readerWorld id now)
          ((taskWorld queue id now).readerTrace ls) → ClosedIsFinal log w.task) := by
  have hfree : ((taskWorld queue id now).reader []).Holds := fun hown => by cases hown
  obtain ⟨log, hreader⟩ := readerTrace_run hfree hrun
  refine ⟨log, hreader, fun hnow htime => ?_⟩
  have hinv := run_invariant (fun _ _ _ hinv hok hs => ReaderInv.step hinv hok hs) _
    (ReaderInv.init hnow) htime hreader
  exact hinv.closedIsFinal

theorem acceptThenClose_final :
    ∃ w log, run taskStep (taskWorld (.im false) "1" 1) acceptThenClose = some w
      ∧ run readerStep (readerWorld "1" 1)
          ((taskWorld (.im false) "1" 1).readerTrace acceptThenClose) = some (w.reader log)
      ∧ ClosedIsFinal log w.task := by
  have hrun : run taskStep (taskWorld (.im false) "1" 1) acceptThenClose = some _ := rfl
  obtain ⟨log, hreader, hfinal⟩ := queue_closed_is_final hrun
  exact ⟨_, log, hrun, hreader, hfinal Nat.one_ne_zero (by decide)⟩

end CallCenter.Queue
