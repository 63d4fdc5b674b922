import CallCenter.Lib.Run

/-!
# The fan-in of the broker's messages

The listener of the AMQP client hands all deliveries to four streams, each a buffered channel with a
consumer; the IM stream has a listener of its own. `enqueue` tries to send; when there is no room it
waits for the consumer, once: a wait that expires sets the stream's flag, and while the flag is set
a message that finds no room is dropped. A message that is sent at the first try takes the flag
back.

Each statement of `enqueue` is a step, and steps of the consumers and of the timer come at any time.
A consumer that finds nothing blocks in its receive, and then a send hands the message over without
the buffer.
-/

namespace CallCenter.Mq

open Lib

/-! ## One stream -/

inductive Ending where
  | accepted
  | acceptedLate
  | droppedStalled
  | droppedExpired
  /-- Sent by a plain `ch <- msg`, as the transfers of IM threads are. -/
  | sent

def Ending.dropped : Ending → Bool
  | droppedStalled | droppedExpired => true
  | _ => false

def Ending.waited : Ending → Bool
  | acceptedLate | droppedExpired => true
  | _ => false

structure Enqueued (α : Type) where
  msg : α
  full : Bool
  ending : Ending

inductive EnqueuePc (α : Type) where
  | idle
  | trySend (msg : α)
  | compareAndSwap
  | load (msg : α) (full : Bool)
  | wait (msg : α) (full : Bool)
  | store
  | send (msg : α) (full : Bool)
  deriving DecidableEq

structure Stream (α : Type) where
  buffer : List α
  receiving : Bool
  stalled : Bool
  pc : EnqueuePc α
  offered : List α
  received : List α
  log : List (Enqueued α)

variable {α : Type}

def Stream.empty : Stream α := ⟨[], false, false, .idle, [], [], []⟩

namespace Stream

def trySend (cap : Nat) (msg : α) (st : Stream α) : Option (Stream α) :=
  if st.receiving then some { st with receiving := false, received := st.received ++ [msg] }
  else if st.buffer.length < cap then some { st with buffer := st.buffer ++ [msg] }
  else none

def ends (st : Stream α) (msg : α) (full : Bool) (ending : Ending) (pc : EnqueuePc α) : Stream α :=
  { st with pc := pc, log := ⟨msg, full, ending⟩ :: st.log }

end Stream

inductive StreamLabel (α : Type) where
  | enqueue (msg : α)
  | trySend
  | compareAndSwap
  | load
  | lateSend
  | expire
  | store
  | offer (msg : α)
  | send
  | receive
  deriving DecidableEq

def StreamLabel.starts : StreamLabel α → Bool
  | enqueue _ | offer _ => true
  | _ => false

def streamStep (cap : Nat) (st : Stream α) : StreamLabel α → Option (Stream α)
  | .enqueue msg =>
    match st.pc with
    | .idle => some { st with pc := .trySend msg, offered := st.offered ++ [msg] }
    | _ => none
  | .trySend =>
    match st.pc with
    | .trySend msg =>
      let full : Bool := cap ≤ st.buffer.length
      match st.trySend cap msg with
      | some st => some (st.ends msg full .accepted .compareAndSwap)
      | none => some { st with pc := .load msg full }
    | _ => none
  | .compareAndSwap =>
    match st.pc with
    | .compareAndSwap =>
      some { st with stalled := if st.stalled = true then false else st.stalled, pc := .idle }
    | _ => none
  | .load =>
    match st.pc with
    | .load msg full =>
      if st.stalled then some (st.ends msg full .droppedStalled .idle)
      else some { st with pc := .wait msg full }
    | _ => none
  | .lateSend =>
    match st.pc with
    | .wait msg full =>
      (st.trySend cap msg).map fun st => st.ends msg full .acceptedLate .idle
    | _ => none
  | .expire =>
    match st.pc with
    | .wait msg full => some (st.ends msg full .droppedExpired .store)
    | _ => none
  | .store =>
    match st.pc with
    | .store => some { st with stalled := true, pc := .idle }
    | _ => none
  | .offer msg =>
    match st.pc with
    | .idle => some { st with
        pc := .send msg (cap ≤ st.buffer.length), offered := st.offered ++ [msg] }
    | _ => none
  | .send =>
    match st.pc with
    | .send msg full => (st.trySend cap msg).map fun st => st.ends msg full .sent .idle
    | _ => none
  | .receive =>
    if st.receiving then none
    else match st.buffer with
      | [] => some { st with receiving := true }
      | msg :: rest => some { st with buffer := rest, received := st.received ++ [msg] }

/-! ## All streams -/

inductive StreamName where
  | call | chat | im | systemSetting
  deriving DecidableEq

/-- The goroutines that call `enqueue`: `listen`, and the one that `subscribeIM` starts. -/
inductive Listener where
  | deliveries | im
  deriving DecidableEq

def StreamName.listener : StreamName → Listener
  | im => .im
  | _ => .deliveries

def StreamName.all : List StreamName := [call, chat, im, systemSetting]

abbrev Client (α : Type) := StreamName → Stream α

def Client.listenerIdle [DecidableEq α] (w : Client α) (s : StreamName) : Bool :=
  StreamName.all.all fun t => t.listener ≠ s.listener || (w t).pc = .idle

def clientStep [DecidableEq α] (cap : StreamName → Nat) (w : Client α)
    (l : StreamName × StreamLabel α) : Option (Client α) :=
  if l.2.starts = true → w.listenerIdle l.1 = true then
    (streamStep (cap l.1) (w l.1) l.2).map (Function.update w l.1)
  else none

def Client.start : Client α := fun _ => .empty

/-! ## What a stream records -/

def EnqueuePc.pending : EnqueuePc α → List α
  | trySend msg | load msg _ | wait msg _ | send msg _ => [msg]
  | _ => []

/-- A wait has expired, and no message was accepted at once since. -/
def waitExpired : List (Enqueued α) → Bool
  | [] => false
  | e :: rest =>
    match e.ending with
    | .accepted => false
    | .droppedExpired => true
    | _ => waitExpired rest

/-- A message for which the listener waited found no expired wait before it. -/
def WaitsOnce : List (Enqueued α) → Prop
  | [] => True
  | e :: rest => (e.ending.waited = true → waitExpired rest = false) ∧ WaitsOnce rest

/-- What the flag says, by the place where the listener is. -/
def FlagSays (stalled : Bool) (log : List (Enqueued α)) : EnqueuePc α → Prop
  | .compareAndSwap => waitExpired log = false
  | .store => waitExpired log = true
  | .wait _ _ => stalled = false ∧ waitExpired log = false
  | _ => stalled = waitExpired log

/-- A message that is in the listener's hands after the first try found the buffer full. -/
def FoundFull : EnqueuePc α → Prop
  | .load _ full | .wait _ full => full = true
  | _ => True

/-- A message is lost only to a full buffer, and the others keep their order. -/
structure StreamInv (cap : Nat) (st : Stream α) : Prop where
  /-- About every message but the one at hand it was decided, in the order they came. -/
  decided : st.offered = st.log.reverse.map Enqueued.msg ++ st.pc.pending
  /-- The messages that were not dropped are received or buffered, in that order. -/
  kept : st.received ++ st.buffer
    = (st.log.reverse.filter fun e => !e.ending.dropped).map Enqueued.msg
  blocked : st.receiving = true → st.buffer = []
  bounded : st.buffer.length ≤ cap
  foundFull : FoundFull st.pc
  /-- Only what found the buffer full was dropped. -/
  droppedFull : ∀ e ∈ st.log, e.ending.dropped = true → e.full = true
  flag : FlagSays st.stalled st.log st.pc
  waits : WaitsOnce st.log

theorem streamInv_empty (cap : Nat) : StreamInv cap (.empty : Stream α) where
  decided := rfl
  kept := rfl
  blocked _ := rfl
  bounded := Nat.zero_le cap
  foundFull := trivial
  droppedFull _ he := nomatch he
  flag := rfl
  waits := trivial

/-! ## Steps of one stream -/

section Steps

variable {cap : Nat} {st st' : Stream α} {msg : α} {full : Bool}

variable {pc : EnqueuePc α}

theorem StreamInv.flag_at (h : StreamInv cap st) (hpc : st.pc = pc) :
    FlagSays st.stalled st.log pc := hpc ▸ h.flag

theorem StreamInv.foundFull_at (h : StreamInv cap st) (hpc : st.pc = pc) :
    FoundFull pc := hpc ▸ h.foundFull

/-- A send that goes through: the message is behind all others, and nothing else changes. -/
structure Sends (cap : Nat) (msg : α) (st st' : Stream α) : Prop where
  kept : st'.received ++ st'.buffer = st.received ++ st.buffer ++ [msg]
  blocked : st'.receiving = true → st'.buffer = []
  bounded : st'.buffer.length ≤ cap
  log : st'.log = st.log
  offered : st'.offered = st.offered
  stalled : st'.stalled = st.stalled

theorem trySend_sends (h : StreamInv cap st) (hsend : st.trySend cap msg = some st') :
    Sends cap msg st st' := by
  unfold Stream.trySend at hsend
  by_cases hreceiving : st.receiving = true
  · rw [if_pos hreceiving] at hsend
    cases hsend
    have hempty := h.blocked hreceiving
    refine ⟨?_, fun hr => Bool.noConfusion hr, h.bounded, rfl, rfl, rfl⟩
    show (st.received ++ [msg]) ++ st.buffer = _
    rw [hempty, List.append_nil, List.append_nil]
  · rw [if_neg hreceiving] at hsend
    by_cases hroom : st.buffer.length < cap
    · rw [if_pos hroom] at hsend
      cases hsend
      refine ⟨(List.append_assoc _ _ _).symm, fun hr => absurd hr hreceiving, ?_, rfl, rfl, rfl⟩
      rw [List.length_append]
      exact hroom
    · rw [if_neg hroom] at hsend
      cases hsend

theorem trySend_full (hsend : st.trySend cap msg = none) : cap ≤ st.buffer.length := by
  unfold Stream.trySend at hsend
  split at hsend
  · cases hsend
  · split at hsend
    · cases hsend
    · omega

theorem StreamInv.ends (h : StreamInv cap st) {ending : Ending} (hmsg : st.pc.pending = [msg])
    (hpc : pc.pending = []) (hst : if ending.dropped then st' = st else Sends cap msg st st')
    (hfull : ending.dropped = true → full = true)
    (hflag : FlagSays st'.stalled (⟨msg, full, ending⟩ :: st'.log) pc)
    (hwaits : ending.waited = true → waitExpired st.log = false) :
    StreamInv cap (st'.ends msg full ending pc) := by
  have hfound : FoundFull pc := by
    cases pc with
    | load m f => cases hpc
    | wait m f => cases hpc
    | _ => trivial
  have hlog : st'.log = st.log := by
    split at hst
    · rw [hst]
    · exact hst.log
  have hoffered : st'.offered = st.offered := by
    split at hst
    · rw [hst]
    · exact hst.offered
  have hentry : (st'.ends msg full ending pc).log = ⟨msg, full, ending⟩ :: st.log :=
    congrArg (_ :: ·) hlog
  refine ⟨?_, ?_, ?_, ?_, hfound, ?_, hflag, ?_⟩
  · rw [hentry, List.reverse_cons, List.map_append, List.map_singleton]
    show st'.offered = _ ++ pc.pending
    rw [hoffered, hpc, List.append_nil, h.decided, hmsg]
  · rw [hentry, List.reverse_cons, List.filter_append, List.map_append, ← h.kept]
    show st'.received ++ st'.buffer = _
    cases hdropped : ending.dropped with
    | true =>
      grind
    | false =>
      rw [hdropped, if_neg Bool.false_ne_true] at hst
      rw [List.filter_cons_of_pos (by simp [hdropped])]
      exact hst.kept
  · split at hst
    · rw [hst]
      exact h.blocked
    · exact hst.blocked
  · split at hst
    · rw [hst]
      exact h.bounded
    · exact hst.bounded
  · grind [cases StreamInv]
  · rw [hentry]
    exact ⟨hwaits, h.waits⟩

theorem inv_trySend (h : StreamInv cap st) (hstep : streamStep cap st .trySend = some st') :
    StreamInv cap st' := by
  unfold streamStep at hstep
  dsimp only at hstep
  split at hstep
  · rename_i msg hpc
    split at hstep
    · rename_i st₁ hsend
      cases hstep
      have hsends := trySend_sends h hsend
      refine h.ends (by rw [hpc]; rfl) rfl hsends (fun hd => Bool.noConfusion hd) ?_
        (fun hw => Bool.noConfusion hw)
      show waitExpired (_ :: st₁.log) = false
      rfl
    · rename_i hsend
      cases hstep
      have hflag : st.stalled = waitExpired st.log := h.flag_at hpc
      exact { h with
        decided := by rw [h.decided, hpc]; rfl
        foundFull := decide_eq_true (trySend_full hsend)
        flag := hflag }
  · cases hstep

theorem inv_load (h : StreamInv cap st) (hstep : streamStep cap st .load = some st') :
    StreamInv cap st' := by
  unfold streamStep at hstep
  dsimp only at hstep
  split at hstep
  · rename_i msg full hpc
    have hflag : st.stalled = waitExpired st.log := h.flag_at hpc
    have hfull : full = true := h.foundFull_at hpc
    by_cases hstalled : st.stalled = true
    · rw [if_pos hstalled] at hstep
      cases hstep
      exact h.ends (by rw [hpc]; rfl) rfl rfl (fun _ => hfull) hflag
        (fun hw => Bool.noConfusion hw)
    · rw [if_neg hstalled] at hstep
      cases hstep
      have hclear : st.stalled = false := by simpa using hstalled
      exact { h with
        decided := by rw [h.decided, hpc]; rfl
        foundFull := hfull
        flag := ⟨hclear, hflag.symm.trans hclear⟩ }
  · cases hstep

theorem wait_facts (h : StreamInv cap st) (hpc : st.pc = .wait msg full) :
    full = true ∧ st.stalled = false ∧ waitExpired st.log = false :=
  ⟨h.foundFull_at hpc, h.flag_at hpc⟩

theorem inv_lateSend (h : StreamInv cap st) (hstep : streamStep cap st .lateSend = some st') :
    StreamInv cap st' := by
  unfold streamStep at hstep
  dsimp only at hstep
  split at hstep
  · rename_i msg full hpc
    obtain ⟨st₁, hsend, hst'⟩ := Option.map_eq_some_iff.mp hstep
    obtain ⟨-, hclear, hexpired⟩ := wait_facts h hpc
    have hsends := trySend_sends h hsend
    rw [← hst']
    refine h.ends (by rw [hpc]; rfl) rfl hsends (fun hd => Bool.noConfusion hd) ?_
      (fun _ => hexpired)
    show st₁.stalled = waitExpired st₁.log
    rw [hsends.stalled, hsends.log, hclear, hexpired]
  · cases hstep

theorem inv_expire (h : StreamInv cap st) (hstep : streamStep cap st .expire = some st') :
    StreamInv cap st' := by
  unfold streamStep at hstep
  dsimp only at hstep
  split at hstep
  · rename_i msg full hpc
    obtain ⟨hfull, -, hexpired⟩ := wait_facts h hpc
    cases hstep
    exact h.ends (by rw [hpc]; rfl) rfl rfl (fun _ => hfull) rfl (fun _ => hexpired)
  · cases hstep

theorem inv_send (h : StreamInv cap st) (hstep : streamStep cap st .send = some st') :
    StreamInv cap st' := by
  unfold streamStep at hstep
  dsimp only at hstep
  split at hstep
  · rename_i msg full hpc
    obtain ⟨st₁, hsend, hst'⟩ := Option.map_eq_some_iff.mp hstep
    have hflag : st.stalled = waitExpired st.log := h.flag_at hpc
    have hsends := trySend_sends h hsend
    rw [← hst']
    refine h.ends (by rw [hpc]; rfl) rfl hsends (fun hd => Bool.noConfusion hd) ?_
      (fun hw => Bool.noConfusion hw)
    show st₁.stalled = waitExpired st₁.log
    rw [hsends.stalled, hsends.log, hflag]
  · cases hstep

theorem inv_receive (h : StreamInv cap st) (hstep : streamStep cap st .receive = some st') :
    StreamInv cap st' := by
  unfold streamStep at hstep
  dsimp only at hstep
  split at hstep
  · cases hstep
  · rename_i hreceiving
    split at hstep
    · rename_i hempty
      cases hstep
      exact { h with blocked := fun _ => hempty }
    · rename_i msg rest hbuffer
      cases hstep
      have hbounded := h.bounded
      rw [hbuffer, List.length_cons] at hbounded
      refine { h with
        kept := ?_
        blocked := fun hr => absurd hr hreceiving
        bounded := Nat.le_of_succ_le hbounded }
      grind [cases StreamInv]

theorem StreamInv.arrives (h : StreamInv cap st) (hpc : st.pc = .idle)
    (hpending : pc.pending = [msg]) (hfull : FoundFull pc)
    (hflag : st.stalled = waitExpired st.log → FlagSays st.stalled st.log pc) :
    StreamInv cap { st with pc := pc, offered := st.offered ++ [msg] } :=
  { h with
    decided := by
      show st.offered ++ [msg] = st.log.reverse.map Enqueued.msg ++ pc.pending
      rw [h.decided, hpc, hpending]
      exact congrArg (· ++ [msg]) (List.append_nil _)
    foundFull := hfull
    flag := hflag (h.flag_at hpc) }

theorem streamInv_step (h : StreamInv cap st) {l : StreamLabel α}
    (hstep : streamStep cap st l = some st') : StreamInv cap st' := by
  cases l with
  | trySend => exact inv_trySend h hstep
  | load => exact inv_load h hstep
  | lateSend => exact inv_lateSend h hstep
  | expire => exact inv_expire h hstep
  | send => exact inv_send h hstep
  | receive => exact inv_receive h hstep
  | enqueue msg =>
    unfold streamStep at hstep
    dsimp only at hstep
    split at hstep
    · rename_i hpc
      cases hstep
      exact h.arrives hpc rfl trivial id
    · cases hstep
  | offer msg =>
    unfold streamStep at hstep
    dsimp only at hstep
    split at hstep
    · rename_i hpc
      cases hstep
      exact h.arrives hpc rfl trivial id
    · cases hstep
  | compareAndSwap =>
    unfold streamStep at hstep
    dsimp only at hstep
    split at hstep
    · rename_i hpc
      cases hstep
      have hexpired : waitExpired st.log = false := h.flag_at hpc
      refine { h with decided := by rw [h.decided, hpc]; rfl, foundFull := trivial, flag := ?_ }
      show (if st.stalled = true then false else st.stalled) = waitExpired st.log
      rw [hexpired]
      cases st.stalled with
      | true => rfl
      | false => rfl
    · cases hstep
  | store =>
    unfold streamStep at hstep
    dsimp only at hstep
    split at hstep
    · rename_i hpc
      cases hstep
      have hexpired : waitExpired st.log = true := h.flag_at hpc
      exact { h with
        decided := by rw [h.decided, hpc]; rfl
        foundFull := trivial
        flag := hexpired.symm }
    · cases hstep

end Steps

/-! ## What the record says -/

section Record

variable {cap : Nat} {st : Stream α}

/-- **The property of a stream.** -/
structure FanIn (st : Stream α) : Prop where
  /-- The record has every message offered, in order, but for the one in the listener's hands. -/
  decided : st.offered = st.log.reverse.map Enqueued.msg ++ st.pc.pending
  /-- What the consumer has received is in the order in which it was offered, each message at most
  once. -/
  inOrder : st.received.Sublist st.offered
  /-- Every message whose record does not say that it was dropped is received or buffered. -/
  kept : st.received ++ st.buffer
    = (st.log.reverse.filter fun e => !e.ending.dropped).map Enqueued.msg
  droppedFull : ∀ e ∈ st.log, e.ending.dropped = true → e.full = true
  /-- Between a wait that expired and a later wait that ended, a message was accepted at once. -/
  waits : ∀ later e between x earlier, st.log = later ++ e :: (between ++ x :: earlier) →
    e.ending.waited = true → x.ending = .droppedExpired → ∃ a ∈ between, a.ending = .accepted
  waiting : ∀ msg full, st.pc = .wait msg full → ∀ between x earlier,
    st.log = between ++ x :: earlier → x.ending = .droppedExpired →
    ∃ a ∈ between, a.ending = .accepted

theorem accepted_since {between earlier : List (Enqueued α)} {x : Enqueued α}
    (hx : x.ending = .droppedExpired) (h : waitExpired (between ++ x :: earlier) = false) :
    ∃ a ∈ between, a.ending = .accepted := by
  induction between with
  | nil =>
    rw [List.nil_append, waitExpired, hx] at h
    cases h
  | cons e rest ih =>
    rw [List.cons_append, waitExpired] at h
    grind

theorem waitsOnce_suffix {later rest : List (Enqueued α)} (h : WaitsOnce (later ++ rest)) :
    WaitsOnce rest := by
  induction later with
  | nil => exact h
  | cons e later ih => exact ih h.2

theorem StreamInv.fanIn (h : StreamInv cap st) : FanIn st where
  decided := h.decided
  inOrder := by
    have hkept : st.received.Sublist (st.received ++ st.buffer) := List.sublist_append_left _ _
    rw [h.kept] at hkept
    have hall : (st.log.reverse.map Enqueued.msg).Sublist st.offered := by
      rw [h.decided]
      exact List.sublist_append_left _ _
    exact (hkept.trans (List.filter_sublist.map Enqueued.msg)).trans hall
  kept := h.kept
  droppedFull := h.droppedFull
  waits later e between x earlier hlog he hx := by
    have hwaits := h.waits
    rw [hlog] at hwaits
    exact accepted_since hx ((waitsOnce_suffix hwaits).1 he)
  waiting msg full hpc between x earlier hlog hx := by
    have hexpired := (wait_facts h hpc).2.2
    rw [hlog] at hexpired
    exact accepted_since hx hexpired

end Record

/-! ## The client -/

section Client

variable [DecidableEq α] {cap : StreamName → Nat} {w w' : Client α}

theorem clientStep_cases {l : StreamName × StreamLabel α} (h : clientStep cap w l = some w') :
    ∃ st, streamStep (cap l.1) (w l.1) l.2 = some st ∧ w' = Function.update w l.1 st := by
  grind [clientStep, Option.map_eq_some_iff]

def onStream (s : StreamName) (labels : List (StreamName × StreamLabel α)) :
    List (StreamLabel α) :=
  (labels.filter fun l => l.1 = s).map Prod.snd

variable {labels : List (StreamName × StreamLabel α)}

/-- **A stream's state is a matter of its own steps.** -/
theorem run_onStream (s : StreamName) (h : run (clientStep cap) w labels = some w') :
    run (streamStep (cap s)) (w s) (onStream s labels) = some (w' s) := by
  induction labels generalizing w with
  | nil =>
    cases h
    rfl
  | cons l labels ih =>
    obtain ⟨w₁, hstep, hrun⟩ := Option.bind_eq_some_iff.mp h
    obtain ⟨st, hst, hw₁⟩ := clientStep_cases hstep
    have hrest := ih hrun
    rw [hw₁] at hrest
    unfold onStream at hrest ⊢
    by_cases hs : l.1 = s
    · rw [List.filter_cons_of_pos (by simpa using hs), List.map_cons, run, ← hs, hst]
      rw [← hs, Function.update_self] at hrest
      exact hrest
    all_goals grind

theorem client_inv (h : run (clientStep cap) Client.start labels = some w) (s : StreamName) :
    StreamInv (cap s) (w s) :=
  run_invariant (fun _ _ _ hinv _ hstep => streamInv_step hinv hstep) _ (streamInv_empty (cap s))
    (along_of_forall (fun _ _ => trivial) _ _) (run_onStream s h)

def Client.setStalled (w : Client α) (s : StreamName) (b : Bool) : Client α :=
  Function.update w s { w s with stalled := b }

omit [DecidableEq α] in
theorem setStalled_pc (s t : StreamName) (b : Bool) : (w.setStalled s b t).pc = (w t).pc := by
  unfold Client.setStalled
  by_cases h : t = s
  · rw [h, Function.update_self]
  · rw [Function.update_of_ne h]

theorem clientStep_setStalled {s : StreamName} {b : Bool} {l : StreamName × StreamLabel α}
    (h : l.1 ≠ s) :
    clientStep cap (w.setStalled s b) l = (clientStep cap w l).map (·.setStalled s b) := by
  have hidle : (w.setStalled s b).listenerIdle l.1 = w.listenerIdle l.1 := by
    unfold Client.listenerIdle
    simp only [setStalled_pc]
  have hown : w.setStalled s b l.1 = w l.1 := Function.update_of_ne h _ _
  unfold clientStep
  rw [hidle, hown]
  split
  · rw [Option.map_map]
    refine congrArg (fun f => Option.map f _) (funext fun st => ?_)
    grind [Client.setStalled, Function.update, Function.update_comm, Function.update_of_ne]
  · rfl

theorem run_setStalled {s : StreamName} {b : Bool} (h : ∀ l ∈ labels, l.1 ≠ s) :
    run (clientStep cap) (w.setStalled s b) labels
      = (run (clientStep cap) w labels).map (·.setStalled s b) := by
  induction labels generalizing w with
  | nil => rfl
  | cons l labels ih =>
    have hl := h l List.mem_cons_self
    rw [run, run, clientStep_setStalled hl]
    cases clientStep cap w l with
    | none => rfl
    | some w₁ => exact ih fun k hk => h k (List.mem_cons_of_mem l hk)

end Client

/-- **The fan-in of the broker's messages.** Every stream delivers in order, drops only from a full
buffer and waits once per stall; its state is a matter of its own steps; and the flag of a stream
makes no difference to what the others can do. -/
theorem bounded_fan_in [DecidableEq α] {cap : StreamName → Nat}
    {labels : List (StreamName × StreamLabel α)} {w : Client α}
    (hrun : run (clientStep cap) Client.start labels = some w) :
    (∀ s, FanIn (w s))
      ∧ (∀ s, run (streamStep (cap s)) .empty (onStream s labels) = some (w s))
      ∧ ∀ s b labels', (∀ l ∈ labels', l.1 ≠ s) →
        run (clientStep cap) (w.setStalled s b) labels'
          = (run (clientStep cap) w labels').map (·.setStalled s b) :=
  ⟨fun s => (client_inv hrun s).fanIn, fun s => run_onStream s hrun,
    fun _ _ _ h => run_setStalled h⟩

/-- Four calls on a buffer of one: the second waits in vain, the third is dropped at once, and the
fourth comes after the consumer has read again. -/
def stalledCalls : List (StreamName × StreamLabel Nat) :=
  [.enqueue 1, .trySend, .compareAndSwap, .enqueue 2, .trySend, .load, .expire, .store,
    .enqueue 3, .trySend, .load, .receive, .enqueue 4, .trySend, .compareAndSwap, .receive].map
    fun l => (.call, l)

theorem stalled_calls_fan_in :
    ∃ w : Client Nat, run (clientStep fun _ => 1) Client.start stalledCalls = some w
      ∧ (w .call).received = [1, 4] ∧ (w .call).offered = [1, 2, 3, 4]
      ∧ (w .call).log.map Enqueued.ending
        = [.accepted, .droppedStalled, .droppedExpired, .accepted]
      ∧ FanIn (w .call) := by
  have hrun : run (clientStep fun _ => 1) Client.start stalledCalls = some _ := rfl
  exact ⟨_, hrun, rfl, rfl, rfl, (bounded_fan_in hrun).1 .call⟩

end CallCenter.Mq
