import CallCenter.CallManager.Call
import CallCenter.Lib.Run

/-!
# The goroutines around a call

`CallManagerImpl.Start` gives every event a goroutine of its own, so the handlers of one call run in
any order and at the same time. Around them are the goroutines that call `Hangup` or `Invite`, the
one `Invite` starts to dial, and the function of the ring timer.

Each is a thread: a program counter over its shared steps. `setState` is two steps: the assignment,
and the send, which waits for room in the channel. The cache has one entry that matters, the call's
own; it can be evicted at any time. No step follows a panic.
-/

namespace CallCenter.CallManager

open Queue (CallState)

/-- Where a thread stands; what it does next. `timer` marks a `Hangup` of the ring timer. -/
inductive Pc where
  -- `handleCallAction`: the lookup, then the handler up to its locked section
  | getCall (e : CallEvent) | handle (e : CallEvent)
  | active (timestamp : Int)
  -- `setState`
  | assign (s : CallState) | send (s : CallState)
  -- `HangupManyCall`, `Hangup`
  | hangupMany (cause : String) | hangup (timer : Bool) (cause : String)
  | setCancel (timer : Bool) (cause : String) | closeNew
  | hangupCall (timer : Bool) (cause : String) | hangupFailed (cause : String)
  | ringTimeout
  -- `Invite`, and the goroutine it starts
  | saveToCache | inviteState | dial | dialing
  | finished
  deriving DecidableEq

def Pc.hangsUp : Pc → Bool
  | .handle (.hangup _) => true
  | _ => false

/-- What the outside world answers a step: the clock, whether the remote call succeeded,
and the cause and code of a `NewCall` that failed. -/
structure Reply where
  now : Int
  ok : Bool
  cause : String
  code : Int
  now_pos : 0 < now

def answer (success : Bool) : Reply := ⟨1, success, "CALL_REJECTED", 603, by decide⟩

/-- What a step of a thread does to the call and the cache, and where the thread goes. -/
structure Move where
  call : CallImpl
  cached : Bool
  pc : Pc
  spawn : List Pc := []
  crashed : Bool := false
  returns : Bool := false
  answers : Bool := false
  noAnswer : Bool := false
  dials : Bool := false

def move (c : CallImpl) (cached : Bool) (pc : Pc) (r : Reply) : Option Move :=
  let goto (pc : Pc) : Move := { call := c, cached := cached, pc := pc }
  match pc with
  | .getCall e => some (goto (if cached then .handle e else .finished))
  | .handle (.ringing t) =>
    match c.setRinging t with
    | some c' => some { goto (.assign .ringing) with call := c' }
    | none => some { goto .finished with crashed := true }
  | .handle (.progress t) =>
    match c.setProgress t with
    | some c' => some { goto .finished with call := c' }
    | none => some { goto .finished with crashed := true }
  | .handle (.active t) => some (goto (if c.acceptAt = 0 then .active t else .finished))
  | .active t => some { goto (.assign .accept) with call := c.setActive t, answers := true }
  | .handle (.bridge t id) =>
    some { goto (.assign .bridge) with call := c.setBridge t id, answers := true }
  | .handle .hold => some (goto (.assign .hold))
  | .handle (.amd a) => some { goto (.assign .detectAmd) with call := c.setAmd a }
  | .handle (.hangup e) =>
    if c.hangupAt = 0 then
      some { goto (.assign .hangup) with call := c.setHangup e r.now, cached := false }
    else some { goto .finished with returns := true }
  | .assign s => some { goto (.send s) with call := { c with state := s } }
  | .send s =>
    if c.chState.length < chStateSize then
      some { goto .finished with
        call := { c with chState := c.chState ++ [s] }, returns := s = .hangup }
    else none
  | .hangupMany cause => some (goto (if cached then .hangup false cause else .finished))
  | .hangup timer cause =>
    if c.state.toNat < CallState.invite.toNat then
      some (goto (.setCancel timer cause))
    else some (goto (.hangupCall timer (if cause = "" then "NORMAL_CLEARING" else cause)))
  | .setCancel timer cause =>
    some { goto .closeNew with call := { c with cancel := cause }, noAnswer := timer }
  | .closeNew =>
    some { goto .finished with
      call := if c.state = .new then { c with hangupCh := c.hangupCh + 1 } else c }
  | .hangupCall timer cause =>
    some { goto (if r.ok then .finished else .hangupFailed cause) with noAnswer := timer }
  | .hangupFailed cause =>
    some (goto (if c.hangupCause = "" then
      .handle (.hangup ⟨r.now, cause, none, none, none, none, none, none, none⟩) else .finished))
  | .ringTimeout =>
    some (goto (if c.state.toNat < CallState.accept.toNat then .hangup true "NO_ANSWER"
      else .finished))
  | .saveToCache =>
    -- The direction is checked after the call was saved.
    some { goto (if c.outbound then .inviteState else .finished) with cached := true }
  | .inviteState =>
    some { goto .finished with call := { c with state := .invite }, spawn := [.dial] }
  | .dial => some { goto .dialing with dials := true }
  | .dialing =>
    some (goto (if r.ok then .finished else
      .handle (.hangup ⟨0, r.cause, some r.code, none, none, none, none, none, none⟩)))
  | .finished => none

/-- A call, its cache entry, its goroutines, and what has happened so far. -/
structure World where
  call : CallImpl
  cached : Bool
  threads : List Pc
  crashed : Bool
  returned : Bool
  answered : Bool
  lateNoAnswer : Bool
  lateDial : Bool

def World.apply (w : World) (i : Nat) (m : Move) : World where
  call := m.call
  cached := m.cached
  threads := w.threads.set i m.pc ++ m.spawn
  crashed := m.crashed
  returned := w.returned || m.returns
  answered := w.answered || m.answers
  lateNoAnswer := w.lateNoAnswer || (m.noAnswer && w.answered)
  lateDial := w.lateDial || (m.dials && decide (0 < w.call.hangupCh))

def World.spawn (w : World) (pc : Pc) : World :=
  { w with threads := w.threads ++ [pc] }

inductive Label where
  | event (e : CallEvent)
  | hangup (cause : String) | hangupMany (cause : String)
  | invite
  | fire
  | evict
  | receive
  | advance (i : Nat) (r : Reply)

def step (w : World) (l : Label) : Option World :=
  if w.crashed then none else
  match l with
  | .event e => some (w.spawn (.getCall e))
  | .hangup cause => some (w.spawn (.hangup false cause))
  | .hangupMany cause => some (w.spawn (.hangupMany cause))
  | .invite => some (w.spawn .saveToCache)
  | .fire =>
    if w.call.ringTimeout = .armed then
      some ({ w with call := { w.call with ringTimeout := .idle } }.spawn .ringTimeout)
    else none
  | .evict => some { w with cached := false }
  | .receive =>
    match w.call.chState with
    | [] => none
    | _ :: rest => some { w with call := { w.call with chState := rest } }
  | .advance i r =>
    w.threads[i]?.bind fun pc => (move w.call w.cached pc r).map (w.apply i)

def steps (i n : Nat) (success : Bool) : List Label :=
  List.replicate n (.advance i (answer success))

inductive Origin where
  | newCall (timeout : Nat)
  | joined (outbound : Bool) (answeredAt createdAt : Int)

def start (o : Origin) : World where
  call := match o with
    | .newCall timeout => newCall timeout
    | .joined outbound answeredAt createdAt => joinedCall outbound answeredAt createdAt
  cached := match o with
    | .newCall _ => false
    | .joined .. => true
  threads := []
  crashed := false
  returned := false
  answered := false
  lateNoAnswer := false
  lateDial := false

/-! ## What a step can do -/

/-- The moves, one constructor for each way `move` can go. -/
inductive Moves (c : CallImpl) (cached : Bool) (r : Reply) : Pc → Move → Prop where
  | found (e : CallEvent) (h : cached = true) :
      Moves c cached r (.getCall e) { call := c, cached := cached, pc := .handle e }
  | unknown (e : CallEvent) (h : cached = false) :
      Moves c cached r (.getCall e) { call := c, cached := cached, pc := .finished }
  | ringing (t : Int) (c' : CallImpl) (h : c.setRinging t = some c') :
      Moves c cached r (.handle (.ringing t))
        { call := c', cached := cached, pc := .assign .ringing }
  | ringingNil (t : Int) (h : c.setRinging t = none) :
      Moves c cached r (.handle (.ringing t))
        { call := c, cached := cached, pc := .finished, crashed := true }
  | progress (t : Int) (c' : CallImpl) (h : c.setProgress t = some c') :
      Moves c cached r (.handle (.progress t))
        { call := c', cached := cached, pc := .finished }
  | progressNil (t : Int) (h : c.setProgress t = none) :
      Moves c cached r (.handle (.progress t))
        { call := c, cached := cached, pc := .finished, crashed := true }
  | accepting (t : Int) (h : c.acceptAt = 0) :
      Moves c cached r (.handle (.active t)) { call := c, cached := cached, pc := .active t }
  | accepted (t : Int) (h : c.acceptAt ≠ 0) :
      Moves c cached r (.handle (.active t)) { call := c, cached := cached, pc := .finished }
  | active (t : Int) :
      Moves c cached r (.active t)
        { call := c.setActive t, cached := cached, pc := .assign .accept, answers := true }
  | bridge (t : Int) (id : String) :
      Moves c cached r (.handle (.bridge t id))
        { call := c.setBridge t id, cached := cached, pc := .assign .bridge, answers := true }
  | hold :
      Moves c cached r (.handle .hold) { call := c, cached := cached, pc := .assign .hold }
  | amd (a : CallActionAMD) :
      Moves c cached r (.handle (.amd a))
        { call := c.setAmd a, cached := cached, pc := .assign .detectAmd }
  | hangup (e : CallActionHangup) (h : c.hangupAt = 0) :
      Moves c cached r (.handle (.hangup e))
        { call := c.setHangup e r.now, cached := false, pc := .assign .hangup }
  | hangupAgain (e : CallActionHangup) (h : c.hangupAt ≠ 0) :
      Moves c cached r (.handle (.hangup e))
        { call := c, cached := cached, pc := .finished, returns := true }
  | assign (s : CallState) :
      Moves c cached r (.assign s)
        { call := { c with state := s }, cached := cached, pc := .send s }
  | send (s : CallState) (h : c.chState.length < chStateSize) :
      Moves c cached r (.send s)
        { call := { c with chState := c.chState ++ [s] }, cached := cached, pc := .finished,
          returns := s = .hangup }
  | hangupFound (cause : String) (h : cached = true) :
      Moves c cached r (.hangupMany cause)
        { call := c, cached := cached, pc := .hangup false cause }
  | hangupUnknown (cause : String) (h : cached = false) :
      Moves c cached r (.hangupMany cause) { call := c, cached := cached, pc := .finished }
  | cancel (timer : Bool) (cause : String) (h : c.state.toNat < CallState.invite.toNat) :
      Moves c cached r (.hangup timer cause)
        { call := c, cached := cached, pc := .setCancel timer cause }
  | request (timer : Bool) (cause : String) (h : ¬ c.state.toNat < CallState.invite.toNat) :
      Moves c cached r (.hangup timer cause)
        { call := c, cached := cached,
          pc := .hangupCall timer (if cause = "" then "NORMAL_CLEARING" else cause) }
  | setCancel (timer : Bool) (cause : String) :
      Moves c cached r (.setCancel timer cause)
        { call := { c with cancel := cause }, cached := cached, pc := .closeNew,
          noAnswer := timer }
  | close (h : c.state = .new) :
      Moves c cached r .closeNew
        { call := { c with hangupCh := c.hangupCh + 1 }, cached := cached, pc := .finished }
  | left (h : c.state ≠ .new) :
      Moves c cached r .closeNew { call := c, cached := cached, pc := .finished }
  | hangupCall (timer : Bool) (cause : String) (h : r.ok = true) :
      Moves c cached r (.hangupCall timer cause)
        { call := c, cached := cached, pc := .finished, noAnswer := timer }
  | hangupCallError (timer : Bool) (cause : String) (h : r.ok = false) :
      Moves c cached r (.hangupCall timer cause)
        { call := c, cached := cached, pc := .hangupFailed cause, noAnswer := timer }
  | hangupItself (cause : String) (h : c.hangupCause = "") :
      Moves c cached r (.hangupFailed cause)
        { call := c, cached := cached,
          pc := .handle (.hangup ⟨r.now, cause, none, none, none, none, none, none, none⟩) }
  | hungUp (cause : String) (h : c.hangupCause ≠ "") :
      Moves c cached r (.hangupFailed cause) { call := c, cached := cached, pc := .finished }
  | noAnswer (h : c.state.toNat < CallState.accept.toNat) :
      Moves c cached r .ringTimeout
        { call := c, cached := cached, pc := .hangup true "NO_ANSWER" }
  | answered (h : ¬ c.state.toNat < CallState.accept.toNat) :
      Moves c cached r .ringTimeout { call := c, cached := cached, pc := .finished }
  | save (h : c.outbound = true) :
      Moves c cached r .saveToCache { call := c, cached := true, pc := .inviteState }
  | badDirection (h : c.outbound = false) :
      Moves c cached r .saveToCache { call := c, cached := true, pc := .finished }
  | invite :
      Moves c cached r .inviteState
        { call := { c with state := .invite }, cached := cached, pc := .finished,
          spawn := [.dial] }
  | dial :
      Moves c cached r .dial { call := c, cached := cached, pc := .dialing, dials := true }
  | dialed (h : r.ok = true) :
      Moves c cached r .dialing { call := c, cached := cached, pc := .finished }
  | dialError (h : r.ok = false) :
      Moves c cached r .dialing
        { call := c, cached := cached,
          pc := .handle (.hangup ⟨0, r.cause, some r.code, none, none, none, none, none, none⟩) }

variable {c : CallImpl} {cached : Bool} {r : Reply} {m : Move} {pc : Pc} {w : World}

theorem moves_handle {e : CallEvent} (h : move c cached (.handle e) r = some m) :
    Moves c cached r (.handle e) m := by
  cases e <;> grind [move, Moves]

theorem moves_hangup {timer : Bool} {cause : String}
    (h : move c cached (.hangup timer cause) r = some m) :
    Moves c cached r (.hangup timer cause) m := by
  grind [move, Moves]

theorem move_cases (h : move c cached pc r = some m) : Moves c cached r pc m := by
  cases pc <;> grind [move, moves_handle, moves_hangup, Moves]

/-- A step that is not a thread's: it starts a goroutine, or changes the channel, the timer
or the cache in a way every thread has to live with. -/
inductive Outside (w : World) : Label → World → Prop where
  | event (e : CallEvent) : Outside w (.event e) (w.spawn (.getCall e))
  | hangup (cause : String) : Outside w (.hangup cause) (w.spawn (.hangup false cause))
  | hangupMany (cause : String) : Outside w (.hangupMany cause) (w.spawn (.hangupMany cause))
  | invite : Outside w .invite (w.spawn .saveToCache)
  | fire (h : w.call.ringTimeout = .armed) :
      Outside w .fire
        ({ w with call := { w.call with ringTimeout := .idle } }.spawn .ringTimeout)
  | evict : Outside w .evict { w with cached := false }
  | receive (s : CallState) (rest : List CallState) (h : w.call.chState = s :: rest) :
      Outside w .receive { w with call := { w.call with chState := rest } }

theorem step_cases {w' : World} {l : Label} (h : step w l = some w') :
    Outside w l w' ∨ ∃ i r pc m, l = .advance i r ∧ w.threads[i]? = some pc
      ∧ move w.call w.cached pc r = some m ∧ w' = w.apply i m := by
  cases l with
  | advance i r =>
    obtain ⟨-, h⟩ := Option.ite_none_left_eq_some.mp h
    grind [Option.bind_eq_some_iff, Option.map_eq_some_iff]
  | _ => grind [step, Outside]

theorem forall_apply {i : Nat} {p : Pc → Prop} (hpc : w.threads[i]? = some pc)
    (hw : ∀ z ∈ w.threads, p z) (hto : p m.pc) (hspawn : ∀ z ∈ m.spawn, p z) :
    ∀ z ∈ (w.apply i m).threads, p z := by
  intro z hz
  rcases (Lib.mem_set_append hpc).mp hz with rfl | hz | hz
  · exact hto
  · exact hspawn z hz
  · exact hw z (List.mem_of_mem_eraseIdx hz)

theorem forall_spawn {p : Pc → Prop} (hw : ∀ z ∈ w.threads, p z) (hpc : p pc) :
    ∀ z ∈ (w.spawn pc).threads, p z := by
  intro z hz
  rcases List.mem_append.mp hz with h | h
  · exact hw z h
  · exact List.mem_singleton.mp h ▸ hpc

end CallCenter.CallManager
