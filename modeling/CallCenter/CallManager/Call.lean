import CallCenter.Queue.Action

/-!
# A call of the call manager

`CallImpl` with what its event handlers, `Invite`, `Hangup` and the ring timer read and write. A
handler changes the fields in one locked section and sets the state after it, so every section is a
function here; who runs them, and in which order, is another module's matter.
-/

namespace CallCenter.Queue

/-- The source compares states by their place in the enumeration. -/
def CallState.toNat (s : CallState) : Nat := s.ctorIdx

end CallCenter.Queue

namespace CallCenter.CallManager

open Queue (CallState)

structure CallActionHangup where
  timestamp : Int
  cause : String
  sipCode : Option Int
  reportingAt : Option Int
  transferTo : Option String
  transferFrom : Option String
  transferToAgent : Option Int
  transferFromAttempt : Option Int
  transferToAttempt : Option Int
  deriving DecidableEq

def normalClearing (timestamp : Int) : CallActionHangup :=
  ⟨timestamp, "NORMAL_CLEARING", none, none, none, none, none, none, none⟩

structure CallActionAMD where
  result : String
  cause : String
  aiResult : String
  aiError : String
  deriving DecidableEq

inductive CallEvent where
  | ringing (timestamp : Int)
  | progress (timestamp : Int)
  | active (timestamp : Int)
  | bridge (timestamp : Int) (bridgedId : String)
  | hold
  | amd (a : CallActionAMD)
  | hangup (e : CallActionHangup)
  deriving DecidableEq

/-- `ringTimeout`: nil, a timer that will fire, or one that has fired or was stopped. -/
inductive Timer where
  | unset | armed | idle
  deriving DecidableEq

def Timer.stop : Timer → Timer
  | .armed => .idle
  | t => t

theorem Timer.stop_ne_armed (t : Timer) : t.stop ≠ .armed := by
  cases t <;> simp [stop]

structure CallImpl where
  /-- `callRequest.Timeout`; a call that joined a queue has no `callRequest`. -/
  callRequest : Option Nat
  outbound : Bool
  state : CallState
  chState : List CallState
  ringTimeout : Timer
  /-- How often `hangupCh` was closed: the second time is a panic. -/
  hangupCh : Nat
  cancel : String
  hangup : Option CallActionHangup
  bridgedId : Option String
  ringingAt : Int
  acceptAt : Int
  bridgeAt : Int
  hangupAt : Int
  reportingAt : Int
  progressAt : Int
  transferTo : Option String
  transferFrom : Option String
  transferToAgentId : Option Int
  transferFromAttemptId : Option Int
  transferToAttemptId : Option Int
  amd : CallActionAMD

def chStateSize : Nat := 5

/-- `NewCall` with a request whose ring timeout is `timeout` seconds. -/
def newCall (timeout : Nat) : CallImpl where
  callRequest := some timeout
  outbound := true
  state := .new
  chState := []
  ringTimeout := .unset
  hangupCh := 0
  cancel := ""
  hangup := none
  bridgedId := none
  ringingAt := 0
  acceptAt := 0
  bridgeAt := 0
  hangupAt := 0
  reportingAt := 0
  progressAt := 0
  transferTo := none
  transferFrom := none
  transferToAgentId := none
  transferFromAttemptId := none
  transferToAttemptId := none
  amd := ⟨"", "", "", ""⟩

/-- The object `InboundCallQueue` and `ConnectCall` make for a call that is on the switch. -/
def joinedCall (outbound : Bool) (answeredAt createdAt : Int) : CallImpl :=
  { newCall 0 with
    callRequest := none, outbound := outbound, state := .accept,
    acceptAt := answeredAt, ringingAt := createdAt }

namespace CallImpl

def hangupCause (c : CallImpl) : String :=
  (c.hangup.map (·.cause)).getD ""

/-- The locked section of `setRinging`; `none` is a nil pointer. -/
def setRinging (c : CallImpl) (timestamp : Int) : Option CallImpl :=
  let c := { c with ringingAt := timestamp }
  if c.ringTimeout = .unset then
    c.callRequest.map fun timeout => if 0 < timeout then { c with ringTimeout := .armed } else c
  else some c

def setProgress (c : CallImpl) (timestamp : Int) : Option CallImpl :=
  let stamp (c : CallImpl) : CallImpl :=
    if c.progressAt = 0 then { c with progressAt := timestamp } else c
  if c.progressAt = 0 ∧ c.ringTimeout ≠ .unset then
    c.callRequest.map fun timeout =>
      -- `Reset` starts a timer again, also one that was stopped.
      stamp (if 0 < timeout then { c with ringTimeout := .armed } else c)
  else some (stamp c)

def setActive (c : CallImpl) (timestamp : Int) : CallImpl :=
  { c with acceptAt := timestamp, ringTimeout := c.ringTimeout.stop }

def setBridge (c : CallImpl) (timestamp : Int) (bridgedId : String) : CallImpl :=
  { c with
    bridgeAt := timestamp, bridgedId := some bridgedId, ringTimeout := c.ringTimeout.stop }

def setAmd (c : CallImpl) (a : CallActionAMD) : CallImpl :=
  { c with amd := a }

/-- The locked section of `setHangup` for a call that has not hung up yet. -/
def setHangup (c : CallImpl) (e : CallActionHangup) (now : Int) : CallImpl :=
  { c with
    hangup := some e
    ringTimeout := c.ringTimeout.stop
    hangupAt := if e.timestamp = 0 then now else e.timestamp
    reportingAt := e.reportingAt.getD c.reportingAt
    transferFrom := e.transferFrom
    transferFromAttemptId := e.transferFromAttempt
    transferTo := e.transferTo
    transferToAgentId := e.transferToAgent
    transferToAttemptId := e.transferToAttempt
    hangupCh := c.hangupCh + 1 }

def resetBridge (c : CallImpl) : CallImpl :=
  { c with bridgeAt := 0, bridgedId := none }

theorem setRinging_spec {c c' : CallImpl} {t : Int} (h : c.setRinging t = some c') :
    c' = { c with ringingAt := t, ringTimeout := c'.ringTimeout }
      ∧ (c'.ringTimeout = c.ringTimeout
        ∨ c.ringTimeout = .unset ∧ c.callRequest.any (0 < ·) = true) := by
  unfold setRinging at h
  by_cases hset : c.ringTimeout = .unset
  · rw [if_pos hset] at h
    obtain ⟨timeout, hreq, rfl⟩ := Option.map_eq_some_iff.mp h
    have hreq : c.callRequest = some timeout := hreq
    by_cases hpos : 0 < timeout
    · rw [if_pos hpos]
      exact ⟨rfl, .inr ⟨hset, by simpa [hreq] using hpos⟩⟩
    · rw [if_neg hpos]
      exact ⟨rfl, .inl rfl⟩
  · rw [if_neg hset] at h
    cases h
    exact ⟨rfl, .inl rfl⟩

theorem setProgress_spec {c c' : CallImpl} {t : Int} (h : c.setProgress t = some c') :
    c' = { c with progressAt := c'.progressAt, ringTimeout := c'.ringTimeout }
      ∧ (c'.ringTimeout = c.ringTimeout
        ∨ c.progressAt = 0 ∧ c.ringTimeout ≠ .unset ∧ c.callRequest.any (0 < ·) = true) := by
  unfold setProgress at h
  by_cases hfirst : c.progressAt = 0 ∧ c.ringTimeout ≠ .unset
  · rw [if_pos hfirst] at h
    obtain ⟨timeout, hreq, rfl⟩ := Option.map_eq_some_iff.mp h
    by_cases hpos : 0 < timeout
    · simp [hpos, hfirst, hreq]
    · simp [hpos, hfirst]
  · rw [if_neg hfirst] at h
    cases h
    by_cases hzero : c.progressAt = 0 <;> simp [hzero]

theorem setHangup_hangupAt_ne_zero (c : CallImpl) (e : CallActionHangup) {now : Int}
    (hnow : 0 < now) : (c.setHangup e now).hangupAt ≠ 0 := by
  show (if e.timestamp = 0 then now else e.timestamp) ≠ 0
  by_cases he : e.timestamp = 0
  · rw [if_pos he]
    omega
  · rw [if_neg he]
    exact he

end CallImpl

end CallCenter.CallManager
