import Mathlib.Data.List.Basic

/-!
# Sessions on an IM thread

A session is one attempt's leg on a thread. The client keeps every session in
`threads`; its event loop takes the gateway's messages one by one and hands each to
all the sessions of the message's thread in turn. Ordinary messages move the
session's clocks; a `member_removed` or `transfer` event that names the session's
client or its agent cancels it.
-/

namespace CallCenter.IM

structure IMSystemMetadata where
  removedMemberId : String
  transferredMemberId : String
  deriving DecidableEq

structure IMSystem where
  type : String
  metadata : IMSystemMetadata
  deriving DecidableEq

structure IMMessage where
  threadId : String
  fromSub : String
  system : Option IMSystem
  deriving DecidableEq

def imSystemTypeBotControlGranted : String := "bot_control_granted"

def imSystemTypeBotControlReleased : String := "bot_control_released"

def IMSystem.affectsMember (s : IMSystem) (memberId : String) : Bool :=
  memberId ≠ "" &&
    (s.metadata.removedMemberId = memberId || s.metadata.transferredMemberId = memberId)

structure Session where
  tagId : Int
  threadId : String
  agentMemberId : String
  clientMemberId : String
  subMember : String
  userId : String
  lastMessageAt : Int
  lastMessageAtFromMember : Int
  lastMessageAtFromAgent : Int
  botActive : Bool
  done : Bool

namespace Session

def cancel (s : Session) : Session := { s with done := true }

/-- Control back from the bot counts as activity of everybody. -/
def setBotActive (s : Session) (active : Bool) (now : Int) : Session :=
  let s' :=
    if s.botActive && !active then
      { s with
        lastMessageAt := now, lastMessageAtFromMember := now, lastMessageAtFromAgent := now }
    else s
  { s' with botActive := active }

def onMessage (s : Session) (fromSub : String) (now : Int) : Session :=
  let s' := { s with lastMessageAt := now }
  if fromSub = s.subMember then { s' with lastMessageAtFromMember := now }
  else if fromSub = s.userId then { s' with lastMessageAtFromAgent := now }
  else s'

/-- `setAgent`, after the gateway has made `userId` a member of the thread. -/
def setAgent (s : Session) (memberId userId : String) : Session :=
  { s with
    agentMemberId := if memberId ≠ "" then memberId else s.agentMemberId
    userId := userId }

end Session

/-- Does the event end the session: a removal or a transfer of its client or agent? -/
def endsSession (sess : Session) (msg : IMMessage) : Bool :=
  match msg.system with
  | none => false
  | some sys =>
    (sys.type = "member_removed" || sys.type = "transfer")
      && (sys.affectsMember sess.clientMemberId || sys.affectsMember sess.agentMemberId)

def handleEvent (sess : Session) (msg : IMMessage) (now : Int) : Session :=
  match msg.system with
  | none => sess.onMessage msg.fromSub now
  | some sys =>
    if sys.type = imSystemTypeBotControlGranted then sess.setBotActive true now
    else if sys.type = imSystemTypeBotControlReleased then sess.setBotActive false now
    else if sys.type = "member_removed" || sys.type = "transfer" then
      let affectsClient := sys.affectsMember sess.clientMemberId
      let affectsAgent := sys.affectsMember sess.agentMemberId
      if affectsClient || affectsAgent then sess.cancel else sess
    else sess.onMessage msg.fromSub now

/-! ## What an event does to a session -/

@[simp] theorem setBotActive_done (s : Session) (active : Bool) (now : Int) :
    (s.setBotActive active now).done = s.done := by
  unfold Session.setBotActive
  by_cases h : (s.botActive && !active) = true <;> simp [h]

@[simp] theorem onMessage_done (s : Session) (fromSub : String) (now : Int) :
    (s.onMessage fromSub now).done = s.done := by
  simp only [Session.onMessage]
  split
  · rfl
  · split <;> rfl

/-- A session is cancelled by the events that end it, and by no other. -/
theorem handleEvent_done (sess : Session) (msg : IMMessage) (now : Int) :
    (handleEvent sess msg now).done = (sess.done || endsSession sess msg) := by
  unfold handleEvent endsSession
  cases msg.system with
  | none => simp
  | some sys =>
    -- The bot control types are neither a removal nor a transfer.
    by_cases hg : sys.type = imSystemTypeBotControlGranted
    · simp [hg, imSystemTypeBotControlGranted]
    · by_cases hr : sys.type = imSystemTypeBotControlReleased
      · simp [hr, imSystemTypeBotControlGranted, imSystemTypeBotControlReleased]
      · by_cases ht : (decide (sys.type = "member_removed") || decide (sys.type = "transfer")) =
          true
        · simp only [hg, hr, ht, if_true, if_false, Bool.true_and]
          cases sys.affectsMember sess.clientMemberId || sys.affectsMember sess.agentMemberId with
          | true => simp [Session.cancel]
          | false => simp
        · simp only [hg, hr, ht, if_false]
          simp

end CallCenter.IM
