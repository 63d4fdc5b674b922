import CallCenter.Queue.Action

/-!
# A chat conversation

The conversation of an attempt: the session of the member, one for every agent that was invited, and
the channel by which the queue's goroutine learns of their states. The functions here are the locked
or unshared sections of the methods; what runs between them is in the world around the conversation.
-/

namespace CallCenter.Chat

open Queue (ChatState)

structure ChatSession where
  channelId : String
  inviteId : String
  inviteAt : Int
  answeredAt : Int
  stopAt : Int
  activityAt : Int
  cause : String

def memberChat (inviterId : String) (now : Int) : ChatSession where
  channelId := inviterId
  inviteId := ""
  inviteAt := 0
  answeredAt := 0
  stopAt := 0
  activityAt := now
  cause := ""

def outboundChat : ChatSession where
  channelId := ""
  inviteId := ""
  inviteAt := 0
  answeredAt := 0
  stopAt := 0
  activityAt := 0
  cause := ""

/-- A state in the channel. The channel carries the state alone; the invite it is about is
kept for what is said of the channel. -/
structure Sent where
  state : ChatState
  about : String
  deriving DecidableEq

def stateBufferSize : Nat := 50

structure Conversation where
  sessions : List ChatSession
  state : List Sent
  stateStalled : Bool
  bridgedAt : Int
  closeAt : Int
  lastMessageAt : Int
  cause : String

def newConversation (inviterId : String) (now : Int) : Conversation where
  sessions := [memberChat inviterId now]
  state := []
  stateStalled := false
  bridgedAt := 0
  closeAt := 0
  lastMessageAt := now
  cause := ""

def lastIdx? {α : Type} (p : α → Bool) (l : List α) : Option Nat :=
  ((List.range l.length).filter fun i => l[i]?.any p).getLast?

theorem lastIdx?_some {α : Type} {p : α → Bool} {l : List α} {i : Nat} (h : lastIdx? p l = some i) :
    ∃ a, l[i]? = some a ∧ p a = true := by
  obtain ⟨-, hp⟩ := List.mem_filter.mp (List.mem_of_getLast? h)
  cases hi : l[i]? with
  | none => simp [hi] at hp
  | some a =>
    rw [hi] at hp
    exact ⟨a, rfl, hp⟩

theorem lastIdx?_none {α : Type} {p : α → Bool} {l : List α} (h : lastIdx? p l = none) :
    ∀ a ∈ l, p a = false := by
  intro a ha
  obtain ⟨j, hj⟩ := List.mem_iff_getElem?.mp ha
  have hrange : j ∈ List.range l.length :=
    List.mem_range.mpr (List.getElem?_eq_some_iff.mp hj).1
  have hno := List.filter_eq_nil_iff.mp (List.getLast?_eq_none_iff.mp h) j hrange
  rw [hj] at hno
  exact Bool.eq_false_iff.mpr hno

theorem lastIdx?_cons {α : Type} (p : α → Bool) (a : α) (l : List α) :
    lastIdx? p (a :: l) = ((lastIdx? p l).map (· + 1)).or (if p a then some 0 else none) := by
  have hrange : (List.range (l.length + 1)).filter (fun i => (a :: l)[i]?.any p) =
      (if p a then [0] else []) ++
        ((List.range l.length).filter fun i => l[i]?.any p).map (· + 1) := by
    rw [List.range_succ_eq_map, List.filter_cons, List.filter_map]
    by_cases hp : p a = true
    · simp [hp, Function.comp_def]
    · simp [hp, Function.comp_def]
  rw [lastIdx?, List.length_cons, hrange, List.getLast?_append, List.getLast?_map, ← lastIdx?]
  by_cases hp : p a = true
  · rw [if_pos hp, if_pos hp, List.getLast?_singleton]
  · rw [if_neg hp, if_neg hp, List.getLast?_nil]

namespace Conversation

def active (c : Conversation) : Bool := c.closeAt = 0

def setStop (c : Conversation) (now : Int) : Conversation :=
  if c.closeAt = 0 then { c with closeAt := now } else c

def invitedBy (inviteId : String) (s : ChatSession) : Bool :=
  decide (s.inviteId = inviteId) && decide (s.stopAt = 0)

/-- `getSessionByInviteId`: the first one. -/
def getSessionByInviteId (c : Conversation) (inviteId : String) : Option Nat :=
  c.sessions.findIdx? (invitedBy inviteId)

/-- The loop of `setJoined`: the last one. -/
def joinedSession (c : Conversation) (channelId : String) : Option Nat :=
  lastIdx? (invitedBy channelId) c.sessions

def getSessionByChannelId (c : Conversation) (channelId : String) : Option Nat :=
  c.sessions.findIdx? fun s => decide (s.channelId = channelId) && decide (s.stopAt = 0)

def modifySession (c : Conversation) (i : Nat) (f : ChatSession → ChatSession) : Conversation :=
  { c with sessions := c.sessions.modify i f }

def addSession (c : Conversation) : Conversation :=
  { c with sessions := c.sessions ++ [outboundChat] }

def setInviteId (c : Conversation) (i : Nat) (inviteId : String) (now : Int) : Conversation :=
  c.modifySession i fun s => { s with activityAt := now, inviteId := inviteId, inviteAt := now }

def stopSession (c : Conversation) (i : Nat) (timestamp : Int) : Conversation :=
  c.modifySession i fun s => { s with stopAt := timestamp }

def setJoined (c : Conversation) (found : Option Nat) (channelId : String) (timestamp now : Int) :
    Conversation :=
  let c := { c with lastMessageAt := now }
  match found with
  | some i => { c.modifySession i fun s =>
      { s with channelId := channelId, answeredAt := timestamp, activityAt := now } with
        bridgedAt := timestamp }
  | none => c

def setNewMessage (c : Conversation) (channelId : String) (now : Int) : Conversation :=
  let c := { c with lastMessageAt := now }
  match c.getSessionByChannelId channelId with
  | some i => c.modifySession i fun s => { s with activityAt := now }
  | none => c

/-- `setClose` before it pushes the state. -/
def setClose (c : Conversation) (timestamp : Int) (cause : String) : Conversation :=
  { c with closeAt := timestamp, cause := cause }.modifySession 0 fun s => { s with cause := cause }

end Conversation

end CallCenter.Chat
