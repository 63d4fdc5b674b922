import CallCenter.Chat.Named

/-!
# Invites that fail

`InviteInternal` adds the agent's session before it asks the server, and fills in the invite's id
after the server has accepted. If the server refuses, or the request fails, nothing takes the
session out again. It stays for the life of the conversation, as the last session until another
invite is made: what `Reporting` leaves then is a channel that never was, and a lookup of the empty
id finds it.
-/

namespace CallCenter.Chat

open Queue (InviteReply)
open Lib

inductive InviteAnswer where
  | accepted (inviteId : String)
  /-- An error; is it "channel not found"? -/
  | error (notFound : Bool)

inductive ReportingOutcome where
  | stopped
  | leaves (sess : ChatSession)
  | stays

namespace Conversation

def memberSession (c : Conversation) : Option ChatSession := c.sessions.head?

def lastSession (c : Conversation) : Option ChatSession := c.sessions.getLast?

def inviteInternal (c : Conversation) (answer : InviteAnswer) (now : Int) :
    Conversation × InviteReply :=
  let c' := c.addSession
  match answer with
  | .accepted inviteId => (c'.setInviteId c.sessions.length inviteId now, .ok)
  | .error notFound => if notFound then (c'.setStop now, .special) else (c', .failed)

/-- `Reporting`; a conversation without sessions is an index out of range. -/
def reporting (c : Conversation) (noLeave : Bool) : Option ReportingOutcome :=
  c.lastSession.map fun sess =>
    if sess.stopAt ≠ 0 then .stopped else if noLeave then .stays else .leaves sess

end Conversation

/-- `InviteInternal` in the world of the conversation, when the request fails. -/
theorem run_failedInvite {w : ChatWorld} {t : Tick} (h : w.inviting = .addSession)
    (hfail : t.ok = false) :
    ∃ w', run chatStep w [.advance t, .advance t] = some w'
      ∧ (w'.conv, w'.inviting) =
        ((w.conv.inviteInternal (.error t.notFound) t.now).1,
          .returned (w.conv.inviteInternal (.error t.notFound) t.now).2) := by
  cases hnot : t.notFound with
  | true =>
    refine ⟨{ w with
      conv := w.conv.addSession.setStop t.now, inviting := .returned .special }, ?_, rfl⟩
    simp [run, chatStep, ChatWorld.invite, h, hfail, ChatWorld.inviteFails, hnot]
  | false =>
    refine ⟨{ w with conv := w.conv.addSession, inviting := .returned .failed }, ?_, rfl⟩
    simp [run, chatStep, ChatWorld.invite, h, hfail, ChatWorld.inviteFails, hnot]

/-! ## The conversation after a failure -/

/-- A failed invite is to leave these as they were; "channel not found" closes the conversation. -/
structure AsBefore (c c' : Conversation) (notFound : Bool) : Prop where
  sessions : c'.sessions = c.sessions
  lastSession : c'.lastSession = c.lastSession
  memberSession : c'.memberSession = c.memberSession
  bridgedAt : c'.bridgedAt = c.bridgedAt
  active : c'.active = (c.active && !notFound)

theorem inviteInternal_error (c : Conversation) (notFound : Bool) (now : Int) :
    (c.inviteInternal (.error notFound) now).1.sessions = c.sessions ++ [outboundChat]
      ∧ (c.inviteInternal (.error notFound) now).1.bridgedAt = c.bridgedAt := by
  cases notFound with
  | true => exact sessions_setStop c.addSession now
  | false => exact ⟨rfl, rfl⟩

def ChatSession.unaccepted (s : ChatSession) : Bool := s.inviteId = "" && s.channelId = ""

/-- **No failed invite leaves the conversation as it was.** The session that was never accepted
stays, as the last one: `Reporting` leaves it, and the empty invite id finds a session. What does
stay are the session of the member and the time of the bridge. -/
theorem failedInvite_never_asBefore (c : Conversation) (notFound : Bool) (now : Int) :
    ¬AsBefore c (c.inviteInternal (.error notFound) now).1 notFound
      ∧ (∃ sess, (c.inviteInternal (.error notFound) now).1.reporting false = some (.leaves sess)
        ∧ sess.unaccepted = true)
      ∧ ((c.inviteInternal (.error notFound) now).1.getSessionByInviteId "").isSome = true
      ∧ (∀ m, c.memberSession = some m →
        (c.inviteInternal (.error notFound) now).1.memberSession = some m)
      ∧ (c.inviteInternal (.error notFound) now).1.bridgedAt = c.bridgedAt := by
  obtain ⟨hs, hbridged⟩ := inviteInternal_error c notFound now
  refine ⟨?_, ⟨outboundChat, ?_, rfl⟩, ?_, ?_, hbridged⟩
  · -- The list has grown.
    intro hbefore
    have hlen := congrArg List.length (hs.symm.trans hbefore.sessions)
    rw [List.length_append, List.length_singleton] at hlen
    omega
  · rw [Conversation.reporting, Conversation.lastSession, hs, List.getLast?_concat]
    rfl
  · rw [Conversation.getSessionByInviteId, List.findIdx?_isSome, hs, List.any_append]
    rw [Bool.or_eq_true]
    exact Or.inr rfl
  all_goals grind [Conversation.memberSession]

/-- The first invite of a conversation fails: `Reporting` leaves the channel with the empty id. -/
theorem failedInvite_reported :
    ((newConversation "client" 1).inviteInternal (.error false) 2).1.reporting false =
        some (.leaves outboundChat)
      ∧ ((newConversation "client" 1).inviteInternal (.error false) 2).1.sessions.length = 2 :=
  ⟨rfl, rfl⟩

end CallCenter.Chat
