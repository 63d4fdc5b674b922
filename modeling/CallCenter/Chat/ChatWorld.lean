import CallCenter.Chat.Conversation
import CallCenter.Lib.Run

/-!
# The goroutines around a conversation

`ChatManager.Start` handles all chat events in one goroutine. Beside it the goroutine of the queue
calls `InviteInternal` and receives from the channel, and the chat server accepts an invite under a
new id, and sends the reply of the agent as an event at any time from then on. An event can come
more than once.

Both goroutines are program counters over their shared steps. `pushState` is a send if there is
room; otherwise, unless the reader has been given up, it waits for room or the timer.
-/

namespace CallCenter.Chat

open Queue (ChatState InviteReply)
open Lib

inductive Reply where
  | join | decline
  deriving DecidableEq

def Reply.state : Reply → ChatState
  | join => .bridge
  | decline => .declined

inductive ChatEvent where
  /-- `decline_invite`, with the id of the invite. -/
  | decline (inviteId : String) (timestamp : Int)
  /-- `join_conversation`, with the id of the channel, which is that of the invite. -/
  | join (channelId : String) (timestamp : Int)
  | message (channelId : String)
  | leave (timestamp : Int) (cause : String)
  /-- `user_invite`, and names without a handler. -/
  | other

def ChatEvent.reply? : ChatEvent → Option (String × Reply)
  | .decline id _ => some (id, .decline)
  | .join id _ => some (id, .join)
  | _ => none

def ChatEvent.timestamp : ChatEvent → Int
  | .decline _ t | .join _ t | .leave t _ => t
  | .message _ | .other => 1

def Reply.event (r : Reply) (id : String) (timestamp : Int) : ChatEvent :=
  match r with
  | .join => .join id timestamp
  | .decline => .decline id timestamp

inductive HandlerPc where
  | idle
  | getConversation (e : ChatEvent)
  | handle (e : ChatEvent)
  | decline (i : Nat) (inviteId : String) (timestamp : Int)
  | join (found : Option Nat) (channelId : String) (timestamp : Int)
  -- `pushState`, and its second select
  | push (s : Sent) | pushWait (s : Sent)

inductive InvitePc where
  | idle
  | addSession
  /-- `InviteToConversation` is called, and then accepted by the server. -/
  | call (i : Nat) | accepted (i : Nat) (inviteId : String)
  | setInviteId (i : Nat) (inviteId : String)
  | push (inviteId : String) | pushWait (inviteId : String)
  | returned (r : InviteReply)
  deriving DecidableEq

structure ChatWorld where
  conv : Conversation
  stored : Bool
  accepted : List String
  /-- Of those, the ones whose call failed all the same. -/
  failed : List String
  replies : List (String × Reply)
  events : List ChatEvent
  handler : HandlerPc
  inviting : InvitePc
  received : List Sent

/-- What the outside world answers a step: the clock, whether the remote call succeeded or
failed with "channel not found", and whether the timer of a send has fired. -/
structure Tick where
  now : Int
  ok : Bool
  notFound : Bool
  timeout : Bool
  now_pos : 0 < now

def tick : Tick := ⟨7, true, false, false, by decide⟩

namespace ChatWorld

def send (w : ChatWorld) (s : Sent) : ChatWorld :=
  { w with conv := { w.conv with state := w.conv.state ++ [s] }, received := w.received ++ [s] }

def room (w : ChatWorld) : Bool := w.conv.state.length < stateBufferSize

inductive Pushed where
  | sent | dropped | waits

/-- The first select of `pushState`, and the question whether the reader is gone. -/
def pushState (w : ChatWorld) : Pushed :=
  if w.room then .sent else if w.conv.stateStalled then .dropped else .waits

def handle (w : ChatWorld) (t : Tick) : Option ChatWorld :=
  match w.handler with
  | .idle =>
    match w.events with
    | [] => none
    | e :: rest => some { w with events := rest, handler := .getConversation e }
  | .getConversation e => some { w with handler := if w.stored then .handle e else .idle }
  | .handle (.decline id ts) =>
    match w.conv.getSessionByInviteId id with
    | some i => some { w with handler := .decline i id ts }
    | none => some { w with handler := .idle }
  | .handle (.join id ts) => some { w with handler := .join (w.conv.joinedSession id) id ts }
  | .handle (.message id) =>
    some { w with conv := w.conv.setNewMessage id t.now, handler := .idle }
  | .handle (.leave ts cause) =>
    some { w with conv := w.conv.setClose ts cause, handler := .push ⟨.close, ""⟩ }
  | .handle .other => some { w with handler := .idle }
  | .decline i id ts =>
    some { w with conv := w.conv.stopSession i ts, handler := .push ⟨.declined, id⟩ }
  | .join found id ts =>
    some { w with
      conv := w.conv.setJoined found id ts t.now
      handler := if found.isSome then .push ⟨.bridge, id⟩ else .idle }
  | .push s =>
    match w.pushState with
    | .sent => some { w.send s with handler := .idle }
    | .dropped => some { w with handler := .idle }
    | .waits => some { w with handler := .pushWait s }
  | .pushWait s =>
    if w.room then some { w.send s with handler := .idle }
    else if t.timeout then
      some { w with conv := { w.conv with stateStalled := true }, handler := .idle }
    else none

def inviteFails (w : ChatWorld) (t : Tick) : ChatWorld :=
  if t.notFound then { w with conv := w.conv.setStop t.now, inviting := .returned .special }
  else { w with inviting := .returned .failed }

def invite (w : ChatWorld) (t : Tick) : Option ChatWorld :=
  match w.inviting with
  | .idle | .returned _ => none
  | .addSession =>
    some { w with conv := w.conv.addSession, inviting := .call w.conv.sessions.length }
  | .call _ => if t.ok then none else some (w.inviteFails t)
  | .accepted i id =>
    if t.ok then some { w with inviting := .setInviteId i id }
    else some { w.inviteFails t with failed := id :: w.failed }
  | .setInviteId i id =>
    some { w with conv := w.conv.setInviteId i id t.now, inviting := .push id }
  | .push id =>
    match w.pushState with
    | .sent => some { w.send ⟨.invite, id⟩ with inviting := .returned .ok }
    | .dropped => some { w with inviting := .returned .ok }
    | .waits => some { w with inviting := .pushWait id }
  | .pushWait id =>
    if w.room then some { w.send ⟨.invite, id⟩ with inviting := .returned .ok }
    else if t.timeout then
      some { w with conv := { w.conv with stateStalled := true }, inviting := .returned .ok }
    else none

def uninvited (w : ChatWorld) : Bool :=
  match w.inviting with
  | .idle | .returned _ => true
  | _ => false

def replyTo (w : ChatWorld) (id : String) : Option Reply :=
  (w.replies.find? fun p => decide (p.1 = id)).map (·.2)

end ChatWorld

inductive ChatLabel where
  | invite
  | accept (inviteId : String)
  | reply (inviteId : String) (r : Reply) (timestamp : Int)
  | event (e : ChatEvent)
  -- the steps of the two goroutines
  | handle (t : Tick) | advance (t : Tick)
  | receive
  | evict

def chatStep (w : ChatWorld) : ChatLabel → Option ChatWorld
  | .invite => if w.uninvited then some { w with inviting := .addSession } else none
  | .accept id =>
    match w.inviting with
    | .call i =>
      if id ≠ "" ∧ id ∉ w.accepted then
        some { w with accepted := id :: w.accepted, inviting := .accepted i id }
      else none
    | _ => none
  | .reply id r ts =>
    if id ∈ w.accepted ∧ 0 < ts then
      match w.replyTo id with
      | none => some { w with
          replies := (id, r) :: w.replies, events := w.events ++ [r.event id ts] }
      | some r' =>
        if r' = r then some { w with events := w.events ++ [r.event id ts] } else none
    else none
  | .event e =>
    if e.reply?.isNone ∧ 0 < e.timestamp then some { w with events := w.events ++ [e] } else none
  | .handle t => w.handle t
  | .advance t => w.invite t
  | .receive =>
    match w.conv.state with
    | [] => none
    | _ :: rest => some { w with conv := { w.conv with state := rest } }
  | .evict => some { w with stored := false }

def chatStart (inviterId : String) (now : Int) : ChatWorld where
  conv := newConversation inviterId now
  stored := true
  accepted := []
  failed := []
  replies := []
  events := []
  handler := .idle
  inviting := .idle
  received := []

/-! ## What a step can do -/

inductive Handled (w : ChatWorld) (t : Tick) : ChatWorld → Prop where
  | take (e : ChatEvent) (rest : List ChatEvent) (h : w.handler = .idle)
      (he : w.events = e :: rest) :
      Handled w t { w with events := rest, handler := .getConversation e }
  | unknown (e : ChatEvent) (h : w.handler = .getConversation e) (hs : w.stored = false) :
      Handled w t { w with handler := .idle }
  | known (e : ChatEvent) (h : w.handler = .getConversation e) (hs : w.stored = true) :
      Handled w t { w with handler := .handle e }
  | declines (id : String) (ts : Int) (i : Nat) (h : w.handler = .handle (.decline id ts))
      (hi : w.conv.getSessionByInviteId id = some i) :
      Handled w t { w with handler := .decline i id ts }
  | missing (id : String) (ts : Int) (h : w.handler = .handle (.decline id ts))
      (hi : w.conv.getSessionByInviteId id = none) : Handled w t { w with handler := .idle }
  | joins (id : String) (ts : Int) (h : w.handler = .handle (.join id ts)) :
      Handled w t { w with handler := .join (w.conv.joinedSession id) id ts }
  | message (id : String) (h : w.handler = .handle (.message id)) :
      Handled w t { w with conv := w.conv.setNewMessage id t.now, handler := .idle }
  | leave (ts : Int) (cause : String) (h : w.handler = .handle (.leave ts cause)) :
      Handled w t { w with conv := w.conv.setClose ts cause, handler := .push ⟨.close, ""⟩ }
  | skip (h : w.handler = .handle .other) : Handled w t { w with handler := .idle }
  | stop (i : Nat) (id : String) (ts : Int) (h : w.handler = .decline i id ts) :
      Handled w t { w with
        conv := w.conv.stopSession i ts, handler := .push ⟨.declined, id⟩ }
  | joined (i : Nat) (id : String) (ts : Int) (h : w.handler = .join (some i) id ts) :
      Handled w t { w with
        conv := w.conv.setJoined (some i) id ts t.now, handler := .push ⟨.bridge, id⟩ }
  | notJoined (id : String) (ts : Int) (h : w.handler = .join none id ts) :
      Handled w t { w with conv := w.conv.setJoined none id ts t.now, handler := .idle }
  | sent (s : Sent) (h : w.handler = .push s ∨ w.handler = .pushWait s)
      (hroom : w.room = true) : Handled w t { w.send s with handler := .idle }
  | dropped (s : Sent) (h : w.handler = .push s) (hroom : w.room = false)
      (hs : w.conv.stateStalled = true) : Handled w t { w with handler := .idle }
  | waits (s : Sent) (h : w.handler = .push s) (hroom : w.room = false)
      (hs : w.conv.stateStalled = false) : Handled w t { w with handler := .pushWait s }
  | givenUp (s : Sent) (h : w.handler = .pushWait s) (hroom : w.room = false) :
      Handled w t { w with conv := { w.conv with stateStalled := true }, handler := .idle }

inductive Invited (w : ChatWorld) (t : Tick) : ChatWorld → Prop where
  | addSession (h : w.inviting = .addSession) :
      Invited w t { w with
        conv := w.conv.addSession, inviting := .call w.conv.sessions.length }
  | refused (i : Nat) (h : w.inviting = .call i) : Invited w t (w.inviteFails t)
  | replied (i : Nat) (id : String) (h : w.inviting = .accepted i id) :
      Invited w t { w with inviting := .setInviteId i id }
  | fails (i : Nat) (id : String) (h : w.inviting = .accepted i id) :
      Invited w t { w.inviteFails t with failed := id :: w.failed }
  | setInviteId (i : Nat) (id : String) (h : w.inviting = .setInviteId i id) :
      Invited w t { w with conv := w.conv.setInviteId i id t.now, inviting := .push id }
  | sent (id : String) (h : w.inviting = .push id ∨ w.inviting = .pushWait id)
      (hroom : w.room = true) :
      Invited w t { w.send ⟨.invite, id⟩ with inviting := .returned .ok }
  | dropped (id : String) (h : w.inviting = .push id) (hroom : w.room = false)
      (hs : w.conv.stateStalled = true) : Invited w t { w with inviting := .returned .ok }
  | waits (id : String) (h : w.inviting = .push id) (hroom : w.room = false)
      (hs : w.conv.stateStalled = false) : Invited w t { w with inviting := .pushWait id }
  | givenUp (id : String) (h : w.inviting = .pushWait id) (hroom : w.room = false) :
      Invited w t { w with
        conv := { w.conv with stateStalled := true }, inviting := .returned .ok }

inductive Elsewhere (w : ChatWorld) : ChatLabel → ChatWorld → Prop where
  | invite (h : w.uninvited = true) : Elsewhere w .invite { w with inviting := .addSession }
  | accept (i : Nat) (id : String) (h : w.inviting = .call i) (hid : id ≠ "")
      (hfresh : id ∉ w.accepted) :
      Elsewhere w (.accept id) { w with
        accepted := id :: w.accepted, inviting := .accepted i id }
  | reply (id : String) (r : Reply) (ts : Int) (hid : id ∈ w.accepted) (hts : 0 < ts)
      (h : w.replyTo id = none) :
      Elsewhere w (.reply id r ts) { w with
        replies := (id, r) :: w.replies, events := w.events ++ [r.event id ts] }
  | again (id : String) (r : Reply) (ts : Int) (hts : 0 < ts) (h : w.replyTo id = some r) :
      Elsewhere w (.reply id r ts) { w with events := w.events ++ [r.event id ts] }
  | event (e : ChatEvent) (h : e.reply? = none) (hts : 0 < e.timestamp) :
      Elsewhere w (.event e) { w with events := w.events ++ [e] }
  | receive (s : Sent) (rest : List Sent) (h : w.conv.state = s :: rest) :
      Elsewhere w .receive { w with conv := { w.conv with state := rest } }
  | evict : Elsewhere w .evict { w with stored := false }

variable {w w' : ChatWorld} {t : Tick}

theorem pushState_cases (w : ChatWorld) :
    w.room = true ∧ w.pushState = .sent
    ∨ w.room = false ∧ (w.conv.stateStalled = true ∧ w.pushState = .dropped
      ∨ w.conv.stateStalled = false ∧ w.pushState = .waits) := by
  unfold ChatWorld.pushState
  cases hroom : w.room <;> cases hs : w.conv.stateStalled <;> simp

theorem handle_cases (h : w.handle t = some w') : Handled w t w' := by
  cases hpc : w.handler with
  | join found id ts => cases found <;> grind [ChatWorld.handle, Handled]
  | _ => grind [ChatWorld.handle, Handled, pushState_cases]

theorem invite_cases (h : w.invite t = some w') : Invited w t w' := by
  cases hpc : w.inviting <;> grind [ChatWorld.invite, Invited, pushState_cases]

theorem chatStep_cases {l : ChatLabel} (h : chatStep w l = some w') :
    Elsewhere w l w' ∨ (∃ t, l = .handle t ∧ Handled w t w')
      ∨ ∃ t, l = .advance t ∧ Invited w t w' := by
  cases l with
  | event e =>
    obtain ⟨he, rfl⟩ := of_guard h
    exact .inl (.event e (Option.isNone_iff_eq_none.mp he.1) he.2)
  | _ => grind [chatStep, Elsewhere, Chat.handle_cases, invite_cases]

theorem replyTo_some {id : String} {r : Reply} (h : w.replyTo id = some r) :
    (id, r) ∈ w.replies := by
  obtain ⟨⟨id', r'⟩, hp, rfl⟩ := Option.map_eq_some_iff.mp h
  grind

theorem replyTo_none {id : String} (h : w.replyTo id = none) (r : Reply) :
    (id, r) ∉ w.replies := fun hmem =>
  List.find?_eq_none.mp (Option.map_eq_none_iff.mp h) (id, r) hmem (decide_eq_true rfl)

end CallCenter.Chat
