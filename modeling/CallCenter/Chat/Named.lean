import CallCenter.Chat.ChatWorld

/-!
# Whom a chat event is about

A chat event comes as a map, and an id that is missing is read as the empty string. The lookups of
the conversation compare ids without asking whether there is one. The invite id of the member's
session, the first of the list, is empty for good; that of an agent is empty until the server has
answered.

An event without an id therefore finds the first of these sessions (a decline), the last of them
(a join), or whoever has no channel yet (a message).
-/

namespace CallCenter.Chat

open Lib

/-! ## The event and its handler -/

/-- The members of `Data` that the handlers ask for; `none` also if one has another type. -/
structure ChatEventData where
  name : String
  inviteId : Option String
  member : Option (Option String)
  channelId : Option String
  timestamp : Option Int
  cause : Option String

namespace ChatEventData

def getInviteId (d : ChatEventData) : String := d.inviteId.getD ""

def getChannelId (d : ChatEventData) : String := (d.member.getD none).getD ""

def getMessageChannelId (d : ChatEventData) : String := d.channelId.getD ""

def getTimestamp (d : ChatEventData) : Int := d.timestamp.getD 0

def getCause (d : ChatEventData) : String := d.cause.getD ""

def event (d : ChatEventData) : ChatEvent :=
  if d.name = "decline_invite" then .decline d.getInviteId d.getTimestamp
  else if d.name = "join_conversation" then .join d.getChannelId d.getTimestamp
  else if d.name = "message" then .message d.getMessageChannelId
  else if d.name = "leave_conversation" ∨ d.name = "close_conversation" then
    .leave d.getTimestamp d.getCause.toLower
  else .other

end ChatEventData

/-- The conversation after the handler of an event, up to the state it pushes. -/
def Conversation.handleEvent (c : Conversation) (e : ChatEvent) (now : Int) : Conversation :=
  match e with
  | .decline id ts =>
    match c.getSessionByInviteId id with
    | some i => c.stopSession i ts
    | none => c
  | .join id ts => c.setJoined (c.joinedSession id) id ts now
  | .message id => c.setNewMessage id now
  | .leave ts cause => c.setClose ts cause
  | .other => c

/-- A handler that runs alone does to the conversation what `handleEvent` says. -/
theorem run_handleEvent {w : ChatWorld} {e : ChatEvent} (h : w.handler = .handle e) (t : Tick) :
    ∃ n w', run chatStep w (List.replicate n (.handle t)) = some w'
      ∧ w'.conv = w.conv.handleEvent e t.now
      ∧ (w'.handler = .idle ∨ ∃ s, w'.handler = .push s) := by
  cases e with
  | decline id ts =>
    cases hi : w.conv.getSessionByInviteId id with
    | some i =>
      have hconv : w.conv.handleEvent (.decline id ts) t.now = w.conv.stopSession i ts := by
        simp only [Conversation.handleEvent, hi]
      refine ⟨2, { w with conv := w.conv.stopSession i ts, handler := .push ⟨.declined, id⟩ }, ?_,
        hconv.symm, Or.inr ⟨_, rfl⟩⟩
      simp [List.replicate_succ, run, chatStep, ChatWorld.handle, h, hi]
    | none =>
      have hconv : w.conv.handleEvent (.decline id ts) t.now = w.conv := by
        simp only [Conversation.handleEvent, hi]
      refine ⟨1, { w with handler := .idle }, ?_, hconv.symm, Or.inl rfl⟩
      simp [run, chatStep, ChatWorld.handle, h, hi]
  | join id ts =>
    refine ⟨2, { w with
      conv := w.conv.setJoined (w.conv.joinedSession id) id ts t.now
      handler := if (w.conv.joinedSession id).isSome then .push ⟨.bridge, id⟩ else .idle },
      ?_, rfl, ?_⟩
    · simp [List.replicate_succ, run, chatStep, ChatWorld.handle, h]
    all_goals grind
  | message id =>
    refine ⟨1, { w with conv := w.conv.setNewMessage id t.now, handler := .idle }, ?_, rfl,
      Or.inl rfl⟩
    simp [run, chatStep, ChatWorld.handle, h]
  | leave ts cause =>
    refine ⟨1, { w with conv := w.conv.setClose ts cause, handler := .push ⟨.close, ""⟩ }, ?_, rfl,
      Or.inr ⟨_, rfl⟩⟩
    simp [run, chatStep, ChatWorld.handle, h]
  | other =>
    refine ⟨1, { w with handler := .idle }, ?_, rfl, Or.inl rfl⟩
    simp [run, chatStep, ChatWorld.handle, h]

/-! ## The session an event finds -/

def AnsweredIn (agents : List ChatSession) : Prop := ∃ s ∈ agents, 0 < s.answeredAt

theorem answeredIn_modify {agents : List ChatSession} {f : ChatSession → ChatSession}
    (hf : ∀ s, (f s).answeredAt = s.answeredAt) (i : Nat) (h : AnsweredIn agents) :
    AnsweredIn (agents.modify i f) := by
  obtain ⟨s, hs, hpos⟩ := h
  obtain ⟨j, hj⟩ := List.mem_iff_getElem?.mp hs
  have hmod : (agents.modify i f)[j]? = some (if i = j then f s else s) := by
    rw [getElem?_modify_ite, hj, Option.map_some]
  refine ⟨_, List.mem_of_getElem? hmod, ?_⟩
  by_cases hij : i = j
  · rw [if_pos hij, hf]
    exact hpos
  · rw [if_neg hij]
    exact hpos

section Found

variable {c : Conversation} {m : ChatSession} {agents : List ChatSession}

/-- A decline stops the member's session, or one of an agent, or nothing. -/
theorem decline_effect (hs : c.sessions = m :: agents) (id : String) (ts now : Int) :
    (Conversation.invitedBy id m = true ∧ c.handleEvent (.decline id ts) now =
        { c with sessions := { m with stopAt := ts } :: agents })
      ∨ (Conversation.invitedBy id m = false ∧ ∃ agents', c.handleEvent (.decline id ts) now =
        { c with sessions := m :: agents' } ∧ (AnsweredIn agents → AnsweredIn agents')) := by
  have hfind : c.getSessionByInviteId id =
      if Conversation.invitedBy id m then some 0
      else (agents.findIdx? (Conversation.invitedBy id)).map (· + 1) := by
    rw [Conversation.getSessionByInviteId, hs, List.findIdx?_cons]
  cases hm : Conversation.invitedBy id m with
  | true =>
    grind [Conversation.handleEvent, Conversation.modifySession, Conversation.stopSession]
  | false =>
    rw [hm, if_neg Bool.false_ne_true] at hfind
    refine Or.inr ⟨rfl, ?_⟩
    cases hi : agents.findIdx? (Conversation.invitedBy id) with
    | some i =>
      rw [hi, Option.map_some] at hfind
      let stop (s : ChatSession) : ChatSession := { s with stopAt := ts }
      refine ⟨agents.modify i stop, ?_, fun h => answeredIn_modify (f := stop) (fun _ => rfl) i h⟩
      simp only [Conversation.handleEvent, hfind, Conversation.stopSession,
        Conversation.modifySession, hs]
      rfl
    | none =>
      rw [hi, Option.map_none] at hfind
      refine ⟨agents, ?_, fun h => h⟩
      simp only [Conversation.handleEvent, hfind]
      rw [← hs]

/-- A join is of an agent, of the member if no agent's session fits, or of nobody. -/
theorem join_effect (hs : c.sessions = m :: agents) (id : String) (ts now : Int) :
    (∃ agents', (c.handleEvent (.join id ts) now).sessions = m :: agents'
        ∧ (c.handleEvent (.join id ts) now).bridgedAt = ts ∧ (0 < ts → AnsweredIn agents')
        ∧ ∃ s ∈ agents, Conversation.invitedBy id s = true)
      ∨ (Conversation.invitedBy id m = true
        ∧ (∀ s ∈ agents, Conversation.invitedBy id s = false)
        ∧ (c.handleEvent (.join id ts) now).sessions =
          { m with channelId := id, answeredAt := ts, activityAt := now } :: agents
        ∧ (c.handleEvent (.join id ts) now).bridgedAt = ts)
      ∨ (Conversation.invitedBy id m = false
        ∧ (c.handleEvent (.join id ts) now).sessions = m :: agents
        ∧ (c.handleEvent (.join id ts) now).bridgedAt = c.bridgedAt) := by
  have hfind : c.joinedSession id =
      ((lastIdx? (Conversation.invitedBy id) agents).map (· + 1)).or
        (if Conversation.invitedBy id m then some 0 else none) := by
    rw [Conversation.joinedSession, hs, lastIdx?_cons]
  cases hi : lastIdx? (Conversation.invitedBy id) agents with
  | some i =>
    rw [hi, Option.map_some, Option.some_or] at hfind
    obtain ⟨s, hat, hfits⟩ := lastIdx?_some hi
    let answer (s : ChatSession) : ChatSession :=
      { s with channelId := id, answeredAt := ts, activityAt := now }
    refine Or.inl ⟨agents.modify i answer, ?_, ?_, ?_, s, List.mem_of_getElem? hat, hfits⟩
    · simp only [Conversation.handleEvent, hfind, Conversation.setJoined,
        Conversation.modifySession, hs]
      rfl
    · simp only [Conversation.handleEvent, hfind, Conversation.setJoined]
    · intro hpos
      have hmod : (agents.modify i answer)[i]? = some (answer s) := by
        rw [getElem?_modify_ite, hat, Option.map_some, if_pos rfl]
      exact ⟨answer s, List.mem_of_getElem? hmod, hpos⟩
  | none =>
     grind [Conversation.handleEvent, Conversation.invitedBy, Conversation.modifySession,
      Conversation.setJoined, lastIdx?_none]

/-- The channel of a session that has not been stopped. -/
def onChannel (id : String) (s : ChatSession) : Bool :=
  decide (s.channelId = id) && decide (s.stopAt = 0)

theorem message_effect (hs : c.sessions = m :: agents) (id : String) (now : Int) :
    (c.handleEvent (.message id) now).bridgedAt = c.bridgedAt
      ∧ ((onChannel id m = true ∧ (c.handleEvent (.message id) now).sessions =
          { m with activityAt := now } :: agents)
        ∨ (onChannel id m = false ∧ ∃ agents', (c.handleEvent (.message id) now).sessions =
          m :: agents' ∧ (AnsweredIn agents → AnsweredIn agents'))) := by
  have hfind : ({ c with lastMessageAt := now } : Conversation).getSessionByChannelId id =
      if onChannel id m then some 0 else (agents.findIdx? (onChannel id)).map (· + 1) := by
    show c.sessions.findIdx? (onChannel id) = _
    rw [hs, List.findIdx?_cons]
  have hhandle : c.handleEvent (.message id) now = c.setNewMessage id now := rfl
  rw [hhandle, Conversation.setNewMessage]
  cases hm : onChannel id m with
  | true =>
    grind [Conversation.modifySession]
  | false =>
    rw [hm, if_neg Bool.false_ne_true] at hfind
    cases hi : agents.findIdx? (onChannel id) with
    | some i =>
      rw [hi, Option.map_some] at hfind
      rw [hfind]
      let mark (s : ChatSession) : ChatSession := { s with activityAt := now }
      refine ⟨rfl, Or.inr ⟨rfl, agents.modify i mark, ?_, ?_⟩⟩
      · simp only [Conversation.modifySession, hs]
        rfl
      · exact fun h => answeredIn_modify (f := mark) (fun _ => rfl) i h
    | none =>
      grind

theorem leave_effect (hs : c.sessions = m :: agents) (ts : Int) (cause : String) (now : Int) :
    (c.handleEvent (.leave ts cause) now).bridgedAt = c.bridgedAt
      ∧ (c.handleEvent (.leave ts cause) now).sessions = { m with cause := cause } :: agents := by
  refine ⟨rfl, ?_⟩
  show c.sessions.modify 0 _ = _
  rw [hs]
  rfl

end Found

/-! ## Events and the member -/

/-- What an event may do to a session: stop it, answer it, mark it active. -/
def ChatSession.times (s : ChatSession) : Int × Int × Int := (s.stopAt, s.answeredAt, s.activityAt)

def ChatEvent.names (e : ChatEvent) (s : ChatSession) : Bool :=
  match e with
  | .decline id _ | .join id _ | .message id =>
    decide (id ≠ "") && (decide (s.inviteId = id) || decide (s.channelId = id))
  | .leave _ _ | .other => false

/-- If the conversation is bridged, an agent has answered. -/
def BridgedByAgent (c : Conversation) : Prop := 0 < c.bridgedAt → AnsweredIn c.sessions.tail

/-- Whenever the event is handled, the member's session is left alone unless the event names it,
and what bridges the conversation is an agent. -/
structure AffectsNamed (c : Conversation) (e : ChatEvent) : Prop where
  spares : ∀ now, ∀ m ∈ c.sessions.head?, ∀ m' ∈ (c.handleEvent e now).sessions.head?,
    e.names m = false → m'.times = m.times
  bridges : ∀ now, BridgedByAgent c → BridgedByAgent (c.handleEvent e now)

/-- The event has no id and finds the session of the member, which has none either. -/
def FindsMember (m : ChatSession) (agents : List ChatSession) : ChatEvent → Prop
  | .decline id ts => id = "" ∧ m.stopAt = 0 ∧ ts ≠ 0
  | .join id _ => id = "" ∧ m.stopAt = 0 ∧ ∀ s ∈ agents, Conversation.invitedBy "" s = false
  | .message id => id = "" ∧ m.channelId = "" ∧ m.stopAt = 0
  | .leave _ _ | .other => False

instance (m : ChatSession) (agents : List ChatSession) (e : ChatEvent) :
    Decidable (FindsMember m agents e) := by
  unfold FindsMember
  split <;> infer_instance

section Member

variable {c : Conversation} {m : ChatSession} {agents : List ChatSession}

theorem invitedBy_iff {id : String} {s : ChatSession} :
    Conversation.invitedBy id s = true ↔ s.inviteId = id ∧ s.stopAt = 0 := by
  simp only [Conversation.invitedBy, Bool.and_eq_true, decide_eq_true_eq]

theorem bridgedByAgent_of_sessions {c c' : Conversation} {m m' : ChatSession}
    {agents agents' : List ChatSession} (h : BridgedByAgent c) (hs : c.sessions = m :: agents)
    (hs' : c'.sessions = m' :: agents') (hbridged : c'.bridgedAt = c.bridgedAt)
    (hanswered : AnsweredIn agents → AnsweredIn agents') : BridgedByAgent c' := by
  intro hpos
  rw [hbridged] at hpos
  have hbefore := h hpos
  rw [hs, List.tail_cons] at hbefore
  rw [hs', List.tail_cons]
  exact hanswered hbefore

theorem spares_of_head {e : ChatEvent} (hs : c.sessions = m :: agents)
    (h : ∀ now, ∃ m' agents', (c.handleEvent e now).sessions = m' :: agents'
      ∧ (e.names m = false → m'.times = m.times)) :
    ∀ now, ∀ m₁ ∈ c.sessions.head?, ∀ m₂ ∈ (c.handleEvent e now).sessions.head?,
      e.names m₁ = false → m₂.times = m₁.times := by
  intro now m₁ hm₁ m₂ hm₂
  obtain ⟨m', agents', hs', htimes⟩ := h now
  grind

theorem times_of_spares {e : ChatEvent} (h : AffectsNamed c e) (hs : c.sessions = m :: agents)
    {now : Int} {m' : ChatSession} {agents' : List ChatSession}
    (hs' : (c.handleEvent e now).sessions = m' :: agents') (hnames : e.names m = false) :
    m'.times = m.times := by
  refine h.spares now m ?_ m' ?_ hnames
  · rw [hs]
    rfl
  · rw [hs']
    rfl

theorem affectsNamed_decline_iff (hs : c.sessions = m :: agents) (hm : m.inviteId = "")
    (id : String) (ts : Int) :
    AffectsNamed c (.decline id ts) ↔ ¬FindsMember m agents (.decline id ts) := by
  constructor
  · rintro h ⟨rfl, hstop, hts⟩
    have hfits : Conversation.invitedBy "" m = true := invitedBy_iff.mpr ⟨hm, hstop⟩
    rcases decline_effect hs "" ts 0 with ⟨-, heff⟩ | ⟨hno, -⟩
    · have hs' : (c.handleEvent (.decline "" ts) 0).sessions =
          { m with stopAt := ts } :: agents := by rw [heff]
      have htimes := times_of_spares h hs hs' rfl
      have hstopped : ts = m.stopAt := congrArg Prod.fst htimes
      exact hts (hstopped.trans hstop)
    · rw [hfits] at hno
      cases hno
  · intro hmiss
    refine ⟨spares_of_head hs ?_, ?_⟩
    · intro now
      rcases decline_effect hs id ts now with ⟨hfits, heff⟩ | ⟨-, agents', heff, -⟩
      · obtain ⟨hid, hstop⟩ := invitedBy_iff.mp hfits
        refine ⟨{ m with stopAt := ts }, agents, by rw [heff], ?_⟩
        -- Without an id it is a decline that says nothing, since it has no time.
        intro _
        have hzero : ts = 0 := by
          by_contra hne
          exact hmiss ⟨hid.symm.trans hm, hstop, hne⟩
        rw [ChatSession.times, ChatSession.times, hzero, hstop]
      · exact ⟨m, agents', by rw [heff], fun _ => rfl⟩
    · intro now hbridged
      rcases decline_effect hs id ts now with ⟨-, heff⟩ | ⟨-, agents', heff, hanswered⟩
      all_goals grind [bridgedByAgent_of_sessions]

theorem affectsNamed_join_iff (hs : c.sessions = m :: agents) (hm : m.inviteId = "")
    (id : String) (ts : Int) :
    AffectsNamed c (.join id ts) ↔ ¬FindsMember m agents (.join id ts) := by
  constructor
  · rintro h ⟨rfl, hstop, hnobody⟩
    have hfits : Conversation.invitedBy "" m = true := invitedBy_iff.mpr ⟨hm, hstop⟩
    -- Whenever it is handled it is activity of the member.
    rcases join_effect hs "" ts (m.activityAt + 1) with
      ⟨-, -, -, -, s, hmem, hagent⟩ | ⟨-, -, hs', -⟩ | ⟨hno, -⟩
    · rw [hnobody s hmem] at hagent
      cases hagent
    · have htimes := times_of_spares h hs hs' rfl
      have hactive : m.activityAt + 1 = m.activityAt := congrArg (·.2.2) htimes
      omega
    · rw [hfits] at hno
      cases hno
  · intro hmiss
    have hfalse : Conversation.invitedBy id m = true →
        (∀ s ∈ agents, Conversation.invitedBy id s = false) → False := by
      intro hfits hnobody
      obtain ⟨hid, hstop⟩ := invitedBy_iff.mp hfits
      have hempty : id = "" := hid.symm.trans hm
      rw [hempty] at hnobody
      exact hmiss ⟨hempty, hstop, hnobody⟩
    refine ⟨spares_of_head hs ?_, ?_⟩
    · intro now
      rcases join_effect hs id ts now with ⟨agents', hs', -⟩ | ⟨hfits, hnobody, -⟩ | ⟨-, hs', -⟩
      all_goals grind
    · intro now hbridged
      rcases join_effect hs id ts now with
        ⟨agents', hs', hat, hanswered, -⟩ | ⟨hfits, hnobody, -⟩ | ⟨-, hs', hat⟩
      · intro hpos
        rw [hat] at hpos
        rw [hs', List.tail_cons]
        exact hanswered hpos
      · exact (hfalse hfits hnobody).elim
      · exact bridgedByAgent_of_sessions hbridged hs hs' hat fun h => h

theorem affectsNamed_message_iff (hs : c.sessions = m :: agents) (id : String) :
    AffectsNamed c (.message id) ↔ ¬FindsMember m agents (.message id) := by
  constructor
  · rintro h ⟨rfl, hchannel, hstop⟩
    have hon : onChannel "" m = true := by
      simp only [onChannel, hchannel, hstop, decide_true, Bool.and_self]
    obtain ⟨-, ⟨-, hs'⟩ | ⟨hno, -⟩⟩ := message_effect hs "" (m.activityAt + 1)
    · have htimes := times_of_spares h hs hs' rfl
      have hactive : m.activityAt + 1 = m.activityAt := congrArg (·.2.2) htimes
      omega
    · rw [hon] at hno
      cases hno
  · intro hmiss
    refine ⟨spares_of_head hs ?_, ?_⟩
    · intro now
      obtain ⟨-, ⟨hon, hs'⟩ | ⟨-, agents', hs', -⟩⟩ := message_effect hs id now
      · refine ⟨_, agents, hs', ?_⟩
        intro hnames
        simp only [onChannel, Bool.and_eq_true, decide_eq_true_eq] at hon
        -- The event is on the member's channel; it does not name it, so the channel has no id.
        have hempty : id = "" := by
          by_contra hne
          simp [ChatEvent.names, hne, hon.1] at hnames
        exact absurd ⟨hempty, hon.1.trans hempty, hon.2⟩ hmiss
      · exact ⟨m, agents', hs', fun _ => rfl⟩
    · intro now hbridged
      obtain ⟨hat, ⟨-, hs'⟩ | ⟨-, agents', hs', hanswered⟩⟩ := message_effect hs id now
      all_goals grind [bridgedByAgent_of_sessions]

theorem affectsNamed_leave (hs : c.sessions = m :: agents) (ts : Int) (cause : String) :
    AffectsNamed c (.leave ts cause) := by
  refine ⟨spares_of_head hs ?_, ?_⟩
  · intro now
    exact ⟨_, agents, (leave_effect hs ts cause now).2, fun _ => rfl⟩
  · intro now hbridged
    obtain ⟨hat, hs'⟩ := leave_effect hs ts cause now
    exact bridgedByAgent_of_sessions hbridged hs hs' hat fun h => h

theorem affectsNamed_event_iff (hs : c.sessions = m :: agents) (hm : m.inviteId = "")
    (e : ChatEvent) : AffectsNamed c e ↔ ¬FindsMember m agents e := by
  cases e with
  | decline id ts => exact affectsNamed_decline_iff hs hm id ts
  | join id ts => exact affectsNamed_join_iff hs hm id ts
  | message id => exact affectsNamed_message_iff hs id
  | leave ts cause => exact ⟨fun _ h => h, fun _ => affectsNamed_leave hs ts cause⟩
  | other =>
    refine ⟨fun _ h => h, fun _ => ⟨spares_of_head hs ?_, fun _ h => h⟩⟩
    intro now
    exact ⟨m, agents, hs, fun _ => rfl⟩

/-- **An event affects the session it names**, and only agents bridge a conversation, just if it is
not an event without an id that finds the member. -/
theorem affectsNamed_iff (hs : c.sessions = m :: agents) (hm : m.inviteId = "")
    (d : ChatEventData) : AffectsNamed c d.event ↔ ¬FindsMember m agents d.event :=
  affectsNamed_event_iff hs hm d.event

end Member

def invitedChat : ChatSession := { outboundChat with inviteId := "invite", inviteAt := 2 }

def withAgent : Conversation :=
  { newConversation "client" 1 with sessions := [memberChat "client" 1, invitedChat] }

def agentJoins : ChatEventData :=
  ⟨"join_conversation", none, some (some "invite"), none, some 5, none⟩

theorem agentJoins_affectsNamed :
    AffectsNamed withAgent agentJoins.event
      ∧ (withAgent.handleEvent agentJoins.event 6).bridgedAt = 5 := by
  have hs : withAgent.sessions = memberChat "client" 1 :: [invitedChat] := rfl
  exact ⟨(affectsNamed_iff hs rfl agentJoins).mpr (by decide), by decide⟩

/-- Events without an id: a decline stops the session of the client, and a join bridges the
conversation with the client alone. -/
theorem unnamed_affect_member :
    ((newConversation "client" 1).handleEvent
        (ChatEventData.event ⟨"decline_invite", none, none, none, some 5, none⟩) 6).sessions.map
        (·.stopAt) = [5]
    ∧ ((newConversation "client" 1).handleEvent
        (ChatEventData.event ⟨"join_conversation", none, none, none, some 5, none⟩) 6).sessions.map
        (·.answeredAt) = [5]
    ∧ ((newConversation "client" 1).handleEvent
        (ChatEventData.event ⟨"join_conversation", none, none, none, some 5, none⟩) 6).bridgedAt = 5
    ∧ ¬AffectsNamed (newConversation "client" 1)
        (ChatEventData.event ⟨"join_conversation", none, none, none, some 5, none⟩) := by
  refine ⟨by decide, by decide, by decide, ?_⟩
  intro h
  have hbridged : BridgedByAgent (newConversation "client" 1) := nofun
  obtain ⟨s, hs, -⟩ := h.bridges 6 hbridged (by decide)
  cases hs

/-! ## Over the life of a conversation -/

inductive ConvLabel where
  | event (d : ChatEventData) (now : Int)
  -- the steps of `InviteInternal`
  | addSession
  | setInviteId (i : Nat) (inviteId : String) (now : Int)
  | setStop (now : Int)

def convStep (c : Conversation) : ConvLabel → Option Conversation
  | .event d now => some (c.handleEvent d.event now)
  | .addSession => some c.addSession
  -- The first session is not an invited one.
  | .setInviteId i inviteId now => if 0 < i then some (c.setInviteId i inviteId now) else none
  | .setStop now => some (c.setStop now)

def MissesMember (c : Conversation) : ConvLabel → Prop
  | .event d _ => ∀ m agents, c.sessions = m :: agents → ¬FindsMember m agents d.event
  | _ => True

/-- The first session is the member's, who was not invited. -/
def MemberFirst (c : Conversation) : Prop := ∃ m agents, c.sessions = m :: agents ∧ m.inviteId = ""

theorem memberFirst_event {c : Conversation} (h : MemberFirst c) (e : ChatEvent) (now : Int) :
    MemberFirst (c.handleEvent e now) := by
  obtain ⟨m, agents, hs, hm⟩ := h
  cases e with
  | decline id ts =>
    rcases decline_effect hs id ts now with ⟨-, heff⟩ | ⟨-, agents', heff, -⟩
    · exact ⟨{ m with stopAt := ts }, agents, by rw [heff], hm⟩
    · exact ⟨m, agents', by rw [heff], hm⟩
  | join id ts =>
    rcases join_effect hs id ts now with ⟨agents', hs', -⟩ | ⟨-, -, hs', -⟩ | ⟨-, hs', -⟩
    · exact ⟨m, agents', hs', hm⟩
    · exact ⟨_, agents, hs', hm⟩
    · exact ⟨m, agents, hs', hm⟩
  | message id =>
    obtain ⟨-, ⟨-, hs'⟩ | ⟨-, agents', hs', -⟩⟩ := message_effect hs id now
    · exact ⟨_, agents, hs', hm⟩
    · exact ⟨m, agents', hs', hm⟩
  | leave ts cause => exact ⟨_, agents, (leave_effect hs ts cause now).2, hm⟩
  | other => exact ⟨m, agents, hs, hm⟩

theorem sessions_setStop (c : Conversation) (now : Int) :
    (c.setStop now).sessions = c.sessions ∧ (c.setStop now).bridgedAt = c.bridgedAt := by
  unfold Conversation.setStop
  split
  · exact ⟨rfl, rfl⟩
  · exact ⟨rfl, rfl⟩

theorem bridgedByAgent_step (c : Conversation) (l : ConvLabel) (c' : Conversation)
    (h : MemberFirst c ∧ BridgedByAgent c) (hok : MissesMember c l)
    (hstep : convStep c l = some c') : MemberFirst c' ∧ BridgedByAgent c' := by
  obtain ⟨⟨m, agents, hs, hm⟩, hbridged⟩ := h
  cases l with
  | event d now =>
    cases hstep
    refine ⟨memberFirst_event ⟨m, agents, hs, hm⟩ d.event now, ?_⟩
    exact ((affectsNamed_event_iff hs hm d.event).mpr (hok m agents hs)).bridges now hbridged
  | addSession =>
    cases hstep
    have hs' : c.addSession.sessions = m :: (agents ++ [outboundChat]) := by
      rw [Conversation.addSession, hs, List.cons_append]
    refine ⟨⟨m, _, hs', hm⟩, bridgedByAgent_of_sessions hbridged hs hs' rfl ?_⟩
    rintro ⟨s, hmem, hpos⟩
    exact ⟨s, List.mem_append_left _ hmem, hpos⟩
  | setInviteId i inviteId now =>
    obtain ⟨hi, rfl⟩ := of_guard hstep
    obtain ⟨j, rfl⟩ := Nat.exists_eq_succ_of_ne_zero (Nat.ne_of_gt hi)
    let accept (s : ChatSession) : ChatSession :=
      { s with activityAt := now, inviteId := inviteId, inviteAt := now }
    have hs' : (c.setInviteId (j + 1) inviteId now).sessions = m :: agents.modify j accept := by
      show c.sessions.modify (j + 1) accept = _
      rw [hs]
      rfl
    refine ⟨⟨m, _, hs', hm⟩, bridgedByAgent_of_sessions hbridged hs hs' rfl ?_⟩
    exact fun h => answeredIn_modify (f := accept) (fun _ => rfl) j h
  | setStop now =>
    cases hstep
    obtain ⟨hsame, hat⟩ := sessions_setStop c now
    have hs' := hsame.trans hs
    exact ⟨⟨m, agents, hs', hm⟩, bridgedByAgent_of_sessions hbridged hs hs' hat fun h => h⟩

/-- As long as no event finds the member by the empty id, a bridged conversation has an agent who
has answered. -/
theorem bridgedByAgent_run {inviterId : String} {now : Int} {labels : List ConvLabel}
    {c : Conversation} (hmiss : Along convStep MissesMember (newConversation inviterId now) labels)
    (hrun : run convStep (newConversation inviterId now) labels = some c) : BridgedByAgent c := by
  have hstart : MemberFirst (newConversation inviterId now)
      ∧ BridgedByAgent (newConversation inviterId now) :=
    ⟨⟨memberChat inviterId now, [], rfl, rfl⟩, nofun⟩
  exact (run_invariant bridgedByAgent_step labels hstart hmiss hrun).2

theorem agentJoins_bridged :
    ∃ c, run convStep (newConversation "client" 1)
        [.addSession, .setInviteId 1 "invite" 2, .event agentJoins 6] = some c
      ∧ c.bridgedAt = 5 ∧ BridgedByAgent c := by
  have hrun : run convStep (newConversation "client" 1)
      [.addSession, .setInviteId 1 "invite" 2, .event agentJoins 6] = some _ := rfl
  refine ⟨_, hrun, rfl, bridgedByAgent_run ?_ hrun⟩
  refine ⟨trivial, ?_⟩
  rintro _ ⟨⟩
  refine ⟨trivial, ?_⟩
  rintro _ ⟨⟩
  refine ⟨?_, fun _ _ => trivial⟩
  rintro m agents ⟨⟩
  decide

end CallCenter.Chat
