import CallCenter.Chat.Marks

/-!
# The sessions that can be declined

A session is open when it has an invite and is not stopped; only such a session can be found by
the handler of a decline. There is at most one: that of `InviteInternal` while it runs, and then
the one the goroutine of the queue holds. Beside it, what is on its way of a decline: the
`Declined` in the channel, and the one the handler is about to push.
-/

namespace CallCenter.Chat

open Queue (ChatState InviteReply)

def Conversation.offers (c : Conversation) : List (String × Int) :=
  c.marks.map fun m => (m.inviteId, m.stopAt)

section Offers

variable {c : Conversation}

theorem offers_of_marks {c c' : Conversation} (h : c'.marks = c.marks) : c'.offers = c.offers := by
  rw [Conversation.offers, Conversation.offers, h]

theorem offers_modify {c c' : Conversation} {f : Mark → Mark} {g : String × Int → String × Int}
    {i : Nat} (h : c'.marks = c.marks.modify i f)
    (hfg : ∀ m, ((f m).inviteId, (f m).stopAt) = g (m.inviteId, m.stopAt)) :
    c'.offers = c.offers.modify i g := by
  rw [Conversation.offers, h, Conversation.offers]
  apply List.ext_getElem?
  grind

theorem offers_stopSession (i : Nat) (ts : Int) :
    (c.stopSession i ts).offers = c.offers.modify i fun o => (o.1, ts) :=
  offers_modify (Conversation.marks_stopSession i ts) fun _ => rfl

theorem offers_setJoined (i : Nat) (id : String) (ts now : Int) :
    (c.setJoined (some i) id ts now).offers = c.offers := by
  rw [offers_modify (g := fun o => o) (Conversation.marks_setJoined i id ts now) fun _ => rfl]
  exact List.modify_id ..

theorem offers_setInviteId (i : Nat) (id : String) (now : Int) :
    (c.setInviteId i id now).offers = c.offers.modify i fun o => (id, o.2) :=
  offers_modify (Conversation.marks_setInviteId i id now) fun _ => rfl

theorem offers_addSession : c.addSession.offers = c.offers ++ [("", 0)] := by
  rw [Conversation.offers, Conversation.marks_addSession, List.map_append]
  rfl

theorem offers_getElem? (c : Conversation) (i : Nat) :
    c.offers[i]? = c.sessions[i]?.map fun s => (s.inviteId, s.stopAt) := by
  simp only [Conversation.offers, Conversation.marks, List.getElem?_map, Option.map_map]
  rfl

theorem offers_length (c : Conversation) : c.offers.length = c.sessions.length := by
  simp [Conversation.offers, Conversation.marks]

end Offers

def EventNamed (e : ChatEvent) : Prop := (∀ p ∈ e.reply?, p.1 ≠ "") ∧ 0 < e.timestamp

/-- The handler of a decline has found a session that is not stopped. -/
def HandlerNamed (offers : List (String × Int)) : HandlerPc → Prop
  | .getConversation e | .handle e => EventNamed e
  | .decline i id ts => 0 < ts ∧ id ≠ "" ∧ offers[i]? = some (id, 0)
  | .idle | .join .. | .push _ | .pushWait _ => True

/-- The session of `InviteInternal` is the last one and is not stopped; it has its invite when
the state is pushed. -/
def CallerLast (offers : List (String × Int)) : InvitePc → Prop
  | .call i => i + 1 = offers.length ∧ offers[i]? = some ("", 0)
  | .accepted i id | .setInviteId i id =>
    id ≠ "" ∧ i + 1 = offers.length ∧ offers[i]? = some ("", 0)
  | .push _ | .pushWait _ | .returned .ok => ∃ o, offers[offers.length - 1]? = some o ∧ o.2 = 0
  | .idle | .addSession | .returned .special | .returned .failed => True

def InvitePc.rings : InvitePc → Bool
  | .push _ | .pushWait _ | .returned .ok => true
  | _ => false

/-- Whatever is about an invite has its id. -/
structure ChatOk (w : ChatWorld) : Prop where
  accepted : "" ∉ w.accepted
  replies : ∀ p ∈ w.replies, p.1 ≠ ""
  events : ∀ e ∈ w.events, EventNamed e
  handler : HandlerNamed w.conv.offers w.handler
  caller : CallerLast w.conv.offers w.inviting

def HandlerPc.declining : HandlerPc → List Sent
  | .push s | .pushWait s => if s.state = .declined then [s] else []
  | _ => []

def ChatWorld.declines (w : ChatWorld) : List Sent :=
  w.conv.state.filter (fun s => decide (s.state = .declined)) ++ w.handler.declining

/-- A session can be declined or joined only if the goroutine holds it or is inviting it. -/
def OpenAt (offers : List (String × Int)) (inviting : InvitePc) (aSess : Option Nat) : Prop :=
  ∀ i id, offers[i]? = some (id, 0) → id ≠ "" →
    aSess = some i ∨ inviting.rings = true ∧ i + 1 = offers.length

section Chat

variable {w w' : ChatWorld} {t : Tick} {l : ChatLabel}

theorem eventNamed_event {id : String} {r : Reply} {ts : Int} (hid : id ≠ "") (hts : 0 < ts) :
    EventNamed (r.event id ts) := by
  cases r with
  | join | decline => exact ⟨fun p hp => Option.some.inj hp ▸ hid, hts⟩

theorem events_append {events : List ChatEvent} {e : ChatEvent}
    (h : ∀ e ∈ events, EventNamed e) (he : EventNamed e) : ∀ e' ∈ events ++ [e], EventNamed e' := by
  grind

theorem chatOk_elsewhere (hw : ChatOk w) (h : Elsewhere w l w') : ChatOk w' := by
  cases h with
  | invite _ => exact { hw with caller := trivial }
  | accept i id h hid hfresh =>
    have hcaller := hw.caller
    rw [h] at hcaller
    exact { hw with
      accepted := by simp [hid.symm, hw.accepted]
      caller := ⟨hid, hcaller⟩ }
  | reply id r ts hid hts h =>
    have hne : id ≠ "" := fun he => hw.accepted (he ▸ hid)
    exact { hw with
      replies := List.forall_mem_cons.mpr ⟨hne, hw.replies⟩
      events := events_append hw.events (eventNamed_event hne hts) }
  | again id r ts hts h =>
    have hne : id ≠ "" := hw.replies (id, r) (replyTo_some h)
    exact { hw with events := events_append hw.events (eventNamed_event hne hts) }
  | event e h hts =>
    exact { hw with
      events := events_append hw.events ⟨fun p hp => (nomatch h ▸ hp), hts⟩ }
  | receive s rest _ => exact { hw with }
  | evict => exact { hw with }

/-- The session of `InviteInternal` as a step begins and ends. -/
structure InviteKept (w w' : ChatWorld) : Prop where
  ok : ChatOk w'
  opens : OpenAt w'.conv.offers w'.inviting none
  declines : w'.declines = w.declines
  active : w'.conv.active = true → w.conv.active = true

theorem HandlerNamed.offers {offers offers' : List (String × Int)} {pc : HandlerPc}
    (h : HandlerNamed offers pc)
    (hkept : ∀ (i : Nat) (id : String), offers[i]? = some (id, 0) → id ≠ "" →
      offers'[i]? = some (id, 0)) : HandlerNamed offers' pc := by
  cases pc with
  | decline i id ts => exact ⟨h.1, h.2.1, hkept i id h.2.2 h.2.1⟩
  | _ => exact h

theorem kept_addSession (hw : ChatOk w) (hopen : OpenAt w.conv.offers w.inviting none)
    (h : w.inviting = .addSession) :
    InviteKept w { w with
      conv := w.conv.addSession, inviting := .call w.conv.sessions.length } := by
  rw [h] at hopen
  refine ⟨{ hw with handler := ?_, caller := ?_ }, ?_, rfl, id⟩
  · rw [offers_addSession]
    refine hw.handler.offers fun i id hi _ => ?_
    rw [List.getElem?_append_left (List.getElem?_eq_some_iff.mp hi).1]
    exact hi
  · grind [CallerLast, offers_addSession, offers_length]
  · rw [offers_addSession]
    intro i id hi hid
    rw [List.getElem?_append] at hi
    split at hi
    · rcases hopen i id hi hid with h | h
      · cases h
      · cases h.1
    · cases List.mem_singleton.mp (List.mem_of_getElem? hi)
      exact absurd rfl hid

theorem kept_setInviteId {i : Nat} {id : String} (hw : ChatOk w)
    (hopen : OpenAt w.conv.offers w.inviting none) (h : w.inviting = .setInviteId i id) :
    InviteKept w { w with conv := w.conv.setInviteId i id t.now, inviting := .push id } := by
  have hcaller := hw.caller
  rw [h] at hopen hcaller
  obtain ⟨hid, hlast, hi⟩ := hcaller
  have hnew : (w.conv.offers.modify i fun o => (id, o.2))[i]? = some (id, 0) := by simp [hi]
  refine ⟨{ hw with handler := ?_, caller := ?_ }, ?_, rfl, fun h => h⟩
  · rw [offers_setInviteId]
    refine hw.handler.offers fun j id' hj hid' => ?_
    grind
  · simp only [CallerLast, offers_setInviteId, List.length_modify, ← hlast]
    exact ⟨_, hnew, rfl⟩
  · rw [offers_setInviteId]
    intro j id' hj hid'
    by_cases hij : i = j
    · exact .inr ⟨rfl, by rw [List.length_modify, ← hij, hlast]⟩
    · have hold : w.conv.offers[j]? = some (id', 0) := by simpa [hij] using hj
      rcases hopen j id' hold hid' with h | h
      · cases h
      · cases h.1

theorem kept_turn (hw : ChatOk w) (hopen : OpenAt w.conv.offers w.inviting none)
    {c : Conversation} {pc : InvitePc} {failed : List String} {received : List Sent}
    (hoffers : c.offers = w.conv.offers) (hcaller : CallerLast w.conv.offers pc)
    (hrings : w.inviting.rings = true → pc.rings = true)
    (hstate : c.state.filter (fun s => decide (s.state = .declined))
      = w.conv.state.filter (fun s => decide (s.state = .declined)))
    (hactive : c.active = true → w.conv.active = true) :
    InviteKept w { w with conv := c, inviting := pc, failed := failed, received := received } := by
  refine ⟨{ hw with handler := ?_, caller := ?_ }, ?_, ?_, hactive⟩
  · exact hoffers ▸ hw.handler
  · exact hoffers ▸ hcaller
  · rw [hoffers]
    exact fun i id hi hid => (hopen i id hi hid).imp_right fun h => ⟨hrings h.1, h.2⟩
  · simp only [ChatWorld.declines, hstate]

theorem kept_inviteFails (hw : ChatOk w) (hopen : OpenAt w.conv.offers w.inviting none)
    (hrings : w.inviting.rings = false) (failed : List String) :
    InviteKept w { w.inviteFails t with failed := failed } := by
  obtain ⟨c, r, heq, hmarks, hstate, hr, hactive⟩ := inviteFails_eq w t
  rw [heq]
  refine kept_turn hw hopen (offers_of_marks hmarks) ?_ ?_ (by rw [hstate]) hactive
  · cases r with
    | ok => exact absurd rfl hr
    | special | failed => trivial
  · intro h
    rw [hrings] at h
    cases h

theorem kept_invited (hw : ChatOk w) (hopen : OpenAt w.conv.offers w.inviting none)
    (h : Invited w t w') : InviteKept w w' := by
  have hcaller := hw.caller
  cases h with
  | addSession h => exact kept_addSession hw hopen h
  | setInviteId i id h => exact kept_setInviteId hw hopen h
  | replied i id h =>
    rw [h] at hcaller
    exact kept_turn hw hopen rfl hcaller (by rw [h]; nofun) rfl fun h => h
  | refused i h => exact kept_inviteFails hw hopen (by rw [h]; rfl) (w.inviteFails t).failed
  | fails i id h => exact kept_inviteFails hw hopen (by rw [h]; rfl) (id :: w.failed)
  | sent id h hroom =>
    have hlast : CallerLast w.conv.offers (.returned .ok) := by
      rcases h with h | h <;> rw [h] at hcaller <;> exact hcaller
    exact kept_turn hw hopen rfl hlast (fun _ => rfl) (by simp [ChatWorld.send]) fun h => h
  | dropped id h hroom hs =>
    rw [h] at hcaller
    exact kept_turn hw hopen rfl hcaller (fun _ => rfl) rfl fun h => h
  | waits id h hroom hs =>
    rw [h] at hcaller
    exact kept_turn hw hopen rfl hcaller (fun _ => rfl) rfl fun h => h
  | givenUp id h hroom =>
    rw [h] at hcaller
    exact kept_turn hw hopen rfl hcaller (fun _ => rfl) rfl fun h => h

/-- One `Declined` is on its way, and no state before it. -/
def ChatWorld.Flying (w : ChatWorld) (x : Sent) : Prop :=
  w.declines = [x] ∧ (w.conv.state = [] ∨ ∃ rest, w.conv.state = x :: rest)

structure HandledKept (w w' : ChatWorld) : Prop where
  ok : ChatOk w'
  offers : w'.conv.offers = w.conv.offers
  inviting : w'.inviting = w.inviting
  active : w'.conv.active = true → w.conv.active = true
  none : w.declines = [] → w'.declines = []
  flying : ∀ x, w.Flying x → w'.Flying x

theorem mem_declines {s : Sent} (h : s ∈ w.declines) : s.state = .declined := by
  rcases List.mem_append.mp h with h | h
  · exact of_decide_eq_true (List.mem_filter.mp h).2
  · unfold HandlerPc.declining at h
    grind

theorem kept_handling (hw : ChatOk w) {c : Conversation} {pc : HandlerPc} {events : List ChatEvent}
    (hoffers : c.offers = w.conv.offers) (hstate : c.state = w.conv.state)
    (hactive : c.active = true → w.conv.active = true) (hevents : ∀ e ∈ events, EventNamed e)
    (hpc : HandlerNamed w.conv.offers pc) (hdeclining : pc.declining = w.handler.declining) :
    HandledKept w { w with conv := c, handler := pc, events := events } := by
  have hdeclines : ChatWorld.declines { w with conv := c, handler := pc, events := events }
      = w.declines := by
    simp only [ChatWorld.declines, hstate, hdeclining]
  refine ⟨{ hw with events := hevents, handler := hoffers ▸ hpc, caller := hoffers ▸ hw.caller },
    hoffers, rfl, hactive, fun h => hdeclines.trans h, fun x hx => ⟨hdeclines.trans hx.1, ?_⟩⟩
  show c.state = [] ∨ ∃ rest, c.state = x :: rest
  rw [hstate]
  exact hx.2

theorem kept_sent (hw : ChatOk w) {s : Sent} (h : w.handler = .push s ∨ w.handler = .pushWait s) :
    HandledKept w { w.send s with handler := .idle } := by
  have hdeclining : w.handler.declining = [s].filter fun s => decide (s.state = .declined) := by
    rcases h with h | h <;> rw [h] <;> by_cases hs : s.state = .declined <;>
      simp [HandlerPc.declining, hs]
  have hdeclines : ChatWorld.declines { w.send s with handler := .idle } = w.declines := by
    show (w.conv.state ++ [s]).filter _ ++ [] = _
    rw [List.append_nil, List.filter_append, ChatWorld.declines, hdeclining]
  refine ⟨{ hw with handler := trivial }, rfl, rfl, fun h => h, fun h => hdeclines.trans h,
    fun x hx => ⟨hdeclines.trans hx.1, .inr ?_⟩⟩
  rcases hx.2 with hempty | ⟨rest, hrest⟩
  · -- the channel was empty, so this is the `Declined` on its way
    have hone : w.handler.declining = [x] := by
      have hx₁ := hx.1
      simp only [ChatWorld.declines, hempty, List.filter_nil, List.nil_append] at hx₁
      exact hx₁
    grind [ChatWorld.send]
  · exact ⟨rest ++ [s], by simp [ChatWorld.send, hrest]⟩

theorem kept_dropped (hw : ChatOk w) {c : Conversation} (hoffers : c.offers = w.conv.offers)
    (hstate : c.state = w.conv.state) (hactive : c.active = true → w.conv.active = true)
    (hroom : w.room = false) : HandledKept w { w with conv := c, handler := .idle } := by
  refine ⟨{ hw with handler := trivial, caller := hoffers ▸ hw.caller }, hoffers, rfl, hactive,
    fun h => ?_, fun x hx => ?_⟩
  · simp only [ChatWorld.declines, hstate, HandlerPc.declining, List.append_nil]
    exact (List.append_eq_nil_iff.mp h).1
  · have hmem := mem_declines (w := w) (hx.1 ▸ List.mem_singleton_self x)
    rcases hx.2 with hempty | ⟨rest, hrest⟩
    · simp [ChatWorld.room, hempty, stateBufferSize] at hroom
    · refine ⟨?_, .inr ⟨rest, hstate.trans hrest⟩⟩
      have hx₁ := hx.1
      simp only [ChatWorld.declines, hrest, List.filter_cons, hmem, decide_true, if_true,
        List.cons_append, List.cons.injEq, true_and, List.append_eq_nil_iff] at hx₁
      simp [ChatWorld.declines, hstate, hrest, hmem, hx₁.1, HandlerPc.declining]

theorem active_setClose {c : Conversation} {ts : Int} {cause : String} (hts : 0 < ts) :
    (c.setClose ts cause).active = false :=
  decide_eq_false fun h => absurd h (by show ts ≠ 0; omega)

theorem kept_handled (hw : ChatOk w) (h : Handled w t w')
    (hstop : ∀ i id ts, w.handler ≠ .decline i id ts) : HandledKept w w' := by
  have hhandler := hw.handler
  cases h with
  | take e rest h he =>
    refine kept_handling hw rfl rfl (fun h => h) ?_ ?_ (by rw [h]; rfl)
    · exact fun e' he' => hw.events e' (he ▸ List.mem_cons_of_mem _ he')
    · exact hw.events e (he ▸ List.mem_cons_self)
  | unknown e h hs => exact kept_handling hw rfl rfl (fun h => h) hw.events trivial (by rw [h]; rfl)
  | known e h hs =>
    rw [h] at hhandler
    exact kept_handling hw rfl rfl (fun h => h) hw.events hhandler (by rw [h]; rfl)
  | declines id ts i h hi =>
    rw [h] at hhandler
    obtain ⟨m, hm, hid, hstopAt⟩ := Conversation.getSessionByInviteId_some hi
    refine kept_handling hw rfl rfl (fun h => h) hw.events ?_ (by rw [h]; rfl)
    refine ⟨hhandler.2, hhandler.1 _ rfl, ?_⟩
    simp [Conversation.offers, hm, hid, hstopAt]
  | missing id ts h hi =>
    exact kept_handling hw rfl rfl (fun h => h) hw.events trivial (by rw [h]; rfl)
  | joins id ts h => exact kept_handling hw rfl rfl (fun h => h) hw.events trivial (by rw [h]; rfl)
  | message id h =>
    have hstate : (w.conv.setNewMessage id t.now).state = w.conv.state
        ∧ (w.conv.setNewMessage id t.now).active = w.conv.active := by
      unfold Conversation.setNewMessage
      dsimp only
      split <;> exact ⟨rfl, rfl⟩
    exact kept_handling hw (offers_of_marks (Conversation.marks_setNewMessage id t.now)) hstate.1
      (fun h => hstate.2 ▸ h) hw.events trivial (by rw [h]; rfl)
  | leave ts cause h =>
    rw [h] at hhandler
    refine kept_handling hw (offers_of_marks (Conversation.marks_setClose ts cause)) rfl ?_
      hw.events
      trivial (by rw [h]; rfl)
    have hts : 0 < ts := hhandler.2
    rw [active_setClose hts]
    nofun
  | skip h => exact kept_handling hw rfl rfl (fun h => h) hw.events trivial (by rw [h]; rfl)
  | stop i id ts h => exact absurd h (hstop i id ts)
  | joined i id ts h =>
    exact kept_handling hw (offers_setJoined i id ts t.now) rfl (fun h => h) hw.events trivial
      (by rw [h]; rfl)
  | notJoined id ts h =>
    exact kept_handling hw rfl rfl (fun h => h) hw.events trivial (by rw [h]; rfl)
  | sent s h hroom => exact kept_sent hw h
  | dropped s h hroom hs => exact kept_dropped hw rfl rfl (fun h => h) hroom
  | waits s h hroom hs =>
    exact kept_handling hw rfl rfl (fun h => h) hw.events trivial (by rw [h]; rfl)
  | givenUp s h hroom => exact kept_dropped hw rfl rfl (fun h => h) hroom

end Chat

end CallCenter.Chat
