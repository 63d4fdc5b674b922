import CallCenter.Chat.Marks

/-!
# The replies to an invite

`InviteInternal` learns the id of its invite from the reply of the remote call, stores it in the
session, and then pushes `ChatStateInvite`. A reply of the agent that is handled before the id is
stored finds no session and is lost; one that is handled between the two steps overtakes the invite.

If every reply is handled after the invite was pushed, and a join only once, the channel receives
the invite and then the reply. The invariant says for each id how far this has got.
-/

namespace CallCenter.Chat

open Queue (ChatState)
open Lib

/-! ## The ledger of the invites -/

structure Ledger where
  marks : List Mark
  accepted : List String
  failed : List String
  replies : List (String × Reply)
  received : List Sent

def ChatWorld.ledger (w : ChatWorld) : Ledger :=
  ⟨w.conv.marks, w.accepted, w.failed, w.replies, w.received⟩

def Ledger.heard (b : Ledger) (id : String) : List ChatState :=
  (b.received.filter fun s => decide (s.about = id)).map Sent.state

def Ledger.receive (b : Ledger) (s : Sent) : Ledger := { b with received := b.received ++ [s] }

theorem heard_receive (b : Ledger) (s : Sent) (id : String) :
    (b.receive s).heard id = b.heard id ++ if s.about = id then [s.state] else [] := by
  grind [Ledger.heard, Ledger.receive]

theorem heard_receive_of_ne {b : Ledger} {s : Sent} {id : String} (h : s.about ≠ id) :
    (b.receive s).heard id = b.heard id := by
  rw [heard_receive, if_neg h, List.append_nil]

theorem heard_receive_ne_nil {b : Ledger} (s : Sent) {id : String} (h : b.heard id ≠ []) :
    (b.receive s).heard id ≠ [] := by
  rw [heard_receive]
  exact List.append_ne_nil_of_left_ne_nil h _

theorem heard_ne_nil {b : Ledger} {s : Sent} (h : s ∈ b.received) : b.heard s.about ≠ [] := by
  intro hnil
  have hmem : s ∈ b.received.filter fun s' => decide (s'.about = s.about) :=
    List.mem_filter.mpr ⟨h, decide_eq_true rfl⟩
  rw [List.map_eq_nil_iff.mp hnil] at hmem
  exact List.not_mem_nil hmem

/-! ## The invariant -/

def HandlerPc.about : HandlerPc → Option String
  | .getConversation e | .handle e => e.reply?.map Prod.fst
  | .decline _ id _ | .join _ id _ => some id
  | .push s | .pushWait s => some s.about
  | .idle => none

def InvitePc.about : InvitePc → Option String
  | .accepted _ id | .setInviteId _ id | .push id | .pushWait id => some id
  | .idle | .addSession | .call _ | .returned _ => none

def HandlerPc.Pushes (pc : HandlerPc) (s : Sent) : Prop := pc = .push s ∨ pc = .pushWait s

def Pending (handler : HandlerPc) (events : List ChatEvent) (id : String) : Prop :=
  (∃ e ∈ events, ∃ r, e.reply? = some (id, r)) ∨ handler.about = some id

def EventOk (b : Ledger) (e : ChatEvent) : Prop :=
  (∀ p ∈ e.reply?, p ∈ b.replies) ∧ 0 < e.timestamp

/-- The handler has found the session of a reply that the channel has not received. -/
def Replying (b : Ledger) (r : Reply) (i : Nat) (id : String) (ts : Int) : Prop :=
  (id, r) ∈ b.replies ∧ 0 < ts ∧ b.heard id = [.invite]
    ∧ ∃ m, b.marks[i]? = some m ∧ m.inviteId = id

def HandlerOk (b : Ledger) : HandlerPc → Prop
  | .idle => True
  | .getConversation e | .handle e => EventOk b e
  | .decline i id ts => Replying b .decline i id ts
  | .join (some i) id ts => Replying b .join i id ts
  | .join none id _ => id ∈ b.failed
  | .push s | .pushWait s => s.about = ""
    ∨ ∃ r, (s.about, r) ∈ b.replies ∧ s.state = r.state ∧ b.heard s.about = [.invite]

def CallerOk (b : Ledger) : InvitePc → Prop
  | .idle | .addSession | .returned _ => True
  | .call i => b.marks[i]? = some .fresh
  | .accepted i id | .setInviteId i id => b.marks[i]? = some .fresh
    ∧ id ∈ b.accepted ∧ id ∉ b.failed ∧ b.heard id = [] ∧ ∀ m ∈ b.marks, m.inviteId ≠ id
  | .push id | .pushWait id =>
    id ∈ b.accepted ∧ id ∉ b.failed ∧ b.heard id = [] ∧ ∃ m ∈ b.marks, m.inviteId = id

/-- The channel hears an invite, then its one reply. -/
structure InviteOk (b : Ledger) (caller : InvitePc) (handler : HandlerPc)
    (events : List ChatEvent) : Prop where
  named : "" ∉ b.accepted
  owner : ∀ m ∈ b.marks, m.inviteId ≠ "" → m.inviteId ∈ b.accepted ∧ m.inviteId ∉ b.failed
  unique : ∀ (i j : Nat) (m m' : Mark), b.marks[i]? = some m → b.marks[j]? = some m' →
    m.inviteId = m'.inviteId → m.inviteId ≠ "" → i = j
  failed : ∀ id ∈ b.failed, id ∈ b.accepted ∧ b.heard id = []
  replied : ∀ p ∈ b.replies, p.1 ∈ b.accepted
  single : ∀ (id : String) (r r' : Reply), (id, r) ∈ b.replies → (id, r') ∈ b.replies → r = r'
  callerOk : CallerOk b caller
  handlerOk : HandlerOk b handler
  eventsOk : ∀ e ∈ events, EventOk b e
  /-- The channel receives an invite, unless its call has failed or is not done. -/
  invited : ∀ id ∈ b.accepted, id ∉ b.failed → caller.about = some id ∨ b.heard id ≠ []
  shape : ∀ id, id ≠ "" → b.heard id = [] ∨ b.heard id = [.invite]
    ∨ ∃ r, (id, r) ∈ b.replies ∧ b.heard id = [.invite, r.state]
  held : ∀ id, id ≠ "" → b.heard id ≠ [] → ∃ m ∈ b.marks, m.inviteId = id
  /-- A session has the mark of a reply when the channel has received it or is about to. -/
  marked : ∀ (r : Reply), ∀ m ∈ b.marks, m.inviteId ≠ "" → (r.markOf m ≠ 0 ↔
    b.heard m.inviteId = [.invite, r.state] ∨ handler.Pushes ⟨r.state, m.inviteId⟩)
  complete : ∀ (id : String) (r : Reply), (id, r) ∈ b.replies → id ∉ b.failed →
    Pending handler events id ∨ b.heard id = [.invite, r.state]

theorem inviteOk_start (inviterId : String) (now : Int) :
    InviteOk (chatStart inviterId now).ledger .idle .idle [] where
  named := List.not_mem_nil
  owner m hm hid := by
    obtain rfl := List.mem_singleton.mp hm
    exact absurd rfl hid
  unique i j m m' hi hj _ hid := by
    obtain rfl := List.mem_singleton.mp (List.mem_of_getElem? hi)
    exact absurd rfl hid
  failed _ h := absurd h List.not_mem_nil
  replied _ h := absurd h List.not_mem_nil
  single _ _ _ h := absurd h List.not_mem_nil
  callerOk := trivial
  handlerOk := trivial
  eventsOk _ h := absurd h List.not_mem_nil
  invited _ h := absurd h List.not_mem_nil
  shape _ _ := .inl rfl
  held _ _ h := absurd rfl h
  marked r m hm hid := by
    obtain rfl := List.mem_singleton.mp hm
    exact absurd rfl hid
  complete _ _ h := absurd h List.not_mem_nil

section Steps

variable {b : Ledger} {caller caller' : InvitePc} {handler handler' : HandlerPc}
  {events events' : List ChatEvent}

theorem InviteOk.turn (hb : InviteOk b caller handler events) (hcaller : CallerOk b caller')
    (hcall : ∀ id, caller.about = some id → caller'.about = some id)
    (hhandler : HandlerOk b handler') (hevents : ∀ e ∈ events', EventOk b e)
    (hpushes : ∀ s, s.about ≠ "" → (handler'.Pushes s ↔ handler.Pushes s))
    (hcomplete : ∀ id r, (id, r) ∈ b.replies → id ∉ b.failed → Pending handler events id →
      Pending handler' events' id ∨ b.heard id = [.invite, r.state]) :
    InviteOk b caller' handler' events' :=
  { hb with
    callerOk := hcaller
    handlerOk := hhandler
    eventsOk := hevents
    invited := fun id hacc hf => (hb.invited id hacc hf).imp_left (hcall id)
    marked := by
      intro r m hm hid
      rw [hb.marked r m hm hid, hpushes _ hid]
    complete := by
      intro id r hr hf
      rcases hb.complete id r hr hf with hp | hheard
      · exact hcomplete id r hr hf hp
      · exact .inr hheard }

theorem InviteOk.callerTurn (hb : InviteOk b caller handler events) (hcaller : CallerOk b caller')
    (hcall : ∀ id, caller.about = some id → caller'.about = some id) :
    InviteOk b caller' handler events :=
  hb.turn hcaller hcall hb.handlerOk hb.eventsOk (fun _ _ => .rfl) fun _ _ _ _ hp => .inl hp

/-- Nobody pushes a state of an invite before the handler moves, and nobody after. -/
theorem InviteOk.handlerTurn (hb : InviteOk b caller handler events)
    (hhandler : HandlerOk b handler') (hbefore : ∀ s, s.about ≠ "" → ¬ handler.Pushes s)
    (hafter : ∀ s, s.about ≠ "" → ¬ handler'.Pushes s) (hevents : ∀ e ∈ events', EventOk b e)
    (hcomplete : ∀ id r, (id, r) ∈ b.replies → id ∉ b.failed → Pending handler events id →
      Pending handler' events' id ∨ b.heard id = [.invite, r.state]) :
    InviteOk b caller handler' events' :=
  hb.turn hb.callerOk (fun _ h => h) hhandler hevents
    (fun s hs => ⟨fun h => absurd h (hafter s hs), fun h => absurd h (hbefore s hs)⟩) hcomplete

theorem InviteOk.ne_empty (hb : InviteOk b caller handler events) {id : String} {r : Reply}
    (h : (id, r) ∈ b.replies) : id ≠ "" :=
  fun he => hb.named (he ▸ hb.replied _ h)

theorem InviteOk.pushed (hb : InviteOk b caller handler events) {id : String} (hid : id ≠ "")
    (h : ⟨.invite, id⟩ ∈ b.received) :
    (b.heard id = [.invite] ∨ ∃ r, (id, r) ∈ b.replies ∧ b.heard id = [.invite, r.state])
    ∧ ∃ m ∈ b.marks, m.inviteId = id := by
  have hne : b.heard id ≠ [] := heard_ne_nil h
  grind [cases InviteOk]

theorem Reply.state_injective {r r' : Reply} (h : r.state = r'.state) : r = r' := by
  cases r <;> cases r' <;> first | rfl | cases h

theorem pushes_push (r r' : Reply) (id id' : String) :
    (HandlerPc.push ⟨r.state, id⟩).Pushes ⟨r'.state, id'⟩ ↔ r' = r ∧ id' = id := by
  constructor
  · rintro (h | h)
    all_goals grind [Reply.state_injective]
  · rintro ⟨rfl, rfl⟩
    exact .inl rfl

variable {s : Sent}

theorem pushes_unique {s' : Sent} (h : handler.Pushes s) (h' : handler.Pushes s') : s = s' := by
  rcases h with rfl | rfl <;> rcases h' with h' | h' <;> cases h' <;> rfl

theorem pushes_about (h : handler.Pushes s) : handler.about = some s.about := by
  rcases h with rfl | rfl <;> rfl

theorem HandlerOk.pushes (h : HandlerOk b handler) (hs : handler.Pushes s) (hne : s.about ≠ "") :
    ∃ r, (s.about, r) ∈ b.replies ∧ s.state = r.state ∧ b.heard s.about = [.invite] := by
  rcases hs with rfl | rfl
  · exact h.resolve_left hne
  · exact h.resolve_left hne

/-- The session a handler has found, of an invite that was pushed, without the mark of its
reply: the channel has not received the reply. -/
theorem InviteOk.replying (hb : InviteOk b caller handler events) {r : Reply} {i : Nat}
    {id : String} {ts : Int} {m : Mark} (hr : (id, r) ∈ b.replies) (hts : 0 < ts)
    (hpushed : ⟨.invite, id⟩ ∈ b.received) (hm : b.marks[i]? = some m) (hid : m.inviteId = id)
    (hne : id ≠ "") (hmark : r.markOf m = 0) : Replying b r i id ts := by
  refine ⟨hr, hts, ?_, m, hm, hid⟩
  rcases (hb.pushed hne hpushed).1 with hheard | ⟨r', hr', hheard⟩
  all_goals grind [cases InviteOk]

theorem InviteOk.handlerDone (hb : InviteOk b caller handler events)
    (hquiet : ∀ s, s.about ≠ "" → ¬ handler.Pushes s)
    (hdone : ∀ id r, (id, r) ∈ b.replies → id ∉ b.failed → handler.about = some id →
      b.heard id = [.invite, r.state]) : InviteOk b caller .idle events := by
  refine hb.handlerTurn trivial hquiet (fun s _ h => ?_) hb.eventsOk ?_
  · rcases h with h | h <;> cases h
  · rintro id r hr hf (hevent | habout)
    · exact .inl (.inl hevent)
    · exact .inr (hdone id r hr hf habout)

theorem InviteOk.handlerGoesOn (hb : InviteOk b caller handler events)
    (hhandler : HandlerOk b handler') (hbefore : ∀ s, s.about ≠ "" → ¬ handler.Pushes s)
    (hafter : ∀ s, s.about ≠ "" → ¬ handler'.Pushes s)
    (habout : ∀ id, id ≠ "" → handler.about = some id → handler'.about = some id) :
    InviteOk b caller handler' events := by
  refine hb.handlerTurn hhandler hbefore hafter hb.eventsOk ?_
  rintro id r hr hf (hevent | h)
  · exact .inl (.inl hevent)
  · exact .inl (.inr (habout id (hb.ne_empty hr) h))

theorem not_pushes {pc : HandlerPc} (h : ∀ s, pc ≠ .push s ∧ pc ≠ .pushWait s) (s : Sent) :
    ¬ pc.Pushes s := by
  rintro (hpc | hpc)
  · exact (h s).1 hpc
  · exact (h s).2 hpc

/-! ### The steps that change a session -/

theorem HandlerOk.marks {l : List Mark} (hhandler : HandlerOk b handler)
    (hreplied : ∀ p ∈ b.replies, p.1 ≠ "")
    (h : ∀ (j : Nat) (m : Mark), b.marks[j]? = some m → m.inviteId ≠ "" → l[j]? = some m) :
    HandlerOk { b with marks := l } handler := by
  have hreplying : ∀ {r : Reply} {i : Nat} {id : String} {ts : Int}, Replying b r i id ts →
      Replying { b with marks := l } r i id ts := by
    rintro r i id ts ⟨hr, hts, hheard, m, hm, hid⟩
    exact ⟨hr, hts, hheard, m, h i m hm (hid ▸ hreplied _ hr), hid⟩
  cases handler with
  | decline i id ts => exact hreplying hhandler
  | join found id ts =>
    cases found with
    | some i => exact hreplying hhandler
    | none => exact hhandler
  | idle | getConversation _ | handle _ | push _ | pushWait _ => exact hhandler

theorem HandlerOk.receive (h : HandlerOk b handler)
    (hkept : ∀ {id}, b.heard id = [.invite] → (b.receive s).heard id = b.heard id) :
    HandlerOk (b.receive s) handler := by
  have hreplying : ∀ {r : Reply} {i : Nat} {id : String} {ts : Int}, Replying b r i id ts →
      Replying (b.receive s) r i id ts := fun ⟨hr, hts, hheard, hm⟩ =>
    ⟨hr, hts, (hkept hheard).trans hheard, hm⟩
  cases handler with
  | decline i id ts => exact hreplying h
  | join found id ts =>
    cases found with
    | some i => exact hreplying h
    | none => exact h
  | idle | getConversation _ | handle _ => exact h
  | push s' | pushWait s' =>
    rcases h with h | ⟨r, hr, hstate, hheard⟩
    · exact .inl h
    · exact .inr ⟨r, hr, hstate, (hkept hheard).trans hheard⟩

theorem CallerOk.receive (h : CallerOk b caller)
    (hkept : ∀ id ∈ b.accepted, b.heard id = [] → (b.receive s).heard id = []) :
    CallerOk (b.receive s) caller := by
  cases caller with
  | idle | addSession | returned _ | call _ => exact h
  | accepted i id | setInviteId i id =>
    obtain ⟨hi, hacc, hf, hheard, hid⟩ := h
    exact ⟨hi, hacc, hf, hkept id hacc hheard, hid⟩
  | push id | pushWait id =>
    obtain ⟨hacc, hf, hheard, hm⟩ := h
    exact ⟨hacc, hf, hkept id hacc hheard, hm⟩

section Marking

variable {r : Reply} {i : Nat} {ts : Int}

variable {l : List Mark}

theorem setMark_some {j : Nat} {m' : Mark} (h : (l.modify i (r.setMark ts))[j]? = some m') :
    ∃ m, l[j]? = some m ∧ m'.inviteId = m.inviteId := by
  obtain ⟨m, hm, ⟨-, rfl⟩ | ⟨-, rfl⟩⟩ := getElem?_modify_some h
  · exact ⟨m, hm, r.setMark_inviteId ts m⟩
  · exact ⟨m', hm, rfl⟩

theorem mem_setMark {m' : Mark} (h : m' ∈ l.modify i (r.setMark ts)) :
    ∃ m ∈ l, m'.inviteId = m.inviteId := by
  grind [setMark_some, List.mem_iff_getElem?, List.mem_of_getElem?]

theorem exists_setMark {id : String} (h : ∃ m ∈ l, m.inviteId = id) :
    ∃ m ∈ l.modify i (r.setMark ts), m.inviteId = id := by
  obtain ⟨m, hm, hid⟩ := h
  obtain ⟨j, hj⟩ := List.mem_iff_getElem?.mp hm
  by_cases hij : i = j
  · subst hij
    exact ⟨_, List.mem_of_getElem? (getElem?_modify_self hj), (r.setMark_inviteId ts m).trans hid⟩
  · exact ⟨m, List.mem_of_getElem? (getElem?_modify_of_ne hj hij), hid⟩

theorem CallerOk.setMark (hcaller : CallerOk b caller)
    (hi : ∃ m, b.marks[i]? = some m ∧ m.inviteId ≠ "") :
    CallerOk { b with marks := b.marks.modify i (r.setMark ts) } caller := by
  -- the session of the call has no invite yet
  have hfree : ∀ j : Nat, b.marks[j]? = some Mark.fresh →
      (b.marks.modify i (r.setMark ts))[j]? = some Mark.fresh := by
    intro j hj
    obtain ⟨m, hm, hne⟩ := hi
    refine getElem?_modify_of_ne hj fun hij => ?_
    subst hij
    obtain rfl := Option.some.inj (hm.symm.trans hj)
    exact hne rfl
  have hother : ∀ id, (∀ m ∈ b.marks, m.inviteId ≠ id) →
      ∀ m ∈ b.marks.modify i (r.setMark ts), m.inviteId ≠ id := by
    intro id h m' hm' hid
    obtain ⟨m, hm, heq⟩ := mem_setMark hm'
    exact h m hm (heq.symm.trans hid)
  cases caller with
  | idle | addSession | returned _ => trivial
  | call j => exact hfree j hcaller
  | accepted j id | setInviteId j id =>
    obtain ⟨hj, hacc, hf, hheard, hid⟩ := hcaller
    exact ⟨hfree j hj, hacc, hf, hheard, hother id hid⟩
  | push id | pushWait id =>
    obtain ⟨hacc, hf, hheard, hm⟩ := hcaller
    exact ⟨hacc, hf, hheard, exists_setMark hm⟩

theorem InviteOk.mark (hb : InviteOk b caller handler events) {id : String}
    (hr : Replying b r i id ts) (habout : handler.about = some id)
    (hquiet : ∀ s, ¬ handler.Pushes s) :
    InviteOk { b with marks := b.marks.modify i (r.setMark ts) } caller
      (.push ⟨r.state, id⟩) events := by
  obtain ⟨hmem, hts, hheard, m₀, hm₀, hid₀⟩ := hr
  have hne : m₀.inviteId ≠ "" := hid₀ ▸ hb.ne_empty hmem
  refine
    { hb with
      owner := ?_
      unique := ?_
      callerOk := hb.callerOk.setMark ⟨m₀, hm₀, hne⟩
      handlerOk := .inr ⟨r, hmem, rfl, hheard⟩
      held := fun id' h h' => exists_setMark (hb.held id' h h')
      marked := ?_
      complete := ?_ }
  · grind [cases InviteOk, mem_setMark]
  · grind [cases InviteOk, setMark_some]
  · intro r' m' hm' hid
    change r'.markOf m' ≠ 0 ↔ b.heard m'.inviteId = _ ∨ _
    obtain ⟨j, hj⟩ := List.mem_iff_getElem?.mp hm'
    obtain ⟨m, hm, hcase⟩ := getElem?_modify_some hj
    have hold := hb.marked r' m (List.mem_of_getElem? hm)
    rcases hcase with ⟨rfl, rfl⟩ | ⟨hij, rfl⟩
    · -- the session of the reply: the mark stands and the state is about to be pushed
      obtain rfl := Option.some.inj (hm₀.symm.trans hm)
      have hno : ¬ b.heard m₀.inviteId = [.invite, r'.state] := by
        rw [hid₀, hheard]
        exact fun h => nomatch h
      rw [r.setMark_inviteId, r.markOf_setMark, pushes_push, and_iff_left hid₀, or_iff_right hno]
      grind
    all_goals grind [cases InviteOk, pushes_push]
  · rintro id' r' hr' hf
    rcases hb.complete id' r' hr' hf with (hevent | h) | h
    · exact .inl (.inl hevent)
    · exact .inl (.inr (habout.symm.trans h))
    · exact .inr h

end Marking

theorem InviteOk.setInviteId {i : Nat} {id : String}
    (hb : InviteOk b (.setInviteId i id) handler events) :
    InviteOk { b with marks := b.marks.modify i fun m => { m with inviteId := id } } (.push id)
      handler events := by
  obtain ⟨hi, hacc, hf, hheard, hother⟩ := hb.callerOk
  have hne : id ≠ "" := fun h => hb.named (h ▸ hacc)
  -- a session with an invite is another one, and stays
  have hkept : ∀ (j : Nat) (m : Mark), b.marks[j]? = some m → m.inviteId ≠ "" →
      (b.marks.modify i fun m => { m with inviteId := id })[j]? = some m := by
    intro j m hm hid
    refine getElem?_modify_of_ne hm fun hij => ?_
    subst hij
    obtain rfl := Option.some.inj (hi.symm.trans hm)
    exact hid rfl
  -- so a session is the one of the new invite or was there before
  have hcases : ∀ (j : Nat) (m' : Mark),
      (b.marks.modify i fun m => { m with inviteId := id })[j]? = some m' →
        i = j ∧ m' = ⟨id, 0, 0⟩ ∨ i ≠ j ∧ b.marks[j]? = some m' := by
    intro j m' hm'
    obtain ⟨m, hm, ⟨rfl, rfl⟩ | ⟨hij, rfl⟩⟩ := getElem?_modify_some hm'
    · obtain rfl := Option.some.inj (hi.symm.trans hm)
      exact .inl ⟨rfl, rfl⟩
    · exact .inr ⟨hij, hm⟩
  refine
    { hb with
      owner := ?_
      unique := ?_
      callerOk := ⟨hacc, hf, hheard, _, List.mem_of_getElem? (getElem?_modify_self hi), rfl⟩
      handlerOk := ?_
      held := ?_
      marked := ?_ }
  · grind [cases InviteOk, List.mem_iff_getElem?, List.mem_of_getElem?]
  · grind [cases InviteOk]
  · exact hb.handlerOk.marks (fun _ => hb.ne_empty) fun j m hm hid => hkept j m hm hid
  · intro id' hid' hheard'
    obtain ⟨m, hm, rfl⟩ := hb.held id' hid' hheard'
    grind [List.mem_iff_getElem?, List.mem_of_getElem?]
  · intro r m' hm' hid
    change r.markOf m' ≠ 0 ↔ b.heard m'.inviteId = _ ∨ _
    obtain ⟨j, hj⟩ := List.mem_iff_getElem?.mp hm'
    rcases hcases j m' hj with ⟨-, rfl⟩ | ⟨-, hm⟩
    · -- nothing is known of the new invite
      have hquiet : ¬ handler.Pushes ⟨r.state, id⟩ := fun h => by
        obtain ⟨-, -, -, hinvite⟩ := hb.handlerOk.pushes h hne
        exact nomatch hheard.symm.trans hinvite
      have hmark : r.markOf ⟨id, 0, 0⟩ = 0 := by cases r <;> rfl
      rw [hmark, hheard]
      simp [hquiet]
    · exact hb.marked r m' (List.mem_of_getElem? hm) hid

theorem InviteOk.addSession (hb : InviteOk b .addSession handler events) :
    InviteOk { b with marks := b.marks ++ [.fresh] } (.call b.marks.length) handler events := by
  have hcases : ∀ (j : Nat) (m : Mark), (b.marks ++ [Mark.fresh])[j]? = some m → m.inviteId ≠ "" →
      b.marks[j]? = some m := by
    intro j m hm hid
    rw [List.getElem?_append] at hm
    split at hm
    · exact hm
    · obtain rfl := List.mem_singleton.mp (List.mem_of_getElem? hm)
      exact absurd rfl hid
  have hmem : ∀ m ∈ b.marks ++ [Mark.fresh], m.inviteId ≠ "" → m ∈ b.marks := by
    grind [List.mem_iff_getElem?, List.mem_of_getElem?]
  exact
    { hb with
      owner := fun m hm hid => hb.owner m (hmem m hm hid) hid
      unique := fun j k m m' hj hk heq hid =>
        hb.unique j k m m' (hcases j m hj hid) (hcases k m' hk (heq ▸ hid)) heq hid
      callerOk := List.getElem?_concat_length
      handlerOk := hb.handlerOk.marks (fun _ => hb.ne_empty) fun j m hm _ => by
        rw [List.getElem?_append_left (List.getElem?_eq_some_iff.mp hm).1]
        exact hm
      held := fun id hid hheard =>
        let ⟨m, hm, heq⟩ := hb.held id hid hheard
        ⟨m, List.mem_append_left _ hm, heq⟩
      marked := fun r m hm hid => hb.marked r m (hmem m hm hid) hid }

/-! ### The steps that push a state -/

theorem InviteOk.inviteSent {id : String} (hb : InviteOk b (.push id) handler events) :
    InviteOk (b.receive ⟨.invite, id⟩) (.returned .ok) handler events := by
  obtain ⟨hacc, hf, hheard, hm⟩ := hb.callerOk
  have hnow : (b.receive ⟨.invite, id⟩).heard id = [.invite] := by
    rw [heard_receive, hheard, if_pos rfl]
    rfl
  -- of the other invites the channel has received what it had
  have hother : ∀ {id'}, b.heard id' ≠ [] → (b.receive ⟨.invite, id⟩).heard id' = b.heard id' :=
    fun h => heard_receive_of_ne fun heq => h (heq ▸ hheard)
  have hreplied : ∀ {id'} {st : ChatState}, (b.receive ⟨.invite, id⟩).heard id' = [.invite, st] ↔
      b.heard id' = [.invite, st] := by
    grind [heard_receive_of_ne]
  refine
    { named := hb.named
      owner := hb.owner
      unique := hb.unique
      failed := fun id' h => ⟨(hb.failed id' h).1, ?_⟩
      replied := hb.replied
      single := hb.single
      callerOk := trivial
      handlerOk := hb.handlerOk.receive fun h => hother (h ▸ List.cons_ne_nil _ _)
      eventsOk := hb.eventsOk
      invited := ?_
      shape := ?_
      held := ?_
      marked := ?_
      complete := ?_ }
  · have hne : id ≠ id' := fun heq => hf (heq ▸ h)
    rw [heard_receive_of_ne hne]
    exact (hb.failed id' h).2
  · intro id' hacc' hf'
    rcases hb.invited id' hacc' hf' with h | h
    · obtain rfl : id = id' := Option.some.inj h
      exact .inr (hnow ▸ List.cons_ne_nil _ _)
    · exact .inr (hother h ▸ h)
  · intro id' hid'
    by_cases heq : id = id'
    · exact .inr (.inl (heq ▸ hnow))
    · rw [heard_receive_of_ne heq]
      exact hb.shape id' hid'
  · intro id' hid' h
    by_cases heq : id = id'
    · exact heq ▸ hm
    · rw [heard_receive_of_ne heq] at h
      exact hb.held id' hid' h
  · intro r m hm hid
    rw [hreplied]
    exact hb.marked r m hm hid
  · intro id' r hr hf'
    rw [hreplied]
    exact hb.complete id' r hr hf'

theorem InviteOk.replySent (hb : InviteOk b caller handler events) (hs : handler.Pushes s) :
    InviteOk (b.receive s) caller .idle events := by
  -- the channel has received the invite the state is about
  have hheard : s.about ≠ "" → b.heard s.about = [.invite] := fun hne =>
    let ⟨_, _, _, h⟩ := hb.handlerOk.pushes hs hne
    h
  have hother : ∀ {id'}, id' ≠ "" → b.heard id' ≠ [.invite] →
      (b.receive s).heard id' = b.heard id' := fun hid' h =>
    heard_receive_of_ne fun heq => h (heq ▸ hheard (heq ▸ hid'))
  -- a reply that was about to be pushed has now been received
  have hnow : ∀ {id}, id ≠ "" → ∀ r' : Reply, (b.receive s).heard id = [.invite, r'.state] ↔
      b.heard id = [.invite, r'.state] ∨ handler.Pushes ⟨r'.state, id⟩ := by
    intro id hid r'
    by_cases heq : s.about = id
    · subst heq
      rw [heard_receive, hheard hid, if_pos rfl]
      constructor
      · intro h
        have hstate : s.state = r'.state := by simpa using h
        exact .inr (hstate ▸ hs)
      · rintro (h | h)
        · cases h
        · rw [pushes_unique hs h]
          rfl
    · rw [heard_receive_of_ne heq, or_iff_left]
      exact fun h => heq (congrArg Sent.about (pushes_unique hs h))
  have hempty : ∀ id ∈ b.accepted, b.heard id = [] → (b.receive s).heard id = [] := by
    grind [cases InviteOk]
  refine
    { named := hb.named
      owner := hb.owner
      unique := hb.unique
      failed := fun id h =>
        ⟨(hb.failed id h).1, hempty id (hb.failed id h).1 (hb.failed id h).2⟩
      replied := hb.replied
      single := hb.single
      callerOk := hb.callerOk.receive hempty
      handlerOk := trivial
      eventsOk := hb.eventsOk
      invited := fun id hacc hf =>
        (hb.invited id hacc hf).imp_right (heard_receive_ne_nil s)
      shape := ?_
      held := ?_
      marked := ?_
      complete := ?_ }
  · intro id hid
    by_cases heq : s.about = id
    · obtain ⟨r, hr, hstate, h⟩ := hb.handlerOk.pushes hs (heq ▸ hid)
      refine .inr (.inr ⟨r, heq ▸ hr, ?_⟩)
      rw [heard_receive, if_pos heq, ← heq, h, hstate]
      rfl
    · rw [heard_receive_of_ne heq]
      exact hb.shape id hid
  · intro id hid h
    by_cases heq : s.about = id
    · exact hb.held id hid (heq ▸ hheard (heq ▸ hid) ▸ List.cons_ne_nil _ _)
    · rw [heard_receive_of_ne heq] at h
      exact hb.held id hid h
  · intro r' m hm hid
    have hidle : ¬ HandlerPc.idle.Pushes ⟨r'.state, m.inviteId⟩ := not_pushes (by simp) _
    rw [or_iff_left hidle, hb.marked r' m hm hid, hnow hid r']
  · intro id r hr hf
    have hid := hb.ne_empty hr
    rcases hb.complete id r hr hf with (hevent | habout) | h
    · exact .inl (.inl hevent)
    · -- the reply of the invite is the state that was pushed
      obtain rfl : s.about = id := Option.some.inj ((pushes_about hs).symm.trans habout)
      obtain ⟨r', hr', hstate, -⟩ := hb.handlerOk.pushes hs hid
      obtain rfl := hb.single s.about r r' hr hr'
      exact .inr ((hnow hid r).mpr (.inr (hstate ▸ hs)))
    · exact .inr ((hnow hid r).mpr (.inl h))

/-! ### The steps of the server -/

theorem HandlerOk.grow {replies : List (String × Reply)} {failed : List String}
    (h : HandlerOk b handler) (hr : b.replies ⊆ replies) (hf : b.failed ⊆ failed) :
    HandlerOk { b with replies := replies, failed := failed } handler := by
  cases handler with
  | idle => trivial
  | getConversation e | handle e => exact ⟨fun p hp => hr (h.1 p hp), h.2⟩
  | decline i id ts => exact ⟨hr h.1, h.2⟩
  | join found id ts =>
    cases found with
    | some i => exact ⟨hr h.1, h.2⟩
    | none => exact hf h
  | push s | pushWait s =>
    rcases h with h | ⟨r, hmem, hs⟩
    · exact .inl h
    · exact .inr ⟨r, hr hmem, hs⟩

theorem InviteOk.accept {i : Nat} {id : String} (hb : InviteOk b (.call i) handler events)
    (hne : id ≠ "") (hfresh : id ∉ b.accepted) :
    InviteOk { b with accepted := id :: b.accepted } (.accepted i id) handler events := by
  have howner : ∀ m ∈ b.marks, m.inviteId ≠ id := fun m hm heq =>
    hfresh (heq ▸ (hb.owner m hm (heq ▸ hne)).1)
  have hheard : b.heard id = [] := by
    by_contra h
    obtain ⟨m, hm, heq⟩ := hb.held id hne h
    exact howner m hm heq
  exact
    { hb with
      named := by simp [hne.symm, hb.named]
      owner := fun m hm hid =>
        ⟨List.mem_cons_of_mem _ (hb.owner m hm hid).1, (hb.owner m hm hid).2⟩
      failed := fun id' h => ⟨List.mem_cons_of_mem _ (hb.failed id' h).1, (hb.failed id' h).2⟩
      replied := fun p hp => List.mem_cons_of_mem _ (hb.replied p hp)
      callerOk :=
        ⟨hb.callerOk, List.mem_cons_self, fun h => hfresh (hb.failed id h).1, hheard, howner⟩
      handlerOk := hb.handlerOk
      invited := List.forall_mem_cons.mpr ⟨fun _ => .inl rfl, fun id' hacc hf =>
        .inr ((hb.invited id' hacc hf).resolve_left fun h => nomatch h)⟩ }

theorem InviteOk.fail {i : Nat} {id : String} {reply : CallCenter.Queue.InviteReply}
    (hb : InviteOk b (.accepted i id) handler events) :
    InviteOk { b with failed := id :: b.failed } (.returned reply) handler events := by
  obtain ⟨-, hacc, -, hheard, hother⟩ := hb.callerOk
  exact
    { hb with
      owner := fun m hm hid => ⟨(hb.owner m hm hid).1,
        List.not_mem_cons_of_ne_of_not_mem (hother m hm) (hb.owner m hm hid).2⟩
      failed := List.forall_mem_cons.mpr ⟨⟨hacc, hheard⟩, hb.failed⟩
      callerOk := trivial
      handlerOk := hb.handlerOk.grow (List.Subset.refl _) (List.subset_cons_self _ _)
      invited := fun id' hacc' hf => by
        refine .inr ((hb.invited id' hacc' fun h => hf (List.mem_cons_of_mem _ h)).resolve_left ?_)
        intro h
        exact hf (Option.some.inj h ▸ List.mem_cons_self)
      complete := fun id' r hr hf => hb.complete id' r hr fun h => hf (List.mem_cons_of_mem _ h) }

theorem Reply.event_reply (r : Reply) (id : String) (ts : Int) :
    (r.event id ts).reply? = some (id, r) := by cases r <;> rfl

theorem eventOk_event {id : String} {r : Reply} {ts : Int} (hr : (id, r) ∈ b.replies)
    (hts : 0 < ts) : EventOk b (r.event id ts) := by
  cases r with
  | join | decline => exact ⟨fun p hp => Option.some.inj hp ▸ hr, hts⟩

theorem Pending.arrive {id : String} (h : Pending handler events id) (e : ChatEvent) :
    Pending handler (events ++ [e]) id := by
  rcases h with ⟨e', he', hr⟩ | h
  · exact .inl ⟨e', List.mem_append_left _ he', hr⟩
  · exact .inr h

theorem InviteOk.arrive (hb : InviteOk b caller handler events) {e : ChatEvent}
    (he : EventOk b e) : InviteOk b caller handler (events ++ [e]) := by
  refine hb.turn hb.callerOk (fun _ h => h) hb.handlerOk ?_ (fun _ _ => .rfl)
    fun _ _ _ _ hp => .inl (hp.arrive e)
  grind [cases InviteOk]

theorem InviteOk.reply (hb : InviteOk b caller handler events) {id : String} {r : Reply} {ts : Int}
    (hacc : id ∈ b.accepted) (hts : 0 < ts) (hfirst : ∀ r', (id, r') ∉ b.replies) :
    InviteOk { b with replies := (id, r) :: b.replies } caller handler
      (events ++ [r.event id ts]) := by
  refine
    { hb with
      replied := List.forall_mem_cons.mpr ⟨hacc, hb.replied⟩
      single := ?_
      handlerOk := hb.handlerOk.grow (List.subset_cons_self _ _) (List.Subset.refl _)
      eventsOk := ?_
      shape := ?_
      complete := ?_ }
  · grind [cases InviteOk]
  · intro e he
    rcases List.mem_append.mp he with h | h
    · exact ⟨fun p hp => List.mem_cons_of_mem _ ((hb.eventsOk e h).1 p hp), (hb.eventsOk e h).2⟩
    · obtain rfl := List.mem_singleton.mp h
      exact eventOk_event List.mem_cons_self hts
  · intro id' hid'
    rcases hb.shape id' hid' with h | h | ⟨r', hr', h⟩
    · exact .inl h
    · exact .inr (.inl h)
    · exact .inr (.inr ⟨r', List.mem_cons_of_mem _ hr', h⟩)
  · intro id' r' hr' hf
    rcases List.mem_cons.mp hr' with h | h
    · cases h
      exact .inl (.inl ⟨_, List.mem_append_right _ (List.mem_singleton_self _), r,
        r.event_reply id ts⟩)
    · exact (hb.complete id' r' h hf).imp_left fun hp => hp.arrive _

end Steps

/-! ## The condition -/

/-- A reply finds the conversation in the store; it is handled after the invite was pushed, a
join when no join was handled before; a push finds room. -/
def InOrder (w : ChatWorld) : ChatLabel → Prop
  | .handle _ =>
    match w.handler with
    | .getConversation e => e.reply?.isSome → w.stored
    | .handle e => ∀ p ∈ e.reply?, p.1 ∉ w.failed → ⟨.invite, p.1⟩ ∈ w.received
      ∧ (p.2 = .join → ∀ s ∈ w.conv.sessions, s.inviteId = p.1 → s.answeredAt = 0)
    | .push _ | .pushWait _ => w.room = true
    | _ => True
  | .advance _ =>
    match w.inviting with
    | .push _ | .pushWait _ => w.room = true
    | _ => True
  | _ => True

def ChatWorld.InvitesOk (w : ChatWorld) : Prop := InviteOk w.ledger w.inviting w.handler w.events

variable {w w' : ChatWorld} {t : Tick}

theorem invitesOk_of_marks {l : List Mark} (hmarks : w.conv.marks = l)
    (h : InviteOk ⟨l, w.accepted, w.failed, w.replies, w.received⟩ w.inviting w.handler w.events) :
    w.InvitesOk := by
  subst hmarks
  exact h

theorem invitesOk_elsewhere {l : ChatLabel} (hw : w.InvitesOk) (h : Elsewhere w l w') :
    w'.InvitesOk := by
  cases h with
  | invite h =>
    refine InviteOk.callerTurn hw (show CallerOk _ .addSession from trivial) fun id hid => ?_
    cases hpc : w.inviting <;> simp [ChatWorld.uninvited, InvitePc.about, hpc] at h hid
  | accept i id h hid hfresh =>
    unfold ChatWorld.InvitesOk at hw
    rw [h] at hw
    exact hw.accept hid hfresh
  | reply id r ts hid hts h => exact InviteOk.reply hw hid hts (replyTo_none h)
  | again id r ts hts h => exact InviteOk.arrive hw (eventOk_event (replyTo_some h) hts)
  | event e h hts => exact InviteOk.arrive hw ⟨fun p hp => (nomatch h ▸ hp), hts⟩
  | receive s rest _ => exact hw
  | evict => exact hw

theorem invitesOk_invited (hw : w.InvitesOk) (hok : InOrder w (.advance t)) (h : Invited w t w') :
    w'.InvitesOk := by
  unfold ChatWorld.InvitesOk at hw
  cases h with
  | addSession h =>
    rw [h] at hw
    refine invitesOk_of_marks Conversation.marks_addSession ?_
    rw [← w.conv.sessions.length_map ChatSession.mark]
    exact hw.addSession
  | refused i h =>
    rw [h] at hw
    obtain ⟨c, r, heq, hmarks, -⟩ := inviteFails_eq w t
    rw [heq]
    exact invitesOk_of_marks hmarks (hw.callerTurn (show CallerOk _ (.returned r) from trivial)
      nofun)
  | replied i id h =>
    rw [h] at hw
    have hcaller : CallerOk w.ledger (.setInviteId i id) := hw.callerOk
    exact hw.callerTurn hcaller fun _ h => h
  | fails i id h =>
    rw [h] at hw
    obtain ⟨c, r, heq, hmarks, -⟩ := inviteFails_eq w t
    rw [heq]
    exact invitesOk_of_marks hmarks hw.fail
  | setInviteId i id h =>
    rw [h] at hw
    exact invitesOk_of_marks (Conversation.marks_setInviteId i id t.now) hw.setInviteId
  | sent id h hroom =>
    rcases h with h | h <;> rw [h] at hw
    · exact hw.inviteSent
    · have hcaller : CallerOk w.ledger (.push id) := hw.callerOk
      exact (hw.callerTurn hcaller fun _ h => h).inviteSent
  | dropped id h hroom hs | waits id h hroom hs | givenUp id h hroom =>
    simp only [InOrder, h] at hok
    rw [hroom] at hok
    cases hok

section Handling

variable {b : Ledger} {caller : InvitePc} {e : ChatEvent} {events : List ChatEvent} {id : String}
  {r : Reply}

theorem InviteOk.found (hb : InviteOk b caller (.handle e) events) (he : e.reply? = some (id, r))
    (hpushed : id ∉ b.failed → ⟨.invite, id⟩ ∈ b.received) {i : Nat} {m : Mark}
    (hm : b.marks[i]? = some m) (hid : m.inviteId = id)
    (hmark : id ∉ b.failed → r.markOf m = 0) : Replying b r i id e.timestamp := by
  have hr : (id, r) ∈ b.replies := hb.handlerOk.1 _ he
  have hne : id ≠ "" := hb.ne_empty hr
  have hf : id ∉ b.failed := hid ▸ (hb.owner m (List.mem_of_getElem? hm) (hid ▸ hne)).2
  exact hb.replying hr hb.handlerOk.2 (hpushed hf) hm hid hne (hmark hf)

/-- The session of a reply is not found: the call of the invite has failed, or the same decline
came before. -/
theorem InviteOk.notFound (hb : InviteOk b caller (.handle e) events)
    (he : e.reply? = some (id, r)) (hpushed : id ∉ b.failed → ⟨.invite, id⟩ ∈ b.received)
    (hstop : ∀ m ∈ b.marks, m.inviteId = id → m.stopAt ≠ 0) :
    id ∈ b.failed ∨ r = .decline ∧ b.heard id = [.invite, r.state] := by
  have hr : (id, r) ∈ b.replies := hb.handlerOk.1 _ he
  have hne : id ≠ "" := hb.ne_empty hr
  by_cases hf : id ∈ b.failed
  · exact .inl hf
  obtain ⟨hheard, m, hm, rfl⟩ := hb.pushed hne (hpushed hf)
  have hdeclined := ((hb.marked .decline m hm hne).mp (hstop m hm rfl)).resolve_right
    (not_pushes (by simp) _)
  -- what the channel has received is this reply
  rcases hheard with hheard | ⟨r', hr', hheard⟩
  all_goals grind [cases InviteOk, Reply.state_injective]

theorem InviteOk.handleNext (hb : InviteOk b caller (.handle e) events)
    (he : e.reply? = some (id, r)) {handler' : HandlerPc} (hhandler : HandlerOk b handler')
    (habout : handler'.about = some id) (hquiet : ∀ s, handler' ≠ .push s ∧ handler' ≠
      .pushWait s) :
    InviteOk b caller handler' events := by
  refine hb.handlerGoesOn hhandler ?_ (fun s _ => not_pushes hquiet s) ?_
  all_goals grind [HandlerPc.about, not_pushes]

theorem InviteOk.handledOther (hb : InviteOk b caller (.handle e) events) (he : e.reply? = none) :
    InviteOk b caller .idle events := by
  refine hb.handlerDone (fun s _ => not_pushes (by simp) s) fun id r _ _ habout => ?_
  simp [HandlerPc.about, he] at habout

end Handling

theorem inOrder_handle {e : ChatEvent} {id : String} {r : Reply} (hok : InOrder w (.handle t))
    (h : w.handler = .handle e) (he : e.reply? = some (id, r)) :
    (id ∉ w.failed → ⟨.invite, id⟩ ∈ w.received)
    ∧ (r = .join → id ∉ w.failed → ∀ m ∈ w.conv.marks, m.inviteId = id → m.answeredAt = 0) := by
  simp only [InOrder, h] at hok
  have hp := hok (id, r) he
  refine ⟨fun hf => (hp hf).1, fun hr hf m hm hid => ?_⟩
  obtain ⟨s, hs, rfl⟩ := List.mem_map.mp hm
  exact (hp hf).2 hr s hs hid

theorem invitesOk_handled (hw : w.InvitesOk) (hok : InOrder w (.handle t)) (h : Handled w t w') :
    w'.InvitesOk := by
  unfold ChatWorld.InvitesOk at hw
  cases h with
  | take e rest h he =>
    rw [h, he] at hw
    refine hw.handlerTurn (hw.eventsOk e List.mem_cons_self) ?_ ?_ ?_ ?_
    · exact fun s _ => not_pushes (by simp) s
    · exact fun s _ => not_pushes (by simp) s
    · exact fun e' he' => hw.eventsOk e' (List.mem_cons_of_mem _ he')
    · rintro id r - - (⟨e', he', r', hr'⟩ | habout)
      · rcases List.mem_cons.mp he' with rfl | he'
        · exact .inl (.inr (by simp [HandlerPc.about, hr']))
        · exact .inl (.inl ⟨e', he', r', hr'⟩)
      · cases habout
  | unknown e h hs =>
    simp only [InOrder, h, hs, Bool.false_eq_true, imp_false] at hok
    rw [h] at hw
    refine hw.handlerDone (fun s _ => not_pushes (by simp) s) fun id r _ _ habout => ?_
    exact absurd (by simpa [HandlerPc.about] using Option.isSome_of_eq_some habout) hok
  | known e h hs =>
    rw [h] at hw
    refine hw.handlerGoesOn hw.handlerOk ?_ ?_ fun _ _ h => h
    · exact fun s _ => not_pushes (by simp) s
    · exact fun s _ => not_pushes (by simp) s
  | declines id ts i h hi =>
    rw [h] at hw
    obtain ⟨m, hm, hid, hstop⟩ := Conversation.getSessionByInviteId_some hi
    have hfound := hw.found (r := .decline) rfl (inOrder_handle hok h rfl).1 hm hid fun _ => hstop
    exact hw.handleNext rfl hfound rfl (by simp)
  | missing id ts h hi =>
    rw [h] at hw
    have hnone := hw.notFound (r := .decline) rfl (inOrder_handle hok h rfl).1 fun m hm hid =>
      Conversation.getSessionByInviteId_none hi hm hid
    refine hw.handlerDone (fun s _ => not_pushes (by simp) s) fun id' r hr hf habout => ?_
    obtain rfl : id = id' := Option.some.inj habout
    obtain rfl := hw.single id .decline r (hw.handlerOk.1 _ rfl) hr
    exact (hnone.resolve_left hf).2
  | joins id ts h =>
    rw [h] at hw
    obtain ⟨hpushed, honce⟩ := inOrder_handle hok h rfl
    refine hw.handleNext rfl ?_ rfl (by simp)
    cases hj : w.conv.joinedSession id with
    | some i =>
      obtain ⟨m, hm, hid⟩ := Conversation.joinedSession_some hj
      exact hw.found rfl hpushed hm hid fun hf => honce rfl hf m (List.mem_of_getElem? hm) hid
    | none =>
      have hnone := hw.notFound (r := .join) rfl hpushed fun m hm hid =>
        Conversation.joinedSession_none hj hm hid
      exact hnone.resolve_right fun h => nomatch h.1
  | message id h =>
    rw [h] at hw
    exact invitesOk_of_marks (Conversation.marks_setNewMessage id t.now) (hw.handledOther rfl)
  | leave ts cause h =>
    rw [h] at hw
    refine invitesOk_of_marks (Conversation.marks_setClose ts cause) ?_
    refine hw.handlerGoesOn (.inl rfl) (fun s _ => not_pushes (by simp) s) ?_ fun _ _ h => nomatch h
    rintro s hs (h | h)
    · cases h
      exact hs rfl
    · cases h
  | skip h =>
    rw [h] at hw
    exact hw.handledOther rfl
  | stop i id ts h =>
    rw [h] at hw
    exact invitesOk_of_marks (Conversation.marks_stopSession i ts)
      (hw.mark hw.handlerOk rfl (not_pushes (by simp)))
  | joined i id ts h =>
    rw [h] at hw
    exact invitesOk_of_marks (Conversation.marks_setJoined i id ts t.now)
      (hw.mark hw.handlerOk rfl (not_pushes (by simp)))
  | notJoined id ts h =>
    rw [h] at hw
    refine hw.handlerDone (fun s _ => not_pushes (by simp) s) fun id' r hr hf habout => ?_
    obtain rfl : id = id' := Option.some.inj habout
    exact absurd hw.handlerOk hf
  | sent s h hroom => exact hw.replySent h
  | dropped s h hroom hs | waits s h hroom hs | givenUp s h hroom =>
    simp only [InOrder, h] at hok
    rw [hroom] at hok
    cases hok

theorem invitesOk_step {l : ChatLabel} (hw : w.InvitesOk) (hok : InOrder w l)
    (h : chatStep w l = some w') : w'.InvitesOk := by
  rcases chatStep_cases h with hs | ⟨t, rfl, hs⟩ | ⟨t, rfl, hs⟩
  · exact invitesOk_elsewhere hw hs
  · exact invitesOk_handled hw hok hs
  · exact invitesOk_invited hw hok hs

/-! ## The replies of a run -/

def ChatWorld.heard (w : ChatWorld) (id : String) : List ChatState := w.ledger.heard id

def ChatWorld.Pending (w : ChatWorld) (id : String) : Prop := Chat.Pending w.handler w.events id

instance (w : ChatWorld) (l : ChatLabel) : Decidable (InOrder w l) := by
  unfold InOrder
  split
  · split <;> infer_instance
  · split <;> infer_instance
  · infer_instance

/-- **Replies in order.** When every reply is handled in order, the channel receives the invite
once its call has succeeded, then the reply of the agent, and no more; and it has received the
reply as soon as the reply was handled. -/
theorem replies_in_order (inviterId : String) (now : Int) (labels : List ChatLabel)
    {w : ChatWorld} (hok : Along chatStep InOrder (chatStart inviterId now) labels)
    (hrun : run chatStep (chatStart inviterId now) labels = some w) {id : String}
    (hid : id ∈ w.accepted) :
    (w.heard id = [] ∨ w.heard id = [.invite]
      ∨ ∃ r, (id, r) ∈ w.replies ∧ w.heard id = [.invite, r.state])
    ∧ (id ∉ w.failed → w.inviting.about ≠ some id → w.heard id ≠ [])
    ∧ ∀ r, (id, r) ∈ w.replies → id ∉ w.failed → ¬ w.Pending id →
      w.heard id = [.invite, r.state] := by
  have hw : w.InvitesOk :=
    run_invariant (fun _ _ _ => invitesOk_step) labels (inviteOk_start inviterId now) hok hrun
  have hne : id ≠ "" := fun h => hw.named (h ▸ hid)
  refine ⟨hw.shape id hne, fun hf hcall => ?_, fun r hr hf hp => ?_⟩
  · exact (hw.invited id hid hf).resolve_left hcall
  · exact (hw.complete id r hr hf).resolve_left hp

/-! ## Replies that overtake -/

def accepts (id : String) : List ChatLabel := [.invite, .advance tick, .accept id]

def advances (n : Nat) : List ChatLabel := List.replicate n (.advance tick)

def handles (n : Nat) : List ChatLabel := List.replicate n (.handle tick)

/-- The agent declines before the server's reply is processed, but the event is handled after
the invite was pushed. -/
def declinesInOrder : List ChatLabel :=
  accepts "a" ++ [.reply "a" .decline 5] ++ advances 3 ++ handles 5

theorem decline_in_order :
    ∃ w, run chatStep (chatStart "m" 1) declinesInOrder = some w
      ∧ w.heard "a" = [.invite, .declined] := by
  obtain ⟨w, hrun⟩ := Option.isSome_iff_exists.mp
    (rfl : (run chatStep (chatStart "m" 1) declinesInOrder).isSome = true)
  have hend : (run chatStep (chatStart "m" 1) declinesInOrder).map
      (fun w => (w.accepted, w.failed, w.replies, w.handler, w.events))
      = some (["a"], [], [("a", .decline)], .idle, []) := rfl
  rw [hrun, Option.map_some, Option.some.injEq, Prod.mk.injEq, Prod.mk.injEq, Prod.mk.injEq,
    Prod.mk.injEq] at hend
  obtain ⟨hacc, hf, hr, hidle, hevents⟩ := hend
  refine ⟨w, hrun, (replies_in_order "m" 1 declinesInOrder (by decide) hrun
    (hacc ▸ List.mem_singleton_self _)).2.2 .decline (hr ▸ List.mem_singleton_self _)
    (hf ▸ List.not_mem_nil) ?_⟩
  unfold ChatWorld.Pending
  rw [hidle, hevents]
  rintro (⟨e, he, -⟩ | h)
  · exact List.not_mem_nil he
  · cases h

def handledBeforeStored : List ChatLabel :=
  accepts "a" ++ [.reply "a" .join 5] ++ handles 4 ++ advances 3

def handledBeforePushed : List ChatLabel :=
  accepts "a" ++ [.reply "a" .join 5] ++ advances 2 ++ handles 5 ++ advances 1

def joinedTwice : List ChatLabel :=
  accepts "a" ++ advances 3 ++ [.reply "a" .join 5, .reply "a" .join 5] ++ handles 10

/-- Every event was handled and the call has succeeded, but the reply is lost, comes before the
invite, or comes twice. -/
theorem reply_out_of_order :
    (run chatStep (chatStart "m" 1) handledBeforeStored).map
        (fun w => (w.heard "a", w.inviting, w.handler, w.events))
      = some ([.invite], .returned .ok, .idle, [])
    ∧ (run chatStep (chatStart "m" 1) handledBeforePushed).map
        (fun w => (w.heard "a", w.inviting, w.handler, w.events))
      = some ([.bridge, .invite], .returned .ok, .idle, [])
    ∧ (run chatStep (chatStart "m" 1) joinedTwice).map
        (fun w => (w.heard "a", w.inviting, w.handler, w.events))
      = some ([.invite, .bridge, .bridge], .returned .ok, .idle, []) :=
  ⟨rfl, rfl, rfl⟩

end CallCenter.Chat
