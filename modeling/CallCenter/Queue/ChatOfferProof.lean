import CallCenter.Chat.Offers
import CallCenter.Queue.ChatOffer
import CallCenter.Queue.ChatOfferRounds

/-!
# A declined chat

`setDeclined` first stops the session of the agent and then pushes `Declined`. The loop of the chat
with an agent looks at both. If the session is stopped while the goroutine is anywhere but in its
select, the loop ends by the first, the agent stays, and the state is left in the channel for the
next agent.

When every session is stopped while the goroutine waits in its select and the channel is empty, the
next state is that of the agent who declined, and it is this agent whom the goroutine counts as
missed and gives up.
-/

namespace CallCenter.Queue

open Lib Chat

def OfferWorld.Holds (w : OfferWorld) (id : String) (stopAt : Int) : Prop :=
  ∃ i, w.aSess = some i ∧ w.chat.conv.offers[i]? = some (id, stopAt)

/-- The agent has a session that is not stopped, the only one that can be declined, and nothing
is on its way. -/
structure OfferWorld.Offered (w : OfferWorld) : Prop where
  opens : OpenAt w.chat.conv.offers w.chat.inviting w.aSess
  holds : ∃ id, w.Holds id 0
  none : w.chat.declines = []

/-- The session was stopped in the select, and its `Declined` is next. -/
structure OfferWorld.Declining (w : OfferWorld) : Prop where
  asking : w.prog.asking = some (.select (.chat true))
  opens : OpenAt w.chat.conv.offers w.chat.inviting w.aSess
  stopped : ∃ id ts, w.Holds id ts ∧ ts ≠ 0 ∧ w.chat.Flying ⟨.declined, id⟩

/-- What is known of the offer is so. -/
def OfferPhase.Fits (w : OfferWorld) : OfferPhase → Prop
  | .offered => w.Offered ∨ w.Declining
  | .passed => w.Offered ∨ ∃ id ts, w.Holds id ts ∧ ts ≠ 0
  | .talking => w.Offered ∨ w.chat.conv.active = false
  | .ended => w.chat.conv.active = false
  | .free | .chosen | .received | .missed =>
    OpenAt w.chat.conv.offers w.chat.inviting none ∧ w.chat.declines = []

/-- The world is as the phase says, and the goroutine will settle the offer. -/
structure OfferOk (w : OfferWorld) (p : OfferPhase) : Prop where
  chat : ChatOk w.chat
  inviting : w.chat.inviting ≠ .idle → w.prog.asking = some .inviteInternal
  stage : w.stage = p.stage
  fits : p.Fits w
  meets : OfferMeets w.prog p fun _ p' => p'.settled = true

/-- A session is stopped while the goroutine waits in its select and the channel is empty; and
when the timer fires after that, the chat is not bridged. -/
def DeclinedInTime (w : OfferWorld) : OfferLabel → Prop
  | .chat (.handle _) =>
    match w.chat.handler with
    | .decline _ _ _ => w.talks ∧ w.chat.conv.state = []
    | _ => True
  | .chat _ => True
  | .go _ e => e.1 = .read (.conv .bridgedAt) → w.chat.conv.active = true →
    (∃ s ∈ w.session, s.stopAt ≠ 0) → w.chat.conv.bridgedAt = 0

section World

variable {w : OfferWorld} {p : OfferPhase} {c : ChatWorld} {l : ChatLabel} {t : Tick}

theorem OfferPhase.Fits.chat (h : p.Fits w) (hoffers : c.conv.offers = w.chat.conv.offers)
    (hopens : ∀ current, OpenAt w.chat.conv.offers w.chat.inviting current →
      OpenAt c.conv.offers c.inviting current)
    (hnone : w.chat.declines = [] → c.declines = [])
    (hflying : ∀ x, w.chat.Flying x → c.Flying x)
    (hactive : c.conv.active = true → w.chat.conv.active = true) : p.Fits { w with chat := c } := by
  have hholds : ∀ {id ts}, w.Holds id ts → OfferWorld.Holds { w with chat := c } id ts :=
    fun ⟨i, hi, ho⟩ => ⟨i, hi, hoffers ▸ ho⟩
  have hoffered : w.Offered → OfferWorld.Offered { w with chat := c } := fun h =>
    ⟨hopens _ h.opens, h.holds.imp fun _ => hholds, hnone h.none⟩
  have hended : w.chat.conv.active = false → c.conv.active = false := fun h =>
    Bool.eq_false_iff.mpr fun hc => Bool.eq_false_iff.mp h (hactive hc)
  cases p with
  | free | chosen | received | missed => exact ⟨hopens _ h.1, hnone h.2⟩
  | offered =>
    refine h.imp hoffered fun h => ⟨h.asking, hopens _ h.opens, ?_⟩
    obtain ⟨id, ts, hid, hts, hd⟩ := h.stopped
    exact ⟨id, ts, hholds hid, hts, hflying _ hd⟩
  | passed => exact h.imp hoffered fun ⟨id, ts, hid, hts⟩ => ⟨id, ts, hholds hid, hts⟩
  | talking => exact h.imp hoffered hended
  | ended => exact hended h

theorem OfferOk.safe (hw : OfferOk w p) {o : Action} (ho : w.prog.asking = some o) :
    p.safe o = true :=
  hw.meets.asks ho

theorem OfferOk.chosen (hw : OfferOk w p) (h : w.prog.asking = some .inviteInternal) :
    p = .chosen :=
  of_decide_eq_true (Bool.and_eq_true_iff.mp (hw.safe h)).2

variable {held : Bool}

theorem OfferOk.offered (hw : OfferOk w p) (h : w.prog.asking = some (.select (.chat held))) :
    held = true ∧ p = .offered :=
  of_decide_eq_true (Bool.and_eq_true_iff.mp (hw.safe h)).2

theorem OfferOk.free (hw : OfferOk w p) (h : w.prog.asking = some (.select (.waitChat held))) :
    held = false ∧ p = .free :=
  of_decide_eq_true (Bool.and_eq_true_iff.mp (hw.safe h)).2

theorem offerOk_elsewhere (hw : OfferOk w p) (hallow : w.allows l) (h : Elsewhere w.chat l c) :
    OfferOk { w with chat := c } p := by
  have hchat := chatOk_elsewhere hw.chat h
  cases h with
  | invite h =>
    have hidle : w.chat.inviting = .idle := hallow.2
    refine ⟨hchat, fun _ => hallow.1, hw.stage,
      hw.fits.chat rfl (fun current hopens i id hi hid => ?_) (fun h => h) (fun _ h => h)
        (fun h => h), hw.meets⟩
    exact (hopens i id hi hid).imp_right fun h => by
      rw [hidle] at h
      exact nomatch h.1
  | accept i id h hid hfresh =>
    refine ⟨hchat, fun _ => hw.inviting (by rw [h]; nofun), hw.stage,
      hw.fits.chat rfl (fun current hopens i id hi hid => ?_) (fun h => h) (fun _ h => h)
        (fun h => h), hw.meets⟩
    exact (hopens i id hi hid).imp_right fun h' => by
      rw [h] at h'
      exact nomatch h'.1
  | receive s rest _ => exact hallow.elim
  | reply | again | event | evict =>
    exact ⟨hchat, hw.inviting, hw.stage,
      hw.fits.chat rfl (fun _ h => h) (fun h => h) (fun _ h => h) (fun h => h), hw.meets⟩

theorem offerOk_invited (hw : OfferOk w p) (h : Invited w.chat t c) :
    OfferOk { w with chat := c } p := by
  have hbusy : w.chat.inviting ≠ .idle := by
    intro hidle
    cases h with
    | sent id h _ => rcases h with h | h <;> rw [hidle] at h <;> cases h
    | addSession h | refused i h | replied i id h | fails i id h | setInviteId i id h
    | dropped id h | waits id h | givenUp id h =>
      rw [hidle] at h
      cases h
  obtain rfl := hw.chosen (hw.inviting hbusy)
  have hkept := kept_invited hw.chat hw.fits.1 h
  exact ⟨hkept.ok, fun _ => hw.inviting hbusy, hw.stage,
    ⟨hkept.opens, hkept.declines.trans hw.fits.2⟩, hw.meets⟩

theorem offerOk_handled (hw : OfferOk w p) (h : Handled w.chat t c)
    (hstop : ∀ i id ts, w.chat.handler ≠ .decline i id ts) : OfferOk { w with chat := c } p := by
  have hkept := kept_handled hw.chat h hstop
  refine ⟨hkept.ok, ?_, hw.stage, hw.fits.chat hkept.offers (fun _ h => ?_) hkept.none
    hkept.flying hkept.active, hw.meets⟩
  · show c.inviting ≠ .idle → _
    rw [hkept.inviting]
    exact hw.inviting
  · rw [hkept.offers, hkept.inviting]
    exact h

theorem offerOk_stop (hw : OfferOk w p) {i : Nat} {id : String} {ts : Int}
    (h : w.chat.handler = .decline i id ts) (htalks : w.talks)
    (hempty : w.chat.conv.state = []) :
    OfferOk { w with chat := { w.chat with
      conv := w.chat.conv.stopSession i ts, handler := .push ⟨.declined, id⟩ } } .offered := by
  have hhandler := hw.chat.handler
  rw [h] at hhandler
  obtain ⟨hts, hid, hi⟩ := hhandler
  obtain ⟨held, hasking⟩ := htalks
  obtain ⟨rfl, rfl⟩ := hw.offered hasking
  have hidle : w.chat.inviting = .idle := by
    by_contra hbusy
    cases (hw.inviting hbusy).symm.trans hasking
  -- nothing is on its way yet
  have hdeclines : w.chat.declines = [] := by
    simp [ChatWorld.declines, hempty, h, HandlerPc.declining]
  have hopens : OpenAt w.chat.conv.offers w.chat.inviting w.aSess :=
    hw.fits.elim (fun h => h.opens) fun h => h.opens
  have hcurrent : w.aSess = some i := by
    rcases hopens i id hi hid with h | h
    · exact h
    · rw [hidle] at h
      cases h.1
  have hstopped : (w.chat.conv.offers.modify i fun o => (o.1, ts))[i]? = some (id, ts) := by
    simp [hi]
  refine ⟨{ hw.chat with handler := trivial, caller := ?_ }, fun hbusy => absurd hidle hbusy,
    hw.stage, .inr ⟨hasking, ?_, id, ts, ⟨i, hcurrent, ?_⟩, by omega, ?_, .inl hempty⟩, hw.meets⟩
  · rw [hidle]
    trivial
  · intro j id' hj hid'
    show w.aSess = some j ∨ _
    rw [offers_stopSession] at hj
    by_cases hij : i = j
    · exact .inl (hij ▸ hcurrent)
    · have hold : w.chat.conv.offers[j]? = some (id', 0) := by simpa [hij] using hj
      rcases hopens j id' hold hid' with h | h
      · exact .inl h
      · rw [hidle] at h
        cases h.1
  · rw [offers_stopSession]
    exact hstopped
  · show w.chat.conv.state.filter _ ++ _ = _
    rw [hempty]
    rfl

theorem offerOk_chat (hw : OfferOk w p) (hok : DeclinedInTime w (.chat l)) (hallow : w.allows l)
    (h : chatStep w.chat l = some c) : ∃ p', OfferOk { w with chat := c } p' := by
  rcases chatStep_cases h with hs | ⟨t, rfl, hs⟩ | ⟨t, rfl, hs⟩
  · exact ⟨p, offerOk_elsewhere hw hallow hs⟩
  · by_cases hstop : ∃ i id ts, w.chat.handler = .decline i id ts
    · obtain ⟨i, id, ts, hpc⟩ := hstop
      rw [DeclinedInTime, hpc] at hok
      have h : w.chat.handle t = some c := h
      rw [ChatWorld.handle, hpc] at h
      cases h
      exact ⟨.offered, offerOk_stop hw hpc hok.1 hok.2⟩
    · refine ⟨p, offerOk_handled hw hs fun i id ts hpc => hstop ⟨i, id, ts, hpc⟩⟩
  · exact ⟨p, offerOk_invited hw hs⟩

/-! ### The steps of the goroutine -/

theorem active_stopped {c : Conversation} {now : Int} (h : 0 < now) :
    (c.setStop now).active = false := by
  unfold Conversation.setStop
  split
  · exact decide_eq_false (by show now ≠ 0; omega)
  · exact decide_eq_false (by assumption)

theorem OfferWorld.Holds.session {id : String} {ts : Int} (h : w.Holds id ts) :
    ∃ s, w.session = some s ∧ s.inviteId = id ∧ s.stopAt = ts := by
  obtain ⟨i, hi, ho⟩ := h
  grind [OfferWorld.session, offers_getElem?]

variable {e : Exchange Action.Reply} {prog : Go Unit} {w₁ : OfferWorld} {p' : OfferPhase}

theorem asking_of_step (h : w.prog.step e = some prog) : w.prog.asking = some e.1 := by
  obtain ⟨k, hk, -⟩ := Prog.step_eq_some h
  rw [hk]
  rfl

theorem stage_after (hsafe : p.safe e.1 = true) (h : p.after e = some p') :
    p.stage.after e = p'.stage := by
  obtain ⟨o, v⟩ := e
  have hasks := (Bool.and_eq_true_iff.mp hsafe).1
  cases o with
  | select sel =>
    cases sel with
    | waitChat held =>
      obtain ⟨-, rfl⟩ := of_decide_eq_true (Bool.and_eq_true_iff.mp hsafe).2
      cases v <;> cases h <;> rfl
    | chat held =>
      obtain ⟨-, rfl⟩ := of_decide_eq_true (Bool.and_eq_true_iff.mp hsafe).2
      cases v with
      | state s => cases s <;> cases h <;> rfl
      | _ => cases h; rfl
    | _ => cases h; rfl
  | inviteInternal =>
    obtain rfl : p = .chosen := of_decide_eq_true (Bool.and_eq_true_iff.mp hsafe).2
    cases v <;> cases h <;> rfl
  | read d =>
    cases d with
    | conv f =>
      -- none of these is asked while a `Declined` is being handled
      cases f <;> cases v <;> cases p <;> first | cases h <;> rfl | cases hasks
    | _ => cases h; rfl
  | store c => cases c <;> cases p <;> cases h <;> rfl
  | setState s => cases s <;> cases p <;> cases h <;> rfl
  | _ => cases h; rfl

theorem OfferOk.go (hw : OfferOk w p) (w₁ : OfferWorld) (p' : OfferPhase)
    (hstep : w.prog.step e = some prog) (hafter : p.after e = some p')
    (hchat : ChatOk w₁.chat) (hidle : w₁.chat.inviting = .idle)
    (hfits : p'.Fits (w₁.goesOn prog (w.stage.after e))) :
    ∃ p', OfferOk (w₁.goesOn prog (w.stage.after e)) p' := by
  refine ⟨p', hchat, fun h => absurd hidle h, ?_, hfits, (hw.meets.step hstep).2 p' hafter⟩
  exact (congrArg (·.after e) hw.stage).trans
    (stage_after (hw.safe (asking_of_step hstep)) hafter)

theorem OfferOk.idle (hw : OfferOk w p) (hstep : w.prog.step e = some prog)
    (he : e.1 ≠ .inviteInternal) : w.chat.inviting = .idle := by
  by_contra hbusy
  exact he (Option.some.inj ((asking_of_step hstep).symm.trans (hw.inviting hbusy)))

/-- Nothing of the offer has changed. -/
structure SameOffer (w w₁ : OfferWorld) : Prop where
  aSess : w₁.aSess = w.aSess
  ok : ChatOk w.chat → ChatOk w₁.chat
  offers : w₁.chat.conv.offers = w.chat.conv.offers
  inviting : w₁.chat.inviting = w.chat.inviting
  state : w₁.chat.conv.state = w.chat.conv.state
  handler : w₁.chat.handler = w.chat.handler
  active : w₁.chat.conv.active = true → w.chat.conv.active = true

theorem sameOffer_refl (w : OfferWorld) : SameOffer w w :=
  ⟨rfl, fun h => h, rfl, rfl, rfl, rfl, fun h => h⟩

theorem sameOffer_stored (w : OfferWorld) (b : Bool) :
    SameOffer w { w with chat := { w.chat with stored := b } } :=
  ⟨rfl, fun h => { h with }, rfl, rfl, rfl, rfl, fun h => h⟩

theorem sameOffer_setStop (w : OfferWorld) (now : Int) : SameOffer w (w.setStop now) := by
  have hoffers : (w.chat.conv.setStop now).offers = w.chat.conv.offers :=
    offers_of_marks (Conversation.marks_setStop now)
  refine ⟨rfl, fun h => { h with handler := ?_, caller := ?_ }, hoffers, rfl, ?_, rfl,
    active_setStop⟩
  · exact hoffers ▸ h.handler
  · exact hoffers ▸ h.caller
  · show (w.chat.conv.setStop now).state = _
    unfold Conversation.setStop
    split <;> rfl

section Same

variable {s : DeclineStage} (hsame : SameOffer w w₁)
include hsame

theorem SameOffer.holds {id : String} {ts : Int} (h : w.Holds id ts) :
    (w₁.goesOn prog s).Holds id ts := by
  obtain ⟨i, hi, ho⟩ := h
  exact ⟨i, hsame.aSess.trans hi, hsame.offers ▸ ho⟩

theorem SameOffer.opens {current : Option Nat}
    (h : OpenAt w.chat.conv.offers w.chat.inviting current) :
    OpenAt w₁.chat.conv.offers w₁.chat.inviting current := by
  rw [hsame.offers, hsame.inviting]
  exact h

theorem SameOffer.declines : w₁.chat.declines = w.chat.declines := by
  simp only [ChatWorld.declines, hsame.state, hsame.handler]

theorem SameOffer.offered (h : w.Offered) : (w₁.goesOn prog s).Offered where
  opens := by
    show OpenAt _ _ w₁.aSess
    rw [hsame.aSess]
    exact hsame.opens h.opens
  holds := h.holds.imp fun _ => hsame.holds
  none := hsame.declines.trans h.none

theorem SameOffer.fits (h : p.Fits w) (ho : w.prog.asking ≠ some (.select (.chat true))) :
    p.Fits (w₁.goesOn prog s) := by
  have hended : w.chat.conv.active = false → w₁.chat.conv.active = false := fun h =>
    Bool.eq_false_iff.mpr fun hc => Bool.eq_false_iff.mp h (hsame.active hc)
  cases p with
  | free | chosen | received | missed => exact ⟨hsame.opens h.1, hsame.declines.trans h.2⟩
  | offered => exact .inl (hsame.offered (h.resolve_right fun h => ho h.asking))
  | passed => exact h.imp hsame.offered fun ⟨id, ts, hid, hts⟩ => ⟨id, ts, hsame.holds hid, hts⟩
  | talking => exact h.imp hsame.offered hended
  | ended => exact hended h

end Same

/-- An exchange that has nothing to do with the selects and the conversation. -/
theorem offerOk_other (hw : OfferOk w p) (hstep : w.prog.step e = some prog)
    (hsame : SameOffer w w₁) (he : e.1 ≠ .inviteInternal ∧ ∀ held, e.1 ≠ .select (.chat held))
    (hafter : p.after e = some p') (hnext : p' = p ∨ p = .received ∧ p' = .missed
      ∨ p = .missed ∧ p' = .free) :
    ∃ p', OfferOk (w₁.goesOn prog (w.stage.after e)) p' := by
  have ho : w.prog.asking ≠ some (.select (.chat true)) := fun h =>
    he.2 true (Option.some.inj ((asking_of_step hstep).symm.trans h))
  refine hw.go _ _ hstep hafter (hsame.ok hw.chat) (hsame.inviting.trans (hw.idle hstep he.1)) ?_
  have hfits : p.Fits (w₁.goesOn prog (w.stage.after e)) := hsame.fits hw.fits ho
  rcases hnext with rfl | ⟨rfl, rfl⟩ | ⟨rfl, rfl⟩ <;> exact hfits

theorem offerOk_read (hw : OfferOk w p) {f : ConvField} {v : Bool} {now : Int} (hnow : 0 < now)
    (hstep : w.prog.step ⟨.read (.conv f), v⟩ = some prog) (hagrees : w.agreesConv f v)
    (hok : DeclinedInTime w (.go t ⟨.read (.conv f), v⟩)) :
    ∃ p', OfferOk ((if f = .bridgedAt ∧ v = false then w.setStop now else w).goesOn prog
      (w.stage.after ⟨.read (.conv f), v⟩)) p' := by
  have hidle := hw.idle hstep nofun
  have ho : w.prog.asking ≠ some (.select (.chat true)) := fun h => by
    cases (asking_of_step hstep).symm.trans h
  have hsame := sameOffer_refl w
  have hkept : p.after ⟨.read (.conv f), v⟩ = some p → ∃ p', OfferOk (w.goesOn prog
      (w.stage.after ⟨.read (.conv f), v⟩)) p' := fun hafter =>
    hw.go _ _ hstep hafter hw.chat hidle (hsame.fits hw.fits ho)
  cases f with
  | active =>
    have hv : v = w.chat.conv.active := hagrees
    cases v with
    | false => exact hw.go _ .ended hstep rfl hw.chat hidle hv.symm
    | true =>
      cases p with
      | ended => exact absurd (hv.trans hw.fits) (by decide)
      | talking =>
        have hoffered := hw.fits.resolve_right fun h => absurd (hv.trans h) (by decide)
        exact hw.go _ .offered hstep rfl hw.chat hidle (.inl (hsame.offered hoffered))
      | _ => exact hkept rfl
  | agentStopAt =>
    refine hkept (if_neg fun hp => ?_)
    obtain ⟨rfl, rfl⟩ := hp
    obtain ⟨id, hid⟩ := (hw.fits.resolve_right fun h => ho h.asking).holds
    obtain ⟨s, hs, -, hstop⟩ := hid.session
    obtain ⟨s', hs', hv⟩ := hagrees
    obtain rfl := Option.some.inj (hs.symm.trans hs')
    exact absurd hstop (of_decide_eq_true hv.symm)
  | bridgedAt =>
    have hv : v = decide (0 < w.chat.conv.bridgedAt) := hagrees
    cases v with
    | false =>
      exact hw.go _ .ended hstep rfl ((sameOffer_setStop w now).ok hw.chat) hidle
        (active_stopped hnow)
    | true =>
      cases p with
      | passed =>
        refine hw.go _ .talking hstep rfl hw.chat hidle
          (hw.fits.imp hsame.offered fun ⟨id, ts, hid, hts⟩ => ?_)
        -- the chat was declined in the select, so it is not bridged
        obtain ⟨s, hs, -, hstop⟩ := hid.session
        refine Bool.eq_false_iff.mpr fun hactive => ?_
        have hbridged := hok rfl hactive ⟨s, hs, hstop ▸ hts⟩
        rw [hbridged] at hv
        cases hv
      | _ => exact hkept rfl
  | _ => exact hkept rfl

theorem offerOk_waitChat (hw : OfferOk w p) {s : ChatWait}
    (hstep : w.prog.step ⟨.select (.waitChat held), s⟩ = some prog)
    (hex : w.exchange t.now ⟨.select (.waitChat held), s⟩ = some w₁) :
    ∃ p', OfferOk (w₁.goesOn prog (w.stage.after ⟨.select (.waitChat held), s⟩)) p' := by
  obtain ⟨-, rfl⟩ := hw.free (asking_of_step hstep)
  have hidle := hw.idle hstep nofun
  cases s with
  | cancel | contextDone =>
    cases hex
    exact hw.go _ .ended hstep rfl ((sameOffer_setStop w t.now).ok hw.chat) hidle
      (active_stopped t.now_pos)
  | timeout =>
    cases hex
    exact hw.go _ .free hstep rfl hw.chat hidle hw.fits
  | agents =>
    cases hex
    exact hw.go _ .chosen hstep rfl hw.chat hidle hw.fits

theorem offerOk_inviteInternal (hw : OfferOk w p) {r : InviteReply}
    (hstep : w.prog.step ⟨.inviteInternal, r⟩ = some prog) (hr : w.chat.inviting = .returned r) :
    ∃ p', OfferOk ((OfferWorld.invited { w with
      chat := { w.chat with inviting := .idle } } r).goesOn prog
        (w.stage.after ⟨.inviteInternal, r⟩)) p' := by
  obtain rfl := hw.chosen (asking_of_step hstep)
  have hchat : ChatOk { w.chat with inviting := .idle } := { hw.chat with caller := trivial }
  have hcaller := hw.chat.caller
  obtain ⟨hopens, hd⟩ := hw.fits
  rw [hr] at hcaller hopens
  cases r with
  | special | failed =>
    -- the call has failed: no session is open
    refine hw.go _ .free hstep rfl hchat rfl ⟨fun i id hi hid => ?_, hd⟩
    rcases hopens i id hi hid with h | h
    · cases h
    · cases h.1
  | ok =>
    obtain ⟨⟨id, ts⟩, ho, hts⟩ := hcaller
    obtain rfl : ts = 0 := hts
    refine hw.go { w with
        chat := { w.chat with inviting := .idle }
        aSess := some (w.chat.conv.sessions.length - 1) }
      .offered hstep rfl hchat rfl (.inl ⟨fun i id' hi hid' => ?_, ⟨id, _, rfl, ?_⟩, hd⟩)
    · rcases hopens i id' hi hid' with h | h
      · cases h
      · refine .inl (congrArg some ?_)
        rw [← offers_length]
        omega
    · rw [← offers_length]
      exact ho

def OfferWorld.taken (w : OfferWorld) (rest : List Sent) : OfferWorld :=
  { w with chat := { w.chat with conv := { w.chat.conv with state := rest } } }

theorem offerOk_state (hw : OfferOk w .offered) (hoffered : w.Offered) {m : Sent}
    {rest : List Sent} (hstate : w.chat.conv.state = m :: rest)
    (hstep : w.prog.step ⟨.select (.chat true), .state m.state⟩ = some prog) :
    ∃ p', OfferOk (((w.taken rest).receives t.now m.state).goesOn prog
      (w.stage.after ⟨.select (.chat true), .state m.state⟩)) p' := by
  obtain ⟨st, id⟩ := m
  have hidle := hw.idle hstep fun h => by cases h
  have hchat : ChatOk (w.taken rest).chat := { hw.chat with }
  have hd := hoffered.none
  simp only [ChatWorld.declines, hstate, List.filter_cons] at hd
  cases st with
  | declined => simp at hd
  | close =>
    exact hw.go _ .ended hstep rfl ((sameOffer_setStop (w.taken rest) t.now).ok hchat) hidle
      (active_stopped t.now_pos)
  | idle | invite | bridge =>
    rw [if_neg (by simp)] at hd
    exact hw.go (w.taken rest) .offered hstep rfl hchat hidle
      (.inl ⟨hoffered.opens, hoffered.holds, hd⟩)

theorem offerOk_declined (hw : OfferOk w .offered) (hdeclining : w.Declining) {m : Sent}
    {rest : List Sent} (hstate : w.chat.conv.state = m :: rest)
    (hstep : w.prog.step ⟨.select (.chat true), .state m.state⟩ = some prog) :
    ∃ p', OfferOk (((w.taken rest).receives t.now m.state).goesOn prog
      (w.stage.after ⟨.select (.chat true), .state m.state⟩)) p' := by
  obtain ⟨id, ts, ⟨i, hi, ho⟩, hts, hd, hhead⟩ := hdeclining.stopped
  obtain rfl : m = ⟨.declined, id⟩ := by
    rcases hhead with hempty | ⟨rest', hrest⟩
    · cases hempty.symm.trans hstate
    · cases hrest.symm.trans hstate
      rfl
  simp only [ChatWorld.declines, hstate, List.filter_cons, decide_true, if_true, List.cons_append,
    List.cons.injEq, true_and] at hd
  refine hw.go (w.taken rest) .received hstep rfl { hw.chat with }
    (hw.idle hstep fun h => by cases h) ⟨fun j id' hj hid' => ?_, hd⟩
  -- the session is stopped, so it is not open any more
  rcases hdeclining.opens j id' hj hid' with h | h
  · obtain rfl := Option.some.inj (hi.symm.trans h)
    cases ho.symm.trans hj
    exact absurd rfl hts
  · exact .inr h

theorem offerOk_chatSelect (hw : OfferOk w p) {s : ChatSignal}
    (hstep : w.prog.step ⟨.select (.chat held), s⟩ = some prog)
    (hex : w.exchange t.now ⟨.select (.chat held), s⟩ = some w₁) :
    ∃ p', OfferOk (w₁.goesOn prog (w.stage.after ⟨.select (.chat held), s⟩)) p' := by
  obtain ⟨rfl, rfl⟩ := hw.offered (asking_of_step hstep)
  have hidle := hw.idle hstep nofun
  cases s with
  | cancel | contextDone =>
    cases hex
    exact hw.go _ .ended hstep rfl ((sameOffer_setStop w t.now).ok hw.chat) hidle
      (active_stopped t.now_pos)
  | timeout =>
    cases hex
    refine hw.go _ .passed hstep rfl hw.chat hidle (hw.fits.imp (sameOffer_refl w).offered
      fun h => ?_)
    obtain ⟨id, ts, hid, hts, -⟩ := h.stopped
    exact ⟨id, ts, (sameOffer_refl w).holds hid, hts⟩
  | state st =>
    cases hstate : w.chat.conv.state with
    | nil =>
      simp only [OfferWorld.exchange, hstate] at hex
      cases hex
    | cons m rest =>
      simp only [OfferWorld.exchange, hstate] at hex
      obtain ⟨rfl, rfl⟩ := of_guard hex
      rcases hw.fits with hoffered | hdeclining
      · exact offerOk_state hw hoffered hstate hstep
      · exact offerOk_declined hw hdeclining hstate hstep

theorem offerOk_go (hw : OfferOk w p) (hok : DeclinedInTime w (.go t e))
    (hstep : w.prog.step e = some prog) (hex : w.exchange t.now e = some w₁) :
    ∃ p', OfferOk (w₁.goesOn prog (w.stage.after e)) p' := by
  obtain ⟨o, v⟩ := e
  have hother : ∀ {w₂ : OfferWorld}, SameOffer w w₂ → some w₂ = some w₁ → o ≠ .inviteInternal →
      (∀ held, o ≠ .select (.chat held)) → p.after ⟨o, v⟩ = some p →
      ∃ p', OfferOk (w₁.goesOn prog (w.stage.after ⟨o, v⟩)) p' := by
    intro w₂ hsame hex hi hs hafter
    obtain rfl := Option.some.inj hex
    exact offerOk_other hw hstep hsame ⟨hi, hs⟩ hafter (.inl rfl)
  cases o with
  | select sel =>
    cases sel with
    | waitChat => exact offerOk_waitChat hw hstep hex
    | chat => exact offerOk_chatSelect hw hstep hex
    | _ => exact hother (sameOffer_refl w) hex nofun nofun rfl
  | read r =>
    cases r with
    | conv f =>
      obtain ⟨hagrees, rfl⟩ := of_guard hex
      exact offerOk_read hw t.now_pos hstep hagrees hok
    | _ => exact hother (sameOffer_refl w) hex nofun nofun rfl
  | inviteInternal =>
    obtain ⟨hr, rfl⟩ := of_guard hex
    exact offerOk_inviteInternal hw hstep hr
  | rpc c =>
    cases c with
    | newConversation => exact hother (sameOffer_stored w v) hex nofun nofun rfl
    | removeConversation => exact hother (sameOffer_stored w false) hex nofun nofun rfl
    | _ => exact hother (sameOffer_refl w) hex nofun nofun rfl
  | store c =>
    cases c with
    | setAttemptMissedAgent =>
      obtain rfl := Option.some.inj hex
      refine offerOk_other hw hstep (sameOffer_refl w) ⟨nofun, nofun⟩ rfl ?_
      by_cases hp : p = .received
      · exact .inr (.inl ⟨hp, if_pos hp⟩)
      · exact .inl (if_neg hp)
    | _ => exact hother (sameOffer_refl w) hex nofun nofun rfl
  | setState s =>
    cases s with
    | waitAgent =>
      obtain rfl := Option.some.inj hex
      refine offerOk_other hw hstep (sameOffer_refl w) ⟨nofun, nofun⟩ rfl ?_
      by_cases hp : p = .missed
      · exact .inr (.inr ⟨hp, if_pos hp⟩)
      · exact .inl (if_neg hp)
    | _ => exact hother (sameOffer_refl w) hex nofun nofun rfl
  | _ => exact hother (sameOffer_refl w) hex nofun nofun rfl

end World

theorem offerOk_step (w : OfferWorld) (l : OfferLabel) (w' : OfferWorld) (hw : ∃ p, OfferOk w p)
    (hok : DeclinedInTime w l) (h : offerStep w l = some w') : ∃ p, OfferOk w' p := by
  obtain ⟨p, hw⟩ := hw
  cases l with
  | chat l =>
    obtain ⟨hallow, h⟩ := Option.ite_none_right_eq_some.mp h
    obtain ⟨c, hc, rfl⟩ := Option.map_eq_some_iff.mp h
    exact offerOk_chat hw hok hallow hc
  | go t e =>
    obtain ⟨prog, hstep, h⟩ := Option.bind_eq_some_iff.mp h
    obtain ⟨w₁, hex, rfl⟩ := Option.map_eq_some_iff.mp h
    exact offerOk_go hw hok hstep hex

theorem offerOk_start (q : QueueConfig) (rounds : Nat) (inviterId : String) (now : Int) :
    OfferOk (offerStart q rounds inviterId now) .free where
  chat := ⟨List.not_mem_nil, fun _ h => absurd h List.not_mem_nil,
    fun _ h => absurd h List.not_mem_nil, trivial, trivial⟩
  inviting h := absurd rfl h
  stage := rfl
  fits := by
    refine ⟨fun i id hi hid => ?_, rfl⟩
    cases List.mem_singleton.mp (List.mem_of_getElem? hi)
    exact absurd rfl hid
  meets := meets_chatProcess q rounds

/-- **A declined chat** is handled as the decline of its agent, in every run whose sessions are
stopped in time: when the goroutine waits for an agent it has none; a `Declined` that it is about
to receive comes when it has an agent, and is about the session of this agent; and after it the
goroutine does nothing else, and does not return, before the agent is counted as missed and the
attempt waits again. -/
theorem decline_received_by_agent (q : QueueConfig) (rounds : Nat) (inviterId : String) (now : Int)
    (labels : List OfferLabel)
    (hok : Along offerStep DeclinedInTime (offerStart q rounds inviterId now) labels)
    {w : OfferWorld} (hrun : run offerStep (offerStart q rounds inviterId now) labels = some w) :
    (∀ held, w.prog.asking = some (.select (.waitChat held)) →
      held = false ∧ w.stage = .settled)
    ∧ (∀ held, w.prog.asking = some (.select (.chat held)) → held = true ∧ w.stage = .settled
      ∧ ∀ id, w.chat.conv.state.head? = some ⟨.declined, id⟩ →
        ∃ s, w.session = some s ∧ s.inviteId = id)
    ∧ (∀ o, w.prog.asking = some o → w.stage.asks o = true)
    ∧ (w.prog = .ret () → w.stage = .settled) := by
  obtain ⟨p, hw⟩ := run_invariant offerOk_step labels ⟨_, offerOk_start q rounds inviterId now⟩
    hok hrun
  have hstage := hw.stage
  refine ⟨fun held hasking => ?_, fun held hasking => ?_, fun o hasking => ?_, fun hreturned => ?_⟩
  · obtain ⟨rfl, rfl⟩ := hw.free hasking
    exact ⟨rfl, hstage⟩
  · obtain ⟨rfl, rfl⟩ := hw.offered hasking
    refine ⟨rfl, hstage, fun id hhead => ?_⟩
    obtain ⟨rest, hstate⟩ := List.head?_eq_some_iff.mp hhead
    rcases hw.fits with hoffered | hdeclining
    · -- nothing is on its way yet
      have hd := hoffered.none
      simp [ChatWorld.declines, hstate] at hd
    · obtain ⟨id', ts, hholds, -, -, hempty | ⟨rest', hrest⟩⟩ := hdeclining.stopped
      · cases hempty.symm.trans hstate
      · cases hrest.symm.trans hstate
        obtain ⟨s, hs, hid, -⟩ := hholds.session
        exact ⟨s, hs, hid⟩
  · rw [hstage]
    exact (Bool.and_eq_true_iff.mp (hw.safe hasking)).1
  · have hmeets := hw.meets
    rw [hreturned] at hmeets
    exact hstage.trans (of_decide_eq_true hmeets)

/-! ## Declines that come too early -/

instance (w : OfferWorld) (l : OfferLabel) : Decidable (DeclinedInTime w l) := by
  unfold DeclinedInTime
  split
  · split <;> infer_instance
  · infer_instance
  · infer_instance

def asked (o : Action) (v : o.Reply) : OfferLabel := .go tick ⟨o, v⟩

def inviteGoesOn (n : Nat) : List OfferLabel :=
  List.replicate n (.chat (.advance tick))

def eventsGoOn (n : Nat) : List OfferLabel :=
  List.replicate n (.chat (.handle tick))

def untilWaiting : List OfferLabel :=
  [asked (.store (.setFindAgentState false)) true, asked (.setState .waitAgent) (), asked .on (),
    asked (.rpc .newConversation) true, asked (.read (.conv .active)) true]

def invites (held : Bool) (id : String) : List OfferLabel :=
  [asked (.select (.waitChat held)) .agents, asked .getTeam true, .chat .invite] ++ inviteGoesOn 1
    ++ [.chat (.accept id)] ++ inviteGoesOn 3 ++ [asked .inviteInternal .ok,
      asked (.rpc .publish) true, asked (.read (.conv .active)) true,
      asked (.read (.conv .agentStopAt)) false]

def offers : List OfferLabel :=
  [asked (.select (.chat true)) (.state .invite), asked (.store .setAttemptOffering) false,
    asked (.read (.conv .active)) true, asked (.read (.conv .agentStopAt)) false]

def agentDeclines (id : String) : List OfferLabel := [.chat (.reply id .decline 5)] ++ eventsGoOn 5

def untilDeclined : List OfferLabel :=
  untilWaiting ++ invites false "a" ++ offers ++ agentDeclines "a"

def handlesDecline : List OfferLabel :=
  [asked (.select (.chat true)) (.state .declined), asked (.store .setAttemptMissedAgent) true,
    asked (.read (.attempt .maxNoAnswer)) false, asked (.setState .missed) (),
    asked (.rpc .publish) true, asked .clearAgent (), asked (.setState .waitAgent) (),
    asked (.read (.conv .active)) true]

theorem decline_received_by_agent_waiting :
    (∃ w, run offerStep (offerStart default 3 "m" 1) untilDeclined = some w
      ∧ w.chat.conv.state.head? = some ⟨.declined, "a"⟩
      ∧ ∃ s, w.session = some s ∧ s.inviteId = "a")
    ∧ ∃ w, run offerStep (offerStart default 3 "m" 1) (untilDeclined ++ handlesDecline) = some w
      ∧ w.prog.asking = some (.select (.waitChat false)) ∧ w.stage = .settled := by
  constructor
  · obtain ⟨w, hrun⟩ := Option.isSome_iff_exists.mp
      (rfl : (run offerStep (offerStart default 3 "m" 1) untilDeclined).isSome = true)
    have hend : (run offerStep (offerStart default 3 "m" 1) untilDeclined).map
          (fun w => (w.prog.asking, w.chat.conv.state.head?))
        = some (some (.select (.chat true)), some ⟨.declined, "a"⟩) := rfl
    rw [hrun, Option.map_some, Option.some.injEq, Prod.mk.injEq] at hend
    have htalks := (decline_received_by_agent default 3 "m" 1 _ (by decide) hrun).2.1 true hend.1
    exact ⟨w, hrun, hend.2, htalks.2.2 "a" hend.2⟩
  · obtain ⟨w, hrun⟩ := Option.isSome_iff_exists.mp (rfl : (run offerStep
      (offerStart default 3 "m" 1) (untilDeclined ++ handlesDecline)).isSome = true)
    have hend : (run offerStep (offerStart default 3 "m" 1) (untilDeclined ++ handlesDecline)).map
        (·.prog.asking) = some (some (.select (.waitChat false))) := rfl
    rw [hrun, Option.map_some, Option.some.injEq] at hend
    have hwaits := (decline_received_by_agent default 3 "m" 1 _ (by decide) hrun).1 false hend
    exact ⟨w, hrun, hend, hwaits.2⟩

/-- The agent declines while the goroutine is in the store call for the offer. -/
def declinesEarly : List OfferLabel :=
  [asked (.select (.chat true)) (.state .invite)] ++ agentDeclines "a"
    ++ [asked (.store .setAttemptOffering) false, asked (.read (.conv .active)) true,
      asked (.read (.conv .agentStopAt)) true, asked (.read (.conv .active)) true]

/-- The goroutine waits for an agent and still has the one who has declined; and the next one is
charged with the `Declined` that is left. -/
theorem decline_passed_on :
    (run offerStep (offerStart default 3 "m" 1)
        (untilWaiting ++ invites false "a" ++ declinesEarly)).map (·.prog.asking)
      = some (some (.select (.waitChat true)))
    ∧ (run offerStep (offerStart default 3 "m" 1)
        (untilWaiting ++ invites false "a" ++ declinesEarly ++ invites true "b")).map
        (fun w => (w.prog.asking, w.chat.conv.state.head?, w.session.map (·.inviteId)))
      = some (some (.select (.chat true)), some ⟨.declined, "a"⟩, some "b")
    ∧ (run offerStep (offerStart default 3 "m" 1)
        (untilWaiting ++ invites false "a" ++ declinesEarly ++ invites true "b"
          ++ [asked (.select (.chat true)) (.state .declined)])).map
        (fun w => (w.prog.asking, w.session.map (·.inviteId)))
      = some (some (.store .setAttemptMissedAgent), some "b") :=
  ⟨rfl, rfl, rfl⟩

end CallCenter.Queue
