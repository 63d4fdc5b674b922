import CallCenter.Queue.LegsProof
import CallCenter.Queue.PlainProof

/-!
# A transfer of the agent's call

The agent's call is hung up by a transfer, and the call it leads to is alive. The loops of the
queues learn of it from the state `CALL_STATE_HANGUP` in the channel, but go round only while
`HangupCause()` is empty, and that is set before the state is sent. So a transfer is taken over if
the goroutine is in the select when the hangup is recorded and receives the state next. When the new
call has taken the place of the old one, the goroutine is back in its loop.

The goroutine is followed by whether a transfer may be waiting: one begins to wait only at the
selects. In every run in which the hangups are heard its real calls are as it is known of them.
-/

namespace CallCenter.Queue

open Lib CallManager

inductive TransferKind where
  | inbound | joinAgent | predict | outbound

def TransferKind.run (k : TransferKind) (q : QueueConfig) (rounds : Nat) : Go Unit :=
  match k with
  | .inbound => InboundQueue.run q rounds
  | .joinAgent => JoinAgentCallQueue.run q rounds
  | .predict => PredictCallQueue.runOfferingAgents q rounds
  | .outbound => OutboundCallQueue.run q rounds

def listens : Action → Bool
  | .select .offer | .select .legs | .select .outbound => true
  | _ => false

def takesOver : Action → Bool
  | .read (.call .agent .transferTo) | .read (.call .agent .transferToAgentId)
  | .read (.call .agent .transferFromAttemptId) => true
  | .rpc (.getTransferredCall .agent) | .read (.call .transferred .hangupAt) => true
  -- `TransferFrom`
  | .rpc .getAgent | .store .transferredFrom | .read (.attempt .agentSet) | .rpc .publish => true
  | .setCall .agent => true
  | a => listens a

/-- What a goroutine asks for when it is back in the loop. -/
def continues : Action → Bool
  | .read (.call _ .hangupCause) => true
  | a => listens a

/-- What the exchange must be for a transfer to wait after it. -/
def favours : Exchange Action.Reply → Bool
  | ⟨.select .offer, s⟩ => decide (s = .agent .hangup)
  | ⟨.select .legs, s⟩ => decide (s = .agent .hangup)
  | ⟨.select .outbound, s⟩ => decide (s = .state .hangup)
  | ⟨.read (.call .agent .transferTo), v⟩ => v
  | ⟨.read (.call .agent .transferToAgentId), v⟩ => v
  | ⟨.read (.call .agent .transferFromAttemptId), v⟩ => v
  | ⟨.rpc (.getTransferredCall .agent), v⟩ => v
  | ⟨.read (.call .transferred .hangupAt), v⟩ => !v
  | ⟨.newAgentCall, _⟩ | ⟨.clearAgentCall, _⟩ | ⟨.setCall .agent, _⟩ => false
  | _ => true

/-! ## The goroutine -/

/-- What is known of a transfer. -/
structure TransferWait where
  /-- One may be waiting. -/
  waits : Bool
  stage : TransferStage
  /-- It has been waiting for so many exchanges at most. -/
  delay : Nat

/-- One may be waiting when the goroutine asks: it begins to wait at the selects. -/
def TransferWait.waitsAt (m : TransferWait) (o : Action) : Bool := m.waits || listens o

/-- A transfer that waits is taken over, and the goroutine goes on with a call that was. It also
waits when `GetTransferredCall` has brought the call it leads to. -/
def transferTracker : Tracker Action.Reply TransferWait where
  safe m o := (!m.waitsAt o || takesOver o && decide (o = .setCall .agent → m.stage = .called)
      && decide (m.delay ≤ 11))
    && (decide (m.stage ≠ .taken) || continues o)
  after m e := some {
    waits := (m.waitsAt e.1 || decide (e.1 = .rpc (.getTransferredCall .agent))) && favours e
    stage := stageAfter m.stage e
    delay := if m.waitsAt e.1 then m.delay + 1 else 0 }

/-- None waits, and the goroutine is not about to go on with a new call. -/
def TransferWait.Idle (m : TransferWait) : Prop := m.waits = false ∧ m.stage ≠ .taken

/-- The part neither begins nor ends with a transfer that waits. -/
abbrev Unmoved {α : Type} (p : Go α) : Prop :=
  Keeps transferTracker.contract TransferWait.Idle p

/-- An action that neither hears of a transfer nor takes it over. -/
def aside (o : Action) : Bool :=
  !listens o && decide (o ≠ .rpc (.getTransferredCall .agent)) && decide (o ≠ .setCall .agent)

theorem stageAfter_ne_taken {o : Action} (h : o ≠ .setCall .agent) {s : TransferStage}
    (hs : s ≠ .taken) (v : o.Reply) : stageAfter s ⟨o, v⟩ ≠ .taken := by
  unfold stageAfter
  split <;> grind

theorem unmoved_part {α : Type} {p : Go α} (h : p.Only fun o => aside o = true) : Unmoved p := by
  have hwaits : ∀ {m : TransferWait} {o : Action}, aside o = true → m.Idle →
      m.waitsAt o = false := by
    intro m o ho hm
    have hlisten := (Bool.and_eq_true_iff.mp (Bool.and_eq_true_iff.mp ho).1).1
    rw [Bool.not_eq_true'] at hlisten
    rw [TransferWait.waitsAt, hm.1, hlisten, Bool.false_or]
  refine fun _ hm => Meets.of_only h (fun m o ho hm => ?_) (fun m o r m' ho hm hnext => ?_) hm
  · simp [Tracker.contract, transferTracker, hwaits ho hm, hm.2]
  · obtain rfl := Option.some.inj hnext
    obtain ⟨ho', hset⟩ := Bool.and_eq_true_iff.mp ho
    have hfind := of_decide_eq_true (Bool.and_eq_true_iff.mp ho').2
    refine ⟨?_, stageAfter_ne_taken (of_decide_eq_true hset) hm.2 r⟩
    simp [hwaits ho hm, hfind]

theorem unmoved_act {o : Action} (haside : aside o = true) : Unmoved (act o) :=
  unmoved_part (.request haside)

theorem unmoved_aloof {α : Type} {p : Go α} (h : Aloof p) : Unmoved p := by
  refine unmoved_part (h.imp fun o ho => ?_)
  cases o with
  | select s => cases ho
  | rpc c => cases c <;> first | rfl | (rename_i l; cases l <;> first | rfl | cases ho)
  | setCall l => cases ho
  | _ => rfl

/-! ## The loops -/

/-- After a round: it may go on with a new call, but leaves the loop with none. -/
def transferRound {α : Type} (r : Unit ⊕ α) (m : TransferWait) : Bool :=
  !m.waits && (r.isLeft || decide (m.stage ≠ .taken))

/-- The head of a round reads the cause of a hangup, so it does not matter how long a transfer that
is over was waiting. -/
theorem unmoved_loop {α : Type} {round : Unit → Go (Unit ⊕ α)}
    (hhead : (round ()).asking = some (.read (.call .agent .hangupCause)))
    (h : ∀ stage, (round ()).tracks transferTracker transferRound ⟨false, stage, 0⟩ = true)
    (n : Nat) : Unmoved (Prog.loop round n ()) := by
  refine fun _ hm => meets_loop (fun _ m => m.waits = false) (fun _ m hm => ?_) n hm.1
  obtain ⟨waits, stage, delay⟩ := m
  obtain rfl : waits = false := hm
  refine Meets.imp (m := ⟨false, stage, delay⟩)
    ((Meets.track (h stage)).of_head hhead Iff.rfl fun _ _ => Iff.rfl) fun r m' hr => ?_
  obtain ⟨hwaits, hstage⟩ := Bool.and_eq_true_iff.mp hr
  rw [Bool.not_eq_true'] at hwaits
  cases r with
  | inl _ => exact hwaits
  | inr a => exact ⟨hwaits, of_decide_eq_true hstage⟩

theorem unmoved_inboundOffer (n : Nat) : Unmoved (Prog.loop InboundQueue.offerRound n ()) :=
  unmoved_loop rfl (fun stage => by cases stage <;> decide +kernel) n

theorem unmoved_joinLoop (n : Nat) : Unmoved (Prog.loop JoinAgentCallQueue.round n ()) :=
  unmoved_loop rfl (fun stage => by cases stage <;> decide +kernel) n

theorem unmoved_predictOffer (n : Nat) : Unmoved (Prog.loop PredictCallQueue.offerRound n ()) :=
  unmoved_loop rfl (fun stage => by cases stage <;> decide +kernel) n

theorem unmoved_outboundLoop (n : Nat) : Unmoved (Prog.loop OutboundCallQueue.round n ()) :=
  unmoved_loop rfl (fun stage => by cases stage <;> decide +kernel) n

/-! ## The goroutines -/

theorem unmoved_inboundWaitRound (rounds : Nat) (l : CallLocals) :
    Unmoved (InboundQueue.waitRound rounds l) := by
  refine .bind (unmoved_part (.walk rfl)) fun signal => ?_
  cases signal with
  | timeout | contextDone | cancel => exact .pure _
  | member s =>
    cases s with
    | hangup =>
      refine .bind (unmoved_part (only_andThen (.pure _) (.walk rfl))) fun _ => ?_
      exact .ite (unmoved_part (.walk rfl)) (.pure _)
    | _ => exact .pure _
  | agents =>
    refine .bind (unmoved_part (.walk rfl)) fun _ => .ite (.bind (unmoved_part (.walk rfl)) fun _ =>
      .ite (.pure _) ?_) (.pure _)
    refine .bind (unmoved_part (.walk rfl)) fun _ => .bind (unmoved_part (.walk rfl)) fun _ =>
      .bind (unmoved_part (.walk rfl)) fun _ => .bind (unmoved_inboundOffer _) fun _ =>
        ?_
    exact .ite (.pure _) (unmoved_part (.walk rfl))

theorem unmoved_inbound (q : QueueConfig) (rounds : Nat) : Unmoved (InboundQueue.run q rounds) := by
  have hwait : Unmoved (InboundQueue.wait rounds) :=
    .bind (unmoved_act rfl) fun _ =>
      .ite (.pure _) (.loop (unmoved_inboundWaitRound rounds) _ _)
  refine .bind (unmoved_act rfl) fun _ => .bind (unmoved_act rfl) fun _ =>
    .ite (.bind (unmoved_act rfl) fun _ => .bind (unmoved_act rfl) fun _ =>
      .bind hwait fun ended => ?_) (.pure _)
  cases ended with
  | none => exact .pure _
  | some l => exact .bind (unmoved_aloof (aloof_inboundFinish q l)) fun _ => unmoved_act rfl

theorem unmoved_joinAgent (q : QueueConfig) (rounds : Nat) :
    Unmoved (JoinAgentCallQueue.run q rounds) := by
  refine .bind (unmoved_act rfl) fun _ => .bind (unmoved_act rfl) fun _ =>
    .ite (.bind (unmoved_act rfl) fun lost => .bind (unmoved_act rfl) fun _ =>
      .bind (unmoved_act rfl) fun _ => .bind (unmoved_act rfl) fun _ => ?_) (.pure _)
  have hoffer : Unmoved (JoinAgentCallQueue.offer rounds lost) :=
    .ite (.pure _) (unmoved_joinLoop _)
  refine .bind hoffer fun _ => .ite (.pure _) ?_
  exact .bind (unmoved_aloof (aloof_joinFinish q)) fun _ => unmoved_act rfl

theorem unmoved_predictWaitRound (rounds : Nat) (l : CallLocals) :
    Unmoved (PredictCallQueue.waitRound rounds l) := by
  refine .bind (unmoved_act rfl) fun signal => ?_
  cases signal with
  | timeout | contextDone | cancel => exact unmoved_part (.walk rfl)
  | member s => cases s <;> exact .pure _
  | agents =>
    refine .bind (unmoved_act rfl) fun _ => .ite (.bind (unmoved_act rfl) fun _ =>
      .ite (.pure _) ?_) (.pure _)
    refine .bind (unmoved_act rfl) fun _ => .bind (unmoved_act rfl) fun _ =>
      .bind (unmoved_act rfl) fun _ => .bind (unmoved_predictOffer _) fun _ => ?_
    exact unmoved_part (.walk rfl)

theorem unmoved_predict (q : QueueConfig) (rounds : Nat) :
    Unmoved (PredictCallQueue.runOfferingAgents q rounds) := by
  have hrest : Unmoved (PredictCallQueue.waitAndFinish q rounds) := by
    have hwait : Unmoved (PredictCallQueue.wait rounds) :=
      .bind (unmoved_act rfl) fun _ =>
        .ite (.pure _) (.loop (unmoved_predictWaitRound rounds) _ _)
    refine .bind hwait fun ended => ?_
    cases ended with
    | none => exact .pure _
    | some l => exact .bind (unmoved_aloof (aloof_predictFinish q l)) fun _ => unmoved_act rfl
  refine .bind (unmoved_act rfl) fun _ => .bind (unmoved_act rfl) fun _ =>
    .bind (unmoved_act rfl) fun r => ?_
  cases r with
  | failed => exact .pure _
  | released => exact hrest
  | kept => exact hrest

theorem unmoved_outbound (q : QueueConfig) (rounds : Nat) :
    Unmoved (OutboundCallQueue.run q rounds) := by
  have hloop : Unmoved (OutboundCallQueue.talking rounds) :=
    .bind (unmoved_act rfl) fun _ => .ite (.pure _) (unmoved_outboundLoop _)
  have hcalling : Unmoved (OutboundCallQueue.calling q rounds) := by
    refine .bind (unmoved_part (.walk rfl)) fun _ =>
      .bind (unmoved_part (.walk rfl)) fun _ =>
        .bind (unmoved_part (only_orElse (.walk rfl) (.pure _))) fun _ => ?_
    exact .ite (.bind (unmoved_part (.walk rfl)) fun _ => hloop) hloop
  exact .bind hcalling fun _ => .bind (unmoved_aloof (aloof_outboundFinish q)) fun _ =>
    unmoved_act rfl

/-- A goroutine asks for nothing but the take-over while a transfer may be waiting. -/
theorem unmoved_run (k : TransferKind) (q : QueueConfig) (rounds : Nat) :
    Unmoved (k.run q rounds) := by
  cases k with
  | inbound => exact unmoved_inbound q rounds
  | joinAgent => exact unmoved_joinAgent q rounds
  | predict => exact unmoved_predict q rounds
  | outbound => exact unmoved_outbound q rounds

/-! ## The calls -/

def hangsUpByTransfer (c : CallManager.World) : CallManager.Label → Bool
  | .advance i _ =>
    match c.threads[i]? with
    | some (.handle (.hangup e)) => decide (c.call.hangupAt = 0) && e.transferTo.isSome
        && e.transferToAgent.isSome && e.transferFromAttempt.isSome
    | _ => false
  | _ => false

/-- The hangups are heard: one that carries a transfer is recorded while the goroutine waits
in the select of its loop, whose next signal is that hangup; the call it leads to can be had by
then, and has not been hung up by a transfer itself when it takes the place of the old one. -/
def TransferHeard (w : LegsWorld) : LegsLabel → Prop
  | .agent l => ∀ a ∈ w.agent, hangsUpByTransfer a.call l = true →
      ∃ o ∈ w.prog.asking, listens o = true
  | .target l => ∀ w' ∈ legsStep w (.target l), w'.TransferWaits → w.TransferWaits
  | .joinable b => ∀ w' ∈ legsStep w (.joinable b), w'.TransferWaits → w.TransferWaits
  | .go e _ _ _ => (w.TransferWaits → listens e.1 = true → favours e = true)
      ∧ (e.1 = .setCall .agent → ¬ carriesTransfer w.target.call)
  | .member _ | .past _ _ => True

theorem carriesTransfer_same {c c' : CallImpl} (h : SameHangup c c') :
    carriesTransfer c' ↔ carriesTransfer c := by
  unfold carriesTransfer
  rw [h.transferTo, h.transferToAgentId, h.transferFromAttemptId]

theorem carriesTransfer_step {c c' : CallManager.World} {l : CallManager.Label}
    (h : step c l = some c') (hcarries : carriesTransfer c'.call) :
    carriesTransfer c.call ∨ hangsUpByTransfer c l = true := by
  rcases step_cases h with hout | ⟨i, r, pc, m, rfl, hpc, hm, rfl⟩
  · exact .inl ((carriesTransfer_same (step_kept_of_outside hout)).mp hcarries)
  · have hcarries : carriesTransfer m.call := hcarries
    rcases move_hangup hm with ⟨hat, -, e, rfl, hcall⟩ | ⟨hsame, -⟩
    · rw [hcall] at hcarries
      obtain ⟨h₁, h₂, h₃⟩ := hcarries
      have h₁ : e.transferTo.isSome = true := h₁
      have h₂ : e.transferToAgent.isSome = true := h₂
      have h₃ : e.transferFromAttempt.isSome = true := h₃
      exact .inr (by simp [hangsUpByTransfer, hpc, hat, h₁, h₂, h₃])
    · exact .inl ((carriesTransfer_same hsame).mp hcarries)

/-! ## The goroutine among its calls -/

theorem select_of_signal {e : Exchange Action.Reply} {s : CallState}
    (h : agentSignal e = some s ∨ memberSignal e = some s) : ∃ sel, e.1 = .select sel := by
  obtain ⟨a, v⟩ := e
  cases a with
  | select sel => exact ⟨sel, rfl⟩
  | _ => rcases h with h | h <;> cases h

/-- The exchanges after which a transfer may be waiting that was not. -/
def renews : Action → Bool
  | .rpc (.getTransferredCall .agent) | .setCall .agent | .newAgentCall | .clearAgentCall => true
  | _ => false

section Exchange

variable {w w' : LegsWorld} {e : Exchange Action.Reply}

theorem stageAfter_cases (s : TransferStage) (h : renews e.1 = false) :
    stageAfter s e = s ∨ stageAfter s e = .lost ∨ (s = .found ∧ stageAfter s e = .called)
      ∨ (s = .taken ∧ stageAfter s e = .open) := by
  unfold stageAfter
  split <;> grind [renews]

theorem reachable_after (h : renews e.1 = false) (hr : w.ReachableAt (stageAfter w.stage e)) :
    w.Reachable := by
  rcases stageAfter_cases w.stage h with hs | hs | ⟨hs, hs'⟩ | ⟨hs, hs'⟩
  · rwa [hs] at hr
  · rw [hs] at hr
    exact hr.elim
  · rw [hs'] at hr
    rwa [LegsWorld.Reachable, hs]
  · rw [hs'] at hr
    rwa [LegsWorld.Reachable, hs]

/-- The reply to a read is what a transfer that waits after it wants. -/
theorem favours_read {l : CallLeg} {f : CallField} {v : Bool} {c : CallManager.World}
    (hcarries : ∃ a ∈ w.agent, carriesTransfer a.call.call)
    (hreach : w.ReachableAt (stageAfter w.stage ⟨.read (.call l f), v⟩)) (hc : w.leg l = some c)
    (hagrees : agrees c.call f v) : favours ⟨.read (.call l f), v⟩ = true := by
  obtain ⟨a, ha, hto, hagent, hattempt⟩ := hcarries
  cases l with
  | member => rfl
  | agent =>
    have hleg : w.leg .agent = some a.call := by
      show w.agent.map (·.call) = _
      rw [Option.mem_def.mp ha]
      rfl
    obtain rfl := Option.some.inj (hleg.symm.trans hc)
    cases f with
    | transferTo => exact (hagrees _ rfl).trans hto
    | transferToAgentId => exact (hagrees _ rfl).trans hagent
    | transferFromAttemptId => exact (hagrees _ rfl).trans hattempt
    | _ => rfl
  | transferred =>
    cases f with
    | hangupAt =>
      -- a call that is found dead is lost
      cases v with
      | true => exact hreach.elim
      | false => rfl
    | _ => rfl

theorem reachableAt_congr (htarget : w'.target = w.target) (hjoinable : w'.joinable = w.joinable)
    (s : TransferStage) : w'.ReachableAt s ↔ w.ReachableAt s := by
  cases s <;> simp only [LegsWorld.ReachableAt, LegsWorld.Joins, htarget, hjoinable]

theorem carries_of_sameHangup {a : AgentLeg} {c : CallManager.World}
    {invited requested bridged : Bool} (ha : w.agent = some a)
    (hsame : SameHangup a.call.call c.call)
    (h : ∃ b ∈ some (⟨c, invited, requested, bridged⟩ : AgentLeg), carriesTransfer b.call.call) :
    ∃ b ∈ w.agent, carriesTransfer b.call.call := by
  obtain ⟨b, hb, hcarries⟩ := h
  cases hb
  exact ⟨a, ha, (carriesTransfer_same hsame).mp hcarries⟩

/-- Apart from the reads, only the selects of the loops have a reply that matters. -/
theorem favours_of_heard (hnew : renews e.1 = false) (hread : ∀ l f, e.1 ≠ .read (.call l f))
    (hheard : listens e.1 = true → favours e = true) : favours e = true := by
  obtain ⟨o, v⟩ := e
  cases o with
  | read d =>
    cases d with
    | call l f => exact absurd rfl (hread l f)
    | _ => rfl
  | select sel =>
    cases hlisten : listens (.select sel) with
    | true => exact hheard hlisten
    | false => cases sel <;> first | rfl | cases hlisten
  | rpc c =>
    cases c with
    | getTransferredCall l => cases l <;> first | rfl | cases hnew
    | _ => rfl
  | newAgentCall => cases hnew
  | clearAgentCall => cases hnew
  | setCall l => cases l <;> first | rfl | cases hnew
  | _ => rfl

theorem callFree_cases (he : callFree e = true) :
    renews e.1 = false ∧ ∀ l f, e.1 ≠ .read (.call l f) := by
  obtain ⟨o, v⟩ := e
  cases o with
  | read d =>
    cases d with
    | call l f => cases he
    | _ => exact ⟨rfl, nofun⟩
  | rpc c =>
    cases c with
    | getTransferredCall l => cases l <;> first | exact ⟨rfl, nofun⟩ | cases he
    | _ => exact ⟨rfl, nofun⟩
  | newAgentCall => cases he
  | clearAgentCall => cases he
  | setCall l => cases l <;> first | exact ⟨rfl, nofun⟩ | cases he
  | _ => exact ⟨rfl, nofun⟩

theorem signal_cases {s : CallState}
    (hsignal : agentSignal e = some s ∨ memberSignal e = some s) :
    renews e.1 = false ∧ ∀ l f, e.1 ≠ .read (.call l f) := by
  obtain ⟨sel, hsel⟩ := select_of_signal hsignal
  rw [hsel]
  exact ⟨rfl, nofun⟩

/-- **An exchange.** A transfer that waits after it was waiting before, or
`GetTransferredCall` has found its call; and the reply is one that favours it. -/
theorem waits_exchange (h : Exchanged w e w')
    (hheard : w.TransferWaits → listens e.1 = true → favours e = true)
    (hset : e.1 = .setCall .agent → ¬ carriesTransfer w.target.call)
    (hcarries : ∃ a ∈ w'.agent, carriesTransfer a.call.call)
    (hreach : w'.ReachableAt (stageAfter w.stage e)) :
    (w.TransferWaits ∨ e.1 = .rpc (.getTransferredCall .agent)) ∧ favours e = true := by
  -- the exchange leaves the new call alone, and the transfer was waiting
  have hwaited : (∃ a ∈ w.agent, carriesTransfer a.call.call) → w'.target = w.target →
      w'.joinable = w.joinable → renews e.1 = false → w.TransferWaits :=
    fun hcarries htarget hjoinable hnew =>
      ⟨hcarries, reachable_after hnew ((reachableAt_congr htarget hjoinable _).mp hreach)⟩
  have hplain : (renews e.1 = false ∧ ∀ l f, e.1 ≠ .read (.call l f)) →
      (∃ a ∈ w.agent, carriesTransfer a.call.call) → w'.target = w.target →
      w'.joinable = w.joinable →
      (w.TransferWaits ∨ e.1 = .rpc (.getTransferredCall .agent)) ∧ favours e = true := by
    intro hfree hcarries htarget hjoinable
    have hw := hwaited hcarries htarget hjoinable hfree.1
    exact ⟨.inl hw, favours_of_heard hfree.1 hfree.2 (hheard hw)⟩
  cases h with
  | read l f v c hc hagrees =>
    exact ⟨.inl (hwaited hcarries rfl rfl rfl), favours_read hcarries hreach hc hagrees⟩
  | takeAgent e s a c he ha hs hc =>
    have hsame : SameHangup a.call.call c.call := by
      rw [receive_call hc]
      exact ⟨rfl, rfl, rfl, rfl, rfl, rfl⟩
    exact hplain (signal_cases (.inl he)) (carries_of_sameHangup ha hsame hcarries) rfl rfl
  | takeMember e s c he hs hc =>
    exact hplain (signal_cases (.inr he)) hcarries rfl rfl
  | inviteAgent v a r c ha hc =>
    have hsame : SameHangup a.call.call c.call := by
      rw [inviteCall_spec hc]
      exact ⟨rfl, rfl, rfl, rfl, rfl, rfl⟩
    exact ⟨.inl (hwaited (carries_of_sameHangup ha hsame hcarries) rfl rfl rfl), rfl⟩
  | hangupAgent v a c ha hc =>
    have hsame : SameHangup a.call.call c.call := by
      rw [hangup_call hc]
      exact SameHangup.refl _
    exact ⟨.inl (hwaited (carries_of_sameHangup ha hsame hcarries) rfl rfl rfl), rfl⟩
  | bridge a now ha hcause =>
    obtain ⟨b, hb, hcarries⟩ := hcarries
    cases hb
    exact ⟨.inl (hwaited ⟨a, ha, hcarries⟩ rfl rfl rfl), rfl⟩
  | found hlive => exact ⟨.inr rfl, rfl⟩
  | connected hlive o labels c hc => exact ⟨.inr rfl, rfl⟩
  | notFound hlive hjoins => exact hreach.elim
  | newAgentCall v timeout =>
    -- a call that has just been made names no transfer
    obtain ⟨b, hb, hcarries⟩ := hcarries
    cases hb
    exact absurd hcarries.1 Bool.false_ne_true
  | clearAgentCall v =>
    obtain ⟨b, hb, -⟩ := hcarries
    exact (Option.not_mem_none b hb).elim
  | setAgent v o labels c hc =>
    obtain ⟨b, hb, hcarries⟩ := hcarries
    cases hb
    exact absurd hcarries (hset rfl)
  | other e he =>
    exact hplain (callFree_cases he) hcarries rfl rfl
  | _ => exact ⟨.inl (hwaited hcarries rfl rfl rfl), rfl⟩

end Exchange

/-- What is known of the transfer is so. -/
structure TransferWait.Covers (m : TransferWait) (w : LegsWorld) : Prop where
  waits : w.TransferWaits → m.waits = true ∨ ∃ o ∈ w.prog.asking, listens o = true
  stage : w.stage = m.stage
  delay : w.delay ≤ m.delay

theorem TransferWait.Covers.waitsAt {m : TransferWait} {w : LegsWorld} (hm : m.Covers w)
    (hw : w.TransferWaits) {o : Action} (ho : w.prog.asking = some o) : m.waitsAt o = true := by
  rcases hm.waits hw with h | ⟨o', ho', h⟩
  · rw [TransferWait.waitsAt, h, Bool.true_or]
  · obtain rfl := Option.some.inj (ho.symm.trans ho')
    rw [TransferWait.waitsAt, h, Bool.or_true]

structure TransferSound (w : LegsWorld) : Prop where
  calls : CallsSound w
  meets : ∃ m : TransferWait, m.Covers w ∧
    Meets transferTracker.contract w.prog m fun _ m' => m'.Idle

/-- The others move: a transfer begins to wait only where the goroutine listens. -/
theorem transferSound_beside {w w' : LegsWorld} (hw : TransferSound w) (hcalls : CallsSound w')
    (hprog : w'.prog = w.prog) (hstage : w'.stage = w.stage) (hdelay : w'.delay = w.delay)
    (hwaits : w'.TransferWaits → w.TransferWaits ∨ ∃ o ∈ w.prog.asking, listens o = true) :
    TransferSound w' := by
  obtain ⟨m, hm, hmeets⟩ := hw.meets
  refine ⟨hcalls, m, ⟨fun h => ?_, hstage.trans hm.stage, hdelay ▸ hm.delay⟩, hprog ▸ hmeets⟩
  rw [hprog]
  exact (hwaits h).elim hm.waits .inr

theorem transferSound_step (w : LegsWorld) (l : LegsLabel) (w' : LegsWorld) (hw : TransferSound w)
    (hheard : TransferHeard w l) (h : legsStep w l = some w') : TransferSound w' := by
  have hmoved := legsStep_cases h
  have hcalls := callsSound_step hw.calls hmoved
  cases hmoved with
  | member l c hc => exact transferSound_beside hw hcalls rfl rfl rfl .inl
  | past i l a a' ha hs => exact transferSound_beside hw hcalls rfl rfl rfl .inl
  | target l c hc =>
    exact transferSound_beside hw hcalls rfl rfl rfl fun hwaits => .inl (hheard _ h hwaits)
  | joinable b =>
    exact transferSound_beside hw hcalls rfl rfl rfl fun hwaits => .inl (hheard _ h hwaits)
  | agent l a a' ha hs =>
    refine transferSound_beside hw hcalls rfl rfl rfl fun hwaits => ?_
    obtain ⟨⟨b, hb, hcarries⟩, hreach⟩ := hwaits
    cases hb
    obtain ⟨c, hc, rfl⟩ := agentLeg_step_cases hs
    rcases carriesTransfer_step hc hcarries with hcarries | hhangup
    · exact .inl ⟨⟨a, ha, hcarries⟩, hreach⟩
    · exact .inr (hheard a ha hhangup)
  | go e r o labels p w₁ hp he =>
    obtain ⟨m, hm, hmeets⟩ := hw.meets
    obtain ⟨k, hk, -⟩ := Prog.step_eq_some hp
    have hasks : w.prog.asking = some e.1 := by rw [hk]; rfl
    refine ⟨hcalls, _, ⟨fun h => .inl ?_, congrArg (stageAfter · e) hm.stage, ?_⟩,
      (hmeets.step hp).2 _ rfl⟩
    · obtain ⟨hcarries, hreach⟩ := h
      obtain ⟨hbefore, hfavours⟩ := waits_exchange he hheard.1 hheard.2 hcarries
        ((reachableAt_congr rfl rfl _).mp hreach)
      rcases hbefore with hbefore | hfound
      · simp only [hm.waitsAt hbefore hasks, hfavours, Bool.true_or, Bool.and_self]
      · simp only [hfound, hfavours, decide_true, Bool.or_true, Bool.and_self]
    · show (if w.TransferWaits then w.delay + 1 else 0) ≤ if m.waitsAt e.1 then m.delay + 1 else 0
      by_cases hwaits : w.TransferWaits
      · rw [if_pos hwaits, if_pos (hm.waitsAt hwaits hasks)]
        exact Nat.succ_le_succ hm.delay
      · rw [if_neg hwaits]
        exact Nat.zero_le _

/-- The agent's call goes on naming the transfer at a step of the take-over, until the new call is
the agent's. -/
theorem carries_until {w w' : LegsWorld} {l : LegsLabel} (hw : CallsSound w)
    (hcarries : ∃ a ∈ w.agent, carriesTransfer a.call.call) (h : LegsMoved w l w')
    (htake : ∀ o ∈ w.prog.asking, takesOver o = true) :
    (∃ a ∈ w'.agent, carriesTransfer a.call.call)
      ∨ w'.stage = .taken ∧ ∃ a ∈ w'.agent, a.call = w.target := by
  obtain ⟨a, ha, hcarries⟩ := hcarries
  cases h with
  | agent l b b' hb hs =>
    obtain rfl := Option.some.inj (hb.symm.trans ha)
    obtain ⟨c, hc, rfl⟩ := agentLeg_step_cases hs
    have hat : b.call.call.hangupAt ≠ 0 := by
      intro hzero
      have hnone := ((hw.agent b hb).consistent.blank hzero).2.1
      rw [carriesTransfer, hnone] at hcarries
      exact absurd hcarries.1 Bool.false_ne_true
    exact .inl ⟨_, rfl, (carriesTransfer_same (step_kept hc hat)).mpr hcarries⟩
  | go e r o labels p w₁ hp he =>
    obtain ⟨k, hk, -⟩ := Prog.step_eq_some hp
    have hasked : takesOver e.1 = true := htake e.1 (by rw [hk]; rfl)
    cases he with
    | takeAgent e s b c he hb hs hc =>
      obtain rfl := Option.some.inj (hb.symm.trans ha)
      have hsame : SameHangup b.call.call c.call := by
        rw [receive_call hc]
        exact ⟨rfl, rfl, rfl, rfl, rfl, rfl⟩
      exact .inl ⟨_, rfl, (carriesTransfer_same hsame).mpr hcarries⟩
    | setAgent v o labels c hc => exact .inr ⟨rfl, _, rfl, rfl⟩
    | inviteAgent => cases hasked
    | hangupAgent => cases hasked
    | bridge => cases hasked
    | newAgentCall => cases hasked
    | clearAgentCall => cases hasked
    | _ => exact .inl ⟨a, ha, hcarries⟩
  | _ => exact .inl ⟨a, ha, hcarries⟩

instance (w : LegsWorld) (l : LegsLabel) : Decidable (TransferHeard w l) :=
  match l with
  | .agent l => inferInstanceAs (Decidable (∀ a ∈ w.agent, hangsUpByTransfer a.call l = true →
      ∃ o ∈ w.prog.asking, listens o = true))
  | .target l => inferInstanceAs (Decidable
      (∀ w' ∈ legsStep w (.target l), w'.TransferWaits → w.TransferWaits))
  | .joinable b => inferInstanceAs (Decidable
      (∀ w' ∈ legsStep w (.joinable b), w'.TransferWaits → w.TransferWaits))
  | .go e _ _ _ => inferInstanceAs (Decidable
      ((w.TransferWaits → listens e.1 = true → favours e = true)
        ∧ (e.1 = .setCall .agent → ¬ carriesTransfer w.target.call)))
  | .member _ => .isTrue trivial
  | .past _ _ => .isTrue trivial

/-- The call that a transfer leads to is not in the cache. -/
def outboundCall : LegsWorld :=
  legsStart (TransferKind.run .outbound default 2) (CallManager.start (.newCall 0))
    (some (CallManager.start (.joined true 1 1))) (CallManager.start (.newCall 0))

/-- The agent's call is hung up by a transfer to another agent, up to the locked section; the
handler of the event is thread `i`. -/
def transferredAway (i : Nat) : List LegsLabel :=
  [.agent (.event (.hangup ⟨9, "ATTENDED_TRANSFER", none, none, some "new", none, some 2, some 1,
      none⟩)),
    .agent (.advance i (answer true)), .agent (.advance i (answer true))]

def intoTheLoop : List LegsLabel :=
  [.joinable true, exchanged (.rpc .publish) true, exchanged (.store .setAttemptOffering) false,
    exchanged (.read (.call .agent .bridgeAt)) false,
    exchanged (.read (.call .agent .hangupAt)) false,
    exchanged (.read (.call .agent .hangupCause)) false]

def takenUp : List LegsLabel :=
  [.agent (.advance 0 (answer true)), .agent (.advance 0 (answer true)),
    exchanged (.select .outbound) (.state .hangup),
    exchanged (.read (.call .agent .transferTo)) true,
    exchanged (.read (.call .agent .transferToAgentId)) true,
    exchanged (.read (.call .agent .transferFromAttemptId)) true,
    -- `ConnectCall` brings the new call
    .go ⟨.rpc (.getTransferredCall .agent), true⟩ (answer true) (.joined true 1 1) [],
    exchanged (.read (.call .transferred .hangupAt)) false,
    exchanged (.rpc .getAgent) true, exchanged (.store .transferredFrom) true,
    exchanged (.read (.attempt .agentSet)) true, exchanged (.rpc .publish) true,
    exchanged (.rpc .publish) true]

def heardTransfer : List LegsLabel := intoTheLoop ++ transferredAway 0 ++ takenUp

/-- The call is bridged, and the goroutine stores that; meanwhile the call is hung up by the
transfer. -/
def hungUpMeanwhile : List LegsLabel :=
  [.agent (.event (.bridge 5 "member"))] ++ List.replicate 4 (.agent (.advance 0 (answer true)))
    ++ [exchanged (.select .outbound) (.state .bridge),
      exchanged (.read (.attempt .stateBridged)) false]
    ++ transferredAway 1 ++ [exchanged (.store .setAttemptBridged) true]

def finishedForOldAgent : List LegsLabel :=
  [exchanged (.setState .bridged) (), exchanged (.rpc .publish) true,
    exchanged (.read (.call .agent .hangupCause)) true,
    exchanged (.read (.call .agent .answered)) true,
    exchanged (.read (.call .agent .reportingAt)) false,
    exchanged (.read (.call .agent .transferred)) true,
    exchanged (.read (.attempt .draft)) false, exchanged .afterDistributeSchema none,
    exchanged (.store .setAttemptResult) true, exchanged (.rpc .publish) true,
    exchanged .leavingMember (), exchanged .off ()]

end CallCenter.Queue
