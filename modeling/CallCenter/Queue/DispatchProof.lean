import CallCenter.Queue.Dispatch
import CallCenter.Queue.PlainProof

/-!
# No reserved agent is lost while the goroutine is ready

A reservation that is made while the goroutine is ready for an agent, with the state in memory set
and the channel subscribed, reaches the goroutine.

What is followed through the goroutine is whether an agent may be on the way. While one may, the
goroutine must not change its state in memory, unsubscribe or leave the cache (`steady`), and a
store call that takes the attempt away ends it (`StoreCall.undoes`). Some replies break this and are
excluded while an agent is on the way (`calm`), such as a store call that fails, or a report of an
earlier agent, after which the goroutine does not take the attempt out of the store.
-/

namespace CallCenter.Queue

open Lib Store Prog

/-! ## What is known of the agent -/

/-- Leaves the state in memory, the subscription and the cache as the agent on the way needs
them. -/
def Action.steady : Action → Bool
  | .setState s => decide (s = .waitAgent)
  | .off | .leavingMember => false
  | _ => true

def dispatchTracker : Tracker Action.Reply Bool where
  safe m o := !m || o.steady
  after m e := some (readyAfter m e)

abbrev DispatchMeets {α : Type} (p : Go α) (m : Bool) (Q : α → Bool → Prop) : Prop :=
  Meets dispatchTracker.contract p m Q

/-! ## Rules for parts of goroutines -/

section Rules

variable {α β : Type} {p : Go α} {f : α → Go β} {m : Bool} {Q : β → Bool → Prop}

/-- No agent can be on the way before the goroutine is ready. -/
abbrev NeverReady (p : Go α) : Prop := p.Only fun o => o.begins = false

theorem meets_away (h : NeverReady p) : DispatchMeets p false fun _ m => m = false := by
  refine Meets.kept (h.imp fun o ho => ⟨rfl, fun r => congrArg some ?_⟩)
  simp only [readyAfter, ho, Bool.or_false, Bool.false_and]

theorem away_bind (hp : NeverReady p) (hf : ∀ a, DispatchMeets (f a) false Q) :
    DispatchMeets (p >>= f) false Q := by
  refine Meets.seq (meets_away hp) fun a m' hm => ?_
  subst hm
  exact hf a

/-- The part makes no difference to an agent on the way. -/
def Steady (p : Go α) : Prop := ∀ m, DispatchMeets p m fun _ m' => m' = m

theorem Steady.track
    (h : ([true, false].all fun m => p.tracks dispatchTracker (fun _ m' => m' == m) m) = true) :
    Steady p := fun m =>
  (Meets.track (List.all_eq_true.mp h m (by cases m <;> decide))).imp fun _ _ hm => beq_iff_eq.mp hm

theorem Steady.bind (hp : Steady p) (hf : ∀ a, DispatchMeets (f a) m Q) :
    DispatchMeets (p >>= f) m Q := by
  refine Meets.seq (hp m) fun a m' hm => ?_
  subst hm
  exact hf a

theorem meets_ite {c : Prop} [Decidable c] {q : Go α} {Q : α → Bool → Prop}
    (hp : DispatchMeets p m Q) (hq : DispatchMeets q m Q) :
    DispatchMeets (if c then p else q) m Q := by
  split
  · exact hp
  · exact hq

/-- After the part no agent is on the way. -/
def Clears (p : Go α) : Prop := ∀ m, DispatchMeets p m fun _ m' => m' = false

theorem Clears.track
    (h : ([true, false].all (p.tracks dispatchTracker fun _ m' => !m')) = true) : Clears p :=
  fun m => (Meets.track (List.all_eq_true.mp h m (by cases m <;> decide))).imp fun _ _ hm =>
    (Bool.not_eq_true' _).mp hm

theorem Clears.after (hp : Steady p) (hf : ∀ a, Clears (f a)) : Clears (p >>= f) :=
  fun m => hp.bind fun a => hf a m

theorem Clears.then (hp : Clears p) (hf : ∀ a, NeverReady (f a)) : Clears (p >>= f) := by
  refine fun m => Meets.seq (hp m) fun a m' hm => ?_
  subst hm
  exact meets_away (hf a)

theorem Clears.ite {c : Prop} [Decidable c] {q : Go α} (hp : Clears p) (hq : Clears q) :
    Clears (if c then p else q) :=
  fun m => meets_ite (hp m) (hq m)

theorem tracked_any (h : (p.tracks dispatchTracker (fun _ _ => true) m) = true) :
    DispatchMeets p m fun _ _ => True :=
  (Meets.track h).imp fun _ _ _ => trivial

/-- The select that waits for an agent. With any other reply than an agent, one may be on the
way. -/
theorem meets_select {s : Select} (hs : s.waits = true) {f : s.Signal → Go β}
    (hagents : ∀ signal, receives s signal = true → DispatchMeets (f signal) false Q)
    (hother : ∀ signal, receives s signal = false → DispatchMeets (f signal) true Q) :
    DispatchMeets (act (.select s) >>= f) m Q := by
  have hsafe : (!m || Action.steady (.select s)) = true := Bool.or_true _
  refine Meets.ask hsafe fun signal m' hm => ?_
  have hm : readyAfter m ⟨.select s, signal⟩ = m' := Option.some.inj hm
  have hbegins : Action.begins (.select s) = true := hs
  simp only [readyAfter, hbegins, Bool.true_or, calm, takesAgent, Action.undoes] at hm
  subst hm
  cases hr : receives s signal with
  | true => exact hagents signal hr
  | false => exact hother signal hr

end Rules

/-! ## What the queues share -/

/-- A mark of a report that is read while an agent is on the way is not set. -/
def Reported (marked m : Bool) : Prop := m = true → marked = false

theorem reported_of_not {marked m : Bool} (h : (!(marked && m)) = true) : Reported marked m := by
  rintro rfl
  exact (Bool.and_true _).symm.trans ((Bool.not_eq_true' _).mp h)

theorem clears_schema_or {p : Go Unit} (hp : Clears p) : Clears (do
    if ← sendAfterDistributeSchema then pure () else p) := by
  intro m
  refine Meets.seq (R := fun ended m' => (!(ended && m')) = true) ?_ fun ended m' hm => ?_
  · cases m <;> exact .track rfl
  · cases ended with
    | true => exact (Bool.not_eq_true' _).mp hm
    | false => exact hp m'

variable (q : QueueConfig)

/-- **Reporting undoes a reservation**, unless the report has been sent already. -/
theorem meets_reporting {agentSendReporting : Bool} (transfer : Bool) {m : Bool}
    (hreported : Reported agentSendReporting m) :
    DispatchMeets (reporting q agentSendReporting transfer) m fun _ m' => m' = false := by
  have hcallback : Steady (andThen (pure q.waitChannelClose) (readAttempt .callback)) := by
    cases q.waitChannelClose <;> exact .track rfl
  have htransfer : Steady (orElse (pure (!q.processing || transfer && processingTransfer))
      (readAttempt .processTransfer)) := by
    cases transfer <;> cases q.processing <;> exact .track rfl
  have hrest : Clears (wrapOrProcess q transfer) :=
    -- With an agent on the way there is no reply: a deadline would keep the attempt.
    .after htransfer fun _ => .ite (.track rfl) (.track rfl)
  refine hcallback.bind fun _ => meets_ite (Clears.track rfl m) ?_
  refine Steady.bind (.track rfl) fun useDraft => ?_
  cases m with
  | true =>
    rw [hreported rfl]
    exact hrest true
  | false => exact meets_ite rfl (hrest false)

/-- The end of a goroutine after its loop: the ending takes the attempt out of the store
before the channel is given up. -/
theorem meets_finishWith {σ : Type} {p : Go (Option σ)} {finish : σ → Go Unit} {rest : Go Unit}
    {m : Bool} {R : σ → Bool → Prop}
    (hp : DispatchMeets p m fun ended m' => ∀ l, ended = some l → R l m')
    (hfinish : ∀ l m', R l m' → DispatchMeets (finish l) m' fun _ m'' => m'' = false)
    (hrest : NeverReady rest) :
    DispatchMeets (do
      let ended ← p
      finishWith ended fun l => do
        finish l
        rest) m fun _ _ => True := by
  refine Meets.seq hp fun ended m' hended => ?_
  cases ended with
  | none => exact trivial
  | some l =>
    refine Meets.seq (hfinish l m' (hended l rfl)) fun _ m'' hm => ?_
    subst hm
    exact (meets_away hrest).imp fun _ _ _ => trivial

/-! ## Calls

At the head of the loop there is no call of an agent: one that was not bridged is dropped
before the next round, and one that was ends the loop. -/

def callRound (r : CallLocals ⊕ Option CallLocals) (m : Bool) : Bool :=
  match r with
  | .inl l => !l.agentCall
  | .inr none => true
  | .inr (some l) => !(m && l.agentCall)

variable {l : CallLocals} (rounds : Nat)

theorem meets_inboundWaitRound (hl : l.agentCall = false) (m : Bool) :
    DispatchMeets (InboundQueue.waitRound rounds l) m fun r m' => callRound r m' = true := by
  obtain ⟨agent, agentCall⟩ := l
  obtain rfl : agentCall = false := hl
  refine meets_select rfl (fun signal hsignal => ?_) fun signal hsignal => ?_
  · -- An agent is received: until the goroutine is ready again none is on the way.
    cases signal with
    | agents =>
      refine away_bind (.walk rfl) fun _ => meets_ite ?_ rfl
      refine away_bind (.walk rfl) fun _ => meets_ite rfl ?_
      refine away_bind (.walk rfl) fun _ => away_bind (.walk rfl) fun _ =>
        away_bind (.walk rfl) fun _ => away_bind (.loop (fun _ => .walk rfl) _ _) fun _ =>
          meets_ite rfl (.track rfl)
    | _ => exact absurd hsignal Bool.false_ne_true
  · -- One may be on the way. There is no call of an agent, so no agent is released here.
    cases signal with
    | agents => exact absurd hsignal Bool.false_ne_true.symm
    | member s => cases s <;> exact rfl
    | _ => exact rfl

theorem meets_reportOr {rest : Go Unit} (hrest : Clears rest) {m : Bool}
    (hl : (!(m && l.agentCall)) = true) :
    DispatchMeets (do
      if ← andThen (pure l.agentCall) (readCall .agent .bridgeAt) then reportCall q
      else rest) m fun _ m' => m' = false := by
  cases m with
  | true =>
    have hnone : l.agentCall = false := (Bool.not_eq_true' _).mp hl
    rw [hnone]
    exact hrest true
  | false =>
    refine away_bind (only_andThen (.pure _) (.walk rfl)) fun _ => meets_ite ?_ (hrest false)
    exact away_bind (.walk rfl) fun _ => away_bind (.walk rfl) fun _ => meets_reporting q _ nofun

theorem meets_callWait {round : CallLocals → Go (CallLocals ⊕ Option CallLocals)}
    (hround : ∀ l m, l.agentCall = false →
      DispatchMeets (round l) m fun r m' => callRound r m' = true) (m : Bool) :
    DispatchMeets (do
      if ← readCall .member .hangupAt then pure (some ⟨false, false⟩)
      else Prog.loop round rounds ⟨false, false⟩) m
      fun ended m' => ∀ l, ended = some l → (!(m' && l.agentCall)) = true := by
  refine Steady.bind (.track rfl) fun _ => meets_ite ?_ ?_
  · rintro l ⟨⟩
    exact congrArg _ (Bool.and_false m)
  · refine meets_loop (fun l _ => l.agentCall = false) (fun l m hl => ?_) rounds rfl
    refine (hround l m hl).imp fun a m' ha => ?_
    cases a with
    | inl l' => exact (Bool.not_eq_true' _).mp ha
    | inr ended =>
      rintro l ⟨⟩
      exact ha

theorem meets_inbound :
    DispatchMeets (InboundQueue.run q rounds) false fun _ _ => True := by
  refine away_bind (.walk rfl) fun _ => away_bind (.walk rfl) fun _ => meets_ite ?_ trivial
  refine Meets.ask rfl fun _ m₁ hm₁ => ?_
  cases hm₁
  refine Meets.ask rfl fun _ m₂ hm₂ => ?_
  cases hm₂
  exact meets_finishWith
    (meets_callWait rounds (fun _ m hl => meets_inboundWaitRound rounds hl m) _)
    (fun _ _ hl => meets_reportOr q (clears_schema_or (.track rfl)) hl) (.walk rfl)

theorem meets_predictWaitRound (hl : l.agentCall = false) (m : Bool) :
    DispatchMeets (PredictCallQueue.waitRound rounds l) m fun r m' => callRound r m' = true := by
  obtain ⟨agent, agentCall⟩ := l
  obtain rfl : agentCall = false := hl
  refine meets_select rfl (fun signal hsignal => ?_) fun signal hsignal => ?_
  · cases signal with
    | agents =>
      refine away_bind (.walk rfl) fun _ => meets_ite ?_ rfl
      refine away_bind (.walk rfl) fun _ => meets_ite rfl ?_
      refine away_bind (.walk rfl) fun _ => away_bind (.walk rfl) fun _ =>
        away_bind (.walk rfl) fun _ => away_bind (.loop (fun _ => .walk rfl) _ _) fun _ => ?_
      exact away_bind (.walk rfl) fun _ => .track rfl
    | _ => exact absurd hsignal Bool.false_ne_true
  · cases signal with
    | agents => exact absurd hsignal Bool.false_ne_true.symm
    | member s => cases s <;> exact rfl
    | _ => exact .track rfl

theorem meets_runOfferingAgents :
    DispatchMeets (PredictCallQueue.runOfferingAgents q rounds) false fun _ _ => True := by
  have hend : Clears (if q.retryAbandoned then abandonedWithParams else abandoned) :=
    .ite (.track rfl) (.track rfl)
  have hfinish : Clears (PredictCallQueue.lose q) :=
    fun m => Meets.seq (R := fun _ _ => true = true) (by cases m <;> exact .track rfl)
      fun _ m' _ => clears_schema_or hend m'
  have hoff : NeverReady (act .off) := .walk rfl
  refine Meets.ask rfl fun _ m₁ hm₁ => ?_
  cases hm₁
  refine Meets.ask rfl fun _ m₂ hm₂ => ?_
  cases hm₂
  refine Meets.ask rfl fun reply m₃ _ => ?_
  have hwait := meets_finishWith
    (meets_callWait rounds (fun _ m hl => meets_predictWaitRound rounds hl m) m₃)
    (fun _ _ hl => meets_reportOr q hfinish hl) hoff
  cases reply with
  | failed => exact trivial
  | released | kept => exact hwait

theorem neverReady_lastRound (s : PredictCallQueue.Retry) :
    NeverReady (PredictCallQueue.lastRound s) := by
  refine .bind (.walk rfl) fun res => ?_
  cases res with
  | none => exact .walk rfl
  | some res =>
    refine .ite (.walk rfl) (.ite (.bind (.walk rfl) fun reply => ?_) (.walk rfl))
    cases reply with
    | flipped allowCall => exact .walk rfl
    | _ => exact .ite (.walk rfl) (.walk rfl)

theorem neverReady_doDistributeSchema : NeverReady (doDistributeSchema q) := by
  unfold doDistributeSchema
  cases q.doSchema <;> exact .walk rfl

theorem meets_predictive :
    DispatchMeets (PredictCallQueue.runPark q rounds) false fun _ _ => True := by
  have hgiveUp : DispatchMeets (do
      abandonedWithParams
      leave () : Go (PredictCallQueue.Retry ⊕ Unit)) false (Sum.elim (fun _ m => m = false)
        fun _ _ => True) :=
    away_bind (.walk rfl) fun _ => trivial
  refine away_bind (neverReady_doDistributeSchema q) fun _ => meets_ite ?_ ?_
  · -- Until the call is answered no agent is waited for, and after that it is not tried again.
    refine meets_loop (fun _ m => m = false) (fun s m hm => ?_) rounds rfl
    subst hm
    refine away_bind (.walk rfl) fun _ => meets_ite ?_ hgiveUp
    refine away_bind (.walk rfl) fun _ => meets_ite ?_ hgiveUp
    refine away_bind (.walk rfl) fun _ => away_bind (.loop (fun _ => .walk rfl) _ _) fun _ =>
      meets_ite ?_ ?_
    · exact Meets.seq (meets_runOfferingAgents q rounds) fun _ _ _ => trivial
    · refine away_bind (.loop neverReady_lastRound _ _) fun ended => ?_
      cases ended with
      | none => exact trivial
      | some s => exact rfl
  · exact (meets_away (.walk rfl)).imp fun _ _ _ => trivial

/-! ## Chats -/

/-- An agent may be on the way after the round only if the goroutine is ready again. -/
theorem meets_agentRound (l : InboundChatQueue.Locals) :
    DispatchMeets (InboundChatQueue.agentRound q l) false fun r m' =>
      (r.isRight || !m') = true := by
  refine away_bind (.walk rfl) fun _ => meets_ite (away_bind (.walk rfl) fun signal => ?_) rfl
  cases signal with
  | timeout =>
    have hidle : NeverReady (InboundChatQueue.checkIdle q) := only_checkIdle q (by decide) rfl
    exact away_bind (.walk rfl) fun _ => meets_ite (away_bind hidle fun _ => rfl) rfl
  | state s => cases s <;> exact .track rfl
  | _ => exact rfl

theorem meets_chatWaitRound (l : InboundChatQueue.Locals) (m : Bool) :
    DispatchMeets (InboundChatQueue.waitRound q rounds l) m fun _ _ => True := by
  have hactive : ∀ (l : InboundChatQueue.Locals) (m : Bool),
      DispatchMeets (InboundChatQueue.whileActive l) m fun _ _ => True :=
    fun _ _ => Steady.bind (.track rfl) fun _ => meets_ite trivial trivial
  refine meets_select rfl (fun signal hsignal => ?_) fun signal hsignal => ?_
  · cases signal with
    | agents =>
      refine away_bind (.walk rfl) fun _ => meets_ite ?_ trivial
      refine away_bind (.walk rfl) fun reply => ?_
      cases reply with
      | special => exact away_bind (.walk rfl) fun _ => trivial
      | failed => exact tracked_any rfl
      | ok =>
        refine away_bind (.walk rfl) fun _ => Meets.seq (R := fun _ _ => True) ?_ fun _ _ _ =>
          hactive _ _
        refine meets_loop (fun _ m => m = false) (fun l m hm => ?_) rounds rfl
        subst hm
        refine (meets_agentRound q l).imp fun r m' hr => ?_
        cases r with
        | inl _ => exact (Bool.not_eq_true' _).mp hr
        | inr _ => exact trivial
    | _ => exact absurd hsignal Bool.false_ne_true
  · cases signal with
    | agents => exact absurd hsignal Bool.false_ne_true.symm
    | cancel | contextDone => exact hactive _ _
    | timeout => exact Steady.bind (.track rfl) fun _ => hactive _ _

theorem clears_chatFinish (l : InboundChatQueue.Locals) :
    Clears (InboundChatQueue.finish q l) := by
  have hclose : Steady (InboundChatQueue.closeSession l) := by
    unfold InboundChatQueue.closeSession
    cases l.aSess <;> exact .track rfl
  have hbridged : ∀ transferred, Steady (andThen (readConv .bridgedAt)
      (pure (!(transferred && q.transferAbandoned)))) := by
    intro transferred
    cases transferred <;> cases q.transferAbandoned <;> exact .track rfl
  refine .ite ?_ (.track rfl)
  refine .after hclose fun _ => .after (.track rfl) fun _ => .after (hbridged _) fun _ =>
    .ite (fun m => ?_) (.track rfl)
  -- The locals may be those of an agent who has left while the chat went on.
  refine Meets.seq (R := fun marked m' => (!(marked && m')) = true) ?_ fun marked m' hm => ?_
  · cases m <;> exact .track rfl
  · exact Steady.bind (.track rfl) fun _ => meets_reporting q _ (reported_of_not hm)

theorem meets_chat :
    DispatchMeets (InboundChatQueue.process q rounds) false fun _ _ => True := by
  have hwait : ∀ m, DispatchMeets (InboundChatQueue.wait q rounds) m
      fun ended m => ∀ l, ended = some l → True := by
    intro m
    refine Steady.bind (.track rfl) fun _ => meets_ite ?_ fun _ _ => trivial
    refine meets_loop (fun _ _ => True) (fun l m _ => ?_) rounds trivial
    refine (meets_chatWaitRound q rounds l m).imp fun a _ _ => ?_
    cases a with
    | inl l' => exact trivial
    | inr ended => exact fun _ _ => trivial
  refine away_bind (.walk rfl) fun ok => ?_
  cases ok with
  | false => exact away_bind (.walk rfl) nofun
  | true =>
    refine Meets.ask rfl fun _ m₁ hm₁ => ?_
    cases hm₁
    refine Meets.ask rfl fun _ m₂ hm₂ => ?_
    cases hm₂
    refine Meets.ask rfl fun ok m₃ hm₃ => ?_
    cases hm₃
    cases ok with
    | true => exact meets_finishWith (hwait _) (fun l m' _ => clears_chatFinish q l m') (.walk rfl)
    | false => exact tracked_any rfl

/-! ## IM threads -/

theorem meets_imMissed : DispatchMeets (InboundIMQueue.missAgent q) false fun wait m' =>
    (wait || !m') = true := by
  unfold InboundIMQueue.missAgent
  cases q.transferAgent <;> exact .track rfl

/-- An agent may be on the way after the interaction only if the attempt waits again. -/
def mayCome (r : Unit ⊕ Bool) (m : Bool) : Bool :=
  match r with
  | .inl _ => !m
  | .inr wait => wait || !m

theorem meets_imRound (s : Unit) :
    DispatchMeets (InboundIMQueue.interactionRound q s) false fun r m' =>
      mayCome r m' = true := by
  have hmiss : DispatchMeets (InboundIMQueue.giveUpAgent q) false fun r m' =>
      mayCome r m' = true :=
    away_bind (.walk rfl) fun _ => Meets.seq (meets_imMissed q) fun _ _ hm => hm
  refine away_bind (.walk rfl) fun signal => ?_
  cases signal with
  | timeout =>
    have hidle : NeverReady (InboundIMQueue.checkIdleTimeouts q) :=
      only_checkIdleTimeouts q (by decide)
    exact away_bind hidle fun _ => meets_ite rfl rfl
  | task s =>
    cases s with
    | idle => exact rfl
    | closed => exact away_bind (.walk rfl) fun _ => meets_ite hmiss rfl
    | bridged =>
      have hjoin : NeverReady (InboundIMQueue.joinAgent q) := .ite (.walk rfl) (.walk rfl)
      exact away_bind hjoin fun _ => meets_ite (.track rfl) hmiss
  | _ => exact .track rfl

theorem clears_endAttempt (l : InboundIMQueue.Locals) :
    Clears (InboundIMQueue.endAttempt q l) := by
  have hdeclined : ∀ m, DispatchMeets (andThen (pure l.task)
      (andThen (readTask .declined) (negate (readTask .reportingAt)))) m
      fun _ _ => true = true := by
    intro m
    cases m <;> cases l.task <;> exact .track rfl
  have hmark : ∀ m, DispatchMeets (andThen (pure l.task) (readTask .reportingAt)) m fun marked m' =>
      (!(marked && m')) = true := by
    intro m
    cases m <;> cases l.task <;> exact .track rfl
  refine .ite (fun m => ?_) (.track rfl)
  refine Meets.seq (hdeclined m) fun _ m₁ _ => meets_ite (Clears.track rfl m₁) ?_
  exact Meets.seq (hmark m₁) fun _ m₂ hm₂ => Steady.bind (.track rfl) fun _ =>
    meets_reporting q _ (reported_of_not hm₂)

theorem clears_finalizeAttempt (l : InboundIMQueue.Locals) :
    Clears (InboundIMQueue.finalizeAttempt q l) := by
  refine .after (.track rfl) fun _ => (clears_endAttempt q l).then fun _ => ?_
  cases l.agent <;> exact .walk rfl

theorem meets_imWaitRound (l : InboundIMQueue.Locals) (m : Bool) :
    DispatchMeets (InboundIMQueue.waitRound q rounds l) m fun _ _ => True := by
  have hfinalize : ∀ l m, DispatchMeets (InboundIMQueue.finalize q l) m fun _ _ => True :=
    fun l m => Meets.seq (clears_finalizeAttempt q l m) fun _ _ _ => trivial
  have hloop : DispatchMeets (Prog.loop (InboundIMQueue.interactionRound q) rounds ()) false
      fun _ _ => True := by
    refine meets_loop (fun _ m => m = false) (fun s m hm => ?_) rounds rfl
    subst hm
    refine (meets_imRound q s).imp fun r m' hr => ?_
    cases r with
    | inl _ => exact (Bool.not_eq_true' _).mp hr
    | inr _ => exact trivial
  refine meets_select rfl (fun signal hsignal => ?_) fun signal hsignal => ?_
  · cases signal with
    | agents =>
      refine away_bind (.walk rfl) fun _ => meets_ite ?_ trivial
      refine away_bind (.walk rfl) fun _ => meets_ite (tracked_any rfl) ?_
      have htaken : DispatchMeets (InboundIMQueue.interact q rounds) false fun _ _ => True :=
        away_bind (.walk rfl) fun _ => away_bind (.walk rfl) fun _ =>
          Meets.seq hloop fun _ _ _ => meets_ite trivial
            (Steady.bind (.track rfl) fun _ => hfinalize _ _)
      have hpreview : NeverReady (InboundIMQueue.givePreview q) := .ite (.walk rfl) (.pure _)
      refine away_bind hpreview fun reply => ?_
      cases reply with
      | failed =>
        exact Meets.seq (meets_imMissed q) fun _ _ _ => meets_ite trivial (hfinalize _ _)
      | ok | special => exact htaken
    | _ => exact absurd hsignal Bool.false_ne_true
  · cases signal with
    | agents => exact absurd hsignal Bool.false_ne_true.symm
    | timeout =>
      have hidle : Steady (InboundIMQueue.checkIdleTimeouts q) := by
        unfold InboundIMQueue.checkIdleTimeouts
        cases decide (0 < q.maxIdleAgent) <;> cases decide (0 < q.maxIdleClient) <;>
          cases decide (0 < q.maxIdleDialog) <;> exact .track rfl
      exact hidle.bind fun _ => meets_ite trivial (hfinalize _ _)
    | _ => exact hfinalize _ _

theorem meets_im :
    DispatchMeets (InboundIMQueue.run q rounds) false fun _ _ => True := by
  have hwait : DispatchMeets (InboundIMQueue.waitAgents q rounds) false fun _ _ => True := by
    refine Meets.ask rfl fun _ m₁ hm₁ => ?_
    cases hm₁
    refine Meets.ask rfl fun _ m₂ hm₂ => ?_
    cases hm₂
    refine Meets.seq (R := fun _ _ => true = true) ?_ fun _ m₃ _ => ?_
    · unfold InboundIMQueue.distributeTransfer
      cases q.transferAgent <;> exact .track rfl
    · refine meets_loop (fun _ _ => True) (fun l m _ => ?_) rounds trivial
      refine (meets_imWaitRound q rounds l m).imp fun a _ _ => ?_
      cases a <;> exact trivial
  exact meets_ite hwait (away_bind (.walk rfl) fun _ => meets_ite hwait trivial)

/-- **Every goroutine that waits for an agent keeps still while one may be on the way.** -/
theorem meets_wait (k : WaitKind) (q : QueueConfig) (rounds : Nat) :
    DispatchMeets (k.run q rounds) false fun _ _ => True := by
  cases k with
  | inbound => exact meets_inbound q rounds
  | predictive => exact meets_predictive q rounds
  | chat => exact meets_chat q rounds
  | im => exact meets_im q rounds

/-! ## The system -/

/-- The goroutine waits for an agent: it stands in its select or is ready, and the state in memory,
the subscription and the cache are as `DistributeAgent` needs them. -/
structure Waiting (w : DispatchWorld) : Prop where
  ready : w.goroutine.asking.any Action.waits = true ∨ w.ready = true
  memory : w.memory = .waitAgent
  subscribed : w.subscribed = true
  tracked : w.tracked = true
  channel : w.channel = []

/-- The condition. The attempt is reserved only while its goroutine waits, the dispatcher
finds the agent and the queue, and while a reserved agent is on the way no store call fails
and no report of an earlier agent comes in. -/
def DispatchOk (w : DispatchWorld) : DispatchLabel → Prop
  | .poll => Waiting w
  | .getAgent ok => ok = true
  | .getQueue ok => ok = true
  | .go e _ => w.undelivered.isSome = true → calm e = true
  | .assign _ | .distributeAgent => True

/-- The dispatcher brings an agent, and will be able to emit them. -/
structure OnTheWay (w : DispatchWorld) (g : Int) : Prop where
  memory : w.memory = .waitAgent
  subscribed : w.subscribed = true
  tracked : w.tracked = true
  channel : w.channel = []
  dispatcher : w.dispatcher.holds g

/-- What is known of an agent on the way is so. -/
structure Expects (m : Bool) (w : DispatchWorld) : Prop where
  ready : w.ready = true → m = true
  reserved : w.undelivered.isSome = true → m = true
  onTheWay : ∀ g, w.undelivered = some g → OnTheWay w g

/-- The invariant: the goroutine keeps still for the agent on the way. -/
def DispatchSafe (w : DispatchWorld) : Prop :=
  ∃ m, Expects m w ∧ DispatchMeets w.goroutine m fun _ _ => True

variable {w : DispatchWorld}

theorem DispatchSafe.noLostAgent (h : DispatchSafe w) : NoLostAgent w := by
  obtain ⟨m, hm, -⟩ := h
  exact fun g hg => (hm.onTheWay g hg).dispatcher

/-- In the select the goroutine is ready for an agent: what follows if none is on the way follows
if one is. -/
theorem meets_true_of_select {α : Type} {p : Go α} {m : Bool} {Q : α → Bool → Prop}
    (hselect : p.asking.any Action.waits = true) (h : DispatchMeets p m Q) :
    DispatchMeets p true Q := by
  obtain ⟨o, ho, hwaits⟩ : ∃ o, p.asking = some o ∧ o.waits = true := by
    cases ho : p.asking with
    | none => rw [ho] at hselect; cases hselect
    | some o => exact ⟨o, rfl, by rwa [ho] at hselect⟩
  cases o with
  | select s =>
    have hbegins : Action.begins (.select s) = true := hwaits
    have hsafe : (!m || Action.steady (.select s)) = true := Bool.or_true _
    refine h.of_head ho (iff_of_true rfl hsafe) fun r m' => ?_
    simp only [Tracker.contract, dispatchTracker, readyAfter, hbegins, Bool.true_or]
  | _ => cases hwaits

theorem reserves_effect {c : StoreCall} (h : c.undoes = true) (agentId : Int) (s : Stored)
    (g : Int) : (c.effect agentId s).reserves g = false := by
  cases c <;> grind [StoreCall.undoes, StoreCall.effect, Stored.reserves, Stored.left]

variable {agentId : Int}

theorem undelivered_of_distributeAgent {g : Int}
    (h : (w.distributeAgent agentId).undelivered = some g) : w.undelivered = some g := by
  grind [DispatchWorld.distributeAgent, Option.filter_eq_some_iff]

variable {w' : DispatchWorld}

theorem exchange_select {s : Select} {signal : s.Signal}
    (h : w.exchange agentId ⟨.select s, signal⟩ = some w') :
    (receives s signal = false ∧ w' = w) ∨ (∃ g rest, receives s signal = true
      ∧ w.channel = g :: rest ∧ w' = { w with channel := rest }) := by
  simp only [DispatchWorld.exchange] at h
  split at h
  · rename_i hreceives
    split at h
    · cases h
    · rename_i g rest hchannel
      cases h
      exact .inr ⟨g, rest, hreceives, hchannel, rfl⟩
  · rename_i hreceives
    cases h
    exact .inl ⟨Bool.eq_false_iff.mpr hreceives, rfl⟩

variable {e : Exchange Action.Reply}

theorem undelivered_of_exchange {g : Int} (h : w.exchange agentId e = some w')
    (hg : w'.undelivered = some g) :
    w.undelivered = some g ∧ (calm e = true → e.1.undoes = false) := by
  obtain ⟨a, r⟩ := e
  have hstored : ∀ stored, (w.setStored stored).undelivered = some g →
      w.undelivered = some g ∧ stored.reserves g = true :=
    fun stored h => Option.filter_eq_some_iff.mp h
  cases a with
  | store c =>
    obtain rfl : (if r then w.setStored (c.effect agentId w.stored) else w) = w' :=
      Option.some.inj h
    cases r with
    | false =>
      -- No failed store call is calm.
      refine ⟨hg, fun hcalm => ?_⟩
      cases c <;> exact absurd hcalm Bool.false_ne_true
    | true =>
      obtain ⟨hold, hreserves⟩ := hstored _ hg
      refine ⟨hold, fun _ => Bool.eq_false_iff.mpr fun hundoes => ?_⟩
      rw [reserves_effect hundoes] at hreserves
      exact Bool.false_ne_true hreserves
  | answerPredictAndFindAgent =>
    cases r with
    | failed =>
      obtain rfl : w = w' := Option.some.inj h
      exact ⟨hg, fun _ => rfl⟩
    | released =>
      cases h
      exact ⟨(hstored _ hg).1, fun _ => rfl⟩
    | kept =>
      cases h
      exact ⟨(hstored _ hg).1, fun _ => rfl⟩
  | distributeAgent =>
    refine ⟨?_, fun _ => rfl⟩
    simp only [DispatchWorld.exchange, Option.some.injEq] at h
    rw [← h] at hg
    split at hg
    · exact undelivered_of_distributeAgent hg
    · exact hg
  | select s =>
    obtain ⟨-, rfl⟩ | ⟨_, _, -, -, rfl⟩ := exchange_select h
    · exact ⟨hg, fun _ => rfl⟩
    · exact ⟨hg, fun _ => rfl⟩
  | _ =>
    cases h
    exact ⟨hg, fun _ => rfl⟩

theorem takesAgent_of_channel_nil (h : w.exchange agentId e = some w') (hnil : w.channel = []) :
    takesAgent e = false := by
  obtain ⟨a, r⟩ := e
  cases a with
  | select s =>
    obtain ⟨hreceives, -⟩ | ⟨_, _, -, hchannel, -⟩ := exchange_select h
    · exact hreceives
    · exact absurd (hnil.symm.trans hchannel) nofun
  | _ => rfl

theorem OnTheWay.exchange {g : Int} (hw : OnTheWay w g) (h : w.exchange agentId e = some w')
    (hsteady : e.1.steady = true) (hcalm : calm e = true) : OnTheWay w' g := by
  have htakes := takesAgent_of_channel_nil h hw.channel
  obtain ⟨a, r⟩ := e
  cases a with
  | setState s =>
    cases h
    exact { hw with memory := of_decide_eq_true hsteady }
  | on =>
    cases h
    exact { hw with subscribed := rfl }
  -- The goroutine does nothing else that would lose the agent.
  | off | leavingMember => exact absurd hsteady Bool.false_ne_true
  | distributeAgent => exact absurd hcalm Bool.false_ne_true
  | answerPredictAndFindAgent =>
    cases h
    cases r with
    | failed => exact hw
    | released | kept => exact { hw with }
  | store c =>
    cases h
    cases r with
    | false => exact hw
    | true => exact { hw with }
  | select s =>
    obtain ⟨-, rfl⟩ | ⟨_, _, hreceives, -, -⟩ := exchange_select h
    · exact hw
    · exact absurd (htakes.symm.trans hreceives) Bool.false_ne_true
  | _ =>
    cases h
    exact { hw with }

theorem readyAfter_of_ready {m : Bool} (h : w.ready = true → m = true)
    (hready : readyAfter w.ready e = true) : readyAfter m e = true := by
  unfold readyAfter at hready ⊢
  cases hw : w.ready with
  | true =>
    rw [h hw]
    rwa [hw] at hready
  | false =>
    rw [hw, Bool.or_false] at hready
    cases hbegins : e.1.begins with
    | true => rwa [hbegins] at hready
    | false =>
      rw [hbegins] at hready
      cases hready

/-- **A step of the goroutine.** -/
theorem dispatchSafe_go (h : DispatchSafe w) (hok : w.undelivered.isSome = true → calm e = true)
    (hstep : dispatchStep w (.go e agentId) = some w') : DispatchSafe w' := by
  obtain ⟨m, hm, hmeets⟩ := h
  obtain ⟨goroutine, hgo, hexchange⟩ := Option.bind_eq_some_iff.mp hstep
  obtain ⟨w₁, hw₁, rfl⟩ := Option.map_eq_some_iff.mp hexchange
  obtain ⟨hsafe, hgoes⟩ := hmeets.step hgo
  refine ⟨readyAfter m e, ⟨readyAfter_of_ready hm.ready, fun hsome => ?_, fun g hg => ?_⟩,
    hgoes _ rfl⟩
  -- The agent who is on the way afterwards was so before, and the goroutine has kept still.
  · obtain ⟨g, hg⟩ := Option.isSome_iff_exists.mp hsome
    obtain ⟨hold, hundoes⟩ := undelivered_of_exchange hw₁ hg
    have hbefore : w.undelivered.isSome = true := by rw [hold]; rfl
    have htakes := takesAgent_of_channel_nil hw₁ (hm.onTheWay g hold).channel
    have hcalm := hok hbefore
    simp only [readyAfter, hm.reserved hbefore, hcalm, htakes, hundoes hcalm, Bool.or_true,
      Bool.not_false, Bool.and_true]
  · obtain ⟨hold, -⟩ := undelivered_of_exchange hw₁ hg
    have hbefore : w.undelivered.isSome = true := by rw [hold]; rfl
    have hsteady : e.1.steady = true := by
      have hsafe : (!m || e.1.steady) = true := hsafe
      rwa [hm.reserved hbefore] at hsafe
    exact { (hm.onTheWay g hold).exchange hw₁ hsteady (hok hbefore) with }

theorem dispatchSafe_dispatcher {d : Dispatcher} (h : DispatchSafe w)
    (hd : ∀ g, OnTheWay w g → d.holds g) : DispatchSafe { w with dispatcher := d } := by
  obtain ⟨m, hm, hmeets⟩ := h
  exact ⟨m, ⟨hm.ready, hm.reserved, fun g hg =>
    { hm.onTheWay g hg with dispatcher := hd g (hm.onTheWay g hg) }⟩, hmeets⟩

/-- **The poll.** A goroutine that waits is ready for the agent. -/
theorem dispatchSafe_poll (h : DispatchSafe w) (hok : Waiting w)
    (hstep : dispatchStep w .poll = some w') : DispatchSafe w' := by
  cases hd : w.dispatcher with
  | idle =>
    simp only [dispatchStep, hd] at hstep
    obtain ⟨⟨agentId, stored⟩, -, rfl⟩ := Option.map_eq_some_iff.mp hstep
    obtain ⟨m, hm, hmeets⟩ := h
    refine ⟨true, ⟨fun _ => rfl, fun _ => rfl, fun g hg => ?_⟩, ?_⟩
    · obtain rfl : agentId = g := Option.some.inj hg
      exact { hok with dispatcher := rfl }
    · rcases hok.ready with hselect | hready
      · exact meets_true_of_select hselect hmeets
      · exact hm.ready hready ▸ hmeets
  | _ => simp [dispatchStep, hd] at hstep

/-- **The emission.** The agent on the way reaches the channel. -/
theorem dispatchSafe_distributeAgent (h : DispatchSafe w)
    (hd : w.dispatcher = .distributing agentId) :
    DispatchSafe { w.distributeAgent agentId with dispatcher := .idle } := by
  obtain ⟨m, hm, hmeets⟩ := h
  have hsame : (w.distributeAgent agentId).goroutine = w.goroutine
      ∧ (w.distributeAgent agentId).ready = w.ready := by
    unfold DispatchWorld.distributeAgent
    split
    · exact ⟨rfl, rfl⟩
    · split <;> exact ⟨rfl, rfl⟩
  have hnone : ∀ g, (w.distributeAgent agentId).undelivered ≠ some g := by
    intro g hg
    -- Whoever is still on the way is the agent just emitted.
    have hw := hm.onTheWay g (undelivered_of_distributeAgent hg)
    have hagent : agentId = g := by
      have hholds := hw.dispatcher
      rw [hd] at hholds
      exact hholds
    rw [DispatchWorld.distributeAgent, if_neg (by simp [hw.memory]), if_pos hw.subscribed] at hg
    exact of_decide_eq_true (Option.filter_eq_some_iff.mp hg).2 hagent.symm
  refine ⟨m, ⟨hsame.2 ▸ hm.ready, fun hsome => ?_, fun g hg => absurd hg (hnone g)⟩,
    hsame.1 ▸ hmeets⟩
  obtain ⟨g, hg⟩ := Option.isSome_iff_exists.mp hsome
  exact absurd hg (hnone g)

/-- **Every step that meets the condition keeps the invariant.** -/
theorem dispatchSafe_step (w : DispatchWorld) (l : DispatchLabel) (w' : DispatchWorld)
    (h : DispatchSafe w) (hok : DispatchOk w l) (hstep : dispatchStep w l = some w') :
    DispatchSafe w' := by
  cases l with
  | poll => exact dispatchSafe_poll h hok hstep
  | go e agentId => exact dispatchSafe_go h hok hstep
  | assign agentId =>
    obtain ⟨-, rfl⟩ := of_guard hstep
    obtain ⟨m, hm, hmeets⟩ := h
    exact ⟨m, ⟨hm.ready, hm.reserved, fun g hg => { hm.onTheWay g hg with }⟩, hmeets⟩
  | getAgent ok =>
    obtain rfl : ok = true := hok
    cases hd : w.dispatcher with
    | reserved agentId =>
      simp only [dispatchStep, hd] at hstep
      cases hstep
      exact dispatchSafe_dispatcher h fun g hw => by simpa [hd, Dispatcher.holds]
        using hw.dispatcher
    | _ => simp [dispatchStep, hd] at hstep
  | getQueue ok =>
    obtain rfl : ok = true := hok
    cases hd : w.dispatcher with
    | routing agentId =>
      simp only [dispatchStep, hd] at hstep
      cases hstep
      exact dispatchSafe_dispatcher h fun g hw => by
        simpa [hd, hw.tracked, Dispatcher.holds] using hw.dispatcher
    | _ => simp [dispatchStep, hd] at hstep
  | distributeAgent =>
    grind [dispatchStep, dispatchSafe_distributeAgent]

theorem dispatchSafe_start (k : WaitKind) (q : QueueConfig) (rounds : Nat) (stored : Stored)
    (memory : State) (agent : Option Int) :
    DispatchSafe (startDispatch k q rounds stored memory agent) :=
  ⟨false, ⟨nofun, nofun, nofun⟩, meets_wait k q rounds⟩

/-- **No reserved agent is lost** in a run in which the attempt is reserved only while its
goroutine waits, the dispatcher finds agent and queue, and no store call fails and no report
of an earlier agent comes in while an agent is on the way. -/
theorem no_reserved_agent_lost (k : WaitKind) (q : QueueConfig) (rounds : Nat) (stored : Stored)
    (memory : State) (agent : Option Int) (labels : List DispatchLabel) {w : DispatchWorld}
    (hok : Along dispatchStep DispatchOk (startDispatch k q rounds stored memory agent) labels)
    (hrun : run dispatchStep (startDispatch k q rounds stored memory agent) labels = some w) :
    NoLostAgent w :=
  (run_invariant dispatchSafe_step labels
    (dispatchSafe_start k q rounds stored memory agent) hok hrun).noLostAgent

instance (w : DispatchWorld) : Decidable (Waiting w) :=
  decidable_of_iff ((w.goroutine.asking.any Action.waits = true ∨ w.ready = true)
      ∧ w.memory = .waitAgent ∧ w.subscribed = true ∧ w.tracked = true ∧ w.channel = [])
    ⟨fun ⟨h₁, h₂, h₃, h₄, h₅⟩ => ⟨h₁, h₂, h₃, h₄, h₅⟩,
      fun h => ⟨h.ready, h.memory, h.subscribed, h.tracked, h.channel⟩⟩

instance (w : DispatchWorld) (l : DispatchLabel) : Decidable (DispatchOk w l) := by
  unfold DispatchOk
  split <;> infer_instance

def inboundCall : DispatchWorld :=
  startDispatch .inbound default 2 ⟨.waiting, none, false⟩ .idle none

def reply (a : Action) (r : a.Reply) : DispatchLabel := .go ⟨a, r⟩ 0

def bring (agentId : Int) : List DispatchLabel :=
  [.assign agentId, .poll, .getAgent true, .getQueue true, .distributeAgent]

def broughtInTime : List DispatchLabel :=
  [reply (.setState .joined) (), reply (.store (.setFindAgentState false)) true, reply .on (),
    reply (.setState .waitAgent) (), reply (.read (.call .member .hangupAt)) false] ++ bring 7

theorem no_reserved_agent_lost_inbound : ∃ w, run dispatchStep inboundCall broughtInTime = some w
    ∧ w.channel = [7] ∧ NoLostAgent w :=
  ⟨_, rfl, rfl, no_reserved_agent_lost .inbound default 2 ⟨.waiting, none, false⟩ .idle none
    broughtInTime (by decide) rfl⟩

def missedThen : List DispatchLabel :=
  [reply (.select .waitCall) .agents, reply .getTeam true,
    reply (.read (.call .member .hangupCause)) false, reply .newAgentCall (),
    reply (.rpc .publish) true, reply (.rpc (.invite .agent)) true,
    reply (.read (.call .agent .hangupCause)) true,
    reply (.read (.call .agent .bridgeAt)) false,
    reply (.read (.call .agent .shouldMarkAsMissed)) true,
    reply (.store .setAttemptMissedAgent) true, reply (.read (.attempt .maxNoAnswer)) false,
    reply (.setState .missed) ()]

/-- The dispatcher polls between the store call and the subscription, or between the store
call for a missed agent and the change of the state in memory: the agent is dropped, and the
stored attempt stays active with them. -/
theorem reserved_agent_lost :
    (∃ w, run dispatchStep inboundCall ([reply (.setState .joined) (),
        reply (.store (.setFindAgentState false)) true] ++ bring 7) = some w
      ∧ w.stored = ⟨.active, some 7, false⟩ ∧ w.channel = [] ∧ ¬ NoLostAgent w)
    ∧ ∃ w, run dispatchStep inboundCall (broughtInTime ++ missedThen ++ bring 8) = some w
      ∧ w.stored = ⟨.active, some 8, false⟩ ∧ w.channel = [] ∧ ¬ NoLostAgent w :=
  ⟨⟨_, rfl, rfl, rfl, fun h => h 7 rfl⟩, _, rfl, rfl, rfl, fun h => h 8 rfl⟩

end CallCenter.Queue
