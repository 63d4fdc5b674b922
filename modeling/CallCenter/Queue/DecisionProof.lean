import CallCenter.Queue.PlainProof

/-!
# A goroutine decides about its attempt

A goroutine decides about its attempt at one exchange. It gives the attempt an owner there, or the
reply is one after which it just returns, or it finds the channel of the agent marked by a report
and no draft, and leaves the attempt to that report.

The monitor `tally` notes the exchange. Every goroutine is shown to come to one before it returns
(`ends_run`), part by part.
-/

namespace CallCenter.Queue

open Lib Store

inductive QueueKind where
  | offline | preview | ivr | progressive | predictive | inbound | joinAgent | outbound
  | chat | im | taskAgent | taskInbound | taskOutbound
  deriving DecidableEq

def QueueKind.run (k : QueueKind) (q : QueueConfig) (rounds : Nat) : Go Unit :=
  match k with
  | offline => OfflineCallQueue.run q rounds
  | preview => PreviewCallQueue.run q rounds
  | ivr => IVRQueue.run q rounds
  | progressive => ProgressiveCallQueue.run q rounds
  | predictive => PredictCallQueue.runPark q rounds
  | inbound => InboundQueue.run q rounds
  | joinAgent => JoinAgentCallQueue.run q rounds
  | outbound => OutboundCallQueue.run q rounds
  | chat => InboundChatQueue.process q rounds
  | im => InboundIMQueue.run q rounds
  | taskAgent => TaskAgent.run q rounds
  | taskInbound => TaskInboundQueue.run q rounds
  | taskOutbound => TaskOutboundQueue.run q

/-- The attempt has an owner from this exchange on: it has been passed to
`LeavingMember`, is stored as processing with a deadline, or turns out to have left. -/
def disposes : Exchange Action.Reply → Bool
  | ⟨.leavingMember, _⟩ => true
  | ⟨.store (.setAttemptReporting deadlineSec), ok⟩ => ok && decide (0 < deadlineSec)
  | ⟨.getAttempt, cached⟩ => !cached
  | _ => false

/-- A reply after which the goroutine returns and leaves the attempt to nobody. -/
def leaky (k : QueueKind) : Exchange Action.Reply → Bool
  | ⟨.store (.setFindAgentState false), ok⟩ => !ok
  | ⟨.store (.setAttemptReporting deadlineSec), ok⟩ => !(ok && decide (0 < deadlineSec))
  | ⟨.store .callbackReporting, ok⟩ => !ok
  | ⟨.answerPredictAndFindAgent, reply⟩ => decide (reply = .failed)
  | ⟨.getTeam, ok⟩ => !ok && decide (k ≠ .inbound)
  | ⟨.read (.call .member .err), err⟩ => err
  | ⟨.read (.call .agent .acceptAt), accepted⟩ => !accepted && decide (k = .offline)
  | _ => false

/-- What a look at the mark of the agent's channel has shown. -/
def markRead : Exchange Action.Reply → Option Bool
  | ⟨.read (.call .agent .reportingAt), reported⟩ => some reported
  | ⟨.read (.conv .reportingAt), reported⟩ => some reported
  | ⟨.read (.task .reportingAt), reported⟩ => some reported
  | _ => none

/-- `Reporting` has looked for a draft and found none. -/
def draftMissed : Exchange Action.Reply → Bool
  | ⟨.read (.attempt .draft), draft⟩ => !draft
  | _ => false

/-! ## The monitor -/

/-- What the exchanges of a goroutine so far say about its attempt. -/
inductive Verdict where
  /-- Nothing; `marked` is what the last look at the mark has shown. -/
  | undecided (marked : Bool)
  /-- The goroutine has found the mark and no draft. -/
  | reported
  /-- The attempt has an owner, or has had a leaky reply. -/
  | settled
  deriving DecidableEq

instance : Listed Verdict where
  all := [.undecided true, .undecided false, .reported, .settled]
  mem_all := by rintro ((_ | _) | _ | _) <;> decide

def Verdict.open : Verdict → Bool
  | .undecided _ => true
  | _ => false

def tally (k : QueueKind) : Verdict → Exchange Action.Reply → Verdict
  | .undecided marked, e =>
    if disposes e || leaky k e then .settled
    else if marked && draftMissed e then .reported
    else .undecided ((markRead e).getD marked)
  | v, _ => v

theorem tally_decided {k : QueueKind} {v : Verdict} (h : v.open = false)
    (e : Exchange Action.Reply) : tally k v e = v := by
  cases v with
  | undecided marked => cases h
  | reported => rfl
  | settled => rfl

/-! ## Parts of goroutines -/

/-- A part of a goroutine that decides about the attempt exactly when its result is in
`decided`. -/
def Ends (k : QueueKind) {α : Type} (decided : α → Bool) (p : Go α) : Prop :=
  ∀ v, v.open = true → Meets (Contract.watch (tally k)) p v fun a v' => v'.open = !decided a

section Ends

variable {k : QueueKind} {α β σ : Type} {decided : α → Bool} {decided' : β → Bool} {p : Go α}
  {f : α → Go β}

theorem plain_not_noted {a : Action} (h : Plain a) (r : a.Reply) :
    disposes ⟨a, r⟩ = false ∧ leaky k ⟨a, r⟩ = false ∧ draftMissed ⟨a, r⟩ = false := by
  cases a with
  | store c =>
    cases c with
    | setFindAgentState again => exact absurd h (by simp [Plain, StoreCall.turns])
    | setAttemptReporting sec => exact absurd h (by simp [Plain, StoreCall.turns])
    | callbackReporting => exact absurd h (by simp [Plain, StoreCall.turns])
    | _ => exact ⟨rfl, rfl, rfl⟩
  | read rd =>
    refine ⟨rfl, ?_⟩
    cases rd with
    | call leg field =>
      cases leg <;> cases field <;>
        first | exact ⟨rfl, rfl⟩ | exact absurd rfl h.1 | exact absurd rfl h.2.1
    | attempt field => cases field <;> first | exact ⟨rfl, rfl⟩ | exact absurd rfl h.2.2
    | _ => exact ⟨rfl, rfl⟩
  | answerPredictAndFindAgent => exact h.elim
  | getTeam => exact h.elim
  | leavingMember => exact h.elim
  | getAttempt => exact h.elim
  | crash => exact h.elim
  | _ => exact ⟨rfl, rfl, rfl⟩

theorem open_tally_plain {a : Action} (h : Plain a) (r : a.Reply) (v : Verdict) :
    (tally k v ⟨a, r⟩).open = v.open := by
  obtain ⟨hd, hl, hm⟩ := plain_not_noted (k := k) h r
  cases v with
  | undecided marked =>
    rw [tally, hd, hl, hm, Bool.and_false]
    rfl
  | reported => rfl
  | settled => rfl

theorem Ends.walk (h : ([true, false].all fun marked => p.walks (Contract.watch (tally k))
    (fun a v => v.open = !decided a) (.undecided marked)) = true) : Ends k decided p := by
  intro v hv
  cases v with
  | undecided marked => exact Meets.walk (List.all_eq_true.mp h marked (by cases marked <;> decide))
  | reported => cases hv
  | settled => cases hv

/-- What is decided stays decided. -/
theorem meets_decided (p : Go α) {v : Verdict} (hv : v.open = false) :
    Meets (Contract.watch (tally k)) p v fun _ v' => v'.open = false := by
  induction p with
  | ret a => exact hv
  | ask o next ih =>
    refine ⟨trivial, fun r v' hnext => ?_⟩
    obtain rfl : v' = tally k v ⟨o, r⟩ := hnext
    rw [tally_decided hv]
    exact ih r
  | running => exact trivial

theorem meets_quiet (h : Quiet p) (v : Verdict) :
    Meets (Contract.watch (tally k)) p v fun _ v' => v'.open = v.open := by
  refine Meets.of_only h (fun _ _ _ _ => trivial) (fun v₁ a r v' ha hv hnext => ?_) rfl
  rw [show v' = tally k v₁ ⟨a, r⟩ from hnext, open_tally_plain ha, hv]

theorem ends_quiet (h : Quiet p) : Ends k (fun _ => false) p :=
  fun v hv => (meets_quiet h v).imp fun _ _ hv' => hv'.trans hv

theorem ends_pure {a : α} (h : decided a = false) : Ends k decided (pure a) := by
  intro v hv
  show v.open = !decided a
  rw [hv, h, Bool.not_false]

theorem Ends.bind (hp : Ends k decided p) (hgo : ∀ a, decided a = false → Ends k decided' (f a))
    (hdecided : ∀ a v, decided a = true → v.open = false →
      Meets (Contract.watch (tally k)) (f a) v fun b v' => decided' b = true ∧ v'.open = false) :
    Ends k decided' (p >>= f) := by
  intro v hv
  refine Meets.seq (hp v hv) fun a v₁ hv₁ => ?_
  cases ha : decided a with
  | false =>
    rw [ha] at hv₁
    exact hgo a ha v₁ hv₁
  | true =>
    rw [ha] at hv₁
    refine (hdecided a v₁ ha hv₁).imp fun b v' hb => ?_
    rw [hb.1, hb.2, Bool.not_true]

theorem Ends.quiet_bind (hp : Quiet p) (hf : ∀ a, Ends k decided' (f a)) :
    Ends k decided' (p >>= f) :=
  (ends_quiet hp).bind (fun a _ => hf a) fun _ _ h => absurd h Bool.false_ne_true

theorem Ends.then (hp : Ends k (fun _ => true) p) (hf : ∀ a, Quiet (f a)) :
    Ends k (fun _ => true) (p >>= f) := by
  refine hp.bind (fun _ h => absurd h (by simp)) fun a v _ hv => ?_
  exact (meets_quiet (hf a) v).imp fun _ v' hv' => ⟨rfl, hv'.trans hv⟩

theorem Ends.andReturn {b : β} (hp : Ends k (fun _ => true) p) (hb : decided' b = true) :
    Ends k decided' (do let _ ← p; pure b) :=
  hp.bind (fun _ h => absurd h (by simp)) fun _ _ _ hv => ⟨hb, hv⟩

theorem Ends.ite {c : Prop} [Decidable c] {q : Go α} (hp : Ends k decided p)
    (hq : Ends k decided q) :
    Ends k decided (if c then p else q) := by
  split
  · exact hp
  · exact hq

theorem Ends.ifOk {p : Go Bool} {q : Go β} {b : β} (hp : Ends k (fun ok => !ok) p)
    (hq : Ends k decided' q) (hb : decided' b = true) :
    Ends k decided' (do if ← p then q else pure b) := by
  refine hp.bind (fun ok hok => ?_) fun ok m hok hm => ?_
  · grind [Bool.not_eq_false']
  · have hok : (!ok) = true := hok
    rw [Bool.not_eq_true'] at hok
    rw [if_neg (by simp [hok])]
    exact ⟨hb, hm⟩

theorem Ends.ifNot {p : Go Bool} {q : Go β} {b : β} (hp : Ends k id p) (hq : Ends k decided' q)
    (hb : decided' b = true) : Ends k decided' (do if ← p then pure b else q) := by
  refine hp.bind (fun decided hdecided => ?_) fun decided m hdecided hm => ?_
  · rw [if_neg (by simp [show decided = false from hdecided])]
    exact hq
  · rw [if_pos (show decided = true from hdecided)]
    exact ⟨hb, hm⟩

theorem Ends.loop {round : σ → Go (σ ⊕ α)}
    (h : ∀ s, Ends k (Sum.elim (fun _ => false) decided) (round s)) (n : Nat) (s : σ) :
    Ends k decided (Prog.loop round n s) := by
  intro v hv
  refine meets_loop (fun _ v => v.open = true) (fun s v hv => ?_) n hv
  refine (h s v hv).imp fun a v' ha => ?_
  cases a with
  | inl s' => exact ha
  | inr a => exact ha

theorem Ends.next (hp : Ends k (fun _ => false) p) (hf : ∀ a, Ends k decided' (f a)) :
    Ends k decided' (p >>= f) :=
  hp.bind (fun a _ => hf a) fun _ _ h => absurd h Bool.false_ne_true

end Ends

/-! ## What the queues share -/

section Shared

variable {k : QueueKind}

theorem ends_setAttemptReporting (deadlineSec : Nat) :
    Ends k (fun _ => true) (store (.setAttemptReporting deadlineSec)) := by
  intro v hv
  refine ⟨trivial, fun ok v' hnext => ?_⟩
  obtain rfl : v' = tally k v ⟨.store (.setAttemptReporting deadlineSec), ok⟩ := hnext
  cases v with
  | undecided marked =>
    have hnoted : (ok && decide (0 < deadlineSec) || !(ok && decide (0 < deadlineSec))) = true :=
      Bool.or_not_self _
    show (if (ok && decide (0 < deadlineSec) || !(ok && decide (0 < deadlineSec))) = true
      then Verdict.settled else _).open = false
    rw [if_pos hnoted]
    rfl
  | reported => cases hv
  | settled => cases hv

theorem ends_getTeam (hk : k ≠ .inbound) : Ends k (fun ok => !ok) (act .getTeam) := by
  cases k with
  | inbound => exact absurd rfl hk
  | _ => exact .walk rfl

theorem ends_schema_or {p : Go Unit} (hp : Ends k (fun _ => true) p) : Ends k (fun _ => true) (do
    if ← sendAfterDistributeSchema then pure () else p) := by
  have hschema : Ends k id sendAfterDistributeSchema := .walk rfl
  exact hschema.ifNot hp rfl

variable (q : QueueConfig)

/-- The goroutine believes in a mark only if it has just seen one. -/
def Reads (reported : Bool) (v : Verdict) : Prop :=
  v = .undecided true ∨ reported = false ∧ v = .undecided false

instance (reported : Bool) (v : Verdict) : Decidable (Reads reported v) :=
  inferInstanceAs (Decidable (_ ∨ _))

theorem Reads.open {reported : Bool} {v : Verdict} (h : Reads reported v) : v.open = true := by
  rcases h with rfl | ⟨-, rfl⟩ <;> rfl

/-- **Reporting decides.** -/
theorem decides_reporting {agentSendReporting : Bool} {v : Verdict} (h : Reads agentSendReporting v)
    (transfer : Bool) :
    Meets (Contract.watch (tally k)) (reporting q agentSendReporting transfer) v
      fun _ v' => v'.open = false := by
  -- the callback is none of the monitor's business
  have hcallback : Meets (Contract.watch (tally k))
      (andThen (pure q.waitChannelClose) (readAttempt .callback)) v fun _ v' => v' = v := by
    rcases h with rfl | ⟨-, rfl⟩ <;> cases q.waitChannelClose <;> exact .walk rfl
  refine Meets.seq hcallback fun callback v₁ hv₁ => ?_
  subst hv₁
  have hreport : Ends k (fun _ => true) (do let _ ← reportingAttempt : Go Unit) :=
    .walk rfl
  split
  · exact hreport v₁ h.open
  · have hgo : Ends k (fun _ => true) (wrapOrProcess q transfer) := by
      refine .quiet_bind (only_orElse (.pure _) (.walk rfl)) fun _ =>
        .ite (.walk rfl) ?_
      exact (ends_setAttemptReporting _).then fun _ => .ite (.walk rfl) (.walk rfl)
    refine ⟨trivial, fun useDraft v₂ hv₂ => ?_⟩
    obtain rfl : v₂ = tally k v₁ ⟨.read (.attempt .draft), useDraft⟩ := hv₂
    cases hdraft : agentSendReporting && !useDraft with
    | true =>
      -- there is a mark and no draft: the monitor has decided
      obtain ⟨rfl, hdraft⟩ := Bool.and_eq_true_iff.mp hdraft
      obtain rfl : useDraft = false := Bool.not_eq_true' _ ▸ hdraft
      rcases h with rfl | ⟨hfalse, -⟩
      · exact meets_decided _ rfl
      · cases hfalse
    | false =>
      cases hopen : (tally k v₁ ⟨.read (.attempt .draft), useDraft⟩).open with
      | true =>
        show Meets _ (if (agentSendReporting && !useDraft) = true then pure () else _) _ _
        rw [hdraft, if_neg Bool.false_ne_true]
        exact hgo _ hopen
      | false => exact meets_decided _ hopen

/-- A look at the mark of the channel. -/
def Looks (k : QueueKind) (p : Go Bool) : Prop :=
  ∀ v, v.open = true → Meets (Contract.watch (tally k)) p v Reads

theorem Looks.walk {p : Go Bool} (h : ([true, false].all fun marked =>
    p.walks (Contract.watch (tally k)) Reads (.undecided marked)) = true) : Looks k p := by
  intro v hv
  cases v with
  | undecided marked => exact Meets.walk (List.all_eq_true.mp h marked (by cases marked <;> decide))
  | reported => cases hv
  | settled => cases hv

theorem ends_reporting {look : Go Bool} (hlook : Looks k look) {transfer : Go Bool}
    (htransfer : ∀ v, Meets (Contract.watch (tally k)) transfer v fun _ v' => v' = v) :
    Ends k (fun _ => true) (do
      let reported ← look
      let transfer ← transfer
      reporting q reported transfer) := by
  intro v hv
  refine Meets.seq (hlook v hv) fun reported v₁ hv₁ => Meets.seq (htransfer v₁) fun _ v₂ hv₂ => ?_
  subst hv₂
  exact decides_reporting q hv₁ _

theorem meets_readTransfer {rd : Read}
    (h : rd ∈ [.call .agent .transferred, .conv .causeTransfer, .attempt .imTransferred])
    (v : Verdict) : Meets (Contract.watch (tally k)) (act (.read rd)) v fun _ v' => v' = v := by
  refine ⟨trivial, fun r v' hnext => ?_⟩
  obtain rfl : v' = tally k v ⟨.read rd, r⟩ := hnext
  simp only [List.mem_cons, List.not_mem_nil, or_false] at h
  rcases h with rfl | rfl | rfl <;> rcases v with (_ | _) | _ | _ <;> rfl

theorem ends_reportCall : Ends k (fun _ => true) (reportCall q) :=
  ends_reporting q (.walk rfl) (meets_readTransfer (by simp))

theorem ends_doDistributeSchema {p : Go Unit} (hp : Ends k (fun _ => true) p) :
    Ends k (fun _ => true) (do
      if ← doDistributeSchema q then p else act .leavingMember) :=
  .quiet_bind (routine_doDistributeSchema q).quiet fun _ => .ite hp (.walk rfl)

theorem ends_newCall {p : Go Unit} (hp : Ends k (fun _ => true) p) :
    Ends k (fun _ => true) (do if ← rpc .newCall then p else abandonedWithParams) :=
  .quiet_bind (.walk rfl) fun _ => .ite hp (.walk rfl)

end Shared

/-! ## The queues with an agent from the start -/

variable (q : QueueConfig) (rounds : Nat)

theorem ends_offline :
    Ends .offline (fun _ => true) (OfflineCallQueue.run q rounds) := by
  refine ends_doDistributeSchema q (ends_newCall ?_)
  refine .quiet_bind (.walk rfl) fun _ => .quiet_bind (.walk rfl) fun _ =>
    .quiet_bind (.loop (fun _ => .walk rfl) _ _) fun _ => ?_
  -- A call that was billed is reported; otherwise it must have been accepted.
  have haccepted : Ends .offline (fun ok => !ok)
      (orElse (readCall .agent .billSeconds) (readCall .agent .acceptAt)) := .walk rfl
  refine haccepted.bind (fun ok hok => ?_) fun ok m hok hm => ?_
  · rw [if_pos (by simpa using hok)]
    exact ends_reportCall q
  · rw [if_neg (by simpa using hok)]
    refine (meets_quiet (.walk rfl) m).imp fun _ m' hm' => ⟨rfl, ?_⟩
    rw [hm']
    exact hm

theorem ends_preview :
    Ends .preview (fun _ => true) (PreviewCallQueue.run q rounds) := by
  refine ends_doDistributeSchema q (ends_newCall ?_)
  refine .quiet_bind (.walk rfl) fun _ => .quiet_bind (.walk rfl) fun _ =>
    .quiet_bind (.loop (fun _ => .walk rfl) _ _) fun _ => ?_
  have hunbridged : Ends .preview (fun _ => false) (andThen (readCall .agent .acceptAt)
      (andThen (negate (readCall .agent .bridgeAt)) (pure (!q.processing)))) := .walk rfl
  have hreport : Ends .preview (fun _ => false)
      (orElse (readCall .agent .acceptAt) (readAttempt .callback)) := .walk rfl
  exact hunbridged.next fun _ => .ite (.walk rfl)
    (hreport.next fun _ => .ite (ends_reportCall q) (.walk rfl))

theorem ends_ivr :
    Ends .ivr (fun _ => true) (IVRQueue.run q rounds) := by
  refine ends_doDistributeSchema q (ends_newCall ?_)
  refine .quiet_bind (.walk rfl) fun _ => .quiet_bind (.walk rfl) fun _ => ?_
  have herr : Ends .ivr id (readCall .member .err) := .walk rfl
  exact herr.ifNot (.quiet_bind (.loop (fun _ => .walk rfl) _ _) fun _ => .walk rfl) rfl

theorem ends_progressive :
    Ends .progressive (fun _ => true) (ProgressiveCallQueue.run q rounds) := by
  refine ends_doDistributeSchema q (ends_newCall ?_)
  refine .quiet_bind (.walk rfl) fun _ => .ite (.walk rfl) ?_
  refine .quiet_bind (.walk rfl) fun _ => .quiet_bind (.walk rfl) fun _ =>
    .quiet_bind (.loop (quiet_progressiveRound rounds) _ _) fun agentCall => .ite ?_ (.walk rfl)
  exact .quiet_bind (.walk rfl) fun _ => .ite (ends_reportCall q) (.walk rfl)

theorem ends_joinAgent :
    Ends .joinAgent (fun _ => true) (JoinAgentCallQueue.run q rounds) := by
  refine .quiet_bind (.walk rfl) fun _ => (ends_getTeam (by simp)).ifOk ?_ rfl
  refine .quiet_bind (.walk rfl) fun lost => .quiet_bind (.walk rfl) fun _ =>
    .quiet_bind (.walk rfl) fun _ => .quiet_bind (.walk rfl) fun _ => ?_
  have hoffer : Ends .joinAgent id (JoinAgentCallQueue.offer rounds lost) :=
    .ite (.walk rfl) (.loop (fun _ => .walk rfl) rounds ())
  have hfinish : Ends .joinAgent (fun _ => true) (JoinAgentCallQueue.finish q) :=
    .quiet_bind (.walk rfl) fun _ => .ite (ends_reportCall q) (.walk rfl)
  exact hoffer.ifNot (hfinish.then fun _ => .walk rfl) rfl

theorem ends_outbound :
    Ends .outbound (fun _ => true) (OutboundCallQueue.run q rounds) := by
  have hcalling : Quiet (OutboundCallQueue.calling q rounds) := by
    have hloop : Quiet (OutboundCallQueue.talking rounds) :=
      .bind (.walk rfl) fun _ => .ite (.pure _) (.loop (fun _ => .walk rfl) _ _)
    refine .bind (.walk rfl) fun _ => .bind (.walk rfl) fun _ =>
      .bind (only_orElse (.walk rfl) (.pure _)) fun _ => .ite ?_ hloop
    exact .bind (.walk rfl) fun _ => hloop
  have hfinish : Ends .outbound (fun _ => true) (OutboundCallQueue.finish q) :=
    .quiet_bind (only_orElse (.walk rfl) (.pure _)) fun _ =>
      .ite (ends_reportCall q) (ends_schema_or (.walk rfl))
  exact .quiet_bind hcalling fun _ => hfinish.then fun _ => .walk rfl

theorem ends_taskRun {k : QueueKind} :
    Ends k (fun _ => true) (taskRun q rounds) := by
  refine ends_doDistributeSchema q ?_
  refine .quiet_bind (.walk rfl) fun _ => .quiet_bind (.walk rfl) fun _ =>
    .quiet_bind (.loop (fun _ => .walk rfl) _ _) fun _ => ?_
  have hreport : Ends k (fun _ => true) (do
      let reported ← readTask .reportingAt
      let transfer ← pure false
      reporting q reported transfer) :=
    ends_reporting q (.walk rfl) fun _ => rfl
  exact .quiet_bind (.walk rfl) fun _ => .ite (.walk rfl) hreport

theorem ends_taskOutbound :
    Ends .taskOutbound (fun _ => true) (TaskOutboundQueue.run q) := by
  refine ends_doDistributeSchema q ?_
  exact .quiet_bind (.walk rfl) fun _ => .quiet_bind (.walk rfl) fun _ =>
    .quiet_bind (.walk rfl) fun _ => .ite (.walk rfl) (.walk rfl)

/-! ## The queues that wait for an agent -/

section Waiting

variable {k : QueueKind}

theorem Ends.finishWith {σ : Type} {p : Go (Option σ)} {finish : σ → Go Unit}
    (hp : Ends k Option.isNone p) (hfinish : ∀ l, Ends k (fun _ => true) (finish l)) :
    Ends k (fun _ => true) (do
      let ended ← p
      finishWith ended finish) := by
  refine hp.bind (fun ended hended => ?_) fun ended m hended hm => ?_
  · cases ended with
    | none => exact absurd hended (by simp)
    | some l => exact hfinish l
  · cases ended with
    | none => exact ⟨rfl, hm⟩
    | some l => exact absurd hended (by simp)

/-- The results of a round that waits: the goroutine returns when there are no locals. -/
abbrev returns {σ : Type} : σ ⊕ Option σ → Bool := Sum.elim (fun _ => false) Option.isNone

theorem ends_inboundWaitRound (rounds : Nat) (l : CallLocals) :
    Ends .inbound returns (InboundQueue.waitRound rounds l) := by
  have hselect : Ends .inbound (fun _ => false) (act (.select .waitCall)) := .walk rfl
  -- A team that is not found only makes this queue wait on.
  have hteam : Ends .inbound (fun _ => false) (act .getTeam) := .walk rfl
  refine hselect.next fun signal => ?_
  cases signal with
  | member s =>
    cases s with
    | hangup =>
      exact .quiet_bind (only_andThen (.pure _) (.walk rfl)) fun _ => .ite (.walk rfl) (.walk rfl)
    | _ => exact .walk rfl
  | agents =>
    refine hteam.next fun _ => .ite ?_ (.walk rfl)
    refine .quiet_bind (.walk rfl) fun _ => .ite (.walk rfl) ?_
    refine .quiet_bind (.walk rfl) fun _ => .quiet_bind (.walk rfl) fun _ =>
      .quiet_bind (.walk rfl) fun _ => ?_
    exact (Ends.loop (fun _ => .walk rfl) rounds ()).ifNot (.walk rfl) rfl
  | _ => exact .walk rfl

variable (q : QueueConfig)

theorem ends_reportOr (l : CallLocals) {rest : Go Unit} (hrest : Ends k (fun _ => true) rest) :
    Ends k (fun _ => true) (do
      if ← andThen (pure l.agentCall) (readCall .agent .bridgeAt) then reportCall q
      else rest) :=
  .quiet_bind (only_andThen (.pure _) (.walk rfl)) fun _ => .ite (ends_reportCall q) hrest

theorem ends_inbound (rounds : Nat) :
    Ends .inbound (fun _ => true) (InboundQueue.run q rounds) := by
  have hfind : Ends .inbound (fun ok => !ok) (store (.setFindAgentState false)) := .walk rfl
  have hwait : Ends .inbound Option.isNone (InboundQueue.wait rounds) :=
    .quiet_bind (.walk rfl) fun _ =>
      .ite (.walk rfl) (.loop (ends_inboundWaitRound rounds) rounds _)
  refine .quiet_bind (.walk rfl) fun _ => hfind.ifOk ?_ rfl
  refine .quiet_bind (.walk rfl) fun _ => .quiet_bind (.walk rfl) fun _ =>
    hwait.finishWith fun l => ?_
  exact (ends_reportOr q l (ends_schema_or (.walk rfl))).then fun _ => .walk rfl

theorem ends_predictWaitRound (rounds : Nat) (l : CallLocals) :
    Ends .predictive returns (PredictCallQueue.waitRound rounds l) := by
  have hselect : Ends .predictive (fun _ => false) (act (.select .waitCall)) := .walk rfl
  refine hselect.next fun signal => ?_
  cases signal with
  | member s => cases s <;> exact .walk rfl
  | agents =>
    refine (ends_getTeam (by simp)).ifOk ?_ rfl
    refine .quiet_bind (.walk rfl) fun _ => .ite (.walk rfl) ?_
    refine .quiet_bind (.walk rfl) fun _ => .quiet_bind (.walk rfl) fun _ =>
      .quiet_bind (.walk rfl) fun _ => .quiet_bind (.loop (fun _ => .walk rfl) _ _) fun _ =>
        .walk rfl
  | _ => exact .walk rfl

theorem ends_runOfferingAgents (rounds : Nat) :
    Ends .predictive (fun _ => true) (PredictCallQueue.runOfferingAgents q rounds) := by
  have hwait : Ends .predictive Option.isNone (PredictCallQueue.wait rounds) :=
    .quiet_bind (.walk rfl) fun _ =>
      .ite (.walk rfl) (.loop (ends_predictWaitRound rounds) rounds _)
  have hlose : Ends .predictive (fun _ => true) (PredictCallQueue.lose q) :=
    .quiet_bind (.walk rfl) fun _ => ends_schema_or (.ite (.walk rfl) (.walk rfl))
  have hrest := hwait.finishWith fun l =>
    (ends_reportOr q l hlose).then fun _ => .request (o := Action.off) trivial
  have hanswer : Ends .predictive (fun reply => decide (reply = .failed))
      (act .answerPredictAndFindAgent) := .walk rfl
  refine .quiet_bind (.walk rfl) fun _ => .quiet_bind (.walk rfl) fun _ =>
    hanswer.bind (fun reply hreply => ?_) fun reply m hreply hm => ?_
  · cases reply with
    | failed => exact absurd hreply (by simp)
    | released => exact hrest
    | kept => exact hrest
  · obtain rfl : reply = .failed := of_decide_eq_true hreply
    exact ⟨rfl, hm⟩

theorem ends_lastRound (s : PredictCallQueue.Retry) :
    Ends .predictive (Sum.elim (fun _ => false) Option.isNone) (PredictCallQueue.lastRound s) := by
  refine .quiet_bind (.walk rfl) fun res => ?_
  cases res with
  | none => exact .walk rfl
  | some res =>
    refine .ite (.walk rfl) (.ite (.quiet_bind (.walk rfl) fun flip => ?_) (.walk rfl))
    cases flip with
    | flipped allowCall => exact .walk rfl
    | _ => exact .ite (.walk rfl) (.walk rfl)

theorem ends_predictive (rounds : Nat) :
    Ends .predictive (fun _ => true) (PredictCallQueue.runPark q rounds) := by
  refine ends_doDistributeSchema q (.loop (fun s => ?_) rounds _)
  refine .quiet_bind (.walk rfl) fun _ => .ite ?_ (.walk rfl)
  refine .quiet_bind (.walk rfl) fun _ => .ite ?_ (.walk rfl)
  refine .quiet_bind (.walk rfl) fun _ => .quiet_bind (.loop (fun _ => .walk rfl) _ _) fun _ =>
    .ite ((ends_runOfferingAgents q rounds).andReturn rfl) ?_
  refine (Ends.loop ends_lastRound rounds s).bind (fun next hnext => ?_) fun next m hnext hm => ?_
  · cases next with
    | none => exact absurd hnext (by simp)
    | some s' => exact ends_pure rfl
  · cases next with
    | none => exact ⟨rfl, hm⟩
    | some s' => exact absurd hnext (by simp)

theorem ends_chatAgentRound (l : InboundChatQueue.Locals) :
    Ends .chat (fun _ => false) (InboundChatQueue.agentRound q l) := by
  refine .quiet_bind (.walk rfl) fun _ => .ite (.quiet_bind (.walk rfl) fun signal => ?_)
    (.walk rfl)
  cases signal with
  | timeout =>
    refine .quiet_bind (.walk rfl) fun _ => .ite ?_ (.walk rfl)
    exact .quiet_bind (quiet_checkIdle q) fun _ => .walk rfl
  | state s => cases s <;> exact .walk rfl
  | _ => exact .walk rfl

theorem ends_chatWaitRound (rounds : Nat) (l : InboundChatQueue.Locals) :
    Ends .chat returns (InboundChatQueue.waitRound q rounds l) := by
  have hselect : Ends .chat (fun _ => false) (act (.select (.waitChat l.agent))) := .walk rfl
  have hagent : ∀ l, Ends .chat (fun _ => false)
      (Prog.loop (InboundChatQueue.agentRound q) rounds l) := by
    intro l
    refine .loop (fun l v hv => (ends_chatAgentRound q l v hv).imp fun a v' hv' => ?_) rounds l
    cases a with
    | inl l => exact hv'
    | inr l => exact hv'
  refine hselect.next fun signal => ?_
  cases signal with
  | agents =>
    refine (ends_getTeam (by simp)).ifOk (.quiet_bind (.walk rfl) fun reply => ?_) rfl
    cases reply with
    | ok => exact .quiet_bind (.walk rfl) fun _ => (hagent _).next fun l => .walk rfl
    | _ => exact .walk rfl
  | _ => exact .walk rfl

theorem ends_chatFinish (l : InboundChatQueue.Locals) :
    Ends .chat (fun _ => true) (InboundChatQueue.finish q l) := by
  refine .ite ?_ (.walk rfl)
  have hclose : Quiet (InboundChatQueue.closeSession l) :=
    .bind (only_andThen (.pure _) (.walk rfl)) fun _ => .ite (.walk rfl) (.pure _)
  refine .quiet_bind hclose fun _ => .quiet_bind (.walk rfl) fun _ =>
    .quiet_bind (.walk rfl) fun _ => .ite ?_ (.walk rfl)
  exact ends_reporting q (.walk rfl) (meets_readTransfer (by simp))

/-- A chat that cannot be made to wait takes the process down: there is no session. -/
theorem ends_chat (rounds : Nat) :
    Ends .chat (fun _ => true) (InboundChatQueue.process q rounds) := by
  have hwait : Ends .chat Option.isNone (InboundChatQueue.wait q rounds) :=
    .quiet_bind (.walk rfl) fun _ =>
      .ite (.loop (ends_chatWaitRound q rounds) rounds _) (.walk rfl)
  have hfind : Ends .chat (fun ok => !ok) (store (.setFindAgentState false)) := .walk rfl
  refine hfind.bind (fun ok hok => ?_) fun ok m hok _ => ?_
  · rw [if_pos (by simpa using hok)]
    refine .quiet_bind (.walk rfl) fun _ => .quiet_bind (.walk rfl) fun _ =>
      .quiet_bind (.walk rfl) fun _ => .ite ?_ (.walk rfl)
    exact hwait.finishWith fun l => (ends_chatFinish q l).then fun _ => .walk rfl
  · rw [if_neg (by simpa using hok)]
    exact ⟨trivial, fun never => nomatch never⟩

/-! ### IM threads -/

theorem ends_missAgent :
    Ends .im (fun _ => false) (InboundIMQueue.missAgent q) := by
  have hmissed : Ends .im (fun _ => false) missedAgentAndWaitingAttempt := .walk rfl
  exact hmissed.next fun _ => .ite (.walk rfl) (.walk rfl)

theorem ends_interactionRound (s : Unit) :
    Ends .im (fun _ => false) (InboundIMQueue.interactionRound q s) := by
  have hmiss : Ends .im (fun _ => false) (InboundIMQueue.giveUpAgent q) :=
    .quiet_bind (.walk rfl) fun _ => (ends_missAgent q).next fun _ => .walk rfl
  refine .quiet_bind (.walk rfl) fun signal => ?_
  cases signal with
  | task s =>
    cases s with
    | bridged => exact .quiet_bind (quiet_joinAgent q) fun _ => .ite (.walk rfl) hmiss
    | closed => exact .quiet_bind (.walk rfl) fun _ => .ite hmiss (.walk rfl)
    | idle => exact .walk rfl
  | timeout => exact .quiet_bind (quiet_checkIdleTimeouts q) fun _ => .ite (.walk rfl) (.walk rfl)
  | _ => exact .walk rfl

theorem ends_finalizeAttempt (l : InboundIMQueue.Locals) :
    Ends .im (fun _ => true) (InboundIMQueue.finalizeAttempt q l) := by
  have hend : Ends .im (fun _ => true) (InboundIMQueue.endAttempt q l) := by
    refine .ite ?_ (.walk rfl)
    refine .quiet_bind (only_andThen (.pure _) (.walk rfl)) fun _ => .ite (.walk rfl) ?_
    refine ends_reporting q ?_ (meets_readTransfer (by simp))
    cases l.task <;> exact .walk rfl
  exact .quiet_bind (.walk rfl) fun _ => hend.then fun _ => quiet_cleanupSession l.agent

theorem ends_imWaitRound (rounds : Nat) (l : InboundIMQueue.Locals) :
    Ends .im (Sum.elim (fun _ => false) fun _ => true) (InboundIMQueue.waitRound q rounds l) := by
  have hselect : Ends .im (fun _ => false) (act (.select .waitIM)) := .walk rfl
  have hagain : Ends .im (fun _ => false) (store (.setFindAgentState true)) := .walk rfl
  have hinteraction : Ends .im (fun _ => false)
      (Prog.loop (InboundIMQueue.interactionRound q) rounds ()) := by
    refine .loop (fun s v hv => (ends_interactionRound q s v hv).imp fun a v' hv' => ?_) rounds ()
    cases a with
    | inl l => exact hv'
    | inr l => exact hv'
  have hoffer : Ends .im (Sum.elim (fun _ => false) fun _ => true)
      (InboundIMQueue.offerAgent q rounds) := by
    have hoffered : Ends .im (Sum.elim (fun _ => false) fun _ => true)
        (InboundIMQueue.interact q rounds) := by
      refine .quiet_bind (.walk rfl) fun _ => .quiet_bind (.walk rfl) fun _ =>
        hinteraction.next fun _ => .ite (.walk rfl) ?_
      exact .quiet_bind (.walk rfl) fun _ => (ends_finalizeAttempt q _).andReturn rfl
    refine .quiet_bind (quiet_givePreview q) fun reply => ?_
    cases reply with
    | failed =>
      exact (ends_missAgent q).next fun _ => .ite (.walk rfl)
        ((ends_finalizeAttempt q _).andReturn rfl)
    | ok => exact hoffered
    | special => exact hoffered
  refine hselect.next fun signal => ?_
  cases signal with
  | agents =>
    exact (ends_getTeam (by simp)).ifOk (.quiet_bind (.walk rfl) fun _ =>
      .ite (hagain.next fun _ => .walk rfl) hoffer) rfl
  | timeout =>
    refine .quiet_bind (quiet_checkIdleTimeouts q) fun _ => .ite (.walk rfl) ?_
    exact (ends_finalizeAttempt q l).andReturn rfl
  | _ => exact (ends_finalizeAttempt q l).andReturn rfl

theorem ends_im (rounds : Nat) :
    Ends .im (fun _ => true) (InboundIMQueue.run q rounds) := by
  have hfind : Ends .im (fun ok => !ok) (store (.setFindAgentState false)) := .walk rfl
  have hwait : Ends .im (fun _ => true) (InboundIMQueue.waitAgents q rounds) := by
    refine .quiet_bind (.walk rfl) fun _ => .quiet_bind (.walk rfl) fun _ =>
      .quiet_bind (.ite (.walk rfl) (.pure _)) fun _ => ?_
    exact .loop (ends_imWaitRound q rounds) rounds _
  exact .ite hwait (hfind.ifOk hwait rfl)

end Waiting

theorem ends_run (k : QueueKind) (q : QueueConfig) (rounds : Nat) :
    Ends k (fun _ => true) (k.run q rounds) := by
  cases k with
  | offline => exact ends_offline q rounds
  | preview => exact ends_preview q rounds
  | ivr => exact ends_ivr q rounds
  | progressive => exact ends_progressive q rounds
  | predictive => exact ends_predictive q rounds
  | inbound => exact ends_inbound q rounds
  | joinAgent => exact ends_joinAgent q rounds
  | outbound => exact ends_outbound q rounds
  | chat => exact ends_chat q rounds
  | im => exact ends_im q rounds
  | taskAgent => exact ends_taskRun q rounds
  | taskInbound => exact ends_taskRun q rounds
  | taskOutbound => exact ends_taskOutbound q

end CallCenter.Queue
