import CallCenter.Queue.IMCharge
import CallCenter.Queue.PlainProof

/-!
# The agent an IM attempt is charged to

The local `agent` of `InboundIMQueue.run` survives the agent: after a decline, a failed preview or a
skipped initiator it still names someone whom the attempt has given up. When the loop that waits for
an agent then ends the attempt, it is this agent who is missed or reported. The invariant follows
the two ideas of the agent through both loops, with the offers whose missed event is out.
-/

namespace CallCenter.Queue

open Lib

/-- The loop that waits ends the attempt (a cancel, the context, the end of the session, or the
timer with a chat that is not bridged or is idle) only when it has no agent. -/
def EndsUnoffered (m : IMRecord) : Exchange Action.Reply → Prop
  | ⟨.select .waitIM, s⟩ => s = .cancel ∨ s = .contextDone ∨ s = .sessionDone → m.held = none
  | ⟨.read (.attempt .bridgedAt), v⟩ => m.waits = true → m.held ≠ none → v = true
  | ⟨.read (.attempt .idleAgent), v⟩ | ⟨.read (.attempt .idleClient), v⟩
  | ⟨.read (.attempt .idleDialog), v⟩ => m.waits = true → m.held ≠ none → v = false
  | _ => True

/-! ## The invariants -/

/-- Each agent who was brought is missed at most once. -/
structure Offers (m : IMRecord) : Prop where
  nodup : m.missedFor.Nodup
  old : ∀ n ∈ m.missedFor, n < m.brought
  held : ∀ n ∈ m.held, n < m.brought
  pending : m.pending = true → m.rowWaits = false
  outcome : m.outcome = none

/-- The attempt waits for an agent, or has one whose missed event is not out. -/
structure Tidy (m : IMRecord) : Prop extends Offers m where
  agent : ∀ n ∈ m.agent, n < m.brought ∧ n ∉ m.missedFor
  row : m.agent.isSome = true → m.rowWaits = false

/-- An agent was brought, and is given up: the attempt may still name the agent. -/
structure Leaving (m : IMRecord) : Prop extends Offers m where
  hasAgent : m.held.isSome = true
  away : m.waits = false

/-- The missed event of the agent is not out yet. -/
structure Missing (m : IMRecord) : Prop extends Leaving m where
  fresh : ∀ n ∈ m.held, n ∉ m.missedFor

/-- The agent who was brought has the offer. -/
structure Offered (m : IMRecord) : Prop extends Tidy m where
  away : m.waits = false
  agent_eq : m.agent = m.held
  hasAgent : m.held.isSome = true
  received : m.pending = false

structure GivenUp (m : IMRecord) : Prop extends Tidy m where
  away : m.waits = false
  hasAgent : m.held.isSome = true

/-- The agent who ends the attempt was not missed. -/
structure Charging (m : IMRecord) : Prop where
  nodup : m.missedFor.Nodup
  away : m.waits = false
  row : m.rowWaits = false
  agent : ∃ n, m.final = some n ∧ m.agent = some n ∧ n ∉ m.missedFor

structure Ended (m : IMRecord) : Prop where
  nodup : m.missedFor.Nodup
  abandoned : m.waits = true → m.outcome = some .abandoned

theorem Offers.bring {m : IMRecord} (h : Offers m) : Offers m.bring where
  nodup := h.nodup
  old n hn := Nat.lt_succ_of_lt (h.old n hn)
  held n hn := Nat.lt_succ_of_lt (h.held n hn)
  pending _ := rfl
  outcome := h.outcome

theorem Tidy.bring {m : IMRecord} (h : Tidy m) : Tidy m.bring where
  toOffers := h.toOffers.bring
  agent n hn := by
    cases hn
    exact ⟨Nat.lt_succ_self _, fun hmem => Nat.lt_irrefl _ (h.old _ hmem)⟩
  row _ := rfl

theorem Offered.missing {m : IMRecord} (h : Offered m) : Missing m where
  toOffers := h.toOffers
  hasAgent := h.hasAgent
  away := h.away
  fresh n hn := (h.agent n (h.agent_eq ▸ hn)).2

theorem Offered.givenUp {m : IMRecord} (h : Offered m) : GivenUp m := { h with }

theorem Leaving.clear {m : IMRecord} (h : Leaving m) : GivenUp { m with agent := none } where
  toOffers := { h.toOffers with }
  agent _ hn := absurd hn (Option.not_mem_none _)
  row := nofun
  away := h.away
  hasAgent := h.hasAgent

theorem Missing.event {m : IMRecord} (h : Missing m) :
    Leaving { m with missedFor := m.missing.toList ++ m.missedFor } := by
  have hmissing : m.missing = m.held := if_neg (by rw [h.outcome]; nofun)
  obtain ⟨n, hn⟩ := Option.isSome_iff_exists.mp h.hasAgent
  have hlist : m.missing.toList ++ m.missedFor = n :: m.missedFor := by
    rw [hmissing, hn]
    rfl
  rw [hlist]
  exact { h with
    nodup := List.nodup_cons.mpr ⟨h.fresh n hn, h.nodup⟩
    old := List.forall_mem_cons.mpr ⟨h.held n hn, h.old⟩ }

theorem Charging.ended {m : IMRecord} (h : Charging m) : Ended m :=
  ⟨h.nodup, fun hw => absurd hw (by rw [h.away]; nofun)⟩

theorem Charging.charged {m : IMRecord} (h : Charging m) :
    ∃ n, m.charged = some n ∧ m.agent = some n ∧ n ∉ m.missedFor := by
  obtain ⟨n, hfinal, hagent, hfresh⟩ := h.agent
  exact ⟨n, (if_neg (by rw [h.away]; nofun)).trans hfinal, hagent, hfresh⟩

theorem Charging.event {m : IMRecord} (h : Charging m) (houtcome : m.outcome = some .missed) :
    Ended { m with missedFor := m.missing.toList ++ m.missedFor } := by
  obtain ⟨n, hcharged, -, hfresh⟩ := h.charged
  have hlist : m.missing.toList ++ m.missedFor = n :: m.missedFor := by
    rw [IMRecord.missing, if_pos houtcome, hcharged]
    rfl
  rw [hlist]
  exact ⟨List.nodup_cons.mpr ⟨hfresh, h.nodup⟩, fun hw => absurd hw (by rw [h.away]; nofun)⟩

/-! ## What is known of the agent -/

inductive ChargePhase where
  /-- Nothing was asked yet, and nobody was brought. -/
  | fresh
  /-- The target of a transfer to an agent, who is not distributed yet. -/
  | target
  | waiting (agent : Bool)
  /-- The loop that waits has received something other than an agent. -/
  | timed (agent : Bool)
  | offered | missing | leaving | givenUp
  /-- `finalizeAttempt` has an agent, who may have been stored as missed. -/
  | charging | charged
  | ended
  deriving DecidableEq

instance : Listed ChargePhase where
  all := [.fresh, .target, .waiting true, .waiting false, .timed true, .timed false, .offered,
    .missing, .leaving, .givenUp, .charging, .charged, .ended]
  mem_all p := by cases p <;> first | decide | (rename_i agent; cases agent <;> decide)

namespace ChargePhase

/-- At the head of the loop that waits, with or without an agent in the local variable. -/
def waits (agent : Bool) (p : ChargePhase) : Bool :=
  decide (p = waiting agent ∨ p = timed agent ∨ agent = true ∧ p = givenUp)

def safe (p : ChargePhase) : Action → Bool
  | .store (.setFindAgentState _) => decide (p = fresh ∨ p = offered)
  | .store .setAttemptMissedAgent => decide (p = offered)
  | .distributeAgent => decide (p = target)
  | .clearAgent => decide (p = leaving)
  | .select .waitIM => p.waits true || p.waits false
  | .read (.attempt .agentSet) => decide (p = offered ∨ p = givenUp)
  | .store .setAttemptAbandonedWithParams => decide (p = timed false ∨ p = givenUp)
  | .store .setAttemptMissed | .getAttempt | .read (.attempt .draft) => decide (p = charging)
  | .setState .missed => decide (p = missing ∨ p = charged)
  | _ => true

def after (p : ChargePhase) : Exchange Action.Reply → Option ChargePhase
  | ⟨.store (.setFindAgentState _), ok⟩ =>
    some (if p = fresh then if ok then waiting false else fresh else leaving)
  | ⟨.store .setAttemptMissedAgent, ok⟩ => some (if ok then missing else givenUp)
  | ⟨.distributeAgent, _⟩ => some (waiting false)
  | ⟨.clearAgent, _⟩ => some givenUp
  -- The loop ends the attempt only when it has no agent.
  | ⟨.select .waitIM, s⟩ =>
    match s with
    | .agents => some offered
    | .timeout => some (timed (p.waits true))
    | .cancel | .contextDone | .sessionDone => if p.waits true then none else some (timed false)
  | ⟨.read (.attempt .bridgedAt), v⟩ => if p = timed true ∧ v = false then none else some p
  | ⟨.read (.attempt .idleAgent), v⟩ | ⟨.read (.attempt .idleClient), v⟩
  | ⟨.read (.attempt .idleDialog), v⟩ => if p = timed true ∧ v = true then none else some p
  | ⟨.read (.attempt .agentSet), v⟩ => some (if v then charging else givenUp)
  | ⟨.store .setAttemptAbandonedWithParams, _⟩ => some ended
  | ⟨.store .setAttemptMissed, _⟩ => some charged
  | ⟨.setState .missed, _⟩ => some (if p = missing then leaving else ended)
  | _ => some p

/-- What is known is so. -/
def Covers (m : IMRecord) : ChargePhase → Prop
  | fresh => Tidy m ∧ m.held = none ∧ m.waits = false ∧ m.rowWaits = false ∧ m.agent = none
    ∧ m.pending = false
  | target => Tidy m ∧ m.held = none ∧ m.rowWaits = false
  | waiting agent => Tidy m ∧ m.held.isSome = agent
  | timed agent => Tidy m ∧ m.held.isSome = agent ∧ m.waits = true
  | offered => Offered m
  | missing => Missing m
  | leaving => Leaving m
  | givenUp => GivenUp m
  | charging => Charging m
  | charged => Charging m ∧ m.outcome = some .missed
  | ended => Ended m

end ChargePhase

def chargeTracker : Tracker Action.Reply ChargePhase := ⟨ChargePhase.safe, ChargePhase.after⟩

abbrev ImMeets {α : Type} (p : Go α) (c : ChargePhase) (Q : α → ChargePhase → Prop) : Prop :=
  Meets chargeTracker.contract p c Q

section Covers

variable {p : ChargePhase} {m m' : IMRecord}

theorem ChargePhase.Covers.bring (h : p.Covers m) (hrow : m.rowWaits = true) :
    p.Covers m.bring := by
  cases p with
  | fresh => exact absurd hrow (by rw [h.2.2.2.1]; nofun)
  | target => exact absurd hrow (by rw [h.2.2]; nofun)
  | waiting agent | timed agent => exact ⟨h.1.bring, h.2⟩
  | offered => exact absurd hrow (by rw [h.row (h.agent_eq ▸ h.hasAgent)]; nofun)
  | missing | leaving => exact { h with toOffers := h.toOffers.bring }
  | givenUp => exact { h with toTidy := h.toTidy.bring }
  | charging => exact absurd hrow (by rw [h.row]; nofun)
  | charged => exact absurd hrow (by rw [h.1.row]; nofun)
  | ended => exact ⟨h.nodup, h.abandoned⟩

theorem ChargePhase.Covers.nodup (h : p.Covers m) : m.missedFor.Nodup := by
  cases p with
  | fresh | target | waiting agent | timed agent => exact h.1.nodup
  | charged => exact h.1.nodup
  | _ => exact h.nodup

theorem ChargePhase.Covers.waits {agent : Bool} (h : p.Covers m) (hp : p.waits agent = true) :
    Tidy m ∧ m.held.isSome = agent := by
  rcases of_decide_eq_true hp with rfl | rfl | ⟨rfl, rfl⟩
  · exact h
  · exact ⟨h.1, h.2.1⟩
  · exact ⟨h.toTidy, h.hasAgent⟩

theorem ChargePhase.Covers.wait {s : IMWait} (h : p.Covers m)
    (hsafe : (p.waits true || p.waits false) = true)
    (hends : EndsUnoffered m ⟨.select .waitIM, s⟩)
    (hex : m.exchange ⟨.select .waitIM, s⟩ = some m') :
    ∃ p', p.after ⟨.select .waitIM, s⟩ = some p' ∧ p'.Covers m' := by
  have hwaits : Tidy m ∧ m.held.isSome = p.waits true := by
    cases htrue : p.waits true with
    | true => exact h.waits htrue
    | false =>
      rw [htrue, Bool.false_or] at hsafe
      exact h.waits hsafe
  by_cases hs : s = .agents
  · subst hs
    simp only [IMRecord.exchange, if_true] at hex
    obtain ⟨⟨hpending, hagent⟩, rfl⟩ := of_guard hex
    exact ⟨.offered, rfl, { hwaits.1 with
      held := fun n hn => (hwaits.1.agent n hn).1
      pending := nofun
      away := rfl
      agent_eq := rfl
      hasAgent := hagent
      received := rfl }⟩
  · simp only [IMRecord.exchange, if_neg hs] at hex
    cases hex
    have htimed : (ChargePhase.timed (p.waits true)).Covers { m with waits := true } :=
      ⟨{ hwaits.1 with }, hwaits.2, rfl⟩
    cases s with
    | agents => exact absurd rfl hs
    | timeout => exact ⟨_, rfl, htimed⟩
    | cancel | contextDone | sessionDone =>
      have hnone : p.waits true = false := by
        rw [← hwaits.2, hends (by simp)]
        rfl
      rw [hnone] at htimed
      exact ⟨_, if_neg (by rw [hnone]; nofun), htimed⟩

theorem ChargePhase.Covers.exchange {e : Exchange Action.Reply} (h : p.Covers m)
    (hsafe : p.safe e.1 = true) (hends : EndsUnoffered m e) (hex : m.exchange e = some m') :
    ∃ p', p.after e = some p' ∧ p'.Covers m' := by
  -- the limits of a bridged chat: one with an agent goes on
  have hlimit : p = .timed true → m.waits = true ∧ m.held ≠ none := by
    rintro rfl
    exact ⟨h.2.2, fun hnone => absurd h.2.1 (by rw [hnone]; nofun)⟩
  obtain ⟨o, v⟩ := e
  cases o with
  | select s =>
    cases s with
    | waitIM => exact h.wait hsafe hends hex
    | _ => cases hex; exact ⟨_, rfl, h⟩
  | store c =>
    cases c with
    | setFindAgentState b =>
      cases hex
      rcases of_decide_eq_true hsafe with rfl | rfl
      · obtain ⟨htidy, hheld, hwaits, hrow, hagent, hpending⟩ := h
        cases v with
        | false =>
          rw [Bool.or_false]
          exact ⟨_, rfl, htidy, hheld, hwaits, hrow, hagent, hpending⟩
        | true =>
          refine ⟨_, rfl, { htidy with pending := fun hp => ?_, row := fun ha => ?_ },
            by rw [hheld]; rfl⟩
          · exact absurd hp (by rw [hpending]; nofun)
          · exact absurd ha (by rw [hagent]; nofun)
      · exact ⟨_, rfl, { h.missing.toLeaving with
          pending := fun hp => absurd hp (by rw [h.received]; nofun) }⟩
    | setAttemptMissedAgent =>
      cases hex
      obtain rfl := of_decide_eq_true hsafe
      cases v with
      | false =>
        rw [Bool.or_false]
        exact ⟨_, rfl, h.givenUp⟩
      | true => exact ⟨_, rfl, { h.missing with
          pending := fun hp => absurd hp (by rw [h.received]; nofun) }⟩
    | setAttemptAbandonedWithParams =>
      cases hex
      have hnodup := h.nodup
      exact ⟨_, rfl, hnodup, fun _ => rfl⟩
    | setAttemptMissed =>
      cases hex
      obtain rfl := of_decide_eq_true hsafe
      exact ⟨_, rfl, { h with }, rfl⟩
    | _ => cases hex; exact ⟨_, rfl, h⟩
  | distributeAgent =>
    cases hex
    obtain rfl := of_decide_eq_true hsafe
    exact ⟨_, rfl, { h.1 with pending := fun _ => h.2.2 }, by rw [h.2.1]; rfl⟩
  | clearAgent =>
    cases hex
    obtain rfl := of_decide_eq_true hsafe
    exact ⟨_, rfl, Leaving.clear h⟩
  | getAttempt =>
    cases hex
    obtain rfl := of_decide_eq_true hsafe
    exact ⟨_, rfl, { h with }⟩
  | setState s =>
    cases s with
    | missed =>
      cases hex
      rcases of_decide_eq_true hsafe with rfl | rfl
      · exact ⟨_, rfl, Missing.event h⟩
      · exact ⟨_, rfl, Charging.event h.1 h.2⟩
    | _ => cases hex; exact ⟨_, rfl, h⟩
  | read d =>
    cases d with
    | attempt f =>
      cases f with
      | draft =>
        cases hex
        obtain rfl := of_decide_eq_true hsafe
        exact ⟨_, rfl, { h with }⟩
      | agentSet =>
        obtain ⟨hv, rfl⟩ := of_guard hex
        have hgiven : GivenUp m := by
          rcases of_decide_eq_true hsafe with rfl | rfl
          · exact h.givenUp
          · exact h
        cases v with
        | false => exact ⟨_, rfl, { hgiven with }⟩
        | true =>
          obtain ⟨n, hn⟩ := Option.isSome_iff_exists.mp hv.symm
          exact ⟨_, rfl, hgiven.nodup, hgiven.away, hgiven.row hv.symm, n, hn, hn,
            (hgiven.agent n hn).2⟩
      | bridgedAt =>
        cases hex
        refine ⟨_, if_neg fun ⟨hp, hv⟩ => ?_, h⟩
        cases hv.symm.trans (hends (hlimit hp).1 (hlimit hp).2)
      | idleAgent | idleClient | idleDialog =>
        cases hex
        refine ⟨_, if_neg fun ⟨hp, hv⟩ => ?_, h⟩
        cases hv.symm.trans (hends (hlimit hp).1 (hlimit hp).2)
      | _ => cases hex; exact ⟨_, rfl, h⟩
    | _ => cases hex; exact ⟨_, rfl, h⟩
  | _ => cases hex; exact ⟨_, rfl, h⟩

end Covers

/-! ## The parts of the goroutine -/

/-- Changes nothing that is known. -/
def keepsRecord : Action → Bool
  | .store (.setFindAgentState _) | .store .setAttemptMissedAgent
  | .store .setAttemptAbandonedWithParams | .store .setAttemptMissed => false
  | .distributeAgent | .clearAgent | .getAttempt | .select .waitIM | .setState .missed => false
  | .read (.attempt .agentSet) | .read (.attempt .draft) | .read (.attempt .bridgedAt) => false
  | .read (.attempt .idleAgent) | .read (.attempt .idleClient) => false
  | .read (.attempt .idleDialog) => false
  | _ => true

theorem unchanged_of_keeps {p : ChargePhase} {o : Action} (h : keepsRecord o = true) :
    p.safe o = true ∧ ∀ v, p.after ⟨o, v⟩ = some p := by
  cases o with
  | store c => cases c <;> first | exact ⟨rfl, fun _ => rfl⟩ | cases h
  | select s => cases s <;> first | exact ⟨rfl, fun _ => rfl⟩ | cases h
  | setState s => cases s <;> first | exact ⟨rfl, fun _ => rfl⟩ | cases h
  | read r =>
    cases r with
    | attempt f => cases f <;> first | exact ⟨rfl, fun _ => rfl⟩ | cases h
    | _ => exact ⟨rfl, fun _ => rfl⟩
  | distributeAgent | clearAgent | getAttempt => cases h
  | _ => exact ⟨rfl, fun _ => rfl⟩

theorem kept_part {α : Type} {part : Go α} {p : ChargePhase}
    (h : part.Only fun o => keepsRecord o = true) : ImMeets part p fun _ p' => p' = p :=
  Meets.kept (h.imp fun _ => unchanged_of_keeps)

/-- The goroutine may return: an attempt that still waits was abandoned. -/
def ChargePhase.over (p : ChargePhase) : Bool :=
  decide (p = .fresh ∨ p = .offered ∨ p = .charging ∨ p = .charged ∨ p = .ended)

variable (q : QueueConfig)

theorem meets_missAgent :
    ImMeets (InboundIMQueue.missAgent q) .offered fun _ p => decide (p = .givenUp) = true := by
  unfold InboundIMQueue.missAgent
  cases q.transferAgent <;> exact .track rfl

theorem meets_checkIdleTimeouts (agent : Bool) :
    ImMeets (InboundIMQueue.checkIdleTimeouts q) (.timed agent) fun v p =>
      decide (p = .timed agent ∧ (agent = true → v = true)) = true := by
  unfold InboundIMQueue.checkIdleTimeouts
  cases agent <;> cases decide (0 < q.maxIdleAgent) <;> cases decide (0 < q.maxIdleClient) <;>
    cases decide (0 < q.maxIdleDialog) <;> exact .track rfl

/-! ## The end of the attempt -/

theorem only_cleanupSession (agent : Bool) :
    (InboundIMQueue.cleanupSession agent).Only fun o => keepsRecord o = true := by
  cases agent <;> exact .walk rfl

theorem meets_cleanupSession {p : ChargePhase} {agent : Bool} (hp : p.over = true) :
    ImMeets (InboundIMQueue.cleanupSession agent) p fun _ p' => p'.over = true :=
  (kept_part (only_cleanupSession agent)).imp fun _ _ h => h ▸ hp

theorem meets_imAbandoned {l : InboundIMQueue.Locals} {p : ChargePhase} (hl : l.agent = false)
    (hp : p.safe (.store .setAttemptAbandonedWithParams) = true) :
    ImMeets (InboundIMQueue.finalizeAttempt q l) p fun _ p' => p'.over = true := by
  refine Meets.seq (kept_part (.walk rfl)) fun _ p₁ hp₁ => ?_
  subst hp₁
  refine Meets.seq (R := fun _ p => p.over = true) ?_ fun _ p₂ hp₂ => meets_cleanupSession hp₂
  unfold InboundIMQueue.endAttempt
  rw [hl]
  refine Meets.ask hp fun _ p₂ hp₂ => ?_
  cases hp₂
  exact .track rfl

theorem charging_reporting (agentSendReporting transfer : Bool) :
    ImMeets (reporting q agentSendReporting transfer) .charging fun _ p => p.over = true := by
  have hpart : (reporting q agentSendReporting transfer).Only fun o =>
      keepsRecord o = true ∨ o = .getAttempt ∨ o = .read (.attempt .draft) := by
    refine .bind (only_andThen (.pure _) (.walk rfl)) fun _ => .ite (.walk rfl) ?_
    refine .bind (.walk rfl) fun _ => .ite (.walk rfl) ?_
    exact .bind (only_orElse (.pure _) (.walk rfl)) fun _ => .ite (.walk rfl) (.walk rfl)
  refine (Meets.kept (hpart.imp fun o ho => ?_)).imp fun _ _ h => h ▸ rfl
  rcases ho with ho | rfl | rfl
  · exact unchanged_of_keeps ho
  · exact ⟨rfl, fun _ => rfl⟩
  · exact ⟨rfl, fun _ => rfl⟩

theorem meets_imCharged :
    ImMeets (InboundIMQueue.finalizeAttempt q ⟨true, true, true⟩) .charging fun _ p =>
      p.over = true := by
  refine Meets.seq (kept_part (.walk rfl)) fun _ p₁ hp₁ => ?_
  subst hp₁
  refine Meets.seq (R := fun _ p => p.over = true) ?_ fun _ p₂ hp₂ => meets_cleanupSession hp₂
  refine Meets.seq (kept_part (only_andThen (.pure _) (.walk rfl))) fun v p₂ hp₂ => ?_
  subst hp₂
  cases v with
  | true => exact .track rfl
  | false =>
    refine Meets.seq (kept_part (only_andThen (.pure _) (.walk rfl))) fun _ p₃ hp₃ => ?_
    refine Meets.seq (kept_part (.walk rfl)) fun _ p₄ hp₄ => ?_
    subst hp₃ hp₄
    exact charging_reporting q _ _

/-! ## The rounds -/

/-- After a round of the interaction: with the agent, or without and given up. -/
def interacted (r : Unit ⊕ Bool) (p : ChargePhase) : Bool :=
  match r with
  | .inl _ => decide (p = .offered)
  | .inr wait => decide (p = .givenUp ∨ wait = false ∧ p = .offered)

theorem meets_interactionRound :
    ImMeets (InboundIMQueue.interactionRound q ()) .offered fun r p => interacted r p = true := by
  refine Meets.ask rfl fun s p₁ hp₁ => ?_
  cases hp₁
  have hmiss : ImMeets (InboundIMQueue.giveUpAgent q) .offered fun r p =>
      interacted r p = true := by
    unfold InboundIMQueue.giveUpAgent InboundIMQueue.missAgent
    cases q.transferAgent <;> exact .track rfl
  cases s with
  | cancel | inviteTimeout | imTransferred | sessionDone => exact .track rfl
  | timeout =>
    unfold InboundIMQueue.checkIdleTimeouts
    cases decide (0 < q.maxIdleAgent) <;> cases decide (0 < q.maxIdleClient) <;>
      cases decide (0 < q.maxIdleDialog) <;> exact .track rfl
  | task st =>
    cases st with
    | idle => exact rfl
    | bridged =>
      refine Meets.seq (kept_part (.ite (.walk rfl) (.walk rfl))) fun joined p₂ hp₂ => ?_
      subst hp₂
      cases joined with
      | true => exact .track rfl
      | false => exact hmiss
    | closed =>
      refine Meets.ask rfl fun declined p₂ hp₂ => ?_
      cases hp₂
      cases declined with
      | true => exact hmiss
      | false => exact rfl

/-- After a round of the loop that waits. -/
def waited (r : InboundIMQueue.Locals ⊕ Unit) (p : ChargePhase) : Bool :=
  match r with
  | .inl l => p.waits l.agent
  | .inr _ => p.over

variable (rounds : Nat)

theorem meets_interact :
    ImMeets (InboundIMQueue.interact q rounds) .offered fun r p => waited r p = true := by
  refine Meets.seq (kept_part (.walk rfl)) fun _ p₁ hp₁ => ?_
  refine Meets.seq (kept_part (.walk rfl)) fun _ p₂ hp₂ => ?_
  subst hp₁ hp₂
  refine Meets.seq (R := fun wait p => decide (p = .givenUp ∨ wait = false ∧ p = .offered) = true)
    ?_ fun wait p₁ hp₁ => ?_
  · refine meets_loop (fun _ p => p = .offered) (fun _ p hp => ?_) rounds rfl
    subst hp
    refine (meets_interactionRound q).imp fun r p' hr => ?_
    cases r with
    | inl _ => exact of_decide_eq_true (p := p' = .offered) hr
    | inr _ => exact hr
  · cases wait with
    | true =>
      obtain rfl := (of_decide_eq_true hp₁).resolve_right nofun
      exact rfl
    | false =>
      have hfinal : ∀ p, p = .givenUp ∨ p = .offered → ImMeets (do
          let agent ← readAttempt .agentSet
          InboundIMQueue.finalize q ⟨agent, true, true⟩) p fun r p => waited r p = true := by
        intro p hp
        refine Meets.ask (decide_eq_true hp.symm) fun agent p₂ hp₂ => ?_
        cases hp₂
        cases agent with
        | true => exact Meets.seq (meets_imCharged q) fun _ _ h => h
        | false =>
          exact Meets.seq (meets_imAbandoned q (l := ⟨false, true, true⟩) rfl rfl) fun _ _ h => h
      exact hfinal p₁ ((of_decide_eq_true hp₁).imp_right fun h => h.2)

theorem meets_imOffer :
    ImMeets (InboundIMQueue.offerAgent q rounds) .offered fun r p => waited r p = true := by
  refine Meets.seq (kept_part (.ite (.walk rfl) (.pure _))) fun r p₁ hp₁ => ?_
  subst hp₁
  cases r with
  | ok | special => exact meets_interact q rounds
  | failed =>
    refine Meets.seq (meets_missAgent q) fun wait p₂ hp₂ => ?_
    obtain rfl := of_decide_eq_true hp₂
    cases wait with
    | true => exact rfl
    | false =>
      exact Meets.seq (meets_imAbandoned q (l := ⟨false, true, true⟩) rfl rfl) fun _ _ h => h

theorem waits_agent {p : ChargePhase} {agent : Bool} (hp : p.waits agent = true) :
    p.waits true = agent := by
  rcases of_decide_eq_true hp with rfl | rfl | ⟨rfl, rfl⟩
  · cases agent <;> rfl
  · cases agent <;> rfl
  · rfl

theorem meets_chargeWaitRound {l : InboundIMQueue.Locals} {p : ChargePhase}
    (hp : p.waits l.agent = true) :
    ImMeets (InboundIMQueue.waitRound q rounds l) p fun r p' => waited r p' = true := by
  have hend : l.agent = false → ImMeets (InboundIMQueue.finalize q l) (.timed false) fun r p =>
      waited r p = true :=
    fun hl => Meets.seq (meets_imAbandoned q hl rfl) fun _ _ h => h
  have hsafe : (p.waits true || p.waits false) = true := by
    cases hl : l.agent with
    | true => exact Bool.or_eq_true_iff.mpr (.inl (hl ▸ hp))
    | false => exact Bool.or_eq_true_iff.mpr (.inr (hl ▸ hp))
  refine Meets.ask hsafe fun s p₁ hp₁ => ?_
  have hafter : p.after ⟨.select .waitIM, s⟩ = some p₁ := hp₁
  simp only [ChargePhase.after, waits_agent hp] at hafter
  cases s with
  | cancel | contextDone | sessionDone =>
    obtain ⟨hl, hp₁⟩ := Option.ite_none_left_eq_some.mp hafter
    cases hp₁
    exact hend ((Bool.not_eq_true _).mp hl)
  | timeout =>
    cases hafter
    refine Meets.seq (meets_checkIdleTimeouts q l.agent) fun v p₂ hp₂ => ?_
    obtain ⟨rfl, hv⟩ := of_decide_eq_true hp₂
    cases v with
    | true => exact decide_eq_true (.inr (.inl rfl))
    | false =>
      -- an attempt with an agent would have gone on
      have hl : l.agent = false := (Bool.not_eq_true _).mp fun hl => nomatch hv hl
      rw [hl]
      exact hend hl
  | agents =>
    cases hafter
    refine Meets.seq (kept_part (.walk rfl)) fun ok p₂ hp₂ => ?_
    subst hp₂
    cases ok with
    | false => exact rfl
    | true =>
      refine Meets.seq (kept_part (.walk rfl)) fun skip p₃ hp₃ => ?_
      subst hp₃
      cases skip with
      | true => exact .track rfl
      | false => exact meets_imOffer q rounds

theorem meets_waitAgents {p : ChargePhase}
    (hp : p = if q.transferAgent then .target else .waiting false) :
    ImMeets (InboundIMQueue.waitAgents q rounds) p fun _ p' => p'.over = true := by
  refine Meets.seq (kept_part (.walk rfl)) fun _ p₁ hp₁ => ?_
  refine Meets.seq (kept_part (.walk rfl)) fun _ p₂ hp₂ => ?_
  subst hp₁ hp₂ hp
  refine Meets.seq (R := fun _ p => decide (p = .waiting false) = true) ?_ fun _ p₃ hp₃ => ?_
  · unfold InboundIMQueue.distributeTransfer
    cases q.transferAgent <;> exact .track rfl
  · obtain rfl := of_decide_eq_true hp₃
    refine meets_loop (fun (l : InboundIMQueue.Locals) p => p.waits l.agent = true)
      (fun l p hp => (meets_chargeWaitRound q rounds hp).imp fun r p' hr => ?_) rounds rfl
    cases r <;> exact hr

theorem meets_imRun :
    ImMeets (InboundIMQueue.run q rounds) (if q.transferAgent then .target else .fresh)
      fun _ p => p.over = true := by
  unfold InboundIMQueue.run
  have hwait := fun p => meets_waitAgents q rounds (p := p)
  cases hq : q.transferAgent with
  | true =>
    rw [hq] at hwait
    exact hwait _ rfl
  | false =>
    rw [hq] at hwait
    refine Meets.ask rfl fun ok p₁ hp₁ => ?_
    cases hp₁
    cases ok with
    | true => exact hwait _ rfl
    | false => exact rfl

/-! ## The runs -/

def UnofferedStep (w : IMWorld) : IMLabel → Prop
  | .bring => True
  | .go e => EndsUnoffered w.record e

/-- Something is known that is so, and the rest of the goroutine keeps to it. -/
def ImFollowed (w : IMWorld) : Prop :=
  ∃ p : ChargePhase, p.Covers w.record ∧ ImMeets w.prog p fun _ p' => p'.over = true

theorem tidy_start : Tidy (imStart q rounds).record where
  nodup := List.nodup_nil
  old _ h := absurd h List.not_mem_nil
  held _ h := absurd h (Option.not_mem_none _)
  pending := nofun
  outcome := rfl
  agent n hn := by
    have hn : (if q.transferAgent then some 0 else none) = some n := hn
    split at hn
    · cases hn
      exact ⟨Nat.one_pos, List.not_mem_nil⟩
    · cases hn
  row _ := rfl

theorem imFollowed_start : ImFollowed (imStart q rounds) := by
  refine ⟨_, ?_, meets_imRun q rounds⟩
  have htidy := tidy_start q rounds
  cases hq : q.transferAgent with
  | true => exact ⟨htidy, rfl, rfl⟩
  | false =>
    have hagent : (imStart q rounds).record.agent = none := if_neg (by rw [hq]; nofun)
    exact ⟨htidy, rfl, rfl, rfl, hagent, rfl⟩

theorem imStep_kept (w : IMWorld) (l : IMLabel) (w' : IMWorld) (hw : ImFollowed w)
    (hok : UnofferedStep w l) (h : imStep w l = some w') : ImFollowed w' := by
  obtain ⟨p, hcovers, hmeets⟩ := hw
  cases l with
  | bring =>
    obtain ⟨hrow, rfl⟩ := of_guard h
    exact ⟨p, hcovers.bring hrow, hmeets⟩
  | go e =>
    obtain ⟨prog, hprog, h⟩ := Option.bind_eq_some_iff.mp h
    obtain ⟨m, hm, rfl⟩ := Option.map_eq_some_iff.mp h
    obtain ⟨hsafe, hnext⟩ := hmeets.step hprog
    obtain ⟨p', hp', hcovers'⟩ := hcovers.exchange hsafe hok hm
    exact ⟨p', hcovers', hnext p' hp'⟩

theorem charging_of_safe {p : ChargePhase} {o : Action} (h : p.safe o = true)
    (ho : chargesAgent o = true) : p = .charging := by
  cases o with
  | store c => cases c <;> first | exact of_decide_eq_true h | cases ho
  | read d =>
    cases d with
    | attempt f => cases f <;> first | exact of_decide_eq_true h | cases ho
    | _ => cases ho
  | getAttempt => exact of_decide_eq_true h
  | _ => cases ho

theorem ChargePhase.Covers.over {p : ChargePhase} {m : IMRecord} (h : p.Covers m)
    (hp : p.over = true) : Ended m := by
  have hoff : m.waits = false → m.missedFor.Nodup → Ended m := fun hoff hnodup =>
    ⟨hnodup, fun hw => absurd hw (by rw [hoff]; nofun)⟩
  rcases of_decide_eq_true hp with rfl | rfl | rfl | rfl | rfl
  · exact hoff h.2.2.1 h.1.nodup
  · exact hoff h.away h.nodup
  · exact h.ended
  · exact h.1.ended
  · exact h

/-- **The attempt is charged to its agent** in every run in which the loop that waits ends the
attempt only before an agent was brought: `team.Missed` and `team.Reporting` get the agent that
the attempt holds, an attempt that ends in that loop is abandoned, and no offer has two missed
events. -/
theorem charged_to_current_agent (q : QueueConfig) (rounds : Nat) (labels : List IMLabel)
    (hok : Along imStep UnofferedStep (imStart q rounds) labels) {w : IMWorld}
    (hrun : run imStep (imStart q rounds) labels = some w) :
    (∀ o, w.prog.asking = some o → chargesAgent o = true →
      ∃ n, w.record.charged = some n ∧ w.record.agent = some n)
    ∧ (w.prog = .ret () → w.record.waits = true → w.record.outcome = some .abandoned)
    ∧ (w.prog ≠ .running → w.record.missedFor.Nodup) := by
  obtain ⟨p, hcovers, hmeets⟩ : ImFollowed w :=
    run_invariant imStep_kept labels (imFollowed_start q rounds) hok hrun
  refine ⟨fun o ho hc => ?_, fun hret => ?_, fun _ => hcovers.nodup⟩
  · obtain rfl := charging_of_safe (hmeets.asks ho) hc
    obtain ⟨n, hn, hagent, -⟩ := Charging.charged hcovers
    exact ⟨n, hn, hagent⟩
  · rw [hret] at hmeets
    exact (hcovers.over hmeets).abandoned

/-! ## Agents who are charged after they were given up -/

instance (m : IMRecord) (e : Exchange Action.Reply) : Decidable (EndsUnoffered m e) := by
  unfold EndsUnoffered
  split <;> infer_instance

instance (w : IMWorld) (l : IMLabel) : Decidable (UnofferedStep w l) := by
  unfold UnofferedStep
  split <;> infer_instance

def replied (o : Action) (v : o.Reply) : IMLabel := .go ⟨o, v⟩

def agentBrought : List IMLabel :=
  [replied (.store (.setFindAgentState false)) true, replied (.setState .waitAgent) (),
    replied .on (), .bring, replied (.select .waitIM) .agents, replied .getTeam true]

def interacting : List IMLabel :=
  [replied (.read (.attempt .transferInitiator)) false, replied (.rpc .publish) true,
    replied (.store .setAttemptOffering) false]

/-- The session ends while the agent has the thread, and the agent's report is asked for. -/
def sessionEnds : List IMLabel :=
  [replied (.select .im) .sessionDone, replied (.read (.attempt .agentSet)) true,
    replied (.read (.attempt .imTransferred)) false,
    replied (.read (.attempt .pendingIMTransfer)) false, replied (.read (.task .declined)) false,
    replied (.read (.task .reportingAt)) false, replied (.read (.attempt .imTransferred)) false]

theorem session_charged_to_agent :
    ∃ w, run imStep (imStart default 2) (agentBrought ++ interacting ++ sessionEnds) = some w
      ∧ ∃ n, w.record.charged = some n ∧ w.record.agent = some n := by
  obtain ⟨w, hrun⟩ := Option.isSome_iff_exists.mp (rfl : (run imStep (imStart default 2)
    (agentBrought ++ interacting ++ sessionEnds)).isSome = true)
  have hend : (run imStep (imStart default 2) (agentBrought ++ interacting ++ sessionEnds)).map
      (fun w => w.prog.asking) = some (some (.read (.attempt .draft))) := rfl
  rw [hrun, Option.map_some, Option.some.injEq] at hend
  exact ⟨w, hrun, (charged_to_current_agent default 2 _ (by decide) hrun).1 _ hend rfl⟩

def declines : List IMLabel :=
  [replied (.select .im) (.task .closed), replied (.read (.task .declined)) true,
    replied (.read (.attempt .hasPreview)) false, replied (.store .setAttemptMissedAgent) true,
    replied (.read (.attempt .maxNoAnswer)) false, replied (.setState .missed) (),
    replied (.rpc .publish) true, replied .clearAgent (), replied (.setState .waitAgent) ()]

/-- The attempt is cancelled in the loop that waits, and `finalizeAttempt` sees the old task. -/
def cancelledWaiting : List IMLabel :=
  [replied (.select .waitIM) .cancel, replied (.read (.attempt .imTransferred)) false,
    replied (.read (.attempt .pendingIMTransfer)) false, replied (.read (.task .declined)) true,
    replied (.read (.task .reportingAt)) false, replied .afterDistributeSchema none]

def missedAgain : List IMLabel :=
  [replied (.store .setAttemptMissed) true, replied (.read (.attempt .maxNoAnswer)) false,
    replied (.setState .missed) (), replied (.rpc .publish) true, replied .leavingMember (),
    replied (.read (.attempt .hasPreview)) false, replied (.read (.attempt .imTransferred)) false,
    replied (.rpc .removeMember) true, replied .off ()]

/-- The agent of the transfer's initiator is skipped, and the session ends in the loop that waits:
the initiator, who was not offered the thread, is asked for a report. -/
def skippedReported : List IMLabel :=
  [replied (.read (.attempt .transferInitiator)) true,
    replied (.store (.setFindAgentState true)) true, replied .clearAgent (),
    replied (.setState .waitAgent) (), replied (.select .waitIM) .sessionDone,
    replied (.read (.attempt .imTransferred)) false,
    replied (.read (.attempt .pendingIMTransfer)) false,
    replied (.read (.attempt .imTransferred)) false]

/-- An agent is charged whom the attempt does not hold, an attempt that waits is not abandoned, and
an offer has two missed events. -/
theorem charged_after_given_up :
    (run imStep (imStart default 2)
        (agentBrought ++ interacting ++ declines ++ cancelledWaiting)).map
        (fun w => (w.prog.asking, w.record.charged, w.record.agent))
      = some (some (.store .setAttemptMissed), some 1, none)
    ∧ (run imStep (imStart default 2)
        (agentBrought ++ interacting ++ declines ++ cancelledWaiting ++ missedAgain)).map
        (fun w => (w.prog.asking, w.record.waits, w.record.outcome, w.record.missedFor))
      = some (none, true, some .missed, [1, 1])
    ∧ (run imStep (imStart default 2) (agentBrought ++ skippedReported)).map
        (fun w => (w.prog.asking, w.record.charged, w.record.agent))
      = some (some (.read (.attempt .draft)), some 1, none) :=
  ⟨rfl, rfl, rfl⟩

end CallCenter.Queue
