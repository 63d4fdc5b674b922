import CallCenter.Queue.WaitQueues

/-!
# The plain parts of the goroutines

Most of what a goroutine does neither decides about the end of its attempt nor makes the
stored attempt wait for an agent. Such actions are `Plain`; the quiet parts ask for nothing
else. The routine parts also keep their hands off the calls of the goroutine. The proofs about
whole goroutines pass over them.

Every action has finitely many replies, so that a part without a loop and without settings is
walked through; the lemmas below are about the others.
-/

namespace CallCenter.Queue

open Lib Store Prog

def StoreCall.turns : StoreCall → Bool
  | .setFindAgentState _ | .setAttemptMissedAgent | .setAttemptWaitingAgent => true
  | .setAttemptReporting _ | .callbackReporting => true
  | _ => false

/-- An action that does not decide about the attempt: no waiting for an agent, no
leaving or reporting, and no reply after which some goroutine just returns. -/
def Plain : Action → Prop
  | .store c => c.turns = false
  | .select s => s.waits = false
  | .read r => r ≠ .call .agent .acceptAt ∧ r ≠ .call .member .err ∧ r ≠ .attempt .draft
  | .answerPredictAndFindAgent | .getTeam | .leavingMember | .getAttempt | .crash => False
  | _ => True

instance : DecidablePred Plain := fun a => by
  unfold Plain
  split <;> infer_instance

abbrev Quiet {α : Type} (p : Go α) : Prop := p.Only Plain

/-- The actions by which a goroutine takes up, replaces or listens to a call, or a chat. -/
def Action.handlesLegs : Action → Bool
  | .select _ | .newAgentCall | .clearAgentCall | .setCall _ | .inviteInternal => true
  | .rpc (.invite .agent) | .rpc (.getTransferredCall .agent) => true
  | _ => false

/-- A part of a goroutine that handles no call. -/
abbrev Aloof {α : Type} (p : Go α) : Prop := p.Only fun a => a.handlesLegs = false

abbrev Routine {α : Type} (p : Go α) : Prop := p.Only fun a => Plain a ∧ a.handlesLegs = false

theorem Routine.quiet {α : Type} {p : Go α} (h : Routine p) : Quiet p := h.imp fun _ h => h.1

theorem Routine.aloof {α : Type} {p : Go α} (h : Routine p) : Aloof p := h.imp fun _ h => h.2

/-! ## The replies -/

instance : Listed CallState where
  all := [.new, .invite, .ringing, .progress, .accept, .join, .leaving, .bridge, .hold, .detectAmd,
    .hangup]
  mem_all s := by cases s <;> decide

instance : Listed ChatState := ⟨[.idle, .invite, .declined, .bridge, .close], fun s => by
  cases s <;> decide⟩

instance : Listed TaskState := ⟨[.idle, .bridged, .closed], fun s => by cases s <;> decide⟩

def Select.signals : (s : Select) → List s.Signal
  | .call => .hangup :: Listed.all.map .state
  | .member => .cancel :: .hangup :: Listed.all.map .state
  | .outbound => .cancel :: Listed.all.map .state
  | .legs => Listed.all.map .agent ++ Listed.all.map .member
  | .offer => .cancel :: (Listed.all.map .agent ++ Listed.all.map .member)
  | .waitCall => [.timeout, .contextDone, .cancel, .agents] ++ Listed.all.map .member
  | .waitChat _ => [.cancel, .contextDone, .agents, .timeout]
  | .chat _ => [.cancel, .timeout, .contextDone] ++ Listed.all.map .state
  | .waitIM => [.cancel, .contextDone, .sessionDone, .agents, .timeout]
  | .im => [.cancel, .imTransferred, .sessionDone, .inviteTimeout, .timeout]
    ++ Listed.all.map .task
  | .task => .timeout :: Listed.all.map .state

theorem mem_signals (s : Select) (signal : s.Signal) : signal ∈ s.signals := by
  -- the signals of a chat do not depend on what is held
  cases s with
  | waitChat held => cases held <;> cases signal <;> decide
  | chat held =>
    cases signal with
    | state s => cases held <;> cases s <;> decide
    | _ => cases held <;> decide
  | _ => cases signal <;> first | decide | (rename_i s; cases s <;> decide)

def Action.replies : (a : Action) → List a.Reply
  | .setState _ | .clearAgent | .on | .off | .distributeAgent | .leavingMember => [()]
  | .newAgentCall | .clearAgentCall | .setCall _ => [()]
  | .store _ | .rpc _ | .confirmAttempt | .getTeam | .getAttempt => [true, false]
  | .answerPredictAndFindAgent => [.failed, .released, .kept]
  | .flipAttemptResource => [.failed, .noResource, .flipped true, .flipped false]
  | .inviteInternal | .givePreview => [.ok, .special, .failed]
  | .doDistributeAttempt => [.failed, .cancel, .confirm]
  | .afterDistributeSchema =>
    [none, some ⟨true, true⟩, some ⟨true, false⟩, some ⟨false, true⟩, some ⟨false, false⟩]
  | .read _ => [true, false]
  | .select s => s.signals
  | .crash => []

instance (a : Action) : Listed a.Reply where
  all := a.replies
  mem_all r := by
    cases a with
    | select s => exact mem_signals s r
    | afterDistributeSchema => rcases r with _ | ⟨_ | _, _ | _⟩ <;> decide
    | flipAttemptResource => rcases r with _ | _ | (_ | _) <;> decide
    | crash => cases r
    | _ => cases r <;> simp [Action.replies]

/-! ## Parts with settings or loops -/

section Only

variable {P : Action → Prop} {a b : Go Bool}

theorem only_andThen (ha : a.Only P) (hb : b.Only P) : (andThen a b).Only P :=
  .bind ha fun _ => .ite hb (.pure _)

theorem only_orElse (ha : a.Only P) (hb : b.Only P) : (orElse a b).Only P :=
  .bind ha fun _ => .ite (.pure _) hb

end Only

variable (q : QueueConfig)

theorem routine_doDistributeSchema : Routine (doDistributeSchema q) :=
  .ite (.walk rfl) (.walk rfl)

theorem quiet_progressiveRound (rounds : Nat) (agentCall : Bool) :
    Quiet (ProgressiveCallQueue.round rounds agentCall) := by
  have hanswer : Quiet (ProgressiveCallQueue.answered rounds agentCall) := by
    refine .bind (.walk rfl) fun _ => .ite (.walk rfl) (.bind (.walk rfl) fun _ =>
      .ite ?_ (.walk rfl))
    refine .bind (.walk rfl) fun _ => .bind (.walk rfl) fun _ => .ite (.walk rfl) ?_
    exact .bind (.walk rfl) fun _ => .bind (.loop (fun _ => .walk rfl) _ _) fun _ =>
      .ite (.walk rfl) (.walk rfl)
  refine .bind (.walk rfl) fun signal => ?_
  cases signal with
  | state s =>
    cases s with
    | accept => exact hanswer
    | detectAmd => exact hanswer
    | _ => exact .walk rfl
  | _ => exact .walk rfl

theorem only_checkIdle {P : Action → Prop}
    (hread : ∀ f ∈ [ConvField.idleAgent, .idleClient, .idleDialog], P (.read (.conv f)))
    (hleave : P (.rpc .leaveChat)) : (InboundChatQueue.checkIdle q).Only P := by
  have hcheck : ∀ {limit : Nat} {f : ConvField} {rest : Go Unit}, P (.read (.conv f)) →
      rest.Only P → (do
        if ← andThen (pure (0 < limit)) (readConv f) then
          let _ ← rpc .leaveChat
        else rest).Only P :=
    fun hf hrest => .bind (only_andThen (.pure _) (.request hf)) fun _ =>
      .ite (.bind (.request hleave) fun _ => .pure _) hrest
  exact hcheck (hread _ (by decide)) (hcheck (hread _ (by decide))
    (hcheck (hread _ (by decide)) (.pure _)))

theorem only_checkIdleTimeouts {P : Action → Prop}
    (hread : ∀ f ∈ [AttemptField.bridgedAt, .idleAgent, .idleClient, .idleDialog],
      P (.read (.attempt f))) :
    (InboundIMQueue.checkIdleTimeouts q).Only P := by
  have hlimit : ∀ {limit : Nat} {f : AttemptField} {rest : Go Bool}, P (.read (.attempt f)) →
      rest.Only P → (do
        if ← andThen (pure (0 < limit)) (readAttempt f) then pure false else rest).Only P :=
    fun hf hrest => .bind (only_andThen (.pure _) (.request hf)) fun _ => .ite (.pure _) hrest
  refine .bind (.bind (.request (hread _ (by decide))) fun _ => .ite (.pure _) (.pure _)) fun _ =>
    .ite (.pure _) ?_
  exact hlimit (hread _ (by decide)) (hlimit (hread _ (by decide))
    (hlimit (hread _ (by decide)) (.pure _)))

theorem quiet_checkIdle : Quiet (InboundChatQueue.checkIdle q) :=
  only_checkIdle q (by decide) trivial

theorem quiet_checkIdleTimeouts : Quiet (InboundIMQueue.checkIdleTimeouts q) :=
  only_checkIdleTimeouts q (by decide)

theorem quiet_joinAgent : Quiet (InboundIMQueue.joinAgent q) :=
  .ite (.walk rfl) (.walk rfl)

theorem quiet_givePreview : Quiet (InboundIMQueue.givePreview q) :=
  .ite (.walk rfl) (.pure _)

theorem quiet_cleanupSession (agent : Bool) : Quiet (InboundIMQueue.cleanupSession agent) := by
  cases agent <;> exact .walk rfl

/-! ## Ends of the attempt

These decide about the attempt, so they are not quiet, but they handle no call. -/

theorem aloof_reporting (agentSendReporting transfer : Bool) :
    Aloof (reporting q agentSendReporting transfer) := by
  refine .bind (only_andThen (.pure _) (.walk rfl)) fun _ => .ite (.walk rfl) ?_
  refine .bind (.walk rfl) fun _ => .ite (.walk rfl) ?_
  exact .bind (only_orElse (.pure _) (.walk rfl)) fun _ => .ite (.walk rfl) (.walk rfl)

theorem aloof_reportCall : Aloof (reportCall q) :=
  .bind (.walk rfl) fun _ => .bind (.walk rfl) fun _ => aloof_reporting q _ _

theorem aloof_joinFinish : Aloof (JoinAgentCallQueue.finish q) :=
  .bind (.walk rfl) fun _ => .ite (aloof_reportCall q) (.walk rfl)

theorem aloof_inboundFinish (l : CallLocals) : Aloof (InboundQueue.finish q l) :=
  .bind (only_andThen (.pure _) (.walk rfl)) fun _ => .ite (aloof_reportCall q) (.walk rfl)

theorem aloof_predictFinish (l : CallLocals) : Aloof (PredictCallQueue.finish q l) := by
  refine .bind (only_andThen (.pure _) (.walk rfl)) fun _ => .ite (aloof_reportCall q) ?_
  exact .bind (.walk rfl) fun _ => .bind (.walk rfl) fun _ =>
    .ite (.pure _) (.ite (.walk rfl) (.walk rfl))

theorem aloof_outboundFinish : Aloof (OutboundCallQueue.finish q) :=
  .bind (.walk rfl) fun _ => .ite (aloof_reportCall q) (.walk rfl)

end CallCenter.Queue
