import CallCenter.Queue.WaitQueues
import CallCenter.Store.Attempts

/-!
# Bringing agents to a waiting attempt

One attempt, its goroutine and the dispatcher. The distribution assigns an agent to a stored attempt
that waits for one. The dispatcher polls: `ReservedForAttemptByNode` makes the stored attempt
active, and from then on nobody else looks for its agent. It then looks the attempt up, and
`DistributeAgent` emits the agent on the attempt's channel, provided that the attempt waits in
memory too and that the goroutine has subscribed. The goroutine changes these three in separate
steps.
-/

namespace CallCenter.Queue

open Lib Store

/-! ## The stored attempt -/

structure Stored where
  state : State
  agentId : Option Int
  result : Bool

def Stored.left (s : Stored) : Stored := { s with state := .leaving, result := true }

def Stored.open (s : Stored) : Bool := decide (s.state ≠ .cancel) && !s.result

/-- What a store call of the goroutine does to the row; `agentId` is the agent among the
arguments of `SetAttemptOffering` and `TransferredFrom`. -/
def StoreCall.effect (agentId : Int) (s : Stored) : StoreCall → Stored
  | .setFindAgentState _ =>
    if s.open then { s with state := .waitAgent, agentId := none } else s
  | .setAttemptOffering => { s with state := .offering, agentId := s.agentId.or (some agentId) }
  | .setAttemptBridged => { s with state := .bridged }
  | .setAttemptResult | .setAttemptMissed | .setAttemptAbandonedWithParams
  | .cancelAgentAttempt | .cancelAttemptAndReleaseAgent | .transferredTo
  | .setDistributeCancel => s.left
  | .setAttemptReporting _ =>
    { s with state := if s.state ≠ .leaving then .processing else s.state }
  | .setAttemptMissedAgent | .setAttemptWaitingAgent =>
    { s with state := .waitAgent, agentId := none }
  | .callbackReporting => if s.state ≠ .leaving then s.left else s
  | .transferredFrom => { s with agentId := some agentId }
  | .losePredictAttempt => s

/-- `AnswerPredictAndFindAgent`: the agent is kept when the queue says so and the agent is
still free. -/
def answerPredictAndFindAgent (keep : Bool) (s : Stored) : Stored :=
  if s.open then { s with state := .waitAgent, agentId := if keep then s.agentId else none }
  else s

/-- `ReservedForAttemptByNode`, for this attempt; the agent, the team and the user it
joins exist. -/
def reservedForAttempt (s : Stored) : Option (Int × Stored) :=
  match s.agentId with
  | some agentId =>
    if s.state = .waitAgent then some (agentId, { s with state := .active }) else none
  | none => none

/-- The row still holds the agent: it has neither left nor gone back to waiting. -/
def Stored.reserves (s : Stored) (agentId : Int) : Bool :=
  decide (s.agentId = some agentId) && decide (s.state ≠ .leaving) && decide (s.state ≠ .waitAgent)

/-! ### The row

The functions of the store do to these columns what `StoreCall.effect` says. -/

def Stored.ofRow (a : Attempt) : Stored := ⟨a.state, a.agentId, a.result.isSome⟩

/-- The operation that a store call on the attempt issues. A report of the goroutine has a
status. -/
inductive Issues (id agentId : Int) : StoreCall → Op → Prop where
  | offering (p : OfferingArgs) :
    p.id = id → p.agentId = some agentId → Issues id agentId .setAttemptOffering (.offering p)
  | bridged : Issues id agentId .setAttemptBridged (.bridged id)
  | result (p : LeavingArgs) : p.id = id → Issues id agentId .setAttemptResult (.leaving p)
  | missed (p : LeavingArgs) : p.id = id → Issues id agentId .setAttemptMissed (.leaving p)
  | abandoned (p : AbandonedArgs) :
    p.id = id → Issues id agentId .setAttemptAbandonedWithParams (.abandoned p)
  | reporting (sec : Nat) : Issues id agentId (.setAttemptReporting sec) (.reporting id sec)
  | missedAgent (hold : Int) : Issues id agentId .setAttemptMissedAgent (.missedAgent id hold)
  | waitingAgent : Issues id agentId .setAttemptWaitingAgent (.waitingAgent id)
  | agentCancel (result : String) (status : State) (hold : Int) :
    Issues id agentId .cancelAgentAttempt (.agentCancel id result status hold)
  | cancelReleaseAgent :
    Issues id agentId .cancelAttemptAndReleaseAgent (.cancelReleaseAgent id)
  | endReporting (p : ReportArgs) : p.id = id → p.status.isSome = true →
    Issues id agentId .callbackReporting (.endReporting p)
  | transferredTo (toAttemptId : Int) :
    Issues id agentId .transferredTo (.transferredTo id toAttemptId)
  | transferredFrom (sess : Option String) :
    Issues id agentId .transferredFrom (.transferredFrom id agentId sess)

theorem onAttempt_ofRow {db : Db} {id : Int} {a : Attempt} {p : Attempt → Bool}
    {f : Attempt → Attempt} {rest : Attempt → Attempt → Db → Db} {s : Stored}
    (hget : db.attempts.get? id = some a) (hp : p a = true) (hid : (f a).id = a.id)
    (hrest : ∀ a a' db, (rest a a' db).attempts = db.attempts) (hs : Stored.ofRow (f a) = s) :
    ((db.onAttempt id p f rest).attempts.get? id).map Stored.ofRow = some s := by
  have hkey : (f a).id = id := hid.trans (Table.get?_eq_some.mp hget).2
  grind [Db.onAttempt, Table.get?_replace]

/-- **The columns follow the store.** -/
theorem perform_effect {db : Db} {now id agentId : Int} {c : StoreCall} {op : Op} {a : Attempt}
    (hop : Issues id agentId c op) (hget : db.attempts.get? id = some a) :
    ((perform db now op).attempts.get? id).map Stored.ofRow
      = some (c.effect agentId (Stored.ofRow a)) := by
  cases hop with
  | offering p hid hagent =>
    subst hid
    refine onAttempt_ofRow hget rfl rfl (fun _ _ _ => rfl) ?_
    simp only [Stored.ofRow, StoreCall.effect, hagent]
  | bridged => exact onAttempt_ofRow hget rfl rfl (fun _ _ _ => rfl) rfl
  | result p hid => subst hid; exact onAttempt_ofRow hget rfl rfl (fun _ _ _ => rfl) rfl
  | missed p hid => subst hid; exact onAttempt_ofRow hget rfl rfl (fun _ _ _ => rfl) rfl
  | abandoned p hid => subst hid; exact onAttempt_ofRow hget rfl rfl (fun _ _ _ => rfl) rfl
  | reporting sec => exact onAttempt_ofRow hget rfl rfl (fun _ _ _ => rfl) rfl
  | missedAgent hold => exact onAttempt_ofRow hget rfl rfl (fun _ _ _ => rfl) rfl
  | waitingAgent => exact onAttempt_ofRow hget rfl rfl (fun _ _ _ => rfl) rfl
  | agentCancel result status hold => exact onAttempt_ofRow hget rfl rfl (fun _ _ _ => rfl) rfl
  | cancelReleaseAgent => exact onAttempt_ofRow hget rfl rfl (fun _ _ _ => rfl) rfl
  | transferredTo toAttemptId => exact onAttempt_ofRow hget rfl rfl (fun _ _ _ => rfl) rfl
  | transferredFrom sess =>
    refine onAttempt_ofRow hget rfl rfl (fun _ attempt db => ?_) rfl
    split <;> rfl
  | endReporting p hid hstatus =>
    subst hid
    have hperform : perform db now (.endReporting p) = endReporting now p db := by
      rw [perform, ccAttemptEndReporting_eq]
    rw [hperform]
    by_cases hstate : a.state = .leaving
    · -- Nothing is found, and nothing is written.
      have heffect : StoreCall.callbackReporting.effect agentId (Stored.ofRow a)
          = Stored.ofRow a := if_neg (not_not.mpr hstate)
      grind [Db.onAttempt, endReporting]
    · have heffect : StoreCall.callbackReporting.effect agentId (Stored.ofRow a)
          = (Stored.ofRow a).left := if_pos hstate
      rw [heffect]
      refine onAttempt_ofRow hget (decide_eq_true hstate) rfl (fun _ attempt db => ?_) ?_
      · dsimp only
        split <;> rfl
      · simp only [Stored.ofRow, reported, Stored.left, hstatus]

/-- A row that is offered to its agent, and already has a result. -/
def offeredRow : Attempt :=
  { Attempt.inserted 0 1 with state := .offering, agentId := some 3, result := some "missed" }

theorem waiting_row_stored :
    ((perform ⟨.single offeredRow, .empty, .empty, .empty, .empty, .empty, [], fun _ => none,
        .fixed 0⟩ 5 (.waitingAgent 1)).attempts.get? 1).map Stored.ofRow
      = some (StoreCall.setAttemptWaitingAgent.effect 3 (Stored.ofRow offeredRow)) :=
  perform_effect .waitingAgent rfl

/-! ## The world -/

inductive Dispatcher where
  | idle
  /-- Reserved, before `GetAgent`. -/
  | reserved (agentId : Int)
  | routing (agentId : Int)
  | distributing (agentId : Int)

def Dispatcher.holds (agentId : Int) : Dispatcher → Prop
  | idle => False
  | reserved g | routing g | distributing g => g = agentId

inductive WaitKind where
  | inbound | predictive | chat | im

def WaitKind.run (k : WaitKind) (q : QueueConfig) (rounds : Nat) : Go Unit :=
  match k with
  | inbound => InboundQueue.run q rounds
  | predictive => PredictCallQueue.runPark q rounds
  | chat => InboundChatQueue.process q rounds
  | im => InboundIMQueue.run q rounds

structure DispatchWorld where
  stored : Stored
  memory : State
  agent : Option Int
  subscribed : Bool
  channel : List Int
  tracked : Bool
  dispatcher : Dispatcher
  goroutine : Go Unit
  /-- The goroutine has set itself up for an agent or was in its select, and has since neither
  received one nor turned to something else. -/
  ready : Bool
  /-- The record of the last reservation, while it stands in the store and its agent has
  not been emitted. -/
  undelivered : Option Int

def startDispatch (k : WaitKind) (q : QueueConfig) (rounds : Nat) (stored : Stored)
    (memory : State) (agent : Option Int) : DispatchWorld where
  stored := stored
  memory := memory
  agent := agent
  subscribed := false
  channel := []
  tracked := true
  dispatcher := .idle
  goroutine := k.run q rounds
  ready := false
  undelivered := none

/-- The row is written; a reservation that no longer stands is off the record. -/
def DispatchWorld.setStored (w : DispatchWorld) (stored : Stored) : DispatchWorld :=
  { w with
    stored := stored
    undelivered := w.undelivered.filter stored.reserves }

def DispatchWorld.distributeAgent (w : DispatchWorld) (agentId : Int) : DispatchWorld :=
  if w.memory ≠ .waitAgent then w
  -- `Emit` sends to the channels already subscribed, and to nobody otherwise.
  else if w.subscribed then
    { w with
      agent := some agentId
      channel := w.channel ++ [agentId]
      undelivered := w.undelivered.filter fun g => decide (g ≠ agentId) }
  else { w with agent := some agentId }

def receives : (s : Select) → s.Signal → Bool
  | .waitCall, .agents => true
  | .waitChat _, .agents => true
  | .waitIM, .agents => true
  | _, _ => false

/-- What an exchange of the goroutine does to the world; nothing is received from an
empty channel. -/
def DispatchWorld.exchange (w : DispatchWorld) (agentId : Int) :
    Exchange Action.Reply → Option DispatchWorld
  | ⟨.setState s, _⟩ => some { w with memory := s }
  | ⟨.clearAgent, _⟩ => some { w with agent := none }
  | ⟨.on, _⟩ => some { w with subscribed := true }
  | ⟨.off, _⟩ => some { w with subscribed := false }
  | ⟨.distributeAgent, _⟩ =>
    some (match w.agent with
    | some g => w.distributeAgent g
    | none => w)
  | ⟨.store c, ok⟩ => some (if ok then w.setStored (c.effect agentId w.stored) else w)
  | ⟨.answerPredictAndFindAgent, reply⟩ =>
    some (match reply with
    | .failed => w
    | .released => w.setStored (answerPredictAndFindAgent false w.stored)
    | .kept => w.setStored (answerPredictAndFindAgent true w.stored))
  | ⟨.leavingMember, _⟩ => some { w with memory := .leaving, tracked := false }
  | ⟨.select s, signal⟩ =>
    if receives s signal then
      match w.channel with
      | [] => none
      | _ :: rest => some { w with channel := rest }
    else some w
  | _ => some w

/-! ### Ready for an agent -/

/-- The attempt leaves the store, or goes back to waiting without its agent. -/
def StoreCall.undoes : StoreCall → Bool
  | .setAttemptResult | .setAttemptMissed | .setAttemptAbandonedWithParams
  | .cancelAgentAttempt | .cancelAttemptAndReleaseAgent | .transferredTo
  | .setDistributeCancel | .setAttemptMissedAgent | .setAttemptWaitingAgent
  | .callbackReporting => true
  | _ => false

def Action.undoes : Action → Bool
  | .store c => c.undoes
  | _ => false

def Action.waits : Action → Bool
  | .select s => s.waits
  | _ => false

/-- After this the goroutine is ready for an agent. -/
def Action.begins : Action → Bool
  | .on | .setState .waitAgent => true
  | o => o.waits

/-- A reply after which the goroutine still undoes a reservation when it turns away. -/
def calm : Exchange Action.Reply → Bool
  | ⟨.store (.setAttemptReporting _), _⟩ => false
  | ⟨.store _, ok⟩ => ok
  | ⟨.read (.call _ .reportingAt), marked⟩ => !marked
  | ⟨.read (.conv .reportingAt), marked⟩ => !marked
  | ⟨.read (.task .reportingAt), marked⟩ => !marked
  | ⟨.answerPredictAndFindAgent, reply⟩ => decide (reply ≠ .failed)
  -- the target of a transfer is put on the channel before the agent on the way
  | ⟨.distributeAgent, _⟩ => false
  | _ => true

def takesAgent : Exchange Action.Reply → Bool
  | ⟨.select s, signal⟩ => receives s signal
  | _ => false

def readyAfter (ready : Bool) (e : Exchange Action.Reply) : Bool :=
  (e.1.begins || ready) && calm e && !takesAgent e && !e.1.undoes

/-! ## Steps -/

inductive DispatchLabel where
  | assign (agentId : Int)
  | poll
  | getAgent (ok : Bool)
  | getQueue (ok : Bool)
  | distributeAgent
  /-- An exchange of the goroutine; the agent is the one of `StoreCall.effect`. -/
  | go (e : Exchange Action.Reply) (agentId : Int)

def dispatchStep (w : DispatchWorld) : DispatchLabel → Option DispatchWorld
  | .assign agentId =>
    if w.stored.state = .waitAgent ∧ w.stored.agentId = none then
      some { w with stored := { w.stored with agentId := some agentId } }
    else none
  | .poll =>
    match w.dispatcher with
    | .idle =>
      (reservedForAttempt w.stored).map fun (agentId, stored) =>
        { w with
          stored := stored
          dispatcher := .reserved agentId
          undelivered := some agentId }
    | _ => none
  | .getAgent ok =>
    match w.dispatcher with
    | .reserved agentId =>
      -- An error is logged, and the dispatcher goes on with the next reservation.
      some { w with dispatcher := if ok then .routing agentId else .idle }
    | _ => none
  | .getQueue ok =>
    match w.dispatcher with
    | .routing agentId =>
      some { w with dispatcher := if w.tracked && ok then .distributing agentId else .idle }
    | _ => none
  | .distributeAgent =>
    match w.dispatcher with
    | .distributing agentId => some { w.distributeAgent agentId with dispatcher := .idle }
    | _ => none
  | .go e agentId =>
    (w.goroutine.step e).bind fun goroutine =>
      (w.exchange agentId e).map fun w' =>
        { w' with goroutine := goroutine, ready := readyAfter w.ready e }

/-- **The property.** An agent whose reservation stands and who has not been emitted is
still in the hands of the dispatcher. -/
def NoLostAgent (w : DispatchWorld) : Prop :=
  ∀ g, w.undelivered = some g → w.dispatcher.holds g

end CallCenter.Queue
