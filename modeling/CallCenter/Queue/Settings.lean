import CallCenter.Store.Rows

/-!
# Attempts without a queue

A call or a task can be given straight to an agent, and an agent's own call can be made an attempt.
Such an attempt has no queue in the database. `DistributeCallToAgent`, `OutboundCall` and
`DistributeTaskToAgent` write the settings of the request down twice: into `QueueDumpParams`, stored
with the row, and into a `model.Queue`, which the goroutine works with. The renewal of the
processing time reads the first copy, and everything else the second. They do not always agree, and
each function has its own way of being wrong.
-/

namespace CallCenter.Queue

open Store

/-! ## Queues -/

/-- The constants `QueueType…`, numbered from zero: `outboundCall` is 10. -/
inductive QueueType where
  | offlineCall | inboundCall | ivrCall | previewCall | progressiveCall | predictCall
  | inboundChat | agentTask | outboundTask | inboundIM | outboundCall
  deriving DecidableEq

/-- The fields of `model.Queue` that the functions here fill in. -/
structure QueueSettings where
  type : QueueType
  name : String
  processing : Bool
  processingSec : UInt32
  processingRenewalSec : UInt32
  processingAutosave : Bool
  formSchemaId : Option Int32
  isProlongationEnabled : Bool
  prolongationRepeats : UInt32
  prolongationSec : UInt32
  isProlongationTimeoutRetry : Bool

def QueueSettings.channel (q : QueueSettings) : Channel :=
  match q.type with
  | .inboundChat => .chat
  | .agentTask | .outboundTask => .task
  | .outboundCall => .outCall
  | .inboundIM => .im
  | _ => .call

structure BaseQueue where
  channel : Channel
  type : QueueType
  name : String
  formSchemaId : Option Int32
  processing : Bool
  processingSec : UInt32
  processingAutosave : Bool
  processingRenewalSec : UInt32
  prolongationSteps : UInt32
  isProlongationEnabled : Bool
  prolongationSec : UInt32
  isProlongationTimeoutRetry : Bool

def newBaseQueue (settings : QueueSettings) : BaseQueue where
  channel := settings.channel
  type := settings.type
  name := settings.name
  formSchemaId := settings.formSchemaId
  processing := settings.processing
  processingSec := settings.processingSec
  processingAutosave := settings.processingAutosave
  processingRenewalSec := settings.processingRenewalSec
  prolongationSteps := settings.prolongationRepeats
  isProlongationEnabled := settings.isProlongationEnabled
  prolongationSec := settings.prolongationSec
  isProlongationTimeoutRetry := settings.isProlongationTimeoutRetry

/-! ## Requests -/

structure ProcessingProlongation where
  enabled : Bool
  repeatsNumber : UInt32
  prolongationTimeSec : UInt32
  isTimeoutRetry : Bool

/-- The part `processing` of the three requests; only that of an outbound call has
`withoutAnswer`. -/
structure RequestProcessing where
  enabled : Bool
  renewalSec : UInt32
  sec : UInt32
  /-- The id of the form; zero is none. -/
  form : Option Int32
  withoutAnswer : Bool
  processingProlongation : Option ProcessingProlongation
  autosave : Bool

/-- What the three requests have in common; `target` is the agent, or the user for an outbound
call. -/
structure AgentRequest where
  callId : String
  target : Int
  queueName : String
  processing : Option RequestProcessing

def AgentRequest.enabled (r : AgentRequest) : Option RequestProcessing :=
  r.processing.filter RequestProcessing.enabled

/-- `in.Processing.ProcessingProlongation`, when it is there and enabled. -/
def RequestProcessing.prolongs (p : RequestProcessing) : Option ProcessingProlongation :=
  p.processingProlongation.filter ProcessingProlongation.enabled

def RequestProcessing.hasForm (p : RequestProcessing) : Bool := p.form.getD 0 > 0

/-! ## The stored copy -/

/-- `QueueDumpParams`. A flag that was not set is left out of the document. -/
structure QueueDumpParams where
  hasReporting : Option Bool
  hasForm : Option Bool
  processingSec : UInt32
  processingAutosave : Bool
  processingRenewalSec : UInt32
  queueName : String
  hasProlongation : Option Bool
  remainingProlongations : UInt32
  prolongationSec : UInt32
  isTimeoutRetry : Bool

def QueueDumpParams.named (queueName : String) : QueueDumpParams :=
  ⟨none, none, 0, false, 0, queueName, none, 0, 0, false⟩

/-- What the three functions put in for a request with processing; the call functions also put
in `autosave`. -/
def QueueDumpParams.withProcessing (q : QueueDumpParams) (p : RequestProcessing)
    (autosave : Bool) : QueueDumpParams :=
  let q := { q with
    processingAutosave := autosave
    hasReporting := some true
    processingSec := p.sec
    processingRenewalSec := p.renewalSec
    hasForm := if p.hasForm then some true else none }
  match p.prolongs with
  | none => q
  | some x => { q with
    hasProlongation := some true
    remainingProlongations := x.repeatsNumber
    prolongationSec := x.prolongationTimeSec
    isTimeoutRetry := x.isTimeoutRetry }

/-- `qParams.HasReporting != nil && *qParams.HasReporting`. -/
def QueueDumpParams.reports (q : QueueDumpParams) : Bool := q.hasReporting.getD false

def QueueDumpParams.hasProlongationParams (q : QueueDumpParams) : Bool :=
  q.hasProlongation.getD false

/-! ## The three functions -/

def plainSettings (type : QueueType) (name : String) : QueueSettings where
  type := type
  name := name
  processing := false
  processingSec := 30
  processingRenewalSec := 15
  processingAutosave := false
  formSchemaId := none
  isProlongationEnabled := false
  prolongationRepeats := 0
  prolongationSec := 0
  isProlongationTimeoutRetry := false

def QueueSettings.withReporting (s : QueueSettings) (q : QueueDumpParams)
    (p : Option RequestProcessing) : QueueSettings :=
  { s with
    processing := true
    processingSec := q.processingSec
    processingRenewalSec := q.processingRenewalSec
    formSchemaId := (p.filter RequestProcessing.hasForm).bind RequestProcessing.form }

def QueueSettings.useProlongationOptions (s : QueueSettings) (dump : QueueDumpParams) :
    QueueSettings :=
  { s with
    isProlongationEnabled := true
    prolongationSec := dump.prolongationSec
    prolongationRepeats := dump.remainingProlongations
    isProlongationTimeoutRetry := dump.isTimeoutRetry }

def callSettings (type : QueueType) (qParams : QueueDumpParams) (p : Option RequestProcessing) :
    QueueSettings :=
  let settings := plainSettings type qParams.queueName
  if qParams.reports then
    let settings := settings.withReporting qParams p
    if qParams.hasProlongationParams then settings.useProlongationOptions qParams else settings
  else settings

/-- What a function has made when the attempt starts: the row and the parameters in the store,
the queue in memory, and `attempt.channel`. -/
structure QueuelessAttempt where
  row : Attempt
  queueParams : QueueDumpParams
  queue : BaseQueue
  channel : Channel

namespace Queueless

/-- `DistributeCallToAgent`. The type of its queue is written as the number 10, and the inserted
row has the default channel. -/
def distributeCallToAgent (now id : Int) (r : AgentRequest) : QueuelessAttempt :=
  let qParams := QueueDumpParams.named (if r.queueName = "" then "agent" else r.queueName)
  let qParams := match r.enabled with
    | none => qParams
    | some p => qParams.withProcessing p p.autosave
  { row := { Attempt.inserted now id with
      state := .waiting, agentId := some r.target, memberCallId := some r.callId }
    queueParams := qParams
    queue := newBaseQueue (callSettings .outboundCall qParams r.processing)
    channel := .call }

def outboundCall (now id agentId : Int) (r : AgentRequest) : QueuelessAttempt :=
  let qParams := QueueDumpParams.named r.queueName
  let qParams := match r.enabled with
    | none => qParams
    | some p => qParams.withProcessing p p.autosave
  { row := { Attempt.inserted now id with
      channel := .outCall, state := .active, agentId := some agentId
      memberCallId := some r.callId }
    queueParams := qParams
    queue := newBaseQueue (callSettings .outboundCall qParams r.processing)
    channel := .outCall }

/-- `DistributeTaskToAgent`. It stores no `autosave`, and its settings have no prolongation. -/
def distributeTaskToAgent (now id : Int) (r : AgentRequest) : QueuelessAttempt :=
  let qParams := QueueDumpParams.named (if r.queueName = "" then "agent" else r.queueName)
  let qParams := match r.enabled with
    | none => qParams
    | some p => qParams.withProcessing p false
  let settings := plainSettings .agentTask qParams.queueName
  let settings :=
    if qParams.reports then settings.withReporting qParams r.processing else settings
  { row := { Attempt.inserted now id with
      channel := .task, state := .waiting, agentId := some r.target }
    queueParams := qParams
    queue := newBaseQueue settings
    channel := .task }

end Queueless

/-! ## Agreement -/

/-- The queue in memory is what the stored parameters say. Without reporting its seconds are the
defaults. -/
structure Agrees (a : QueuelessAttempt) : Prop where
  processing : a.queue.processing = a.queueParams.reports
  processingSec : a.queue.processingSec
    = if a.queueParams.reports then a.queueParams.processingSec else 30
  renewalSec : a.queue.processingRenewalSec
    = if a.queueParams.reports then a.queueParams.processingRenewalSec else 15
  prolongation : a.queue.isProlongationEnabled = a.queueParams.hasProlongationParams
  repeats : a.queue.prolongationSteps = a.queueParams.remainingProlongations
  prolongationSec : a.queue.prolongationSec = a.queueParams.prolongationSec
  timeoutRetry : a.queue.isProlongationTimeoutRetry = a.queueParams.isTimeoutRetry
  autosave : a.queue.processingAutosave = a.queueParams.processingAutosave
  channel : a.channel = a.queue.channel
  row : a.channel = a.row.channel

/-- The three ways to an attempt without a queue. -/
inductive AgentJoin where
  | callToAgent
  | outboundCall (agentId : Int)
  | taskToAgent

def AgentJoin.start (now id : Int) (r : AgentRequest) : AgentJoin → QueuelessAttempt
  | callToAgent => Queueless.distributeCallToAgent now id r
  | outboundCall agentId => Queueless.outboundCall now id agentId r
  | taskToAgent => Queueless.distributeTaskToAgent now id r

/-- The requests for which a function writes both copies alike. For a call to an agent there are
none, because of the channel. -/
def AgentJoin.writesAlike (r : AgentRequest) : AgentJoin → Bool
  | callToAgent => false
  | outboundCall _ => r.enabled.all fun p => !p.autosave
  | taskToAgent => r.enabled.all fun p => p.prolongs.isNone

section Copies

open Queueless

variable (now id : Int) (r : AgentRequest)

/-- The channel of the queue of type 10 is not the one of the attempt. -/
theorem distributeCallToAgent_channel :
    (distributeCallToAgent now id r).channel ≠ (distributeCallToAgent now id r).queue.channel := by
  have htype : ∀ q, (callSettings .outboundCall q r.processing).channel = .outCall := by
    intro q
    unfold callSettings
    dsimp only
    split
    · split
      · rfl
      · rfl
    · rfl
  have hqueue : (distributeCallToAgent now id r).queue.channel = .outCall := htype _
  rw [hqueue]
  exact fun h => nomatch h

/-- An outbound call takes over everything except `autosave`. -/
theorem outboundCall_agrees (agentId : Int) :
    Agrees (outboundCall now id agentId r) ↔ r.enabled.all (fun p => !p.autosave) = true := by
  cases henabled : r.enabled with
  | none =>
    simp only [outboundCall, henabled]
    exact ⟨fun _ => rfl, fun _ => ⟨rfl, rfl, rfl, rfl, rfl, rfl, rfl, rfl, rfl, rfl⟩⟩
  | some p =>
    have hall : (some p).all (fun p => !p.autosave) = true ↔ false = p.autosave := by
      rw [Option.all_some, Bool.not_eq_true']
      exact eq_comm
    rw [hall]
    cases hprolongs : p.prolongs with
    | none =>
      simp only [outboundCall, henabled, QueueDumpParams.withProcessing, hprolongs]
      exact ⟨fun h => h.autosave, fun h => ⟨rfl, rfl, rfl, rfl, rfl, rfl, rfl, h, rfl, rfl⟩⟩
    | some x =>
      simp only [outboundCall, henabled, QueueDumpParams.withProcessing, hprolongs]
      exact ⟨fun h => h.autosave, fun h => ⟨rfl, rfl, rfl, rfl, rfl, rfl, rfl, h, rfl, rfl⟩⟩

/-- A task takes over everything except the prolongation. -/
theorem distributeTaskToAgent_agrees :
    Agrees (distributeTaskToAgent now id r) ↔ r.enabled.all (fun p => p.prolongs.isNone) = true :=
      by
  cases henabled : r.enabled with
  | none =>
    simp only [distributeTaskToAgent, henabled]
    exact ⟨fun _ => rfl, fun _ => ⟨rfl, rfl, rfl, rfl, rfl, rfl, rfl, rfl, rfl, rfl⟩⟩
  | some p =>
    rw [Option.all_some]
    cases hprolongs : p.prolongs with
    | none =>
      simp only [distributeTaskToAgent, henabled, QueueDumpParams.withProcessing, hprolongs]
      exact ⟨fun _ => rfl, fun _ => ⟨rfl, rfl, rfl, rfl, rfl, rfl, rfl, rfl, rfl, rfl⟩⟩
    | some x =>
      simp only [distributeTaskToAgent, henabled, QueueDumpParams.withProcessing, hprolongs]
      exact ⟨fun h => Bool.noConfusion h.prolongation, fun h => Bool.noConfusion h⟩

end Copies

/-- **Where the copies agree.** An outbound call must not ask for `autosave`, a task must not ask
for a prolongation, and a call to an agent never has its channel right. -/
theorem queueless_settings_agree (j : AgentJoin) (now id : Int) (r : AgentRequest) :
    Agrees (j.start now id r) ↔ j.writesAlike r = true := by
  cases j with
  | callToAgent =>
    exact ⟨fun h => absurd h.channel (distributeCallToAgent_channel now id r), fun h => nomatch h⟩
  | outboundCall agentId => exact outboundCall_agrees now id r agentId
  | taskToAgent => exact distributeTaskToAgent_agrees now id r

/-- A request for a report within a minute, with autosave and one prolongation. -/
def reportRequest : AgentRequest where
  callId := "call"
  target := 7
  queueName := ""
  processing := some ⟨true, 10, 60, none, false, some ⟨true, 1, 30, true⟩, true⟩

/-- None of the three functions agrees with itself on it. -/
theorem queueless_settings_differ :
    ¬ Agrees (AgentJoin.callToAgent.start 0 1 reportRequest)
      ∧ (AgentJoin.callToAgent.start 0 1 reportRequest).queue.channel = .outCall
      ∧ (AgentJoin.callToAgent.start 0 1 reportRequest).channel = .call
      ∧ (AgentJoin.callToAgent.start 0 1 reportRequest).row.channel = .call
      ∧ (AgentJoin.callToAgent.start 0 1 reportRequest).queueParams.processingAutosave = true
      ∧ (AgentJoin.callToAgent.start 0 1 reportRequest).queue.processingAutosave = false
      ∧ ¬ Agrees ((AgentJoin.outboundCall 7).start 0 1 reportRequest)
      ∧ ((AgentJoin.outboundCall 7).start 0 1 reportRequest).queueParams.processingAutosave = true
      ∧ ((AgentJoin.outboundCall 7).start 0 1 reportRequest).queue.processingAutosave = false
      ∧ ¬ Agrees (AgentJoin.taskToAgent.start 0 1 reportRequest)
      ∧ (AgentJoin.taskToAgent.start 0 1 reportRequest).queueParams.hasProlongationParams = true
      ∧ (AgentJoin.taskToAgent.start 0 1 reportRequest).queue.isProlongationEnabled = false :=
  ⟨fun h => Channel.noConfusion (Agrees.channel h), rfl, rfl, rfl, rfl, rfl,
    fun h => Bool.noConfusion (Agrees.autosave h), rfl, rfl,
    fun h => Bool.noConfusion (Agrees.prolongation h), rfl, rfl⟩

end CallCenter.Queue
