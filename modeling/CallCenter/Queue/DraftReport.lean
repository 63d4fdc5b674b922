import CallCenter.Chat.Conversation
import CallCenter.Queue.AgentCall
import CallCenter.Queue.TaskChannel
import CallCenter.Queue.Timeouts

/-!
# A report and its draft

A report ends the attempt; a draft is only remembered, until the report comes or the time is up.
`ReportingAttempt` asks `attempt != nil && draft`, so an attempt that this node does not have is
reported, draft or not. For one that it has, it calls `setChannelReporting`, whose parameter `leave`
is `false` for a draft; but it is handed on to `Conversation.Reporting` as `noLeave`, and for a task
`TaskChannel.Reporting` closes the task. A panic is `none`.
-/

namespace CallCenter.Queue.Draft

open Lib Store Timeouts

def errNotFoundConnection : AppError := ⟨"qm.connection.not_found", 404⟩

def cmpOr (s t : String) : String := if s = "" then t else s

def toMap (vars : Vars) : StringMap := vars.foldl (fun m p => m.insert p.1 p.2) ∅

def toVars (m : StringMap) : Vars := m.entries.map fun e => (e.1, e.2)

structure ReportedAttempt extends LiveAttempt where
  channel : Channel
  agentChannel : Option String
  memberChannel : Option String
  task : Option TaskChannel
  state : State
  canceled : Bool
  transferredAt : Int
  callback : Option AttemptCallback

namespace ReportedAttempt

def useDraft (a : ReportedAttempt) (draft : AttemptCallback) : ReportedAttempt :=
  { a with draft := some draft }

def dropDraftResult (a : ReportedAttempt) : ReportedAttempt := { a with draft := none }

end ReportedAttempt

/-- A conversation of the chat manager. It has the session of its member from the start. -/
structure OpenChat where
  id : String
  conversation : Chat.Conversation
  reportingAt : Int
  nonempty : conversation.sessions ≠ []

def OpenChat.lastSession (c : OpenChat) : Chat.ChatSession :=
  c.conversation.sessions.getLast c.nonempty

/-- What a report does to the world outside the node's memory. -/
inductive ReportEffect where
  | serVariables (callId status : String)
  | hangup (callId status : String)
  | leaveChat (id : String)
  | setClosed (attemptId : Int)
  | afterDistributeSchema (attemptId : Int)
  | callbackReporting (attemptId : Int)
  | doLeavingReporting (attemptId : Int)
  | wrapTimeEvent (attemptId : Int)
  | leavingMember (attemptId : Int)

structure ReportNode where
  now : Nat
  waitChannelClose : Bool
  membersCache : Table fun a : ReportedAttempt => a.id
  calls : List String
  chats : Table OpenChat.id
  db : Db
  effects : List ReportEffect

structure ReportOutcomes where
  leave : Bool
  resultAttempt : Option Timeouts.SchemaResult
  storeError : Option AppError
  hasUser : Bool
  publishError : Option AppError

namespace ReportNode

def emit (n : ReportNode) (e : ReportEffect) : ReportNode := { n with effects := n.effects ++ [e] }

def store (n : ReportNode) (a : ReportedAttempt) : ReportNode :=
  { n with membersCache := n.membersCache.replace a }

end ReportNode

section Channels

variable (o : ReportOutcomes)

def reportChat (noLeave : Bool) (c : OpenChat) (n : ReportNode) : ReportNode × Option AppError :=
  if c.lastSession.stopAt ≠ 0 then (n, some ⟨"chat.reporting.valid.stop_at", 400⟩)
  else
    let n := { n with chats := n.chats.replace { c with reportingAt := n.now } }
    -- `leave` of the caller is `noLeave` here
    if noLeave then (n, none)
    else (n.emit (.leaveChat c.id), if o.leave then none else some ⟨"chat.leave.app_err", 500⟩)

def reportTask (a : ReportedAttempt) (t : TaskChannel) (n : ReportNode) :
    ReportNode × Option AppError :=
  let n := n.store { a with task := some (t.report n.now).1 }
  (if t.closedAt = 0 then n.emit (.setClosed a.id) else n, (t.report n.now).2)

def getAgentTaskFromAttemptId (id : Int) (n : ReportNode) :
    Option (ReportedAttempt × TaskChannel) :=
  (n.membersCache.get? id).bind fun a => a.task.map fun t => (a, t)

def setChannelReporting (a : ReportedAttempt) (ccCause : String) (leave : Bool) (n : ReportNode) :
    ReportNode × Option AppError :=
  match a.agentChannel with
  | none => (n, some errNotFoundConnection)
  | some channelId =>
    match a.channel with
    | .call =>
      if channelId ∈ n.calls then (n.emit (.serVariables channelId ccCause), none)
      else (n, some errNotFoundConnection)
    | .chat =>
      match n.chats.get? channelId with
      | some c => reportChat o leave c n
      | none => (n, some errNotFoundConnection)
    | .task =>
      match getAgentTaskFromAttemptId a.id n with
      | some (a, t) => reportTask a t n
      | none => (n, some errNotFoundConnection)
    | .outCall | .im => (n, none)

/-- `closeBeforeReporting`; its error is logged. The row is the one that `CallbackReporting` has
ended. -/
def closeBeforeReporting (id : Int) (row : Attempt) (ccCause : String) (a : Option ReportedAttempt)
    (n : ReportNode) : Option ReportNode :=
  match row.agentCallId with
  | none => some n
  | some agentCallId =>
    match row.channel with
    | .call | .outCall =>
      some (if agentCallId ∈ n.calls then n.emit (.hangup agentCallId ccCause) else n)
    | .chat =>
      match a with
      | none => some n
      | some a =>
        if a.transferredAt ≠ 0 then some n
        else
          a.memberChannel.map fun channelId =>
            match n.chats.get? channelId with
            | some c => (reportChat o false c n).1
            | none => n
    | .im | .task =>
      match getAgentTaskFromAttemptId id n with
      | some (a, t) => some (reportTask a t n).1
      | none => some n

end Channels

section Report

variable (o : ReportOutcomes)

def applyCallbackRules (a : ReportedAttempt) (result : AttemptCallback) (n : ReportNode) :
    ReportedAttempt × AttemptCallback × ReportNode :=
  match a.queue.bind (fun q => q.afterSchemaId.bind fun _ => o.resultAttempt) with
  | none => (a, result, n)
  | some r =>
    let a := { a with config := (a.toLiveAttempt.afterSchema r).config }
    let result := { result with
      status := cmpOr r.status result.status
      vars := if r.vars = [] then result.vars
        else toVars (unionStringMaps [toMap result.vars, toMap r.vars]) }
    ({ a with callback := some result }, result, n.emit (.afterDistributeSchema a.id))

/-- `processAttemptCallback`, of an attempt that is there. -/
def processAttemptCallback (a : ReportedAttempt) (result : AttemptCallback) (system : Bool)
    (n : ReportNode) :
    Except (ReportNode × AppError) (ReportedAttempt × AttemptCallback × ReportNode) :=
  let a := { a with callback := some result }
  let n := n.store a
  if n.waitChannelClose && !system then
    match setChannelReporting o a result.status true n with
    | (n, some e) =>
      if e ≠ errNotFoundConnection ∧ a.state ≠ .processing then .error (n, e)
      else .ok (applyCallbackRules o a result n)
    | (n, none) => .ok (applyCallbackRules o a result n)
  else .ok (applyCallbackRules o a result n)

def leavingMember (a : ReportedAttempt) (n : ReportNode) : ReportNode :=
  if (n.membersCache.get? a.id).isNone then n
  else
    { n with membersCache := n.membersCache.delete fun b => b.id = a.id }.emit (.leavingMember a.id)

def publishWrapTime (id : Int) (n : ReportNode) : ReportNode × Option AppError :=
  if o.hasUser then (n.emit (.wrapTimeEvent id), o.publishError) else (n, none)

def doLeavingReporting (id : Int) (a : Option ReportedAttempt) (result : AttemptCallback)
    (n : ReportNode) : Option (ReportNode × Option AppError) :=
  match publishWrapTime o id (n.emit (.doLeavingReporting id)), a with
  | (n, err), none => some (n, err)
  | (n, err), some a =>
    let a := { a with
      callback := some result
      canceled := a.canceled || (a.channel = .chat && a.state = .waitAgent) }
    if a.queue.isNone then none else some (leavingMember a (n.store a), err)

def closeUnlessSystem (id : Int) (row : Attempt) (ccCause : String) (a : Option ReportedAttempt)
    (system : Bool) (n : ReportNode) : Option ReportNode :=
  if system then some n else closeBeforeReporting o id row ccCause a n

def finishReporting (id : Int) (a : Option ReportedAttempt) (result : AttemptCallback)
    (system : Bool) (n : ReportNode) : Option (ReportNode × Option AppError) :=
  let cfg := (a.map fun a => a.config).getD ⟨0, 0, false⟩
  let n := n.emit (.callbackReporting id)
  match o.storeError, n.db.attempts.get? id, callbackReporting n.now id result cfg n.db with
  | none, some row, some db =>
    (closeUnlessSystem o id row result.status a system { n with db := db }).bind
      (doLeavingReporting o id a result)
  | some e, _, _ => some (n, some e)
  | none, _, _ => some (n, some ⟨"store.sql_member.reporting.not_found", 404⟩)

def reportingAttempt (id : Int) (result : AttemptCallback) (system draft : Bool) (n : ReportNode) :
    Option (ReportNode × Option AppError) :=
  let result := { result with status := cmpOr result.status "abandoned" }
  match n.membersCache.get? id with
  | some a =>
    if draft then
      let a := a.useDraft result
      some ((setChannelReporting o a result.status false (n.store a)).1, none)
    else
      match processAttemptCallback o a.dropDraftResult result system n with
      | .error (n, e) => some (n, some e)
      | .ok (a, result, n) => finishReporting o id (some a) result system (n.store a)
  -- there is no attempt to draft on, and `draft` is not asked again
  | none => finishReporting o id none result system n

end Report

/-! ## What a draft must leave alone -/

/-- The effects that end an attempt or close the channel of its agent. -/
def ReportEffect.finishes : ReportEffect → Bool
  | .serVariables _ _ | .afterDistributeSchema _ | .wrapTimeEvent _ => false
  | .hangup _ _ | .leaveChat _ | .setClosed _ | .callbackReporting _ | .doLeavingReporting _
  | .leavingMember _ => true

/-- Of a task, whether it is answered or closed and what its owner will hear of it. -/
def ReportedAttempt.taskState (a : ReportedAttempt) :
    Option (TaskState × Option TaskState × Nat × Nat) :=
  a.task.map fun t => (t.state, t.stateC, t.bridgedAt, t.closedAt)

structure FinishesNothing (n n' : ReportNode) : Prop where
  effects : ∃ es, n'.effects = n.effects ++ es ∧ ∀ e ∈ es, e.finishes = false
  db : n'.db = n.db
  chats : n'.chats = n.chats
  tasks : ∀ id, (n'.membersCache.get? id).map ReportedAttempt.taskState
    = (n.membersCache.get? id).map ReportedAttempt.taskState

/-- The channel of the agent is one that `setChannelReporting` does not close: the agent's session
of a chat is over, or the task is closed already. -/
def ChannelAtRest (n : ReportNode) (a : ReportedAttempt) (channelId : String) : Prop :=
  match a.channel with
  | .chat => ∀ c, n.chats.get? channelId = some c → c.lastSession.stopAt ≠ 0
  | .task => ∀ t, a.task = some t → t.closedAt ≠ 0
  | .call | .outCall | .im => True

/-- This node has the attempt, and the channel of its agent, if there is one, is at rest. -/
def DraftOnly (n : ReportNode) (id : Int) : Prop :=
  ∃ a, n.membersCache.get? id = some a
    ∧ ∀ channelId, a.agentChannel = some channelId → ChannelAtRest n a channelId

section

variable {n n' : ReportNode} {o : ReportOutcomes} {a : ReportedAttempt} {id : Int}

theorem not_finishesNothing {e : ReportEffect} (he : e.finishes = true)
    (hn : n.effects ++ [e] <+: n'.effects) : ¬ FinishesNothing n n' := by
  rintro ⟨⟨es, hes, hquiet⟩, -⟩
  obtain ⟨rest, hrest⟩ := hn
  grind [List.append_assoc, List.append_cancel_left, List.singleton_append]

/-! ### An attempt that this node does not have -/

theorem prefix_emit (n : ReportNode) (e : ReportEffect) : n.effects <+: (n.emit e).effects :=
  List.prefix_append _ _

theorem prefix_reportTask (a : ReportedAttempt) (t : TaskChannel) (n : ReportNode) :
    n.effects <+: (reportTask a t n).1.effects := by
  unfold reportTask
  dsimp only
  split
  · exact List.prefix_append _ _
  · exact List.prefix_rfl

theorem prefix_closeBeforeReporting (o : ReportOutcomes) (id : Int) (row : Attempt)
    (ccCause : String) (n : ReportNode) :
    ∃ n', closeBeforeReporting o id row ccCause none n = some n' ∧ n.effects <+: n'.effects := by
  grind [closeBeforeReporting, prefix_emit, prefix_reportTask]

theorem prefix_closeUnlessSystem (o : ReportOutcomes) (id : Int) (row : Attempt)
    (ccCause : String) (system : Bool) (n : ReportNode) :
    ∃ n', closeUnlessSystem o id row ccCause none system n = some n'
      ∧ n.effects <+: n'.effects := by
  unfold closeUnlessSystem
  split
  · exact ⟨n, rfl, List.prefix_rfl⟩
  · exact prefix_closeBeforeReporting o id row ccCause n

theorem prefix_doLeavingReporting (o : ReportOutcomes) (id : Int) (result : AttemptCallback)
    (n : ReportNode) :
    ∃ r, doLeavingReporting o id none result n = some r ∧ n.effects <+: r.1.effects := by
  refine ⟨publishWrapTime o id (n.emit (.doLeavingReporting id)), rfl, ?_⟩
  grind [publishWrapTime, prefix_emit]

theorem prefix_finishReporting (o : ReportOutcomes) (id : Int) (result : AttemptCallback)
    (system : Bool) (n : ReportNode) :
    ∃ r, finishReporting o id none result system n = some r
      ∧ n.effects ++ [.callbackReporting id] <+: r.1.effects := by
  unfold finishReporting
  dsimp only
  split
  · next row db _ _ _ =>
    obtain ⟨n₁, hclose, hn₁⟩ := prefix_closeUnlessSystem o id row result.status system
      { n.emit (.callbackReporting id) with db := db }
    obtain ⟨r, hr, hleave⟩ := prefix_doLeavingReporting o id result n₁
    exact ⟨r, by rw [hclose, Option.bind_some, hr], hn₁.trans hleave⟩
  · exact ⟨_, rfl, List.prefix_rfl⟩
  · exact ⟨_, rfl, List.prefix_rfl⟩

/-! ### The channel of the agent -/

theorem finishesNothing_rfl (n : ReportNode) : FinishesNothing n n :=
  ⟨⟨[], (List.append_nil _).symm, fun _ he => absurd he List.not_mem_nil⟩, rfl, rfl, fun _ => rfl⟩

theorem taskState_store {old : ReportedAttempt} (hget : n.membersCache.get? a.id = some old)
    (htask : a.taskState = old.taskState) (id : Int) :
    ((n.store a).membersCache.get? id).map ReportedAttempt.taskState
      = (n.membersCache.get? id).map ReportedAttempt.taskState := by
  by_cases hid : id = a.id
  · subst hid
    have hnew : (n.store a).membersCache.get? a.id = some a := Table.get?_replace hget
    rw [hnew, hget, Option.map_some, Option.map_some, htask]
  · have hsame : (n.store a).membersCache.get? id = n.membersCache.get? id :=
      Table.get?_replace_of_ne hid
    rw [hsame]

theorem reportChat_iff (c : OpenChat) :
    FinishesNothing n (reportChat o false c n).1 ↔ c.lastSession.stopAt ≠ 0 := by
  unfold reportChat
  split
  next hstop => exact iff_of_true (finishesNothing_rfl n) hstop
  next hopen =>
    exact iff_of_false (not_finishesNothing (e := .leaveChat c.id) rfl List.prefix_rfl) hopen

theorem reportTask_iff {t : TaskChannel} (hget : n.membersCache.get? a.id = some a)
    (htask : a.task = some t) : FinishesNothing n (reportTask a t n).1 ↔ t.closedAt ≠ 0 := by
  unfold reportTask
  dsimp only
  by_cases hclosed : t.closedAt = 0
  · rw [if_pos hclosed]
    exact iff_of_false (not_finishesNothing (e := .setClosed a.id) rfl List.prefix_rfl)
      (not_not.mpr hclosed)
  · rw [if_neg hclosed]
    refine iff_of_true ⟨⟨[], (List.append_nil _).symm, fun _ he => absurd he List.not_mem_nil⟩, rfl,
      rfl, taskState_store (a := { a with task := some (t.report n.now).1 }) hget ?_⟩ hclosed
    simp [ReportedAttempt.taskState, TaskChannel.report, hclosed, htask]

theorem setChannelReporting_iff (hget : n.membersCache.get? a.id = some a) (ccCause : String) :
    FinishesNothing n (setChannelReporting o a ccCause false n).1
      ↔ ∀ channelId, a.agentChannel = some channelId → ChannelAtRest n a channelId := by
  have hrest : ∀ {p : Prop}, p → (FinishesNothing n n ↔ p) :=
    fun hp => iff_of_true (finishesNothing_rfl n) hp
  unfold setChannelReporting
  split
  next hnone => exact hrest fun _ hsome => by cases hnone.symm.trans hsome
  next channelId hchannelId =>
    have hone : ∀ {p : String → Prop}, (∀ c, a.agentChannel = some c → p c) ↔ p channelId := by
      intro p
      rw [hchannelId]
      exact ⟨fun h => h channelId rfl, fun h c hc => Option.some.inj hc ▸ h⟩
    rw [hone]
    unfold ChannelAtRest
    cases a.channel with
    | call =>
      dsimp only
      split
      · refine iff_of_true ⟨⟨[.serVariables channelId ccCause], rfl, fun e he => ?_⟩, rfl, rfl,
          fun _ => rfl⟩ trivial
        rw [List.mem_singleton.mp he]
        rfl
      · exact hrest trivial
    | chat =>
      dsimp only
      cases hchat : n.chats.get? channelId with
      | none => exact hrest fun _ hc => by cases hc
      | some c =>
        grind [reportChat_iff]
    | task =>
      dsimp only
      unfold getAgentTaskFromAttemptId
      rw [hget, Option.bind_some]
      cases htask : a.task with
      | none => exact hrest fun _ ht => by cases ht
      | some t =>
        grind [reportTask_iff]
    | outCall => exact hrest trivial
    | im => exact hrest trivial

theorem finishesNothing_store_iff {old : ReportedAttempt}
    (hget : n.membersCache.get? a.id = some old) (htask : a.taskState = old.taskState) :
    FinishesNothing n n' ↔ FinishesNothing (n.store a) n' := by
  constructor
  · rintro ⟨heffects, hdb, hchats, htasks⟩
    exact ⟨heffects, hdb, hchats, fun id => (htasks id).trans (taskState_store hget htask id).symm⟩
  · rintro ⟨heffects, hdb, hchats, htasks⟩
    exact ⟨heffects, hdb, hchats, fun id => (htasks id).trans (taskState_store hget htask id)⟩

end

/-- **A draft finishes nothing** exactly when this node has the attempt and the channel of its agent
is at rest. -/
theorem draft_finishes_nothing_iff (o : ReportOutcomes) (n : ReportNode) (id : Int)
    (result : AttemptCallback) (system : Bool) :
    ∃ n' err, reportingAttempt o id result system true n = some (n', err)
      ∧ (FinishesNothing n n' ↔ DraftOnly n id) := by
  unfold reportingAttempt DraftOnly
  cases hget : n.membersCache.get? id with
  | none =>
    obtain ⟨⟨n', err⟩, hr, hprefix⟩ := prefix_finishReporting o id
      { result with status := cmpOr result.status "abandoned" } system n
    refine ⟨n', err, hr, iff_of_false (not_finishesNothing rfl hprefix) ?_⟩
    rintro ⟨a, ha, -⟩
    cases ha
  | some a =>
    -- the attempt is there: its draft is set, and the rest is up to its channel
    refine ⟨_, _, rfl, ?_⟩
    have hid : a.id = id := (Table.get?_eq_some.mp hget).2
    subst hid
    rw [finishesNothing_store_iff (a := a.useDraft _) hget rfl]
    refine (setChannelReporting_iff (Table.get?_replace (r := a.useDraft _) hget) _).trans ?_
    exact ⟨fun hrest => ⟨a, rfl, hrest⟩, fun ⟨a', ha', hrest⟩ => Option.some.inj ha' ▸ hrest⟩

def chatting : Db :=
  { Db.empty with
    attempts := ⟨[{ Attempt.inserted 0 1 with channel := .chat, state := .bridged }], by decide⟩ }

def chattingNode : ReportNode where
  now := 9
  waitChannelClose := false
  membersCache := ⟨[{
    id := 1
    queue := none
    draft := none
    config := ⟨0, 0, false⟩
    channel := .chat
    agentChannel := some "chat"
    memberChannel := some "chat"
    task := none
    state := .bridged
    canceled := false
    transferredAt := 0
    callback := none }], by decide⟩
  calls := []
  chats := ⟨[{
    id := "chat"
    conversation := (Chat.newConversation "member" 1).addSession
    reportingAt := 0
    nonempty := by decide }], by decide⟩
  db := chatting
  effects := []

/-- A draft from the middle of the conversation takes the agent out of it. -/
theorem draft_leaves_chat :
    ∃ n', reportingAttempt ⟨true, none, none, false, none⟩ 1 (timeoutCallback "success") false true
        chattingNode = some (n', none)
      ∧ n'.effects = [.leaveChat "chat"] ∧ ¬ FinishesNothing chattingNode n' :=
  ⟨_, rfl, rfl, not_finishesNothing (e := .leaveChat "chat") rfl List.prefix_rfl⟩

end CallCenter.Queue.Draft
