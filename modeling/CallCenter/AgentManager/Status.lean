import CallCenter.Store.Attempts

/-!
# The status of an agent

`SetOffline`, `SetPause` and `SetBreakOut` write the new status to the store, then into the agent
that the manager holds in its cache, and then announce it. The statement of `SetStatus` leaves an
agent alone that has an attempt in the state `wait_agent`, and also one whose row is gone. It is
executed without a look at how many rows it changed, so that in both cases the manager goes on as
if the status had been stored.

The three functions differ in the status they announce and are one function otherwise.
-/

namespace CallCenter.AgentManager

open Lib Store

inductive StatusName where
  | online | offline | pause | breakOut
  deriving DecidableEq

structure AgentStatus where
  status : StatusName
  statusPayload : Option String
  statusComment : Option String
  statusPreset : Option Int

/-- The columns of `cc_agent` that a status is written to; `status_id` is the preset. -/
structure StatusRow where
  id : Int
  status : AgentStatus
  lastStateChange : Int

structure OnlineRow where
  agentId : Int
  channel : Channel
  online : Bool

structure StatusDb where
  agents : Table StatusRow.id
  channels : List OnlineRow
  attempts : Table Attempt.id

/-- `exists (select 1 from cc_member_attempt where agent_id = … and state = 'wait_agent')`. -/
def StatusDb.waitsForAgent (db : StatusDb) (agentId : Int) : Bool :=
  db.attempts.rows.any fun a => a.agentId = some agentId && a.state = .waitAgent

def StatusRow.withStatus (now : Int) (s : AgentStatus) (r : StatusRow) : StatusRow :=
  { r with
    status := { s with
      statusPreset := if s.status ≠ .online then none else r.status.statusPreset }
    lastStateChange := now }

def setStatus (now agentId : Int) (s : AgentStatus) (db : StatusDb) : StatusDb :=
  match db.agents.get? agentId with
  | none => db
  | some r =>
    if db.waitsForAgent agentId then db
    else { db with
      agents := db.agents.replace (r.withStatus now s)
      channels := db.channels.map fun c =>
        if c.agentId = agentId then { c with online := false } else c }

/-! ## The manager -/

/-- The status in the `Agent` that the manager has cached. `StoreStatus` drops the comment. -/
structure CachedStatus where
  status : StatusName
  statusPayload : Option String
  statusPreset : Option Int

structure CachedAgent where
  id : Int
  userId : Int
  domainId : Int
  info : CachedStatus

def CachedAgent.storeStatus (a : CachedAgent) (s : AgentStatus) : CachedAgent :=
  { a with info := ⟨s.status, s.statusPayload, s.statusPreset⟩ }

structure AgentEventStatus where
  agentId : Int
  userId : Int
  domainId : Int
  timestamp : Int
  status : AgentStatus

inductive StatusError where
  | store (detail : String)
  | publish (detail : String)

structure StatusOutcomes where
  /-- The time of the transaction, and the clock of the process. -/
  now : Int
  millis : Int
  setStatus : Option String
  agentChangeStatus : Option String

structure StatusWorld where
  db : StatusDb
  agent : CachedAgent
  events : List AgentEventStatus

def changeStatus (o : StatusOutcomes) (s : AgentStatus) (w : StatusWorld) :
    Option StatusError × StatusWorld :=
  match o.setStatus with
  | some detail => (some (.store detail), w)
  | none =>
    let w := { w with
      db := setStatus o.now w.agent.id s w.db
      agent := w.agent.storeStatus s }
    match o.agentChangeStatus with
    | some detail => (some (.publish detail), w)
    | none =>
      (none, { w with events := w.events ++
        [⟨w.agent.id, w.agent.userId, w.agent.domainId, o.millis, s⟩] })

def setOffline (o : StatusOutcomes) (sys : Option String) (w : StatusWorld) :
    Option StatusError × StatusWorld :=
  changeStatus o ⟨.offline, sys, none, none⟩ w

/-- The timeout that `SetPause` is given is not used. -/
def setPause (o : StatusOutcomes) (payload statusComment : Option String) (w : StatusWorld) :
    Option StatusError × StatusWorld :=
  changeStatus o ⟨.pause, payload, statusComment, none⟩ w

def setBreakOut (o : StatusOutcomes) (w : StatusWorld) : Option StatusError × StatusWorld :=
  changeStatus o ⟨.breakOut, none, none, none⟩ w

inductive StatusRequest where
  | offline (sys : Option String)
  | pause (payload statusComment : Option String)
  | breakOut

def StatusRequest.run (o : StatusOutcomes) : StatusRequest → StatusWorld →
    Option StatusError × StatusWorld
  | offline sys => setOffline o sys
  | pause payload statusComment => setPause o payload statusComment
  | breakOut => setBreakOut o

/-! ## The store and the announcement -/

def StatusRequest.status : StatusRequest → AgentStatus
  | offline sys => ⟨.offline, sys, none, none⟩
  | pause payload statusComment => ⟨.pause, payload, statusComment, none⟩
  | breakOut => ⟨.breakOut, none, none, none⟩

theorem StatusRequest.run_eq (o : StatusOutcomes) (r : StatusRequest) :
    r.run o = changeStatus o r.status := by
  cases r with
  | offline sys => rfl
  | pause payload statusComment => rfl
  | breakOut => rfl

theorem StatusRequest.not_online (r : StatusRequest) : r.status.status ≠ .online := by
  cases r with
  | offline sys => exact fun h => nomatch h
  | pause payload statusComment => exact fun h => nomatch h
  | breakOut => exact fun h => nomatch h

/-- **The property** of the state that is left: the status that is stored is the one announced
last, and the one in the cached agent. -/
structure Matches (w : StatusWorld) : Prop where
  announced : ∃ r e, w.db.agents.get? w.agent.id = some r ∧ w.events.getLast? = some e
    ∧ e.agentId = w.agent.id ∧ r.status = e.status
  cached : ∃ r, w.db.agents.get? w.agent.id = some r
    ∧ w.agent.info = ⟨r.status.status, r.status.statusPayload, r.status.statusPreset⟩

/-- A status that is not `online` has no preset, so an agent whose row is written has it exactly. -/
theorem withStatus_status (now : Int) (row : StatusRow) (r : StatusRequest) :
    (row.withStatus now r.status).status = r.status := by
  unfold StatusRow.withStatus
  dsimp only
  rw [if_pos r.not_online]
  cases r with
  | offline sys => rfl
  | pause payload statusComment => rfl
  | breakOut => rfl

theorem setStatus_stores_iff (now id : Int) (r : StatusRequest) (db : StatusDb) :
    (∃ row, (setStatus now id r.status db).agents.get? id = some row ∧ row.status = r.status)
      ↔ ∃ row, db.agents.get? id = some row
        ∧ (db.waitsForAgent id = false ∨ row.status = r.status) := by
  unfold setStatus
  cases hget : db.agents.get? id with
  | none =>
    grind
  | some row =>
    dsimp only
    cases hwaits : db.waitsForAgent id with
    | true =>
      grind
    | false =>
      rw [if_neg Bool.false_ne_true]
      refine ⟨fun _ => ⟨row, rfl, .inl rfl⟩, fun _ => ⟨row.withStatus now r.status, ?_, ?_⟩⟩
      · have hid : (row.withStatus now r.status).id = id := (Table.get?_eq_some.mp hget).2
        rw [← hid]
        exact Table.get?_replace (by rw [hid]; exact hget)
      · exact withStatus_status now row r

theorem matches_iff_stored {o : StatusOutcomes} {r : StatusRequest} {w : StatusWorld}
    (hstore : o.setStatus = none) (hpublish : o.agentChangeStatus = none) :
    Matches (r.run o w).2
      ↔ ∃ row, (setStatus o.now w.agent.id r.status w.db).agents.get? w.agent.id = some row
        ∧ row.status = r.status := by
  rw [StatusRequest.run_eq]
  unfold changeStatus
  rw [hstore, hpublish]
  constructor
  · rintro ⟨⟨row, e, hrow, hlast, _, hstatus⟩, _⟩
    rw [List.getLast?_concat] at hlast
    rw [← Option.some.inj hlast] at hstatus
    exact ⟨row, hrow, hstatus⟩
  · rintro ⟨row, hrow, hstatus⟩
    refine ⟨⟨row, _, hrow, List.getLast?_concat, rfl, hstatus⟩, row, hrow, ?_⟩
    rw [hstatus]
    rfl

/-- **The status in memory and in the events is the stored one** exactly when the row can be
written or has the status already. -/
theorem status_matches_store (o : StatusOutcomes) (r : StatusRequest) (w : StatusWorld) :
    ((r.run o w).1 = none → Matches (r.run o w).2)
      ↔ o.setStatus ≠ none ∨ o.agentChangeStatus ≠ none
        ∨ ∃ row, w.db.agents.get? w.agent.id = some row
          ∧ (w.db.waitsForAgent w.agent.id = false ∨ row.status = r.status) := by
  rw [← setStatus_stores_iff o.now]
  cases hstore : o.setStatus with
  | some detail =>
    refine ⟨fun _ => .inl (fun h => nomatch h), fun _ h => ?_⟩
    rw [StatusRequest.run_eq, changeStatus, hstore] at h
    cases h
  | none =>
    cases hpublish : o.agentChangeStatus with
    | some detail =>
      refine ⟨fun _ => .inr (.inl fun h => nomatch h), fun _ h => ?_⟩
      rw [StatusRequest.run_eq, changeStatus, hstore, hpublish] at h
      cases h
    | none =>
      have hok : (r.run o w).1 = none := by
        rw [StatusRequest.run_eq, changeStatus, hstore, hpublish]
      grind [matches_iff_stored]

def reservedAgent : StatusWorld where
  db := {
    agents := ⟨[⟨3, ⟨.online, none, none, none⟩, 0⟩], by simp⟩
    channels := [⟨3, .call, true⟩]
    attempts := ⟨[{ Attempt.inserted 0 7 with agentId := some 3, state := .waitAgent }], by simp⟩ }
  agent := ⟨3, 30, 1, ⟨.online, none, none⟩⟩
  events := []

/-- The pause is cached and announced without an error, and the agent stays online. -/
theorem status_differs_from_store :
    let after := StatusRequest.run ⟨10, 10, none, none⟩ (.pause (some "lunch") none) reservedAgent
    after.1 = none
      ∧ after.2.db.agents.get? 3 = some ⟨3, ⟨.online, none, none, none⟩, 0⟩
      ∧ after.2.agent.info.status = .pause
      ∧ after.2.events.map (·.status.status) = [.pause]
      ∧ ¬ Matches after.2 := by
  refine ⟨rfl, rfl, rfl, rfl, ?_⟩
  rintro ⟨_, row, hrow, hinfo⟩
  have hstatus : StatusName.pause = row.status.status := congrArg CachedStatus.status hinfo
  rw [← Option.some.inj hrow] at hstatus
  cases hstatus

end CallCenter.AgentManager
