import CallCenter.AgentManager.Status
import CallCenter.Lib.Rounding
import CallCenter.Utils.Lru
import Mathlib.Data.List.Sort

/-!
# The cache of agents

The manager keeps agents as objects in an LRU cache. `GetAgent` is given the `updated_at` that its
caller has seen: a cached agent with another one is read again. `AgentGoOnline` logs an agent in,
reads it in the same statement, and leaves the cached object in place unless the agent that was read
has a later `updated_at` (`PutAgentCache`).

The `updated_at` of an agent is the milliseconds of the agent's row, less the seconds of its user's
row: a later update of the user's row lowers it. The cached objects are shared, and some methods
write to them in place.
-/

namespace CallCenter.AgentManager.Online

open Lib Store Utils

/-! ## The rows -/

structure AgentRow where
  id : Int
  userId : Int
  domainId : Int
  updatedAt : Int
  status : AgentStatus
  onDemand : Bool
  screenControl : Bool
  teamId : Option Int
  greetingMediaId : Option Int

structure UserRow where
  id : Int
  /-- A timestamp, here in microseconds. -/
  updatedAt : Int
  name : Option String
  username : String
  extension : Option String
  chatName : Option String

structure SessionRow where
  userId : Option Int
  access : Bool
  pnType : Option String
  pnRpid : Option String
  expires : Int

structure PresetRow where
  id : Int
  domainId : Int
  name : String

/-- The tables. Domains and media files are given with their name and type, teams with the time of
their last update; `tracked` and `present` are the users with a session of the `desc_track`
application, and with a SIP or web presence. -/
structure Tables where
  now : Int
  agents : Table AgentRow.id
  users : Table UserRow.id
  domains : List (Int × String)
  teams : List (Int × Int)
  mediaFiles : List (Int × String)
  presets : List PresetRow
  sessions : List SessionRow
  tracked : List Int
  present : List Int

def SessionRow.reaches (now userId : Int) (s : SessionRow) : Bool :=
  decide (s.userId = some userId) && s.access && s.pnRpid.any (· ≠ "") && decide (now < s.expires)

/-- `array_to_string(array_agg(DISTINCT s.props->>'pn-rpid'), '::')` of one group of sessions. -/
def joinRpids (sessions : List SessionRow) : String :=
  "::".intercalate ((sessions.filterMap SessionRow.pnRpid).dedup.insertionSort (· ≤ ·))

def Tables.pushOf (t : Tables) (userId : Int) : Option Vars :=
  let sessions := t.sessions.filter (·.reaches t.now userId)
  let groups := [("wbt_push_apn", sessions.filter (·.pnType = some "apns")),
    ("wbt_push_fcm", sessions.filter (·.pnType = some "fcm"))].filter fun g => !g.2.isEmpty
  if groups.isEmpty then none else some (groups.map fun g => (g.1, joinRpids g.2))

/-! ## An agent as it is read -/

structure AgentInfo where
  id : Int
  domainId : Int
  userId : Int
  name : String
  updatedAt : Int
  destination : Option String
  extension : Option String
  teamId : Int
  teamUpdatedAt : Int
  onDemand : Bool
  greetingMedia : Option (Int × String)
  vars : Vars
  hasPush : Bool
  chatName : String
  status : AgentStatus

/-- `(a.updated_at - extract(epoch from u.updated_at))::int8`: the difference is a number with six
decimals, and the cast rounds it. -/
def updatedKey (agentMillis userMicros : Int) : Int :=
  roundDiv (agentMillis * 1000000 - userMicros) 1000000

/-- The row of `SELECT` for a row of `cc_agent`. The joins with the user, the domain and the team
are inner ones. -/
def Tables.infoOf (t : Tables) (a : AgentRow) : Option AgentInfo := do
  let u ← t.users.get? a.userId
  let d ← t.domains.find? fun d => d.1 = a.domainId
  let teamId ← a.teamId
  let team ← t.teams.find? fun x => x.1 = teamId
  let name := u.name.getD u.username
  return {
    id := a.id
    domainId := a.domainId
    userId := a.userId
    name := name
    updatedAt := updatedKey a.updatedAt u.updatedAt
    destination := u.extension.map fun x => "sofia/sip/" ++ x ++ "@" ++ d.2
    extension := u.extension
    teamId := teamId
    teamUpdatedAt := team.2
    onDemand := a.onDemand
    greetingMedia := a.greetingMediaId.bind fun g => t.mediaFiles.find? fun f => f.1 = g
    vars := (t.pushOf a.userId).getD []
    hasPush := (t.pushOf a.userId).isSome
    chatName := (u.chatName.filter (· ≠ "")).getD name
    status := { a.status with statusComment := none, statusPreset := none } }

def Tables.getAgent (t : Tables) (id : Int) : Option AgentInfo := (t.agents.get? id).bind t.infoOf

structure AgentData where
  name : String
  extension : Option String
  destination : Option String
  teamId : Int
  vars : Vars

def AgentInfo.data (i : AgentInfo) : AgentData where
  name := i.name
  extension := i.extension
  destination := i.destination
  teamId := i.teamId
  vars := i.vars

def Tables.dataOf (t : Tables) (id : Int) : Option AgentData := (t.getAgent id).map AgentInfo.data

def Tables.updatesOf (t : Tables) (id : Int) : Option (Int × Int) := do
  let a ← t.agents.get? id
  let u ← t.users.get? a.userId
  return (a.updatedAt, u.updatedAt)

/-! ## Going online -/

structure OnlineRequest where
  domainId : Int
  agentId : Int
  onDemand : Bool
  status : Option (Int × String)

def trimmed (s : String) : List Char :=
  ((s.toList.dropWhile Char.isWhitespace).reverse.dropWhile Char.isWhitespace).reverse

def OnlineRequest.statusId (r : OnlineRequest) : Option Int :=
  (r.status.filter fun s => 0 < s.1).map Prod.fst

def OnlineRequest.statusName (r : OnlineRequest) : Option String :=
  (r.status.filter fun s => trimmed s.2 ≠ []).map Prod.snd

inductive OnlineError where
  | agentNotFound
  | agentAlreadyOnline
  | noDescTrack
  | noPresence
  | noRows

def OnlineError.message : OnlineError → String
  | agentNotFound => "agent_not_found"
  | agentAlreadyOnline => "agent_already_online"
  | noDescTrack => "The agent must connect via the \"desc_track\" client application."
  | noPresence => "not found: sip, web or pn"
  | noRows => "sql: no rows in result set"

def Tables.presetFor (t : Tables) (r : OnlineRequest) : Option Int :=
  match r.statusId with
  | some id => some id
  | none => r.statusName.bind fun name => (t.presets.find? fun p =>
      decide (p.name.toList.map Char.toLower = (trimmed name).map Char.toLower)
        && decide (p.domainId = r.domainId)).map PresetRow.id

def AgentRow.loggedIn (onDemand : Bool) (preset : Option Int) (a : AgentRow) : AgentRow :=
  { a with
    status := { a.status with status := .online, statusPayload := none, statusPreset := preset }
    onDemand := onDemand }

def Tables.login (t : Tables) (r : OnlineRequest) : Tables :=
  { t with
    agents := t.agents.update (fun a => a.id = r.agentId)
      (AgentRow.loggedIn r.onDemand (t.presetFor r)) fun _ => rfl }

/-- What `cc_agent_set_login_v2` asks of the user: the tracking application if the agent's screen is
under control, and a way to be reached. -/
def Tables.refuses (t : Tables) (a : AgentRow) : Option OnlineError :=
  if a.screenControl && !t.tracked.contains a.userId then some .noDescTrack
  else if !t.present.contains a.userId && !t.sessions.any (·.reaches t.now a.userId) then
    some .noPresence
  else none

/-- `SetOnlineAtomic`. An exception rolls the login back; a query that finds no row does not. -/
def Tables.setOnlineAtomic (t : Tables) (r : OnlineRequest) :
    Tables × Except OnlineError AgentInfo :=
  match (t.agents.get? r.agentId).filter fun a => a.domainId = r.domainId with
  | none => (t, .error .agentNotFound)
  | some a =>
    if a.status.status = .online ∧ a.onDemand = r.onDemand
        ∧ a.status.statusPreset = t.presetFor r then
      (t, .error .agentAlreadyOnline)
    else
      match t.refuses a with
      | some e => (t, .error e)
      | none =>
        match (t.login r).getAgent r.agentId with
        | none => (t.login r, .error .noRows)
        | some info => (t.login r, .ok info)

/-! ## The manager -/

/-- An object in memory, with the tables that it was read from: the program does not keep those. -/
structure ReadAgent where
  info : AgentInfo
  source : Tables

/-- The tables now and as they were, the objects by their addresses, and the cache. -/
structure Manager where
  tables : Tables
  past : List Tables
  heap : List ReadAgent
  agentsCache : Cache Int Nat

def newAgentManager (t : Tables) : Manager := ⟨t, [t], [], newLruWithParams Int Nat 10000 300⟩

namespace Manager

def withTables (m : Manager) (t : Tables) : Manager := { m with tables := t, past := t :: m.past }

def get (m : Manager) (now : Int64) (id : Int) : Manager × Option (Nat × ReadAgent) :=
  let got := m.agentsCache.get now id
  ({ m with agentsCache := got.1 },
    got.2.bind fun addr => m.heap[addr]?.map fun c => (addr, c))

def keep (m : Manager) (now : Int64) (c : ReadAgent) : Manager × Nat :=
  ({ m with
    heap := m.heap ++ [c]
    agentsCache := m.agentsCache.addWithDefaultExpires now c.info.id m.heap.length },
    m.heap.length)

def putAgentCache (m : Manager) (now : Int64) (c : ReadAgent) : Manager × Nat :=
  match m.get now c.info.id with
  | (m, some (addr, current)) =>
    if current.info.updatedAt ≥ c.info.updatedAt then (m, addr) else m.keep now c
  | (m, none) => m.keep now c

/-- The function that `GetAgent` runs once for all its callers, with a read of `t`. -/
def loadAgent (m : Manager) (now : Int64) (id updatedAt : Int) (t : Tables) :
    Manager × Option Nat :=
  match m.get now id with
  | (m, got) =>
    match got.filter fun x => x.2.info.updatedAt = updatedAt with
    | some (addr, _) => (m, some addr)
    | none =>
      match t.getAgent id with
      | none => (m, none)
      | some info => ((m.keep now ⟨info, t⟩).1, some (m.keep now ⟨info, t⟩).2)

def getAgent (m : Manager) (now : Int64) (id updatedAt : Int) (t : Tables) :
    Manager × Option Nat :=
  match m.get now id with
  | (m, got) =>
    match got.filter fun x => x.2.info.updatedAt = updatedAt with
    | some (addr, _) => (m, some addr)
    | none => m.loadAgent now id updatedAt t

def modify (m : Manager) (addr : Nat) (f : AgentInfo → AgentInfo) : Manager :=
  { m with heap := m.heap.modify addr fun c => { c with info := f c.info } }

end Manager

/-- `StoreStatus`: the comment stays. -/
def AgentInfo.storeStatus (s : AgentStatus) (i : AgentInfo) : AgentInfo :=
  { i with status := { s with statusComment := i.status.statusComment } }

def AgentInfo.setOnDemand (v : Bool) (i : AgentInfo) : AgentInfo := { i with onDemand := v }

def AgentInfo.setTeamUpdatedAt (time : Int) (i : AgentInfo) : AgentInfo :=
  { i with teamUpdatedAt := time }

def Manager.agentGoOnline (m : Manager) (now : Int64) (r : OnlineRequest) :
    Manager × Except OnlineError Nat :=
  match m.tables.setOnlineAtomic r with
  | (t, .error e) => (m.withTables t, .error e)
  | (t, .ok info) =>
    let put := (m.withTables t).putAgentCache now ⟨info, t⟩
    let written := put.1.modify put.2 fun i =>
      (i.setOnDemand r.onDemand).storeStatus ⟨.online, none, none, m.tables.presetFor r⟩
    (written, .ok put.2)

/-! ## What happens -/

inductive CacheLabel where
  | updateAgent (a : AgentRow)
  | updateUser (u : UserRow)
  | writeStatus (id : Int) (onDemand : Bool) (s : AgentStatus)
  | change (t : Tables)
  /-- `GetAgent`, with the read from an earlier state of the tables: a replica, or a slow caller. -/
  | getAgent (now : Int64) (id updatedAt : Int) (age : Nat)
  | goOnline (now : Int64) (r : OnlineRequest)
  | storeStatus (addr : Nat) (s : AgentStatus)
  | setOnDemand (addr : Nat) (v : Bool)
  | setTeamUpdatedAt (addr : Nat) (time : Int)

def cacheStep (m : Manager) : CacheLabel → Option Manager
  | .updateAgent a =>
    match m.tables.agents.get? a.id with
    | none => none
    | some old =>
      if old.updatedAt < a.updatedAt then
        some (m.withTables { m.tables with agents := m.tables.agents.replace a })
      else none
  | .updateUser u =>
    match m.tables.users.get? u.id with
    | none => none
    | some old =>
      if old.updatedAt < u.updatedAt then
        some (m.withTables { m.tables with users := m.tables.users.replace u })
      else none
  | .writeStatus id onDemand s =>
    some (m.withTables { m.tables with
      agents := m.tables.agents.update (fun a => a.id = id)
        (fun a => { a with onDemand := onDemand, status := s }) fun _ => rfl })
  | .change t => some (m.withTables { t with agents := m.tables.agents, users := m.tables.users })
  | .getAgent now id updatedAt age =>
    m.past[age]?.map fun t => (m.getAgent now id updatedAt t).1
  | .goOnline now r => some (m.agentGoOnline now r).1
  | .storeStatus addr s => some (m.modify addr (AgentInfo.storeStatus s))
  | .setOnDemand addr v => some (m.modify addr (AgentInfo.setOnDemand v))
  | .setTeamUpdatedAt addr time => some (m.modify addr (AgentInfo.setTeamUpdatedAt time))

end CallCenter.AgentManager.Online
