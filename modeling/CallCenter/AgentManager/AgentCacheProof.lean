import CallCenter.AgentManager.AgentCache
import CallCenter.Utils.LruProof

/-!
# What a cached agent says after it goes online

A cached object says what some read of the store said. So whether `PutAgentCache` leaves it in place
is a question about the two rows, as they were at that read and as they are now: it is left in place
when the agent's milliseconds less the user's seconds have not grown. A change of the name, the
extension or the destination, which the user's row holds, makes them shrink and is not taken over.
-/

namespace CallCenter.AgentManager.Online

open Lib Utils

/-! ## The key of two rows -/

theorem updatedKey_agent {a a' u : Int} (h : a < a') : updatedKey a u < updatedKey a' u :=
  roundDiv_lt (by decide) (by omega)

variable {info : AgentInfo}

theorem updatedAt_of_getAgent {t : Tables} {id : Int} (h : t.getAgent id = some info) :
    ∃ x ∈ t.updatesOf id, info.updatedAt = updatedKey x.1 x.2 := by
  obtain ⟨a, ha, h⟩ := Option.bind_eq_some_iff.mp h
  obtain ⟨u, hu, h⟩ := Option.bind_eq_some_iff.mp h
  obtain ⟨d, -, h⟩ := Option.bind_eq_some_iff.mp h
  obtain ⟨teamId, -, h⟩ := Option.bind_eq_some_iff.mp h
  obtain ⟨team, -, h⟩ := Option.bind_eq_some_iff.mp h
  refine ⟨(a.updatedAt, u.updatedAt), ?_, ?_⟩
  all_goals grind [Tables.updatesOf]

theorem id_of_getAgent {t : Tables} {id : Int} (h : t.getAgent id = some info) : info.id = id := by
  obtain ⟨a, ha, h⟩ := Option.bind_eq_some_iff.mp h
  obtain ⟨u, -, h⟩ := Option.bind_eq_some_iff.mp h
  obtain ⟨d, -, h⟩ := Option.bind_eq_some_iff.mp h
  obtain ⟨teamId, -, h⟩ := Option.bind_eq_some_iff.mp h
  obtain ⟨team, -, h⟩ := Option.bind_eq_some_iff.mp h
  cases h
  exact (Table.get?_eq_some.mp ha).2

/-! ## A login is no update -/

section Login

variable (t : Tables) (r : OnlineRequest) (id : Int)

theorem get?_login : (t.login r).agents.get? id
    = (t.agents.get? id).map fun a =>
        if id = r.agentId then a.loggedIn r.onDemand (t.presetFor r) else a := by
  have hkey : ∀ a, (AgentRow.loggedIn r.onDemand (t.presetFor r) a).id = a.id := fun _ => rfl
  by_cases hid : id = r.agentId
  · have hself : (t.login r).agents.get? r.agentId
        = (t.agents.get? r.agentId).map (AgentRow.loggedIn r.onDemand (t.presetFor r)) :=
      Table.get?_update (h := hkey)
    rw [hid, hself]
    simp only [if_true]
  · have hother : (t.login r).agents.get? id = t.agents.get? id :=
      Table.get?_update_of_ne (h := hkey) hid
    rw [hother]
    simp only [if_neg hid, Option.map_id']

theorem infoOf_loggedIn (onDemand : Bool) (preset : Option Int) (a : AgentRow) :
    (t.infoOf (a.loggedIn onDemand preset)).map AgentInfo.data
      = (t.infoOf a).map AgentInfo.data := by
  unfold Tables.infoOf AgentRow.loggedIn
  simp only [Option.bind_eq_bind, Option.map_bind, Function.comp_def, Option.pure_def,
    Option.map_some]
  rfl

theorem dataOf_login : (t.login r).dataOf id = t.dataOf id := by
  unfold Tables.dataOf Tables.getAgent
  rw [get?_login]
  cases t.agents.get? id with
  | none => rfl
  | some a =>
    rw [Option.map_some, Option.bind_some, Option.bind_some]
    split
    · exact infoOf_loggedIn t r.onDemand (t.presetFor r) a
    · rfl

theorem updatesOf_login : (t.login r).updatesOf id = t.updatesOf id := by
  unfold Tables.updatesOf
  rw [get?_login]
  cases t.agents.get? id with
  | none => rfl
  | some a =>
    rw [Option.map_some]
    split
    · rfl
    · rfl

end Login

theorem setOnlineAtomic_ok {t t' : Tables} {r : OnlineRequest}
    (h : t.setOnlineAtomic r = (t', .ok info)) :
    t' = t.login r ∧ t'.getAgent r.agentId = some info := by
  grind [Tables.setOnlineAtomic]

/-! ## Objects say what was read -/

/-- The object says what the store said when it was read, apart from its status. -/
def ReadAgent.Faithful (c : ReadAgent) : Prop :=
  ∃ info, c.source.getAgent c.info.id = some info ∧ c.info.data = info.data
    ∧ c.info.updatedAt = info.updatedAt

theorem ReadAgent.faithful_of_read {t : Tables} {id : Int} (h : t.getAgent id = some info) :
    ReadAgent.Faithful ⟨info, t⟩ :=
  ⟨info, (id_of_getAgent h).symm ▸ h, rfl, rfl⟩

/-- Every agent in the cache is as the tables had it. -/
structure CacheOk (m : Manager) : Prop where
  lru : ∃ ref : RefCache Int Nat 10000, Refines m.agentsCache 0 ref
  expiry : m.agentsCache.defaultExpiry = 300
  faithful : ∀ i ∈ m.agentsCache.view,
    ∃ c, m.heap[i.value]? = some c ∧ c.info.id = i.key ∧ c.Faithful

theorem cacheOk_new (t : Tables) : CacheOk (newAgentManager t) where
  lru := ⟨RefCache.empty, newLru_refines 300⟩
  expiry := rfl
  faithful := by
    intro i hi
    cases hi

variable {m : Manager}

theorem CacheOk.withTables (h : CacheOk m) (t : Tables) :
    CacheOk (m.withTables t) where
  lru := h.lru
  expiry := h.expiry
  faithful := h.faithful

structure Keeps (f : AgentInfo → AgentInfo) : Prop where
  id : ∀ i, (f i).id = i.id
  data : ∀ i, (f i).data = i.data
  updatedAt : ∀ i, (f i).updatedAt = i.updatedAt

theorem keeps_storeStatus (s : AgentStatus) : Keeps (AgentInfo.storeStatus s) :=
  ⟨fun _ => rfl, fun _ => rfl, fun _ => rfl⟩

theorem keeps_setOnDemand (v : Bool) : Keeps (AgentInfo.setOnDemand v) :=
  ⟨fun _ => rfl, fun _ => rfl, fun _ => rfl⟩

theorem keeps_setTeamUpdatedAt (time : Int) : Keeps (AgentInfo.setTeamUpdatedAt time) :=
  ⟨fun _ => rfl, fun _ => rfl, fun _ => rfl⟩

variable {f : AgentInfo → AgentInfo}

theorem Keeps.comp {g : AgentInfo → AgentInfo} (hg : Keeps g) (hf : Keeps f) :
    Keeps fun i => g (f i) where
  id i := (hg.id _).trans (hf.id i)
  data i := (hg.data _).trans (hf.data i)
  updatedAt i := (hg.updatedAt _).trans (hf.updatedAt i)

variable {c : ReadAgent}

theorem Keeps.faithful (hf : Keeps f) (h : c.Faithful) :
    ReadAgent.Faithful { c with info := f c.info } := by
  obtain ⟨info, hread, hdata, hkey⟩ := h
  refine ⟨info, ?_, (hf.data _).trans hdata, (hf.updatedAt _).trans hkey⟩
  rw [hf.id]
  exact hread

theorem heap_modify {addr a : Nat} :
    (m.modify addr f).heap[a]?
      = m.heap[a]?.map fun c => if addr = a then { c with info := f c.info } else c :=
  getElem?_modify_ite

theorem CacheOk.modify (h : CacheOk m) (addr : Nat) (hf : Keeps f) : CacheOk (m.modify addr f) where
  lru := h.lru
  expiry := h.expiry
  faithful := by
    intro i hi
    obtain ⟨c, hc, hid, hread⟩ := h.faithful i hi
    rw [heap_modify, hc, Option.map_some]
    by_cases ha : addr = i.value
    · rw [if_pos ha]
      exact ⟨_, rfl, (hf.id _).trans hid, hf.faithful hread⟩
    · rw [if_neg ha]
      exact ⟨c, rfl, hid, hread⟩

/-! ## Looking up and adding -/

theorem defaultExpiry_get (c : Cache Int Nat) (now : Int64) (k : Int) :
    (c.get now k).1.defaultExpiry = c.defaultExpiry := by
  unfold Cache.get
  split
  · split
    · rfl
    · rfl
  · rfl

theorem defaultExpiry_add (c : Cache Int Nat) (now : Int64) (k : Int) (v : Nat) :
    (c.addWithDefaultExpires now k v).defaultExpiry = c.defaultExpiry := by
  unfold Cache.addWithDefaultExpires Cache.addWithExpiresInSecs
  split
  · rfl
  · unfold Cache.evict
    split
    · rfl
    · rfl

theorem CacheOk.get (h : CacheOk m) (now : Int64) (id : Int) :
    CacheOk (m.get now id).1 := by
  obtain ⟨ref, href⟩ := h.lru
  have hget := (href.get now id).2
  refine ⟨⟨_, hget⟩, (defaultExpiry_get _ now id).trans h.expiry, ?_⟩
  intro i hi
  have hi' : i ∈ m.agentsCache.view := by
    rw [href.view]
    exact RefCache.mem_get (hget.view ▸ hi)
  exact h.faithful i hi'

theorem CacheOk.found (h : CacheOk m) {now : Int64} {id : Int} {addr : Nat}
    (hget : (m.get now id).2 = some (addr, c)) :
    m.heap[addr]? = some c ∧ c.info.id = id ∧ c.Faithful := by
  obtain ⟨a, ha, hc⟩ := Option.bind_eq_some_iff.mp hget
  obtain ⟨c', hheap, hpair⟩ := Option.map_eq_some_iff.mp hc
  cases hpair
  obtain ⟨ref, href⟩ := h.lru
  rw [(href.get now id).1] at ha
  obtain ⟨i, hi, hkey, hvalue⟩ := RefCache.mem_of_get_eq_some ha
  obtain ⟨c', hc', hid, hread⟩ := h.faithful i (href.view ▸ hi)
  rw [hvalue, hheap] at hc'
  cases hc'
  exact ⟨hheap, hid.trans hkey, hread⟩

theorem CacheOk.get_get (h : CacheOk m) (now : Int64) (id : Int) :
    ((m.get now id).1.get now id).2 = (m.get now id).2 := by
  obtain ⟨ref, href⟩ := h.lru
  have hget := href.get now id
  have hagain : ((m.agentsCache.get now id).1.get now id).2 = (m.agentsCache.get now id).2 := by
    rw [(hget.2.get now id).1, hget.1, RefCache.get_get]
  unfold Manager.get
  dsimp only
  rw [hagain]

theorem CacheOk.keep (h : CacheOk m) (now : Int64) (hc : c.Faithful) :
    CacheOk (m.keep now c).1 := by
  obtain ⟨ref, href⟩ := h.lru
  have hadd := href.add now c.info.id m.heap.length m.agentsCache.defaultExpiry
  refine ⟨⟨_, hadd⟩, (defaultExpiry_add _ now _ _).trans h.expiry, ?_⟩
  intro i hi
  have hi' := RefCache.mem_add (hadd.view ▸ hi)
  unfold Manager.keep
  dsimp only
  rcases hi' with rfl | hold
  · exact ⟨c, List.getElem?_concat_length, rfl, hc⟩
  · obtain ⟨c', hc', hid, hread⟩ := h.faithful i (href.view ▸ hold)
    grind

theorem CacheOk.get_keep (h : CacheOk m) (now : Int64) (c : ReadAgent) :
    ((m.keep now c).1.get now c.info.id).2 = some ((m.keep now c).2, c) := by
  obtain ⟨ref, href⟩ := h.lru
  have hadd := href.add now c.info.id m.heap.length m.agentsCache.defaultExpiry
  have hfresh : Cache.expired now (Cache.expiry now m.agentsCache.defaultExpiry) = false := by
    rw [h.expiry]
    exact Cache.expired_expiry (by decide)
  have hfound : ((m.agentsCache.addWithDefaultExpires now c.info.id m.heap.length).get now
      c.info.id).2 = some m.heap.length :=
    (hadd.get now c.info.id).1.trans (RefCache.get_add (by decide) hfresh)
  unfold Manager.get Manager.keep
  dsimp only
  rw [hfound, Option.bind_some, List.getElem?_concat_length]
  rfl

/-! ## What `PutAgentCache` leaves -/

/-- The cached agent stays when its key is not below the key just read, and makes way otherwise. -/
theorem CacheOk.putAgentCache (h : CacheOk m) (now : Int64) (hc : c.Faithful) :
    CacheOk (m.putAgentCache now c).1 ∧ ∃ left,
      ((m.putAgentCache now c).1.get now c.info.id).2 = some ((m.putAgentCache now c).2, left)
      ∧ ((∃ addr, (m.get now c.info.id).2 = some (addr, left))
            ∧ c.info.updatedAt ≤ left.info.updatedAt
          ∨ left = c ∧ ∀ addr e, (m.get now c.info.id).2 = some (addr, e) →
            e.info.updatedAt < c.info.updatedAt) := by
  have hget := h.get now c.info.id
  have hagain := h.get_get now c.info.id
  unfold Manager.putAgentCache
  split
  · rename_i m₁ addr current heq
    rw [heq] at hget hagain
    split
    · rename_i hge
      exact ⟨hget, current, hagain, .inl ⟨⟨addr, by rw [heq]⟩, hge⟩⟩
    · rename_i hlt
      refine ⟨hget.keep now hc, c, hget.get_keep now c, .inr ⟨rfl, fun a e he => ?_⟩⟩
      rw [heq] at he
      cases he
      exact Int.not_le.mp hlt
  · rename_i m₁ heq
    rw [heq] at hget
    refine ⟨hget.keep now hc, c, hget.get_keep now c, .inr ⟨rfl, fun a e he => ?_⟩⟩
    rw [heq] at he
    cases he

/-! ## Every run -/

theorem CacheOk.loadAgent (h : CacheOk m) (now : Int64) (id updatedAt : Int) (t : Tables) :
    CacheOk (m.loadAgent now id updatedAt t).1 := by
  have hget := h.get now id
  unfold Manager.loadAgent
  dsimp only
  split
  · exact hget
  · split
    · exact hget
    · rename_i info hread
      exact hget.keep now (ReadAgent.faithful_of_read hread)

theorem CacheOk.getAgent (h : CacheOk m) (now : Int64) (id updatedAt : Int) (t : Tables) :
    CacheOk (m.getAgent now id updatedAt t).1 := by
  have hget := h.get now id
  unfold Manager.getAgent
  dsimp only
  split
  · exact hget
  · exact hget.loadAgent now id updatedAt t

theorem CacheOk.agentGoOnline (h : CacheOk m) (now : Int64) (r : OnlineRequest) :
    CacheOk (m.agentGoOnline now r).1 := by
  unfold Manager.agentGoOnline
  split
  · exact h.withTables _
  · rename_i t info honline
    have hread := (setOnlineAtomic_ok honline).2
    have hput := ((h.withTables t).putAgentCache now (ReadAgent.faithful_of_read hread)).1
    exact hput.modify _ ((keeps_storeStatus _).comp (keeps_setOnDemand _))

theorem CacheOk.step {m' : Manager} {l : CacheLabel} (h : CacheOk m)
    (hstep : cacheStep m l = some m') : CacheOk m' := by
  cases l with
  | updateAgent a =>
    unfold cacheStep at hstep
    dsimp only at hstep
    split at hstep
    · cases hstep
    · obtain ⟨-, hm⟩ := Option.ite_none_right_eq_some.mp hstep
      cases hm
      exact h.withTables _
  | updateUser u =>
    unfold cacheStep at hstep
    dsimp only at hstep
    split at hstep
    · cases hstep
    · obtain ⟨-, hm⟩ := Option.ite_none_right_eq_some.mp hstep
      cases hm
      exact h.withTables _
  | writeStatus id onDemand s =>
    cases hstep
    exact h.withTables _
  | change t =>
    cases hstep
    exact h.withTables _
  | getAgent now id updatedAt age =>
    obtain ⟨t, -, hm⟩ := Option.map_eq_some_iff.mp hstep
    rw [← hm]
    exact h.getAgent now id updatedAt t
  | goOnline now r =>
    cases hstep
    exact h.agentGoOnline now r
  | storeStatus addr s =>
    cases hstep
    exact h.modify addr (keeps_storeStatus s)
  | setOnDemand addr v =>
    cases hstep
    exact h.modify addr (keeps_setOnDemand v)
  | setTeamUpdatedAt addr time =>
    cases hstep
    exact h.modify addr (keeps_setTeamUpdatedAt time)

theorem cacheOk_run {t : Tables} {labels : List CacheLabel}
    (hrun : run cacheStep (newAgentManager t) labels = some m) : CacheOk m :=
  run_invariant (fun _ _ _ h _ hstep => h.step hstep) labels (cacheOk_new t)
    (along_of_forall (fun _ _ => trivial) labels _) hrun

/-! ## Going online -/

theorem tables_putAgentCache (m : Manager) (now : Int64) (c : ReadAgent) :
    (m.putAgentCache now c).1.tables = m.tables := by
  unfold Manager.putAgentCache
  split
  · rename_i m₁ addr current heq
    have hm₁ : (m.get now c.info.id).1 = m₁ := congrArg Prod.fst heq
    rw [← hm₁]
    split
    · rfl
    · rfl
  · rename_i m₁ heq
    have hm₁ : (m.get now c.info.id).1 = m₁ := congrArg Prod.fst heq
    rw [← hm₁]
    rfl

theorem get_modify {now : Int64} {id : Int} {addr : Nat} (f : AgentInfo → AgentInfo)
    (hget : (m.get now id).2 = some (addr, c)) :
    ((m.modify addr f).get now id).2 = some (addr, { c with info := f c.info }) := by
  obtain ⟨a, ha, hc⟩ := Option.bind_eq_some_iff.mp hget
  obtain ⟨c', hheap, hpair⟩ := Option.map_eq_some_iff.mp hc
  cases hpair
  refine Option.bind_eq_some_iff.mpr ⟨addr, ha, ?_⟩
  rw [heap_modify, hheap, Option.map_some, Option.map_some, if_pos rfl]

/-- The key of an agent's rows has grown between two states of the tables. -/
def KeyGrew (id : Int) (old cur : Tables) : Prop :=
  ∀ x ∈ old.updatesOf id, ∀ y ∈ cur.updatesOf id, updatedKey x.1 x.2 < updatedKey y.1 y.2

theorem keyGrew_iff {id : Int} {old cur : Tables} {i j : AgentInfo}
    (hi : old.getAgent id = some i) (hj : cur.getAgent id = some j) :
    KeyGrew id old cur ↔ i.updatedAt < j.updatedAt := by
  obtain ⟨x, hx, hix⟩ := updatedAt_of_getAgent hi
  obtain ⟨y, hy, hjy⟩ := updatedAt_of_getAgent hj
  rw [hix, hjy]
  constructor
  · intro h
    exact h x hx y hy
  · intro h x' hx' y' hy'
    rw [Option.mem_unique hx' hx, Option.mem_unique hy' hy]
    exact h

theorem keyGrew_of_agent_update {id a a' u : Int} {old cur : Tables}
    (hold : old.updatesOf id = some (a, u)) (hcur : cur.updatesOf id = some (a', u)) (h : a < a') :
    KeyGrew id old cur := by
  intro x hx y hy
  rw [Option.mem_unique hx hold, Option.mem_unique hy hcur]
  exact updatedKey_agent h

/-- **What going online leaves in the cache** is what was read, exactly if nothing was cached for
the agent, or the key of its rows has grown since that was read, or the rows then say the same as
the rows now. -/
theorem goOnline_refreshes_iff {t : Tables} {labels : List CacheLabel} {m m' : Manager}
    {now : Int64} {r : OnlineRequest} {addr : Nat}
    (hrun : run cacheStep (newAgentManager t) labels = some m)
    (honline : m.agentGoOnline now r = (m', .ok addr)) :
    ∃ left, (m'.get now r.agentId).2 = some (addr, left)
      ∧ (some left.info.data = m'.tables.dataOf r.agentId ↔
        ∀ a e, (m.get now r.agentId).2 = some (a, e) →
          KeyGrew r.agentId e.source m.tables
            ∨ e.source.dataOf r.agentId = m.tables.dataOf r.agentId) := by
  have h := cacheOk_run hrun
  unfold Manager.agentGoOnline at honline
  split at honline
  · cases honline
  · rename_i t' info hset
    obtain ⟨ht', hread⟩ := setOnlineAtomic_ok hset
    have hid : info.id = r.agentId := id_of_getAgent hread
    have hdata : t'.dataOf r.agentId = some info.data := by
      unfold Tables.dataOf
      rw [hread, Option.map_some]
    obtain ⟨-, left, hleft, hcases⟩ :=
      (h.withTables t').putAgentCache now (ReadAgent.faithful_of_read hread)
    have htables : ((m.withTables t').putAgentCache now ⟨info, t'⟩).1.tables = t' :=
      tables_putAgentCache _ now _
    cases honline
    rw [hid] at hleft hcases
    refine ⟨_, get_modify _ hleft, ?_⟩
    -- The login changes neither what the rows say nor their key.
    have hgrew : ∀ old : Tables, KeyGrew r.agentId old m.tables ↔ KeyGrew r.agentId old t' := by
      intro old
      unfold KeyGrew
      rw [ht', updatesOf_login]
    have hsame : m.tables.dataOf r.agentId = some info.data := by
      rw [← hdata, ht', dataOf_login]
    change some left.info.data
      = ((m.withTables t').putAgentCache now ⟨info, t'⟩).1.tables.dataOf r.agentId ↔ _
    rw [htables, hdata, hsame]
    rcases hcases with ⟨⟨a, hfound⟩, hge⟩ | ⟨rfl, hlt⟩
    · -- The cached agent has stayed.
      obtain ⟨-, hleftId, info', hread', hdata', hkey'⟩ := h.found hfound
      rw [hleftId] at hread'
      have hold : left.source.dataOf r.agentId = some left.info.data := by
        unfold Tables.dataOf
        rw [hread', Option.map_some, hdata']
      constructor
      · intro heq a' e he
        rw [show (m.get now r.agentId).2 = _ from hfound] at he
        cases he
        exact .inr (hold.trans heq)
      · intro hall
        rcases hall a left hfound with hkey | heq
        · rw [hgrew, keyGrew_iff hread' hread, ← hkey'] at hkey
          exact absurd hge (Int.not_le.mpr hkey)
        · rw [← hold, heq]
    · -- It has made way.
      refine iff_of_true rfl fun a e he => .inl ?_
      obtain ⟨-, hidOld, info', hread', -, hkey'⟩ := h.found he
      rw [hidOld] at hread'
      rw [hgrew, keyGrew_iff hread' hread, ← hkey']
      exact hlt a e he

/-! ## An agent of one user -/

def ann : UserRow := ⟨5, 1000000, some "Ann", "ann", some "101", none⟩

def annAgent : AgentRow := ⟨1, 5, 1, 1000, ⟨.offline, none, none, none⟩, false, false, some 7, none⟩

def annTables : Tables where
  now := 0
  agents := ⟨[annAgent], by decide⟩
  users := ⟨[ann], by decide⟩
  domains := [(1, "example")]
  teams := [(7, 0), (8, 0)]
  mediaFiles := []
  presets := []
  sessions := []
  tracked := []
  present := [5]

def annOnline : OnlineRequest := ⟨1, 1, false, none⟩

/-- Ann goes online and offline, is moved to another team a second later, and goes online. -/
def movedToTeam : List CacheLabel :=
  [.goOnline 0 annOnline, .writeStatus 1 false ⟨.offline, none, none, none⟩,
    .updateAgent { annAgent with teamId := some 8, updatedAt := 2000 }]

theorem movedToTeam_refreshed : ∃ m m' addr left,
    run cacheStep (newAgentManager annTables) movedToTeam = some m
    ∧ m.agentGoOnline 0 annOnline = (m', .ok addr)
    ∧ (m'.get 0 1).2 = some (addr, left) ∧ left.info.teamId = 8
    ∧ some left.info.data = m'.tables.dataOf 1 := by
  refine ⟨_, _, _, _, rfl, rfl, rfl, rfl, ?_⟩
  obtain ⟨left, hleft, hiff⟩ := goOnline_refreshes_iff (t := annTables) (r := annOnline)
    (show run cacheStep (newAgentManager annTables) movedToTeam = some _ from rfl)
    (show Manager.agentGoOnline _ 0 annOnline = _ from rfl)
  cases hleft
  refine hiff.mpr fun a e he => .inl ?_
  cases he
  exact keyGrew_of_agent_update rfl rfl (show (1000 : Int) < 2000 by decide)

/-- Ann goes online and offline, is renamed a second later, and goes online. -/
def renamed : List CacheLabel :=
  [.goOnline 0 annOnline, .writeStatus 1 false ⟨.offline, none, none, none⟩,
    .updateUser { ann with name := some "Anna", updatedAt := 2000000 }]

/-- The cached agent keeps the old name. -/
theorem renamed_stale : ∃ m m' addr left,
    run cacheStep (newAgentManager annTables) renamed = some m
    ∧ m.agentGoOnline 0 annOnline = (m', .ok addr)
    ∧ (m'.get 0 1).2 = some (addr, left) ∧ left.info.name = "Ann"
    ∧ (m'.tables.dataOf 1).map AgentData.name = some "Anna" :=
  ⟨_, _, _, _, rfl, rfl, rfl, rfl, rfl⟩

end CallCenter.AgentManager.Online
