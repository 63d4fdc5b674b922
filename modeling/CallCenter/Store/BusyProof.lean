import CallCenter.Store.ChannelProof

/-!
# A busy channel is never shown as free

While an agent has an attempt on a channel that is offering, bridged or processing,
the channel must not be waiting. An operation can break this in two ways. It can free
the channel of an agent whose other attempt on it is busy: so do the functions that
end one attempt, and the poll of channel timeouts, since a timeout outlives the state
it was set for. Or it can bring a busy attempt to a channel that waits, as a transfer
to another agent does.
-/

namespace CallCenter.Store

open Lib

def busy (a : Attempt) : Bool :=
  a.state = .offering || a.state = .bridged || a.state = .processing

/-- **The property.** No attempt on a waiting channel is busy. -/
def NeverFree (db : Db) : Prop :=
  ∀ c ∈ db.channels.rows, c.state = .waiting → ∀ a ∈ db.attempts.rows, OnChannel c.key a →
    busy a = false

instance (db : Db) : Decidable (NeverFree db) := by
  unfold NeverFree
  infer_instance

/-- The agent of the row has nothing else going on on its channel. -/
def Alone (db : Db) (a : Attempt) : Prop :=
  ∀ b ∈ db.attempts.rows, b.id ≠ a.id → ∀ g, a.agentId = some g → OnChannel (g, a.channel) b →
    busy b = false

def AloneId (db : Db) (id : Int) : Prop := ∀ a, db.attempts.get? id = some a → Alone db a

/-- An agent who does not wrap up after the row has nothing else going on on its channel. -/
def ReleasedAlone (db : Db) (a : Attempt) : Prop :=
  ∀ g, a.agentId = some g → wraps (wrapTime db g a.teamId) = false → Alone db a

/-- The poll of attempt timeouts ends the row. -/
def pollEnds (db : Db) (now : Int) (nodeId : String) (a : Attempt) : Bool :=
  timedOut db now nodeId a && joinsQueue db a

/-- **The condition.** Whatever sets a channel to waiting finds no other busy attempt of the
agent on it: this is asked of a leave without hold, of an agent sent back to waiting, of a
cancelled agent, of every channel whose timeout has passed and, where the agent does not wrap
up, of a report outside the chat channel and of a transfer. A poll that ends a row ends the
busy rows on its channel with it. And a busy attempt is not transferred to an agent whose
channel is waiting, or is set to it by the transfer. -/
def NotFreed (db : Db) (l : Int × Op) : Prop :=
  match l.2 with
  | .leaving p => p.agentHoldSec ≤ 0 → AloneId db p.id
  | .waitingAgent id | .cancelReleaseAgent id => AloneId db id
  | .agentCancel id _ agentStatus _ => agentStatus = .waiting → AloneId db id
  | .endReporting p => ∀ a, db.attempts.get? p.id = some a → a.state ≠ .leaving →
      a.channel ≠ .chat → ReleasedAlone db a
  | .getTimeouts nodeId => ∀ a ∈ db.attempts.rows, pollEnds db l.1 nodeId a = true →
      ∀ g, a.agentId = some g → ∀ b ∈ db.attempts.rows, OnChannel (g, a.channel) b →
        busy b = true → pollEnds db l.1 nodeId b = true
  | .getChannelTimeout => ∀ c ∈ db.channels.rows, channelTimedOut db l.1 c = true →
      ∀ a ∈ db.attempts.rows, OnChannel c.key a → busy a = false
  | .transferredFrom id toAgentId _ => ∀ a, db.attempts.get? id = some a →
      ReleasedAlone db a
        ∧ (a.agentId = some toAgentId → wraps (wrapTime db toAgentId a.teamId) = false →
          busy a = false)
        ∧ ∀ c, db.channels.get? (toAgentId, a.channel) = some c → c.state = .waiting →
          busy a = false
  | _ => True

section Rule

variable {db db' : Db} {a a' : Attempt} {agent : Option Int} {f : AgentChannel → AgentChannel}

/-- **The rule for a move.** A channel that is not written and waits does not get the attempt
while it is busy; and one that is written as waiting has no busy attempt. -/
theorem Moved.neverFree (hm : Moved db db' a a' agent f) (h : NeverFree db)
    (hother : ∀ c ∈ db.channels.rows, (∀ g, agent = some g → c.key ≠ (g, a.channel)) →
      c.state = .waiting → OnChannel c.key a' → busy a' = false)
    (hnew : ∀ g c, agent = some g → db.channels.get? (g, a.channel) = some c →
      (f c).state = .waiting →
      (∀ b ∈ db.attempts.rows, b.id ≠ a.id → OnChannel (g, a.channel) b → busy b = false)
        ∧ (OnChannel (g, a.channel) a' → busy a' = false)) : NeverFree db' := by
  intro c hc hwait b hb hon
  rcases hm.mem_channels hc with ⟨hc, hne⟩ | ⟨g, old, hagent, hold, rfl⟩
  · rcases hm.mem_attempts.mp hb with rfl | ⟨hb, -⟩
    · exact hother c hc hne hwait hon
    · exact h c hc hwait b hb hon
  · rw [changeStatus_state] at hwait
    rw [changeStatus_key, hm.key, (Table.get?_eq_some.mp hold).2] at hon
    obtain ⟨hothers, hself⟩ := hnew g old hagent hold hwait
    rcases hm.mem_attempts.mp hb with rfl | ⟨hb, hid⟩
    · exact hself hon
    · exact hothers b hb hid hon

theorem Moved.neverFree_of_agent (hm : Moved db db' a a' agent f) (h : NeverFree db)
    (hagent : ∀ g, a'.agentId = some g → agent = some g)
    (hnew : ∀ g c, agent = some g → db.channels.get? (g, a.channel) = some c →
      (f c).state = .waiting →
      (∀ b ∈ db.attempts.rows, b.id ≠ a.id → OnChannel (g, a.channel) b → busy b = false)
        ∧ (OnChannel (g, a.channel) a' → busy a' = false)) : NeverFree db' := by
  refine hm.neverFree h (fun c _ hne _ hon => ?_) hnew
  have hkey : c.key = (c.key.1, a.channel) := Prod.ext rfl (hon.2.symm.trans hm.channel)
  exact absurd hkey (hne c.key.1 (hagent c.key.1 hon.1))

theorem Moved.neverFree_of_idle (hm : Moved db db' a a' agent f) (h : NeverFree db)
    (hidle : busy a' = false)
    (hnew : ∀ g c, agent = some g → db.channels.get? (g, a.channel) = some c →
      (f c).state = .waiting →
      ∀ b ∈ db.attempts.rows, b.id ≠ a.id → OnChannel (g, a.channel) b → busy b = false) :
    NeverFree db' :=
  hm.neverFree h (fun _ _ _ _ _ => hidle) fun g c hg hc hwait =>
    ⟨hnew g c hg hc hwait, fun _ => hidle⟩

theorem Moved.neverFree_of_alone (hm : Moved db db' a a' none fun c => c) (h : NeverFree db)
    (hidle : ∀ c ∈ db.channels.rows, c.state = .waiting → OnChannel c.key a' → busy a' = false) :
    NeverFree db' :=
  hm.neverFree h (fun c hc _ => hidle c hc) fun _ _ hg => absurd hg (by simp)

end Rule

section FreeOps

variable {db : Db} {now : Int}

theorem busy_leaving {a : Attempt} (h : a.state = .leaving) : busy a = false := by
  rw [busy, h]
  rfl

theorem neverFree_offering (h : NeverFree db) (p : OfferingArgs) :
    NeverFree (ccAttemptOffering now p db) := by
  refine onAttempt_induction db _ _ _ _ h fun a hget _ => ?_
  exact Moved.neverFree_of_agent ⟨row_self hget, rfl, rfl, rfl, rfl, rfl, fun _ => rfl⟩ h
    (fun _ hg => hg) fun _ _ _ _ hwait => absurd hwait (by simp)

theorem neverFree_bridged (h : NeverFree db) (id : Int) :
    NeverFree (ccAttemptBridged now id db) := by
  refine onAttempt_induction db _ _ _ _ h fun a hget _ => ?_
  exact Moved.neverFree_of_agent ⟨row_self hget, rfl, rfl, rfl, rfl, rfl, fun _ => rfl⟩ h
    (fun _ hg => hg) fun _ _ _ _ hwait => absurd hwait (by simp)

theorem neverFree_reporting (h : NeverFree db) (id deadlineSec : Int) :
    NeverFree (setAttemptReporting now id deadlineSec db) := by
  refine onAttempt_induction db _ _ _ _ h fun a hget _ => ?_
  refine Moved.neverFree_of_agent ⟨row_self hget, rfl, rfl, rfl, rfl, rfl, fun _ => rfl⟩ h
    (fun _ hg => hg) fun _ _ _ _ hwait => ?_
  grind

theorem neverFree_leaving (h : NeverFree db) (p : LeavingArgs)
    (hok : p.agentHoldSec ≤ 0 → AloneId db p.id) : NeverFree (ccAttemptLeaving now p db) := by
  refine onAttempt_induction db _ _ _ _ h fun a hget _ => ?_
  refine Moved.neverFree_of_idle ⟨row_self hget, rfl, rfl, rfl, rfl, rfl, fun _ => rfl⟩ h
    (busy_leaving rfl) fun g c hg _ hwait b hb hid hon => ?_
  dsimp only at hwait
  split at hwait
  · exact absurd hwait (by simp)
  · rename_i hhold
    exact hok (by omega) a hget b hb hid g hg hon

theorem neverFree_abandoned (h : NeverFree db) (p : AbandonedArgs) :
    NeverFree (ccAttemptAbandoned now p db) := by
  refine onAttempt_induction db _ _ _ _ h fun a hget _ => ?_
  exact Moved.neverFree_of_alone ⟨row_self hget, rfl, rfl, rfl, rfl, rfl, fun _ => rfl⟩ h
    fun _ _ _ _ => busy_leaving rfl

theorem neverFree_transferredTo (h : NeverFree db) (id toAttemptId : Int) :
    NeverFree (ccAttemptTransferredTo now id toAttemptId db) := by
  refine onAttempt_induction db _ _ _ _ h fun a hget _ => ?_
  exact Moved.neverFree_of_alone ⟨row_self hget, rfl, rfl, rfl, rfl, rfl, fun _ => rfl⟩ h
    fun _ _ _ _ => busy_leaving rfl

theorem neverFree_cancelReleaseAgent (h : NeverFree db) (id : Int) (hok : AloneId db id) :
    NeverFree (ccAttemptCancelReleaseAgent now id db) := by
  refine onAttempt_induction db _ _ _ _ h fun a hget _ => ?_
  exact Moved.neverFree_of_idle ⟨row_self hget, rfl, rfl, rfl, rfl, rfl, fun _ => rfl⟩ h
    (busy_leaving rfl) fun g c hg _ _ b hb hid hon => hok a hget b hb hid g hg hon

theorem neverFree_agentCancel (h : NeverFree db) (id : Int) (result : String)
    (agentStatus : State) (agentHoldSec : Int)
    (hok : agentStatus = .waiting → AloneId db id) :
    NeverFree (ccAttemptAgentCancel now id result agentStatus agentHoldSec db) := by
  refine onAttempt_induction db _ _ _ _ h fun a hget _ => ?_
  exact Moved.neverFree_of_idle ⟨row_self hget, rfl, rfl, rfl, rfl, rfl, fun _ => rfl⟩ h
    (busy_leaving rfl) fun g c hg _ hwait b hb hid hon => hok hwait a hget b hb hid g hg hon

theorem neverFree_missedAgent (h : NeverFree db) (id agentHold : Int) :
    NeverFree (ccAttemptMissedAgent now id agentHold db) := by
  refine onAttempt_induction db _ _ _ _ h fun a hget _ => ?_
  exact Moved.neverFree_of_idle ⟨row_self hget, rfl, rfl, rfl, rfl, rfl, fun _ => rfl⟩ h rfl
    fun _ _ _ _ hwait => absurd hwait (by simp)

theorem neverFree_waitingAgent (h : NeverFree db) (id : Int) (hok : AloneId db id) :
    NeverFree (ccAttemptWaitingAgent now id db) := by
  refine onAttempt_induction db _ _ _ _ h fun a hget _ => ?_
  exact Moved.neverFree_of_idle ⟨row_self hget, rfl, rfl, rfl, rfl, rfl, fun _ => rfl⟩ h rfl
    fun g c hg _ _ b hb hid hon => hok a hget b hb hid g hg hon

theorem neverFree_schemaResult (h : NeverFree db) (p : ReportArgs) :
    NeverFree (ccAttemptSchemaResult now p db) := by
  refine onAttempt_induction db _ _ _ _ h fun a hget _ => ?_
  refine Moved.neverFree_of_alone ⟨row_self hget, rfl, rfl, rfl, rfl, rfl, fun _ => rfl⟩ h
    fun c hc hwait hon => ?_
  exact h c hc hwait a (Table.get?_eq_some.mp hget).1 hon

/-- Only the channel of an agent who does not wrap up is released as waiting. -/
theorem wraps_of_released {wrapTime : Option Int} {a : Attempt} {c : AgentChannel}
    (h : (releaseChannel now wrapTime a c).state = .waiting) : wraps wrapTime = false := by
  unfold releaseChannel at h
  split at h
  · exact absurd h (by simp)
  · rename_i hwraps
    exact Bool.eq_false_iff.mpr hwraps

theorem neverFree_transferredFrom (h : NeverFree db) (id toAgentId : Int)
    (agentSessId : Option String) (hok : NotFreed db (now, .transferredFrom id toAgentId
      agentSessId)) :
    NeverFree (ccAttemptTransferredFrom now id toAgentId agentSessId db) := by
  refine onAttempt_induction db _ _ _ _ h fun a hget _ => ?_
  obtain ⟨halone, hself, htarget⟩ := hok a hget
  -- The channel the attempt goes to is that of the new agent, which does not wait.
  have hgoes : ∀ c ∈ db.channels.rows, c.state = .waiting →
      OnChannel c.key { a with
        transferredAgentId := a.agentId, agentId := some toAgentId, agentCallId := agentSessId } →
      busy a = false := by
    intro c hc hwait hon
    have hkey : c.key = (toAgentId, a.channel) := Prod.ext (Option.some.inj hon.1).symm hon.2.symm
    exact htarget c (Table.get?_eq_some.mpr ⟨hc, hkey⟩) hwait
  dsimp only
  split
  · exact Moved.neverFree_of_alone ⟨row_self hget, rfl, rfl, rfl, rfl, rfl, fun _ => rfl⟩ h hgoes
  · rename_i g₀ hagent
    refine Moved.neverFree ⟨row_self hget, rfl, rfl, rfl, rfl, rfl, releaseChannel_key _ _⟩ h
      (fun c hc _ => hgoes c hc) fun g c hg _ hwait => ?_
    obtain rfl : g₀ = g := Option.some.inj hg
    have hwraps := wraps_of_released hwait
    refine ⟨fun b hb hid hon => halone g₀ hagent hwraps b hb hid g₀ hagent hon, fun hon => ?_⟩
    obtain rfl : toAgentId = g₀ := Option.some.inj hon.1
    exact hself hagent hwraps

theorem otherCount_eq_zero {g : Int} {attempt : Attempt} (hagent : (db.agents.get? g).isSome = true)
    (hchat : attempt.channel = .chat) (h : ¬ otherCount db g attempt > 0) :
    ∀ b ∈ db.attempts.rows, b.id ≠ attempt.id → b.agentId = some g → b.state = .leaving := by
  intro b hb hid hg
  by_contra hlive
  refine h ?_
  rw [otherCount, if_pos (by rw [hagent, hchat]; rfl)]
  exact List.length_pos_of_mem (List.mem_filter.mpr ⟨hb, by simp [hg, hid, hlive]⟩)

theorem neverFree_endReporting (h : NeverFree db) (p : ReportArgs)
    (hok : NotFreed db (now, .endReporting p)) : NeverFree (endReporting now p db) := by
  refine onAttempt_induction db _ _ _ _ h fun a hget hlive => ?_
  have hlive : a.state ≠ .leaving := of_decide_eq_true hlive
  dsimp only
  split
  · exact Moved.neverFree_of_alone ⟨row_self hget, rfl, rfl, rfl, rfl, rfl, fun _ => rfl⟩ h
      fun _ _ _ _ => busy_leaving rfl
  · rename_i g₀ hagent
    refine Moved.neverFree_of_idle
      ⟨row_self hget, rfl, rfl, rfl, rfl, rfl, reportedChannel_key g₀ _⟩ h (busy_leaving rfl)
      fun g c hg hc hwait b hb hid hon => ?_
    obtain rfl : g₀ = g := Option.some.inj hg
    unfold reportedChannel at hwait
    split at hwait
    · -- The channel was waiting before.
      obtain ⟨hc, hkey⟩ := Table.get?_eq_some.mp hc
      exact h c hc hwait b hb (hkey ▸ hon)
    · rename_i hcount
      have hwraps := wraps_of_released hwait
      by_cases hchat : a.channel = .chat
      · -- An agent who does not wrap up is an agent, so the others were counted.
        refine busy_leaving (otherCount_eq_zero ?_ hchat hcount b
          (Table.mem_replace.mpr (Or.inr ⟨hb, hid⟩)) hid hon.1)
        grind [wrapTime, wraps, Option.not_isSome_iff_eq_none]
      · exact hok a hget hlive hchat g₀ hagent hwraps b hb hid g₀ hagent hon

/-- A poll of timeouts that began at `db₀`, with `rest` to go. -/
structure Polling (db₀ : Db) (ends : Attempt → Bool) (db : Db) (rest : List Attempt) : Prop where
  queues : db.queues = db₀.queues
  /-- The rows to come are as the poll has selected them. -/
  rows : ∀ a ∈ rest, db.attempts.get? a.id = some a
  /-- A busy row was there at the beginning, and one that the poll ends is still to come. -/
  old : ∀ b ∈ db.attempts.rows, busy b = true → b ∈ db₀.attempts.rows ∧ (ends b = true → b ∈ rest)
  /-- Only rows that the poll ends are busy on a waiting channel. -/
  free : ∀ c ∈ db.channels.rows, c.state = .waiting → ∀ b ∈ db.attempts.rows,
    OnChannel c.key b → busy b = true → ends b = true

theorem Moved.polling {db₀ db' : Db} {ends : Attempt → Bool} {a a' : Attempt} {rest : List Attempt}
    {f : AgentChannel → AgentChannel} (hm : Moved db db' a a' a.agentId f)
    (h : Polling db₀ ends db (a :: rest)) (hqueues : db'.queues = db.queues)
    (hleaves : busy a' = false) (hnew : a.id ∉ rest.map Attempt.id)
    (hok : ∀ g, a.agentId = some g → ∀ b ∈ db₀.attempts.rows, OnChannel (g, a.channel) b →
      busy b = true → ends b = true) : Polling db₀ ends db' rest := by
  -- A row that is busy afterwards is another one, and was there before.
  have hother : ∀ b ∈ db'.attempts.rows, busy b = true → b ∈ db.attempts.rows ∧ b.id ≠ a.id := by
    intro b hb hbusy
    rcases hm.mem_attempts.mp hb with rfl | hb
    · exact absurd hbusy (by simp [hleaves])
    · exact hb
  refine ⟨hqueues.trans h.queues, fun b hb => ?_, fun b hb hbusy => ?_,
    fun c hc hwait b hb hon hbusy => ?_⟩
  · have hid : b.id ≠ a.id := fun hid => hnew (hid ▸ List.mem_map_of_mem hb)
    rw [hm.attempts, Table.get?_replace_of_ne (by rw [hm.id]; exact hid)]
    exact h.rows b (List.mem_cons_of_mem a hb)
  · obtain ⟨hb, hid⟩ := hother b hb hbusy
    obtain ⟨hold, hrest⟩ := h.old b hb hbusy
    refine ⟨hold, fun hends => (List.mem_cons.mp (hrest hends)).resolve_left fun heq => ?_⟩
    exact hid (congrArg Attempt.id heq)
  · obtain ⟨hb, hid⟩ := hother b hb hbusy
    rcases hm.mem_channels hc with ⟨hc, -⟩ | ⟨g, old, hagent, hold, rfl⟩
    · exact h.free c hc hwait b hb hon hbusy
    · rw [changeStatus_key, hm.key, (Table.get?_eq_some.mp hold).2] at hon
      exact hok g hagent b (h.old b hb hbusy).1 hon hbusy

/-- One row of the poll: it leaves if it joins a queue, and nothing happens if it does not. -/
theorem polling_timeout {db₀ : Db} {nodeId : String} {a : Attempt} {rest : List Attempt}
    (h : Polling db₀ (pollEnds db₀ now nodeId) db (a :: rest)) (hnew : a.id ∉ rest.map Attempt.id)
    (hout : timedOut db₀ now nodeId a = true) (hin : a ∈ db₀.attempts.rows)
    (hok : NotFreed db₀ (now, .getTimeouts nodeId)) (p : TimeoutArgs) (hp : p.id = a.id) :
    Polling db₀ (pollEnds db₀ now nodeId) (ccAttemptTimeout now p db) rest := by
  have hrow := h.rows a List.mem_cons_self
  have hjoins : joinsQueue db a = joinsQueue db₀ a := by
    unfold joinsQueue
    rw [h.queues]
  unfold ccAttemptTimeout Db.onAttempt
  rw [hp, hrow]
  dsimp only
  split
  · rename_i hjoin
    have hends : pollEnds db₀ now nodeId a = true := by
      rw [pollEnds, hout, ← hjoins, hjoin]
      rfl
    split <;>
      exact Moved.polling ⟨hrow, rfl, rfl, rfl, rfl, rfl, fun _ => rfl⟩ h rfl (busy_leaving rfl)
        hnew (hok a hin hends)
  · rename_i hjoin
    refine ⟨h.queues, fun b hb => h.rows b (List.mem_cons_of_mem a hb), fun b hb hbusy => ?_,
      h.free⟩
    obtain ⟨hold, hrest⟩ := h.old b hb hbusy
    refine ⟨hold, fun hends => (List.mem_cons.mp (hrest hends)).resolve_left ?_⟩
    rintro rfl
    exact hjoin (hjoins.trans (Bool.and_eq_true_iff.mp hends).2)

theorem neverFree_timeouts {db₀ : Db} {nodeId : String} (args : Attempt → TimeoutArgs)
    (hargs : ∀ a, (args a).id = a.id) (hok : NotFreed db₀ (now, .getTimeouts nodeId))
    (selected : List Attempt) :
    ∀ {db : Db}, Polling db₀ (pollEnds db₀ now nodeId) db selected →
      (selected.map Attempt.id).Nodup →
      (∀ a ∈ selected, a ∈ db₀.attempts.rows ∧ timedOut db₀ now nodeId a = true) →
      NeverFree (selected.foldl (fun db' a => ccAttemptTimeout now (args a) db') db) := by
  induction selected with
  | nil =>
    intro db h _ _ c hc hwait b hb hon
    by_contra hbusy
    have hbusy : busy b = true := (Bool.not_eq_false _).mp hbusy
    exact List.not_mem_nil ((h.old b hb hbusy).2 (h.free c hc hwait b hb hon hbusy))
  | cons a rest ih =>
    intro db h hnodup hsel
    obtain ⟨hnew, hnodup⟩ := List.nodup_cons.mp hnodup
    obtain ⟨hin, hout⟩ := hsel a List.mem_cons_self
    exact ih (polling_timeout h hnew hout hin hok (args a) (hargs a)) hnodup
      fun b hb => hsel b (List.mem_cons_of_mem a hb)

theorem neverFree_getTimeouts (h : NeverFree db) (nodeId : String)
    (hok : NotFreed db (now, .getTimeouts nodeId)) : NeverFree (getTimeouts now nodeId db) := by
  refine neverFree_timeouts (timeoutArgs db) (fun _ => rfl) hok _
    ⟨rfl, fun a ha => ?_, fun b hb hbusy => ⟨hb, fun hends => ?_⟩,
      fun c hc hwait b hb hon hbusy => ?_⟩ ?_ fun a ha => List.mem_filter.mp ha
  · exact Table.get?_eq_some.mpr ⟨(List.mem_filter.mp ha).1, rfl⟩
  · exact List.mem_filter.mpr ⟨hb, (Bool.and_eq_true_iff.mp hends).1⟩
  · exact absurd hbusy (by simp [h c hc hwait b hb hon])
  · exact db.attempts.nodup.sublist (List.filter_sublist.map Attempt.id)

theorem neverFree_saveToHistory (h : NeverFree db) (ids : List Int) :
    NeverFree (saveToHistory ids db) := by
  unfold saveToHistory
  split
  · exact fun c hc hwait a ha => h c hc hwait a (List.mem_filter.mp ha).1
  · exact h

theorem neverFree_getChannelTimeout (h : NeverFree db)
    (hok : ∀ c ∈ db.channels.rows, channelTimedOut db now c = true →
      ∀ a ∈ db.attempts.rows, OnChannel c.key a → busy a = false) :
    NeverFree (getChannelTimeout now db) := by
  intro c hc hwait a ha hon
  obtain ⟨old, hold, rfl⟩ := List.mem_map.mp hc
  by_cases hout : channelTimedOut db now old = true
  · rw [if_pos hout, changeStatus_key] at hon
    exact hok old hold hout a ha hon
  · rw [if_neg hout] at hwait hon
    exact h old hold hwait a ha hon

end FreeOps

theorem neverFree_step (db : Db) (l : Int × Op) (db' : Db) (h : NeverFree db)
    (hok : NotFreed db l) (hs : storeStep db l = some db') : NeverFree db' := by
  cases hs
  obtain ⟨now, op⟩ := l
  cases op with
  | offering p => exact neverFree_offering h p
  | bridged id => exact neverFree_bridged h id
  | reporting id deadlineSec => exact neverFree_reporting h id deadlineSec
  | endReporting p =>
    simp only [perform, ccAttemptEndReporting_eq]
    exact neverFree_endReporting h p hok
  | leaving p => exact neverFree_leaving h p hok
  | abandoned p => exact neverFree_abandoned h p
  | cancelReleaseAgent id => exact neverFree_cancelReleaseAgent h id hok
  | agentCancel id result agentStatus agentHoldSec =>
    exact neverFree_agentCancel h id result agentStatus agentHoldSec hok
  | missedAgent id agentHold => exact neverFree_missedAgent h id agentHold
  | waitingAgent id => exact neverFree_waitingAgent h id hok
  | schemaResult p => exact neverFree_schemaResult h p
  | getTimeouts nodeId => exact neverFree_getTimeouts h nodeId hok
  | saveToHistory ids => exact neverFree_saveToHistory h ids
  | transferredFrom id toAgentId agentSessId =>
    exact neverFree_transferredFrom h id toAgentId agentSessId hok
  | transferredTo id toAttemptId => exact neverFree_transferredTo h id toAttemptId
  | getChannelTimeout => exact neverFree_getChannelTimeout h hok

/-- **A busy channel is never shown as free**, in any state that the store reaches by
operations that free no busy channel. -/
theorem busy_channel_never_free (db db' : Db) (hstart : NeverFree db) (ops : List (Int × Op))
    (halong : Along storeStep NotFreed db ops) (hrun : run storeStep db ops = some db') :
    NeverFree db' :=
  run_invariant neverFree_step ops hstart halong hrun

def sampleChats : Db :=
  { sampleAgent false with
    attempts := ⟨[bridgedAttempt 1 .chat, bridgedAttempt 2 .chat], by decide⟩ }

def leave (id agentHoldSec : Int) : LeavingArgs where
  id := id
  result := "success"
  agentHoldSec := agentHoldSec
  vars := none
  maxAttempts := 0
  waitBetweenRetries := 60
  perNumber := false
  description := none
  stickyAgentId := none

/-- One chat ends with a hold, and the other goes on. -/
theorem busy_channel_never_free_hold :
    ∃ db', run storeStep sampleChats [(1000, .leaving (leave 1 30)), (1500, .bridged 2)] = some db'
      ∧ (∃ a ∈ db'.attempts.rows, busy a = true) ∧ NeverFree db' :=
  ⟨_, rfl, by decide, busy_channel_never_free sampleChats _ (by decide)
    [(1000, .leaving (leave 1 30)), (1500, .bridged 2)]
    ⟨fun hhold => absurd hhold (by decide), fun _ _ => ⟨trivial, fun _ _ => trivial⟩⟩ rfl⟩

/-- One chat ends without a hold: the agent is free, with the other chat still bridged. -/
theorem busy_channel_freed :
    NeverFree sampleChats ∧ ∃ db', run storeStep sampleChats [(1000, .leaving (leave 1 0))] =
      some db'
      ∧ ¬ NeverFree db' :=
  ⟨by decide, _, rfl, by decide⟩

end CallCenter.Store
