import CallCenter.Lib.Run
import CallCenter.Store.Attempts

/-!
# The agent's channel and the agent's attempts

The row of an agent's channel sums up the attempts the agent has on it, but each function writes
what its own attempt means for the channel. An agent with no attempt left on a channel must not be
*stuck* there: the poll of channel timeouts or the agent can bring it back to waiting. And an agent
who is busy on a channel must not be shown as *free*.

An operation on one attempt is a `Moved`: one row of each table changes. What breaks the first
property is a report that comes after the attempt has left, and a chat that ends while the agent has
work on other channels; what breaks the second is every function that frees the channel without a
look at the agent's other attempts.
-/

namespace CallCenter.Store

open Lib

/-! ## One attempt and one channel move -/

def OnChannel (k : Int × Channel) (a : Attempt) : Prop := a.agentId = some k.1 ∧ a.channel = k.2

instance (k : Int × Channel) (a : Attempt) : Decidable (OnChannel k a) :=
  inferInstanceAs (Decidable (a.agentId = some k.1 ∧ a.channel = k.2))

/-- The row `a` becomes `a'`, and the channel of `agent` becomes `f` of what it was. -/
structure Moved (db db' : Db) (a a' : Attempt) (agent : Option Int)
    (f : AgentChannel → AgentChannel) : Prop where
  row : db.attempts.get? a.id = some a
  attempts : db'.attempts = db.attempts.replace a'
  channels : db'.channels = (db.updateChannel agent a.channel f).channels
  agents : db'.agents = db.agents
  id : a'.id = a.id
  channel : a'.channel = a.channel
  key : ∀ c, (f c).key = c.key

theorem changeStatus_key (old new : AgentChannel) :
    (ccSetAgentChannelChangeStatus old new).key = new.key := by
  unfold ccSetAgentChannelChangeStatus
  split
  · split <;> rfl
  · rfl

theorem changeStatus_state (old new : AgentChannel) :
    (ccSetAgentChannelChangeStatus old new).state = new.state := by
  unfold ccSetAgentChannelChangeStatus
  split
  · split <;> rfl
  · rfl

theorem changeStatus_timeout (old new : AgentChannel) :
    (ccSetAgentChannelChangeStatus old new).timeout = new.timeout := by
  unfold ccSetAgentChannelChangeStatus
  split
  · split <;> rfl
  · rfl

section Moved

variable {db db' : Db} {a a' : Attempt} {agent : Option Int} {f : AgentChannel → AgentChannel}

theorem Moved.mem_channels (hm : Moved db db' a a' agent f) {c : AgentChannel}
    (hc : c ∈ db'.channels.rows) :
    (c ∈ db.channels.rows ∧ ∀ g, agent = some g → c.key ≠ (g, a.channel))
      ∨ ∃ g old, agent = some g ∧ db.channels.get? (g, a.channel) = some old
        ∧ c = ccSetAgentChannelChangeStatus old (f old) := by
  rw [hm.channels, Db.updateChannel] at hc
  cases hagent : agent with
  | none =>
    rw [hagent] at hc
    exact Or.inl ⟨hc, fun g hg => absurd hg (by simp)⟩
  | some g =>
    rw [hagent] at hc
    simp only [Option.bind_some] at hc
    cases hget : db.channels.get? (g, a.channel) with
    | none =>
      rw [hget] at hc
      refine Or.inl ⟨hc, fun g' hg' hkey => ?_⟩
      rw [Option.some.inj hg'] at hget
      exact Table.get?_eq_none.mp hget (List.mem_map.mpr ⟨c, hc, hkey⟩)
    | some old =>
      rw [hget] at hc
      have hkey : (ccSetAgentChannelChangeStatus old (f old)).key = (g, a.channel) := by
        rw [changeStatus_key, hm.key]
        exact (Table.get?_eq_some.mp hget).2
      rcases Table.mem_replace.mp hc with ⟨hc, -⟩ | ⟨hc, hne⟩
      all_goals grind

theorem Moved.mem_attempts (hm : Moved db db' a a' agent f) {b : Attempt} :
    b ∈ db'.attempts.rows ↔ b = a' ∨ (b ∈ db.attempts.rows ∧ b.id ≠ a.id) := by
  rw [hm.attempts, Table.mem_replace, hm.id]
  have hin : a.id ∈ db.attempts.rows.map Attempt.id :=
    List.mem_map.mpr ⟨a, (Table.get?_eq_some.mp hm.row).1, rfl⟩
  refine or_congr (and_iff_left hin) Iff.rfl

theorem Moved.eq_of_id (hm : Moved db db' a a' agent f) {b : Attempt} (hb : b ∈ db.attempts.rows)
    (hid : b.id = a.id) : b = a :=
  Option.some.inj ((Table.get?_eq_some.mpr ⟨hb, hid⟩).symm.trans hm.row)

end Moved

/-! ## An idle channel is never stuck -/

def Returnable (db : Db) (c : AgentChannel) : Prop :=
  (c.state = .waiting ∨ c.state = .wrapTime ∨ c.state = .missed)
    ∧ ((c.state = .missed
        ∨ c.state = .wrapTime ∧ (db.agents.get? c.agentId).any (fun g => !g.onDemand) = true) →
      c.timeout.isSome = true)

instance (db : Db) (c : AgentChannel) : Decidable (Returnable db c) :=
  inferInstanceAs (Decidable (_ ∧ (_ → _)))

/-- **The property.** A channel on which every attempt of its agent has left can be
brought back to waiting. -/
def NeverStuck (db : Db) : Prop :=
  ∀ c ∈ db.channels.rows, (∀ a ∈ db.attempts.rows, OnChannel c.key a → a.state = .leaving) →
    Returnable db c

instance (db : Db) : Decidable (NeverStuck db) :=
  inferInstanceAs (Decidable (∀ c ∈ db.channels.rows, _ → _))

theorem Returnable.changeStatus {db : Db} {old new : AgentChannel} (h : Returnable db new) :
    Returnable db (ccSetAgentChannelChangeStatus old new) := by
  grind [Returnable, ccSetAgentChannelChangeStatus]

theorem returnable_waiting {db : Db} {c : AgentChannel} (h : c.state = .waiting) :
    Returnable db c := by
  refine ⟨Or.inl h, fun hneeds => ?_⟩
  grind

theorem returnable_of_timeout {db : Db} {c : AgentChannel}
    (h : c.state = .wrapTime ∨ c.state = .missed) (ht : c.timeout.isSome = true) :
    Returnable db c :=
  ⟨Or.inr h, fun _ => ht⟩

theorem returnable_release {db : Db} (now : Int) (teamId : Option Int) (attempt : Attempt)
    (c : AgentChannel) :
    Returnable db (releaseChannel now (wrapTime db c.agentId teamId) attempt c) := by
  unfold releaseChannel
  split
  · refine ⟨Or.inr (Or.inl rfl), fun hneeds => ?_⟩
    grind [wrapTime]
  · exact returnable_waiting rfl

section Stuck

variable {db db' : Db} {a a' : Attempt} {agent : Option Int} {f : AgentChannel → AgentChannel}

/-- **The rule for a move.** The channel the attempt was on is the one that is written, or
the attempt is on it as before; and what is written can come back to waiting if nothing
is left on the channel. -/
theorem Moved.neverStuck (hm : Moved db db' a a' agent f) (h : NeverStuck db)
    (hwas : (∀ g, a.agentId = some g → agent = some g)
      ∨ (a'.agentId = a.agentId ∧ a'.state = a.state))
    (hnew : ∀ g c, agent = some g → db.channels.get? (g, a.channel) = some c →
      (∀ b ∈ db'.attempts.rows, OnChannel (g, a.channel) b → b.state = .leaving) →
      Returnable db (f c)) : NeverStuck db' := by
  have hagents : ∀ c, Returnable db c → Returnable db' c := by
    intro c hc
    rw [Returnable, hm.agents]
    exact hc
  intro c hc hleft
  refine hagents c ?_
  rcases hm.mem_channels hc with ⟨hc, hne⟩ | ⟨g, old, hagent, hold, rfl⟩
  · refine h c hc fun b hb hon => ?_
    by_cases hid : b.id = a.id
    · -- The attempt itself was on this channel, which is not the one written.
      have hba := hm.eq_of_id hb hid
      subst hba
      rcases hwas with hwas | ⟨hagent', hstate'⟩
      · have hkey : c.key = (c.key.1, b.channel) := Prod.ext rfl hon.2.symm
        exact absurd hkey (hne c.key.1 (hwas c.key.1 hon.1))
      · rw [← hstate']
        exact hleft a' (hm.mem_attempts.mpr (Or.inl rfl))
          ⟨hagent'.trans hon.1, hm.channel.trans hon.2⟩
    · exact hleft b (hm.mem_attempts.mpr (Or.inr ⟨hb, hid⟩)) hon
  · refine (hnew g old hagent hold fun b hb hon => ?_).changeStatus
    refine hleft b hb ?_
    rw [changeStatus_key, hm.key, (Table.get?_eq_some.mp hold).2]
    exact hon

theorem Moved.neverStuck_of_live (hm : Moved db db' a a' agent f) (h : NeverStuck db)
    (hagent : a'.agentId = agent) (hwas : ∀ g, a.agentId = some g → agent = some g)
    (hlive : a'.state ≠ .leaving) : NeverStuck db' := by
  refine hm.neverStuck h (Or.inl hwas) fun g c hg _ hleft => ?_
  exact absurd (hleft a' (hm.mem_attempts.mpr (Or.inl rfl)) ⟨hagent.trans hg, hm.channel⟩) hlive

theorem Moved.neverStuck_of_alone (hm : Moved db db' a a' none fun c => c) (h : NeverStuck db)
    (hwas : a.agentId = none ∨ (a'.agentId = a.agentId ∧ a'.state = a.state)) :
    NeverStuck db' := by
  refine hm.neverStuck h (hwas.imp_left fun hnone g hg => ?_) fun g c hg => absurd hg (by simp)
  exact absurd (hnone.symm.trans hg) (by simp)

end Stuck

/-- **The condition.** A report is not started on a row that has left; when an agent's chat
is reported and the agent has other work, some of it is on the chat channel; a function
that leaves the channel alone is used on a row without an agent; and an agent who is
cancelled as missed is held for some time. -/
def NotStranded (db : Db) (l : Int × Op) : Prop :=
  match l.2 with
  | .reporting id _ => ∀ a, db.attempts.get? id = some a → a.state ≠ .leaving
  | .endReporting p => ∀ a g, db.attempts.get? p.id = some a → a.agentId = some g →
      a.channel = .chat →
      (∃ b ∈ db.attempts.rows, b.id ≠ a.id ∧ b.agentId = some g ∧ b.state ≠ .leaving) →
      ∃ b ∈ db.attempts.rows, b.id ≠ a.id ∧ OnChannel (g, .chat) b ∧ b.state ≠ .leaving
  | .abandoned p => ∀ a, db.attempts.get? p.id = some a → a.agentId = none
  | .transferredTo id _ => ∀ a, db.attempts.get? id = some a → a.agentId = none
  | .agentCancel _ _ agentStatus agentHoldSec => agentStatus = .missed ∧ agentHoldSec > 0
  | _ => True

section StuckOps

variable {db : Db} {now : Int}

theorem releaseChannel_key (wrapTime : Option Int) (attempt : Attempt) (c : AgentChannel) :
    (releaseChannel now wrapTime attempt c).key = c.key := by
  unfold releaseChannel
  split <;> rfl

theorem reportedChannel_key (g : Int) (attempt : Attempt) (c : AgentChannel) :
    (reportedChannel db now g attempt c).key = c.key := by
  unfold reportedChannel
  split
  · rfl
  · exact releaseChannel_key _ attempt c

theorem otherCount_pos {g : Int} {attempt : Attempt} (h : otherCount db g attempt > 0) :
    attempt.channel = .chat
      ∧ ∃ b ∈ db.attempts.rows, b.id ≠ attempt.id ∧ b.agentId = some g ∧ b.state ≠ .leaving := by
  unfold otherCount at h
  split at h
  · rename_i hchat
    obtain ⟨b, hb⟩ := List.exists_mem_of_length_pos h
    grind
  · exact absurd h (by simp)

theorem neverStuck_offering (h : NeverStuck db) (p : OfferingArgs) :
    NeverStuck (ccAttemptOffering now p db) := by
  refine onAttempt_induction db _ _ _ _ h fun a hget _ => ?_
  refine Moved.neverStuck_of_live ⟨row_self hget, rfl, rfl, rfl, rfl, rfl, fun _ => rfl⟩ h rfl
    (fun g hg => ?_) (by simp)
  simp only [hg, Option.some_or]

theorem neverStuck_bridged (h : NeverStuck db) (id : Int) :
    NeverStuck (ccAttemptBridged now id db) := by
  refine onAttempt_induction db _ _ _ _ h fun a hget _ => ?_
  exact Moved.neverStuck_of_live ⟨row_self hget, rfl, rfl, rfl, rfl, rfl, fun _ => rfl⟩ h rfl
    (fun _ hg => hg) (by simp)

theorem neverStuck_reporting (h : NeverStuck db) (id deadlineSec : Int)
    (hok : ∀ a, db.attempts.get? id = some a → a.state ≠ .leaving) :
    NeverStuck (setAttemptReporting now id deadlineSec db) := by
  refine onAttempt_induction db _ _ _ _ h fun a hget _ => ?_
  exact Moved.neverStuck_of_live ⟨row_self hget, rfl, rfl, rfl, rfl, rfl, fun _ => rfl⟩ h rfl
    (fun _ hg => hg) (by simp [hok a hget])

theorem neverStuck_leaving (h : NeverStuck db) (p : LeavingArgs) :
    NeverStuck (ccAttemptLeaving now p db) := by
  refine onAttempt_induction db _ _ _ _ h fun a hget _ => ?_
  refine Moved.neverStuck ⟨row_self hget, rfl, rfl, rfl, rfl, rfl, fun _ => rfl⟩ h
    (Or.inl fun _ hg => hg) fun g c _ _ _ => ?_
  grind [holdUntil, returnable_of_timeout, returnable_waiting]

theorem neverStuck_abandoned (h : NeverStuck db) (p : AbandonedArgs)
    (hok : ∀ a, db.attempts.get? p.id = some a → a.agentId = none) :
    NeverStuck (ccAttemptAbandoned now p db) := by
  refine onAttempt_induction db _ _ _ _ h fun a hget _ => ?_
  exact Moved.neverStuck_of_alone ⟨row_self hget, rfl, rfl, rfl, rfl, rfl, fun _ => rfl⟩ h
    (Or.inl (hok a hget))

theorem neverStuck_transferredTo (h : NeverStuck db) (id toAttemptId : Int)
    (hok : ∀ a, db.attempts.get? id = some a → a.agentId = none) :
    NeverStuck (ccAttemptTransferredTo now id toAttemptId db) := by
  refine onAttempt_induction db _ _ _ _ h fun a hget _ => ?_
  exact Moved.neverStuck_of_alone ⟨row_self hget, rfl, rfl, rfl, rfl, rfl, fun _ => rfl⟩ h
    (Or.inl (hok a hget))

theorem neverStuck_cancelReleaseAgent (h : NeverStuck db) (id : Int) :
    NeverStuck (ccAttemptCancelReleaseAgent now id db) := by
  refine onAttempt_induction db _ _ _ _ h fun a hget _ => ?_
  exact Moved.neverStuck ⟨row_self hget, rfl, rfl, rfl, rfl, rfl, fun _ => rfl⟩ h
    (Or.inl fun _ hg => hg) fun _ _ _ _ _ => returnable_waiting rfl

theorem neverStuck_agentCancel (h : NeverStuck db) (id : Int) (result : String)
    (agentStatus : State) (agentHoldSec : Int)
    (hok : agentStatus = .missed ∧ agentHoldSec > 0) :
    NeverStuck (ccAttemptAgentCancel now id result agentStatus agentHoldSec db) := by
  refine onAttempt_induction db _ _ _ _ h fun a hget _ => ?_
  refine Moved.neverStuck ⟨row_self hget, rfl, rfl, rfl, rfl, rfl, fun _ => rfl⟩ h
    (Or.inl fun _ hg => hg) fun _ _ _ _ _ => returnable_of_timeout (Or.inr hok.1) ?_
  show (holdUntil now agentHoldSec).isSome = true
  rw [holdUntil, if_pos hok.2]
  rfl

theorem neverStuck_missedAgent (h : NeverStuck db) (id agentHold : Int) :
    NeverStuck (ccAttemptMissedAgent now id agentHold db) := by
  refine onAttempt_induction db _ _ _ _ h fun a hget _ => ?_
  exact Moved.neverStuck ⟨row_self hget, rfl, rfl, rfl, rfl, rfl, fun _ => rfl⟩ h
    (Or.inl fun _ hg => hg) fun _ _ _ _ _ => returnable_of_timeout (Or.inr rfl) rfl

theorem neverStuck_waitingAgent (h : NeverStuck db) (id : Int) :
    NeverStuck (ccAttemptWaitingAgent now id db) := by
  refine onAttempt_induction db _ _ _ _ h fun a hget _ => ?_
  exact Moved.neverStuck ⟨row_self hget, rfl, rfl, rfl, rfl, rfl, fun _ => rfl⟩ h
    (Or.inl fun _ hg => hg) fun _ _ _ _ _ => returnable_waiting rfl

theorem neverStuck_schemaResult (h : NeverStuck db) (p : ReportArgs) :
    NeverStuck (ccAttemptSchemaResult now p db) := by
  refine onAttempt_induction db _ _ _ _ h fun a hget _ => ?_
  exact Moved.neverStuck_of_alone ⟨row_self hget, rfl, rfl, rfl, rfl, rfl, fun _ => rfl⟩ h
    (Or.inr ⟨rfl, rfl⟩)

theorem neverStuck_transferredFrom (h : NeverStuck db) (id toAgentId : Int)
    (agentSessId : Option String) :
    NeverStuck (ccAttemptTransferredFrom now id toAgentId agentSessId db) := by
  refine onAttempt_induction db _ _ _ _ h fun a hget _ => ?_
  dsimp only
  split
  · rename_i hagent
    exact Moved.neverStuck_of_alone ⟨row_self hget, rfl, rfl, rfl, rfl, rfl, fun _ => rfl⟩ h
      (Or.inl hagent)
  · rename_i g₀ hagent
    refine Moved.neverStuck ⟨row_self hget, rfl, rfl, rfl, rfl, rfl, releaseChannel_key _ _⟩ h
      (Or.inl fun g hg => hagent.symm.trans hg) fun g c hg hc _ => ?_
    have hcg : c.agentId = g₀ := by
      rw [Option.some.inj hg]
      exact congrArg Prod.fst (Table.get?_eq_some.mp hc).2
    rw [← hcg]
    exact returnable_release now _ _ c

theorem neverStuck_endReporting (h : NeverStuck db) (p : ReportArgs)
    (hok : NotStranded db (now, .endReporting p)) : NeverStuck (endReporting now p db) := by
  refine onAttempt_induction db _ _ _ _ h fun a hget _ => ?_
  dsimp only
  split
  · rename_i hagent
    exact Moved.neverStuck_of_alone ⟨row_self hget, rfl, rfl, rfl, rfl, rfl, fun _ => rfl⟩ h
      (Or.inl hagent)
  · rename_i g₀ hagent
    refine Moved.neverStuck ⟨row_self hget, rfl, rfl, rfl, rfl, rfl, reportedChannel_key g₀ _⟩ h
      (Or.inl fun g hg => hagent.symm.trans hg) fun g c hg hc hleft => ?_
    obtain rfl : g₀ = g := Option.some.inj hg
    unfold reportedChannel
    split
    · -- The others were counted on whatever channel; one of them is on this.
      rename_i hcount
      obtain ⟨hchat, b, hb, hbid, hbg, hblive⟩ := otherCount_pos hcount
      have hchat : a.channel = .chat := hchat
      have hold : b ∈ db.attempts.rows := by
        rcases Table.mem_replace.mp hb with ⟨rfl, -⟩ | ⟨hb, -⟩
        · exact absurd rfl hbid
        · exact hb
      obtain ⟨b', hb', hbid', hon, hlive⟩ :=
        hok a g₀ hget hagent hchat ⟨b, hold, hbid, hbg, hblive⟩
      refine absurd (hleft b' (Table.mem_replace.mpr (Or.inr ⟨hb', hbid'⟩)) ?_) hlive
      rw [hchat]
      exact hon
    · have hcg : c.agentId = g₀ := congrArg Prod.fst (Table.get?_eq_some.mp hc).2
      rw [← hcg]
      exact returnable_release now _ _ c

theorem neverStuck_timeout (h : NeverStuck db) (a : Attempt) (db₀ : Db) :
    NeverStuck (ccAttemptTimeout now (timeoutArgs db₀ a) db) := by
  refine onAttempt_induction db _ _ _ _ h fun a hget _ => ?_
  dsimp only
  split
  · exact Moved.neverStuck ⟨row_self hget, rfl, rfl, rfl, rfl, rfl, fun _ => rfl⟩ h
      (Or.inl fun _ hg => hg) fun _ _ _ _ _ => returnable_waiting rfl
  · exact Moved.neverStuck ⟨row_self hget, rfl, rfl, rfl, rfl, rfl, fun _ => rfl⟩ h
      (Or.inl fun _ hg => hg) fun _ _ _ _ _ => returnable_waiting rfl

theorem neverStuck_getTimeouts (h : NeverStuck db) (nodeId : String) :
    NeverStuck (getTimeouts now nodeId db) :=
  List.foldlRecOn _ _ h fun _ hdb' a _ => neverStuck_timeout hdb' a db

theorem neverStuck_saveToHistory (h : NeverStuck db) (ids : List Int) :
    NeverStuck (saveToHistory ids db) := by
  unfold saveToHistory
  split
  · intro c hc hleft
    refine h c hc fun a ha hon => ?_
    -- What has gone to the history had left.
    by_cases hmoved : (decide (a.id ∈ ids) && archivable a) = true
    · have harch := ((Bool.and_eq_true _ _).mp hmoved).2
      exact of_decide_eq_true ((Bool.and_eq_true _ _).mp harch).1
    · refine hleft a (List.mem_filter.mpr ⟨ha, ?_⟩) hon
      grind
  · exact h

theorem neverStuck_getChannelTimeout (h : NeverStuck db) : NeverStuck (getChannelTimeout now db) :=
    by
  intro c hc hleft
  obtain ⟨old, hold, rfl⟩ := List.mem_map.mp hc
  split
  · exact (returnable_waiting rfl).changeStatus
  · rename_i hnot
    rw [if_neg hnot] at hleft
    exact h old hold hleft

end StuckOps

theorem neverStuck_step (db : Db) (l : Int × Op) (db' : Db) (h : NeverStuck db)
    (hok : NotStranded db l) (hs : storeStep db l = some db') : NeverStuck db' := by
  cases hs
  obtain ⟨now, op⟩ := l
  cases op with
  | offering p => exact neverStuck_offering h p
  | bridged id => exact neverStuck_bridged h id
  | reporting id deadlineSec => exact neverStuck_reporting h id deadlineSec hok
  | endReporting p =>
    simp only [perform, ccAttemptEndReporting_eq]
    exact neverStuck_endReporting h p hok
  | leaving p => exact neverStuck_leaving h p
  | abandoned p => exact neverStuck_abandoned h p hok
  | cancelReleaseAgent id => exact neverStuck_cancelReleaseAgent h id
  | agentCancel id result agentStatus agentHoldSec =>
    exact neverStuck_agentCancel h id result agentStatus agentHoldSec hok
  | missedAgent id agentHold => exact neverStuck_missedAgent h id agentHold
  | waitingAgent id => exact neverStuck_waitingAgent h id
  | schemaResult p => exact neverStuck_schemaResult h p
  | getTimeouts nodeId => exact neverStuck_getTimeouts h nodeId
  | saveToHistory ids => exact neverStuck_saveToHistory h ids
  | transferredFrom id toAgentId agentSessId =>
    exact neverStuck_transferredFrom h id toAgentId agentSessId
  | transferredTo id toAttemptId => exact neverStuck_transferredTo h id toAttemptId hok
  | getChannelTimeout => exact neverStuck_getChannelTimeout h

/-- **An idle channel never gets stuck**, in any state that the store reaches by operations
that strand nobody. -/
theorem idle_channel_never_stuck (db db' : Db) (hstart : NeverStuck db) (ops : List (Int × Op))
    (halong : Along storeStep NotStranded db ops) (hrun : run storeStep db ops = some db') :
    NeverStuck db' :=
  run_invariant neverStuck_step ops hstart halong hrun

/-! One agent, and what is on the agent's channels. -/

def bridgedAttempt (id : Int) (channel : Channel) : Attempt :=
  { Attempt.inserted 0 id with
    agentId := some 7
    state := .bridged
    channel := channel
    bridgedAt := some 0 }

def sampleChannel (channel : Channel) (state : State) : AgentChannel where
  agentId := 7
  channel := channel
  state := state
  joinedAt := 0
  timeout := none
  noAnswers := 0
  queueId := none
  attemptId := none
  lastBucketId := none
  lastOfferingAt := none
  lastBridgedAt := none
  lastMissedAt := none

def sampleAgent (call : Bool) : Db :=
  { Db.empty with
    attempts :=
      ⟨bridgedAttempt 1 .chat :: if call then [bridgedAttempt 2 .call] else [], by
        cases call <;> decide⟩
    channels :=
      ⟨[sampleChannel .chat .bridged, sampleChannel .call (if call then .bridged else .waiting)], by
        cases call <;> decide⟩
    agents := .single ⟨7, false⟩ }

def chatReport : ReportArgs where
  id := 1
  status := some "success"
  description := none
  expireAt := none
  nextOfferingAt := none
  stickyAgentId := none
  vars := none
  maxAttempts := 0
  waitBetweenRetries := 60
  excludeDest := false
  perNumber := false
  onlyCurrentCommunication := false

/-- The queue goroutine starts the report and the agent ends it. -/
theorem idle_channel_never_stuck_report :
    ∃ db', run storeStep (sampleAgent false) [(1000, .reporting 1 30),
      (2000, .endReporting chatReport)]
        = some db'
      ∧ (∀ a ∈ db'.attempts.rows, a.state = .leaving) ∧ NeverStuck db' := by
  refine ⟨_, rfl, by decide, idle_channel_never_stuck (sampleAgent false) _ (by decide)
    [(1000, .reporting 1 30), (2000, .endReporting chatReport)] ?_ rfl⟩
  refine ⟨fun a ha => ?_, fun db₁ hdb₁ => ⟨?_, fun _ _ => trivial⟩⟩
  · cases ha
    decide
  · intro a g ha _ _ hothers
    obtain ⟨b, hb, hne, -⟩ := hothers
    rw [← Option.some.inj hdb₁] at ha hb
    rw [← Option.some.inj ha, List.mem_singleton.mp hb] at hne
    exact absurd rfl hne

/-- The other order of the two leaves the channel in the state of the attempt, which has
left; and a chat reported by an agent in a call leaves the chat channel bridged. -/
theorem idle_channel_stuck :
    (NeverStuck (sampleAgent false) ∧ ∃ db', run storeStep (sampleAgent false)
        [(1000, .endReporting chatReport), (1001, .reporting 1 30)] = some db' ∧ ¬ NeverStuck db')
    ∧ NeverStuck (sampleAgent true) ∧ ∃ db', run storeStep (sampleAgent true)
        [(1000, .endReporting chatReport)] = some db' ∧ ¬ NeverStuck db' :=
  ⟨⟨by decide, _, rfl, by decide⟩, by decide, _, rfl, by decide⟩

end CallCenter.Store
