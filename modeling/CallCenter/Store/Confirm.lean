import CallCenter.Store.MemberStop

/-!
# The contest of an agent's calls

A progressive queue rings several members for one agent, and the first who answers gets the agent.
`cc_confirm_agent_attempt` decides: unless a row of the agent is cancelled, it clears the row of the
attempt that answered and cancels all other rows of the agent.

That a call has won is read off the rows it cancelled. So the function is right as long as cancelled
rows come from it only, and are gone before the winner is; and as long as the agent has nothing else
to do.
-/

namespace CallCenter.Store

open Lib

/-- The row for which `cc_confirm_agent_attempt` looks. -/
def cancelled (agentId : Int) (a : Attempt) : Bool :=
  a.agentId = some agentId && a.leavingAt.isSome && a.result = some "cancel"

def contested (now attemptId : Int) (a : Attempt) : Attempt :=
  { a with
    result := if a.id = attemptId then none else some "cancel"
    leavingAt := if a.id = attemptId then none else some now
    answeredAt := if a.id = attemptId then some now else none }

/-- `cc_confirm_agent_attempt`, with the calls of the rows it has updated. -/
def ccConfirmAgentAttempt (now agentId attemptId : Int) (db : Db) : Db × List (Option String) :=
  if db.attempts.rows.any (cancelled agentId) then (db, [])
  else
    ({ db with
        attempts := db.attempts.update (fun a => a.agentId = some agentId)
          (contested now attemptId) fun _ => rfl },
      (db.attempts.rows.filter fun a => a.agentId = some agentId).map Attempt.memberCallId)

/-- A call of the agent that rings: one of those that compete. -/
def Ringing (agentId : Int) (a : Attempt) : Prop :=
  a.agentId = some agentId ∧ a.channel = .call ∧ a.state = .offering ∧ a.answeredAt = none

instance (agentId : Int) (a : Attempt) : Decidable (Ringing agentId a) :=
  inferInstanceAs (Decidable (_ ∧ _))

structure Contest where
  db : Db
  confirmed : List Int

/-- The operations that make attempts leave or move them to the history, among those of the store;
the cancel of a distribution; and the barring of a number. -/
inductive LeaveOp where
  | store (op : Op)
  | distributeCancel (p : DistributeCancelArgs)
  | setBarred (id : Int) (blockAllNumbers : Bool)

def LeaveOp.perform (db : Db) (now : Int) : LeaveOp → Db
  | .store op => Store.perform db now op
  | .distributeCancel p => ccAttemptDistributeCancel now p db
  | .setBarred id blockAllNumbers => Store.setBarred now id blockAllNumbers db

/-- The attempts that leave; `none` for an operation that does something else. -/
def LeaveOp.leavers (db : Db) (now : Int) : LeaveOp → Option (List Int)
  | .store (.leaving p) => some [p.id]
  | .store (.abandoned p) => some [p.id]
  | .store (.cancelReleaseAgent id) => some [id]
  | .store (.agentCancel id _ _ _) => some [id]
  | .store (.endReporting p) => some [p.id]
  | .store (.transferredTo id _) => some [id]
  | .store (.getTimeouts nodeId) =>
    some ((db.attempts.rows.filter (timedOut db now nodeId)).map Attempt.id)
  | .store (.saveToHistory _) => some []
  | .store _ => none
  | .distributeCancel p => some [p.id]
  | .setBarred id _ => some [id]

/-- The operation writes the result by which a confirm finds the rows it has cancelled. -/
def LeaveOp.writesCancel : LeaveOp → Bool
  | .store (.leaving p) => p.result = "cancel"
  | .store (.agentCancel _ result _ _) => result = "cancel"
  | .store (.endReporting p) => p.status = some "cancel"
  | .distributeCancel _ => true
  | _ => false

inductive ContestLabel where
  | confirm (attemptId : Int)
  | leave (op : LeaveOp)

def contestStep (agentId : Int) (s : Contest) (l : Int × ContestLabel) : Option Contest :=
  match l.2 with
  | .confirm id =>
    if (s.db.attempts.get? id).any fun a => Ringing agentId a then
      let (db', calls) := ccConfirmAgentAttempt l.1 agentId id s.db
      some ⟨db', if calls.isEmpty then s.confirmed else id :: s.confirmed⟩
    else none
  | .leave op => (op.leavers s.db l.1).map fun _ => { s with db := op.perform s.db l.1 }

/-- The condition on a step, in the state before it. A confirm that finds no cancelled row finds
only ringing calls of the agent; an attempt of the agent leaves with another result than `cancel`,
and one that was confirmed leaves when no cancelled row is left. -/
def fairStep (agentId : Int) (s : Contest) (l : Int × ContestLabel) : Prop :=
  match l.2 with
  | .confirm _ => (∀ a ∈ s.db.attempts.rows, cancelled agentId a = false) →
    ∀ a ∈ s.db.attempts.rows, a.agentId = some agentId → Ringing agentId a
  | .leave op => ∀ ids, op.leavers s.db l.1 = some ids →
    ∀ a ∈ s.db.attempts.rows, a.id ∈ ids → a.agentId = some agentId →
      op.writesCancel = false
      ∧ (a.id ∈ s.confirmed → ∀ b ∈ s.db.attempts.rows, cancelled agentId b = false)

def LiveCall (agentId : Int) (db : Db) (id : Int) : Prop :=
  ∃ a ∈ db.attempts.rows, a.id = id ∧ a.agentId = some agentId ∧ a.channel = .call
    ∧ a.state ≠ .leaving

/-! ## Attempts leave -/

/-- Rows with these ids may have left, with their agent and without the result `cancel` unless it
was written; the others that had not left are as they were. -/
structure Leaves (ids : List Int) (cancels : Bool) (db db' : Db) : Prop where
  rows : ∀ b ∈ db'.attempts.rows, b ∈ db.attempts.rows
    ∨ (b.state = .leaving ∧ (b.result = some "cancel" → cancels = true)
      ∧ ∃ a ∈ db.attempts.rows, a.id ∈ ids ∧ a.agentId = b.agentId)
  others : ∀ a ∈ db.attempts.rows, a.state ≠ .leaving → a.id ∉ ids → a ∈ db'.attempts.rows

theorem Leaves.refl (ids : List Int) (cancels : Bool) (db : Db) : Leaves ids cancels db db :=
  ⟨fun _ hb => .inl hb, fun _ ha _ _ => ha⟩

theorem Leaves.trans {ids : List Int} {cancels : Bool} {db db' db'' : Db}
    (h : Leaves ids cancels db db') (h' : Leaves ids cancels db' db'') :
    Leaves ids cancels db db'' where
  rows := by
    intro b hb
    rcases h'.rows b hb with hb | ⟨hleft, hcancel, a, ha, hid, hagent⟩
    · exact h.rows b hb
    · refine .inr ⟨hleft, hcancel, ?_⟩
      rcases h.rows a ha with ha | ⟨-, -, a₀, ha₀, hid₀, hagent₀⟩
      · exact ⟨a, ha, hid, hagent⟩
      · exact ⟨a₀, ha₀, hid₀, hagent₀.trans hagent⟩
  others := by
    intro a ha hlive hid
    exact h'.others a (h.others a ha hlive hid) hlive hid

section Ops

variable {now : Int} {db : Db}

variable {cancels : Bool} {ids : List Int}

theorem leaves_replace {id : Int} {a a' : Attempt} {db' : Db} (ha : db.attempts.get? id = some a)
    (hrows : db'.attempts = db.attempts.replace a') (hid : a'.id = a.id)
    (hagent : a'.agentId = a.agentId) (hleft : a'.state = .leaving)
    (hcancel : a'.result = some "cancel" → cancels = true) : Leaves [id] cancels db db' := by
  obtain ⟨hmem, hkey⟩ := Table.get?_eq_some.mp ha
  constructor
  · intro b hb
    rw [hrows] at hb
    rcases Table.mem_replace.mp hb with ⟨rfl, -⟩ | ⟨hb, -⟩
    all_goals grind [List.mem_singleton]
  · intro b hb _ hne
    rw [hrows]
    refine Table.mem_replace.mpr (.inr ⟨hb, fun heq => hne ?_⟩)
    rw [List.mem_singleton, heq, hid, hkey]

theorem leaves_onAttempt {id : Int} {p : Attempt → Bool} {f : Attempt → Attempt}
    {rest : Attempt → Attempt → Db → Db}
    (hrest : ∀ a db', (rest a (f a) db').attempts = db'.attempts) (hid : ∀ a, (f a).id = a.id)
    (hagent : ∀ a, (f a).agentId = a.agentId) (hleft : ∀ a, (f a).state = .leaving)
    (hcancel : ∀ a, (f a).result = some "cancel" → cancels = true) :
    Leaves [id] cancels db (db.onAttempt id p f rest) :=
  onAttempt_induction (motive := Leaves [id] cancels db) db id p f rest (.refl _ _ _)
    fun a ha _ => leaves_replace ha (hrest a _) (hid a) (hagent a) (hleft a) (hcancel a)

theorem leaves_endReporting (p : ReportArgs) :
    Leaves [p.id] (p.status = some "cancel") db (endReporting now p db) := by
  refine leaves_onAttempt (fun a db' => ?_) (fun _ => rfl) (fun _ => rfl) (fun _ => rfl) fun a h =>
    ?_
  · dsimp only
    split
    · rfl
    · rfl
  · exact decide_eq_true h

theorem leaves_timeout (p : TimeoutArgs) : Leaves [p.id] false db (ccAttemptTimeout now p db) := by
  refine leaves_onAttempt (fun a db' => ?_) (fun _ => rfl) (fun _ => rfl) (fun _ => rfl) fun a h =>
    ?_
  · dsimp only
    split
    · rfl
    · rfl
  · have hresult : timeoutResult db p.maxAttempts a = "cancel" := Option.some.inj h
    have hother := timeoutResult_notMem db p.maxAttempts a
    rw [hresult] at hother
    exact absurd (List.mem_cons_of_mem _ (List.mem_singleton_self "cancel")) hother

theorem Leaves.mono {ids' : List Int} {db db' : Db} (h : Leaves ids cancels db db')
    (hsub : ids ⊆ ids') : Leaves ids' cancels db db' where
  rows := by
    intro b hb
    rcases h.rows b hb with hb | ⟨hleft, hcancel, a, ha, hid, hagent⟩
    · exact .inl hb
    · exact .inr ⟨hleft, hcancel, a, ha, hsub hid, hagent⟩
  others := fun a ha hlive hid => h.others a ha hlive fun hmem => hid (hsub hmem)

theorem leaves_timeouts (args : Attempt → TimeoutArgs) (hargs : ∀ a, (args a).id = a.id)
    (selected : List Attempt) (db : Db) :
    Leaves (selected.map Attempt.id) false db
      (selected.foldl (fun db' a => ccAttemptTimeout now (args a) db') db) := by
  induction selected generalizing db with
  | nil => exact .refl _ _ _
  | cons a rest ih =>
    have hfirst : Leaves [a.id] false db (ccAttemptTimeout now (args a) db) := by
      rw [← hargs a]
      exact leaves_timeout (args a)
    refine (hfirst.mono ?_).trans ((ih _).mono (List.subset_cons_self _ _))
    intro id hid
    rw [List.mem_singleton] at hid
    rw [hid, List.map_cons]
    exact List.mem_cons_self

theorem leaves_saveToHistory (ids : List Int) : Leaves [] false db (saveToHistory ids db) := by
  unfold saveToHistory
  split
  · constructor
    · intro b hb
      exact .inl (List.mem_filter.mp hb).1
    · intro a ha hlive _
      refine List.mem_filter.mpr ⟨ha, ?_⟩
      dsimp only
      unfold archivable
      rw [decide_eq_false hlive, Bool.false_and, Bool.and_false]
      rfl
  · exact .refl _ _ _

theorem abandonedResult_ne (a : Attempt) : abandonedResult a ≠ "cancel" := by
  unfold abandonedResult
  split
  · decide
  · decide

theorem leaves_store {op : Op} (h : (LeaveOp.store op).leavers db now = some ids) :
    Leaves ids (LeaveOp.store op).writesCancel db (perform db now op) := by
  cases op with
  | leaving p =>
    cases h
    show Leaves [p.id] _ db (ccAttemptLeaving now p db)
    refine leaves_onAttempt (fun _ _ => ?_) (fun _ => rfl) (fun _ => rfl) (fun _ => rfl)
      fun a hresult => ?_
    · rfl
    · exact decide_eq_true (Option.some.inj hresult)
  | abandoned p =>
    cases h
    show Leaves [p.id] _ db (ccAttemptAbandoned now p db)
    refine leaves_onAttempt (fun _ _ => ?_) (fun _ => rfl) (fun _ => rfl) (fun _ => rfl)
      fun a hresult => ?_
    · rfl
    · exact absurd (Option.some.inj hresult) (abandonedResult_ne a)
  | cancelReleaseAgent id =>
    cases h
    show Leaves [id] _ db (ccAttemptCancelReleaseAgent now id db)
    refine leaves_onAttempt (fun _ _ => ?_) (fun _ => rfl) (fun _ => rfl) (fun _ => rfl)
      fun a hresult => ?_
    · rfl
    · exact absurd (Option.some.inj hresult) (abandonedResult_ne a)
  | agentCancel id result agentStatus agentHoldSec =>
    cases h
    show Leaves [id] _ db (ccAttemptAgentCancel now id result agentStatus agentHoldSec db)
    refine leaves_onAttempt (fun _ _ => ?_) (fun _ => rfl) (fun _ => rfl) (fun _ => rfl)
      fun a hresult => ?_
    · rfl
    · exact decide_eq_true (Option.some.inj hresult)
  | endReporting p =>
    cases h
    unfold perform
    dsimp only
    rw [ccAttemptEndReporting_eq]
    exact leaves_endReporting p
  | transferredTo id toAttemptId =>
    cases h
    show Leaves [id] _ db (ccAttemptTransferredTo now id toAttemptId db)
    refine leaves_onAttempt (fun _ _ => ?_) (fun _ => rfl) (fun _ => rfl) (fun _ => rfl)
      fun a hresult => ?_
    · rfl
    · exact absurd (Option.some.inj hresult) (by decide)
  | getTimeouts nodeId =>
    cases h
    exact leaves_timeouts (timeoutArgs db) (fun _ => rfl) _ db
  | saveToHistory archived =>
    cases h
    exact leaves_saveToHistory archived
  | offering p => cases h
  | bridged id => cases h
  | reporting id deadlineSec => cases h
  | missedAgent id agentHold => cases h
  | waitingAgent id => cases h
  | schemaResult p => cases h
  | transferredFrom id toAgentId agentSessId => cases h
  | getChannelTimeout => cases h

/-- **Every operation that makes attempts leave.** -/
theorem leaves_perform {op : LeaveOp} (h : op.leavers db now = some ids) :
    Leaves ids op.writesCancel db (op.perform db now) := by
  cases op with
  | store op => exact leaves_store h
  | distributeCancel p =>
    cases h
    show Leaves [p.id] _ db (ccAttemptDistributeCancel now p db)
    refine leaves_onAttempt (fun _ _ => ?_) (fun _ => rfl) (fun _ => rfl) (fun _ => rfl)
      fun _ _ => ?_
    · rfl
    · rfl
  | setBarred id blockAllNumbers =>
    cases h
    show Leaves [id] _ db (Store.setBarred now id blockAllNumbers db)
    refine leaves_onAttempt (fun _ _ => ?_) (fun _ => rfl) (fun _ => rfl) (fun _ => rfl)
      fun _ hresult => ?_
    · rfl
    · exact absurd (Option.some.inj hresult) (by decide)

end Ops

/-! ## The winner -/

section Winner

variable {agentId now id : Int} {s s' : Contest} {a : Attempt}

/-- There is one winner, and nobody is cancelled without one. -/
structure Decided (agentId : Int) (s : Contest) : Prop where
  answered : ∀ a ∈ s.db.attempts.rows, a.id ∈ s.confirmed →
    a.state = .leaving ∨ a.answeredAt ≠ none
  winner : ∀ a ∈ s.db.attempts.rows, cancelled agentId a = true →
    ∃ x ∈ s.confirmed, LiveCall agentId s.db x
  one : ∀ x ∈ s.confirmed, ∀ y ∈ s.confirmed, LiveCall agentId s.db x →
    LiveCall agentId s.db y → x = y

theorem Decided.not_ringing (h : Decided agentId s) (ha : a ∈ s.db.attempts.rows)
    (hconfirmed : a.id ∈ s.confirmed) : ¬ Ringing agentId a := by
  rintro ⟨-, -, hstate, hanswer⟩
  grind [cases Decided]

theorem Decided.no_winner (h : Decided agentId s)
    (hall : ∀ a ∈ s.db.attempts.rows, a.agentId = some agentId → Ringing agentId a) {x : Int}
    (hx : x ∈ s.confirmed) : ¬ LiveCall agentId s.db x := by
  rintro ⟨a, ha, rfl, hagent, -, -⟩
  exact h.not_ringing ha hx (hall a ha hagent)

theorem confirm_blocked (h : ∃ a ∈ s.db.attempts.rows, cancelled agentId a = true) :
    ccConfirmAgentAttempt now agentId id s.db = (s.db, []) := by
  unfold ccConfirmAgentAttempt
  rw [if_pos (List.any_eq_true.mpr h)]

theorem confirm_free (now id : Int) (hfree : ∀ a ∈ s.db.attempts.rows, cancelled agentId a = false)
    (ha : a ∈ s.db.attempts.rows) (hagent : a.agentId = some agentId) :
    (ccConfirmAgentAttempt now agentId id s.db).2 ≠ []
      ∧ (ccConfirmAgentAttempt now agentId id s.db).1.attempts.rows
        = s.db.attempts.rows.map fun b =>
          if b.agentId = some agentId then contested now id b else b := by
  have hnot : ¬ s.db.attempts.rows.any (cancelled agentId) = true := by
    grind
  unfold ccConfirmAgentAttempt
  rw [if_neg hnot]
  constructor
  · intro hnil
    have hmem : a ∈ s.db.attempts.rows.filter fun a => a.agentId = some agentId :=
      List.mem_filter.mpr ⟨ha, decide_eq_true hagent⟩
    rw [List.map_eq_nil_iff.mp hnil] at hmem
    cases hmem
  · refine List.map_congr_left fun b _ => ?_
    simp only [decide_eq_true_eq]

theorem cancelled_cases (agentId : Int) (s : Contest) :
    (∃ a ∈ s.db.attempts.rows, cancelled agentId a = true)
      ∨ ∀ a ∈ s.db.attempts.rows, cancelled agentId a = false := by
  grind

theorem mem_contested {b : Attempt} (hfree : ∀ a ∈ s.db.attempts.rows, cancelled agentId a = false)
    (ha : a ∈ s.db.attempts.rows) (hagent : a.agentId = some agentId)
    (hb : b ∈ (ccConfirmAgentAttempt now agentId id s.db).1.attempts.rows) :
    ∃ b₀ ∈ s.db.attempts.rows, b.id = b₀.id ∧ b.agentId = b₀.agentId ∧ b.state = b₀.state
      ∧ ((b₀.agentId = some agentId ∧ b = contested now id b₀)
        ∨ (b₀.agentId ≠ some agentId ∧ b = b₀)) := by
  rw [(confirm_free now id hfree ha hagent).2] at hb
  obtain ⟨b₀, hb₀, rfl⟩ := List.mem_map.mp hb
  refine ⟨b₀, hb₀, ?_⟩
  by_cases hown : b₀.agentId = some agentId
  · rw [if_pos hown]
    exact ⟨rfl, rfl, rfl, .inl ⟨hown, rfl⟩⟩
  · rw [if_neg hown]
    exact ⟨rfl, rfl, rfl, .inr ⟨hown, rfl⟩⟩

/-- **A confirm** decides for its attempt, and keeps what was decided. -/
theorem decided_confirm (h : Decided agentId s) (ha : s.db.attempts.get? id = some a)
    (hring : Ringing agentId a) (hok : fairStep agentId s (now, .confirm id)) :
    Decided agentId ⟨(ccConfirmAgentAttempt now agentId id s.db).1,
      if (ccConfirmAgentAttempt now agentId id s.db).2.isEmpty then s.confirmed
      else id :: s.confirmed⟩ := by
  obtain ⟨hmem, hid⟩ := Table.get?_eq_some.mp ha
  rcases cancelled_cases agentId s with hblocked | hfree
  · rw [confirm_blocked hblocked]
    exact h
  have hall := hok hfree
  obtain ⟨hcalls, hrows⟩ := confirm_free now id hfree hmem hring.1
  rw [if_neg (by rwa [List.isEmpty_iff])]
  -- Of the attempts confirmed before, none is a live call.
  have honly : ∀ x ∈ id :: s.confirmed, LiveCall agentId
      (ccConfirmAgentAttempt now agentId id s.db).1 x → x = id := by
    rintro x hx ⟨b, hb, rfl, hagent, -, -⟩
    obtain ⟨b₀, hb₀, hbid, hbagent, -, -⟩ := mem_contested hfree hmem hring.1 hb
    rcases List.mem_cons.mp hx with rfl | hx
    · rfl
    · rw [hbid] at hx
      exact absurd (hall b₀ hb₀ (hbagent.symm.trans hagent)) (h.not_ringing hb₀ hx)
  constructor
  · intro b hb hx
    obtain ⟨b₀, hb₀, hbid, -, hstate, ⟨hown, rfl⟩ | ⟨hother, rfl⟩⟩ :=
      mem_contested hfree hmem hring.1 hb
    · rcases List.mem_cons.mp hx with hx | hx
      · refine .inr ?_
        rw [hbid] at hx
        show (if b₀.id = id then some now else none) ≠ none
        rw [if_pos hx]
        exact Option.some_ne_none now
      · exact absurd (hall b₀ hb₀ hown) (h.not_ringing hb₀ hx)
    · rcases List.mem_cons.mp hx with hx | hx
      · -- The row of the attempt is one of the agent.
        have heq : b = a := Option.some.inj ((Table.get?_eq_some.mpr ⟨hb₀, hx⟩).symm.trans ha)
        rw [heq] at hother
        exact absurd hring.1 hother
      · exact h.answered b hb₀ hx
  · intro b _ _
    refine ⟨id, List.mem_cons_self, contested now id a, ?_, hid, hring.1, hring.2.1, ?_⟩
    · rw [hrows]
      refine List.mem_map.mpr ⟨a, hmem, ?_⟩
      rw [if_pos hring.1]
    · show a.state ≠ .leaving
      rw [hring.2.2.1]
      exact fun hstate => State.noConfusion hstate
  · intro x hx y hy hlive hlive'
    rw [honly x hx hlive, honly y hy hlive']

/-- **Attempts leave**: the winner last of all. -/
theorem decided_leave {op : LeaveOp} {ids : List Int} (h : Decided agentId s)
    (hids : op.leavers s.db now = some ids) (hok : fairStep agentId s (now, .leave op)) :
    Decided agentId { s with db := op.perform s.db now } := by
  have hleaves := leaves_perform hids
  -- A live call is one that was live.
  have hlive : ∀ x, LiveCall agentId (op.perform s.db now) x → LiveCall agentId s.db x := by
    rintro x ⟨b, hb, hid, hagent, hcall, hstate⟩
    rcases hleaves.rows b hb with hb | ⟨hleft, -⟩
    · exact ⟨b, hb, hid, hagent, hcall, hstate⟩
    · exact absurd hleft hstate
  constructor
  · intro b hb hx
    rcases hleaves.rows b hb with hb | ⟨hleft, -⟩
    · exact h.answered b hb hx
    · exact .inl hleft
  · intro b hb hcancelled
    rcases hleaves.rows b hb with hb | ⟨-, hcancel, b₀, hb₀, hid₀, hagent⟩
    · obtain ⟨x, hx, r, hr, rfl, hagent, hcall, hstate⟩ := h.winner b hb hcancelled
      refine ⟨r.id, hx, r, hleaves.others r hr hstate fun hid => ?_, rfl, hagent, hcall, hstate⟩
      have hnone := (hok ids hids r hr hid hagent).2 hx b hb
      rw [hcancelled] at hnone
      cases hnone
    · unfold cancelled at hcancelled
      rw [Bool.and_eq_true, Bool.and_eq_true, decide_eq_true_iff, decide_eq_true_iff] at hcancelled
      have hnot := (hok ids hids b₀ hb₀ hid₀ (hagent.trans hcancelled.1.1)).1
      rw [hcancel hcancelled.2] at hnot
      cases hnot
  · intro x hx y hy hx' hy'
    exact h.one x hx y hy (hlive x hx') (hlive y hy')

theorem decided_step {l : Int × ContestLabel} (h : Decided agentId s) (hok : fairStep agentId s l)
    (hstep : contestStep agentId s l = some s') : Decided agentId s' := by
  obtain ⟨now, label⟩ := l
  cases label with
  | confirm id =>
    unfold contestStep at hstep
    dsimp only at hstep
    split at hstep
    · rename_i hring
      cases hstep
      cases ha : s.db.attempts.get? id with
      | none =>
        rw [ha] at hring
        cases hring
      | some a =>
        rw [ha, Option.any_some, decide_eq_true_iff] at hring
        exact decided_confirm h ha hring hok
    · cases hstep
  | leave op =>
    grind [contestStep, decided_leave, Option.map_eq_some_iff]

/-- **One of the agent's calls wins.** In every fair run from a state in which no row of the agent
is cancelled, one confirmed call attempt at most is live; a confirm returns calls exactly if no
other confirmed call attempt is; and a confirm changes only calls of the agent that ring. -/
theorem one_call_wins {s₀ : Contest} {labels : List (Int × ContestLabel)}
    (hstart : s₀.confirmed = [])
    (hclean : ∀ a ∈ s₀.db.attempts.rows, cancelled agentId a = false)
    (hfair : Along (contestStep agentId) (fairStep agentId) s₀ labels)
    (hrun : run (contestStep agentId) s₀ labels = some s) :
    (∀ x ∈ s.confirmed, ∀ y ∈ s.confirmed, LiveCall agentId s.db x → LiveCall agentId s.db y → x =
      y)
      ∧ ∀ now id a, s.db.attempts.get? id = some a → Ringing agentId a →
        fairStep agentId s (now, .confirm id) →
        ((ccConfirmAgentAttempt now agentId id s.db).2 ≠ []
            ↔ ∀ x ∈ s.confirmed, x ≠ id → ¬ LiveCall agentId s.db x)
          ∧ ∀ b ∈ s.db.attempts.rows, ¬ Ringing agentId b →
            b ∈ (ccConfirmAgentAttempt now agentId id s.db).1.attempts.rows := by
  have hinit : Decided agentId s₀ := by
    constructor
    all_goals grind
  have h : Decided agentId s :=
    run_invariant (fun _ _ _ hinv hok hstep => decided_step hinv hok hstep) labels hinit hfair hrun
  refine ⟨h.one, fun now id a ha hring hok => ?_⟩
  obtain ⟨hmem, hid⟩ := Table.get?_eq_some.mp ha
  rcases cancelled_cases agentId s with hblocked | hfree
  · rw [confirm_blocked hblocked]
    refine ⟨⟨fun hnil => absurd rfl hnil, fun hnone => ?_⟩, fun b hb _ => hb⟩
    obtain ⟨b, hb, hcancelled⟩ := hblocked
    obtain ⟨x, hx, hlive⟩ := h.winner b hb hcancelled
    refine absurd hlive (hnone x hx fun heq => ?_)
    rw [heq, ← hid] at hx
    exact h.not_ringing hmem hx hring
  · obtain ⟨hcalls, hrows⟩ := confirm_free now id hfree hmem hring.1
    refine ⟨⟨fun _ x hx _ => h.no_winner (hok hfree) hx, fun _ => hcalls⟩, fun b hb hnot => ?_⟩
    rw [hrows]
    refine List.mem_map.mpr ⟨b, hb, ?_⟩
    rw [if_neg fun hown => hnot (hok hfree b hb hown)]

end Winner

def ringingCall (id : Int) (callId : String) : Attempt :=
  { Attempt.inserted 0 id with
    agentId := some 3, channel := .call, state := .offering, memberCallId := some callId }

def contestOf (rows : List Attempt) (h : (rows.map Attempt.id).Nodup) : Contest where
  db := { Db.empty with attempts := ⟨rows, h⟩ }
  confirmed := []

def twoCalls : Contest := contestOf [ringingCall 7 "a", ringingCall 8 "b"] (by decide)

/-- The first of two calls is confirmed, and it is the only winner. -/
theorem first_call_wins :
    ∃ s, run (contestStep 3) twoCalls [(10, .confirm 7)] = some s ∧ s.confirmed = [7]
      ∧ ∀ x ∈ s.confirmed, ∀ y ∈ s.confirmed, LiveCall 3 s.db x → LiveCall 3 s.db y → x = y := by
  have hrun : run (contestStep 3) twoCalls [(10, .confirm 7)] = some _ := rfl
  have hclean : ∀ a ∈ twoCalls.db.attempts.rows, cancelled 3 a = false := by decide
  have hfair : Along (contestStep 3) (fairStep 3) twoCalls [(10, .confirm 7)] := by
    refine ⟨fun _ => ?_, fun _ _ => trivial⟩
    decide
  exact ⟨_, hrun, rfl, (one_call_wins rfl hclean hfair hrun).1⟩

/-- The agent has a chat beside the call. A confirm of the call cancels the chat; and when the chat
was cancelled before, the call is not confirmed, though no other was. -/
theorem chat_decides_contest :
    let chat : Attempt :=
      { Attempt.inserted 0 9 with agentId := some 3, channel := .chat, state := .bridged }
    let s := contestOf [ringingCall 7 "a", chat] (by decide)
    let chatLeaves : LeavingArgs := ⟨9, "cancel", 0, none, 0, 0, false, none, none⟩
    ((run (contestStep 3) s [(10, .confirm 7)]).bind (·.db.attempts.get? 9)).map
        (fun a => (a.channel, a.state, a.result)) = some (.chat, .bridged, some "cancel")
      ∧ (run (contestStep 3) s [(10, .leave (.store (.leaving chatLeaves))), (20, .confirm 7)]).map
        Contest.confirmed = some [] := by
  exact ⟨rfl, rfl⟩

end CallCenter.Store
