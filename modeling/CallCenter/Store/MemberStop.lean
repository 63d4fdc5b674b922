import CallCenter.Store.Attempts
import CallCenter.Lib.Run

/-!
# The stop of a member

A member is stopped by two columns, `stop_at` and `stop_cause`. Eight statements write them, and the
trigger on `communications`. Each has its own test for a member that is stopped already: some ask
for the time, `cc_attempt_abandoned` asks for the cause, `cc_attempt_distribute_cancel` asks for
each column by itself, and `SetBarred` does not ask.

What is written stays, as long as no statement writes one of the columns with a `NULL` and nobody
bars a number of a stopped member.
-/

namespace CallCenter.Store

open Lib

/-! ## The remaining statements -/

structure DistributeCancelArgs where
  id : Int
  description : Option String
  nextDistributeSec : Int
  stop : Bool
  vars : Option Vars

def ccAttemptDistributeCancel (now : Int) (p : DistributeCancelArgs) (db : Db) : Db :=
  db.onAttempt p.id (fun _ => true)
    (fun a => { a with
      leavingAt := some now
      description := p.description
      lastStateChange := now
      result := some "cancel"
      state := .leaving })
    fun _ attempt db => db.updateMember now attempt.memberId fun m => { m with
      lastAgent := attempt.agentId.or m.lastAgent
      vars := mergeVars m.vars p.vars
      readyAt := some (if p.nextDistributeSec > 0 then now + sec p.nextDistributeSec else now)
      stopAt := if p.stop && m.stopAt.isNone then attempt.leavingAt else m.stopAt
      stopCause := if p.stop && m.stopCause.isNone then attempt.result else m.stopCause }

/-- The number that was barred, or all of them, are the last the member had. -/
def barsMember (blockAllNumbers : Bool) (a : Attempt) : Bool :=
  blockAllNumbers || a.waitingOtherNumbers ≤ 0

def setBarred (now id : Int) (blockAllNumbers : Bool) (db : Db) : Db :=
  db.onAttempt id (fun _ => true)
    (fun a => { a with leavingAt := some now, result := some "barred", state := .leaving })
    fun _ attempt db => db.updateMember now attempt.memberId fun m =>
      let stops := barsMember blockAllNumbers attempt
      { m with
        stopCause := if stops then attempt.result else m.stopCause
        stopAt := if stops then attempt.leavingAt else m.stopAt
        communications := dialled m m.communications attempt (some now) (some now) }

def expired (now : Int) (m : Member) : Bool :=
  m.expireAt.any (fun t => t < now) && m.stopAt.isNone

def setExpired (now : Int) (ids : List Int) (db : Db) : Db :=
  { db with
    members := db.members.update (fun m => m.id ∈ ids && expired now m)
      (fun m => { m with stopCause := some "expired", stopAt := some now }) fun _ => rfl }

inductive StopOp where
  | abandoned (p : AbandonedArgs)
  | leaving (p : LeavingArgs)
  | endReporting (p : ReportArgs)
  | schemaResult (p : ReportArgs)
  | timeout (p : TimeoutArgs)
  | distributeCancel (p : DistributeCancelArgs)
  | setBarred (id : Int) (blockAllNumbers : Bool)
  | setExpired (ids : List Int)

def stopStep (db : Db) (l : Int × StopOp) : Option Db :=
  match l.2 with
  | .abandoned p => some (ccAttemptAbandoned l.1 p db)
  | .leaving p => some (ccAttemptLeaving l.1 p db)
  | .endReporting p =>
    match ccAttemptEndReporting l.1 p db with
    | .ok db' => some db'
    | .error _ => some db
  | .schemaResult p => some (ccAttemptSchemaResult l.1 p db)
  | .timeout p => some (ccAttemptTimeout l.1 p db)
  | .distributeCancel p => some (ccAttemptDistributeCancel l.1 p db)
  | .setBarred id blockAllNumbers => some (setBarred l.1 id blockAllNumbers db)
  | .setExpired ids => some (setExpired l.1 ids db)

/-! ## What a statement may do to the two columns -/

def LockStep (m : Member) : Prop := m.stopAt = none ↔ m.stopCause = none

/-- The columns stay as they were, or a member that was not stopped gets both. -/
def StopsTo (m : Member) (stopAt : Option Int) (stopCause : Option String) : Prop :=
  (stopAt = m.stopAt ∧ stopCause = m.stopCause)
    ∨ (m.stopAt = none ∧ stopAt.isSome = true ∧ stopCause.isSome = true)

section Columns

variable {m m' : Member} {stopAt : Option Int} {stopCause : Option String}

theorem stopsTo_unless {again : Bool} (h : again = false →
      m.stopAt = none ∧ stopAt.isSome = true ∧ stopCause.isSome = true) :
    StopsTo m (if again then m.stopAt else stopAt) (if again then m.stopCause else stopCause) := by
  cases again with
  | true => exact .inl ⟨rfl, rfl⟩
  | false => exact .inr (h rfl)

theorem stopsTo_lockStep (hm : LockStep m) (h : StopsTo m m'.stopAt m'.stopCause) :
    LockStep m' := by
  unfold LockStep
  rcases h with ⟨hat, hcause⟩ | ⟨-, hat, hcause⟩
  · rw [hat, hcause]
    exact hm
  all_goals grind [Option.isSome_iff_ne_none]

theorem stopsTo_stopped (hm : m.stopAt ≠ none) (h : StopsTo m stopAt stopCause) :
    stopAt = m.stopAt ∧ stopCause = m.stopCause := by
  rcases h with h | ⟨hnone, -, -⟩
  · exact h
  · exact absurd hnone hm

def triggers (old new : Member) : Bool :=
  match old.communications, new.communications with
  | some before, some after => after ≠ before
  | _, _ => false

def triggerStops (old new : Member) : Bool :=
  triggers old new && (new.stopAt.isNone
    && ((new.communications.getD []).filter Communication.isOpen).isEmpty)

/-- **The trigger**: it clears the time at which a stopped member is ready, and stops a member that
the statement has left without a time and without an open number. -/
theorem trigger_eq (now : Int) (old new : Member) :
    ccMemberSetSysDestinationsTg now old new = { new with
      readyAt := if triggers old new && new.stopCause.isSome then none else new.readyAt
      stopAt := if triggerStops old new then some now else new.stopAt
      stopCause := if triggerStops old new then some "no_communications" else new.stopCause } := by
  unfold ccMemberSetSysDestinationsTg
  split
  · rename_i before after hbefore hafter
    have hruns : triggers old new = decide (after ≠ before) := by
      unfold triggers
      rw [hbefore, hafter]
    have hstops : triggerStops old new = (decide (after ≠ before) &&
        (new.stopAt.isNone && (after.filter Communication.isOpen).isEmpty)) := by
      unfold triggerStops
      rw [hruns, hafter]
      rfl
    grind [cases Member]
  · rename_i hmissing
    have hruns : triggers old new = false := by
      unfold triggers
      grind
    unfold triggerStops
    rw [hruns]
    rfl

theorem stopAt_none_of_triggerStops {old new : Member} (h : triggerStops old new = true) :
    new.stopAt = none := by
  unfold triggerStops at h
  rw [Bool.and_eq_true, Bool.and_eq_true] at h
  exact Option.isNone_iff_eq_none.mp h.2.1

theorem trigger_stopsTo (now : Int) (h : StopsTo m m'.stopAt m'.stopCause) :
    StopsTo m (ccMemberSetSysDestinationsTg now m m').stopAt
      (ccMemberSetSysDestinationsTg now m m').stopCause := by
  rw [trigger_eq]
  dsimp only
  cases hfires : triggerStops m m' with
  | false => exact h
  | true =>
    rcases h with ⟨hsame, -⟩ | ⟨hfree, -, -⟩
    · exact .inr ⟨hsame.symm.trans (stopAt_none_of_triggerStops hfires), rfl, rfl⟩
    · exact .inr ⟨hfree, rfl, rfl⟩

end Columns

/-! ## The statements -/

/-- The condition on a statement for a member, in the state before it. A report needs a result, and
the result of a schema also an attempt that has left; a timed-out attempt has left; and no number
is barred of a member that is stopped, unless another number is waiting. -/
def keepsStop (j : Int) (db : Db) (l : Int × StopOp) : Prop :=
  match l.2 with
  | .endReporting p => p.status ≠ none
  | .schemaResult p => ∀ a, db.attempts.get? p.id = some a → a.memberId = some j →
    a.leavingAt ≠ none ∧ p.status.or a.result ≠ none
  | .timeout p => ∀ a, db.attempts.get? p.id = some a → a.memberId = some j → a.leavingAt ≠ none
  | .setBarred id blockAllNumbers => ∀ a m, db.attempts.get? id = some a →
    a.memberId = some j → db.members.get? j = some m → barsMember blockAllNumbers a = true →
    m.stopAt = none
  | _ => True

def KeepsStop (j : Int) (db db' : Db) : Prop :=
  ∀ m, db.members.get? j = some m → LockStep m →
    ∃ m', db'.members.get? j = some m' ∧ StopsTo m m'.stopAt m'.stopCause

section Statements

variable {j now : Int} {db : Db}

theorem KeepsStop.refl (j : Int) (db : Db) : KeepsStop j db db :=
  fun m hm _ => ⟨m, hm, .inl ⟨rfl, rfl⟩⟩

variable {db' : Db} {l : Int × StopOp}

theorem keepsStop_updateMember {id : Option Int} {f : Member → Member}
    (hmembers : db'.members = db.members) (hf : ∀ m, (f m).id = m.id)
    (h : ∀ m, id = some j → db.members.get? j = some m → LockStep m →
      StopsTo m (f m).stopAt (f m).stopCause) : KeepsStop j db (db'.updateMember now id f) := by
  intro m hm hlock
  have hm' : db'.members.get? j = some m := by rw [hmembers]; exact hm
  by_cases hid : id = some j
  · rw [hid, updateMember_self now hf hm']
    exact ⟨_, rfl, trigger_stopsTo now (h m hid hm hlock)⟩
  · rw [updateMember_of_ne now hf hid, hm']
    exact ⟨m, rfl, .inl ⟨rfl, rfl⟩⟩

theorem keepsStop_onAttempt {id : Int} {p : Attempt → Bool} {f : Attempt → Attempt}
    {rest : Attempt → Attempt → Db → Db}
    (h : ∀ a, db.attempts.get? id = some a →
      KeepsStop j db (rest a (f a) { db with attempts := db.attempts.replace (f a) })) :
    KeepsStop j db (db.onAttempt id p f rest) :=
  onAttempt_induction (motive := KeepsStop j db) db id p f rest (KeepsStop.refl j db)
    fun a ha _ => h a ha

theorem keepsStop_abandoned (p : AbandonedArgs) : KeepsStop j db (ccAttemptAbandoned now p db) := by
  refine keepsStop_onAttempt fun a _ => keepsStop_updateMember rfl (fun _ => rfl) fun m _ _ hlock =>
    ?_
  refine stopsTo_unless fun hagain => ⟨?_, rfl, rfl⟩
  rw [Bool.or_eq_false_iff] at hagain
  -- This function asks for the cause.
  exact hlock.mpr (by simpa using hagain.1)

theorem keepsStop_leaving (p : LeavingArgs) : KeepsStop j db (ccAttemptLeaving now p db) := by
  refine keepsStop_onAttempt fun a _ => ?_
  refine keepsStop_updateMember rfl (fun _ => rfl) fun m _ _ _ => ?_
  refine stopsTo_unless fun hagain => ⟨?_, rfl, rfl⟩
  rw [Bool.or_eq_false_iff] at hagain
  simpa using hagain.1

theorem stopAt_none_of_report {m : Member} {next only : Bool} {rest : Bool}
    (h : (next || m.stopAt.isSome || only || rest) = false) : m.stopAt = none := by
  rw [Bool.or_eq_false_iff, Bool.or_eq_false_iff, Bool.or_eq_false_iff] at h
  simpa using h.1.1.2

theorem keepsStop_endReporting {p : ReportArgs} (hstatus : p.status ≠ none) :
    KeepsStop j db (endReporting now p db) := by
  have hresult : p.status.isSome = true := Option.isSome_iff_ne_none.mpr hstatus
  refine keepsStop_onAttempt fun a _ => ?_
  have hmember : KeepsStop j db (Db.updateMember
      { db with attempts := db.attempts.replace (reported now p a) } now (reported now p a).memberId
      (reportedMember db now p (reported now p a))) := by
    refine keepsStop_updateMember rfl (fun _ => rfl) fun m _ _ _ => ?_
    refine stopsTo_unless fun hagain => ⟨stopAt_none_of_report hagain, ?_, hresult⟩
    show (a.leavingAt.or (some now)).isSome = true
    cases a.leavingAt with
    | none => rfl
    | some t => rfl
  dsimp only
  split
  · exact hmember
  · exact hmember

theorem keepsStop_schemaResult {p : ReportArgs}
    (hok : ∀ a, db.attempts.get? p.id = some a → a.memberId = some j →
      a.leavingAt ≠ none ∧ p.status.or a.result ≠ none) :
    KeepsStop j db (ccAttemptSchemaResult now p db) := by
  refine keepsStop_onAttempt fun a ha => ?_
  refine keepsStop_updateMember rfl (fun _ => rfl) fun m hid _ _ => ?_
  obtain ⟨hleft, hresult⟩ := hok a ha hid
  refine stopsTo_unless fun hagain => ⟨?_, Option.isSome_iff_ne_none.mpr hleft,
    Option.isSome_iff_ne_none.mpr hresult⟩
  rw [Bool.or_eq_false_iff, Bool.or_eq_false_iff] at hagain
  simpa using hagain.1.2

theorem keepsStop_timeout {p : TimeoutArgs}
    (hok : ∀ a, db.attempts.get? p.id = some a → a.memberId = some j → a.leavingAt ≠ none) :
    KeepsStop j db (ccAttemptTimeout now p db) := by
  refine keepsStop_onAttempt fun a ha => ?_
  dsimp only
  split
  · refine keepsStop_updateMember rfl (fun _ => rfl) fun m hid _ _ => ?_
    refine stopsTo_unless fun hagain => ⟨?_, Option.isSome_iff_ne_none.mpr (hok a ha hid), rfl⟩
    rw [Bool.or_eq_false_iff] at hagain
    simpa using hagain.1
  · exact KeepsStop.refl j db

theorem keepsStop_distributeCancel (p : DistributeCancelArgs) :
    KeepsStop j db (ccAttemptDistributeCancel now p db) := by
  refine keepsStop_onAttempt fun a _ => ?_
  refine keepsStop_updateMember rfl (fun _ => rfl) fun m _ _ hlock => ?_
  dsimp only
  cases hstop : p.stop with
  | false => exact .inl ⟨rfl, rfl⟩
  | true =>
    cases hat : m.stopAt with
    | none =>
      rw [hlock.mp hat]
      exact .inr ⟨hat, rfl, rfl⟩
    | some t =>
      cases hcause : m.stopCause with
      | none => exact absurd (hlock.mpr hcause) (by rw [hat]; exact Option.some_ne_none t)
      | some c => exact .inl ⟨hat.symm, hcause.symm⟩

theorem keepsStop_setBarred {id : Int} {blockAllNumbers : Bool}
    (hok : ∀ a m, db.attempts.get? id = some a → a.memberId = some j →
      db.members.get? j = some m → barsMember blockAllNumbers a = true → m.stopAt = none) :
    KeepsStop j db (setBarred now id blockAllNumbers db) := by
  refine keepsStop_onAttempt fun a ha => ?_
  refine keepsStop_updateMember rfl (fun _ => rfl) fun m hid hm _ => ?_
  have hfree := hok a m ha hid hm
  have hsame : barsMember blockAllNumbers
      { a with leavingAt := some now, result := some "barred", state := .leaving }
        = barsMember blockAllNumbers a := rfl
  dsimp only
  rw [hsame]
  cases hbars : barsMember blockAllNumbers a with
  | true => exact .inr ⟨hfree hbars, rfl, rfl⟩
  | false => exact .inl ⟨rfl, rfl⟩

theorem keepsStop_setExpired (ids : List Int) : KeepsStop j db (setExpired now ids db) := by
  intro m hm _
  unfold setExpired
  have hkey : m.id = j := (Table.get?_eq_some.mp hm).2
  have hrow : (if (m.id ∈ ids && expired now m) = true then
      { m with stopCause := some "expired", stopAt := some now } else m)
      ∈ (setExpired now ids db).members.rows :=
    List.mem_map.mpr ⟨m, (Table.get?_eq_some.mp hm).1, by simp⟩
  by_cases hsel : (m.id ∈ ids && expired now m) = true
  · rw [if_pos hsel] at hrow
    refine ⟨_, Table.get?_eq_some.mpr ⟨hrow, hkey⟩, .inr ⟨?_, rfl, rfl⟩⟩
    unfold expired at hsel
    rw [Bool.and_eq_true, Bool.and_eq_true] at hsel
    exact Option.isNone_iff_eq_none.mp hsel.2.2
  · rw [if_neg hsel] at hrow
    exact ⟨m, Table.get?_eq_some.mpr ⟨hrow, hkey⟩, .inl ⟨rfl, rfl⟩⟩

/-- **Every statement that meets the condition.** -/
theorem keepsStop_step (hok : keepsStop j db l) (hstep : stopStep db l = some db') :
    KeepsStop j db db' := by
  obtain ⟨now, op⟩ := l
  cases op with
  | abandoned p =>
    cases hstep
    exact keepsStop_abandoned p
  | leaving p =>
    cases hstep
    exact keepsStop_leaving p
  | endReporting p =>
    unfold stopStep at hstep
    dsimp only at hstep
    rw [ccAttemptEndReporting_eq] at hstep
    cases hstep
    exact keepsStop_endReporting hok
  | schemaResult p =>
    cases hstep
    exact keepsStop_schemaResult hok
  | timeout p =>
    cases hstep
    exact keepsStop_timeout hok
  | distributeCancel p =>
    cases hstep
    exact keepsStop_distributeCancel p
  | setBarred id blockAllNumbers =>
    cases hstep
    exact keepsStop_setBarred hok
  | setExpired ids =>
    cases hstep
    exact keepsStop_setExpired ids

/-! ## Runs -/

def InStep (j : Int) (db : Db) : Prop := ∃ m, db.members.get? j = some m ∧ LockStep m

theorem inStep_step (h : InStep j db) (hok : keepsStop j db l) (hstep : stopStep db l = some db') :
    InStep j db' := by
  obtain ⟨m, hm, hlock⟩ := h
  obtain ⟨m', hm', hstops⟩ := keepsStop_step hok hstep m hm hlock
  exact ⟨m', hm', stopsTo_lockStep hlock hstops⟩

def StoppedAs (j t : Int) (cause : String) (db : Db) : Prop :=
  ∃ m, db.members.get? j = some m ∧ m.stopAt = some t ∧ m.stopCause = some cause

theorem stoppedAs_step {t : Int} {cause : String} (h : StoppedAs j t cause db)
    (hok : keepsStop j db l) (hstep : stopStep db l = some db') : StoppedAs j t cause db' := by
  obtain ⟨m, hm, hat, hcause⟩ := h
  have hlock : LockStep m := by
    grind [LockStep]
  obtain ⟨m', hm', hstops⟩ := keepsStop_step hok hstep m hm hlock
  obtain ⟨hat', hcause'⟩ := stopsTo_stopped (by rw [hat]; exact Option.some_ne_none t) hstops
  exact ⟨m', hm', hat'.trans hat, hcause'.trans hcause⟩

end Statements

/-- **A member's stop is set once**, in every run whose statements meet the condition: at any point
of the run both columns are `NULL` or neither is, and once they are set they stay to its end. -/
theorem stop_set_once {j : Int} {db₀ db₁ db₂ : Db} {first rest : List (Int × StopOp)}
    (hstart : ∃ m, db₀.members.get? j = some m ∧ m.stopAt = none ∧ m.stopCause = none)
    (hfirst : Along stopStep (keepsStop j) db₀ first) (hrun₁ : run stopStep db₀ first = some db₁)
    (hrest : Along stopStep (keepsStop j) db₁ rest) (hrun₂ : run stopStep db₁ rest = some db₂) :
    ∃ m₁ m₂, db₁.members.get? j = some m₁ ∧ db₂.members.get? j = some m₂
      ∧ (m₁.stopAt = none ↔ m₁.stopCause = none)
      ∧ (m₁.stopAt ≠ none → m₂.stopAt = m₁.stopAt ∧ m₂.stopCause = m₁.stopCause) := by
  obtain ⟨m₀, hm₀, hat₀, hcause₀⟩ := hstart
  have hinit : InStep j db₀ := ⟨m₀, hm₀, fun _ => hcause₀, fun _ => hat₀⟩
  obtain ⟨m₁, hm₁, hlock₁⟩ :=
    run_invariant (fun _ _ _ hinv hok hstep => inStep_step hinv hok hstep) first hinit hfirst hrun₁
  obtain ⟨m₂, hm₂, -⟩ := run_invariant (fun _ _ _ hinv hok hstep => inStep_step hinv hok hstep)
    rest ⟨m₁, hm₁, hlock₁⟩ hrest hrun₂
  refine ⟨m₁, m₂, hm₁, hm₂, hlock₁, fun hstopped => ?_⟩
  obtain ⟨t, hat⟩ := Option.ne_none_iff_exists'.mp hstopped
  obtain ⟨cause, hcause⟩ := Option.ne_none_iff_exists'.mp fun h => hstopped (hlock₁.mpr h)
  have hstops : StoppedAs j t cause db₂ :=
    run_invariant (fun _ _ _ hinv hok hstep => stoppedAs_step hinv hok hstep) rest
      ⟨m₁, hm₁, hat, hcause⟩ hrest hrun₂
  obtain ⟨m, hm, hat', hcause'⟩ := hstops
  rw [Option.some.inj (hm₂.symm.trans hm), hat, hcause]
  exact ⟨hat', hcause'⟩

def twoAttempts : Db :=
  { Db.empty with
    attempts := ⟨[{ Attempt.inserted 0 7 with memberId := some 1, communicationIdx := 0 },
      { Attempt.inserted 0 8 with memberId := some 1, communicationIdx := 1 }], by decide⟩
    members := ⟨[⟨1, 1, 1, none, none, 0,
      some [⟨none, none, none, none, none⟩, ⟨none, none, none, none, none⟩], none, none, none, none,
      none, none, none, none⟩], by decide⟩ }

def abandonNow (id : Int) : AbandonedArgs := ⟨id, 0, 0, none, false, false, false, none, none⟩

/-- Abandoned twice: the second attempt does not stop the member again. -/
theorem stopped_once_by_abandoned :
    ∃ m₁ m₂ : Member, m₁.stopAt = some 10 ∧ m₁.stopCause = some "abandoned"
      ∧ (m₁.stopAt ≠ none → m₂.stopAt = m₁.stopAt ∧ m₂.stopCause = m₁.stopCause) := by
  have hrun₁ : run stopStep twoAttempts [(10, .abandoned (abandonNow 7))] = some _ := rfl
  have hrun₂ : run stopStep (ccAttemptAbandoned 10 (abandonNow 7) twoAttempts)
    [(20, .abandoned (abandonNow 8))] = some _ := rfl
  have hok : ∀ db now id, Along stopStep (keepsStop 1) db [(now, .abandoned (abandonNow id))] :=
    fun _ _ _ => ⟨trivial, fun _ _ => trivial⟩
  obtain ⟨m₁, m₂, hm₁, -, -, hstays⟩ :=
    stop_set_once ⟨_, rfl, rfl, rfl⟩ (hok _ _ _) hrun₁ (hok _ _ _) hrun₂
  refine ⟨m₁, m₂, ?_, ?_, hstays⟩
  · cases hm₁
    rfl
  · cases hm₁
    rfl

/-- A number of a stopped member is barred, and the stop is another one; the result of a schema is
saved for an attempt that has not left, and the cause stands without a time. -/
theorem stop_set_again :
    ((run stopStep twoAttempts [(10, .abandoned (abandonNow 7)), (20, .setBarred 8 true)]).bind
        (·.members.get? 1)).map (fun m => (m.stopAt, m.stopCause)) = some (some 20, some "barred")
    ∧ ((run stopStep twoAttempts [(10, .abandoned (abandonNow 7))]).bind
        (·.members.get? 1)).map (fun m => (m.stopAt, m.stopCause))
          = some (some 10, some "abandoned")
    ∧ ((run stopStep twoAttempts [(10, .schemaResult ⟨7, some "success", none, none, none, none,
        none, 0, 0, false, false, false⟩)]).bind (·.members.get? 1)).map
          (fun m => (m.stopAt, m.stopCause)) = some (none, some "success") :=
  ⟨rfl, rfl, rfl⟩

end CallCenter.Store
