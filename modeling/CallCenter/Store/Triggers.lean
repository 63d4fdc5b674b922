import CallCenter.Lib.Run
import Mathlib.Order.Bounds.Basic

/-!
# Scheduled triggers

A trigger has a cron expression and the time it is due at. `cc_scheduler_jobs` moves the times of
the due triggers past the present and inserts a job for each that is less than five minutes late,
unless the trigger has a job that waits for its start. It treats each trigger by itself, so the
state is one trigger with its jobs, those in the log, and the record of when each was inserted.

Times are microseconds on the clocks of the trigger's zone. `cc_cron_next` is a parameter.
-/

namespace CallCenter.Store

open Lib

/-! ## The next time -/

section Next

variable {ε : Type} (cronNext : ε → Int → Int)

/-- The loop of `cc_cron_next_after_now`, with the turns that are left to it. -/
def cronLoop (expression : ε) (now : Int) : Nat → Int → Int
  | 0, n => n
  | turns + 1, n => if n ≤ now then cronLoop expression now turns (cronNext expression n) else n

def ccCronNextAfterNow (expression : ε) (shed now : Int) : Int :=
  let n := cronNext expression shed
  cronLoop cronNext expression now 1000 (if n < now then now else n)

/-- `cc_cron_next` is the first time after the given one that the expression matches. -/
def CronNext (Matches : ε → Int → Prop) : Prop :=
  ∀ e t, IsLeast {x | t < x ∧ Matches e x} (cronNext e t)

variable {cronNext} {Matches : ε → Int → Prop}

theorem cronLoop_of_lt {e : ε} {now n : Int} (h : now < n) (turns : Nat) :
    cronLoop cronNext e now turns n = n := by
  cases turns with
  | zero => rfl
  | succ turns => exact if_neg (by omega)

theorem cronLoop_now (hcron : CronNext cronNext Matches) (e : ε) (now : Int) (turns : Nat) :
    cronLoop cronNext e now (turns + 1) now = cronNext e now :=
  (if_pos (Int.le_refl now)).trans (cronLoop_of_lt (hcron e now).1.1 turns)

theorem ccCronNextAfterNow_eq (hcron : CronNext cronNext Matches) (e : ε) (shed now : Int) :
    ccCronNextAfterNow cronNext e shed now
      = if cronNext e shed ≤ now then cronNext e now else cronNext e shed := by
  unfold ccCronNextAfterNow
  by_cases hle : cronNext e shed ≤ now
  · have hstart : (if cronNext e shed < now then now else cronNext e shed) = now := by
      split
      · rfl
      · omega
    rw [if_pos hle]
    simp only [hstart]
    exact cronLoop_now hcron e now 999
  · rw [if_neg hle]
    simp only [if_neg (show ¬cronNext e shed < now by omega)]
    exact cronLoop_of_lt (by omega) 1000

theorem isLeast_ccCronNextAfterNow (hcron : CronNext cronNext Matches) (e : ε) (shed now : Int) :
    IsLeast {x | shed < x ∧ now < x ∧ Matches e x} (ccCronNextAfterNow cronNext e shed now) := by
  obtain ⟨⟨hshed, hmatch⟩, hleast⟩ := hcron e shed
  rw [ccCronNextAfterNow_eq hcron]
  by_cases hle : cronNext e shed ≤ now
  · obtain ⟨⟨hnow, hmatch'⟩, hleast'⟩ := hcron e now
    rw [if_pos hle]
    exact ⟨⟨by omega, hnow, hmatch'⟩, fun x hx => hleast' ⟨hx.2.1, hx.2.2⟩⟩
  · rw [if_neg hle]
    exact ⟨⟨hshed, by omega, hmatch⟩, fun x hx => hleast ⟨hx.1, hx.2.2⟩⟩

end Next

/-! ## The scheduler -/

inductive JobState where
  | idle | active | stop | error
  deriving DecidableEq

/-- A row of `cc_trigger_job`, or of its log; `id` is its number among the jobs of the trigger. -/
structure TriggerJob where
  id : Nat
  state : JobState
  stopped : Bool

structure Trigger (ε : Type) where
  enabled : Bool
  cron : Bool
  expression : ε
  timezoneId : Option Int
  scheduleAt : Option Int

/-- A job that was inserted: the time it was due at, the one the trigger was given then, and the
present. -/
structure Firing where
  scheduledAt : Int
  nextAt : Int
  now : Int

structure Scheduled (ε : Type) where
  trigger : Trigger ε
  jobs : List TriggerJob
  /-- `cc_trigger_job_log`. -/
  log : List TriggerJob
  /-- The last one first. -/
  fired : List Firing

def scheduleTolerance : Int := 300000000

section Scheduler

variable {ε : Type} (cronNext : ε → Int → Int)

/-- The trigger is one that a run selects, and this is the time it is due at. -/
def Scheduled.due (s : Scheduled ε) (now : Int) : Option Int :=
  if s.trigger.enabled && s.trigger.cron && s.trigger.timezoneId.isSome
      && s.jobs.all (·.state ≠ .idle) then
    s.trigger.scheduleAt.filter (· ≤ now)
  else none

def Scheduled.logStopped (s : Scheduled ε) : Scheduled ε :=
  { s with jobs := s.jobs.filter (!·.stopped), log := s.log ++ s.jobs.filter (·.stopped) }

/-- `cc_scheduler_jobs`: the stopped jobs are moved to the log, and then the trigger is looked at
unless its row is locked. -/
def ccSchedulerJobs (now : Int) (rowLocked : Bool) (s : Scheduled ε) : Scheduled ε :=
  let s := s.logStopped
  match if rowLocked then none else s.due now with
  | none => s
  | some oldScheduleAt =>
    let next := ccCronNextAfterNow cronNext s.trigger.expression oldScheduleAt now
    let s := { s with trigger := { s.trigger with scheduleAt := some next } }
    if now - oldScheduleAt < scheduleTolerance then
      { s with
        jobs := s.jobs ++ [⟨s.fired.length, .idle, false⟩]
        fired := ⟨oldScheduleAt, next, now⟩ :: s.fired }
    else s

inductive SchedulerLabel where
  | run (now : Int) (rowLocked : Bool)
  /-- `FetchIdleJobs`. -/
  | start (i : Nat)
  /-- `SetResult` or `SetError`. -/
  | finish (i : Nat) (failed : Bool)
  /-- `CleanActive`. -/
  | clean (i : Nat)

def schedulerStep (s : Scheduled ε) : SchedulerLabel → Option (Scheduled ε)
  | .run now rowLocked => some (ccSchedulerJobs cronNext now rowLocked s)
  | .start i =>
    s.jobs[i]?.bind fun job =>
      if job.state = .idle then some { s with jobs := s.jobs.set i { job with state := .active } }
      else none
  | .finish i failed =>
    s.jobs[i]?.map fun job =>
      { s with jobs := s.jobs.set i ⟨job.id, if failed then .error else .stop, true⟩ }
  | .clean i =>
    s.jobs[i]?.bind fun job =>
      if job.state = .idle then none
      else some { s with jobs := s.jobs.set i { job with stopped := true } }

/-- Each due time fires once at most and not late, the time of the trigger goes up with each job,
and no two jobs wait. -/
structure FiresOnce (s : Scheduled ε) : Prop where
  /-- The jobs there are, and those in the log, are those of the record, one for each entry. -/
  inserted : ((s.log ++ s.jobs).map (·.id)).Perm (List.range s.fired.length)
  increasing : s.fired.Pairwise fun later earlier => earlier.nextAt ≤ later.scheduledAt
  /-- The stored time is past every time that has fired. -/
  advanced : ∀ f ∈ s.fired, f.scheduledAt < f.nextAt
    ∧ ∃ t, s.trigger.scheduleAt = some t ∧ f.nextAt ≤ t
  inTime : ∀ f ∈ s.fired, f.scheduledAt ≤ f.now ∧ f.now - f.scheduledAt < scheduleTolerance
  oneWaits : s.jobs.countP (·.state = .idle) ≤ 1

variable {cronNext} {Matches : ε → Int → Prop} {s s' : Scheduled ε}

theorem FiresOnce.of_jobs (h : FiresOnce s) {jobs log : List TriggerJob}
    (hids : ((log ++ jobs).map (·.id)).Perm ((s.log ++ s.jobs).map (·.id)))
    (hjobs : jobs.countP (·.state = .idle) ≤ s.jobs.countP (·.state = .idle)) :
    FiresOnce { s with jobs := jobs, log := log } :=
  ⟨hids.trans h.inserted, h.increasing, h.advanced, h.inTime, hjobs.trans h.oneWaits⟩

theorem FiresOnce.set (h : FiresOnce s) {i : Nat} {job job' : TriggerJob}
    (hi : s.jobs[i]? = some job) (hid : job'.id = job.id)
    (hidle : (s.jobs.set i job').countP (·.state = .idle) ≤ s.jobs.countP (·.state = .idle)) :
    FiresOnce { s with jobs := s.jobs.set i job' } := by
  refine h.of_jobs (.of_eq ?_) hidle
  obtain ⟨hlt, rfl⟩ := List.getElem?_eq_some_iff.mp hi
  have hset : (s.jobs.set i job').map TriggerJob.id = s.jobs.map TriggerJob.id := by
    rw [List.map_set, hid, ← List.map_set, List.set_getElem_self]
  exact (List.map_append.trans (congrArg _ hset)).trans List.map_append.symm

theorem countP_idle_set {jobs : List TriggerJob} {i : Nat} {job : TriggerJob}
    (hi : jobs[i]? = some job) (job' : TriggerJob)
    (h : job'.state = .idle → job.state = .idle) :
    (jobs.set i job').countP (·.state = .idle) ≤ jobs.countP (·.state = .idle) := by
  have hset := (List.set_perm_cons_eraseIdx (List.getElem?_eq_some_iff.mp hi).1 job').countP_eq
    fun j : TriggerJob => decide (j.state = .idle)
  rw [hset, countP_pool _ hi]
  by_cases hidle : job'.state = .idle
  · simp [hidle, h hidle]
  · simp [hidle]

theorem due_eq_some {now t : Int} (h : s.due now = some t) :
    s.jobs.countP (·.state = .idle) = 0 ∧ s.trigger.scheduleAt = some t ∧ t ≤ now := by
  obtain ⟨hguard, hdue⟩ := Option.ite_none_right_eq_some.mp h
  obtain ⟨hat, hle⟩ := Option.filter_eq_some_iff.mp hdue
  have hjobs := (Bool.and_eq_true_iff.mp hguard).2
  refine ⟨?_, hat, of_decide_eq_true hle⟩
  rw [List.countP_eq_zero]
  intro job hjob hidle
  have hnot := of_decide_eq_true (List.all_eq_true.mp hjobs job hjob)
  exact hnot (of_decide_eq_true hidle)

theorem firesOnce_run (hcron : CronNext cronNext Matches) (h : FiresOnce s) (now : Int)
    (rowLocked : Bool) : FiresOnce (ccSchedulerJobs cronNext now rowLocked s) := by
  have hkept : FiresOnce s.logStopped := by
    refine h.of_jobs (.map _ ?_) (List.filter_sublist.countP_le)
    rw [List.append_assoc]
    exact (List.filter_append_perm TriggerJob.stopped s.jobs).append_left s.log
  unfold ccSchedulerJobs
  generalize s.logStopped = s₁ at hkept
  dsimp only
  split
  · exact hkept
  rename_i t hdue
  have hdue : s₁.due now = some t := by
    cases rowLocked with
    | true => cases hdue
    | false => exact hdue
  obtain ⟨hnone, hat, hle⟩ := due_eq_some hdue
  have hnext := (isLeast_ccCronNextAfterNow hcron s₁.trigger.expression t now).1
  -- What fired before was due before the time that is now replaced.
  have hbefore : ∀ f ∈ s₁.fired, f.scheduledAt < f.nextAt ∧ f.nextAt ≤ t := by
    intro f hf
    obtain ⟨hlt, t', ht', hle'⟩ := hkept.advanced f hf
    rw [← Option.some.inj (hat.symm.trans ht')] at hle'
    exact ⟨hlt, hle'⟩
  have hadvanced : ∀ f ∈ s₁.fired, f.scheduledAt < f.nextAt
      ∧ f.nextAt ≤ ccCronNextAfterNow cronNext s₁.trigger.expression t now :=
    fun f hf => ⟨(hbefore f hf).1, by have := (hbefore f hf).2; have := hnext.1; omega⟩
  split
  · rename_i hvalid
    refine ⟨?_, List.pairwise_cons.mpr ⟨fun f hf => (hbefore f hf).2, hkept.increasing⟩, ?_, ?_, ?_⟩
    · rw [← List.append_assoc, List.map_append, List.length_cons, List.range_succ]
      exact hkept.inserted.append_right _
    · refine List.forall_mem_cons.mpr ⟨⟨hnext.1, _, rfl, Int.le_refl _⟩, fun f hf => ?_⟩
      exact ⟨(hadvanced f hf).1, _, rfl, (hadvanced f hf).2⟩
    · exact List.forall_mem_cons.mpr ⟨⟨hle, hvalid⟩, hkept.inTime⟩
    · rw [List.countP_append, hnone]
      exact Nat.le_refl 1
  · exact ⟨hkept.inserted, hkept.increasing,
      fun f hf => ⟨(hadvanced f hf).1, _, rfl, (hadvanced f hf).2⟩, hkept.inTime, hkept.oneWaits⟩

theorem firesOnce_step (hcron : CronNext cronNext Matches) (h : FiresOnce s)
    {label : SchedulerLabel} (hs : schedulerStep cronNext s label = some s') : FiresOnce s' := by
  cases label with
  | run now rowLocked =>
    cases hs
    exact firesOnce_run hcron h now rowLocked
  | start i =>
    obtain ⟨job, hjob, hs⟩ := Option.bind_eq_some_iff.mp hs
    obtain ⟨-, rfl⟩ := of_guard hs
    exact h.set hjob rfl (countP_idle_set hjob _ nofun)
  | finish i failed =>
    obtain ⟨job, hjob, rfl⟩ := Option.map_eq_some_iff.mp hs
    exact h.set hjob rfl (countP_idle_set hjob _ fun hidle => by cases failed <;> cases hidle)
  | clean i =>
    obtain ⟨job, hjob, hs⟩ := Option.bind_eq_some_iff.mp hs
    obtain ⟨-, hs⟩ := Option.ite_none_left_eq_some.mp hs
    cases hs
    exact h.set hjob rfl (countP_idle_set hjob _ id)

/-- **A trigger fires once for each due time**: the next time is the first one after the present and
the old one, and this holds after every sequence of runs, starts and ends of jobs. -/
theorem trigger_fires_once (hcron : CronNext cronNext Matches) :
    (∀ e shed now, IsLeast {x | shed < x ∧ now < x ∧ Matches e x}
        (ccCronNextAfterNow cronNext e shed now))
      ∧ ∀ (trigger : Trigger ε) (labels : List SchedulerLabel) (s : Scheduled ε),
        run (schedulerStep cronNext) ⟨trigger, [], [], []⟩ labels = some s → FiresOnce s := by
  refine ⟨isLeast_ccCronNextAfterNow hcron, fun trigger labels s hrun => ?_⟩
  have hstart : FiresOnce (⟨trigger, [], [], []⟩ : Scheduled ε) :=
    ⟨.nil, .nil, List.forall_mem_nil _, List.forall_mem_nil _, Nat.zero_le 1⟩
  exact run_invariant (fun _ _ _ h _ hs => firesOnce_step hcron h hs) labels hstart
    (along_of_forall (fun _ _ => trivial) labels _) hrun

end Scheduler

def everyTen (_ : Unit) (t : Int) : Int := (t / 10 + 1) * 10

theorem cronNext_everyTen : CronNext everyTen fun _ x => x % 10 = 0 := by
  intro _ t
  unfold everyTen
  refine ⟨⟨by omega, by omega⟩, fun x hx => ?_⟩
  have hlt := hx.1
  have hten := hx.2
  omega

/-- A run in time inserts a job, and the next run inserts none while the job waits. -/
theorem every_ten_fires_once :
    ∃ s, run (schedulerStep everyTen) ⟨⟨true, true, (), some 1, some 10⟩, [], [], []⟩
        [.run 13 false, .run 25 false, .start 0, .run 26 false] = some s
      ∧ s.fired = [⟨20, 30, 26⟩, ⟨10, 20, 13⟩] ∧ FiresOnce s := by
  have hrun : (run (schedulerStep everyTen) ⟨⟨true, true, (), some 1, some 10⟩, [], [], []⟩
      [.run 13 false, .run 25 false, .start 0, .run 26 false]).map Scheduled.fired
        = some [⟨20, 30, 26⟩, ⟨10, 20, 13⟩] := rfl
  obtain ⟨s, hs, hfired⟩ := Option.map_eq_some_iff.mp hrun
  exact ⟨s, hs, hfired, (trigger_fires_once cronNext_everyTen).2 _ _ s hs⟩

end CallCenter.Store
