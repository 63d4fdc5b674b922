import CallCenter.Store.Triggers

/-!
# The jobs of the triggers on several nodes

The watcher of a node polls `cc_trigger_job` for idle jobs, marks them as the node's own and sends
them to a listener, which starts the flow of each in a goroutine. The nodes share the table only. A
node may stop or die at any time; when it starts again, it marks what it had as stopped.

The state says of each job where it is. In what order a channel delivers makes no difference here,
and a node that was stopped is one that takes no more steps.
-/

namespace CallCenter.Trigger

open Lib

structure JobRow where
  state : Store.JobState
  nodeId : Option Nat
  stopped : Bool
  deriving DecidableEq

/-- Where a node has a job: still to be sent by its poll, in the channel, or in a goroutine. -/
inductive Stage where
  | sending | queued | running
  deriving DecidableEq

/-- A job with its row, unless that was moved to the log, the node that has it, and how often its
flow was started. -/
structure Job where
  row : Option JobRow
  held : Option (Nat × Stage)
  started : Nat
  deriving DecidableEq

def newJob : Job := ⟨some ⟨.idle, none, false⟩, none, 0⟩

def limitJobs : Nat := 100

def queueSize : Nat := 1000

inductive Label where
  | insert
  | archive (i : Nat)
  /-- The rows are marked, and the node gets them or, where the reply is lost, an error. -/
  | fetchIdleJobs (n : Nat) (ids : List Nat) (replied : Bool)
  | send (i : Nat)
  | listen (i : Nat)
  /-- The flow has ended, with an error or not, and so has the write of its result. -/
  | settle (i : Nat) (failed stored : Bool)
  /-- The node is started again, and its `CleanActive` succeeds or not. -/
  | start (n : Nat) (cleaned : Bool)

def Job.idle (j : Job) : Prop := j.row.map JobRow.state = some .idle

instance (j : Job) : Decidable j.idle := inferInstanceAs (Decidable (_ = _))

def Job.fetched (j : Job) (n : Nat) (replied : Bool) : Job :=
  { j with
    row := j.row.map ({ · with state := .active, nodeId := some n })
    held := if replied then some (n, .sending) else none }

def Job.settled (j : Job) (failed stored : Bool) : Job :=
  { j with
    row := if stored then
        j.row.map ({ · with state := if failed then .error else .stop, stopped := true })
      else j.row
    held := none }

/-- What is left of a job when node `n` starts again. -/
def Job.cleaned (j : Job) (n : Nat) (ok : Bool) : Job :=
  { j with
    row := j.row.map fun r => if ok && r.nodeId == some n then { r with stopped := true } else r
    held := j.held.filter (·.1 ≠ n) }

def step (jobs : List Job) : Label → Option (List Job)
  | .insert => some (jobs ++ [newJob])
  | .archive i => jobs[i]?.bind fun j =>
    if j.row.any (·.stopped) then some (jobs.set i { j with row := none }) else none
  | .fetchIdleJobs n ids replied =>
    -- The watcher polls again when it has sent everything.
    if jobs.all (·.held ≠ some (n, .sending)) ∧ ids.length ≤ limitJobs
        ∧ ∀ i ∈ ids, jobs[i]?.any (·.idle) then
      some (jobs.mapIdx fun i j => if i ∈ ids then j.fetched n replied else j)
    else none
  | .send i => jobs[i]?.bind fun j =>
    match j.held with
    | some (n, .sending) =>
      if jobs.countP (·.held = some (n, .queued)) < queueSize then
        some (jobs.set i { j with held := some (n, .queued) })
      else none
    | _ => none
  | .listen i => jobs[i]?.bind fun j =>
    match j.held with
    | some (n, .queued) =>
      some (jobs.set i { j with held := some (n, .running), started := j.started + 1 })
    | _ => none
  | .settle i failed stored => jobs[i]?.bind fun j =>
    match j.held with
    | some (_, .running) => some (jobs.set i (j.settled failed stored))
    | _ => none
  | .start n cleaned => some (jobs.map (·.cleaned n cleaned))

variable {jobs jobs' : List Job} {l : Label} {j j' : Job}

/-- What becomes of a job in a step. -/
inductive Moved : Label → Job → Job → Prop where
  | same (l : Label) (j : Job) : Moved l j j
  | archived {i : Nat} (j : Job) : Moved (.archive i) j { j with row := none }
  | fetched {n : Nat} {ids : List Nat} {replied : Bool} {j : Job} (hidle : j.idle) :
    Moved (.fetchIdleJobs n ids replied) j (j.fetched n replied)
  | sent {i n : Nat} {j : Job} (h : j.held = some (n, .sending)) :
    Moved (.send i) j { j with held := some (n, .queued) }
  | listened {i n : Nat} {j : Job} (h : j.held = some (n, .queued)) :
    Moved (.listen i) j { j with held := some (n, .running), started := j.started + 1 }
  | settled {i n : Nat} {failed stored : Bool} {j : Job} (h : j.held = some (n, .running)) :
    Moved (.settle i failed stored) j (j.settled failed stored)
  | cleaned {n : Nat} {ok : Bool} (j : Job) : Moved (.start n ok) j (j.cleaned n ok)

theorem moved_of_set {i : Nat} {x x' : Job} (hi : jobs[i]? = some x) (hx : Moved l x x')
    (hj : j' ∈ jobs.set i x') : ∃ j ∈ jobs, Moved l j j' := by
  rcases List.mem_or_eq_of_mem_set hj with hj | rfl
  · exact ⟨j', hj, .same l j'⟩
  · exact ⟨x, List.mem_of_getElem? hi, hx⟩

theorem moved_of_step (h : step jobs l = some jobs') (hj : j' ∈ jobs') :
    j' = newJob ∨ ∃ j ∈ jobs, Moved l j j' := by
  cases l with
  | insert =>
    cases h
    rcases List.mem_append.mp hj with hj | hj
    · exact .inr ⟨j', hj, .same _ j'⟩
    · exact .inl (List.mem_singleton.mp hj)
  | archive i =>
    obtain ⟨x, hi, h⟩ := Option.bind_eq_some_iff.mp h
    obtain ⟨-, rfl⟩ := of_guard h
    exact .inr (moved_of_set hi (.archived x) hj)
  | fetchIdleJobs n ids replied =>
    obtain ⟨⟨-, -, hids⟩, rfl⟩ := of_guard h
    obtain ⟨i, hlt, rfl⟩ := List.mem_mapIdx.mp hj
    refine .inr ⟨jobs[i], List.getElem_mem hlt, ?_⟩
    split
    · rename_i hi
      have hidle := hids i hi
      rw [List.getElem?_eq_getElem hlt] at hidle
      exact .fetched (of_decide_eq_true hidle)
    · exact .same _ _
  | send i =>
    obtain ⟨x, hi, h⟩ := Option.bind_eq_some_iff.mp h
    split at h
    · rename_i n hheld
      obtain ⟨-, rfl⟩ := of_guard h
      exact .inr (moved_of_set hi (.sent hheld) hj)
    · cases h
  | listen i | settle i =>
    obtain ⟨x, hi, h⟩ := Option.bind_eq_some_iff.mp h
    split at h
    · rename_i n hheld
      cases h
      exact .inr (moved_of_set hi (by constructor; exact hheld) hj)
    · cases h
  | start n ok =>
    cases h
    obtain ⟨j, hmem, rfl⟩ := List.mem_map.mp hj
    exact .inr ⟨j, hmem, .cleaned j⟩

/-- What holds of a new job and is kept by every move holds of all jobs. -/
theorem jobs_invariant {P : Job → Prop} (ok : Label → Prop) (hnew : P newJob)
    (hmoved : ∀ {l j j'}, P j → ok l → Moved l j j' → P j') {labels : List Label}
    (hok : ∀ l ∈ labels, ok l) (hrun : run step [] labels = some jobs) : ∀ j ∈ jobs, P j := by
  have hstep : ∀ js l js', (∀ j ∈ js, P j) → ok l → step js l = some js' → ∀ j ∈ js', P j := by
    intro js l js' h hl hs j' hj'
    rcases moved_of_step hs hj' with rfl | ⟨j, hj, hm⟩
    · exact hnew
    · exact hmoved (h j hj) hl hm
  exact run_invariant hstep labels (List.forall_mem_nil P) (along_of_mem hok _) hrun

/-! ## A flow is started once -/

/-- The flow of the job may still be started. -/
def Job.waits (j : Job) : Prop :=
  j.idle ∨ ∃ n, j.held = some (n, .sending) ∨ j.held = some (n, .queued)

/-- The flow is started at most once. -/
structure Job.Once (j : Job) : Prop where
  started : j.started ≤ 1
  waits : j.waits → j.started = 0
  idle : j.idle → j.held = none

theorem Job.Once.mono (h : j.Once) (hstarted : j'.started = j.started) (hwaits : j'.waits → j.waits)
    (hidle : j'.idle → j.idle ∧ (j.held = none → j'.held = none)) : j'.Once :=
  ⟨hstarted ▸ h.started, fun hw => hstarted.trans (h.waits (hwaits hw)),
    fun hi => (hidle hi).2 (h.idle (hidle hi).1)⟩

theorem not_idle_fetched (j : Job) (n : Nat) (replied : Bool) : ¬(j.fetched n replied).idle := by
  intro hi
  obtain ⟨r, hr, hstate⟩ := Option.map_eq_some_iff.mp hi
  obtain ⟨r₀, -, rfl⟩ := Option.map_eq_some_iff.mp hr
  cases hstate

theorem idle_of_settled {failed stored : Bool} (h : (j.settled failed stored).idle) : j.idle := by
  cases stored with
  | false => exact h
  | true =>
    obtain ⟨r, hr, hstate⟩ := Option.map_eq_some_iff.mp h
    obtain ⟨r₀, -, rfl⟩ := Option.map_eq_some_iff.mp hr
    cases failed <;> cases hstate

theorem idle_of_cleaned {n : Nat} {ok : Bool} (h : (j.cleaned n ok).idle) : j.idle := by
  obtain ⟨r, hr, hstate⟩ := Option.map_eq_some_iff.mp h
  obtain ⟨r₀, hr₀, rfl⟩ := Option.map_eq_some_iff.mp hr
  refine Option.map_eq_some_iff.mpr ⟨r₀, hr₀, ?_⟩
  split at hstate
  · exact hstate
  · exact hstate

theorem once_of_moved (h : j.Once) (hm : Moved l j j') : j'.Once := by
  cases hm with
  | same => exact h
  | archived => exact h.mono rfl (Or.imp_left nofun) nofun
  | fetched hi => exact h.mono rfl (fun _ => .inl hi) fun hi' => absurd hi' (not_idle_fetched j _ _)
  | sent hheld =>
    exact h.mono rfl (fun _ => .inr ⟨_, .inl hheld⟩) fun hi =>
      ⟨hi, fun hnone => by cases hheld.symm.trans hnone⟩
  | listened hheld =>
    have hzero := h.waits (.inr ⟨_, .inr hheld⟩)
    have hbusy : ¬j.idle := fun hi => by cases hheld.symm.trans (h.idle hi)
    refine ⟨Nat.succ_le_succ hzero.le, ?_, fun hi => absurd hi hbusy⟩
    rintro (hi | ⟨n, hheld' | hheld'⟩)
    · exact absurd hi hbusy
    · cases hheld'
    · cases hheld'
  | settled =>
    refine h.mono rfl ?_ fun hi => ⟨idle_of_settled hi, fun _ => rfl⟩
    rintro (hi | ⟨n, hheld | hheld⟩)
    · exact .inl (idle_of_settled hi)
    · cases hheld
    · cases hheld
  | cleaned =>
    refine h.mono rfl ?_ fun hi => ⟨idle_of_cleaned hi, fun hnone => by simp [Job.cleaned, hnone]⟩
    refine Or.imp idle_of_cleaned (Exists.imp fun n => Or.imp ?_ ?_)
    · exact fun hheld => (Option.filter_eq_some_iff.mp hheld).1
    · exact fun hheld => (Option.filter_eq_some_iff.mp hheld).1

/-- **No flow is started twice**, whatever the nodes do, wherever they stop or die, and however
often they are started again. -/
theorem job_started_once (labels : List Label) (hrun : run step [] labels = some jobs) :
    ∀ j ∈ jobs, j.started ≤ 1 := by
  have honce : ∀ j ∈ jobs, j.Once :=
    jobs_invariant (fun _ => True) ⟨Nat.zero_le 1, fun _ => rfl, fun _ => rfl⟩
      (fun h _ hm => once_of_moved h hm) (fun _ _ => trivial) hrun
  exact fun j hj => (honce j hj).started

/-- A node dies with the job in its channel, and the job is not taken again. -/
def diesWithJob : List Label :=
  [.insert, .fetchIdleJobs 0 [0] true, .send 0, .start 0 true, .insert, .fetchIdleJobs 1 [1] true,
    .send 1, .listen 1, .settle 1 false true, .archive 1]

theorem diesWithJob_once :
    ∃ jobs, run step [] diesWithJob = some jobs ∧ ∀ j ∈ jobs, j.started ≤ 1 :=
  ⟨_, rfl, job_started_once diesWithJob rfl⟩

/-! ## No job is lost while its node runs -/

/-- An active job is in the hands of the node that its row names. -/
def Job.InHand (j : Job) : Prop :=
  ∀ r, j.row = some r → r.state = .active → ∃ n s, r.nodeId = some n ∧ j.held = some (n, s)

/-- No node starts again, and no answer or result is lost. -/
def Label.lasting : Label → Bool
  | .fetchIdleJobs _ _ replied => replied
  | .settle _ _ stored => stored
  | .start _ _ => false
  | _ => true

theorem inHand_of_moved (h : j.InHand) (hok : l.lasting = true) (hm : Moved l j j') :
    j'.InHand := by
  intro r hr hactive
  cases hm with
  | same => exact h r hr hactive
  | archived => cases hr
  | fetched hi =>
    obtain ⟨r₀, -, rfl⟩ := Option.map_eq_some_iff.mp hr
    exact ⟨_, _, rfl, if_pos hok⟩
  | sent hheld | listened hheld =>
    obtain ⟨n, s, hnode, hheld'⟩ := h r hr hactive
    cases hheld.symm.trans hheld'
    exact ⟨_, _, hnode, rfl⟩
  | @settled _ _ failed stored =>
    rw [Job.settled, if_pos (show stored = true from hok)] at hr
    obtain ⟨r₀, -, rfl⟩ := Option.map_eq_some_iff.mp hr
    cases failed <;> cases hactive
  | cleaned => cases hok

/-- **An active job is on its way or running** on its node, as long as no node starts again and
the database answers. -/
theorem active_job_in_hand (labels : List Label) (hok : ∀ l ∈ labels, l.lasting = true)
    (hrun : run step [] labels = some jobs) : ∀ j ∈ jobs, j.InHand :=
  jobs_invariant _ nofun inHand_of_moved hok hrun

def onTwoNodes : List Label :=
  [.insert, .insert, .fetchIdleJobs 0 [1] true, .send 1, .fetchIdleJobs 1 [0] true, .listen 1]

theorem onTwoNodes_in_hand : ∃ jobs, run step [] onTwoNodes = some jobs ∧ ∀ j ∈ jobs, j.InHand :=
  ⟨_, rfl, active_job_in_hand onTwoNodes (by decide) rfl⟩

/-! ## An idle job stays -/

/-- An idle job has no node yet and is not stopped, so that nobody moves it to the log. -/
def Job.Stays (j : Job) : Prop :=
  ∀ r, j.row = some r → r.state = .idle → r.nodeId = none ∧ r.stopped = false

theorem stays_of_moved (h : j.Stays) (hm : Moved l j j') : j'.Stays := by
  intro r hr hidle
  cases hm with
  | same | sent | listened => exact h r hr hidle
  | archived => cases hr
  | fetched =>
    obtain ⟨r₀, -, rfl⟩ := Option.map_eq_some_iff.mp hr
    cases hidle
  | @settled _ _ failed stored =>
    cases stored with
    | false => exact h r hr hidle
    | true =>
      obtain ⟨r₀, -, rfl⟩ := Option.map_eq_some_iff.mp hr
      cases failed <;> cases hidle
  | cleaned =>
    obtain ⟨r₀, hr₀, rfl⟩ := Option.map_eq_some_iff.mp hr
    split at hidle
    · rename_i hnode
      rw [(h r₀ hr₀ hidle).1, Bool.and_eq_true_iff] at hnode
      cases hnode.2
    · rename_i hnode
      rw [if_neg hnode]
      exact h r₀ hr₀ hidle

/-- **An idle job is there until a node takes it**, whichever nodes start again meanwhile. -/
theorem idle_job_stays (labels : List Label) (hrun : run step [] labels = some jobs) :
    ∀ j ∈ jobs, j.Stays := by
  refine jobs_invariant (fun _ => True) ?_ (fun h _ hm => stays_of_moved h hm)
    (fun _ _ => trivial) hrun
  rintro r ⟨⟩ -
  exact ⟨rfl, rfl⟩

theorem startsTwice_stays :
    ∃ jobs, run step [] [.insert, .start 0 true, .start 0 true] = some jobs ∧ ∀ j ∈ jobs, j.Stays :=
  ⟨_, rfl, idle_job_stays [.insert, .start 0 true, .start 0 true] rfl⟩

end CallCenter.Trigger
