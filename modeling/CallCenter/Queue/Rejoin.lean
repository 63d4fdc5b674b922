import CallCenter.IM.Threads
import CallCenter.Lib.Table

/-!
# Rejoining a thread

A thread that comes to the queue again, while an agent is still in it, gets the attempt that it had:
`DistributeIMToQueue` looks for a session of the thread with an agent, then for the attempt whose id
the session has, and returns it.

The run of the attempt ends in another order. `finalizeAttempt` first writes what the attempt comes
to, and only then starts `cleanupSession`, whose last act is to take the session away. Nothing of
this is asked by `DistributeIMToQueue`, so it returns a live attempt only if the run is still in its
loop (`RunPc.running`) from the time the attempt is looked up until it is returned.
-/

namespace CallCenter.Queue.Rejoin

open Lib IM

inductive RunPc where
  /-- In the loops that wait for an agent and for the end of the conversation. -/
  | running
  | finalizing
  | disposing
  | cleaning
  | closed
  deriving DecidableEq

structure IMRun where
  id : Int
  threadId : String
  pc : RunPc
  tracked : Bool
  canceled : Bool
  resulted : Bool
  /-- The missed agent, the report to come or the abandoned member has been written. -/
  disposed : Bool
  reported : Bool

def newRun (id : Int) (threadId : String) : IMRun where
  id := id
  threadId := threadId
  pc := .running
  tracked := true
  canceled := false
  resulted := false
  disposed := false
  reported := false

inductive JoinPc where
  | start (threadId : String)
  | session (threadId : String) (a : Nat)
  | attempt (id : Int) (a : Nat)
  /-- Before `return attempt, true, nil`. -/
  | rejoined (id : Int)
  | creating (threadId : String)
  | returned (id : Int) (joined : Bool)
  | failed

structure RejoinWorld where
  client : Client
  runs : Table IMRun.id
  joins : List JoinPc

def rejoinWorld : RejoinWorld := ⟨newClient, .empty, []⟩

inductive RejoinLabel where
  | setAgent (a : Nat) (memberId userId : String)
  | markUserJoined (a : Nat) (userId : String)
  /-- The event loop of the client receives a message, and hands it to a session. -/
  | receive (msg : IMMessage)
  | handle (now : Int)
  | contextDone (a : Nat)
  | cancel (id : Int)
  | finalize (id : Int)
  | setResult (id : Int) (transferred : Bool)
  | dispose (id : Int)
  | report (id : Int)
  | leave (id : Int)
  | close (id : Int)
  | call (threadId : String)
  | join (i : Nat) (now : Int)
  | create (i : Nat) (id : Int) (subMember memberId : String) (now : Int)
  | createFails (i : Nat)

namespace RejoinWorld

def getAttempt (w : RejoinWorld) (id : Int) : Option IMRun :=
  (w.runs.get? id).filter IMRun.tracked

def attemptOf (w : RejoinWorld) (a : Nat) : Option IMRun :=
  w.client.sessions[a]?.bind fun s => w.getAttempt s.tagId

def onRun (w : RejoinWorld) (id : Int) (p : IMRun → Bool) (f : IMRun → IMRun)
    (h : ∀ r, (f r).id = r.id) : Option RejoinWorld :=
  if (w.runs.get? id).any p then
    some { w with runs := w.runs.update (fun r => r.id = id) f h }
  else none

def onClient (w : RejoinWorld) (l : ClientLabel) : Option RejoinWorld :=
  (clientStep w.client l).map fun c => { w with client := c }

def join (w : RejoinWorld) (i : Nat) (now : Int) : Option RejoinWorld :=
  match w.joins[i]? with
  | some (.start threadId) =>
    match w.client.bridgedSession threadId with
    | some a => some { w with joins := w.joins.set i (.session threadId a) }
    -- nobody has joined the thread: a new attempt
    | none => some { w with joins := w.joins.set i (.creating threadId) }
  | some (.session threadId a) =>
    match w.attemptOf a with
    | some r => some { w with joins := w.joins.set i (.attempt r.id a) }
    | none => some { w with joins := w.joins.set i (.creating threadId) }
  | some (.attempt id a) =>
    some { w with
      client := w.client.onSession a (·.setBotActive false now)
      joins := w.joins.set i (.rejoined id) }
  | some (.rejoined id) => some { w with joins := w.joins.set i (.returned id true) }
  | _ => none

def create (w : RejoinWorld) (i : Nat) (id : Int) (subMember memberId : String) (now : Int) :
    Option RejoinWorld :=
  match w.joins[i]? with
  | some (.creating threadId) =>
    (w.runs.insert? [newRun id threadId]).map fun runs =>
      { client := w.client.addSession (IM.newSession id threadId subMember memberId now)
        runs := runs
        joins := w.joins.set i (.returned id false) }
  | _ => none

def createFails (w : RejoinWorld) (i : Nat) : Option RejoinWorld :=
  match w.joins[i]? with
  | some (.creating _) => some { w with joins := w.joins.set i .failed }
  | _ => none

end RejoinWorld

def rejoinStep (w : RejoinWorld) : RejoinLabel → Option RejoinWorld
  | .setAgent a memberId userId => w.onClient (.setAgent a memberId userId)
  | .markUserJoined a userId => w.onClient (.markUserJoined a userId)
  | .receive msg => w.onClient (.receive msg)
  | .handle now => w.onClient (.handle now)
  | .contextDone a => w.onClient (.contextDone a)
  | .cancel id => w.onRun id (fun _ => true) (fun r => { r with canceled := true }) fun _ => rfl
  | .finalize id =>
    w.onRun id (fun r => r.pc = .running) (fun r => { r with pc := .finalizing }) fun _ => rfl
  | .setResult id transferred =>
    w.onRun id (fun r => r.pc = .finalizing)
      (fun r => { r with pc := .disposing, resulted := transferred }) fun _ => rfl
  | .dispose id =>
    w.onRun id (fun r => r.pc = .disposing)
      (fun r => { r with pc := .cleaning, disposed := true }) fun _ => rfl
  | .report id => w.onRun id IMRun.tracked (fun r => { r with reported := true }) fun _ => rfl
  -- `LeavingMember`, in `finalizeAttempt` or in a report
  | .leave id =>
    w.onRun id (fun r => r.pc = .cleaning || r.reported) (fun r => { r with tracked := false })
      fun _ => rfl
  | .close id =>
    (w.onRun id (fun r => r.pc = .cleaning) (fun r => { r with pc := .closed }) fun _ => rfl).map
      fun w => { w with
        client := (w.runs.get? id).elim w.client fun r => w.client.closeSession r.threadId id }
  | .call threadId => some { w with joins := w.joins ++ [.start threadId] }
  | .join i now => w.join i now
  | .create i id subMember memberId now => w.create i id subMember memberId now
  | .createFails i => w.createFails i

/-! ## Live attempts -/

def IMRun.Unfinished (r : IMRun) : Prop :=
  r.resulted = false ∧ r.disposed = false ∧ r.reported = false

/-- The attempt is tracked, not cancelled, and has not passed its finalisation. -/
def RejoinWorld.Live (w : RejoinWorld) (id : Int) : Prop :=
  ∃ r, w.getAttempt id = some r ∧ r.canceled = false ∧ r.Unfinished

/-- The run is in its loop, nobody has cancelled it and its agent has not reported. -/
def IMRun.inLoop (r : IMRun) : Bool := r.pc = .running && !r.canceled && !r.reported

def JoinPc.holds (id : Int) : JoinPc → Bool
  | .attempt id' _ | .rejoined id' => id' = id
  | _ => false

/-- An attempt is looked up while its run is in its loop, and the run stays there until the attempt
is returned. -/
def StaysInLoop (w : RejoinWorld) : RejoinLabel → Prop
  | .join i _ =>
    match w.joins[i]? with
    | some (.session _ a) => (w.attemptOf a).all IMRun.inLoop
    | _ => True
  | .cancel id | .finalize id | .report id => w.joins.all fun j => !j.holds id
  | _ => True

instance (w : RejoinWorld) (l : RejoinLabel) : Decidable (StaysInLoop w l) := by
  unfold StaysInLoop
  split
  · split <;> infer_instance
  all_goals infer_instance

/-! ## What a run writes, and when -/

/-- Nothing is written by a run that is still in its loop, and an attempt leaves only after
something has been written. -/
structure IMRun.Sound (r : IMRun) : Prop where
  resulted : r.pc = .running → r.resulted = false
  disposed : r.pc = .running → r.disposed = false
  cleaning : r.pc = .cleaning → r.disposed = true
  tracked : r.tracked = false → (r.disposed || r.reported) = true

theorem newRun_sound (id : Int) (threadId : String) : (newRun id threadId).Sound where
  resulted _ := rfl
  disposed _ := rfl
  cleaning h := by cases h
  tracked h := by cases h

theorem IMRun.inLoop_iff {r : IMRun} :
    r.inLoop = true ↔ r.pc = .running ∧ r.canceled = false ∧ r.reported = false := by
  simp [IMRun.inLoop, and_assoc]

theorem IMRun.Sound.unfinished {r : IMRun} (h : r.Sound) (hloop : r.inLoop = true) :
    r.tracked = true ∧ r.canceled = false ∧ r.Unfinished := by
  obtain ⟨hpc, hcanceled, hreported⟩ := IMRun.inLoop_iff.mp hloop
  refine ⟨?_, hcanceled, h.resulted hpc, h.disposed hpc, hreported⟩
  by_contra htracked
  have hwritten := h.tracked (Bool.not_eq_true _ ▸ htracked)
  rw [h.disposed hpc, hreported] at hwritten
  cases hwritten

/-- An attempt that a call holds is in its loop. -/
structure RejoinInv (w : RejoinWorld) : Prop where
  runs : ∀ id r, w.runs.get? id = some r → r.Sound
  joins : ∀ j ∈ w.joins, ∀ id, j.holds id = true →
    ∃ r, w.runs.get? id = some r ∧ r.inLoop = true

namespace RejoinInv

variable {w w' : RejoinWorld}

theorem init : RejoinInv rejoinWorld where
  runs _ _ h := by cases h
  joins _ h := by cases h

theorem live (h : RejoinInv w) {j : JoinPc} (hj : j ∈ w.joins) {id : Int}
    (hholds : j.holds id = true) : w.Live id := by
  obtain ⟨r, hr, hloop⟩ := h.joins j hj id hholds
  obtain ⟨htracked, hcanceled, hunfinished⟩ := (h.runs id r hr).unfinished hloop
  refine ⟨r, ?_, hcanceled, hunfinished⟩
  rw [RejoinWorld.getAttempt, hr, Option.filter_some, if_pos htracked]

theorem onRun (h : RejoinInv w) {id : Int} {p : IMRun → Bool} {f : IMRun → IMRun}
    {hid : ∀ r, (f r).id = r.id} (hs : w.onRun id p f hid = some w')
    (hsound : ∀ r, r.Sound → p r = true → (f r).Sound)
    (hfree : ∀ r, r.Sound → p r = true → r.inLoop = true →
      ∀ j ∈ w.joins, j.holds id = false) : RejoinInv w' := by
  obtain ⟨hp, rfl⟩ := of_guard hs
  obtain ⟨r, hr, hpr⟩ : ∃ r, w.runs.get? id = some r ∧ p r = true := by
    cases hr : w.runs.get? id with
    | none => rw [hr] at hp; cases hp
    | some r => rw [hr] at hp; exact ⟨r, rfl, hp⟩
  constructor
  · intro id' r' hr'
    by_cases hne : id' = id
    · grind [cases RejoinInv, Table.get?_update]
    · rw [Table.get?_update_of_ne hne] at hr'
      exact h.runs id' r' hr'
  · intro j hj id' hholds
    obtain ⟨r', hr', hloop⟩ := h.joins j hj id' hholds
    by_cases hne : id' = id
    · grind [cases RejoinInv]
    · exact ⟨r', (Table.get?_update_of_ne (h := hid) hne).trans hr', hloop⟩

theorem of_joins (h : RejoinInv w) {i : Nat} {j : JoinPc} {c : Client}
    (hj : ∀ id, j.holds id = true → ∃ r, w.runs.get? id = some r ∧ r.inLoop = true) :
    RejoinInv { w with client := c, joins := w.joins.set i j } where
  runs := h.runs
  joins j' hj' id hholds := by
    -- one of the calls that were there, or the one that has moved
    rcases List.mem_or_eq_of_mem_set hj' with hold | rfl
    · exact h.joins j' hold id hholds
    · exact hj id hholds

theorem onClient (h : RejoinInv w) {l : ClientLabel} (hs : w.onClient l = some w') :
    RejoinInv w' := by
  obtain ⟨c, -, rfl⟩ := Option.map_eq_some_iff.mp hs
  exact ⟨h.runs, h.joins⟩

theorem get?_of_attemptOf {a : Nat} {r : IMRun} (hr : w.attemptOf a = some r) :
    w.runs.get? r.id = some r := by
  obtain ⟨s, -, hr⟩ := Option.bind_eq_some_iff.mp hr
  have hget : w.runs.get? s.tagId = some r := (Option.filter_eq_some_iff.mp hr).1
  rw [(Table.get?_eq_some.mp hget).2]
  exact hget

theorem join (h : RejoinInv w) {i : Nat} {now : Int} (hok : StaysInLoop w (.join i now))
    (hs : w.join i now = some w') : RejoinInv w' := by
  unfold RejoinWorld.join at hs
  split at hs
  next =>
    split at hs <;> cases hs <;> exact h.of_joins fun _ hno => by cases hno
  next threadId a hi =>
    split at hs
    next r hr =>
      cases hs
      refine h.of_joins fun id hid => ?_
      obtain rfl : r.id = id := of_decide_eq_true hid
      have hloop : (w.attemptOf a).all IMRun.inLoop = true := by
        simpa only [StaysInLoop, hi] using hok
      rw [hr] at hloop
      exact ⟨r, get?_of_attemptOf hr, hloop⟩
    next =>
      cases hs
      exact h.of_joins fun _ hno => by cases hno
  next id a hi =>
    cases hs
    exact h.of_joins fun id' hid' => h.joins _ (List.mem_of_getElem? hi) id' hid'
  next id hi =>
    cases hs
    exact h.of_joins fun _ hno => by cases hno
  next => cases hs

theorem create (h : RejoinInv w) {i : Nat} {id : Int} {subMember memberId : String} {now : Int}
    (hs : w.create i id subMember memberId now = some w') : RejoinInv w' := by
  unfold RejoinWorld.create at hs
  split at hs
  next threadId hi =>
    obtain ⟨runs, hruns, rfl⟩ := Option.map_eq_some_iff.mp hs
    have hget : ∀ {id' r}, runs.get? id' = some r ↔
        w.runs.get? id' = some r ∨ r ∈ [newRun id threadId] ∧ r.id = id' :=
      Table.get?_insert? hruns
    constructor
    · intro id' r hr
      rcases hget.mp hr with hold | ⟨hnew, -⟩
      · exact h.runs id' r hold
      · rw [List.mem_singleton.mp hnew]
        exact newRun_sound id threadId
    · intro j hj id' hholds
      rcases List.mem_or_eq_of_mem_set hj with hold | rfl
      · obtain ⟨r, hr, hloop⟩ := h.joins j hold id' hholds
        exact ⟨r, hget.mpr (.inl hr), hloop⟩
      · cases hholds
  next => cases hs

theorem createFails (h : RejoinInv w) {i : Nat} (hs : w.createFails i = some w') :
    RejoinInv w' := by
  unfold RejoinWorld.createFails at hs
  split at hs
  next =>
    cases hs
    exact h.of_joins fun _ hno => by cases hno
  next => cases hs

theorem step (h : RejoinInv w) {l : RejoinLabel} (hok : StaysInLoop w l)
    (hs : rejoinStep w l = some w') : RejoinInv w' := by
  have hnobody : ∀ {id : Int}, (w.joins.all fun j => !j.holds id) = true →
      ∀ j ∈ w.joins, j.holds id = false := by
    intro id hall j hj
    exact Bool.not_eq_true' _ ▸ List.all_eq_true.mp hall j hj
  cases l with
  | setAgent a memberId userId => exact h.onClient hs
  | markUserJoined a userId => exact h.onClient hs
  | receive msg => exact h.onClient hs
  | handle now => exact h.onClient hs
  | contextDone a => exact h.onClient hs
  | cancel id =>
    exact h.onRun hs (fun r hr _ => ⟨hr.resulted, hr.disposed, hr.cleaning, hr.tracked⟩)
      fun _ _ _ _ => hnobody hok
  | finalize id =>
    exact h.onRun hs (fun r hr _ => ⟨nofun, nofun, nofun, hr.tracked⟩) fun _ _ _ _ => hnobody hok
  | setResult id transferred =>
    refine h.onRun hs (fun r hr _ => ⟨nofun, nofun, nofun, hr.tracked⟩) fun r _ hp hloop => ?_
    cases (of_decide_eq_true hp).symm.trans (IMRun.inLoop_iff.mp hloop).1
  | dispose id =>
    refine h.onRun hs (fun r hr _ => ⟨nofun, nofun, fun _ => rfl, fun _ => rfl⟩) ?_
    intro r _ hp hloop
    cases (of_decide_eq_true hp).symm.trans (IMRun.inLoop_iff.mp hloop).1
  | report id =>
    refine h.onRun hs (fun r hr _ => ?_) fun _ _ _ _ => hnobody hok
    exact ⟨hr.resulted, hr.disposed, hr.cleaning, fun _ => Bool.or_true _⟩
  | leave id =>
    refine h.onRun hs (fun r hr hp => ⟨hr.resulted, hr.disposed, hr.cleaning, fun _ => ?_⟩) ?_
    · -- an attempt leaves after a write
      exact Bool.or_eq_true_iff.mpr
        ((Bool.or_eq_true_iff.mp hp).imp_left fun hpc => hr.cleaning (of_decide_eq_true hpc))
    · intro r _ hp hloop
      obtain ⟨hpc, -, hreported⟩ := IMRun.inLoop_iff.mp hloop
      rw [hpc, hreported] at hp
      cases hp
  | close id =>
    obtain ⟨w₁, hs₁, rfl⟩ := Option.map_eq_some_iff.mp hs
    have h₁ : RejoinInv w₁ := by
      refine h.onRun hs₁ (fun r hr _ => ⟨nofun, nofun, nofun, hr.tracked⟩) fun r _ hp hloop => ?_
      cases (of_decide_eq_true hp).symm.trans (IMRun.inLoop_iff.mp hloop).1
    exact ⟨h₁.runs, h₁.joins⟩
  | call threadId =>
    cases hs
    refine ⟨h.runs, fun j hj id hholds => ?_⟩
    rcases List.mem_append.mp hj with hold | hnew
    · exact h.joins j hold id hholds
    · rw [List.mem_singleton.mp hnew] at hholds
      cases hholds
  | join i now => exact h.join hok hs
  | create i id subMember memberId now => exact h.create hs
  | createFails i => exact h.createFails hs

end RejoinInv

/-- **A rejoined attempt is live**, in every run whose lookups find their attempts in their loops
and that keeps them there until they are returned. -/
theorem rejoined_attempt_live {ls : List RejoinLabel} {w w' : RejoinWorld} {i : Nat} {id : Int}
    (now : Int) (hrun : run rejoinStep rejoinWorld ls = some w)
    (hloop : Along rejoinStep StaysInLoop rejoinWorld ls)
    (hreturns : w.joins[i]? = some (.rejoined id))
    (hstep : rejoinStep w (.join i now) = some w') :
    w'.joins[i]? = some (.returned id true) ∧ w'.Live id := by
  have hinv : RejoinInv w :=
    run_invariant (fun _ _ _ hinv hok hs => hinv.step hok hs) ls RejoinInv.init hloop hrun
  have hw' : w' = { w with joins := w.joins.set i (.returned id true) } := by
    simpa only [rejoinStep, RejoinWorld.join, hreturns, Option.some.injEq, eq_comm] using hstep
  have hi : i < w.joins.length := (List.getElem?_eq_some_iff.mp hreturns).1
  rw [hw']
  exact ⟨List.getElem?_set_self hi,
    hinv.live (List.mem_of_getElem? hreturns) (decide_eq_true rfl)⟩

def comesAgain : List RejoinLabel :=
  [.call "t", .join 0 1, .create 0 1 "client" "member" 2, .setAgent 0 "agent" "7", .call "t",
    .join 1 3, .join 1 4, .join 1 5]

theorem comesAgain_live :
    ∃ w w', run rejoinStep rejoinWorld comesAgain = some w
      ∧ rejoinStep w (.join 1 6) = some w' ∧ w'.joins[1]? = some (.returned 1 true)
      ∧ w'.Live 1 := by
  have hloop : Along rejoinStep StaysInLoop rejoinWorld comesAgain := by decide
  exact ⟨_, _, rfl, rfl, rejoined_attempt_live 6 rfl hloop rfl rfl⟩

/-- The run has written that it waits for the report, and its session is still there: the thread
gets the attempt that is over. -/
theorem rejoins_finished_attempt :
    ∃ w, run rejoinStep rejoinWorld
        [.call "t", .join 0 1, .create 0 1 "client" "member" 2, .setAgent 0 "agent" "7",
          .finalize 1, .setResult 1 false, .dispose 1, .call "t", .join 1 3, .join 1 4, .join 1 5,
          .join 1 6] = some w
      ∧ w.joins[1]? = some (.returned 1 true) ∧ ¬ w.Live 1 := by
  refine ⟨_, rfl, rfl, ?_⟩
  rintro ⟨r, hr, -, -, hdisposed, -⟩
  rw [← Option.some.inj hr] at hdisposed
  cases hdisposed

end CallCenter.Queue.Rejoin
