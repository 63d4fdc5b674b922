import CallCenter.Lib.CachedLookup

/-!
# The processing form of an attempt

When an agent has answered, `BaseQueue.StartProcessingForm` starts a goroutine that marks the
attempt, asks the flow for a form, stores it and attaches it. What the agent does with
the form comes as calls of `AttemptProcessingActionForm` and `AttemptProcessingActionComponent`;
overlapping calls with equal keys share one execution.
-/

namespace CallCenter.Queue

open Lib

/-! ## Starting the form -/

inductive FormStarter where
  | spawned
  | marked
  | created (form : Nat)
  | done
  deriving DecidableEq

/-- It has not asked for its form yet. -/
def FormStarter.pending : FormStarter → Bool
  | spawned | marked => true
  | _ => false

structure FormQueue where
  formSchemaId : Option Int
  processing : Bool

structure FormWorld where
  started : Bool
  attached : Option Nat
  starters : List FormStarter
  /-- How many forms the flow has made, and those that were closed. -/
  forms : Nat
  closed : List Nat

inductive FormLabel where
  | answered
  | bridged (processTransfer : Bool)
  | mark (i : Nat)
  | newProcessing (i : Nat) (ok : Bool)
  | storeForm (i : Nat) (ok : Bool)
  | close

def FormWorld.start : FormWorld := ⟨false, none, [], 0, []⟩

/-- `BaseQueue.StartProcessingForm` finds that it has to start the form. -/
def FormQueue.starts (q : FormQueue) (w : FormWorld) : Bool :=
  q.formSchemaId.isSome && q.processing && !w.started

def startProcessingForm (q : FormQueue) (w : FormWorld) : FormWorld :=
  if q.starts w then { w with starters := w.starters ++ [.spawned] } else w

def FormWorld.goto (w : FormWorld) (i : Nat) (pc : FormStarter) : FormWorld :=
  { w with starters := w.starters.set i pc }

def formStep (q : FormQueue) (w : FormWorld) : FormLabel → Option FormWorld
  | .answered => some (startProcessingForm q w)
  | .bridged processTransfer => some (if processTransfer then w else startProcessingForm q w)
  | .mark i =>
    match w.starters[i]? with
    | some .spawned =>
      if q.formSchemaId = some 0 then some (w.goto i .done)
      else some { w.goto i .marked with started := true }
    | _ => none
  | .newProcessing i ok =>
    match w.starters[i]? with
    | some .marked =>
      if ok then some { w.goto i (.created w.forms) with forms := w.forms + 1 }
      else some (w.goto i .done)
    | _ => none
  | .storeForm i ok =>
    match w.starters[i]? with
    | some (.created form) =>
      -- A form that cannot be stored is left to itself.
      if ok then some { w.goto i .done with attached := some form } else some (w.goto i .done)
    | _ => none
  | .close => some { w with closed := w.attached.toList ++ w.closed }

/-- The forms that were made and not closed. -/
def FormWorld.active (w : FormWorld) : List Nat := (List.range w.forms).filter (· ∉ w.closed)

/-- At most one form is active, and each is attached or closed, unless its goroutine is still about
to attach it. -/
def OneForm (w : FormWorld) : Prop :=
  w.active.length ≤ 1 ∧
    ∀ form < w.forms, w.attached = some form ∨ form ∈ w.closed ∨ .created form ∈ w.starters

/-- The attempt is asked whether its form was started only when no goroutine is about to mark it,
and forms are stored. -/
def marksFirst (q : FormQueue) (w : FormWorld) : FormLabel → Bool
  | .answered | .bridged false => !q.starts w || w.starters.all (· != .spawned)
  | .storeForm _ ok => ok
  | _ => true

/-- A form is created at most once, and is not lost. -/
structure FormInv (w : FormWorld) : Prop where
  /-- There is one form, or one goroutine on the way to it. -/
  one : w.forms + w.starters.countP (·.pending) ≤ 1
  /-- The attempt is marked before the flow is asked. -/
  unmarked : w.started = false → w.forms = 0 ∧ .marked ∉ w.starters
  created : ∀ form, .created form ∈ w.starters → form < w.forms
  /-- A form is attached, or some goroutine still has it. -/
  kept : ∀ form < w.forms, w.attached = some form ∨ .created form ∈ w.starters

variable {w w' : FormWorld}

theorem FormInv.oneForm (h : FormInv w) : OneForm w := by
  refine ⟨?_, fun form hform => (h.kept form hform).imp_right .inr⟩
  have hle : w.active.length ≤ (List.range w.forms).length := List.length_filter_le _ _
  have hone := h.one
  rw [List.length_range] at hle
  omega

theorem formInv_start {q : FormQueue} (h : FormInv w)
    (hok : (!q.starts w || w.starters.all (· != .spawned)) = true) :
    FormInv (startProcessingForm q w) := by
  unfold startProcessingForm
  split
  · rename_i hstarts
    have hunstarted : w.started = false := by
      simp only [FormQueue.starts, Bool.and_eq_true, Bool.not_eq_true'] at hstarts
      exact hstarts.2
    obtain ⟨hnone, hmarked⟩ := h.unmarked hunstarted
    rw [hstarts, Bool.not_true, Bool.false_or, List.all_eq_true] at hok
    -- Nobody is on the way to a form: none is marked, and none is about to mark.
    have hpending : w.starters.countP (·.pending) = 0 := by
      rw [List.countP_eq_zero]
      intro pc hpc hp
      cases pc with
      | spawned => exact absurd (hok _ hpc) (by decide)
      | marked => exact hmarked hpc
      | created _ | done => cases hp
    refine ⟨?_, fun _ => ⟨hnone, ?_⟩, fun form hform => ?_, fun form hform => ?_⟩
    · rw [List.countP_append, hpending, hnone]
      decide
    · simpa using hmarked
    · exact h.created form (by simpa using hform)
    · exact absurd hform (by rw [hnone]; exact Nat.not_lt_zero form)
  · exact h

theorem goto_pool {i : Nat} {old : FormStarter} (hi : w.starters[i]? = some old)
    (pc : FormStarter) : ∃ rest : List FormStarter,
      (∀ z, z ∈ w.starters ↔ z = old ∨ z ∈ rest) ∧
      (∀ z, z ∈ (w.goto i pc).starters ↔ z = pc ∨ z ∈ rest) ∧
      w.starters.countP (·.pending) = rest.countP (·.pending) + (if old.pending then 1 else 0) ∧
      (w.goto i pc).starters.countP (·.pending)
        = rest.countP (·.pending) + (if pc.pending then 1 else 0) := by
  obtain ⟨hlt, -⟩ := List.getElem?_eq_some_iff.mp hi
  have hset := List.set_perm_cons_eraseIdx hlt pc
  refine ⟨w.starters.eraseIdx i, fun z => mem_pool hi, fun z => ?_, countP_pool _ hi, ?_⟩
  · exact hset.mem_iff.trans List.mem_cons
  · exact (hset.countP_eq _).trans List.countP_cons

/-- One goroutine goes on, from `old` to `pc`. -/
theorem FormInv.goto {i : Nat} {old pc : FormStarter} (h : FormInv w)
    (hi : w.starters[i]? = some old) {started : Bool} {attached : Option Nat} {forms : Nat}
    (hone : forms + (if pc.pending then 1 else 0) ≤ w.forms + (if old.pending then 1 else 0))
    (hunmarked : started = false → w.started = false ∧ forms = w.forms ∧ pc ≠ .marked)
    (hforms : w.forms ≤ forms) (hcreated : ∀ form, pc = .created form → form < forms)
    (hkept : ∀ form < forms, attached = some form ∨ pc = .created form
      ∨ form < w.forms ∧ attached = w.attached ∧ old ≠ .created form) :
    FormInv { w.goto i pc with started, attached, forms } := by
  obtain ⟨rest, hold, hnew, hcold, hcnew⟩ := goto_pool hi pc
  refine ⟨?_, fun hs => ?_, fun form hform => ?_, fun form hform => ?_⟩
  · have hcount := h.one
    rw [hcold] at hcount
    show forms + (w.goto i pc).starters.countP (·.pending) ≤ 1
    rw [hcnew]
    omega
  · obtain ⟨hs, heq, hpc⟩ := hunmarked hs
    refine ⟨heq.trans (h.unmarked hs).1, fun hmarked => ?_⟩
    rcases (hnew _).mp hmarked with hmarked | hmarked
    · exact hpc hmarked.symm
    · exact (h.unmarked hs).2 ((hold _).mpr (.inr hmarked))
  · rcases (hnew _).mp hform with hform | hform
    · exact hcreated form hform.symm
    · exact Nat.lt_of_lt_of_le (h.created form ((hold _).mpr (.inr hform))) hforms
  · rcases hkept form hform with hattached | hpc | ⟨hbefore, hattached, hne⟩
    · exact .inl hattached
    · exact .inr ((hnew _).mpr (.inl hpc.symm))
    · refine (h.kept form hbefore).imp hattached.trans fun hmem => (hnew _).mpr (.inr ?_)
      exact ((hold _).mp hmem).resolve_left fun heq => hne heq.symm

theorem formInv_step {q : FormQueue} {l : FormLabel} (h : FormInv w)
    (hok : marksFirst q w l = true) (hstep : formStep q w l = some w') : FormInv w' := by
  cases l with
  | answered =>
    cases hstep
    exact formInv_start h hok
  | bridged processTransfer =>
    cases hstep
    cases processTransfer with
    | true => exact h
    | false => exact formInv_start h hok
  | mark i =>
    simp only [formStep] at hstep
    split at hstep
    · rename_i hi
      split at hstep
      · cases hstep
        exact h.goto hi (Nat.le_succ _) (fun hs => ⟨hs, rfl, nofun⟩) (Nat.le_refl _) nofun
          fun form hform => .inr (.inr ⟨hform, rfl, nofun⟩)
      · cases hstep
        exact h.goto hi (Nat.le_refl _) nofun (Nat.le_refl _) nofun
          fun form hform => .inr (.inr ⟨hform, rfl, nofun⟩)
    · cases hstep
  | newProcessing i ok =>
    simp only [formStep] at hstep
    split at hstep
    · rename_i hi
      have hmarked : w.started = false → False := fun hs =>
        (h.unmarked hs).2 (List.mem_of_getElem? hi)
      split at hstep
      · cases hstep
        refine h.goto hi (Nat.le_refl _) (fun hs => (hmarked hs).elim) (Nat.le_succ _)
          (fun form hform => ?_) fun form hform => ?_
        · cases hform
          exact Nat.lt_succ_self _
        · rcases Nat.lt_succ_iff_lt_or_eq.mp hform with hbefore | rfl
          · exact .inr (.inr ⟨hbefore, rfl, nofun⟩)
          · exact .inr (.inl rfl)
      · cases hstep
        exact h.goto hi (Nat.le_succ _) (fun hs => (hmarked hs).elim) (Nat.le_refl _) nofun
          fun form hform => .inr (.inr ⟨hform, rfl, nofun⟩)
    · cases hstep
  | storeForm i ok =>
    simp only [formStep] at hstep
    split at hstep
    · rename_i form hi
      rw [if_pos (show ok = true from hok)] at hstep
      cases hstep
      have hmade := h.created form (List.mem_of_getElem? hi)
      -- The goroutine has the only form there is.
      refine h.goto hi (Nat.le_refl _) (fun hs => ⟨hs, rfl, nofun⟩) (Nat.le_refl _) nofun
        fun other hother => .inl (congrArg some ?_)
      have hone := h.one
      have hother : other < w.forms := hother
      omega
    · cases hstep
  | close =>
    cases hstep
    exact ⟨h.one, h.unmarked, h.created, h.kept⟩

/-- In every interleaving in which an attempt is marked before it is asked again, and its forms are
stored, it has at most one form. -/
theorem one_form_per_attempt (q : FormQueue) (labels : List FormLabel) (w : FormWorld)
    (hrun : run (formStep q) .start labels = some w)
    (halong : Along (formStep q) (fun w l => marksFirst q w l = true) .start labels) :
    OneForm w := by
  have hstart : FormInv .start := ⟨by decide, fun _ => ⟨rfl, nofun⟩, nofun, nofun⟩
  exact (run_invariant (fun _ _ _ => formInv_step) labels hstart halong hrun).oneForm

def surveyQueue : FormQueue := ⟨some 7, true⟩

/-- The form is attached when the call is bridged, and closed with the attempt. -/
def formInTime : List FormLabel :=
  [.answered, .mark 0, .newProcessing 0 true, .storeForm 0 true, .bridged false, .close]

theorem form_in_time_once :
    ∃ w, run (formStep surveyQueue) .start formInTime = some w ∧ OneForm w :=
  ⟨_, rfl, one_form_per_attempt surveyQueue formInTime _ rfl (by decide)⟩

/-- The call is bridged before the goroutine of the answer has marked the attempt. -/
def bridgedBeforeMarked : List FormLabel :=
  [.answered, .bridged false, .mark 0, .newProcessing 0 true, .storeForm 0 true, .mark 1,
    .newProcessing 1 true, .storeForm 1 true]

theorem bridged_before_marked_twice :
    run (formStep surveyQueue) .start bridgedBeforeMarked
        = some ⟨true, some 1, [.done, .done], 2, []⟩ ∧
      ¬OneForm ⟨true, some 1, [.done, .done], 2, []⟩ :=
  ⟨rfl, fun h => absurd h.1 (by decide)⟩

/-! ## Acting on the form -/

section Actions

open Lookup

/-- A call of `AttemptProcessingActionForm` or `AttemptProcessingActionComponent`, with all that is
passed to the form. -/
inductive FormAction where
  | form (attemptId : Int) (action : String) (fields : List (String × String))
  | component (attemptId : Int) (formId component action : String) (vars : List (String × String))
    (sync : Bool)
  deriving DecidableEq

def FormAction.key : FormAction → Bool × Int
  | form attemptId _ _ => (false, attemptId)
  | component attemptId _ _ _ _ _ => (true, attemptId)

/-- `formActionGroupRequest`. What a flight asks for is that the form takes the action of the call
that has begun it; it fails when the event about the form cannot be sent. -/
def formActionGroup : Policy FormAction Unit (Bool × Int) where
  key := FormAction.key
  fresh _ _ := false
  rechecks := false
  writer := .nobody
  builds := false
  locked := false

abbrev ActionWorld := World FormAction Unit (Bool × Int)

/-- How often the action of this very call has been passed to the form. -/
def timesPassed (w : ActionWorld) (call : Call FormAction Unit) : Nat :=
  w.loads.countP fun f => w.tickets[f]?.any fun t => t.leader == call.id && t.ask == call.ask

/-- Every call that has returned nil has had its action passed exactly once. -/
def PassedOnce (w : ActionWorld) : Prop :=
  ∀ call ∈ w.calls, ∀ o, call.phase = .returned (some o) → timesPassed w call = 1

def entersAlone (w : ActionWorld) : Label FormAction Unit (Bool × Int) → Bool
  | .enter c => w.calls[c]?.all fun call => (w.current call.ask.key).isNone
  | _ => true

theorem serves_of_entersAlone (w : ActionWorld) (l : Label FormAction Unit (Bool × Int))
    (h : entersAlone w l = true) :
    Serves formActionGroup w (fun q t _ => t.leader = q.id ∧ t.ask = q.ask) l := by
  cases l with
  | enter c =>
    intro call hc
    have halone := Option.isNone_iff_eq_none.mp ((Option.all_eq_true _ _).mp h call hc)
    rw [show w.current (formActionGroup.key call.ask) = none from halone]
    exact ⟨rfl, rfl⟩
  | _ => trivial

/-- In every interleaving in which calls with one key do not overlap, no action is swallowed. -/
theorem form_actions_passed_once (labels : List (Label FormAction Unit (Bool × Int)))
    (w : ActionWorld) (hrun : run (step formActionGroup) (.start ()) labels = some w)
    (halong : Along (step formActionGroup) (fun w l => entersAlone w l = true) (.start ()) labels) :
    PassedOnce w := by
  have hserved := served_run (stable_of_ticket _) serves_of_entersAlone halong hrun
  have hleads : LeadsOnce w := run_invariant (fun _ _ _ h _ hs => leadsOnce_step h hs) labels
    (leadsOnce_start ()) halong hrun
  intro call hcall o hphase
  obtain ⟨-, hhonest, hfresh | ⟨f, t, ht, ⟨hleader, hask⟩, hmade⟩⟩ :=
    hserved.returned hcall hphase
  · cases hfresh
  · obtain hflight | hfresh := hmade.2
    · refine hleads.countP_loads (hflight ▸ hhonest.2) ht ?_ fun t' ht' => ?_
      · rw [hleader, hask, beq_self_eq_true, beq_self_eq_true, Bool.and_self]
      · rw [hleader]
        exact eq_of_beq (Bool.and_eq_true_iff.mp ht').1
    · cases hfresh

def saveThenClose : List (Label FormAction Unit (Bool × Int)) :=
  [.start (.form 1 "save" []), .enter 0, .load 0 true, .finish 0, .take 0 true,
    .start (.form 1 "close" []), .enter 1, .load 1 true, .finish 1, .take 1 true]

theorem save_then_close_passed :
    ∃ w, run (step formActionGroup) (.start ()) saveThenClose = some w ∧ PassedOnce w := by
  have hrun : (run (step formActionGroup) (.start ()) saveThenClose).isSome = true := by decide
  obtain ⟨w, hw⟩ := Option.isSome_iff_exists.mp hrun
  exact ⟨w, hw, form_actions_passed_once saveThenClose w hw (by decide)⟩

def closeWhileSaving : List (Label FormAction Unit (Bool × Int)) :=
  [.start (.form 1 "save" []), .enter 0, .start (.form 1 "close" []), .enter 1, .load 0 true,
    .finish 0, .take 0 true, .take 1 true]

theorem close_while_saving_swallowed :
    ∃ w, run (step formActionGroup) (.start ()) closeWhileSaving = some w ∧ ¬PassedOnce w := by
  have hrun : (run (step formActionGroup) (.start ()) closeWhileSaving).map
      (fun w => (w.calls[1]?, w.tickets, w.loads))
      = some (some ⟨⟨1, .form 1 "close" [], [()], 0⟩, .returned (some ⟨0, (), 0⟩)⟩,
        [⟨0, .form 1 "save" [], (false, 1)⟩], [0]) := rfl
  obtain ⟨w, hw, hfields⟩ := Option.map_eq_some_iff.mp hrun
  obtain ⟨hcall, hfields⟩ := Prod.mk.inj hfields
  obtain ⟨htickets, hloads⟩ := Prod.mk.inj hfields
  refine ⟨w, hw, fun h => ?_⟩
  have hpassed := h _ (List.mem_of_getElem? hcall) _ rfl
  rw [timesPassed, hloads, htickets] at hpassed
  exact absurd hpassed (by decide)

end Actions

end CallCenter.Queue
