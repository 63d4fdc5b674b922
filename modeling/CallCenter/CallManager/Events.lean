import CallCenter.CallManager.CallWorld

/-!
# Call events, from the message to the handler

An event of a call arrives as a `CallActionData`: its name, and a text with the rest, which may be
missing. `GetEvent` makes an action of it and `handleCallAction` runs the handler of the action. A
handler that reads through a nil pointer takes the process down.

What a handler may find nil are the timer and the request of the call. A call that joined a queue
has no request (`joinedCall`), and a call without a request never has a timer (`Timed`), so only
`setRinging`, which asks for the request when there is no timer, can fail.
-/

namespace CallCenter.CallManager

open Lib

/-! ## Decoding -/

/-- The members of the text that some action has a field for. A text that is not what it should be
counts as the members that were read before the error. -/
structure ActionFields where
  timestamp : Option Int
  bridgedId : Option String
  result : Option String
  cause : Option String
  aiResult : Option String
  aiError : Option String
  sip : Option Int
  reportingAt : Option Int
  transferTo : Option String
  transferFrom : Option String
  transferToAgent : Option Int
  transferFromAttempt : Option Int
  transferToAttempt : Option Int

inductive ActionText where
  | null
  | object (fields : ActionFields)

structure CallActionData where
  event : String
  timestamp : Int
  data : Option ActionText

def noFields : ActionFields :=
  ⟨none, none, none, none, none, none, none, none, none, none, none, none, none⟩

def CallActionData.withFields (data : CallActionData) (f : ActionFields) : Option CallEvent :=
  let timestamp := f.timestamp.getD data.timestamp
  if data.event = "ringing" then some (.ringing timestamp)
  else if data.event = "progress" then some (.progress timestamp)
  else if data.event = "active" then some (.active timestamp)
  else if data.event = "hold" then some .hold
  else if data.event = "bridge" then some (.bridge timestamp (f.bridgedId.getD ""))
  else if data.event = "amd" then
    some (.amd ⟨f.result.getD "", f.cause.getD "", f.aiResult.getD "", f.aiError.getD ""⟩)
  else if data.event = "hangup" then
    some (.hangup
      { timestamp := timestamp
        cause := f.cause.getD ""
        sipCode := f.sip
        reportingAt := f.reportingAt
        transferTo := f.transferTo
        transferFrom := f.transferFrom
        transferToAgent := f.transferToAgent
        transferFromAttempt := f.transferFromAttempt
        transferToAttempt := f.transferToAttempt })
  else none

/-- `none` is an action that `handleCallAction` has no handler for: one of another name, or a nil
one, which is what the text `null` makes of any action. -/
def CallActionData.getEvent (data : CallActionData) : Option CallEvent :=
  match data.data with
  | none => data.withFields noFields
  | some .null => none
  | some (.object f) => data.withFields f

inductive ManagerLabel where
  | action (data : CallActionData)
  | other (l : Label)

/-- `Start` gives the action a goroutine; one without a handler is logged. -/
def managerStep (w : World) : ManagerLabel → Option World
  | .action data =>
    match data.getEvent with
    | some e => step w (.event e)
    | none => if w.crashed then none else some w
  | .other l => step w l

/-! ## The request and the timer -/

/-- Only a call that was dialled from here has a ring timer. -/
def Timed (c : CallImpl) : Prop := c.callRequest = none → c.ringTimeout = .unset

def Pc.setsRinging : Pc → Bool
  | .handle (.ringing _) => true
  | _ => false

theorem setRinging_eq_none_iff {c : CallImpl} {t : Int} :
    c.setRinging t = none ↔ c.ringTimeout = .unset ∧ c.callRequest = none := by
  grind [CallImpl.setRinging, Option.map_eq_none_iff]

theorem setProgress_ne_none {c : CallImpl} (hc : Timed c) (t : Int) : c.setProgress t ≠ none := by
  intro hnone
  unfold CallImpl.setProgress at hnone
  by_cases hfirst : c.progressAt = 0 ∧ c.ringTimeout ≠ .unset
  · rw [if_pos hfirst, Option.map_eq_none_iff] at hnone
    exact hfirst.2 (hc hnone)
  · rw [if_neg hfirst] at hnone
    cases hnone

theorem Timer.stop_unset_iff {t : Timer} : t.stop = .unset ↔ t = .unset := by
  cases t <;> simp [stop]

section Move

variable {c : CallImpl} {cached : Bool} {pc : Pc} {r : Reply} {m : Move}

theorem move_callRequest (h : move c cached pc r = some m) :
    m.call.callRequest = c.callRequest := by
  cases move_cases h with
  | ringing t c' hc =>
    obtain ⟨heq, -⟩ := CallImpl.setRinging_spec hc
    rw [heq]
  | progress t c' hc =>
    obtain ⟨heq, -⟩ := CallImpl.setProgress_spec hc
    rw [heq]
  | _ => rfl

theorem timed_move (hc : Timed c) (h : move c cached pc r = some m) : Timed m.call := by
  intro hnone
  rw [move_callRequest h] at hnone
  have hunset := hc hnone
  cases move_cases h with
  | ringing t c' hc' =>
    rcases (CallImpl.setRinging_spec hc').2 with hsame | ⟨-, hreq⟩
    · exact hsame.trans hunset
    · simp [hnone] at hreq
  | progress t c' hc' =>
    rcases (CallImpl.setProgress_spec hc').2 with hsame | ⟨-, -, hreq⟩
    · exact hsame.trans hunset
    · simp [hnone] at hreq
  | active t => exact Timer.stop_unset_iff.mpr hunset
  | bridge t id => exact Timer.stop_unset_iff.mpr hunset
  | hangup e hat => exact Timer.stop_unset_iff.mpr hunset
  | _ => exact hunset

theorem move_crashed_iff (hc : Timed c) (h : move c cached pc r = some m) :
    m.crashed = true ↔ pc.setsRinging = true ∧ c.callRequest = none := by
  cases move_cases h with
  | ringing t c' hc' =>
    have hsome : ¬(c.ringTimeout = .unset ∧ c.callRequest = none) := by
      rw [← setRinging_eq_none_iff, hc']
      exact nofun
    refine ⟨nofun, ?_⟩
    rintro ⟨-, hnone⟩
    exact absurd ⟨hc hnone, hnone⟩ hsome
  | ringingNil t hnone => exact ⟨fun _ => ⟨rfl, (setRinging_eq_none_iff.mp hnone).2⟩, fun _ => rfl⟩
  | progressNil t hnone => exact absurd hnone (setProgress_ne_none hc t)
  | _ => exact ⟨nofun, fun h => nomatch h.1⟩

end Move

/-! ## Runs -/

/-- A ringing event is handled for a call with a request only. -/
def RingsOwnCall (w : World) : ManagerLabel → Prop
  | .other (.advance i _) => ∀ pc ∈ w.threads[i]?,
    pc.setsRinging = true → w.call.callRequest.isSome = true
  | _ => True

instance (w : World) (l : ManagerLabel) : Decidable (RingsOwnCall w l) := by
  unfold RingsOwnCall
  split <;> infer_instance

theorem timed_start (o : Origin) : Timed (start o).call := by
  intro hnone
  cases o with
  | newCall timeout => cases hnone
  | joined outbound answeredAt createdAt => rfl

variable {w w' : World}

theorem timed_step {l : Label} (hw : Timed w.call) (h : step w l = some w') :
    Timed w'.call := by
  rcases step_cases h with hout | ⟨i, r, pc, m, -, -, hm, rfl⟩
  · cases hout with
    | fire harmed =>
      intro hnone
      have hunset := hw hnone
      rw [harmed] at hunset
      cases hunset
    | _ => exact hw
  · exact timed_move hw hm

theorem not_crashed_of_step {l : Label} (h : step w l = some w') :
    w.crashed = false := by
  unfold step at h
  by_cases hc : w.crashed = true
  · rw [if_pos hc] at h
    cases h
  · exact Bool.eq_false_iff.mpr hc

variable {l : ManagerLabel}

theorem managerStep_cases (h : managerStep w l = some w') :
    (∃ l', step w l' = some w' ∧ (RingsOwnCall w l ↔ RingsOwnCall w (.other l')))
      ∨ (w' = w ∧ w.crashed = false ∧ RingsOwnCall w l) := by
  cases l with
  | action data =>
    simp only [managerStep] at h
    cases he : data.getEvent with
    | some e =>
      rw [he] at h
      exact .inl ⟨.event e, h, Iff.rfl⟩
    | none =>
      rw [he] at h
      by_cases hc : w.crashed = true
      · simp [hc] at h
      · simp only [hc] at h
        exact .inr ⟨(Option.some.inj h).symm, Bool.eq_false_iff.mpr hc, trivial⟩
  | other l => exact .inl ⟨l, h, Iff.rfl⟩

theorem timed_managerStep (hw : Timed w.call) (h : managerStep w l = some w') : Timed w'.call := by
  rcases managerStep_cases h with ⟨l', hstep, -⟩ | ⟨rfl, -, -⟩
  · exact timed_step hw hstep
  · exact hw

theorem crashed_step_iff (hw : Timed w.call) (h : managerStep w l = some w') :
    w'.crashed = false ↔ RingsOwnCall w l := by
  rcases managerStep_cases h with ⟨l', hstep, hiff⟩ | ⟨rfl, hc, hok⟩
  · rw [hiff]
    have hbefore := not_crashed_of_step hstep
    rcases step_cases hstep with hout | ⟨i, r, pc, m, rfl, hpc, hm, rfl⟩
    · cases hout <;> exact ⟨fun _ => trivial, fun _ => hbefore⟩
    · have hcrash := move_crashed_iff hw hm
      show m.crashed = false ↔ ∀ pc ∈ w.threads[i]?, _
      rw [hpc, Bool.eq_false_iff, Ne, hcrash]
      simp [Option.isSome_iff_ne_none]
  · exact ⟨fun _ => hok, fun _ => hc⟩

theorem not_crashed_of_managerStep (h : managerStep w l = some w') : w.crashed = false := by
  rcases managerStep_cases h with ⟨l', hstep, -⟩ | ⟨-, hc, -⟩
  · exact not_crashed_of_step hstep
  · exact hc

theorem not_crashed_start (o : Origin) : (start o).crashed = false := by
  cases o <;> rfl

/-- **The manager survives the events of a call**, whatever they lack and in whatever order their
handlers run, just if no ringing event is handled for a call that was not dialled from here. -/
theorem survives_events_iff (o : Origin) {labels : List ManagerLabel} {w : World}
    (hrun : run managerStep (start o) labels = some w) :
    w.crashed = false ↔ Along managerStep RingsOwnCall (start o) labels := by
  constructor
  · intro halive
    have hend : ¬w.crashed = true := Bool.eq_false_iff.mp halive
    refine along_of_not_stuck (fun w => Timed w.call) (fun w => w.crashed = true) ?_ ?_ ?_ labels
      (timed_start o) hrun hend
    all_goals grind [crashed_step_iff, not_crashed_of_managerStep, timed_managerStep]
  · intro halong
    have hkeep : ∀ w l w', Timed w.call ∧ w.crashed = false → RingsOwnCall w l →
        managerStep w l = some w' → Timed w'.call ∧ w'.crashed = false := by
      intro w l w' hw hok hstep
      exact ⟨timed_managerStep hw.1 hstep, (crashed_step_iff hw.1 hstep).mpr hok⟩
    exact (run_invariant hkeep labels ⟨timed_start o, not_crashed_start o⟩ halong hrun).2

def bare (event : String) : CallActionData := ⟨event, 0, none⟩

def handled (data : CallActionData) (i n : Nat) : List ManagerLabel :=
  .action data :: (steps i n true).map .other

/-- A call is dialled by threads 0 and 1, and its events come without any data. -/
def bareEvents : List ManagerLabel :=
  .other .invite :: (steps 0 2 true ++ steps 1 2 true).map .other
    ++ handled (bare "ringing") 2 4 ++ handled (bare "progress") 3 2
    ++ handled (bare "active") 4 5 ++ handled (bare "bridge") 5 4
    ++ handled (bare "dtmf") 6 0 ++ handled ⟨"ringing", 0, some .null⟩ 6 0
    ++ handled (bare "hangup") 6 4

theorem survives_bareEvents :
    ∃ w, run managerStep (start (.newCall 30)) bareEvents = some w ∧ w.call.hangup.isSome = true
      ∧ w.crashed = false := by
  obtain ⟨w, hrun⟩ := Option.isSome_iff_exists.mp
    (rfl : (run managerStep (start (.newCall 30)) bareEvents).isSome = true)
  have hdone : (run managerStep (start (.newCall 30)) bareEvents).map
      (fun w => w.call.hangup.isSome) = some true := rfl
  rw [hrun, Option.map_some, Option.some.injEq] at hdone
  exact ⟨w, hrun, hdone, (survives_events_iff (.newCall 30) hrun).mpr (by decide)⟩

/-- A call has joined a queue, and the switch reports that it rings. -/
theorem ringing_joined_crashes :
    (run managerStep (start (.joined false 1000 500)) (handled (bare "ringing") 0 2)).map
      (·.crashed) = some true :=
  rfl

end CallCenter.CallManager
