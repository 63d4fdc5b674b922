import CallCenter.CallManager.CallWorld

/-!
# The hangup cause as a test of life

The queues ask `HangupCause() == ""` to see whether a call is alive. The channel itself, `hangupCh`,
is closed by `setHangup`, which sets the hangup, and by a `Hangup` that finds the call not dialled
yet, which does not.

A cause comes from a hangup event, from the answer to a dial that failed, or from the caller of
`Hangup`, where an empty one is replaced. As long as the first two are not empty, and nobody closes
the channel of a call that was not dialled, cause and channel agree.
-/

namespace CallCenter.CallManager

open Queue (CallState)
open Lib

/-! ## Where a cause comes from -/

def Pc.causeless : Pc → Bool
  | .getCall (.hangup e) | .handle (.hangup e) => e.cause = ""
  | .hangupCall _ cause | .hangupFailed cause => cause = ""
  | _ => false

/-- A hangup event has a cause, a dial that fails has one, and `Hangup` does not close the channel
of a call that is still new. -/
def Caused (w : World) : Label → Prop
  | .event (.hangup e) => e.cause ≠ ""
  | .advance i r => ∀ pc ∈ w.threads[i]?,
    (pc = .dialing → r.ok = false → r.cause ≠ "") ∧ (pc = .closeNew → w.call.state ≠ .new)
  | _ => True

instance (w : World) : ∀ l, Decidable (Caused w l)
  | .event (.hangup e) => inferInstanceAs (Decidable (e.cause ≠ ""))
  | .advance i r => inferInstanceAs (Decidable (∀ pc ∈ w.threads[i]?,
      (pc = .dialing → r.ok = false → r.cause ≠ "") ∧ (pc = .closeNew → w.call.state ≠ .new)))
  | .event (.ringing _) | .event (.progress _) | .event (.active _) | .event (.bridge _ _)
  | .event .hold | .event (.amd _) | .hangup _ | .hangupMany _ | .invite | .fire | .evict
  | .receive => .isTrue trivial

section Move

variable {c : CallImpl} {cached : Bool} {pc : Pc} {r : Reply} {m : Move}

/-- What a move does to hangup and channel: nothing, or both at once. -/
theorem move_hangup_caused (h : move c cached pc r = some m) (hcause : pc.causeless = false)
    (hclose : pc = .closeNew → c.state ≠ .new) :
    (m.call.hangup = c.hangup ∧ m.call.hangupCh = c.hangupCh)
      ∨ ∃ e, m.call.hangup = some e ∧ e.cause ≠ "" ∧ m.call.hangupCh = c.hangupCh + 1 := by
  cases move_cases h with
  | ringing t c' hc =>
    obtain ⟨heq, -⟩ := CallImpl.setRinging_spec hc
    exact .inl (by rw [heq]; exact ⟨rfl, rfl⟩)
  | progress t c' hc =>
    obtain ⟨heq, -⟩ := CallImpl.setProgress_spec hc
    exact .inl (by rw [heq]; exact ⟨rfl, rfl⟩)
  | hangup e hat => exact .inr ⟨e, rfl, of_decide_eq_false hcause, rfl⟩
  | close hnew => exact absurd hnew (hclose rfl)
  | _ => exact .inl ⟨rfl, rfl⟩

/-- No move comes to a hangup without a cause by itself: `Hangup` fills in an empty one. -/
theorem move_causeless (h : move c cached pc r = some m) (hcause : pc.causeless = false)
    (hdial : pc = .dialing → r.ok = false → r.cause ≠ "") :
    m.pc.causeless = false ∧ ∀ z ∈ m.spawn, z.causeless = false := by
  cases move_cases h with
  | found e hcached =>
    refine ⟨?_, List.forall_mem_nil _⟩
    cases e with
    | hangup e => exact hcause
    | _ => rfl
  | request timer cause hstate =>
    refine ⟨decide_eq_false ?_, List.forall_mem_nil _⟩
    grind
  | hangupCallError timer cause hok => exact ⟨hcause, List.forall_mem_nil _⟩
  | hangupItself cause hnone => exact ⟨hcause, List.forall_mem_nil _⟩
  | dialError hok => exact ⟨decide_eq_false (hdial rfl hok), List.forall_mem_nil _⟩
  | invite =>
    refine ⟨rfl, ?_⟩
    intro z hz
    rw [List.mem_singleton.mp hz]
    rfl
  | _ => exact ⟨rfl, List.forall_mem_nil _⟩

end Move

/-! ## The invariant -/

structure CauseTells (w : World) : Prop where
  sound : w.call.hangupCause = "" ↔ w.call.hangupCh = 0
  caused : ∀ pc ∈ w.threads, pc.causeless = false

theorem causeTells_start (o : Origin) : CauseTells (start o) := by
  cases o with
  | newCall timeout => exact ⟨⟨fun _ => rfl, fun _ => rfl⟩, List.forall_mem_nil _⟩
  | joined outbound answeredAt createdAt =>
    exact ⟨⟨fun _ => rfl, fun _ => rfl⟩, List.forall_mem_nil _⟩

theorem causeTells_move {w : World} {i : Nat} {r : Reply} {pc : Pc} {m : Move}
    (hw : CauseTells w) (hpc : w.threads[i]? = some pc)
    (hm : move w.call w.cached pc r = some m) (hok : Caused w (.advance i r)) :
    CauseTells (w.apply i m) := by
  have hcause := hw.caused pc (List.mem_of_getElem? hpc)
  obtain ⟨hdial, hclose⟩ := hok pc hpc
  obtain ⟨hto, hspawn⟩ := move_causeless hm hcause hdial
  refine ⟨?_, forall_apply hpc hw.caused hto hspawn⟩
  show m.call.hangupCause = "" ↔ m.call.hangupCh = 0
  rcases move_hangup_caused hm hcause hclose with ⟨hsame, hch⟩ | ⟨e, hset, hne, hch⟩
  · grind [cases CauseTells, CallImpl.hangupCause]
  · -- Now it has a cause, and the channel is closed.
    grind [CallImpl.hangupCause]

theorem causeTells_spawn {w : World} {pc : Pc} (hw : CauseTells w) (hpc : pc.causeless = false) :
    CauseTells (w.spawn pc) :=
  ⟨hw.sound, forall_spawn hw.caused hpc⟩

theorem causeTells_outside {w w' : World} {l : Label} (hw : CauseTells w) (h : Outside w l w')
    (hok : Caused w l) : CauseTells w' := by
  cases h with
  | event e =>
    refine causeTells_spawn hw ?_
    cases e with
    | hangup e => exact decide_eq_false hok
    | _ => rfl
  | hangup cause => exact causeTells_spawn hw rfl
  | hangupMany cause => exact causeTells_spawn hw rfl
  | invite => exact causeTells_spawn hw rfl
  | fire harmed => exact ⟨hw.sound, forall_spawn hw.caused rfl⟩
  | evict => exact ⟨hw.sound, hw.caused⟩
  | receive s rest hs => exact ⟨hw.sound, hw.caused⟩

theorem causeTells_step (w : World) (l : Label) (w' : World) (hw : CauseTells w)
    (hok : Caused w l) (h : step w l = some w') : CauseTells w' := by
  rcases step_cases h with hout | ⟨i, r, pc, m, rfl, hpc, hm, rfl⟩
  · exact causeTells_outside hw hout hok
  · exact causeTells_move hw hpc hm hok

theorem causeTells_run (o : Origin) {labels : List Label} {w : World}
    (hcaused : Along step Caused (start o) labels) (hrun : run step (start o) labels = some w) :
    CauseTells w :=
  run_invariant causeTells_step labels (causeTells_start o) hcaused hrun

/-- **An empty cause means that the call is alive**, in every run in which hangup events and failed
dials come with a cause and no undialled call is given up. -/
theorem hangupCause_empty_iff_alive (o : Origin) (labels : List Label) {w : World}
    (hcaused : Along step Caused (start o) labels) (hrun : run step (start o) labels = some w) :
    w.call.hangupCause = "" ↔ w.call.hangupCh = 0 :=
  (causeTells_run o hcaused hrun).sound

/-- A call is dialled by threads 0 and 1, answered, and hung up by the switch. -/
def dialledAndHungUp : List Label :=
  [.invite] ++ steps 0 2 true ++ steps 1 2 true ++ [.event (.active 7)] ++ steps 2 5 true
    ++ [.hangup "", .event (.hangup (normalClearing 9))] ++ steps 3 2 true ++ steps 4 4 true

theorem dialledAndHungUp_caused :
    ∃ w, run step (start (.newCall 30)) dialledAndHungUp = some w ∧ w.call.hangupCh = 1
      ∧ (w.call.hangupCause = "" ↔ w.call.hangupCh = 0) := by
  obtain ⟨w, hrun⟩ := Option.isSome_iff_exists.mp
    (rfl : (run step (start (.newCall 30)) dialledAndHungUp).isSome = true)
  have hclosed : (run step (start (.newCall 30)) dialledAndHungUp).map
      (fun w => w.call.hangupCh) = some 1 := rfl
  rw [hrun, Option.map_some, Option.some.injEq] at hclosed
  exact ⟨w, hrun, hclosed,
    hangupCause_empty_iff_alive (.newCall 30) dialledAndHungUp (by decide) hrun⟩

def transportError : Reply := ⟨1, false, "", 500, Int.one_pos⟩

/-- The channel is closed and the cause is empty: after a dial that fails in transport, after a
hangup event without a cause, and after `Hangup` of a call that was not dialled. -/
theorem closed_without_cause :
    (run step (start (.newCall 30))
        ([.invite] ++ steps 0 2 true ++ steps 1 1 true ++ [.advance 1 transportError]
          ++ steps 1 1 true)).map
        (fun w => (w.call.hangupCause, w.call.hangupCh)) = some ("", 1)
    ∧ (run step (start (.joined false 1000 500))
        ([.event (.hangup ⟨9, "", none, none, none, none, none, none, none⟩)]
          ++ steps 0 2 true)).map
        (fun w => (w.call.hangupCause, w.call.hangupCh)) = some ("", 1)
    ∧ (run step (start (.newCall 30)) ([.hangup "NO_ANSWER"] ++ steps 0 3 true)).map
        (fun w => (w.call.hangupCause, w.call.hangupCh)) = some ("", 1) :=
  ⟨rfl, rfl, rfl⟩

end CallCenter.CallManager
