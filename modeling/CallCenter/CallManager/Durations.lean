import CallCenter.CallManager.CallWorld
import Mathlib.Algebra.Order.Ring.Int

/-!
# The durations of a call

A call reports how long it was alive, talked, was waited for and rang, in whole seconds between its
marks. All of them count from `ringingAt` or from `bridgeAt`, but the functions do not ask whether
the call rang, and `WaitSeconds` does not ask whether it has hung up.

For a call whose events come in the order of their timestamps, each mark is zero or lies between the
creation and the hangup (`Dated`). What the durations still need is that the call rang in time, and
that the wait of a call that was never bridged is read before another second has gone by.
-/

namespace CallCenter.CallManager

open Queue (CallState)
open Lib

/-- Division of integers as the source has it, towards zero. -/
def wholeSeconds (ms : Int) : Int := ms.tdiv 1000

namespace CallImpl

def durationSeconds (c : CallImpl) (now : Int) : Int :=
  if 0 < c.hangupAt then wholeSeconds (c.hangupAt - c.ringingAt)
  else wholeSeconds (now - c.ringingAt)

def billSeconds (c : CallImpl) (now : Int) : Int :=
  if 0 < c.bridgeAt then
    if 0 < c.hangupAt then wholeSeconds (c.hangupAt - c.bridgeAt)
    else wholeSeconds (now - c.bridgeAt)
  else 0

def answerSeconds (c : CallImpl) : Int :=
  if 0 < c.acceptAt then wholeSeconds (c.acceptAt - c.ringingAt) else 0

def waitSeconds (c : CallImpl) (now : Int) : Int :=
  if 0 < c.bridgeAt then wholeSeconds (c.bridgeAt - c.ringingAt)
  else wholeSeconds (now - c.ringingAt)

/-- The fields after the handler of an event has run from its start to its end; `none` is a nil
pointer. -/
def handleAction (c : CallImpl) (e : CallEvent) (now : Int) : Option CallImpl :=
  match e with
  | .ringing t => c.setRinging t
  | .progress t => c.setProgress t
  | .active t => some (if c.acceptAt = 0 then c.setActive t else c)
  | .bridge t id => some (c.setBridge t id)
  | .hold => some c
  | .amd a => some (c.setAmd a)
  | .hangup e => some (if c.hangupAt = 0 then c.setHangup e now else c)

end CallImpl

/-! ## Handlers in the world of the call

A handler that is alone does to the marks what `handleAction` says. -/

structure SameMarks (c c' : CallImpl) : Prop where
  ringing : c.ringingAt = c'.ringingAt
  accept : c.acceptAt = c'.acceptAt
  bridge : c.bridgeAt = c'.bridgeAt
  hangup : c.hangupAt = c'.hangupAt

variable {w : World} {i : Nat} {r : Reply} {pc : Pc}

theorem run_advance {w' : World} {m : Move} {labels : List Label} (hc : w.crashed = false)
    (hpc : w.threads[i]? = some pc) (hm : move w.call w.cached pc r = some m)
    (hrest : run step (w.apply i m) labels = some w') :
    run step w (.advance i r :: labels) = some w' := by
  have hstep : step w (.advance i r) = some (w.apply i m) := by
    unfold step
    rw [hc]
    simp only [Bool.false_eq_true, if_false, hpc, Option.bind_some, hm, Option.map_some]
  rw [run, hstep, Option.bind_some, hrest]

theorem getElem?_apply_self (hpc : w.threads[i]? = some pc) (m : Move) :
    (w.apply i m).threads[i]? = some m.pc := by
  have h : (w.threads.set i m.pc ++ m.spawn)[i]? = some (if i = i then m.pc else pc) :=
    getElem?_set_append hpc m.pc m.spawn
  rwa [if_pos rfl] at h

theorem run_assign {s : CallState} (r : Reply) (hc : w.crashed = false)
    (hpc : w.threads[i]? = some (.assign s)) (hroom : w.call.chState.length < chStateSize) :
    ∃ w', run step w (List.replicate 2 (.advance i r)) = some w'
      ∧ w'.threads[i]? = some .finished ∧ SameMarks w'.call w.call := by
  let assigned : Move := { call := { w.call with state := s }, cached := w.cached, pc := .send s }
  let sent : Move :=
    { call := { w.call with state := s, chState := w.call.chState ++ [s] }, cached := w.cached,
      pc := .finished, returns := s = .hangup }
  have hpc' : (w.apply i assigned).threads[i]? = some (.send s) := getElem?_apply_self hpc assigned
  have hsend : move (w.apply i assigned).call (w.apply i assigned).cached (.send s) r = some sent :=
    if_pos hroom
  refine ⟨(w.apply i assigned).apply i sent, ?_, getElem?_apply_self hpc' sent, ?_⟩
  · exact run_advance hc hpc rfl (run_advance rfl hpc' hsend rfl)
  · exact ⟨rfl, rfl, rfl, rfl⟩

theorem run_then_assign {s : CallState} {m : Move} (hc : w.crashed = false)
    (hpc : w.threads[i]? = some pc) (hm : move w.call w.cached pc r = some m)
    (hto : m.pc = .assign s) (hcrash : m.crashed = false)
    (hroom : m.call.chState.length < chStateSize) :
    ∃ w', run step w (List.replicate 3 (.advance i r)) = some w'
      ∧ w'.threads[i]? = some .finished ∧ SameMarks w'.call m.call := by
  have hpc' : (w.apply i m).threads[i]? = some (.assign s) := by
    rw [getElem?_apply_self hpc, hto]
  obtain ⟨w', hrun, hdone, hmarks⟩ := run_assign r hcrash hpc' hroom
  exact ⟨w', run_advance hc hpc hm hrun, hdone, hmarks⟩

/-- A handler that runs alone, with room in the channel, ends with the marks of `handleAction`. -/
theorem run_handler {e : CallEvent} {c : CallImpl} (hc : w.crashed = false)
    (hpc : w.threads[i]? = some (.handle e)) (hroom : w.call.chState.length < chStateSize)
    (he : w.call.handleAction e r.now = some c) :
    ∃ n w', run step w (List.replicate n (.advance i r)) = some w'
      ∧ w'.threads[i]? = some .finished ∧ SameMarks w'.call c := by
  cases e with
  | ringing t =>
    have he : w.call.setRinging t = some c := he
    have hm : move w.call w.cached (.handle (.ringing t)) r =
        some { call := c, cached := w.cached, pc := .assign .ringing } := by
      simp only [move, he]
    have hroom' : c.chState.length < chStateSize := by
      rw [(CallImpl.setRinging_spec he).1]
      exact hroom
    exact ⟨3, run_then_assign hc hpc hm rfl rfl hroom'⟩
  | progress t =>
    have he : w.call.setProgress t = some c := he
    have hm : move w.call w.cached (.handle (.progress t)) r =
        some { call := c, cached := w.cached, pc := .finished } := by
      simp only [move, he]
    exact ⟨1, _, run_advance hc hpc hm rfl, getElem?_apply_self hpc _, ⟨rfl, rfl, rfl, rfl⟩⟩
  | active t =>
    cases he
    by_cases hat : w.call.acceptAt = 0
    · rw [if_pos hat]
      have hm : move w.call w.cached (.handle (.active t)) r =
          some { call := w.call, cached := w.cached, pc := .active t } := by
        simp only [move, hat, if_true]
      have hpc' := getElem?_apply_self hpc { call := w.call, cached := w.cached, pc := .active t }
      obtain ⟨w', hrun, hdone, hmarks⟩ :=
        run_then_assign (r := r) (w := w.apply i _) rfl hpc' rfl rfl rfl hroom
      exact ⟨4, w', run_advance hc hpc hm hrun, hdone, hmarks⟩
    · rw [if_neg hat]
      have hm : move w.call w.cached (.handle (.active t)) r =
          some { call := w.call, cached := w.cached, pc := .finished } := by
        simp only [move, hat, if_false]
      exact ⟨1, _, run_advance hc hpc hm rfl, getElem?_apply_self hpc _, ⟨rfl, rfl, rfl, rfl⟩⟩
  | bridge t id =>
    cases he
    exact ⟨3, run_then_assign hc hpc rfl rfl rfl hroom⟩
  | hold =>
    cases he
    exact ⟨3, run_then_assign hc hpc rfl rfl rfl hroom⟩
  | amd a =>
    cases he
    exact ⟨3, run_then_assign hc hpc rfl rfl rfl hroom⟩
  | hangup e =>
    cases he
    by_cases hat : w.call.hangupAt = 0
    · rw [if_pos hat]
      exact ⟨3, run_then_assign hc hpc (if_pos hat) rfl rfl hroom⟩
    · rw [if_neg hat]
      exact ⟨1, _, run_advance hc hpc (if_neg hat) rfl, getElem?_apply_self hpc _,
        ⟨rfl, rfl, rfl, rfl⟩⟩

/-! ## Events in the order of their timestamps -/

def CallEvent.timestamp : CallEvent → Option Int
  | .ringing t | .progress t | .active t | .bridge t _ => some t
  | .hold | .amd _ => none
  | .hangup e => some e.timestamp

structure Dated where
  call : CallImpl
  clock : Int

/-- The next event of a call that has not hung up; it is not dated back. -/
def datedStep (d : Dated) (e : CallEvent) : Option Dated :=
  if d.call.hangupAt = 0 ∧ d.clock ≤ e.timestamp.getD d.clock then
    (d.call.handleAction e d.clock).map fun c => ⟨c, e.timestamp.getD d.clock⟩
  else none

/-- The call was created at `created`, after the first second of the epoch. A call that joined a
queue has kept the time, and that of its answer if there was one. -/
structure Origin.CreatedAt (o : Origin) (created : Int) : Prop where
  late : 1000 ≤ created
  joined : ∀ outbound answeredAt createdAt, o = .joined outbound answeredAt createdAt →
    createdAt = created ∧ (answeredAt = 0 ∨ created ≤ answeredAt)

def datedStart (o : Origin) (created : Int) : Dated where
  call := (start o).call
  clock := match o with
    | .newCall _ => created
    | .joined _ answeredAt _ => max created answeredAt

/-- A mark is zero or a time of the call's life. -/
def InLife (created clock mark : Int) : Prop := mark = 0 ∨ created ≤ mark ∧ mark ≤ clock

structure MarksInLife (created : Int) (d : Dated) : Prop where
  begun : created ≤ d.clock
  ringing : InLife created d.clock d.call.ringingAt
  accept : InLife created d.clock d.call.acceptAt
  bridge : InLife created d.clock d.call.bridgeAt

theorem InLife.later {created clock clock' mark : Int} (h : InLife created clock mark)
    (hle : clock ≤ clock') : InLife created clock' mark := by
  rcases h with hzero | ⟨hfrom, hto⟩
  · exact Or.inl hzero
  · exact Or.inr ⟨hfrom, hto.trans hle⟩

theorem marksInLife_start {o : Origin} {created : Int} (ho : o.CreatedAt created) :
    MarksInLife created (datedStart o created) := by
  cases o with
  | newCall timeout => exact ⟨le_refl _, Or.inl rfl, Or.inl rfl, Or.inl rfl⟩
  | joined outbound answeredAt createdAt =>
    obtain ⟨rfl, hanswered⟩ := ho.joined outbound answeredAt createdAt rfl
    have hclock : (datedStart (.joined outbound answeredAt createdAt) createdAt).clock =
        max createdAt answeredAt := rfl
    refine ⟨le_max_left _ _, Or.inr ⟨le_refl _, le_max_left _ _⟩, ?_, Or.inl rfl⟩
    rcases hanswered with hzero | hle
    · exact Or.inl hzero
    · exact Or.inr ⟨hle, le_max_right _ _⟩

theorem marksInLife_step {created : Int} {d d' : Dated} {e : CallEvent}
    (h : MarksInLife created d) (hstep : datedStep d e = some d') : MarksInLife created d' := by
  obtain ⟨⟨-, hclock⟩, hstep⟩ := Option.ite_none_right_eq_some.mp hstep
  obtain ⟨c, hc, rfl⟩ := Option.map_eq_some_iff.mp hstep
  have hnow : InLife created (e.timestamp.getD d.clock) (e.timestamp.getD d.clock) :=
    Or.inr ⟨h.begun.trans hclock, le_refl _⟩
  have hring := h.ringing.later hclock
  have haccept := h.accept.later hclock
  have hbridge := h.bridge.later hclock
  have hbegun := h.begun.trans hclock
  cases e with
  | ringing t =>
    have heq := (CallImpl.setRinging_spec hc).1
    refine ⟨hbegun, ?_, ?_, ?_⟩ <;> rw [heq]
    · exact hnow
    · exact haccept
    · exact hbridge
  | progress t =>
    have heq := (CallImpl.setProgress_spec hc).1
    refine ⟨hbegun, ?_, ?_, ?_⟩ <;> rw [heq]
    · exact hring
    · exact haccept
    · exact hbridge
  | active t =>
    cases hc
    by_cases hat : d.call.acceptAt = 0
    · rw [if_pos hat]
      exact ⟨hbegun, hring, hnow, hbridge⟩
    · rw [if_neg hat]
      exact ⟨hbegun, hring, haccept, hbridge⟩
  | bridge t id =>
    cases hc
    exact ⟨hbegun, hring, haccept, hnow⟩
  | hold =>
    cases hc
    exact ⟨hbegun, hring, haccept, hbridge⟩
  | amd a =>
    cases hc
    exact ⟨hbegun, hring, haccept, hbridge⟩
  | hangup e =>
    cases hc
    by_cases hat : d.call.hangupAt = 0
    · rw [if_pos hat]
      exact ⟨hbegun, hring, haccept, hbridge⟩
    · rw [if_neg hat]
      exact ⟨hbegun, hring, haccept, hbridge⟩

theorem marksInLife_run {o : Origin} {created : Int} (ho : o.CreatedAt created)
    {events : List CallEvent} {d : Dated}
    (hrun : run datedStep (datedStart o created) events = some d) : MarksInLife created d := by
  have hkeep : ∀ d e d', MarksInLife created d → True → datedStep d e = some d' →
      MarksInLife created d' := fun _ _ _ h _ hstep => marksInLife_step h hstep
  exact run_invariant hkeep events (marksInLife_start ho)
    (along_of_forall (fun _ _ => trivial) events _) hrun

/-! ## Whole seconds -/

theorem wholeSeconds_of_nonneg {ms : Int} (h : 0 ≤ ms) : wholeSeconds ms = ms / 1000 :=
  Int.tdiv_eq_ediv_of_nonneg h

theorem wholeSeconds_nonneg_iff (ms : Int) : 0 ≤ wholeSeconds ms ↔ -1000 < ms := by
  grind [wholeSeconds]

theorem wholeSeconds_mono {ms ms' : Int} (h : ms ≤ ms') : wholeSeconds ms ≤ wholeSeconds ms' := by
  grind [wholeSeconds]

/-! ## After the hangup -/

/-- The durations of a call that has hung up, read at `now`. -/
structure ConsistentDurations (created : Int) (c : CallImpl) (now : Int) : Prop where
  bill_nonneg : 0 ≤ c.billSeconds now
  bill_le : c.billSeconds now ≤ c.durationSeconds now
  duration_le : c.durationSeconds now ≤ wholeSeconds (c.hangupAt - created)
  wait_nonneg : 0 ≤ c.waitSeconds now
  wait_le : c.waitSeconds now ≤ c.durationSeconds now
  answer_nonneg : 0 ≤ c.answerSeconds
  answer_le : c.answerSeconds ≤ c.durationSeconds now

/-- What the marks have to be like when the call hangs up at `hangupAt`. -/
structure RangFirst (c : CallImpl) (hangupAt now : Int) : Prop where
  rang : c.ringingAt ≠ 0
  answered : c.acceptAt ≠ 0 → c.ringingAt < c.acceptAt + 1000
  /-- The call rang before it was bridged, up to a second, and the time from the one to the hangup
  is not shorter in whole seconds than from the other. -/
  bridged : c.bridgeAt ≠ 0 → c.ringingAt < c.bridgeAt + 1000
    ∧ (hangupAt - c.bridgeAt) / 1000 ≤ (hangupAt - c.ringingAt) / 1000
  unbridged : c.bridgeAt = 0 → (now - c.ringingAt) / 1000 ≤ (hangupAt - c.ringingAt) / 1000

section HungUp

variable {created now : Int} {c : CallImpl}

theorem InLife.pos_iff {created clock mark : Int} (h : InLife created clock mark)
    (hcreated : 1000 ≤ created) : 0 < mark ↔ mark ≠ 0 := by
  unfold InLife at h
  omega

theorem InLife.le {created clock mark : Int} (h : InLife created clock mark)
    (hcreated : 1000 ≤ created) (hclock : created ≤ clock) : mark ≤ clock := by
  unfold InLife at h
  omega

theorem rang_of_duration_le (hcreated : 1000 ≤ created) (hh : created ≤ c.hangupAt)
    (hle : c.durationSeconds now ≤ wholeSeconds (c.hangupAt - created)) : c.ringingAt ≠ 0 := by
  grind [CallImpl.durationSeconds, wholeSeconds_of_nonneg]

theorem duration_eq (hcreated : 1000 ≤ created) (hh : created ≤ c.hangupAt)
    (hr : InLife created c.hangupAt c.ringingAt) (now : Int) :
    c.durationSeconds now = (c.hangupAt - c.ringingAt) / 1000 := by
  have hle := hr.le hcreated hh
  rw [CallImpl.durationSeconds, if_pos (by omega), wholeSeconds_of_nonneg (by omega)]

theorem consistentDurations_iff (hcreated : 1000 ≤ created) (hh : created ≤ c.hangupAt)
    (hnow : c.hangupAt ≤ now) (hr : InLife created c.hangupAt c.ringingAt)
    (ha : InLife created c.hangupAt c.acceptAt) (hb : InLife created c.hangupAt c.bridgeAt) :
    ConsistentDurations created c now ↔ RangFirst c c.hangupAt now := by
  have hpos : 0 < c.hangupAt := by omega
  have hrle := hr.le hcreated hh
  have hale := ha.le hcreated hh
  have hble := hb.le hcreated hh
  have hduration := duration_eq hcreated hh hr now
  have hanswer : c.answerSeconds =
      if c.acceptAt ≠ 0 then wholeSeconds (c.acceptAt - c.ringingAt) else 0 := by
    simp only [CallImpl.answerSeconds, ha.pos_iff hcreated]
  have hbill : c.billSeconds now =
      if c.bridgeAt ≠ 0 then (c.hangupAt - c.bridgeAt) / 1000 else 0 := by
    simp only [CallImpl.billSeconds, hb.pos_iff hcreated, if_pos hpos]
    rw [wholeSeconds_of_nonneg (by omega)]
  have hwait : c.waitSeconds now =
      if c.bridgeAt ≠ 0 then wholeSeconds (c.bridgeAt - c.ringingAt)
      else (now - c.ringingAt) / 1000 := by
    have hlong : 0 ≤ now - c.ringingAt := by omega
    simp only [CallImpl.waitSeconds, hb.pos_iff hcreated]
    rw [wholeSeconds_of_nonneg hlong]
  constructor
  · intro hcons
    refine ⟨rang_of_duration_le hcreated hh hcons.duration_le, ?_, ?_, ?_⟩
    · intro hanswered
      have hnonneg := hcons.answer_nonneg
      rw [hanswer, if_pos hanswered, wholeSeconds_nonneg_iff] at hnonneg
      omega
    · intro hbridged
      have hnonneg := hcons.wait_nonneg
      have hle := hcons.bill_le
      grind
    · intro hunbridged
      have hle := hcons.wait_le
      rwa [hwait, hduration, if_neg (not_not.mpr hunbridged)] at hle
  · intro hfirst
    have hafter : created ≤ c.ringingAt := (hr.resolve_left hfirst.rang).1
    have hlive : 0 ≤ (c.hangupAt - c.ringingAt) / 1000 := by omega
    have hbillBoth : 0 ≤ c.billSeconds now ∧ c.billSeconds now ≤ c.durationSeconds now := by
      rw [hbill, hduration]
      by_cases hbridged : c.bridgeAt ≠ 0
      · rw [if_pos hbridged]
        exact ⟨by omega, (hfirst.bridged hbridged).2⟩
      · rw [if_neg hbridged]
        exact ⟨le_refl _, hlive⟩
    have hwaitBoth : 0 ≤ c.waitSeconds now ∧ c.waitSeconds now ≤ c.durationSeconds now := by
      rw [hwait, hduration]
      by_cases hbridged : c.bridgeAt ≠ 0
      · rw [if_pos hbridged]
        refine ⟨(wholeSeconds_nonneg_iff _).mpr ?_, ?_⟩
        · have hbefore := (hfirst.bridged hbridged).1
          omega
        · rw [← wholeSeconds_of_nonneg (by omega)]
          exact wholeSeconds_mono (by omega)
      · rw [if_neg hbridged]
        exact ⟨by omega, hfirst.unbridged (not_not.mp hbridged)⟩
    have hanswerBoth : 0 ≤ c.answerSeconds ∧ c.answerSeconds ≤ c.durationSeconds now := by
      rw [hanswer, hduration]
      by_cases hanswered : c.acceptAt ≠ 0
      · rw [if_pos hanswered]
        refine ⟨(wholeSeconds_nonneg_iff _).mpr ?_, ?_⟩
        · have hbefore := hfirst.answered hanswered
          omega
        · rw [← wholeSeconds_of_nonneg (by omega)]
          exact wholeSeconds_mono (by omega)
      · rw [if_neg hanswered]
        exact ⟨le_refl _, hlive⟩
    refine ⟨hbillBoth.1, hbillBoth.2, ?_, hwaitBoth.1, hwaitBoth.2, hanswerBoth.1, hanswerBoth.2⟩
    rw [hduration, wholeSeconds_of_nonneg (by omega)]
    omega

end HungUp

/-- **The durations of a call fit together after the hangup** just if it rang, in time, and a call
that was not bridged is asked in time. -/
theorem durations_consistent_iff {o : Origin} {created : Int} (ho : o.CreatedAt created)
    {events : List CallEvent} {d d' : Dated} {e : CallActionHangup} {now : Int}
    (hrun : run datedStep (datedStart o created) events = some d)
    (hhangup : datedStep d (.hangup e) = some d') (hnow : e.timestamp ≤ now) :
    ConsistentDurations created d'.call now ↔ RangFirst d.call e.timestamp now := by
  have hlife := marksInLife_step (marksInLife_run ho hrun) hhangup
  obtain ⟨⟨halive, hclock⟩, hhangup⟩ := Option.ite_none_right_eq_some.mp hhangup
  obtain ⟨c, hc, rfl⟩ := Option.map_eq_some_iff.mp hhangup
  have hc : some (if d.call.hangupAt = 0 then d.call.setHangup e d.clock else d.call) = some c := hc
  rw [if_pos halive] at hc
  cases hc
  -- A hangup with a timestamp keeps it.
  have hlate := ho.late
  have hbegun : created ≤ e.timestamp := hlife.begun
  have hat : (d.call.setHangup e d.clock).hangupAt = e.timestamp := by
    show (if e.timestamp = 0 then d.clock else e.timestamp) = e.timestamp
    rw [if_neg (by omega)]
  have hnow' : (d.call.setHangup e d.clock).hangupAt ≤ now := by
    rw [hat]
    exact hnow
  have hiff := consistentDurations_iff ho.late (by rw [hat]; exact hbegun) hnow'
    (by rw [hat]; exact hlife.ringing) (by rw [hat]; exact hlife.accept)
    (by rw [hat]; exact hlife.bridge)
  rw [hat] at hiff
  refine hiff.trans ⟨?_, ?_⟩
  · intro hfirst
    exact ⟨hfirst.rang, hfirst.answered, hfirst.bridged, hfirst.unbridged⟩
  · intro hfirst
    exact ⟨hfirst.rang, hfirst.answered, hfirst.bridged, hfirst.unbridged⟩

def bornAt : Int := 1700000000000

def bornNew : Origin := .newCall 30

theorem bornNew_created : bornNew.CreatedAt bornAt := ⟨by decide, nofun⟩

def talked : List CallEvent :=
  [.ringing (bornAt + 1500), .active (bornAt + 9000), .bridge (bornAt + 9000) "agent"]

def talkedCall : CallImpl :=
  { newCall 30 with
    ringTimeout := .idle, ringingAt := bornAt + 1500, acceptAt := bornAt + 9000,
    bridgeAt := bornAt + 9000, bridgedId := some "agent" }

theorem talked_consistent :
    ∃ d d', run datedStep (datedStart bornNew bornAt) talked = some d
      ∧ datedStep d (.hangup (normalClearing (bornAt + 65000))) = some d'
      ∧ ConsistentDurations bornAt d'.call (bornAt + 90000)
      ∧ d'.call.durationSeconds (bornAt + 90000) = 63 := by
  have hrun : run datedStep (datedStart bornNew bornAt) talked =
      some ⟨talkedCall, bornAt + 9000⟩ := rfl
  have hhangup : datedStep ⟨talkedCall, bornAt + 9000⟩
      (.hangup (normalClearing (bornAt + 65000))) =
        some ⟨talkedCall.setHangup (normalClearing (bornAt + 65000)) (bornAt + 9000),
          bornAt + 65000⟩ := rfl
  have hfirst : RangFirst talkedCall (bornAt + 65000) (bornAt + 90000) :=
    ⟨by decide, by decide, by decide, by decide⟩
  exact ⟨_, _, hrun, hhangup,
    (durations_consistent_iff bornNew_created hrun hhangup (by decide)).mpr hfirst, rfl⟩

/-- A call of a minute that did not ring has lasted since the epoch; one that is reported to ring
after it was answered was answered before it rang; and the wait of a call that was not bridged is
longer than the call, an hour after it ended. -/
theorem durations_inconsistent :
    ((run datedStep (datedStart bornNew bornAt)
        [.active (bornAt + 5000), .hangup (normalClearing (bornAt + 65000))]).map
        (fun d => (d.call.durationSeconds (bornAt + 65000), d.call.answerSeconds))
      = some (1700000065, 1700000005))
    ∧ ((run datedStep (datedStart bornNew bornAt)
        [.active (bornAt + 5000), .ringing (bornAt + 9000),
          .hangup (normalClearing (bornAt + 65000))]).map
        (fun d => (d.call.durationSeconds (bornAt + 65000), d.call.answerSeconds))
      = some (56, -4))
    ∧ ((run datedStep (datedStart bornNew bornAt)
        [.ringing (bornAt + 1000), .hangup (normalClearing (bornAt + 31000))]).map
        (fun d => (d.call.durationSeconds (bornAt + 3631000),
          d.call.waitSeconds (bornAt + 3631000)))
      = some (30, 3630)) :=
  ⟨rfl, rfl, rfl⟩

end CallCenter.CallManager
