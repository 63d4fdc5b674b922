import CallCenter.CallManager.CallWorld

/-!
# The state of a call that has hung up, and the ring timer of one that was answered

`setState` overwrites the state whatever it was, so a handler that is behind writes its state over
`CALL_STATE_HANGUP`. In the same way `setRinging` arms the timer of a call that was answered before,
and puts its state below `CALL_STATE_ACCEPT`, where the timer looks.

When `setHangup` finds no other goroutine about to write the state, and nothing arms the timer of an
answered call, both properties hold for ever.
-/

namespace CallCenter.CallManager

open Queue (CallState)
open Lib

/-! ## The order in which nothing goes wrong -/

/-- A goroutine that will write the state, except for a `setHangup` at its start, which
looks first whether the call has hung up. -/
def Pc.writes : Pc → Bool
  | .handle (.hangup _) | .handle (.progress _) => false
  | .handle _ | .active _ | .assign _ | .saveToCache | .inviteState => true
  | _ => false

/-- The function of the timer has found no answer, and is going to hang up. -/
def Pc.rings : Pc → Bool
  | .hangup true _ | .setCancel true _ | .hangupCall true _ => true
  | _ => false

/-- A goroutine about to write a state from which the timer finds the call answered. -/
def Pc.accepts : Pc → Bool
  | .assign s => CallState.accept.toNat ≤ s.toNat
  | _ => false

def Pc.lowers : Pc → Bool
  | .assign s => s.toNat < CallState.accept.toNat
  | .inviteState => true
  | _ => false

def Pc.arms (c : CallImpl) : Pc → Bool
  | .handle (.ringing _) => c.ringTimeout = .unset && c.callRequest.any (0 < ·)
  | .handle (.progress _) =>
    c.progressAt = 0 && c.ringTimeout ≠ .unset && c.callRequest.any (0 < ·)
  | _ => false

def Pc.answers : Pc → Bool
  | .active _ | .handle (.bridge _ _) => true
  | _ => false

/-- `setHangup` overtakes no goroutine that will write the state. An answer does not overtake a
timer that is going to hang up, and the timer is not started after one. Where the function of the
timer has yet to look at an answered call, it does not overtake the goroutine that writes the
answer, and no other state is written below that. `Invite` is not called on a call that has hung
up. -/
def InOrder (w : World) : Label → Prop
  | .advance i _ => ∀ pc ∈ w.threads[i]?,
    (pc.hangsUp = true → ∀ z ∈ w.threads.eraseIdx i, z.writes = false)
    ∧ (pc.answers = true → ∀ z ∈ w.threads.eraseIdx i, z.rings = false)
    ∧ (pc.arms w.call = true → w.answered = false)
    ∧ (w.answered = true → pc = .ringTimeout → ∀ z ∈ w.threads, z.accepts = false)
    ∧ (w.answered = true → pc.lowers = true → .ringTimeout ∉ w.threads)
  | .invite => w.call.hangupAt = 0
  | _ => True

instance (w : World) : ∀ l, Decidable (InOrder w l)
  | .advance i _ => inferInstanceAs (Decidable (∀ pc ∈ w.threads[i]?,
      (pc.hangsUp = true → ∀ z ∈ w.threads.eraseIdx i, z.writes = false)
      ∧ (pc.answers = true → ∀ z ∈ w.threads.eraseIdx i, z.rings = false)
      ∧ (pc.arms w.call = true → w.answered = false)
      ∧ (w.answered = true → pc = .ringTimeout → ∀ z ∈ w.threads, z.accepts = false)
      ∧ (w.answered = true → pc.lowers = true → .ringTimeout ∉ w.threads)))
  | .invite => inferInstanceAs (Decidable (w.call.hangupAt = 0))
  | .event _ | .hangup _ | .hangupMany _ | .fire | .evict | .receive => .isTrue trivial

/-! ## The state -/

/-- Four things a move does to the state and to `hangupAt`: it is the first `setHangup`, it
is an assignment, it is `Invite`'s assignment, or both stay. -/
theorem move_state {c : CallImpl} {cached : Bool} {pc : Pc} {r : Reply} {m : Move}
    (h : move c cached pc r = some m) :
    (∃ e, pc = .handle (.hangup e) ∧ c.hangupAt = 0 ∧ m =
        { call := c.setHangup e r.now, cached := false, pc := .assign .hangup })
    ∨ (∃ s, pc = .assign s ∧ m = { call := { c with state := s }, cached := cached, pc := .send s })
    ∨ (pc = .inviteState ∧ m =
        { call := { c with state := .invite }, cached := cached, pc := .finished, spawn :=
          [.dial] })
    ∨ (m.call.state = c.state ∧ m.call.hangupAt = c.hangupAt ∧ m.spawn = []
        ∧ pc ≠ .assign .hangup ∧ m.pc ≠ .assign .hangup ∧ m.pc ≠ .send .hangup
        ∧ (m.pc.writes = true → pc.writes = true ∨ cached = true)
        ∧ (m.cached = true → cached = true ∨ pc.writes = true)
        ∧ (m.returns = true → pc = .send .hangup
            ∨ c.hangupAt ≠ 0 ∧ ∃ e, pc = .handle (.hangup e))) := by
  cases move_cases h with
  | hangup e hat => exact .inl ⟨e, rfl, hat, rfl⟩
  | assign s => exact .inr (.inl ⟨s, rfl, rfl⟩)
  | invite => exact .inr (.inr (.inl ⟨rfl, rfl⟩))
  | ringing t c' hc =>
    rw [(CallImpl.setRinging_spec hc).1]
    simp [Pc.writes]
  | progress t c' hc =>
    rw [(CallImpl.setProgress_spec hc).1]
    simp [Pc.writes]
  | _ => simp_all [Pc.writes, CallImpl.setActive, CallImpl.setBridge, CallImpl.setAmd]

/-- A recorded hangup is the last state. -/
structure Settled (w : World) : Prop where
  uncached : w.call.hangupAt ≠ 0 → w.cached = false
  /-- Only `setHangup` is still to write the state. -/
  writers : w.call.hangupAt ≠ 0 → ∀ pc ∈ w.threads, pc.writes = true → pc = .assign .hangup
  /-- If it is not, it has. -/
  pending : w.call.hangupAt ≠ 0 → .assign .hangup ∉ w.threads → w.call.state = .hangup
  assigned : .assign .hangup ∈ w.threads → w.call.hangupAt ≠ 0
  sent : .send .hangup ∈ w.threads → w.call.hangupAt ≠ 0 ∧ w.call.state = .hangup
  returned : w.returned = true → w.call.hangupAt ≠ 0 ∧ w.call.state = .hangup

section Move

variable {w : World} {i : Nat} {r : Reply}

theorem settled_setHangup {e : CallActionHangup} (hw : Settled w)
    (hpc : w.threads[i]? = some (.handle (.hangup e))) (hat : w.call.hangupAt = 0)
    (hok : ∀ pc ∈ w.threads.eraseIdx i, pc.writes = false) :
    Settled (w.apply i
      { call := w.call.setHangup e r.now, cached := false, pc := .assign .hangup }) := by
  constructor
  · exact fun _ => rfl
  · intro _ z hz hwrites
    rcases (mem_set_append hpc).mp hz with rfl | hz | hz
    · rfl
    · cases hz
    · rw [hok z hz] at hwrites
      cases hwrites
  · intro _ hnot
    exact absurd ((mem_set_append hpc).mpr (.inl rfl)) hnot
  · exact fun _ => w.call.setHangup_hangupAt_ne_zero e r.now_pos
  all_goals grind [cases Settled, World.apply]

theorem settled_assign {s : CallState} (hw : Settled w) (hpc : w.threads[i]? = some (.assign s)) :
    Settled (w.apply i
      { call := { w.call with state := s }, cached := w.cached, pc := .send s }) := by
  have hmem : .assign s ∈ w.threads := List.mem_of_getElem? hpc
  have hs : w.call.hangupAt ≠ 0 → s = .hangup := by
    intro hat
    have heq := hw.writers hat _ hmem rfl
    injection heq
  constructor
  · exact hw.uncached
  · intro hat z hz hwrites
    rcases (mem_set_append hpc).mp hz with rfl | hz | hz
    · cases hwrites
    · cases hz
    · exact hw.writers hat z (List.mem_of_mem_eraseIdx hz) hwrites
  all_goals grind [cases Settled, World.apply]

theorem settled_invite (hw : Settled w) (hpc : w.threads[i]? = some .inviteState) :
    Settled (w.apply i
      { call := { w.call with state := .invite }, cached := w.cached, pc := .finished,
        spawn := [.dial] }) := by
  have hzero : w.call.hangupAt = 0 := by
    by_contra hat
    cases hw.writers hat _ (List.mem_of_getElem? hpc) rfl
  constructor
  all_goals grind [cases Settled, World.apply]

theorem settled_move {pc : Pc} {m : Move} (hw : Settled w) (hpc : w.threads[i]? = some pc)
    (hm : move w.call w.cached pc r = some m) (hok : InOrder w (.advance i r)) :
    Settled (w.apply i m) := by
  have hmem : pc ∈ w.threads := List.mem_of_getElem? hpc
  have hhangup := (hok pc hpc).1
  rcases move_state hm with ⟨e, rfl, hat, rfl⟩ | ⟨s, rfl, rfl⟩ | ⟨rfl, rfl⟩
    | ⟨hstate, hat', hspawn, hne, hne', hsend', hwrites', hcached', hreturns⟩
  · exact settled_setHangup hw hpc hat (hhangup rfl)
  · exact settled_assign hw hpc
  · exact settled_invite hw hpc
  · -- Neither the state nor the time of the hangup changes.
    have hold : ∀ {z}, z ∈ (w.apply i m).threads → z = m.pc ∨ z ∈ w.threads := by
      intro z hz
      rcases (mem_set_append hpc).mp hz with rfl | hz | hz
      all_goals grind [List.mem_of_mem_eraseIdx]
    -- a thread at work before the hangup is the only way into the cache or to a write
    have hidle : w.call.hangupAt ≠ 0 → pc.writes = false := by
      grind [cases Settled]
    constructor
    · grind [cases Settled, World.apply]
    · intro hat z hz hwrites
      have hat : w.call.hangupAt ≠ 0 := hat' ▸ hat
      grind [cases Settled]
    · intro hat hnot
      refine hstate.trans (hw.pending (hat' ▸ hat) fun hin => ?_)
      rcases (mem_pool hpc).mp hin with rfl | hin
      · exact hne rfl
      · exact hnot ((mem_set_append hpc).mpr (.inr (.inr hin)))
    · intro hassign
      rcases hold hassign with h | h
      · exact absurd h.symm hne'
      · exact hat' ▸ hw.assigned h
    · intro hsend
      rcases hold hsend with h | h
      · exact absurd h.symm hsend'
      · exact hat' ▸ hstate ▸ hw.sent h
    · intro hret
      have hret : w.returned = true ∨ m.returns = true := by simpa [World.apply] using hret
      suffices w.call.hangupAt ≠ 0 ∧ w.call.state = .hangup from hat' ▸ hstate ▸ this
      rcases hret with h | h
      · exact hw.returned h
      · rcases hreturns h with rfl | ⟨hat, e, rfl⟩
        · exact hw.sent hmem
        · -- a second `setHangup` returns at once: by the condition, the first is done
          refine ⟨hat, hw.pending hat fun hin => ?_⟩
          rcases (mem_pool hpc).mp hin with h | hin
          · cases h
          · cases hhangup rfl _ hin

end Move

theorem settled_spawn {w : World} {pc : Pc} (hw : Settled w)
    (hwrites : pc.writes = true → w.call.hangupAt = 0) (hassign : pc ≠ .assign .hangup)
    (hsend : pc ≠ .send .hangup) : Settled (w.spawn pc) := by
  have hold : ∀ {z}, z ∈ (w.spawn pc).threads → z ∈ w.threads ∨ z = pc := by
    intro z hz
    rcases List.mem_append.mp hz with h | h
    · exact .inl h
    · exact .inr (List.mem_singleton.mp h)
  constructor
  · exact hw.uncached
  · intro hat z hz hz'
    rcases hold hz with h | rfl
    · exact hw.writers hat z h hz'
    · exact absurd (hwrites hz') hat
  · exact fun hat hnot => hw.pending hat fun hin => hnot (List.mem_append_left _ hin)
  · intro h
    rcases hold h with h | h
    · exact hw.assigned h
    · exact absurd h.symm hassign
  · intro h
    rcases hold h with h | h
    · exact hw.sent h
    · exact absurd h.symm hsend
  · exact hw.returned

theorem settled_outside {w w' : World} {l : Label} (hw : Settled w) (h : Outside w l w')
    (hok : InOrder w l) : Settled w' := by
  cases h with
  | event e => exact settled_spawn hw nofun nofun nofun
  | hangup cause => exact settled_spawn hw nofun nofun nofun
  | hangupMany cause => exact settled_spawn hw nofun nofun nofun
  | invite => exact settled_spawn hw (fun _ => hok) nofun nofun
  | fire harmed =>
    have hidle : Settled { w with call := { w.call with ringTimeout := .idle } } :=
      ⟨hw.uncached, hw.writers, hw.pending, hw.assigned, hw.sent, hw.returned⟩
    exact settled_spawn hidle nofun nofun nofun
  | evict => exact ⟨fun _ => rfl, hw.writers, hw.pending, hw.assigned, hw.sent, hw.returned⟩
  | receive s rest hs =>
    exact ⟨hw.uncached, hw.writers, hw.pending, hw.assigned, hw.sent, hw.returned⟩

/-! ## The ring timer -/

def CallImpl.below (c : CallImpl) : Prop := c.state.toNat < CallState.accept.toNat

/-- The ring timer does not hang up an answered call. -/
structure Quieted (w : World) : Prop where
  stopped : w.answered = true → w.call.ringTimeout ≠ .armed
  silent : w.answered = true → ∀ pc ∈ w.threads, pc.rings = false
  /-- A timer that has yet to look will find the answer. -/
  written : w.answered = true → .ringTimeout ∈ w.threads → w.call.below →
    ∃ pc ∈ w.threads, pc.accepts = true
  inTime : w.lateNoAnswer = false

section Timer

variable {c : CallImpl} {cached : Bool} {pc : Pc} {r : Reply} {m : Move}

/-- A move starts the timer only as `arms` says, an answer stops it, and only the timer's
own function goes on as such. -/
theorem move_timer (h : move c cached pc r = some m) :
    (m.call.ringTimeout = .armed → c.ringTimeout = .armed ∧ m.answers = false
        ∨ pc.arms c = true)
    ∧ (m.pc.rings = true → pc.rings = true ∨ pc = .ringTimeout ∧ c.below)
    ∧ (∀ z ∈ m.spawn, z.rings = false)
    ∧ (m.noAnswer = true → pc.rings = true)
    ∧ (m.answers = true → (∃ t, pc = .active t) ∨ ∃ t id, pc = .handle (.bridge t id)) := by
  cases move_cases h with
  | ringing t c' hc =>
    obtain ⟨-, hsame | ⟨hunset, hreq⟩⟩ := CallImpl.setRinging_spec hc
    · simp +contextual [hsame, Pc.rings]
    · simp [hunset, hreq, Pc.rings, Pc.arms]
  | progress t c' hc =>
    obtain ⟨-, hsame | ⟨hfirst, hset, hreq⟩⟩ := CallImpl.setProgress_spec hc
    · simp +contextual [hsame, Pc.rings]
    · simp [hfirst, hset, hreq, Pc.rings, Pc.arms]
  | active t => simp [CallImpl.setActive, Timer.stop_ne_armed, Pc.rings]
  | bridge t id => simp [CallImpl.setBridge, Timer.stop_ne_armed, Pc.rings]
  | hangup e hat => simp [CallImpl.setHangup, Timer.stop_ne_armed, Pc.rings]
  | cancel timer cause hnew => cases timer <;> simp +contextual [Pc.rings]
  | request timer cause hnew => cases timer <;> simp +contextual [Pc.rings]
  | setCancel timer cause => cases timer <;> simp +contextual [Pc.rings]
  | hangupCall timer cause hok => cases timer <;> simp +contextual [Pc.rings]
  | hangupCallError timer cause hok => cases timer <;> simp +contextual [Pc.rings]
  | noAnswer hbelow => simp +contextual [CallImpl.below, hbelow]
  | _ => simp +contextual [Pc.rings, CallImpl.setAmd]

/-- The state comes below `CALL_STATE_ACCEPT` only as `lowers` says, an answer is going to write
its state, and nobody becomes the function of the timer. -/
theorem move_below (h : move c cached pc r = some m) :
    (m.call.below → c.below ∧ pc.accepts = false ∨ pc.lowers = true)
    ∧ (m.answers = true → m.pc.accepts = true)
    ∧ m.pc ≠ .ringTimeout ∧ .ringTimeout ∉ m.spawn := by
  cases move_cases h with
  | ringing t c' hc =>
    rw [(CallImpl.setRinging_spec hc).1]
    simp +contextual [CallImpl.below, Pc.accepts]
  | progress t c' hc =>
    rw [(CallImpl.setProgress_spec hc).1]
    simp +contextual [CallImpl.below, Pc.accepts]
  | assign s => simp +contextual [CallImpl.below, Pc.lowers]
  | bridge t id => exact ⟨fun hbelow => .inl ⟨hbelow, rfl⟩, fun _ => rfl, nofun, nofun⟩
  | _ =>
    simp +contextual [CallImpl.below, Pc.accepts, Pc.lowers, CallImpl.setActive, CallImpl.setAmd,
      CallImpl.setHangup]

variable {w : World} {i : Nat}

theorem written_move (hw : Quieted w) (hpc : w.threads[i]? = some pc)
    (hm : move w.call w.cached pc r = some m) (hok : InOrder w (.advance i r))
    (ha : (w.apply i m).answered = true) (hring : .ringTimeout ∈ (w.apply i m).threads)
    (hbelow : m.call.below) : ∃ z ∈ (w.apply i m).threads, z.accepts = true := by
  obtain ⟨hlowers, hanswers, hpc', hspawn⟩ := move_below hm
  obtain ⟨-, -, -, -, hlower⟩ := hok pc hpc
  have hring : .ringTimeout ∈ w.threads.eraseIdx i := by
    rcases (mem_set_append hpc).mp hring with h | h | h
    · exact absurd h.symm hpc'
    · exact absurd h hspawn
    · exact h
  have hwaits : .ringTimeout ∈ w.threads := List.mem_of_mem_eraseIdx hring
  rcases Bool.or_eq_true_iff.mp ha with hanswered | hnow
  · rcases hlowers hbelow with ⟨hold, hself⟩ | hlow
    · obtain ⟨z, hz, hz'⟩ := hw.written hanswered hwaits hold
      rcases (mem_pool hpc).mp hz with rfl | hz
      · rw [hself] at hz'
        cases hz'
      · exact ⟨z, (mem_set_append hpc).mpr (.inr (.inr hz)), hz'⟩
    · exact absurd hwaits (hlower hanswered hlow)
  · exact ⟨m.pc, (mem_set_append hpc).mpr (.inl rfl), hanswers hnow⟩

theorem quieted_move (hw : Quieted w) (hpc : w.threads[i]? = some pc)
    (hm : move w.call w.cached pc r = some m) (hok : InOrder w (.advance i r)) :
    Quieted (w.apply i m) := by
  obtain ⟨harmed, hrings, hspawn, hnoAnswer, hanswers⟩ := move_timer hm
  have hmem : pc ∈ w.threads := List.mem_of_getElem? hpc
  obtain ⟨-, hanswer, harms, hlooks, -⟩ := hok pc hpc
  -- whoever rings when the call is answered does so no more
  have hother : w.answered = true ∨ m.answers = true →
      pc.rings = false ∧ ∀ z ∈ w.threads.eraseIdx i, z.rings = false := by
    rintro (ha | ha)
    · exact ⟨hw.silent ha pc hmem, fun z hz => hw.silent ha z (List.mem_of_mem_eraseIdx hz)⟩
    · rcases hanswers ha with ⟨t, rfl⟩ | ⟨t, id, rfl⟩
      · exact ⟨rfl, hanswer rfl⟩
      · exact ⟨rfl, hanswer rfl⟩
  have hsplit : (w.apply i m).answered = true → w.answered = true ∨ m.answers = true := by
    intro ha
    simpa [World.apply] using ha
  constructor
  · intro ha hrunning
    rcases harmed hrunning with ⟨hold, hno⟩ | hstart
    · rcases hsplit ha with h | h
      · exact hw.stopped h hold
      · rw [hno] at h
        cases h
    · rcases hsplit ha with h | h
      · rw [harms hstart] at h
        cases h
      · rcases hanswers h with ⟨t, rfl⟩ | ⟨t, id, rfl⟩
        · cases hstart
        · cases hstart
  · intro ha z hz
    obtain ⟨hself, hothers⟩ := hother (hsplit ha)
    rcases (mem_set_append hpc).mp hz with rfl | hz | hz
    · refine Bool.eq_false_iff.mpr fun hrung => ?_
      rcases hrings hrung with h | ⟨rfl, hbelow⟩
      · rw [hself] at h
        cases h
      · -- the function of the timer has found the answer
        have hanswered : w.answered = true := (hsplit ha).resolve_right fun h => by
          rcases hanswers h with ⟨t, h⟩ | ⟨t, id, h⟩ <;> cases h
        obtain ⟨z, hz, hz'⟩ := hw.written hanswered hmem hbelow
        rw [hlooks hanswered rfl z hz] at hz'
        cases hz'
    · exact hspawn z hz
    · exact hothers z hz
  · exact written_move hw hpc hm hok
  · show (w.lateNoAnswer || (m.noAnswer && w.answered)) = false
    rw [hw.inTime, Bool.false_or, Bool.and_eq_false_iff]
    by_contra hlate
    simp only [not_or, Bool.not_eq_false] at hlate
    have hrung := hnoAnswer hlate.1
    rw [(hother (.inl hlate.2)).1] at hrung
    cases hrung

end Timer

theorem quieted_spawn {w : World} {pc : Pc} (hw : Quieted w) (hrings : pc.rings = false)
    (hpc : w.answered = true → pc ≠ .ringTimeout) : Quieted (w.spawn pc) := by
  refine ⟨hw.stopped, fun ha => forall_spawn (hw.silent ha) hrings, fun ha hring hbelow => ?_,
    hw.inTime⟩
  rcases List.mem_append.mp hring with h | h
  · obtain ⟨z, hz, hz'⟩ := hw.written ha h hbelow
    exact ⟨z, List.mem_append_left _ hz, hz'⟩
  · exact absurd (List.mem_singleton.mp h).symm (hpc ha)

theorem quieted_outside {w w' : World} {l : Label} (hw : Quieted w) (h : Outside w l w') :
    Quieted w' := by
  cases h with
  | event e => exact quieted_spawn hw rfl nofun
  | hangup cause => exact quieted_spawn hw rfl nofun
  | hangupMany cause => exact quieted_spawn hw rfl nofun
  | invite => exact quieted_spawn hw rfl nofun
  | fire harmed =>
    have hidle : Quieted { w with call := { w.call with ringTimeout := .idle } } :=
      ⟨nofun, hw.silent, hw.written, hw.inTime⟩
    -- a timer that fires is running, so the call is not answered
    exact quieted_spawn hidle rfl fun ha => absurd harmed (hw.stopped ha)
  | evict => exact ⟨hw.stopped, hw.silent, hw.written, hw.inTime⟩
  | receive s rest hs => exact ⟨hw.stopped, hw.silent, hw.written, hw.inTime⟩

/-! ## Every run -/

theorem settled_quieted_step (w : World) (l : Label) (w' : World) (hw : Settled w ∧ Quieted w)
    (hok : InOrder w l) (h : step w l = some w') : Settled w' ∧ Quieted w' := by
  rcases step_cases h with hout | ⟨i, r, pc, m, rfl, hpc, hm, rfl⟩
  · exact ⟨settled_outside hw.1 hout hok, quieted_outside hw.2 hout⟩
  · exact ⟨settled_move hw.1 hpc hm hok, quieted_move hw.2 hpc hm hok⟩

theorem settled_quieted_start (o : Origin) : Settled (start o) ∧ Quieted (start o) := by
  have hat : (start o).call.hangupAt = 0 := by cases o <;> rfl
  have hthreads : ∀ pc, pc ∉ (start o).threads := fun _ => List.not_mem_nil
  refine ⟨⟨fun h => absurd hat h, fun h => absurd hat h, fun h => absurd hat h,
    fun h => absurd h (hthreads _), fun h => absurd h (hthreads _), fun h => ?_⟩,
    ⟨fun h => ?_, fun h => ?_, fun h => ?_, rfl⟩⟩
  all_goals cases h

/-- **A call that has hung up stays so, and an answered call is not hung up by its ring
timer**, in every run in which no goroutine overtakes another in the ways `InOrder` names. -/
theorem hangup_final_and_timer_silent (o : Origin) (labels : List Label) {w : World}
    (horder : Along step InOrder (start o) labels) (hrun : run step (start o) labels = some w) :
    (w.returned = true → w.call.state = .hangup) ∧ w.lateNoAnswer = false := by
  obtain ⟨hsettled, hquieted⟩ :=
    run_invariant settled_quieted_step labels (settled_quieted_start o) horder hrun
  exact ⟨fun h => (hsettled.returned h).2, hquieted.inTime⟩

/-! ## Goroutines that overtake each other -/

def dialed : List Label := [.invite] ++ steps 0 2 true ++ steps 1 2 true

/-- The ringing handler, thread 2, has left its section when the hangup, thread 3, is
handled from start to end, and sets the state then. -/
def ringingAfterHangup : List Label :=
  dialed ++ [.event (.ringing 5), .event (.hangup (normalClearing 9))] ++ steps 2 2 true
    ++ steps 3 4 true ++ steps 2 1 true

/-- The active event, thread 2, is handled before the ringing event, thread 3. Then the
timer fires, and its function is thread 4. -/
def ringingAfterActive : List Label :=
  dialed ++ [.event (.active 7), .event (.ringing 5)] ++ steps 2 5 true ++ steps 3 3 true
    ++ [.fire] ++ steps 4 3 true

/-- A call that has hung up is ringing again, and an answered call is hung up with
`NO_ANSWER`. -/
theorem overtaken_handlers :
    (run step (start (.newCall 30)) ringingAfterHangup).map
        (fun w => (w.returned, w.call.state)) = some (true, .ringing)
    ∧ (run step (start (.newCall 30)) ringingAfterActive).map
        (fun w => (w.answered, w.lateNoAnswer)) = some (true, true) :=
  ⟨rfl, rfl⟩

/-- Ringing, active and hangup, threads 2, 3 and 4, are each handled to the end before the
next one starts. -/
def orderly : List Label :=
  dialed ++ [.event (.ringing 5)] ++ steps 2 4 true ++ [.event (.active 7)] ++ steps 3 5 true
    ++ [.event (.hangup (normalClearing 9))] ++ steps 4 4 true

theorem orderly_hangup_final :
    ∃ w, run step (start (.newCall 30)) orderly = some w ∧ w.returned = true ∧ w.answered = true
      ∧ w.call.state = .hangup ∧ w.lateNoAnswer = false := by
  obtain ⟨w, hrun⟩ := Option.isSome_iff_exists.mp
    (rfl : (run step (start (.newCall 30)) orderly).isSome = true)
  have hdone : (run step (start (.newCall 30)) orderly).map
      (fun w => (w.returned, w.answered)) = some (true, true) := rfl
  rw [hrun, Option.map_some, Option.some.injEq, Prod.mk.injEq] at hdone
  have hsafe := hangup_final_and_timer_silent (.newCall 30) orderly (by decide) hrun
  exact ⟨w, hrun, hdone.1, hdone.2, hsafe.1 hdone.1, hsafe.2⟩

end CallCenter.CallManager
