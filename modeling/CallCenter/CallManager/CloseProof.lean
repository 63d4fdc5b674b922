import CallCenter.CallManager.CallWorld

/-!
# How often the hangup channel is closed

Two places close `hangupCh`: `setHangup`, once, because it looks at `hangupAt` under the lock, and
`Hangup` of a call that was not invited yet, which looks at the state and does not change it. So a
second `Hangup` of such a call closes the channel again, and `Invite` dials a call whose channel is
closed.

Used with care the two are apart. Then a dial comes before the close as long as `setHangup` does not
run between `Invite` and the dial it starts.
-/

namespace CallCenter.CallManager

open Queue (CallState)
open Lib

/-! ## The care it takes -/

def Pc.willDial : Pc → Bool
  | .saveToCache | .inviteState | .dial => true
  | _ => false

/-- `Hangup` closes the channel of a call that is still new only if it is open and nobody is about
to dial, `Invite` is called only while the channel is open, and `setHangup` does not overtake a
dial. -/
def Careful (w : World) : Label → Prop
  | .advance i _ => ∀ pc ∈ w.threads[i]?,
    (pc = .closeNew → w.call.state = .new →
      w.call.hangupCh = 0 ∧ ∀ z ∈ w.threads, z.willDial = false)
    ∧ (pc.hangsUp = true → w.call.hangupAt = 0 → ∀ z ∈ w.threads, z.willDial = false)
  | .invite => w.call.hangupCh = 0
  | _ => True

instance (w : World) (l : Label) : Decidable (Careful w l) := by
  unfold Careful
  split <;> infer_instance

/-! ## What a move does to the channel -/

def Pc.early : Pc → Bool
  | .getCall _ | .hangupMany _ | .hangup _ _ | .setCancel _ _ | .closeNew | .saveToCache
  | .inviteState | .finished => true
  | _ => false

theorem toNat_lt_invite {s : CallState} : s.toNat < CallState.invite.toNat ↔ s = .new := by
  cases s <;> decide

section Moves

variable {c : CallImpl} {cached : Bool} {pc : Pc} {r : Reply} {m : Move}

/-- The channel is closed by the first `setHangup`, and by a `Hangup` that has found the
call new twice. -/
theorem move_close (h : move c cached pc r = some m) :
    (pc.hangsUp = true ∧ c.hangupAt = 0 ∧ m.call.hangupAt ≠ 0
        ∧ m.call.hangupCh = c.hangupCh + 1 ∧ m.call.state = c.state)
    ∨ (m.call.hangupAt = c.hangupAt ∧ (m.call.hangupCh = c.hangupCh
        ∨ pc = .closeNew ∧ c.state = .new ∧ m.call.state = .new
          ∧ m.call.hangupCh = c.hangupCh + 1)) := by
  cases move_cases h with
  | hangup e hat => exact .inl ⟨rfl, hat, c.setHangup_hangupAt_ne_zero e r.now_pos, rfl, rfl⟩
  | close hnew => exact .inr ⟨rfl, .inr ⟨rfl, hnew, hnew, rfl⟩⟩
  | ringing t c' hc =>
    rw [(CallImpl.setRinging_spec hc).1]
    exact .inr ⟨rfl, .inl rfl⟩
  | progress t c' hc =>
    rw [(CallImpl.setProgress_spec hc).1]
    exact .inr ⟨rfl, .inl rfl⟩
  | _ => exact .inr ⟨rfl, .inl rfl⟩

theorem move_new (h : move c cached pc r = some m) (hassign : pc ≠ .assign .new) :
    m.call.outbound = c.outbound ∧ m.pc ≠ .assign .new ∧ (∀ z ∈ m.spawn, z ≠ .assign .new)
      ∧ (m.call.state = .new → c.state = .new ∧ pc ≠ .inviteState) := by
  cases move_cases h with
  | ringing t c' hc =>
    rw [(CallImpl.setRinging_spec hc).1]
    simp +contextual
  | progress t c' hc =>
    rw [(CallImpl.setProgress_spec hc).1]
    simp +contextual
  | assign s =>
    simp only [ne_eq, Pc.assign.injEq] at hassign
    simp [hassign]
  | _ =>
    simp +contextual [CallImpl.setActive, CallImpl.setBridge, CallImpl.setAmd, CallImpl.setHangup]

theorem move_willDial (h : move c cached pc r = some m) :
    (m.pc.willDial = true → pc.willDial = true)
      ∧ (∀ z ∈ m.spawn, z.willDial = true → pc.willDial = true)
      ∧ (m.dials = true → pc = .dial) := by
  cases move_cases h <;> simp [Pc.willDial]

theorem move_early_state (h : move c cached pc r = some m) (hearly : pc.early = true)
    (hinvite : pc ≠ .inviteState) : m.call.state = c.state := by
  cases move_cases h with
  | invite => exact absurd rfl hinvite
  | _ => first | rfl | cases hearly

theorem move_early (h : move c cached pc r = some m) (hearly : pc.early = true)
    (hnew : c.state = .new) (hunknown : cached = false) (hout : c.outbound = true)
    (hinvite : pc ≠ .inviteState) :
    m.pc = .inviteState
      ∨ m.pc.early = true ∧ m.spawn = [] ∧ m.cached = false
        ∧ m.call.ringTimeout = c.ringTimeout := by
  cases move_cases h with
  | request timer cause hstate => exact absurd (toNat_lt_invite.mpr hnew) hstate
  | invite => exact absurd rfl hinvite
  | _ => simp_all [Pc.early]

end Moves

/-! ## The invariant -/

/-- The hangup channel is closed at most once, and nobody dials after it. -/
structure OneClose (w : World) : Prop where
  new : w.call.state = .new → w.call.hangupAt = 0 ∧ w.call.outbound = true
  /-- Nobody knows a new call, unless `Invite` is just about to set its state. -/
  unknown : w.call.state = .new → .inviteState ∉ w.threads →
    w.cached = false ∧ w.call.ringTimeout ≠ .armed ∧ ∀ pc ∈ w.threads, pc.early = true
  assigns : .assign .new ∉ w.threads
  once : w.call.hangupCh ≤ 1
  /-- Once the call is not new any more, only `setHangup` closes the channel. -/
  closed : w.call.state ≠ .new → w.call.hangupAt = 0 → w.call.hangupCh = 0
  undialed : ∀ pc ∈ w.threads, pc.willDial = true → w.call.hangupCh = 0
  inTime : w.lateDial = false

/-- `setHangup` does not run on a new call. -/
theorem OneClose.not_new {w : World} {pc : Pc} (hw : OneClose w) (hmem : pc ∈ w.threads)
    (hpc : pc.hangsUp = true) (hok : ∀ z ∈ w.threads, z.willDial = false) :
    w.call.state ≠ .new := by
  intro hnew
  have hearly := (hw.unknown hnew fun hin => by cases hok _ hin).2.2 pc hmem
  cases pc with
  | handle e => cases hearly
  | _ => cases hpc

section Step

variable {w : World} {i : Nat} {r : Reply} {pc : Pc} {m : Move}

theorem unknown_move (hw : OneClose w) (hpc : w.threads[i]? = some pc)
    (hm : move w.call w.cached pc r = some m) (hnew : (w.apply i m).call.state = .new)
    (hinvite : .inviteState ∉ (w.apply i m).threads) :
    (w.apply i m).cached = false ∧ (w.apply i m).call.ringTimeout ≠ .armed
      ∧ ∀ z ∈ (w.apply i m).threads, z.early = true := by
  have hmem : pc ∈ w.threads := List.mem_of_getElem? hpc
  have hassign : pc ≠ .assign .new := fun h => hw.assigns (h ▸ hmem)
  obtain ⟨-, -, -, hkeep⟩ := move_new hm hassign
  obtain ⟨hold, hne⟩ := hkeep hnew
  -- `Invite` was not about to set the state before either
  have hnot : .inviteState ∉ w.threads := by
    intro hin
    rcases (mem_pool hpc).mp hin with h | h
    · exact hne h.symm
    · exact hinvite ((mem_set_append hpc).mpr (.inr (.inr h)))
  obtain ⟨hcached, hring, hearly⟩ := hw.unknown hold hnot
  rcases move_early hm (hearly pc hmem) hold hcached (hw.new hold).2 hne
    with h | ⟨hto, hspawn, hcached', hring'⟩
  · exact absurd ((mem_set_append hpc).mpr (.inl h.symm)) hinvite
  · refine ⟨hcached', fun h => hring (hring' ▸ h), forall_apply hpc hearly hto ?_⟩
    intro z hz
    rw [hspawn] at hz
    cases hz

theorem new_move (hw : OneClose w) (hpc : w.threads[i]? = some pc)
    (hm : move w.call w.cached pc r = some m) (hat : m.call.hangupAt = w.call.hangupAt)
    (hnew : m.call.state = .new) : m.call.hangupAt = 0 ∧ m.call.outbound = true := by
  obtain ⟨hout, -, -, hkeep⟩ :=
    move_new hm fun h => hw.assigns (h ▸ List.mem_of_getElem? hpc)
  obtain ⟨hzero, hout'⟩ := hw.new (hkeep hnew).1
  exact ⟨hat.trans hzero, hout.trans hout'⟩

theorem closed_move (hw : OneClose w) (hpc : w.threads[i]? = some pc)
    (hm : move w.call w.cached pc r = some m) (hat : m.call.hangupAt = w.call.hangupAt)
    (hch : m.call.hangupCh = w.call.hangupCh) (hnew : m.call.state ≠ .new)
    (hzero : m.call.hangupAt = 0) : m.call.hangupCh = 0 := by
  rw [hch]
  by_cases hold : w.call.state = .new
  · by_cases hinvite : .inviteState ∈ w.threads
    · exact hw.undialed _ hinvite rfl
    · -- nobody else changes the state of a new call
      have hmem : pc ∈ w.threads := List.mem_of_getElem? hpc
      have hkept := move_early_state hm ((hw.unknown hold hinvite).2.2 pc hmem)
        fun h => hinvite (h ▸ hmem)
      exact absurd (hkept.trans hold) hnew
  · exact hw.closed hold (hat ▸ hzero)

theorem undialed_move (hw : OneClose w) (hpc : w.threads[i]? = some pc)
    (hm : move w.call w.cached pc r = some m)
    (hch : m.call.hangupCh = w.call.hangupCh ∨ ∀ z ∈ w.threads, z.willDial = false) :
    ∀ z ∈ (w.apply i m).threads, z.willDial = true → m.call.hangupCh = 0 := by
  obtain ⟨hto, hspawn, -⟩ := move_willDial hm
  have hold : ∀ z ∈ w.threads, z.willDial = true → m.call.hangupCh = 0 := by
    intro z hz hdial
    rcases hch with hch | hnone
    · exact hch.trans (hw.undialed z hz hdial)
    · rw [hnone z hz] at hdial
      cases hdial
  have hself := hold pc (List.mem_of_getElem? hpc)
  exact forall_apply hpc hold (fun h => hself (hto h)) fun z hz h => hself (hspawn z hz h)

theorem oneClose_move (hw : OneClose w) (hpc : w.threads[i]? = some pc)
    (hm : move w.call w.cached pc r = some m) (hok : Careful w (.advance i r)) :
    OneClose (w.apply i m) := by
  have hmem : pc ∈ w.threads := List.mem_of_getElem? hpc
  obtain ⟨hclose, hhangup⟩ := hok pc hpc
  have hassigns : .assign .new ∉ (w.apply i m).threads := by
    obtain ⟨-, hto, hspawn, -⟩ := move_new hm fun h => hw.assigns (h ▸ hmem)
    have hnone : ∀ z ∈ w.threads, z ≠ .assign .new := fun z hz h => hw.assigns (h ▸ hz)
    exact fun hin => forall_apply hpc hnone hto hspawn _ hin rfl
  have hlate : (w.apply i m).lateDial = false := by
    show (w.lateDial || (m.dials && decide (0 < w.call.hangupCh))) = false
    rw [hw.inTime, Bool.false_or, Bool.and_eq_false_iff]
    by_cases hdials : m.dials = true
    · obtain rfl := (move_willDial hm).2.2 hdials
      simp [hw.undialed _ hmem rfl]
    · exact .inl (Bool.eq_false_iff.mpr hdials)
  rcases move_close hm with ⟨hpc', hzero, hne, hch, hstate⟩ | ⟨hat, hch | ⟨rfl, hnew, hnew', hch⟩⟩
  · -- the first `setHangup`
    have hundialed := hhangup hpc' hzero
    have hold : w.call.state ≠ .new := hw.not_new hmem hpc' hundialed
    refine ⟨fun h => absurd (hstate ▸ h) hold, unknown_move hw hpc hm, hassigns, ?_,
      fun _ h => absurd h hne, undialed_move hw hpc hm (.inr hundialed), hlate⟩
    show m.call.hangupCh ≤ 1
    rw [hch, hw.closed hold hzero]
  · refine ⟨new_move hw hpc hm hat, unknown_move hw hpc hm, hassigns, hch ▸ hw.once,
      closed_move hw hpc hm hat hch, undialed_move hw hpc hm (.inl hch), hlate⟩
  · -- a `Hangup` of a call that is still new
    obtain ⟨hopen, hundialed⟩ := hclose rfl hnew
    refine ⟨new_move hw hpc hm hat, unknown_move hw hpc hm, hassigns, ?_,
      fun h => absurd hnew' h, undialed_move hw hpc hm (.inr hundialed), hlate⟩
    show m.call.hangupCh ≤ 1
    rw [hch, hopen]

end Step

theorem oneClose_spawn {w : World} {pc : Pc} (hw : OneClose w)
    (hearly : w.call.state = .new → .inviteState ∉ w.threads → pc.early = true)
    (hassign : pc ≠ .assign .new) (hdial : pc.willDial = true → w.call.hangupCh = 0) :
    OneClose (w.spawn pc) := by
  refine ⟨hw.new, fun hnew hinvite => ?_, fun hin => ?_, hw.once, hw.closed,
    forall_spawn hw.undialed hdial, hw.inTime⟩
  · have hnot : .inviteState ∉ w.threads := fun hin => hinvite (List.mem_append_left _ hin)
    obtain ⟨hcached, hring, hold⟩ := hw.unknown hnew hnot
    exact ⟨hcached, hring, forall_spawn hold (hearly hnew hnot)⟩
  · have hold : ∀ z ∈ w.threads, z ≠ .assign .new := fun z hz h => hw.assigns (h ▸ hz)
    exact forall_spawn hold hassign _ hin rfl

theorem oneClose_outside {w w' : World} {l : Label} (hw : OneClose w) (h : Outside w l w')
    (hok : Careful w l) : OneClose w' := by
  cases h with
  | event e => exact oneClose_spawn hw (fun _ _ => rfl) nofun nofun
  | hangup cause => exact oneClose_spawn hw (fun _ _ => rfl) nofun nofun
  | hangupMany cause => exact oneClose_spawn hw (fun _ _ => rfl) nofun nofun
  | invite => exact oneClose_spawn hw (fun _ _ => rfl) nofun fun _ => hok
  | fire harmed =>
    have hidle : OneClose { w with call := { w.call with ringTimeout := .idle } } :=
      { hw with
        unknown := fun hnew hnot =>
          ⟨(hw.unknown hnew hnot).1, nofun, (hw.unknown hnew hnot).2.2⟩ }
    -- the timer of a call that nobody knows is not running
    exact oneClose_spawn hidle (fun hnew hnot => absurd harmed (hw.unknown hnew hnot).2.1)
      nofun nofun
  | evict =>
    exact { hw with unknown := fun hnew hnot => ⟨rfl, (hw.unknown hnew hnot).2⟩ }
  | receive s rest hs => exact { hw with }

/-! ## Every run -/

theorem oneClose_step (w : World) (l : Label) (w' : World) (hw : OneClose w)
    (hok : Careful w l) (h : step w l = some w') : OneClose w' := by
  rcases step_cases h with hout | ⟨i, r, pc, m, rfl, hpc, hm, rfl⟩
  · exact oneClose_outside hw hout hok
  · exact oneClose_move hw hpc hm hok

theorem oneClose_start (o : Origin) : OneClose (start o) where
  new := by
    intro hnew
    cases o with
    | newCall timeout => exact ⟨rfl, rfl⟩
    | joined outbound answeredAt createdAt => cases hnew
  unknown := by
    intro hnew _
    cases o with
    | newCall timeout =>
      exact ⟨rfl, fun h => Timer.noConfusion h, fun _ h => absurd h List.not_mem_nil⟩
    | joined outbound answeredAt createdAt => cases hnew
  assigns := List.not_mem_nil
  once := by cases o <;> exact Nat.zero_le 1
  closed := by
    intro _ _
    cases o <;> rfl
  undialed := fun _ h => absurd h List.not_mem_nil
  inTime := rfl

/-- **The hangup channel is closed at most once and no dial is started after it**, in every
run whose steps are careful. -/
theorem closed_once_and_dialed_before (o : Origin) (labels : List Label) {w : World}
    (hcareful : Along step Careful (start o) labels)
    (hrun : run step (start o) labels = some w) :
    w.call.hangupCh ≤ 1 ∧ w.lateDial = false := by
  have hw := run_invariant oneClose_step labels (oneClose_start o) hcareful hrun
  exact ⟨hw.once, hw.inTime⟩

/-! ## Careless runs -/

def givenUpTwice : List Label :=
  [.hangup "ORIGINATOR_CANCEL", .hangup "LOSE_RACE"] ++ steps 0 3 true ++ steps 1 3 true

/-- The call is given up, then invited (thread 1) and dialed (thread 2); the dial fails. -/
def invitedAfterwards : List Label :=
  [.hangup "ORIGINATOR_CANCEL"] ++ steps 0 3 true ++ [.invite] ++ steps 1 2 true ++ steps 2 3 false

/-- `Invite` has set the state and its goroutine has not dialed; a `Hangup` asks the switch
for a call it does not know, fails, and records the hangup itself. -/
def hungUpBeforeDial : List Label :=
  [.invite] ++ steps 0 2 true ++ [.hangup "ORIGINATOR_CANCEL"] ++ steps 2 4 false ++ steps 1 1 true

/-- The channel is closed twice, a call is dialed and closed again after its channel was
closed, and a call is dialed after it has hung up. -/
theorem careless_close :
    (run step (start (.newCall 30)) givenUpTwice).map (·.call.hangupCh) = some 2
    ∧ (run step (start (.newCall 30)) invitedAfterwards).map
        (fun w => (w.call.hangupCh, w.lateDial)) = some (2, true)
    ∧ (run step (start (.newCall 30)) hungUpBeforeDial).map
        (fun w => (w.call.hangupCh, w.lateDial)) = some (1, true) :=
  ⟨rfl, rfl, rfl⟩

/-- A call is invited and dialed. A `Hangup` fails at the switch and records the hangup
itself; `HangupManyCall` does not find the call any more. -/
def hungUpAfterDial : List Label :=
  [.invite] ++ steps 0 2 true ++ steps 1 2 true ++ [.hangup "ORIGINATOR_CANCEL"] ++ steps 2 4 false
    ++ [.hangupMany ""] ++ steps 3 1 true

theorem careful_close :
    ∃ w, run step (start (.newCall 30)) hungUpAfterDial = some w ∧ w.call.hangupAt ≠ 0
      ∧ w.call.hangupCh ≤ 1 ∧ w.lateDial = false := by
  obtain ⟨w, hrun⟩ := Option.isSome_iff_exists.mp
    (rfl : (run step (start (.newCall 30)) hungUpAfterDial).isSome = true)
  have hhangup : (run step (start (.newCall 30)) hungUpAfterDial).map (·.call.hangupAt)
      = some 1 := rfl
  rw [hrun, Option.map_some, Option.some.injEq] at hhangup
  exact ⟨w, hrun, by omega,
    closed_once_and_dialed_before (.newCall 30) hungUpAfterDial (by decide) hrun⟩

end CallCenter.CallManager
