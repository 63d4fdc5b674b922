import CallCenter.Queue.Shutdown
import Mathlib.Data.List.Infix

/-!
# An orderly shutdown

The manager closes the channel that the dialing watcher sends on, and the watcher is stopped after
the manager. What keeps the two apart is `Orderly`: the watcher has something to send only while the
manager is in its loop.

For the end of `Stop` two more facts are needed: what is left of its program tells which channels
`Stop` has closed and which waits are over (`closes`, `awaited`); and a goroutine that was told to
stop has a rank that each of its steps lowers.
-/

namespace CallCenter.Queue.Shutdown

open Lib

/-! ## The steps -/

inductive Moves (d : Dialer) : Label → Dialer → Prop where
  | stopClose {c rest} : d.stop = .close c :: rest → d.closed c = false →
    Moves d .stop { d.close c with stop := rest }
  | stopTwice {c rest} : d.stop = .close c :: rest → d.closed c = true →
    Moves d .stop { d with panicked := true }
  | stopAwait {c rest} : d.stop = .await c :: rest → d.closed c = true →
    Moves d .stop { d with stop := rest }
  | stopAttempts {rest} : d.stop = .closeAttempts :: rest → Moves d .stop { d with stop := rest }
  | receive {a rest} : d.manager = .selecting → d.watchers .dialing = .polling (a :: rest) →
    d.closed .input = false →
    Moves d .receive { d.setWatcher .dialing (.polling rest) with manager := .distributing }
  | distributed : d.manager = .distributing → Moves d .distributed { d with manager := .selecting }
  | takeStop : d.manager = .selecting → d.closed .stop = true →
    Moves d .takeStop { d with manager := .closing }
  | closeInput : d.manager = .closing →
    Moves d .closeInput { d.close .input with manager := .returning }
  | closeStopped : d.manager = .returning →
    Moves d .closeStopped { d.close .stopped with manager := .finished }
  | poll {w found} : d.watchers w = .selecting →
    Moves d (.poll w found) (d.setWatcher w (.polling (toSend w found)))
  | sendClosed : d.pending ≠ [] → d.closed .input = true →
    Moves d .sendClosed { d with panicked := true }
  | polled {w} : d.watchers w = .polling [] → Moves d (.polled w) (d.setWatcher w .selecting)
  | watcherStop {w} : d.watchers w = .selecting → d.closed (.watcherStop w) = true →
    Moves d (.watcherStop w) ((d.setWatcher w .finished).close (.watcherStopped w))

theorem shutdownStep_cases {d d' : Dialer} {l : Label} (h : shutdownStep d l = some d') :
    Moves d l d' := by
  cases l <;> grind [shutdownStep, Moves]

theorem Moves.step {d d' : Dialer} {l : Label} (halive : d.panicked = false) (h : Moves d l d') :
    shutdownStep d l = some d' := by
  cases h <;> grind [shutdownStep]

/-! ## Channels and watchers -/

section Frame

variable {d : Dialer}

theorem closed_close (d : Dialer) (c : Chan) : (d.close c).closed c = true := if_pos rfl

theorem closed_close_of_ne {c c' : Chan} (h : c' ≠ c) : (d.close c).closed c' = d.closed c' :=
  if_neg h

theorem closed_close_mono {c c' : Chan} (h : d.closed c' = true) :
    (d.close c).closed c' = true := by
  by_cases hc : c' = c
  · rw [hc]
    exact closed_close d c
  · rw [closed_close_of_ne hc]
    exact h

theorem watchers_set (d : Dialer) (w : WatcherId) (pc : WatcherPc) :
    (d.setWatcher w pc).watchers w = pc := if_pos rfl

theorem watchers_set_of_ne {w w' : WatcherId} (h : w' ≠ w) (pc : WatcherPc) :
    (d.setWatcher w pc).watchers w' = d.watchers w' := if_neg h

theorem pending_set_of_ne {w : WatcherId} (h : WatcherId.dialing ≠ w) (pc : WatcherPc) :
    (d.setWatcher w pc).pending = d.pending := by
  unfold Dialer.pending
  rw [watchers_set_of_ne h]

theorem pending_polling {rest : List Polled} (h : d.watchers .dialing = .polling rest) :
    d.pending = rest := by
  unfold Dialer.pending
  rw [h]

theorem polling_of_pending (h : d.pending ≠ []) :
    ∃ a rest, d.watchers .dialing = .polling (a :: rest) := by
  unfold Dialer.pending at h
  cases hwatcher : d.watchers .dialing with
  | selecting => rw [hwatcher] at h; exact absurd rfl h
  | finished => rw [hwatcher] at h; exact absurd rfl h
  | polling rest =>
    cases rest with
    | nil => rw [hwatcher] at h; exact absurd rfl h
    | cons a rest => exact ⟨a, rest, rfl⟩

end Frame

def Chan.closer : Chan → Goroutine
  | .stop | .watcherStop _ => .stop
  | .input | .stopped => .manager
  | .watcherStopped w => .watcher w

theorem closed_close_of_closer {d : Dialer} {c c' : Chan} (h : c'.closer ≠ c.closer) :
    (d.close c).closed c' = d.closed c' := by
  refine closed_close_of_ne fun heq => h ?_
  rw [heq]

theorem stopDialing_nodup : stopDialing.Nodup := by decide

theorem closer_of_mem : ∀ a ∈ stopDialing, ∀ c, a = .close c → c.closer = .stop := by
  intro a ha c hc
  subst hc
  cases c with
  | stop => rfl
  | watcherStop w => rfl
  | input => exact absurd ha (by decide)
  | stopped => exact absurd ha (by decide)
  | watcherStopped w =>
    cases w with
    | waitingList => exact absurd ha (by decide)
    | dialing => exact absurd ha (by decide)
    | statistics => exact absurd ha (by decide)
    | expired => exact absurd ha (by decide)

/-! ## Safety -/

/-- A channel is closed by its own goroutine, in the order of `Stop`. -/
structure Orderly (d : Dialer) : Prop where
  alive : d.panicked = false
  program : d.stop <:+ stopDialing
  /-- A channel of `Stop` is closed when the statement that closes it is done. -/
  closes : ∀ c, c.closer = .stop → (d.closed c = true ↔ StopAction.close c ∉ d.stop)
  /-- A wait is over only when its channel is closed. -/
  awaited : ∀ c, StopAction.await c ∈ stopDialing → StopAction.await c ∉ d.stop →
    d.closed c = true
  input : d.closed .input = true → d.manager = .returning ∨ d.manager = .finished
  stopped : d.closed .stopped = true ↔ d.manager = .finished
  /-- The dialing watcher sends only to a manager in its loop. -/
  sends : d.pending ≠ [] → d.looping
  others : ∀ w rest, w ≠ .dialing → d.watchers w = .polling rest → rest = []
  watcherStopped : ∀ w, d.closed (.watcherStopped w) = true ↔ d.watchers w = .finished

theorem orderly_start : Orderly Dialer.start where
  alive := rfl
  program := List.suffix_refl _
  closes := by
    intro c hc
    refine ⟨fun h => Bool.noConfusion h, fun hnot => absurd ?_ hnot⟩
    cases c with
    | stop => decide
    | watcherStop w => cases w <;> decide
    | input => cases hc
    | stopped => cases hc
    | watcherStopped w => cases hc
  awaited := fun c hc hnot => absurd hc hnot
  input := fun h => Bool.noConfusion h
  stopped := ⟨fun h => Bool.noConfusion h, fun h => ManagerPc.noConfusion h⟩
  sends := fun h => absurd rfl h
  others := fun _ _ _ h => WatcherPc.noConfusion h
  watcherStopped := fun _ => ⟨fun h => Bool.noConfusion h, fun h => WatcherPc.noConfusion h⟩

section Safety

variable {d : Dialer}

theorem Orderly.manager_open (h : Orderly d) :
    (d.manager ≠ .returning → d.manager ≠ .finished → d.closed .input = false)
      ∧ (d.manager ≠ .finished → d.closed .stopped = false) := by
  grind [cases Orderly]

theorem looping_ne (h : d.looping) : d.manager ≠ .returning ∧ d.manager ≠ .finished := by
  rcases h with h | h
  all_goals grind

theorem Orderly.stop_close {c : Chan} {rest : List StopAction} (h : Orderly d)
    (hstop : d.stop = .close c :: rest) : Orderly { d.close c with stop := rest } := by
  have hmem : StopAction.close c ∈ stopDialing := by
    refine h.program.subset ?_
    rw [hstop]
    exact List.mem_cons_self
  have hcloser : c.closer = .stop := closer_of_mem _ hmem c rfl
  have hnew : StopAction.close c ∉ rest := by
    have hnodup := stopDialing_nodup.sublist h.program.sublist
    rw [hstop] at hnodup
    exact (List.nodup_cons.mp hnodup).1
  have hother : ∀ c', c'.closer ≠ .stop → (d.close c).closed c' = d.closed c' := by
    intro c' hc'
    rw [← hcloser] at hc'
    exact closed_close_of_closer hc'
  exact {
    alive := h.alive
    program := by
      refine List.IsSuffix.trans ?_ h.program
      rw [hstop]
      exact List.suffix_cons _ _
    closes := by
      intro c' hc'
      by_cases heq : c' = c
      · rw [heq]
        exact ⟨fun _ => hnew, fun _ => closed_close d c⟩
      · show (d.close c).closed c' = true ↔ StopAction.close c' ∉ rest
        rw [closed_close_of_ne heq, h.closes c' hc', hstop, List.mem_cons]
        refine not_congr (or_iff_right fun hsame => heq ?_)
        exact StopAction.close.inj hsame
    awaited := by
      intro c' hc' hnot
      refine closed_close_mono (h.awaited c' hc' ?_)
      rw [hstop, List.mem_cons]
      rintro (hsame | hrest)
      · cases hsame
      · exact hnot hrest
    input := by
      intro hclosed
      exact h.input ((hother .input (fun hc => Goroutine.noConfusion hc)).symm.trans hclosed)
    stopped := by
      show (d.close c).closed .stopped = true ↔ _
      rw [hother .stopped fun hc => Goroutine.noConfusion hc]
      exact h.stopped
    sends := h.sends
    others := h.others
    watcherStopped := by
      intro w
      show (d.close c).closed (.watcherStopped w) = true ↔ _
      rw [hother (.watcherStopped w) fun hc => Goroutine.noConfusion hc]
      exact h.watcherStopped w }

theorem Orderly.stop_next {a : StopAction} {rest : List StopAction} (h : Orderly d)
    (hstop : d.stop = a :: rest) (hclose : ∀ c, a ≠ .close c)
    (hawait : ∀ c, a = .await c → d.closed c = true) : Orderly { d with stop := rest } :=
  { h with
    program := by
      refine List.IsSuffix.trans ?_ h.program
      rw [hstop]
      exact List.suffix_cons _ _
    closes := by
      intro c hc
      show d.closed c = true ↔ StopAction.close c ∉ rest
      rw [h.closes c hc, hstop, List.mem_cons]
      exact not_congr (or_iff_right fun hsame => hclose c hsame.symm)
    awaited := by
      intro c hc hnot
      by_cases hsame : a = .await c
      · exact hawait c hsame
      · refine h.awaited c hc ?_
        rw [hstop, List.mem_cons]
        rintro (heq | hrest)
        · exact hsame heq.symm
        · exact hnot hrest }

theorem Orderly.loop {pc : ManagerPc} (h : Orderly d) (hloop : d.looping)
    (hpc : pc = .selecting ∨ pc = .distributing) : Orderly { d with manager := pc } := by
  obtain ⟨hreturning, hfinished⟩ := looping_ne hloop
  have hinput := h.manager_open.1 hreturning hfinished
  have hstopped := h.manager_open.2 hfinished
  exact { h with
    input := fun hclosed => absurd (hinput.symm.trans hclosed) Bool.false_ne_true
    stopped := by
      refine ⟨fun hclosed => absurd (hstopped.symm.trans hclosed) Bool.false_ne_true, ?_⟩
      intro hend
      rcases hpc with hpc | hpc
      · exact ManagerPc.noConfusion (hpc.symm.trans hend)
      · exact ManagerPc.noConfusion (hpc.symm.trans hend)
    sends := fun _ => hpc }

theorem Orderly.take_stop (h : Orderly d) (hmanager : d.manager = .selecting)
    (hpending : d.pending = []) : Orderly { d with manager := .closing } := by
  obtain ⟨hreturning, hfinished⟩ := looping_ne (.inl hmanager)
  have hinput := h.manager_open.1 hreturning hfinished
  have hstopped := h.manager_open.2 hfinished
  exact { h with
    input := fun hclosed => absurd (hinput.symm.trans hclosed) Bool.false_ne_true
    stopped := ⟨fun hclosed => absurd (hstopped.symm.trans hclosed) Bool.false_ne_true,
      fun hend => ManagerPc.noConfusion hend⟩
    sends := fun hsome => absurd hpending hsome }

theorem Orderly.manager_close {c : Chan} {pc : ManagerPc} (h : Orderly d)
    (hcloser : c.closer = .manager) (hout : ¬ d.looping)
    (hinput : (d.close c).closed .input = true → pc = .returning ∨ pc = .finished)
    (hstopped : (d.close c).closed .stopped = true ↔ pc = .finished) :
    Orderly { d.close c with manager := pc } := by
  have hother : ∀ c', c'.closer ≠ .manager → (d.close c).closed c' = d.closed c' := by
    intro c' hc'
    rw [← hcloser] at hc'
    exact closed_close_of_closer hc'
  exact {
    alive := h.alive
    program := h.program
    closes := by
      intro c' hc'
      show (d.close c).closed c' = true ↔ _
      rw [hother c' (by rw [hc']; exact fun hc => Goroutine.noConfusion hc)]
      exact h.closes c' hc'
    awaited := fun c' hc' hnot => closed_close_mono (h.awaited c' hc' hnot)
    input := hinput
    stopped := hstopped
    sends := fun hsome => absurd (h.sends hsome) hout
    others := h.others
    watcherStopped := by
      intro w
      show (d.close c).closed (.watcherStopped w) = true ↔ _
      rw [hother (.watcherStopped w) fun hc => Goroutine.noConfusion hc]
      exact h.watcherStopped w }

theorem Orderly.set_watcher {w : WatcherId} {pc : WatcherPc} (h : Orderly d)
    (hold : d.watchers w ≠ .finished) (hnew : pc ≠ .finished)
    (hsends : ∀ rest, w = .dialing → pc = .polling rest → rest ≠ [] → d.looping)
    (hothers : ∀ rest, w ≠ .dialing → pc = .polling rest → rest = []) :
    Orderly (d.setWatcher w pc) :=
  { h with
    sends := by
      by_cases hw : w = .dialing
      · subst hw
        intro hsome
        obtain ⟨a, rest, hpolling⟩ := polling_of_pending hsome
        rw [watchers_set] at hpolling
        exact hsends _ rfl hpolling (List.cons_ne_nil a rest)
      · intro hsome
        rw [pending_set_of_ne (Ne.symm hw)] at hsome
        exact h.sends hsome
    others := by
      intro w' rest hw' hpc
      by_cases hw : w' = w
      · subst hw
        rw [watchers_set] at hpc
        exact hothers rest hw' hpc
      · rw [watchers_set_of_ne hw] at hpc
        exact h.others w' rest hw' hpc
    watcherStopped := by
      intro w'
      show d.closed (.watcherStopped w') = true ↔ _
      rw [h.watcherStopped w']
      by_cases hw : w' = w
      · subst hw
        rw [watchers_set]
        exact ⟨fun hend => absurd hend hold, fun hend => absurd hend hnew⟩
      · rw [watchers_set_of_ne hw] }

theorem Orderly.finish_watcher {w : WatcherId} (h : Orderly d) :
    Orderly ((d.setWatcher w .finished).close (.watcherStopped w)) where
  alive := h.alive
  program := h.program
  closes := by
    intro c hc
    rw [closed_close_of_closer (by rw [hc]; exact fun h => Goroutine.noConfusion h)]
    exact h.closes c hc
  awaited := fun c hc hnot => closed_close_mono (h.awaited c hc hnot)
  input := by
    rw [closed_close_of_closer fun heq => Goroutine.noConfusion heq]
    exact h.input
  stopped := by
    rw [closed_close_of_closer fun heq => Goroutine.noConfusion heq]
    exact h.stopped
  sends := by
    intro hsome
    by_cases hw : w = .dialing
    · subst hw
      exact absurd rfl hsome
    · have hsame : (d.setWatcher w .finished).pending = d.pending :=
        pending_set_of_ne (Ne.symm hw) .finished
      exact h.sends fun hnil => hsome (hsame.trans hnil)
  others := by
    intro w' rest hw' hpc
    change (d.setWatcher w .finished).watchers w' = _ at hpc
    by_cases hw : w' = w
    · rw [hw, watchers_set] at hpc
      cases hpc
    · rw [watchers_set_of_ne hw] at hpc
      exact h.others w' rest hw' hpc
  watcherStopped := by
    intro w'
    show _ ↔ (d.setWatcher w .finished).watchers w' = .finished
    by_cases hw : w' = w
    · rw [hw, watchers_set]
      exact ⟨fun _ => rfl, fun _ => closed_close _ _⟩
    · rw [watchers_set_of_ne hw, closed_close_of_ne fun heq => hw (Chan.watcherStopped.inj heq)]
      exact h.watcherStopped w'

theorem orderly_step {l : Label} {d' : Dialer} (h : Orderly d) (hok : orderly d l)
    (hstep : shutdownStep d l = some d') : Orderly d' := by
  cases shutdownStep_cases hstep with
  | stopClose hstop _ => exact h.stop_close hstop
  | @stopTwice c rest hstop hclosed =>
    -- A channel is closed by one statement of the program.
    have hmem : StopAction.close c ∈ d.stop := by
      rw [hstop]
      exact List.mem_cons_self
    grind [cases Orderly, closer_of_mem]
  | @stopAwait c rest hstop hclosed =>
    refine h.stop_next hstop (fun _ => StopAction.noConfusion) fun c' hc' => ?_
    rw [← StopAction.await.inj hc']
    exact hclosed
  | stopAttempts hstop =>
    exact h.stop_next hstop (fun _ => StopAction.noConfusion) fun _ => StopAction.noConfusion
  | @receive a rest hmanager hwatcher hopen =>
    have hset : Orderly (d.setWatcher .dialing (.polling rest)) := by
      refine h.set_watcher ?_ WatcherPc.noConfusion (fun _ _ _ _ => .inl hmanager)
        fun _ hw => absurd rfl hw
      rw [hwatcher]
      exact WatcherPc.noConfusion
    exact hset.loop (.inl hmanager) (.inr rfl)
  | distributed hmanager => exact h.loop (.inr hmanager) (.inl rfl)
  | takeStop hmanager _ => exact h.take_stop hmanager hok
  | closeInput hmanager =>
    refine h.manager_close rfl ?_ (fun _ => .inl rfl) ?_
    · rintro (hloop | hloop)
      · rw [hmanager] at hloop; cases hloop
      · rw [hmanager] at hloop; cases hloop
    all_goals grind [cases Orderly, closed_close_of_ne]
  | closeStopped hmanager =>
    refine h.manager_close rfl ?_ (fun _ => .inr rfl) ⟨fun _ => rfl, fun _ => closed_close _ _⟩
    rintro (hloop | hloop)
    · rw [hmanager] at hloop; cases hloop
    · rw [hmanager] at hloop; cases hloop
  | @poll w found hwatcher =>
    refine h.set_watcher (by rw [hwatcher]; exact WatcherPc.noConfusion) WatcherPc.noConfusion
      (fun rest _ hrest hsome => ?_) fun rest hw hrest => ?_
    · rcases hok with hloop | hnil
      all_goals grind
    · rw [← WatcherPc.polling.inj hrest]
      exact if_neg hw
  | sendClosed hsome hclosed =>
    grind [cases Orderly, looping_ne]
  | polled hwatcher =>
    exact h.set_watcher (by rw [hwatcher]; exact WatcherPc.noConfusion) WatcherPc.noConfusion
      (fun _ _ hrest => WatcherPc.noConfusion hrest) fun _ _ hrest => WatcherPc.noConfusion hrest
  | watcherStop _ _ => exact h.finish_watcher

end Safety

/-! ## What a step leaves alone -/

section Keeps

variable {d d' : Dialer} {l : Label}

theorem closed_mono (h : Moves d l d') {c : Chan} (hc : d.closed c = true) :
    d'.closed c = true := by
  cases h with
  | stopClose _ _ => exact closed_close_mono hc
  | closeInput _ => exact closed_close_mono hc
  | closeStopped _ => exact closed_close_mono hc
  | watcherStop _ _ => exact closed_close_mono hc
  | _ => exact hc

theorem stop_eq (h : Moves d l d') (hl : l ≠ .stop) : d'.stop = d.stop := by
  cases h with
  | stopClose _ _ => exact absurd rfl hl
  | stopTwice _ _ => exact absurd rfl hl
  | stopAwait _ _ => exact absurd rfl hl
  | stopAttempts _ => exact absurd rfl hl
  | _ => rfl

theorem stop_tail (h : Moves d .stop d') (halive : d'.panicked = false) {a : StopAction}
    {rest : List StopAction} (hstop : d.stop = a :: rest) :
    d'.stop = rest ∧ ∀ c, a = .await c → d.closed c = true := by
  cases h with
  | @stopClose c _ hclose _ =>
    grind
  | stopTwice _ _ => cases halive
  | stopAwait hawait hclosed =>
    grind
  | stopAttempts hattempts =>
    grind

theorem pending_eq (h : Moves d l d') (hpoll : ∀ found, l ≠ .poll .dialing found)
    (hreceive : l ≠ .receive) : d'.pending = d.pending := by
  cases h with
  | receive _ _ _ => exact absurd rfl hreceive
  | @poll w found _ =>
    by_cases hw : w = .dialing
    · subst hw
      exact absurd rfl (hpoll found)
    · exact pending_set_of_ne (Ne.symm hw) _
  | @polled w hwatcher =>
    grind [Dialer.pending, pending_set_of_ne, watchers_set]
  | @watcherStop w hwatcher _ =>
    by_cases hw : w = .dialing
    · subst hw
      unfold Dialer.pending
      rw [hwatcher]
      rfl
    · exact pending_set_of_ne (Ne.symm hw) _
  | _ => rfl

theorem pending_poll {found : List Polled} (h : Moves d (.poll .dialing found) d') :
    d.pending = [] ∧ d'.pending = toSend .dialing found := by
  cases h with
  | poll hwatcher =>
    unfold Dialer.pending
    rw [hwatcher, watchers_set]
    exact ⟨rfl, rfl⟩

theorem watcher_eq (h : Moves d l d') {w : WatcherId} (hl : l.goroutine ≠ .watcher w)
    (hreceive : l = .receive → w ≠ .dialing) : d'.watchers w = d.watchers w := by
  cases h with
  | receive _ _ _ => exact watchers_set_of_ne (hreceive rfl) _
  | poll _ => exact watchers_set_of_ne (fun heq => hl (congrArg _ heq.symm)) _
  | polled _ => exact watchers_set_of_ne (fun heq => hl (congrArg _ heq.symm)) _
  | watcherStop _ _ => exact watchers_set_of_ne (fun heq => hl (congrArg _ heq.symm)) _
  | _ => rfl

theorem pending_receive (h : Moves d .receive d') :
    d.manager = .selecting ∧ d'.manager = .distributing ∧ d'.pending = d.pending.tail
      ∧ d.pending ≠ [] := by
  cases h with
  | @receive a rest hmanager hwatcher _ =>
    rw [pending_polling hwatcher]
    exact ⟨hmanager, rfl, rfl, List.cons_ne_nil _ _⟩

end Keeps

/-! ## The end of `Stop` -/

def Chan.order : Chan → Chan
  | .watcherStopped w => .watcherStop w
  | _ => .stop

def StopAction.awaits : StopAction → Option Chan
  | .await c => some c
  | _ => none

theorem stopDialing_ordered :
    ∀ t ∈ stopDialing.tails, ∀ c ∈ stopDialing.filterMap StopAction.awaits,
    t.head? = some (.await c) → StopAction.close c.order ∉ t
      ∧ (c = .watcherStopped .dialing → StopAction.await .stopped ∉ t) := by
  decide

theorem Orderly.ordered {d : Dialer} (h : Orderly d) {c : Chan} {rest : List StopAction}
    (hstop : d.stop = .await c :: rest) :
    (c = .stopped ∨ ∃ w, c = .watcherStopped w) ∧ d.closed c.order = true
      ∧ (c = .watcherStopped .dialing → d.manager = .finished) := by
  have hmem : StopAction.await c ∈ stopDialing := by
    refine h.program.subset ?_
    rw [hstop]
    exact List.mem_cons_self
  have hawaited : c ∈ stopDialing.filterMap StopAction.awaits :=
    List.mem_filterMap.mpr ⟨_, hmem, rfl⟩
  have hhead : d.stop.head? = some (.await c) := by
    rw [hstop]
    rfl
  obtain ⟨hclose, hmanager⟩ := stopDialing_ordered d.stop ((List.mem_tails _ _).mpr h.program) c
    hawaited hhead
  refine ⟨?_, (h.closes c.order ?_).mpr hclose, fun hc => ?_⟩
  · cases c with
    | stopped => exact .inl rfl
    | watcherStopped w => exact .inr ⟨w, rfl⟩
    | stop => exact absurd hmem (by decide)
    | input => exact absurd hmem (by decide)
    | watcherStop w =>
      cases w with
      | waitingList => exact absurd hmem (by decide)
      | dialing => exact absurd hmem (by decide)
      | statistics => exact absurd hmem (by decide)
      | expired => exact absurd hmem (by decide)
  · cases c with
    | watcherStopped w => rfl
    | _ => rfl
  · exact h.stopped.mp (h.awaited .stopped (by decide) (hmanager hc))

section Liveness

variable {e : Execution shutdownStep}

variable {n : Nat}

theorem moves_at {l : Label} (hl : e.label n = some l) :
    Moves (e.state n) l (e.state (n + 1)) := shutdownStep_cases (e.steps n l hl)

theorem Moves.enabled {d d' : Dialer} {l : Label} (h : Moves d l d') (halive : d.panicked = false)
    (hok : orderly d l) : Enabled shutdownStep Label.goroutine orderly l.goroutine d :=
  ⟨l, d', rfl, h.step halive, hok⟩

variable {rest : List StopAction}

theorem stop_enabled {d : Dialer} (h : Orderly d) {a : StopAction} (hstop : d.stop = a :: rest)
    (hawait : ∀ c, a = .await c → d.closed c = true) :
    Enabled shutdownStep Label.goroutine orderly .stop d := by
  cases a with
  | close c =>
    cases hclosed : d.closed c with
    | false => exact (Moves.stopClose hstop hclosed).enabled h.alive trivial
    | true => exact (Moves.stopTwice hstop hclosed).enabled h.alive trivial
  | await c => exact (Moves.stopAwait hstop (hawait c rfl)).enabled h.alive trivial
  | closeAttempts => exact (Moves.stopAttempts hstop).enabled h.alive trivial

variable (horderly : ∀ n, Orderly (e.state n)) (hfair : e.Fair Label.goroutine orderly)

include horderly hfair

theorem stop_advances {a : StopAction} (hstop : (e.state n).stop = a :: rest)
    (hawait : ∀ c, a = .await c → (e.state n).closed c = true) :
    ∃ m, n ≤ m ∧ (e.state m).stop = rest := by
  refine e.eventually hfair .stop (fun _ => 0) 0
    (P := fun d => d.stop = a :: rest ∧ ∀ c, a = .await c → d.closed c = true)
    (Q := fun d => d.stop = rest) ?_ ?_ (Nat.zero_le n) ⟨hstop, hawait⟩
  · rintro m - ⟨hstop, hawait⟩
    exact stop_enabled (horderly m) hstop hawait
  · rintro m l - ⟨hstop, hawait⟩ hl
    have hmoves := moves_at hl
    by_cases hown : l = .stop
    · subst hown
      exact .inl (stop_tail hmoves (horderly (m + 1)).alive hstop).1
    · have hstays : ∀ c, a = .await c → (e.state (m + 1)).closed c = true :=
        fun c hc => closed_mono hmoves (hawait c hc)
      refine .inr ⟨⟨(stop_eq hmoves hown).trans hstop, hstays⟩, Nat.le_refl _, fun howner => ?_⟩
      cases l with
      | stop => exact absurd rfl hown
      | _ => cases howner

variable {start : Nat}

/-- `Stop` waits for a channel, and the goroutine that closes it comes nearer to that with each of
its steps: in the end it is closed. -/
theorem await_ends {c : Chan} (p : Goroutine) (rank : Dialer → Nat)
    (henabled : ∀ m, (e.state m).stop = .await c :: rest → (e.state m).closed c =
      false → Enabled shutdownStep Label.goroutine orderly p (e.state m))
    (hnearer : ∀ m l, start ≤ m → e.label m = some l → (e.state m).stop = .await c :: rest →
      (e.state m).closed c = false → l.goroutine = p → (e.state (m + 1)).closed c = true ∨
      rank (e.state (m + 1)) < rank (e.state m))
    (hothers : ∀ m l, start ≤ m → e.label m = some l → (e.state m).stop = .await c :: rest →
      l.goroutine ≠ p → rank (e.state (m + 1)) = rank (e.state m)) (hn : start ≤ n)
    (hstop : (e.state n).stop = .await c :: rest) :
    ∃ m, n ≤ m ∧ (e.state m).stop = .await c :: rest ∧ (e.state m).closed c = true := by
  cases hclosed : (e.state n).closed c with
  | true => exact ⟨n, Nat.le_refl n, hstop, hclosed⟩
  | false =>
    refine e.eventually hfair p rank start
      (P := fun d => d.stop = .await c :: rest ∧ d.closed c = false)
      (Q := fun d => d.stop = .await c :: rest ∧ d.closed c = true) ?_ ?_ hn ⟨hstop, hclosed⟩
    · intro m _ hP
      exact henabled m hP.1 hP.2
    · intro m l hm hP hl
      obtain ⟨hstop, hopen⟩ := hP
      have hmoves := moves_at hl
      -- `Stop` itself is blocked.
      have hblocked : l ≠ .stop := by
        intro heq
        subst heq
        have hclosed := (stop_tail hmoves (horderly (m + 1)).alive hstop).2 c rfl
        exact Bool.false_ne_true (hopen.symm.trans hclosed)
      grind [stop_eq]

variable {w : WatcherId}

omit horderly hfair in
theorem polling_nil {d : Dialer} (h : Orderly d) {rest : List Polled}
    (hmanager : w = .dialing → d.manager = .finished) (hw : d.watchers w = .polling rest) :
    rest = [] := by
  grind [cases Orderly, looping_ne, pending_polling]

def watcherRank (w : WatcherId) (d : Dialer) : Nat :=
  match d.watchers w with
  | .polling _ => 2
  | .selecting => 1
  | .finished => 0

omit horderly hfair in
theorem watcher_enabled {d : Dialer} (h : Orderly d) (htold : d.closed (.watcherStop w) = true)
    (hmanager : w = .dialing → d.manager = .finished) (hend : d.watchers w ≠ .finished) :
    Enabled shutdownStep Label.goroutine orderly (.watcher w) d := by
  cases hw : d.watchers w with
  | finished => exact absurd hw hend
  | selecting => exact (Moves.watcherStop hw htold).enabled h.alive trivial
  | polling rest =>
    rw [polling_nil h hmanager hw] at hw
    exact (Moves.polled hw).enabled h.alive trivial

omit horderly hfair in
theorem watcher_nearer {d d' : Dialer} {l : Label} (hmoves : Moves d l d')
    (halive : d'.panicked = false) (hpoll : ∀ found, l ≠ .poll w found)
    (hl : l.goroutine = .watcher w) :
    d'.closed (.watcherStopped w) = true ∨ watcherRank w d' < watcherRank w d := by
  cases hmoves with
  | @poll w' found _ =>
    rw [Goroutine.watcher.inj hl] at hpoll
    exact absurd rfl (hpoll found)
  | sendClosed _ _ => cases halive
  | @polled w' hw' =>
    rw [Goroutine.watcher.inj hl] at hw' ⊢
    refine .inr ?_
    unfold watcherRank
    rw [watchers_set, hw']
    exact Nat.lt_succ_self 1
  | @watcherStop w' _ _ =>
    rw [Goroutine.watcher.inj hl]
    exact .inl (closed_close _ _)
  | _ => cases hl

theorem watcher_ends (hquiet : QuietFrom e start) (hn : start ≤ n)
    (hstop : (e.state n).stop = .await (.watcherStopped w) :: rest) :
    ∃ m, n ≤ m ∧ (e.state m).stop = .await (.watcherStopped w) :: rest
      ∧ (e.state m).closed (.watcherStopped w) = true := by
  refine await_ends horderly hfair (.watcher w) (watcherRank w) ?_ ?_ ?_ hn hstop
  · intro m hstop hopen
    obtain ⟨-, htold, hmanager⟩ := (horderly m).ordered hstop
    refine watcher_enabled (horderly m) htold (fun hw => hmanager (congrArg _ hw)) fun hend => ?_
    exact Bool.false_ne_true (hopen.symm.trans (((horderly m).watcherStopped w).mpr hend))
  · intro m l hm hl hstop _ hown
    obtain ⟨-, htold, -⟩ := (horderly m).ordered hstop
    refine watcher_nearer (moves_at hl) (horderly (m + 1)).alive ?_ hown
    intro found heq
    subst heq
    exact Bool.false_ne_true ((hquiet m w found hm hl).2.symm.trans htold)
  · intro m l _ hl hstop hown
    obtain ⟨-, -, hmanager⟩ := (horderly m).ordered hstop
    have hsame : (e.state (m + 1)).watchers w = (e.state m).watchers w := by
      refine watcher_eq (moves_at hl) hown ?_
      intro heq hdialing
      subst heq hdialing
      -- The manager has ended, and takes nothing.
      have hselecting := (pending_receive (moves_at hl)).1
      rw [hmanager rfl] at hselecting
      cases hselecting
    unfold watcherRank
    rw [hsame]

/-- How far the manager is from its end: first it takes what is to be sent. -/
def managerRank (d : Dialer) : Nat :=
  2 * d.pending.length + match d.manager with
    | .distributing => 4
    | .selecting => 3
    | .closing => 2
    | .returning => 1
    | .finished => 0

omit horderly hfair in
theorem receive_enabled {d : Dialer} (h : Orderly d) (hmanager : d.manager = .selecting)
    (hsome : d.pending ≠ []) : Enabled shutdownStep Label.goroutine orderly .manager d := by
  obtain ⟨hreturning, hfinished⟩ := looping_ne (.inl hmanager)
  have hopen := h.manager_open.1 hreturning hfinished
  obtain ⟨a, rest, hwatcher⟩ := polling_of_pending hsome
  exact (Moves.receive hmanager hwatcher hopen).enabled h.alive trivial

omit horderly hfair in
theorem manager_enabled {d : Dialer} (h : Orderly d) (htold : d.closed .stop = true)
    (hend : d.manager ≠ .finished) :
    Enabled shutdownStep Label.goroutine orderly .manager d := by
  cases hmanager : d.manager with
  | finished => exact absurd hmanager hend
  | distributing => exact (Moves.distributed hmanager).enabled h.alive trivial
  | closing => exact (Moves.closeInput hmanager).enabled h.alive trivial
  | returning => exact (Moves.closeStopped hmanager).enabled h.alive trivial
  | selecting =>
    by_cases hpending : d.pending = []
    · exact (Moves.takeStop hmanager htold).enabled h.alive hpending
    · exact receive_enabled h hmanager hpending

omit horderly hfair in
theorem manager_nearer {d d' : Dialer} {l : Label} (hmoves : Moves d l d')
    (hl : l.goroutine = .manager) :
    d'.closed .stopped = true ∨ managerRank d' < managerRank d := by
  have hkeeps : ∀ found, l ≠ .poll .dialing found := by
    rintro found rfl
    cases hl
  by_cases hreceive : l = .receive
  · grind [managerRank, pending_receive, List.length_pos_iff, List.length_tail]
  have hpending := pending_eq hmoves hkeeps hreceive
  unfold managerRank
  rw [hpending]
  cases hmoves with
  | receive _ _ _ => exact absurd rfl hreceive
  | distributed hmanager =>
    rw [hmanager]
    exact .inr (Nat.lt_succ_self _)
  | takeStop hmanager _ =>
    rw [hmanager]
    exact .inr (Nat.lt_succ_self _)
  | closeInput hmanager =>
    rw [hmanager]
    exact .inr (Nat.lt_succ_self _)
  | closeStopped _ => exact .inl (closed_close d .stopped)
  | _ => cases hl

omit horderly hfair in
theorem manager_eq {d d' : Dialer} {l : Label} (hmoves : Moves d l d')
    (hl : l.goroutine ≠ .manager) : d'.manager = d.manager := by
  cases hmoves with
  | receive _ _ _ => exact absurd rfl hl
  | distributed _ => exact absurd rfl hl
  | takeStop _ _ => exact absurd rfl hl
  | closeInput _ => exact absurd rfl hl
  | closeStopped _ => exact absurd rfl hl
  | _ => rfl

theorem manager_ends (hquiet : QuietFrom e start) (hn : start ≤ n)
    (hstop : (e.state n).stop = .await .stopped :: rest) :
    ∃ m, n ≤ m ∧ (e.state m).stop = .await .stopped :: rest
      ∧ (e.state m).closed .stopped = true := by
  refine await_ends horderly hfair .manager managerRank ?_ ?_ ?_ hn hstop
  · intro m hstop hopen
    refine manager_enabled (horderly m) ((horderly m).ordered hstop).2.1 fun hend => ?_
    exact Bool.false_ne_true (hopen.symm.trans ((horderly m).stopped.mpr hend))
  · intro m l _ hl _ _ hown
    exact manager_nearer (moves_at hl) hown
  · intro m l hm hl _ hown
    have hmoves := moves_at hl
    -- Another goroutine does not add to what is to be sent.
    have hpending : (e.state (m + 1)).pending = (e.state m).pending := by
      by_cases hpoll : ∃ found, l = .poll .dialing found
      · obtain ⟨found, rfl⟩ := hpoll
        obtain ⟨hbefore, hafter⟩ := pending_poll hmoves
        rw [hbefore, hafter]
        exact (hquiet m .dialing found hm hl).1
      · refine pending_eq hmoves (fun found heq => hpoll ⟨found, heq⟩) fun heq => hown ?_
        rw [heq]
        rfl
    unfold managerRank
    rw [manager_eq hmoves hown, hpending]

def busyRank (d : Dialer) : Nat := if d.manager = .distributing then 1 else 0

omit horderly hfair in
theorem busy_nearer {d d' : Dialer} {l : Label} (hmoves : Moves d l d') (h : Orderly d)
    (hok : orderly d l) (hsome : d.pending ≠ []) (hreceive : l ≠ .receive)
    (hl : l.goroutine = .manager) : busyRank d' < busyRank d := by
  obtain ⟨hreturning, -⟩ := looping_ne (h.sends hsome)
  unfold busyRank
  cases hmoves with
  | receive _ _ _ => exact absurd rfl hreceive
  | distributed hmanager =>
    rw [if_pos hmanager, if_neg ManagerPc.noConfusion]
    exact Nat.zero_lt_one
  | takeStop _ _ => exact absurd hok hsome
  | closeInput hmanager =>
    rcases h.sends hsome with hloop | hloop
    · rw [hmanager] at hloop; cases hloop
    · rw [hmanager] at hloop; cases hloop
  | closeStopped hmanager => exact absurd hmanager hreturning
  | _ => cases hl

theorem send_taken (hok : e.Meets orderly) (hsome : (e.state n).pending ≠ []) :
    ∃ m, n ≤ m ∧ (e.state m).pending = (e.state n).pending.tail := by
  obtain ⟨a, rest, hpending⟩ := List.exists_cons_of_ne_nil hsome
  rw [hpending]
  refine e.eventually hfair .manager busyRank 0 (P := fun d => d.pending = a :: rest)
    (Q := fun d => d.pending = rest) ?_ ?_ (Nat.zero_le n) hpending
  · intro m _ hpending
    have hsome : (e.state m).pending ≠ [] := hpending ▸ List.cons_ne_nil a rest
    rcases (horderly m).sends hsome with hselecting | hdistributing
    · exact receive_enabled (horderly m) hselecting hsome
    · exact (Moves.distributed hdistributing).enabled (horderly m).alive trivial
  · intro m l _ hpending hl
    have hmoves := moves_at hl
    by_cases hreceive : l = .receive
    · subst hreceive
      refine .inl ?_
      rw [(pending_receive hmoves).2.2.1, hpending]
      rfl
    have hpoll : ∀ found, l ≠ .poll .dialing found := by
      rintro found rfl
      rw [(pending_poll hmoves).1] at hpending
      cases hpending
    refine .inr ⟨(pending_eq hmoves hpoll hreceive).trans hpending, ?_⟩
    by_cases hown : l.goroutine = .manager
    · -- The manager takes no stop while something is to be sent.
      have hsome : (e.state m).pending ≠ [] := hpending ▸ List.cons_ne_nil a rest
      have hbusy := busy_nearer hmoves (horderly m) (hok m l hl) hsome hreceive hown
      exact ⟨Nat.le_of_lt hbusy, fun _ => hbusy⟩
    all_goals grind [busyRank, manager_eq]

/-- From the time on from which it is quiet, `Stop` does all that is left of its program. -/
theorem stop_returns (hquiet : QuietFrom e start) (program : List StopAction) (hn : start ≤ n)
    (hstop : (e.state n).stop = program) : ∃ m, (e.state m).stop = [] := by
  induction program generalizing n with
  | nil => exact ⟨n, hstop⟩
  | cons a rest ih =>
    have hready : ∃ m, n ≤ m ∧ (e.state m).stop = a :: rest
        ∧ ∀ c, a = .await c → (e.state m).closed c = true := by
      cases a with
      | close c => exact ⟨n, Nat.le_refl n, hstop, fun _ => StopAction.noConfusion⟩
      | closeAttempts => exact ⟨n, Nat.le_refl n, hstop, fun _ => StopAction.noConfusion⟩
      | await c =>
        have hends : ∃ m, n ≤ m ∧ (e.state m).stop = .await c :: rest
            ∧ (e.state m).closed c = true := by
          rcases ((horderly n).ordered hstop).1 with rfl | ⟨w, rfl⟩
          all_goals grind [manager_ends, watcher_ends]
        grind
    grind [stop_advances]

end Liveness

/-- **The shutdown is orderly** when the manager takes the stop with nothing left to send and no
later poll finds anything: nothing is sent on the closed channel, every send is received, and `Stop`
returns once the polls have become quiet. -/
theorem shutdown_is_orderly {e : Execution shutdownStep} (hstart : e.state 0 = .start)
    (hok : e.Meets orderly) :
    (∀ n, (e.state n).panicked = false
      ∧ ((e.state n).pending ≠ [] → (e.state n).closed .input = false))
    ∧ (e.Fair Label.goroutine orderly →
      (∀ n, (e.state n).pending ≠ [] →
        ∃ m, n ≤ m ∧ (e.state m).pending = (e.state n).pending.tail)
      ∧ ((∃ start, QuietFrom e start) → ∃ n, (e.state n).stop = [])) := by
  have horderly : ∀ n, Orderly (e.state n) :=
    e.invariant (hstart ▸ orderly_start) (fun _ _ _ => orderly_step) hok
  refine ⟨fun n => ⟨(horderly n).alive, fun hsome => ?_⟩, fun hfair => ⟨fun n hsome => ?_, ?_⟩⟩
  · obtain ⟨hreturning, hfinished⟩ := looping_ne ((horderly n).sends hsome)
    exact (horderly n).manager_open.1 hreturning hfinished
  · exact send_taken horderly hfair hok hsome
  · rintro ⟨start, hquiet⟩
    exact stop_returns horderly hfair hquiet _ (Nat.le_refl start) rfl

/-- A shutdown in the middle of a poll, from the first statement of `Stop` to the last. -/
def completeShutdown : List Label :=
  [.stop, .watcherStop .waitingList, .stop, .stop, .poll .dialing [⟨1, some 5⟩], .stop, .receive,
    .distributed, .takeStop, .closeInput, .closeStopped, .stop, .polled .dialing, .stop,
    .watcherStop .dialing, .stop, .stop, .watcherStop .statistics, .stop, .stop,
    .watcherStop .expired, .stop]

theorem completeShutdown_ends : ∃ d, run shutdownStep .start completeShutdown = some d
    ∧ ∀ l, shutdownStep d l = none := by
  refine ⟨_, rfl, fun l => ?_⟩
  cases l with
  | poll w found => cases w <;> rfl
  | polled w => cases w <;> rfl
  | watcherStop w => cases w <;> rfl
  | _ => rfl

theorem completeShutdown_orderly : Along shutdownStep orderly .start completeShutdown := by
  decide

theorem completeShutdown_returns : ∃ e : Execution shutdownStep, e.state 0 = .start
    ∧ e.Meets orderly ∧ (∃ n, (e.state n).pending ≠ []) ∧ ∃ n, (e.state n).stop = [] := by
  obtain ⟨d, hrun, hend⟩ := completeShutdown_ends
  have hok := Execution.ofRun_meets hrun completeShutdown_orderly
  have hfair : (Execution.ofRun hrun).Fair Label.goroutine orderly := Execution.ofRun_fair hrun hend
  have hquiet : QuietFrom (Execution.ofRun hrun) completeShutdown.length := by
    intro n w found hn hl
    change completeShutdown[n]? = _ at hl
    rw [List.getElem?_eq_none_iff.mpr hn] at hl
    cases hl
  exact ⟨.ofRun hrun, rfl, hok, ⟨5, List.cons_ne_nil _ _⟩,
    ((shutdown_is_orderly rfl hok).2 hfair).2 ⟨_, hquiet⟩⟩

/-- The manager takes the stop while the dialing watcher is in the middle of a poll: the attempt is
sent on the closed channel. -/
theorem poll_sends_on_closed : ∃ d, run shutdownStep .start
    [.stop, .watcherStop .waitingList, .stop, .stop, .poll .dialing [⟨1, some 5⟩], .stop, .takeStop,
      .closeInput, .sendClosed] = some d
      ∧ d.panicked = true ∧ d.stop ≠ [] :=
  ⟨_, rfl, rfl, List.cons_ne_nil _ _⟩

end CallCenter.Queue.Shutdown
