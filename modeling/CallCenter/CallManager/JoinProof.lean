import CallCenter.CallManager.Join

/-!
# The hangup of a call that joins a queue

The hangup of a joining call is recorded when its handler finds the object that the joining
function returns. A handler that is too early drops the event, or records it in an object that the
joining function does not find any more: nothing tells the returned call later.
-/

namespace CallCenter.CallManager

open Lib

/-- The object the joining function has settled on, once the cache has it. -/
def Joiner.object : Joiner → Option Nat
  | .updateCid o | .resetBridge o _ | .returned o _ => some o
  | _ => none

/-- The object it settles on with its next step. -/
def Joiner.settles (cache : Option Nat) : Joiner → Option Nat
  | .get => cache
  | .save o => some o
  | _ => none

/-- The handler has yet to look the call up, or has found the object `o`. -/
def HangupHandler.aims (o : Nat) : HangupHandler → Bool
  | .getCall _ => true
  | .handle o' _ => o' = o
  | _ => false

def HangupHandler.rank : HangupHandler → Nat
  | .getCall _ => 2
  | .handle _ _ => 1
  | .assign _ | .send _ | .finished => 0

theorem HangupHandler.aims_rank {o : Nat} {h : HangupHandler} (haims : h.aims o = true) :
    h.rank ≠ 0 := by
  cases h with
  | getCall e => exact Nat.succ_ne_zero 1
  | handle o e => exact Nat.succ_ne_zero 0
  | _ => cases haims

/-- Unless the hangup of the object is recorded: when the joining function settles on it, no handler
has missed it; and after that a handler finds it in the cache. -/
def InTime (w : JoinWorld) : JoinLabel → Prop
  | .join _ => ∀ o ∈ w.joiner.settles w.cache,
    (w.objects o).hangupAt ≠ 0 ∨ ∀ h ∈ w.handlers, h.aims o = true
  | .handle i _ => ∀ h ∈ w.handlers[i]?, h.rank = 2 → ∀ o ∈ w.joiner.object,
    (w.objects o).hangupAt ≠ 0 ∨ w.cache = some o
  | _ => True

instance (w : JoinWorld) (l : JoinLabel) : Decidable (InTime w l) := by
  unfold InTime
  split <;> infer_instance

def CallImpl.HungUp (c : CallImpl) : Prop := c.hangupAt ≠ 0 ∧ 0 < c.hangupCh

def Joiner.rank (kind : JoinKind) : Joiner → Nat
  | .get => match kind with
    | .inboundCallQueue => 6
    | .connectCall => 9
  | .getApi => 8
  | .joinQueue => 7
  | .make => 5
  | .setCallVariables _ => 4
  | .updateCid _ => 3
  | .resetBridge _ _ => 2
  | .save _ => 1
  | .returned _ _ | .failed => 0

/-! ## What a step does -/

def KeepsHangup (c c' : CallImpl) : Prop := c'.hangupAt = c.hangupAt ∧ c'.hangupCh = c.hangupCh

theorem keepsHangup_update {objects : Nat → CallImpl} {o : Nat} {c : CallImpl}
    (h : KeepsHangup (objects o) c) (k : Nat) :
    KeepsHangup (objects k) (Function.update objects o c k) := by
  by_cases hk : k = o
  · subst hk
    rwa [Function.update_self]
  · rw [Function.update_of_ne hk]
    exact ⟨rfl, rfl⟩

variable {w w' : JoinWorld} {r : Reply}

/-- A step of the joining function brings it closer to its return. It keeps the object it
has settled on; before that it may make one, which has not hung up. -/
theorem join_spec (h : w.join r = some w') :
    w'.handlers = w.handlers ∧ w'.kind = w.kind
    ∧ w'.joiner.rank w.kind < w.joiner.rank w.kind
    ∧ w'.joiner.object = w.joiner.object.or (w.joiner.settles w.cache)
    ∧ ∀ o, KeepsHangup (w.objects o) (w'.objects o)
      ∨ w.joiner = .make ∧ (w'.objects o).hangupAt = 0 := by
  cases hj : w.joiner with
  | getApi =>
    simp only [JoinWorld.join, hj, Option.some.injEq] at h
    subst h
    cases r.ok <;> simp [Joiner.rank, Joiner.object, Joiner.settles, KeepsHangup]
  | joinQueue =>
    grind [JoinWorld.join, Joiner.object, Joiner.settles, Joiner.rank, KeepsHangup]
  | get =>
    cases hc : w.cache with
    | some o =>
      simp only [JoinWorld.join, hj, hc, Option.some.injEq] at h
      subst h
      cases hk : w.kind <;> cases (w.objects o).outbound <;>
        simp [Joiner.rank, Joiner.object, Joiner.settles, KeepsHangup]
    | none =>
      simp only [JoinWorld.join, hj, hc, Option.some.injEq] at h
      subst h
      cases w.kind <;> simp [Joiner.rank, Joiner.object, Joiner.settles, KeepsHangup]
  | updateCid o =>
    simp only [JoinWorld.join, hj, Option.some.injEq] at h
    subst h
    simp [Joiner.rank, Joiner.object, Joiner.settles, KeepsHangup]
  | resetBridge o err =>
    simp only [JoinWorld.join, hj, Option.some.injEq] at h
    subst h
    have hkeeps : KeepsHangup (w.objects o) (w.objects o).resetBridge := ⟨rfl, rfl⟩
    exact ⟨rfl, rfl, by simp [Joiner.rank], rfl,
      fun k => .inl (keepsHangup_update hkeeps k)⟩
  | make =>
    simp only [JoinWorld.join, hj, Option.some.injEq] at h
    subst h
    refine ⟨rfl, rfl, by cases hk : w.kind <;> simp [Joiner.rank],
      by cases hk : w.kind <;> rfl, fun k => ?_⟩
    let fresh := joinedCall w.outbound w.answeredAt w.createdAt
    show KeepsHangup (w.objects k) (Function.update w.objects w.next fresh k)
      ∨ _ ∧ (Function.update w.objects w.next fresh k).hangupAt = 0
    by_cases hk : k = w.next
    · subst hk
      rw [Function.update_self]
      exact .inr ⟨rfl, rfl⟩
    · rw [Function.update_of_ne hk]
      exact .inl ⟨rfl, rfl⟩
  | setCallVariables o =>
    simp only [JoinWorld.join, hj, Option.some.injEq] at h
    subst h
    simp [Joiner.rank, Joiner.object, Joiner.settles, KeepsHangup]
  | save o =>
    simp only [JoinWorld.join, hj, Option.some.injEq] at h
    subst h
    simp [Joiner.rank, Joiner.object, Joiner.settles, KeepsHangup]
  | returned o err =>
    simp only [JoinWorld.join, hj] at h
    cases h
  | failed =>
    simp only [JoinWorld.join, hj] at h
    cases h

theorem join_enabled (r : Reply) (h : 0 < w.joiner.rank w.kind) :
    ∃ w', w.join r = some w' := by
  cases hj : w.joiner with
  | joinQueue =>
    simp only [JoinWorld.join, hj]
    by_cases hok : r.ok = true
    · exact ⟨_, if_pos hok⟩
    · exact ⟨_, if_neg hok⟩
  | get =>
    cases hc : w.cache with
    | some o => simp [JoinWorld.join, hj, hc]
    | none => simp [JoinWorld.join, hj, hc]
  | returned o err =>
    rw [hj] at h
    exact absurd h (Nat.lt_irrefl 0)
  | failed =>
    rw [hj] at h
    exact absurd h (Nat.lt_irrefl 0)
  | _ => simp [JoinWorld.join, hj]

/-- What a handler does: it finds the call in the cache or not, records the hangup in the
object it has found, finds it recorded, or sets the state after that. -/
inductive Handles (w : JoinWorld) (i : Nat) (r : Reply) : HangupHandler → JoinWorld → Prop where
  | found (e : CallActionHangup) (o : Nat) (h : w.cache = some o) :
      Handles w i r (.getCall e) { w with handlers := w.handlers.set i (.handle o e) }
  | dropped (e : CallActionHangup) (h : w.cache = none) :
      Handles w i r (.getCall e) { w with handlers := w.handlers.set i .finished }
  | records (o : Nat) (e : CallActionHangup) (h : (w.objects o).hangupAt = 0) :
      Handles w i r (.handle o e)
        { w.setObject o ((w.objects o).setHangup e r.now) with
          cache := none, handlers := w.handlers.set i (.assign o) }
  | recorded (o : Nat) (e : CallActionHangup) (h : (w.objects o).hangupAt ≠ 0) :
      Handles w i r (.handle o e) { w with handlers := w.handlers.set i .finished }
  | after (pc pc' : HangupHandler) (o : Nat) (c : CallImpl) (hpc : pc.rank = 0)
      (hpc' : pc'.rank = 0) (h : KeepsHangup (w.objects o) c) :
      Handles w i r pc { w.setObject o c with handlers := w.handlers.set i pc' }

variable {h : HangupHandler}

theorem handle_cases {i : Nat} (hs : w.handle i h r = some w') : Handles w i r h w' := by
  cases h with
  | getCall e =>
    simp only [JoinWorld.handle] at hs
    split at hs
    next o hc => exact Option.some.inj hs ▸ .found e o hc
    next hc => exact Option.some.inj hs ▸ .dropped e hc
  | handle o e =>
    simp only [JoinWorld.handle] at hs
    by_cases hat : (w.objects o).hangupAt = 0
    · rw [if_pos hat, Option.some.injEq] at hs
      exact hs ▸ .records o e hat
    · rw [if_neg hat, Option.some.injEq] at hs
      exact hs ▸ .recorded o e hat
  | assign o => exact Option.some.inj hs ▸ .after _ (.send o) o _ rfl rfl ⟨rfl, rfl⟩
  | send o =>
    obtain ⟨-, rfl⟩ := of_guard hs
    exact .after _ .finished o _ rfl rfl ⟨rfl, rfl⟩
  | finished => cases hs

theorem handle_enabled (i : Nat) (r : Reply) (hrank : 0 < h.rank) :
    ∃ w', w.handle i h r = some w' := by
  cases h with
  | getCall e =>
    cases hc : w.cache with
    | some o => simp [JoinWorld.handle, hc]
    | none => simp [JoinWorld.handle, hc]
  | handle o e =>
    simp only [JoinWorld.handle]
    by_cases hat : (w.objects o).hangupAt = 0
    · exact ⟨_, if_pos hat⟩
    · exact ⟨_, if_neg hat⟩
  | _ => exact absurd hrank (Nat.lt_irrefl 0)

/-! ## The invariant -/

/-- Every handler will hang up the object that is joined. -/
structure OnTarget (w : JoinWorld) : Prop where
  closed : ∀ o, (w.objects o).hangupAt ≠ 0 → 0 < (w.objects o).hangupCh
  /-- No handler has missed the object, unless its hangup is recorded. -/
  aimed : ∀ o ∈ w.joiner.object,
    (w.objects o).hangupAt ≠ 0 ∨ ∀ h ∈ w.handlers, h.aims o = true

theorem onTarget_join (hw : OnTarget w) (hok : InTime w (.join r)) (h : w.join r = some w') :
    OnTarget w' := by
  obtain ⟨hhandlers, -, -, hobject, hobjects⟩ := join_spec h
  refine ⟨fun o hat => ?_, fun o ho => ?_⟩
  · rcases hobjects o with hkeeps | ⟨-, hzero⟩
    · rw [hkeeps.2]
      exact hw.closed o (hkeeps.1 ▸ hat)
    · exact absurd hzero hat
  · rw [hobject] at ho
    have hkeeps : KeepsHangup (w.objects o) (w'.objects o) :=
      (hobjects o).resolve_right fun hmake => by
        rw [hmake.1] at ho
        cases ho
    rw [hhandlers, hkeeps.1]
    rcases Option.or_eq_some_iff.mp ho with hsettled | ⟨-, hsettles⟩
    · exact hw.aimed o hsettled
    · exact hok o hsettles

theorem onTarget_goto {i : Nat} {pc' : HangupHandler} {objects : Nat → CallImpl}
    {cache : Option Nat}
    (hclosed : ∀ o, (objects o).hangupAt ≠ 0 → 0 < (objects o).hangupCh)
    (haimed : ∀ o ∈ w.joiner.object, (objects o).hangupAt ≠ 0
      ∨ pc'.aims o = true ∧ ∀ h ∈ w.handlers, h.aims o = true) :
    OnTarget { w with
      objects := objects, cache := cache, handlers := w.handlers.set i pc' } := by
  refine ⟨hclosed, fun o ho => (haimed o ho).imp_right fun ⟨hself, hall⟩ z hz => ?_⟩
  rcases List.mem_or_eq_of_mem_set hz with hz | rfl
  · exact hall z hz
  · exact hself

theorem onTarget_handle {i : Nat} (hw : OnTarget w) (hh : w.handlers[i]? = some h)
    (hok : InTime w (.handle i r)) (hs : w.handle i h r = some w') : OnTarget w' := by
  have hmem : h ∈ w.handlers := List.mem_of_getElem? hh
  cases handle_cases hs with
  | found e o hc =>
    refine onTarget_goto hw.closed fun k hk => ?_
    rcases hw.aimed k hk with hat | hall
    · exact .inl hat
    · refine (hok _ hh rfl k hk).imp_right fun hcache => ⟨?_, hall⟩
      exact decide_eq_true (Option.some.inj (hc.symm.trans hcache))
  | dropped e hc =>
    refine onTarget_goto hw.closed fun k hk => (hok _ hh rfl k hk).imp_right fun hcache => ?_
    cases hc.symm.trans hcache
  | records o e hat =>
    have hne := (w.objects o).setHangup_hangupAt_ne_zero e r.now_pos
    show OnTarget { w with
      objects := Function.update w.objects o ((w.objects o).setHangup e r.now)
      cache := none
      handlers := w.handlers.set i (.assign o) }
    refine onTarget_goto (fun k hk => ?_) fun k hk => .inl ?_
    · by_cases hko : k = o
      · subst hko
        rw [Function.update_self]
        exact Nat.succ_pos _
      · rw [Function.update_of_ne hko] at hk ⊢
        exact hw.closed k hk
    · by_cases hko : k = o
      · subst hko
        rwa [Function.update_self]
      · rw [Function.update_of_ne hko]
        exact (hw.aimed k hk).resolve_right fun hall =>
          hko (of_decide_eq_true (hall _ hmem)).symm
  | recorded o e hat =>
    refine onTarget_goto hw.closed fun k hk => .inl ?_
    rcases hw.aimed k hk with hk' | hall
    · exact hk'
    · exact of_decide_eq_true (hall _ hmem) ▸ hat
  | after _ pc' o c hpc hpc' hkeeps =>
    have hkept := keepsHangup_update hkeeps
    show OnTarget { w with
      objects := Function.update w.objects o c, handlers := w.handlers.set i pc' }
    refine onTarget_goto (fun k hk => ?_) fun k hk => .inl ?_
    · rw [(hkept k).1] at hk
      rw [(hkept k).2]
      exact hw.closed k hk
    · rw [(hkept k).1]
      exact (hw.aimed k hk).resolve_right fun hall => HangupHandler.aims_rank (hall _ hmem) hpc

theorem onTarget_step (w : JoinWorld) (l : JoinLabel) (w' : JoinWorld) (hw : OnTarget w)
    (hok : InTime w l) (h : joinStep w l = some w') : OnTarget w' := by
  cases l with
  | emit e =>
    obtain ⟨-, rfl⟩ := of_guard h
    refine ⟨hw.closed, fun o ho => (hw.aimed o ho).imp_right fun hall z hz => ?_⟩
    rcases List.mem_append.mp hz with hz | hz
    · exact hall z hz
    · rw [List.mem_singleton.mp hz]
      rfl
  | evict =>
    cases h
    exact ⟨hw.closed, hw.aimed⟩
  | join r => exact onTarget_join hw hok h
  | handle i r =>
    obtain ⟨pc, hpc, hs⟩ := Option.bind_eq_some_iff.mp h
    exact onTarget_handle hw hpc hok hs

/-! ## Every run -/

def Reached (c : CallImpl) : Prop :=
  ∃ (o : Origin) (labels : List Label) (w : World),
    run step (start o) labels = some w ∧ w.call = c

def World.ClosedAfterHangup (w : World) : Prop := w.call.hangupAt ≠ 0 → 0 < w.call.hangupCh

theorem closedAfterHangup_step (w : World) (l : Label) (w' : World) (hw : w.ClosedAfterHangup)
    (_ : True) (h : step w l = some w') : w'.ClosedAfterHangup := by
  rcases step_cases h with hout | ⟨i, r, pc, m, rfl, -, hm, rfl⟩
  · cases hout <;> exact hw
  · show m.call.hangupAt ≠ 0 → 0 < m.call.hangupCh
    cases move_cases hm with
    | hangup e hat => exact fun _ => Nat.succ_pos _
    | close hnew => exact fun _ => Nat.succ_pos _
    | ringing t c' hc =>
      rw [(CallImpl.setRinging_spec hc).1]
      exact hw
    | progress t c' hc =>
      rw [(CallImpl.setProgress_spec hc).1]
      exact hw
    | _ => exact hw

theorem Reached.closed {c : CallImpl} (h : Reached c) : c.hangupAt ≠ 0 → 0 < c.hangupCh := by
  obtain ⟨o, labels, w, hrun, rfl⟩ := h
  have hstart : (start o).ClosedAfterHangup := by
    intro hat
    cases o <;> exact absurd rfl hat
  exact run_invariant closedAfterHangup_step labels hstart
    (along_of_forall (fun _ _ => trivial) labels _) hrun

theorem onTarget_start (kind : JoinKind) (outbound : Bool) (answeredAt createdAt : Int)
    {known : Option CallImpl} (hknown : ∀ c ∈ known, Reached c) :
    OnTarget (joinStart kind outbound answeredAt createdAt known) := by
  refine ⟨fun o hat => ?_, fun o _ => .inr fun _ h => absurd h List.not_mem_nil⟩
  cases known with
  | none => exact absurd rfl hat
  | some c => exact (hknown c rfl).closed hat

/-- **The hangup of a joining call is recorded** in every run in which its handlers look the
call up in time: when the joining function has returned and a handler is through, the
returned call has hung up. And neither waits: each step is possible and leads closer. -/
theorem joined_hangup_recorded (kind : JoinKind) (outbound : Bool) (answeredAt createdAt : Int)
    (known : Option CallImpl) (hknown : ∀ c ∈ known, Reached c) (labels : List JoinLabel)
    {w : JoinWorld}
    (htime : Along joinStep InTime (joinStart kind outbound answeredAt createdAt known) labels)
    (hrun : run joinStep (joinStart kind outbound answeredAt createdAt known) labels = some w) :
    (∀ o err, w.joiner = .returned o err → ∀ h ∈ w.handlers, h.rank = 0 → (w.objects o).HungUp)
    ∧ (∀ r, 0 < w.joiner.rank w.kind → ∃ w', joinStep w (.join r) = some w'
        ∧ w'.joiner.rank w.kind < w.joiner.rank w.kind ∧ w'.handlers = w.handlers)
    ∧ (∀ i h r, w.handlers[i]? = some h → 0 < h.rank → ∃ w' h', joinStep w (.handle i r) = some w'
        ∧ w'.handlers[i]? = some h' ∧ h'.rank < h.rank ∧ w'.joiner = w.joiner) := by
  have hw := run_invariant onTarget_step labels
    (onTarget_start kind outbound answeredAt createdAt hknown) htime hrun
  refine ⟨fun o err hret h hh hrank => ?_, fun r hrank => ?_, fun i h r hh hrank => ?_⟩
  · have hat : (w.objects o).hangupAt ≠ 0 := (hw.aimed o (hret ▸ rfl)).resolve_right fun hall =>
      HangupHandler.aims_rank (hall h hh) hrank
    exact ⟨hat, hw.closed o hat⟩
  · obtain ⟨w', hs⟩ := join_enabled r hrank
    obtain ⟨hhandlers, -, hless, -⟩ := join_spec hs
    exact ⟨w', hs, hless, hhandlers⟩
  · obtain ⟨w', hs⟩ := handle_enabled (w := w) i r hrank
    have hstep : joinStep w (.handle i r) = some w' := Option.bind_eq_some_iff.mpr ⟨h, hh, hs⟩
    have hset : ∀ h' : HangupHandler, (w.handlers.set i h')[i]? = some h' := by
      intro h'
      exact List.getElem?_set_self (List.getElem?_eq_some_iff.mp hh).1
    cases handle_cases hs with
    | found e o hc => exact ⟨_, _, hstep, hset _, Nat.lt_succ_self 1, rfl⟩
    | dropped e hc => exact ⟨_, _, hstep, hset _, Nat.succ_pos 1, rfl⟩
    | records o e hat => exact ⟨_, _, hstep, hset _, Nat.succ_pos 0, rfl⟩
    | recorded o e hat => exact ⟨_, _, hstep, hset _, Nat.succ_pos 0, rfl⟩
    | after _ pc' o c hpc hpc' hkeeps => exact absurd hrank (by omega)

/-! ## Handlers that are too early -/

def joins (n : Nat) : List JoinLabel := List.replicate n (.join (answer true))

def handles (n : Nat) : List JoinLabel := List.replicate n (.handle 0 (answer true))

/-- The switch has agreed, and the hangup is handled before `InboundCallQueue` looks into
the cache and saves its new object. -/
def handledBeforeSave : List JoinLabel :=
  joins 2 ++ [.emit (normalClearing 9)] ++ handles 1 ++ joins 3

def handledBeforeConnected : List JoinLabel :=
  joins 3 ++ [.emit (normalClearing 9)] ++ handles 1 ++ joins 3

/-- The call was in the cache. The hangup is recorded there and takes it out before
`InboundCallQueue` looks, which makes another object. -/
def handledBeforeGet : List JoinLabel :=
  joins 2 ++ [.emit (normalClearing 9)] ++ handles 2 ++ joins 3

/-- The event was handled, and the returned call is alive. -/
theorem hangup_missed :
    (run joinStep (joinStart .inboundCallQueue false 1 1 none) handledBeforeSave).map
        (fun w => (w.joiner, w.handlers, (w.objects 1).hangupAt))
      = some (.returned 1 false, [.finished], 0)
    ∧ (run joinStep (joinStart .connectCall false 1 1 none) handledBeforeConnected).map
        (fun w => (w.joiner, w.handlers, (w.objects 1).hangupAt))
      = some (.returned 1 false, [.finished], 0)
    ∧ (run joinStep (joinStart .inboundCallQueue false 1 1 (some (joinedCall false 1 1)))
        handledBeforeGet).map (fun w => (w.joiner, w.handlers, (w.objects 1).hangupAt))
      = some (.returned 1 false, [.assign 0], 0) :=
  ⟨rfl, rfl, rfl⟩

def handledAfterSave : List JoinLabel :=
  joins 2 ++ [.emit (normalClearing 9)] ++ joins 3 ++ handles 2

theorem hangup_recorded_after_save :
    ∃ w, run joinStep (joinStart .inboundCallQueue false 1 1 none) handledAfterSave = some w
      ∧ w.joiner = .returned 1 false ∧ (w.objects 1).HungUp := by
  obtain ⟨w, hrun⟩ := Option.isSome_iff_exists.mp (rfl :
    (run joinStep (joinStart .inboundCallQueue false 1 1 none) handledAfterSave).isSome = true)
  have hend : (run joinStep (joinStart .inboundCallQueue false 1 1 none) handledAfterSave).map
      (fun w => (w.joiner, w.handlers)) = some (.returned 1 false, [.assign 1]) := rfl
  rw [hrun, Option.map_some, Option.some.injEq, Prod.mk.injEq] at hend
  have hrecorded := (joined_hangup_recorded .inboundCallQueue false 1 1 none
    (fun _ h => absurd h (Option.not_mem_none _)) handledAfterSave (by decide) hrun).1
  refine ⟨w, hrun, hend.1, hrecorded 1 false hend.1 (.assign 1) ?_ rfl⟩
  rw [hend.2]
  exact List.mem_singleton_self _

end CallCenter.CallManager
