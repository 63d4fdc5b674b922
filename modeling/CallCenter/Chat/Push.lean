import CallCenter.Chat.ChatWorld

/-!
# The delivery of chat states over time

`pushState` runs on the goroutine that drains all chat events. It sends if there is room, drops the
state if the reader was given up, and otherwise waits for a place, at most `STATE_SEND_TIMEOUT`,
after which the reader is given up. Here the pushes come one at a time, the reader reads when it
likes, and time passes in ticks of a millisecond.

What is on its way or has arrived is a part of what was pushed, in order (`Custody.inOrder`). The
time is another matter: a reader that takes one state shortly before the end of a wait makes the
push succeed, and the next push may wait as long again.
-/

namespace CallCenter.Chat

open Queue (ChatState)
open Lib

def stateSendTimeout : Nat := 800

structure Push where
  /-- How many came before it. -/
  number : Nat
  state : ChatState
  full : Bool

structure Delivery where
  buffer : List Push
  stateStalled : Bool
  waiting : Option (Push × Nat)
  pushed : List Push
  read : List Push
  waited : Nat

namespace Delivery

def full (d : Delivery) : Bool := stateBufferSize ≤ d.buffer.length

def next (d : Delivery) (s : ChatState) : Push := ⟨d.pushed.length, s, d.full⟩

def push (d : Delivery) (s : ChatState) : Delivery :=
  let p := d.next s
  if !d.full then { d with buffer := d.buffer ++ [p], pushed := d.pushed ++ [p] }
  else if d.stateStalled then { d with pushed := d.pushed ++ [p] }
  else { d with waiting := some (p, 0), pushed := d.pushed ++ [p] }

def inSelect (d : Delivery) : List Push := (d.waiting.map (·.1)).toList

end Delivery

inductive DeliveryLabel where
  | push (s : ChatState)
  /-- The reader takes a state; a push that waits gets the place. -/
  | read
  | wait (ticks : Nat)
  | expire

def deliveryStep (d : Delivery) : DeliveryLabel → Option Delivery
  | .push s => if d.waiting = none then some (d.push s) else none
  | .read =>
    match d.buffer with
    | [] => none
    | p :: rest => some { d with
        read := d.read ++ [p], buffer := rest ++ d.inSelect, waiting := none }
  | .wait ticks =>
    match d.waiting with
    | none => some d
    | some (p, n) =>
      if n + ticks ≤ stateSendTimeout then
        some { d with waiting := some (p, n + ticks), waited := d.waited + ticks }
      else none
  | .expire =>
    match d.waiting with
    | none => none
    | some (_, n) =>
      if n = stateSendTimeout then some { d with waiting := none, stateStalled := true } else none

def deliveryStart : Delivery := ⟨[], false, none, [], [], 0⟩

/-- The push decides as the goroutines of the conversation do. -/
theorem push_eq_pushState {d : Delivery} {w : ChatWorld}
    (hlen : d.buffer.length = w.conv.state.length) (hstalled : d.stateStalled = w.conv.stateStalled)
    (s : ChatState) :
    d.push s = match w.pushState with
      | .sent => { d with buffer := d.buffer ++ [d.next s], pushed := d.pushed ++ [d.next s] }
      | .dropped => { d with pushed := d.pushed ++ [d.next s] }
      | .waits => { d with waiting := some (d.next s, 0), pushed := d.pushed ++ [d.next s] } := by
  grind [ChatWorld.pushState, ChatWorld.room, Delivery.full, Delivery.push, stateBufferSize]

/-! ## What a step can do -/

inductive Delivers (d : Delivery) : DeliveryLabel → Delivery → Prop where
  | sent (s : ChatState) (hfree : d.waiting = none) (hroom : d.full = false) :
      Delivers d (.push s)
        { d with buffer := d.buffer ++ [d.next s], pushed := d.pushed ++ [d.next s] }
  | dropped (s : ChatState) (hfree : d.waiting = none) (hfull : d.full = true)
      (hstalled : d.stateStalled = true) :
      Delivers d (.push s) { d with pushed := d.pushed ++ [d.next s] }
  | waits (s : ChatState) (hfree : d.waiting = none) (hfull : d.full = true)
      (hstalled : d.stateStalled = false) :
      Delivers d (.push s)
        { d with waiting := some (d.next s, 0), pushed := d.pushed ++ [d.next s] }
  | read (p : Push) (rest : List Push) (hbuffer : d.buffer = p :: rest) :
      Delivers d .read
        { d with read := d.read ++ [p], buffer := rest ++ d.inSelect, waiting := none }
  | idle (ticks : Nat) (hfree : d.waiting = none) : Delivers d (.wait ticks) d
  | wait (ticks : Nat) (p : Push) (n : Nat) (hwaiting : d.waiting = some (p, n))
      (hle : n + ticks ≤ stateSendTimeout) :
      Delivers d (.wait ticks)
        { d with waiting := some (p, n + ticks), waited := d.waited + ticks }
  | expire (p : Push) (hwaiting : d.waiting = some (p, stateSendTimeout)) :
      Delivers d .expire { d with waiting := none, stateStalled := true }

theorem delivers_cases {d d' : Delivery} {l : DeliveryLabel} (h : deliveryStep d l = some d') :
    Delivers d l d' := by
  cases l <;> grind [deliveryStep, Delivery.push, Delivers]

/-! ## Order and losses -/

/-- States are read in the order of their pushes, and lost only to a full buffer. -/
structure Custody (d : Delivery) : Prop where
  numbered : d.pushed.Pairwise (·.number < ·.number)
  bounded : ∀ p ∈ d.pushed, p.number < d.pushed.length
  inOrder : (d.read ++ (d.buffer ++ d.inSelect)).Sublist d.pushed
  kept : ∀ p ∈ d.pushed, p.full = false → p ∈ d.read ∨ p ∈ d.buffer

theorem custody_start : Custody deliveryStart where
  numbered := List.Pairwise.nil
  bounded := List.forall_mem_nil _
  inOrder := List.Sublist.refl _
  kept := List.forall_mem_nil _

theorem numbered_next {d : Delivery} (h : Custody d) (s : ChatState) :
    (d.pushed ++ [d.next s]).Pairwise (·.number < ·.number)
      ∧ ∀ p ∈ d.pushed ++ [d.next s], p.number < (d.pushed ++ [d.next s]).length := by
  rw [List.length_append, List.length_singleton]
  refine ⟨List.pairwise_append.mpr ⟨h.numbered, List.pairwise_singleton _ _, ?_⟩, ?_⟩
  · intro p hp q hq
    rw [List.mem_singleton.mp hq]
    exact h.bounded p hp
  · intro p hp
    rcases List.mem_append.mp hp with hold | hnew
    · exact Nat.lt_succ_of_lt (h.bounded p hold)
    · rw [List.mem_singleton.mp hnew]
      exact Nat.lt_succ_self _

theorem inSelect_of_none {d : Delivery} (h : d.waiting = none) : d.inSelect = [] := by
  rw [Delivery.inSelect, h]
  rfl

theorem inSelect_of_some {d : Delivery} {p : Push} {n : Nat} (h : d.waiting = some (p, n)) :
    d.inSelect = [p] := by
  rw [Delivery.inSelect, h]
  rfl

theorem custody_step {d d' : Delivery} {l : DeliveryLabel} (h : Custody d)
    (hstep : deliveryStep d l = some d') : Custody d' := by
  cases delivers_cases hstep with
  | sent s hfree hroom =>
    obtain ⟨hnumbered, hbounded⟩ := numbered_next h s
    have horder := h.inOrder
    rw [inSelect_of_none hfree, List.append_nil] at horder
    refine ⟨hnumbered, hbounded, ?_, ?_⟩
    · grind [inSelect_of_none]
    · intro p hp hfound
      rcases List.mem_append.mp hp with hold | hnew
      · rcases h.kept p hold hfound with hread | hbuffer
        · exact Or.inl hread
        · exact Or.inr (List.mem_append_left _ hbuffer)
      · exact Or.inr (List.mem_append_right _ hnew)
  | dropped s hfree hfull hstalled =>
    obtain ⟨hnumbered, hbounded⟩ := numbered_next h s
    refine ⟨hnumbered, hbounded, h.inOrder.trans (List.sublist_append_left _ _), ?_⟩
    intro p hp hfound
    rcases List.mem_append.mp hp with hold | hnew
    · exact h.kept p hold hfound
    · -- It is lost, and the buffer was full.
      rw [List.mem_singleton.mp hnew] at hfound
      exact absurd (hfull.symm.trans hfound) (by decide)
  | waits s hfree hfull hstalled =>
    obtain ⟨hnumbered, hbounded⟩ := numbered_next h s
    have horder := h.inOrder
    rw [inSelect_of_none hfree, List.append_nil] at horder
    refine ⟨hnumbered, hbounded, ?_, ?_⟩
    · show (d.read ++ (d.buffer ++ [d.next s])).Sublist (d.pushed ++ [d.next s])
      rw [← List.append_assoc]
      exact horder.append (List.Sublist.refl _)
    · intro p hp hfound
      rcases List.mem_append.mp hp with hold | hnew
      · exact h.kept p hold hfound
      · rw [List.mem_singleton.mp hnew] at hfound
        exact absurd (hfull.symm.trans hfound) (by decide)
  | read p rest hbuffer =>
    refine ⟨h.numbered, h.bounded, ?_, ?_⟩
    · -- The same pushes in the same order; the first of the buffer is read now.
      show (d.read ++ [p] ++ ((rest ++ d.inSelect) ++ [])).Sublist d.pushed
      have horder := h.inOrder
      grind
    · intro q hq hfound
      rcases h.kept q hq hfound with hread | hin
      all_goals grind
  | idle ticks hfree => exact h
  | wait ticks p n hwaiting hle =>
    refine ⟨h.numbered, h.bounded, ?_, h.kept⟩
    have horder := h.inOrder
    rw [inSelect_of_some hwaiting] at horder
    exact horder
  | expire p hwaiting =>
    refine ⟨h.numbered, h.bounded, ?_, h.kept⟩
    have horder := h.inOrder
    show (d.read ++ (d.buffer ++ [])).Sublist d.pushed
    rw [List.append_nil]
    rw [← List.append_assoc] at horder
    exact (List.sublist_append_left _ _).trans horder

theorem custody_run {labels : List DeliveryLabel} {d : Delivery}
    (hrun : run deliveryStep deliveryStart labels = some d) : Custody d := by
  have hkeep : ∀ d l d', Custody d → True → deliveryStep d l = some d' → Custody d' :=
    fun _ _ _ h _ hstep => custody_step h hstep
  exact run_invariant hkeep labels custody_start (along_of_forall (fun _ _ => trivial) labels _)
    hrun

/-! ## The time -/

def WaitsOnce (d : Delivery) : DeliveryLabel → Prop
  | .push _ => d.full = true → d.stateStalled = false → d.waited = 0
  | _ => True

instance (d : Delivery) : ∀ l, Decidable (WaitsOnce d l)
  | .push _ => inferInstanceAs (Decidable (d.full = true → d.stateStalled = false → d.waited = 0))
  | .read | .wait _ | .expire => .isTrue trivial

structure OneWait (d : Delivery) : Prop where
  waited_le : d.waited ≤ stateSendTimeout
  current : ∀ p n, d.waiting = some (p, n) → n = d.waited

theorem oneWait_step (d : Delivery) (l : DeliveryLabel) (d' : Delivery) (h : OneWait d)
    (hok : WaitsOnce d l) (hstep : deliveryStep d l = some d') : OneWait d' := by
  cases delivers_cases hstep with
  | sent s hfree hroom =>
    refine ⟨h.waited_le, ?_⟩
    intro p n hwaiting
    rw [hfree] at hwaiting
    cases hwaiting
  | dropped s hfree hfull hstalled => exact ⟨h.waited_le, h.current⟩
  | waits s hfree hfull hstalled =>
    refine ⟨h.waited_le, ?_⟩
    intro p n hwaiting
    have hzero : d.waited = 0 := hok hfull hstalled
    have hpn := Prod.mk.inj (Option.some.inj hwaiting)
    rw [← hpn.2]
    exact hzero.symm
  | read p rest hbuffer => exact ⟨h.waited_le, nofun⟩
  | idle ticks hfree => exact h
  | wait ticks p n hwaiting hle =>
    have hn := h.current p n hwaiting
    refine ⟨?_, ?_⟩
    all_goals grind
  | expire p hwaiting => exact ⟨h.waited_le, nofun⟩

/-- **Chat states arrive in order, and are lost only to a full buffer**; and all pushes together
wait for at most one timeout, if only one of them has to wait. -/
theorem delivery_in_order_and_bounded {labels : List DeliveryLabel} {d : Delivery}
    (hrun : run deliveryStep deliveryStart labels = some d) :
    d.read.Sublist d.pushed ∧ d.pushed.Pairwise (·.number < ·.number)
      ∧ (∀ p ∈ d.pushed, p ∉ d.read → p ∉ d.buffer → p.full = true)
      ∧ (Along deliveryStep WaitsOnce deliveryStart labels → d.waited ≤ stateSendTimeout) := by
  have h := custody_run hrun
  refine ⟨(List.sublist_append_left _ _).trans h.inOrder, h.numbered, ?_, ?_⟩
  · intro p hp hread hbuffer
    by_contra hroom
    rcases h.kept p hp (Bool.eq_false_iff.mpr hroom) with hin | hin
    · exact hread hin
    · exact hbuffer hin
  · intro honce
    have hstart : OneWait deliveryStart := ⟨Nat.zero_le _, nofun⟩
    exact (run_invariant oneWait_step labels hstart honce hrun).waited_le

def fillBuffer : List DeliveryLabel := List.replicate stateBufferSize (.push .close)

def slowThenGone : List DeliveryLabel :=
  fillBuffer ++ [.push .bridge, .wait 800, .expire, .push .close, .wait 5, .read]

theorem slowThenGone_bounded :
    ∃ d, run deliveryStep deliveryStart slowThenGone = some d ∧ d.waited = 800
      ∧ d.read.Sublist d.pushed ∧ d.waited ≤ stateSendTimeout := by
  obtain ⟨d, hrun⟩ := Option.isSome_iff_exists.mp
    (rfl : (run deliveryStep deliveryStart slowThenGone).isSome = true)
  have hwaited : (run deliveryStep deliveryStart slowThenGone).map (·.waited) = some 800 := rfl
  rw [hrun, Option.map_some, Option.some.injEq] at hwaited
  obtain ⟨horder, -, -, hbound⟩ := delivery_in_order_and_bounded hrun
  exact ⟨d, hrun, hwaited, horder, hbound (by decide +kernel)⟩

/-- The reader takes a state just before the timer fires, each time: every push waits. -/
theorem waits_again :
    (run deliveryStep deliveryStart
      (fillBuffer ++ [.push .close, .wait 799, .read, .push .close, .wait 799, .read])).map
        (fun d => (d.waited, d.stateStalled)) = some (1598, false) :=
  rfl

end CallCenter.Chat
