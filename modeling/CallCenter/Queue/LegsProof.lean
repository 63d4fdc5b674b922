import CallCenter.Queue.Legs

/-!
# What a goroutine can rely on about its calls

Whatever the order of the events, three things hold of a call. Before its hangup it names no
transfer and no cause. After it, the hangup and what it names never change. And the state
`CALL_STATE_HANGUP` is sent only by `setHangup`, so a goroutine that receives it finds the
hangup recorded.
-/

namespace CallCenter.CallManager

open Queue (CallState)
open Lib

/-! ## One call -/

/-- The hangup of a call and the transfer it names are the same. -/
structure SameHangup (c c' : CallImpl) : Prop where
  hangupAt : c'.hangupAt = c.hangupAt
  hangup : c'.hangup = c.hangup
  transferTo : c'.transferTo = c.transferTo
  transferToAgentId : c'.transferToAgentId = c.transferToAgentId
  transferFromAttemptId : c'.transferFromAttemptId = c.transferFromAttemptId
  transferFrom : c'.transferFrom = c.transferFrom

theorem SameHangup.refl (c : CallImpl) : SameHangup c c := ⟨rfl, rfl, rfl, rfl, rfl, rfl⟩

def Pc.notesHangup : Pc → Bool
  | .assign .hangup | .send .hangup => true
  | _ => false

/-- A move is the first `setHangup`, or it keeps the hangup; then it sends a state of the
call only if it is the one of its thread. -/
theorem move_hangup {c : CallImpl} {cached : Bool} {pc : Pc} {r : Reply} {m : Move}
    (h : move c cached pc r = some m) :
    (c.hangupAt = 0 ∧ m.call.hangupAt ≠ 0
      ∧ ∃ e, pc = .handle (.hangup e) ∧ m.call = c.setHangup e r.now)
    ∨ (SameHangup c m.call
      ∧ (m.call.chState = c.chState ∨ ∃ s, pc = .send s ∧ m.call.chState = c.chState ++ [s])
      ∧ (m.pc.notesHangup = true → pc.notesHangup = true)
      ∧ ∀ z ∈ m.spawn, z.notesHangup = false) := by
  cases move_cases h with
  | hangup e hat => exact .inl ⟨hat, c.setHangup_hangupAt_ne_zero e r.now_pos, e, rfl, rfl⟩
  | ringing t c' hc =>
    rw [(CallImpl.setRinging_spec hc).1]
    exact .inr ⟨⟨rfl, rfl, rfl, rfl, rfl, rfl⟩, .inl rfl, nofun, by simp⟩
  | progress t c' hc =>
    rw [(CallImpl.setProgress_spec hc).1]
    exact .inr ⟨⟨rfl, rfl, rfl, rfl, rfl, rfl⟩, .inl rfl, nofun, by simp⟩
  | assign s =>
    refine .inr ⟨⟨rfl, rfl, rfl, rfl, rfl, rfl⟩, .inl rfl, fun hs => ?_, by simp⟩
    cases s <;> first | rfl | cases hs
  | send s hroom =>
    exact .inr ⟨⟨rfl, rfl, rfl, rfl, rfl, rfl⟩, .inr ⟨s, rfl, rfl⟩, nofun, by simp⟩
  | invite => exact .inr ⟨⟨rfl, rfl, rfl, rfl, rfl, rfl⟩, .inl rfl, nofun, by simp [Pc.notesHangup]⟩
  | _ => exact .inr ⟨⟨rfl, rfl, rfl, rfl, rfl, rfl⟩, .inl rfl, nofun, by simp⟩

/-- A hangup is recorded before anybody can see it. -/
structure Consistent (w : World) : Prop where
  /-- Before the hangup it has no cause and names no transfer. -/
  blank : w.call.hangupAt = 0 → w.call.hangup = none ∧ w.call.transferTo = none
    ∧ w.call.transferToAgentId = none ∧ w.call.transferFromAttemptId = none
  sent : .hangup ∈ w.call.chState → w.call.hangupAt ≠ 0
  noting : ∀ pc ∈ w.threads, pc.notesHangup = true → w.call.hangupAt ≠ 0

theorem Consistent.hangupCause {w : World} (hw : Consistent w) (h : w.call.hangupCause ≠ "") :
    w.call.hangupAt ≠ 0 := by
  intro hat
  apply h
  rw [CallImpl.hangupCause, (hw.blank hat).1]
  rfl

theorem consistent_spawn {w : World} {pc : Pc} (hw : Consistent w) (hpc : pc.notesHangup = false) :
    Consistent (w.spawn pc) := by
  refine ⟨hw.blank, hw.sent, fun z hz hz' => ?_⟩
  rcases List.mem_append.mp hz with h | h
  · exact hw.noting z h hz'
  · rw [List.mem_singleton.mp h, hpc] at hz'
    cases hz'

theorem consistent_move {w : World} {i : Nat} {r : Reply} {pc : Pc} {m : Move} (hw : Consistent w)
    (hpc : w.threads[i]? = some pc) (hm : move w.call w.cached pc r = some m) :
    Consistent (w.apply i m) := by
  have hmem : pc ∈ w.threads := List.mem_of_getElem? hpc
  rcases move_hangup hm with ⟨-, hne, -⟩ | ⟨hsame, hch, hto, hspawn⟩
  · exact ⟨fun h => absurd h hne, fun _ => hne, fun _ _ _ => hne⟩
  · have hat : m.call.hangupAt = w.call.hangupAt := hsame.hangupAt
    refine ⟨fun h => ?_, fun h => ?_, fun z hz hz' => ?_⟩
    · have hblank := hw.blank (hat ▸ h)
      show m.call.hangup = none ∧ m.call.transferTo = none ∧ m.call.transferToAgentId = none
        ∧ m.call.transferFromAttemptId = none
      rw [hsame.hangup, hsame.transferTo, hsame.transferToAgentId, hsame.transferFromAttemptId]
      exact hblank
    · show m.call.hangupAt ≠ 0
      rw [hat]
      rcases hch with hch | ⟨s, rfl, hch⟩
      · exact hw.sent (hch ▸ h)
      · have h : .hangup ∈ m.call.chState := h
        rw [hch] at h
        rcases List.mem_append.mp h with h | h
        · exact hw.sent h
        · -- the state that is sent now is the thread's
          rw [← List.mem_singleton.mp h] at hmem
          exact hw.noting _ hmem rfl
    · show m.call.hangupAt ≠ 0
      rw [hat]
      rcases (mem_set_append hpc).mp hz with rfl | hz | hz
      all_goals grind [cases Consistent, List.mem_of_mem_eraseIdx]

theorem consistent_step {w w' : World} {l : Label} (hw : Consistent w) (h : step w l = some w') :
    Consistent w' := by
  rcases step_cases h with hout | ⟨i, r, pc, m, rfl, hpc, hm, rfl⟩
  · cases hout with
    | event e => exact consistent_spawn hw rfl
    | hangup cause => exact consistent_spawn hw rfl
    | hangupMany cause => exact consistent_spawn hw rfl
    | invite => exact consistent_spawn hw rfl
    | fire harmed =>
      have hidle : Consistent { w with call := { w.call with ringTimeout := .idle } } :=
        ⟨hw.blank, hw.sent, hw.noting⟩
      exact consistent_spawn hidle rfl
    | evict => exact ⟨hw.blank, hw.sent, hw.noting⟩
    | receive s rest hs =>
      refine ⟨hw.blank, fun h => hw.sent ?_, hw.noting⟩
      rw [hs]
      exact List.mem_cons_of_mem _ h
  · exact consistent_move hw hpc hm

theorem consistent_start (o : Origin) : Consistent (start o) := by
  refine ⟨fun _ => ?_, fun h => ?_, fun _ h => absurd h List.not_mem_nil⟩
  · cases o <;> exact ⟨rfl, rfl, rfl, rfl⟩
  · cases o <;> exact absurd h List.not_mem_nil

theorem consistent_run {labels : List Label} {w w' : World} (hw : Consistent w)
    (h : run step w labels = some w') : Consistent w' :=
  run_invariant (fun _ _ _ hw (_ : True) h => consistent_step hw h) labels hw
    (along_of_forall (fun _ _ => trivial) labels w) h

theorem step_kept {w w' : World} {l : Label} (h : step w l = some w')
    (hat : w.call.hangupAt ≠ 0) : SameHangup w.call w'.call := by
  rcases step_cases h with hout | ⟨i, r, pc, m, rfl, -, hm, rfl⟩
  · cases hout <;> exact ⟨rfl, rfl, rfl, rfl, rfl, rfl⟩
  · rcases move_hangup hm with ⟨hzero, -⟩ | ⟨hsame, -⟩
    · exact absurd hzero hat
    · exact hsame

theorem step_kept_of_outside {w w' : World} {l : Label} (h : Outside w l w') :
    SameHangup w.call w'.call := by
  cases h <;> exact ⟨rfl, rfl, rfl, rfl, rfl, rfl⟩

end CallCenter.CallManager

namespace CallCenter.Queue

open Lib CallManager

/-! ## The calls of a goroutine -/

def agentSignal : Exchange Action.Reply → Option CallState
  | ⟨.select .call, .state s⟩ | ⟨.select .outbound, .state s⟩ | ⟨.select .legs, .agent s⟩
  | ⟨.select .offer, .agent s⟩ => some s
  | _ => none

def memberSignal : Exchange Action.Reply → Option CallState
  | ⟨.select .member, .state s⟩ | ⟨.select .legs, .member s⟩ | ⟨.select .offer, .member s⟩
  | ⟨.select .waitCall, .member s⟩ => some s
  | _ => none

def callFree : Exchange Action.Reply → Bool
  | ⟨.read (.call _ _), _⟩ => false
  | ⟨.select .member, .hangup⟩ => false
  | ⟨.rpc (.invite .agent), _⟩ | ⟨.rpc (.invite .member), _⟩ | ⟨.rpc (.hangup .agent), _⟩
  | ⟨.rpc (.hangup .member), _⟩ | ⟨.rpc (.waitForHangup _), _⟩ | ⟨.rpc .bridge, _⟩
  | ⟨.rpc (.getTransferredCall .agent), _⟩ => false
  | ⟨.newAgentCall, _⟩ | ⟨.clearAgentCall, _⟩ | ⟨.setCall .agent, _⟩
  | ⟨.setCall .member, _⟩ => false
  | e => (agentSignal e).isNone && (memberSignal e).isNone

inductive Exchanged (w : LegsWorld) : Exchange Action.Reply → LegsWorld → Prop where
  | read (l : CallLeg) (f : CallField) (v : Bool) (c : CallManager.World) (hc : w.leg l = some c)
      (h : agrees c.call f v) : Exchanged w ⟨.read (.call l f), v⟩ w
  | takeAgent (e : Exchange Action.Reply) (s : CallState) (a : AgentLeg) (c : CallManager.World)
      (he : agentSignal e = some s) (ha : w.agent = some a)
      (hs : a.call.call.chState.head? = some s) (hc : step a.call .receive = some c) :
      Exchanged w e { w with agent := some { a with call := c } }
  | takeMember (e : Exchange Action.Reply) (s : CallState) (c : CallManager.World)
      (he : memberSignal e = some s) (hs : w.member.call.chState.head? = some s)
      (hc : step w.member .receive = some c) :
      Exchanged w e { w with member := c }
  | memberHangup (h : 0 < w.member.call.hangupCh) : Exchanged w ⟨.select .member, .hangup⟩ w
  | inviteAgent (v : Bool) (a : AgentLeg) (r : CallManager.Reply) (c : CallManager.World)
      (ha : w.agent = some a) (hc : inviteCall a.call r = some c) :
      Exchanged w ⟨.rpc (.invite .agent), v⟩
        { w with agent := some { a with call := c, invited := true } }
  | inviteMember (v : Bool) (r : CallManager.Reply) (c : CallManager.World)
      (hc : inviteCall w.member r = some c) :
      Exchanged w ⟨.rpc (.invite .member), v⟩ { w with member := c }
  | hangupAgent (v : Bool) (a : AgentLeg) (c : CallManager.World) (ha : w.agent = some a)
      (hc : step a.call (.hangup "ORIGINATOR_CANCEL") = some c) :
      Exchanged w ⟨.rpc (.hangup .agent), v⟩
        { w with agent := some { a with call := c, requested := true } }
  | hangupMember (v : Bool) (c : CallManager.World)
      (hc : step w.member (.hangup "ORIGINATOR_CANCEL") = some c) :
      Exchanged w ⟨.rpc (.hangup .member), v⟩ { w with member := c }
  | awaited (l : CallLeg) (v : Bool) (c : CallManager.World) (hc : w.leg l = some c)
      (h : hangupAwaited c.call) : Exchanged w ⟨.rpc (.waitForHangup l), v⟩ w
  | bridge (a : AgentLeg) (now : Int) (ha : w.agent = some a)
      (hcause : a.call.call.hangupCause = "" ∧ w.member.call.hangupCause = "") :
      Exchanged w ⟨.rpc .bridge, true⟩
        { w with
          agent := some { a with
            call := { a.call with call := { a.call.call with bridgeAt := now } }
            bridged := true } }
  | bridgeRefused (a : AgentLeg) (ha : w.agent = some a) : Exchanged w ⟨.rpc .bridge, false⟩ w
  | found (h : live w.target) : Exchanged w ⟨.rpc (.getTransferredCall .agent), true⟩ w
  | notFound (h : ¬ live w.target) (hjoins : ¬ w.Joins) :
      Exchanged w ⟨.rpc (.getTransferredCall .agent), false⟩ w
  | connected (h : ¬ live w.target) (o : CallManager.Origin) (labels : List CallManager.Label)
      (c : CallManager.World) (hc : someCall o labels = some c) :
      Exchanged w ⟨.rpc (.getTransferredCall .agent), true⟩ { w with target := c }
  | newAgentCall (v : Unit) (timeout : Nat) :
      Exchanged w ⟨.newAgentCall, v⟩
        { w with
          past := w.agent.toList ++ w.past
          agent := some ⟨CallManager.start (.newCall timeout), false, false, false⟩ }
  | clearAgentCall (v : Unit) :
      Exchanged w ⟨.clearAgentCall, v⟩ { w with past := w.agent.toList ++ w.past, agent := none }
  | setAgent (v : Unit) (o : CallManager.Origin) (labels : List CallManager.Label)
      (c : CallManager.World) (hc : someCall o labels = some c) :
      Exchanged w ⟨.setCall .agent, v⟩
        { w with
          past := w.agent.toList ++ w.past
          agent := some ⟨w.target, false, false, w.target.call.bridgeAt ≠ 0⟩
          target := c }
  | setMember (v : Unit) (o : CallManager.Origin) (labels : List CallManager.Label)
      (c : CallManager.World) (hc : someCall o labels = some c) :
      Exchanged w ⟨.setCall .member, v⟩ { w with member := c }
  | other (e : Exchange Action.Reply) (he : callFree e = true) : Exchanged w e w

section Inversion

variable {w w' : LegsWorld} {r : CallManager.Reply} {o : CallManager.Origin}
  {labels : List CallManager.Label}

theorem takeState_cases {c c' : CallManager.World} {s : CallState}
    (h : takeState c s = some c') :
    c.call.chState.head? = some s ∧ step c .receive = some c' := by
  unfold takeState at h
  exact Option.ite_none_right_eq_some.mp h

variable {e : Exchange Action.Reply}

theorem takeAgent_cases {s : CallState} (he : agentSignal e = some s)
    (h : w.takeAgent s = some w') :
    Exchanged w e w' := by
  obtain ⟨a, ha, h⟩ := Option.bind_eq_some_iff.mp h
  obtain ⟨c, hc, rfl⟩ := Option.map_eq_some_iff.mp h
  obtain ⟨hs, hc⟩ := takeState_cases hc
  exact .takeAgent e s a c he ha hs hc

theorem takeMember_cases {s : CallState} (he : memberSignal e = some s)
    (h : w.takeMember s = some w') : Exchanged w e w' := by
  obtain ⟨c, hc, rfl⟩ := Option.map_eq_some_iff.mp h
  obtain ⟨hs, hc⟩ := takeState_cases hc
  exact .takeMember e s c he hs hc

theorem exchange_select_cases {s : Select} {v : s.Signal}
    (h : w.exchange r o labels ⟨.select s, v⟩ = some w') : Exchanged w ⟨.select s, v⟩ w' := by
  cases s with
  | call =>
    cases v with
    | state s => exact takeAgent_cases rfl h
    | hangup => exact Option.some.inj h ▸ .other _ rfl
  | member =>
    cases v with
    | cancel => exact Option.some.inj h ▸ .other _ rfl
    | state s => exact takeMember_cases rfl h
    | hangup =>
      obtain ⟨hch, rfl⟩ := of_guard h
      exact .memberHangup hch
  | outbound =>
    cases v with
    | cancel => exact Option.some.inj h ▸ .other _ rfl
    | state s => exact takeAgent_cases rfl h
  | legs =>
    cases v with
    | agent s => exact takeAgent_cases rfl h
    | member s => exact takeMember_cases rfl h
  | offer =>
    cases v with
    | cancel => exact Option.some.inj h ▸ .other _ rfl
    | agent s => exact takeAgent_cases rfl h
    | member s => exact takeMember_cases rfl h
  | waitCall =>
    cases v with
    | member s => exact takeMember_cases rfl h
    | _ => exact Option.some.inj h ▸ .other _ rfl
  | _ => exact Option.some.inj h ▸ .other _ rfl

theorem exchange_rpc_cases {c : Rpc} {v : Bool}
    (h : w.exchange r o labels ⟨.rpc c, v⟩ = some w') : Exchanged w ⟨.rpc c, v⟩ w' := by
  cases c with
  | invite l =>
    cases l with
    | agent =>
      obtain ⟨a, ha, h⟩ := Option.bind_eq_some_iff.mp h
      obtain ⟨c, hc, rfl⟩ := Option.map_eq_some_iff.mp h
      exact .inviteAgent v a r c ha hc
    | member =>
      obtain ⟨c, hc, rfl⟩ := Option.map_eq_some_iff.mp h
      exact .inviteMember v r c hc
    | transferred => exact Option.some.inj h ▸ .other _ rfl
  | hangup l =>
    cases l with
    | agent =>
      obtain ⟨a, ha, h⟩ := Option.bind_eq_some_iff.mp h
      obtain ⟨c, hc, rfl⟩ := Option.map_eq_some_iff.mp h
      exact .hangupAgent v a c ha hc
    | member =>
      obtain ⟨c, hc, rfl⟩ := Option.map_eq_some_iff.mp h
      exact .hangupMember v c hc
    | transferred => exact Option.some.inj h ▸ .other _ rfl
  | waitForHangup l =>
    obtain ⟨c, hc, h⟩ := Option.bind_eq_some_iff.mp h
    obtain ⟨hawaited, rfl⟩ := of_guard h
    exact .awaited l v c hc hawaited
  | bridge =>
    obtain ⟨a, ha, h⟩ := Option.bind_eq_some_iff.mp h
    cases v with
    | true =>
      obtain ⟨hcause, rfl⟩ := of_guard h
      exact .bridge a r.now ha hcause
    | false => exact Option.some.inj h ▸ .bridgeRefused a ha
  | getTransferredCall l =>
    cases l with
    | agent =>
      by_cases hlive : live w.target
      · have h : (if v then some w else none) = some w' := (if_pos hlive).symm.trans h
        cases v with
        | true => exact Option.some.inj h ▸ .found hlive
        | false => cases h
      · have h := (if_neg hlive).symm.trans h
        cases v with
        | true =>
          obtain ⟨-, h⟩ := Option.ite_none_right_eq_some.mp h
          obtain ⟨c, hc, rfl⟩ := Option.map_eq_some_iff.mp h
          exact .connected hlive o labels c hc
        | false =>
          obtain ⟨hjoins, h⟩ := Option.ite_none_left_eq_some.mp h
          exact Option.some.inj h ▸ .notFound hlive hjoins
    | member => exact Option.some.inj h ▸ .other _ rfl
    | transferred => exact Option.some.inj h ▸ .other _ rfl
  | _ => exact Option.some.inj h ▸ .other _ rfl

theorem exchange_cases (h : w.exchange r o labels e = some w') :
    Exchanged w e w' := by
  obtain ⟨a, v⟩ := e
  cases a with
  | read d =>
    cases d with
    | call l f =>
      obtain ⟨c, hc, h⟩ := Option.bind_eq_some_iff.mp h
      obtain ⟨hagrees, rfl⟩ := of_guard h
      exact .read l f v c hc hagrees
    | _ => exact Option.some.inj h ▸ .other _ rfl
  | select s => exact exchange_select_cases h
  | rpc c => exact exchange_rpc_cases h
  | newAgentCall =>
    cases o with
    | newCall timeout => exact Option.some.inj h ▸ .newAgentCall v timeout
    | joined outbound answeredAt createdAt => cases h
  | clearAgentCall => exact Option.some.inj h ▸ .clearAgentCall v
  | setCall l =>
    cases l with
    | agent =>
      obtain ⟨c, hc, rfl⟩ := Option.map_eq_some_iff.mp h
      exact .setAgent v o labels c hc
    | member =>
      obtain ⟨c, hc, rfl⟩ := Option.map_eq_some_iff.mp h
      exact .setMember v o labels c hc
    | transferred => exact Option.some.inj h ▸ .other _ rfl
  | _ => exact Option.some.inj h ▸ .other _ rfl

end Inversion

/-! ## What holds of the calls at any time -/

variable {c c' : CallManager.World}

theorem advance_cases {i : Nat} {r : CallManager.Reply} {pc : Pc} (hpc : c.threads[i]? = some pc)
    (h : step c (.advance i r) = some c') :
    ∃ m, Moves c.call c.cached r pc m ∧ c' = c.apply i m := by
  rcases step_cases h with hout | ⟨j, r', pc', m, hl, hpc', hm, rfl⟩
  · cases hout
  all_goals grind [move_cases]

theorem inviteCall_spec {r : CallManager.Reply} (h : inviteCall c r = some c') :
    c'.call = { c.call with state := .invite } := by
  unfold inviteCall at h
  obtain ⟨c₁, h₁, h⟩ := Option.bind_eq_some_iff.mp h
  obtain ⟨c₂, h₂, h⟩ := Option.bind_eq_some_iff.mp h
  obtain ⟨c₃, h₃, h⟩ := Option.bind_eq_some_iff.mp h
  obtain rfl : c₃ = c' := Option.some.inj h
  have hspawn : c₁ = c.spawn .saveToCache := by
    rcases step_cases h₁ with hout | ⟨i, r, pc, m, hl, -⟩
    · cases hout
      rfl
    · cases hl
  subst hspawn
  obtain ⟨m, hm, rfl⟩ := advance_cases List.getElem?_concat_length h₂
  have hlast : ((c.spawn .saveToCache).apply c.threads.length m).threads[c.threads.length]?
      = some m.pc := by
    simp [CallManager.World.apply, CallManager.World.spawn]
  obtain ⟨m', hm', rfl⟩ := advance_cases hlast h₃
  cases hm with
  | save hdirection =>
    cases hm' with
    | invite => rfl
  | badDirection hdirection => cases hm'

theorem consistent_inviteCall {r : CallManager.Reply} (hc : Consistent c)
    (h : inviteCall c r = some c') : Consistent c' :=
  consistent_run hc h

theorem consistent_someCall {o : CallManager.Origin} {labels : List CallManager.Label}
    (h : someCall o labels = some c) : Consistent c :=
  consistent_run (consistent_start o) h

def InLife (c : CallManager.World) : Prop := ∃ o labels, someCall o labels = some c

theorem InLife.consistent (h : InLife c) : Consistent c := by
  obtain ⟨o, labels, hc⟩ := h
  exact consistent_someCall hc

theorem inLife_start (o : CallManager.Origin) : InLife (CallManager.start o) := ⟨o, [], rfl⟩

variable {l : CallManager.Label}

theorem otherStep_cases (h : otherStep c l = some c') : step c l = some c' :=
  (Option.ite_none_right_eq_some.mp h).2

theorem agentLeg_step_cases {a a' : AgentLeg} (h : a.step l = some a') :
    ∃ c, step a.call l = some c
      ∧ a' = { a with call := c, bridged := a.bridged || decide (c.call.bridgeAt ≠ 0) } := by
  obtain ⟨c, hc, rfl⟩ := Option.map_eq_some_iff.mp h
  exact ⟨c, otherStep_cases hc, rfl⟩

structure AgentLeg.Sound (a : AgentLeg) : Prop where
  consistent : Consistent a.call
  bridged : a.call.call.bridgeAt ≠ 0 → a.bridged = true

structure CallsSound (w : LegsWorld) : Prop where
  member : Consistent w.member
  agent : ∀ a ∈ w.agent, a.Sound
  target : Consistent w.target

theorem AgentLeg.Sound.step {a a' : AgentLeg} (ha : a.Sound) (h : a.step l = some a') :
    a'.Sound := by
  obtain ⟨c, hc, rfl⟩ := agentLeg_step_cases h
  refine ⟨consistent_step ha.consistent hc, fun hat => ?_⟩
  show (a.bridged || decide (c.call.bridgeAt ≠ 0)) = true
  rw [decide_eq_true hat, Bool.or_true]

theorem AgentLeg.Sound.later {a : AgentLeg} (ha : a.Sound) (hc : Consistent c)
    (hat : c.call.bridgeAt = a.call.call.bridgeAt) (invited requested : Bool) :
    AgentLeg.Sound { a with call := c, invited := invited, requested := requested } :=
  ⟨hc, fun h => ha.bridged (hat ▸ h)⟩

theorem receive_call (h : step c .receive = some c') :
    c'.call = { c.call with chState := c'.call.chState } := by
  rcases step_cases h with hout | ⟨i, r, pc, m, hl, -⟩
  · cases hout with
    | receive s rest hs => rfl
  · cases hl

theorem hangup_call {cause : String} (h : step c (.hangup cause) = some c') : c'.call = c.call := by
  rcases step_cases h with hout | ⟨i, r, pc, m, hl, -⟩
  · cases hout with
    | hangup => rfl
  · cases hl

theorem callsSound_exchange {w w' : LegsWorld} {e : Exchange Action.Reply} (hw : CallsSound w)
    (h : Exchanged w e w') : CallsSound w' := by
  have hset : ∀ {a : AgentLeg}, a.Sound → ∀ b ∈ some a, b.Sound := by
    intro a ha b hb
    exact Option.some.inj hb ▸ ha
  cases h with
  | read l f v c hc hagrees => exact hw
  | takeAgent e s a c he ha hs hc =>
    refine ⟨hw.member, hset ?_, hw.target⟩
    exact (hw.agent a ha).later (consistent_step (hw.agent a ha).consistent hc)
      (by rw [receive_call hc]) a.invited a.requested
  | takeMember e s c he hs hc => exact ⟨consistent_step hw.member hc, hw.agent, hw.target⟩
  | memberHangup h => exact hw
  | inviteAgent v a r c ha hc =>
    refine ⟨hw.member, hset ?_, hw.target⟩
    exact (hw.agent a ha).later (consistent_inviteCall (hw.agent a ha).consistent hc)
      (by rw [inviteCall_spec hc]) true a.requested
  | inviteMember v r c hc => exact ⟨consistent_inviteCall hw.member hc, hw.agent, hw.target⟩
  | hangupAgent v a c ha hc =>
    refine ⟨hw.member, hset ?_, hw.target⟩
    exact (hw.agent a ha).later (consistent_step (hw.agent a ha).consistent hc)
      (by rw [hangup_call hc]) a.invited true
  | hangupMember v c hc => exact ⟨consistent_step hw.member hc, hw.agent, hw.target⟩
  | awaited l v c hc hawaited => exact hw
  | bridge a now ha hcause =>
    have hcall := (hw.agent a ha).consistent
    exact ⟨hw.member, hset ⟨⟨hcall.blank, hcall.sent, hcall.noting⟩, fun _ => rfl⟩, hw.target⟩
  | bridgeRefused a ha => exact hw
  | found hlive => exact hw
  | notFound hlive hjoins => exact hw
  | connected hlive o labels c hc => exact ⟨hw.member, hw.agent, consistent_someCall hc⟩
  | newAgentCall v timeout =>
    exact ⟨hw.member, hset ⟨consistent_start (.newCall timeout), fun hat => absurd rfl hat⟩,
      hw.target⟩
  | clearAgentCall v => exact ⟨hw.member, fun a ha => (Option.not_mem_none a ha).elim, hw.target⟩
  | setAgent v o labels c hc =>
    exact ⟨hw.member, hset ⟨hw.target, decide_eq_true⟩, consistent_someCall hc⟩
  | setMember v o labels c hc => exact ⟨consistent_someCall hc, hw.agent, hw.target⟩
  | other e he => exact hw

/-- A step of the goroutine and its calls: the others on one of the calls, or an exchange. -/
inductive LegsMoved (w : LegsWorld) : LegsLabel → LegsWorld → Prop where
  | member (l : CallManager.Label) (c : CallManager.World) (hc : step w.member l = some c) :
      LegsMoved w (.member l) { w with member := c }
  | agent (l : CallManager.Label) (a a' : AgentLeg) (ha : w.agent = some a)
      (hs : a.step l = some a') : LegsMoved w (.agent l) { w with agent := some a' }
  | past (i : Nat) (l : CallManager.Label) (a a' : AgentLeg) (ha : w.past[i]? = some a)
      (hs : a.step l = some a') : LegsMoved w (.past i l) { w with past := w.past.set i a' }
  | target (l : CallManager.Label) (c : CallManager.World) (hc : step w.target l = some c) :
      LegsMoved w (.target l) { w with target := c }
  | joinable (b : Bool) : LegsMoved w (.joinable b) { w with joinable := b }
  | go (e : Exchange Action.Reply) (r : CallManager.Reply) (o : CallManager.Origin)
      (labels : List CallManager.Label) (p : Go Unit) (w' : LegsWorld)
      (hp : w.prog.step e = some p) (he : Exchanged w e w') :
      LegsMoved w (.go e r o labels) { w' with
        prog := p
        stage := stageAfter w.stage e
        delay := if w.TransferWaits then w.delay + 1 else 0 }

theorem legsStep_cases {w w' : LegsWorld} {l : LegsLabel} (h : legsStep w l = some w') :
    LegsMoved w l w' := by
  cases l <;> grind [legsStep, LegsMoved, otherStep_cases, exchange_cases,
    Option.bind_eq_some_iff, Option.map_eq_some_iff]

theorem callsSound_step {w w' : LegsWorld} {l : LegsLabel} (hw : CallsSound w)
    (h : LegsMoved w l w') : CallsSound w' := by
  cases h with
  | member l c hc => exact ⟨consistent_step hw.member hc, hw.agent, hw.target⟩
  | agent l a a' ha hs =>
    refine ⟨hw.member, fun b hb => ?_, hw.target⟩
    exact Option.some.inj hb ▸ (hw.agent a ha).step hs
  | past i l a a' ha hs => exact ⟨hw.member, hw.agent, hw.target⟩
  | target l c hc => exact ⟨hw.member, hw.agent, consistent_step hw.target hc⟩
  | joinable b => exact ⟨hw.member, hw.agent, hw.target⟩
  | go e r o labels p w₁ hp he =>
    have hw₁ := callsSound_exchange hw he
    exact ⟨hw₁.member, hw₁.agent, hw₁.target⟩

theorem callsSound_start {prog : Go Unit} {member target : CallManager.World}
    {agent : Option CallManager.World} (hmember : Consistent member)
    (hagent : ∀ c ∈ agent, Consistent c) (htarget : Consistent target) :
    CallsSound (legsStart prog member agent target) := by
  refine ⟨hmember, fun a ha => ?_, htarget⟩
  obtain ⟨c, hc, rfl⟩ := Option.map_eq_some_iff.mp ha
  exact ⟨hagent c hc, decide_eq_true⟩

def exchanged (a : Action) (v : a.Reply) : LegsLabel :=
  .go ⟨a, v⟩ (answer true) (.newCall 0) []

end CallCenter.Queue
