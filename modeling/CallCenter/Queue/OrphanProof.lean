import CallCenter.Queue.LegsProof
import CallCenter.Queue.OrphanRounds

/-!
# No call of an agent is left behind

The real calls of a goroutine are as it is known of them: a call that is settled stays so, what is
read of a call is what it holds, a hangup is received only after it was recorded, and the hangup of
the member's call never changes. So the condition on the exits of the loops carries over to every
run.
-/

namespace CallCenter.Queue

open Lib CallManager

/-! ## The calls -/

/-- The call was invited, and has neither hung up, nor been asked to, nor been bridged. -/
def AgentLeg.isOpen (a : AgentLeg) : Bool := a.invited && !a.settled

variable {a a' : AgentLeg} {k : LegKind}

theorem isOpen_of_settled (h : a.settled = true) : a.isOpen = false := by
  rw [AgentLeg.isOpen, h, Bool.not_true, Bool.and_false]

theorem settled_of_hangupAt (h : a.call.call.hangupAt ≠ 0) : a.settled = true := by
  rw [AgentLeg.settled, decide_eq_true h, Bool.true_or, Bool.true_or]

theorem settled_of_bridged (h : a.bridged = true) : a.settled = true := by
  rw [AgentLeg.settled, h, Bool.or_true]

theorem settled_step {l : CallManager.Label} (h : a.step l = some a') (ha : a.settled = true) :
    a'.settled = true := by
  obtain ⟨c, hc, rfl⟩ := agentLeg_step_cases h
  simp only [AgentLeg.settled, Bool.or_eq_true, decide_eq_true_eq] at ha ⊢
  rcases ha with (hat | hrequested) | hbridged
  · exact .inl (.inl ((step_kept hc hat).hangupAt ▸ hat))
  · exact .inl (.inr hrequested)
  · exact .inr (.inl hbridged)

theorem isOpen_step {l : CallManager.Label} (h : a.step l = some a') (ha : a'.isOpen = true) :
    a.isOpen = true := by
  grind [AgentLeg.isOpen, agentLeg_step_cases, settled_step]

def LegsWorld.opened (w : LegsWorld) : Bool := w.agent.any AgentLeg.isOpen

def LegsWorld.lost (w : LegsWorld) : Bool := w.past.any AgentLeg.isOpen

abbrev LegsWorld.transferFrom (w : LegsWorld) : Bool := w.member.call.transferFrom.isSome

theorem callFree_silent {e : Exchange Action.Reply} (h : callFree e = true) :
    settles e = false ∧ hears e = false ∧ denies e = false ∧ namesTransferFrom e = false
      ∧ drops e.1 = false := by
  obtain ⟨o, v⟩ := e
  cases o with
  | read d =>
    cases d with
    | call l f => cases h
    | _ => exact ⟨rfl, rfl, rfl, rfl, rfl⟩
  | select s =>
    cases s with
    | offer => cases v <;> first | exact ⟨rfl, rfl, rfl, rfl, rfl⟩ | cases h
    | legs => cases v <;> cases h
    | _ => exact ⟨rfl, rfl, rfl, rfl, rfl⟩
  | rpc c =>
    cases c with
    | hangup l => cases l <;> first | exact ⟨rfl, rfl, rfl, rfl, rfl⟩ | cases h
    | bridge => cases h
    | _ => exact ⟨rfl, rfl, rfl, rfl, rfl⟩
  | newAgentCall => cases h
  | clearAgentCall => cases h
  | setCall l => cases l <;> first | exact ⟨rfl, rfl, rfl, rfl, rfl⟩ | cases h
  | _ => exact ⟨rfl, rfl, rfl, rfl, rfl⟩

section Exchange

variable {w w' : LegsWorld} {e : Exchange Action.Reply}

theorem opened_exchange (h : Exchanged w e w') :
    (w'.opened = true → w.opened = true ∨ e.1 = .rpc (.invite .agent))
    ∧ (w'.lost = true → w.lost = true
      ∨ drops e.1 = true ∧ w.opened = true)
    ∧ (drops e.1 = true → w'.opened = false) := by
  -- what was the agent's call is now among those let go of
  have hpast : ∀ {w' : LegsWorld}, w'.past = w.agent.toList ++ w.past → w'.lost = true →
      w.lost = true ∨ w.opened = true := by
    intro w' hw' hlost
    have hlost : w'.past.any AgentLeg.isOpen = true := hlost
    rw [hw', List.any_append, Bool.or_eq_true] at hlost
    rcases hlost with hagent | hlost
    · cases ha : w.agent with
      | none =>
        rw [ha] at hagent
        cases hagent
      | some a =>
        rw [ha] at hagent
        have hagent : (a.isOpen || false) = true := hagent
        rw [Bool.or_false] at hagent
        right
        show w.agent.any AgentLeg.isOpen = true
        rw [ha]
        exact hagent
    · exact .inl hlost
  have hsame : ∀ {a a' : AgentLeg}, w.agent = some a → a'.isOpen = a.isOpen →
      a'.isOpen = true → w.opened = true := by
    intro a a' ha heq hopen
    show w.agent.any AgentLeg.isOpen = true
    rw [ha]
    exact heq.symm.trans hopen
  cases h with
  | takeAgent e s a c he ha hs hc =>
    have heq : AgentLeg.isOpen { a with call := c } = a.isOpen := by
      grind [AgentLeg.isOpen, AgentLeg.settled, receive_call]
    refine ⟨fun h => .inl (hsame ha heq h), .inl, fun h => ?_⟩
    obtain ⟨o, v⟩ := e
    cases o with
    | select sel => cases h
    | _ => cases he
  | takeMember e s c he hs hc =>
    refine ⟨.inl, .inl, fun h => ?_⟩
    obtain ⟨o, v⟩ := e
    cases o with
    | select sel => cases h
    | _ => cases he
  | inviteAgent v a r c ha hc => exact ⟨fun _ => .inr rfl, .inl, nofun⟩
  | hangupAgent v a c ha hc =>
    have hsettled : AgentLeg.isOpen { a with call := c, requested := true } = false :=
      isOpen_of_settled (by simp [AgentLeg.settled])
    exact ⟨fun h => absurd h (Bool.eq_false_iff.mp hsettled), .inl, nofun⟩
  | bridge a now ha hcause =>
    have hsettled : AgentLeg.isOpen { a with
        call := { a.call with call := { a.call.call with bridgeAt := now } }
        bridged := true } = false :=
      isOpen_of_settled (settled_of_bridged rfl)
    exact ⟨fun h => absurd h (Bool.eq_false_iff.mp hsettled), .inl, nofun⟩
  | newAgentCall v timeout =>
    exact ⟨fun h => absurd h Bool.false_ne_true, fun h => (hpast rfl h).imp_right fun h => ⟨rfl, h⟩,
      fun _ => rfl⟩
  | clearAgentCall v =>
    exact ⟨fun h => absurd h Bool.false_ne_true, fun h => (hpast rfl h).imp_right fun h => ⟨rfl, h⟩,
      fun _ => rfl⟩
  | setAgent v o labels c hc =>
    exact ⟨fun h => absurd h Bool.false_ne_true, fun h => (hpast rfl h).imp_right fun h => ⟨rfl, h⟩,
      fun _ => rfl⟩
  | other e he =>
    refine ⟨.inl, .inl, fun h => ?_⟩
    rw [(callFree_silent he).2.2.2.2] at h
    cases h
  | _ => exact ⟨.inl, .inl, nofun⟩

theorem settled_read (hw : CallsSound w) {l : CallLeg} {f : CallField} {v : Bool}
    {c : CallManager.World} (hc : w.leg l = some c) (hagrees : agrees c.call f v)
    (h : settles ⟨.read (.call l f), v⟩ = true) : w.opened = false := by
  cases l with
  | member => cases h
  | transferred => cases h
  | agent =>
    obtain ⟨a, ha, rfl⟩ := Option.map_eq_some_iff.mp hc
    have hsound := hw.agent a ha
    have hsettled : a.settled = true := by
      cases f with
      | hangupAt => exact settled_of_hangupAt (of_decide_eq_true ((hagrees _ rfl).symm.trans h))
      | hangupCause =>
        have hcause := of_decide_eq_true ((hagrees _ rfl).symm.trans h)
        exact settled_of_hangupAt (hsound.consistent.hangupCause hcause)
      | transferTo =>
        have hto : a.call.call.transferTo.isSome = true := (hagrees _ rfl).symm.trans h
        refine settled_of_hangupAt fun hat => ?_
        rw [(hsound.consistent.blank hat).2.1] at hto
        cases hto
      | bridgeAt =>
        have hat := of_decide_eq_true ((hagrees _ rfl).symm.trans h)
        exact settled_of_bridged (hsound.bridged hat)
      | _ => cases h
    show w.agent.any AgentLeg.isOpen = false
    rw [ha]
    exact isOpen_of_settled hsettled

variable {s : CallState}

theorem settled_signal (he : agentSignal e = some s) (h : settles e = true) : s = .hangup := by
  obtain ⟨o, v⟩ := e
  cases o with
  | select sel =>
    cases sel with
    | offer =>
      obtain rfl : v = .agent .hangup := of_decide_eq_true h
      exact (Option.some.inj he).symm
    | legs =>
      obtain rfl : v = .agent .hangup := of_decide_eq_true h
      exact (Option.some.inj he).symm
    | _ => cases h
  | _ => cases he

theorem settled_memberSignal (he : memberSignal e = some s) : settles e = false := by
  obtain ⟨o, v⟩ := e
  cases o with
  | select sel =>
    cases sel with
    | offer => cases v <;> first | rfl | cases he
    | legs => cases v <;> first | rfl | cases he
    | _ => rfl
  | _ => cases he

theorem settled_exchange (hw : CallsSound w) (h : Exchanged w e w') (hs : settles e = true) :
    w'.opened = false := by
  cases h with
  | read l f v c hc hagrees => exact settled_read hw hc hagrees hs
  | takeAgent e s a c he ha hhead hc =>
    obtain rfl := settled_signal he hs
    have hmem : .hangup ∈ a.call.call.chState := List.mem_of_mem_head? hhead
    have hat : c.call.hangupAt ≠ 0 := by
      rw [receive_call hc]
      exact (hw.agent a ha).consistent.sent hmem
    exact isOpen_of_settled (settled_of_hangupAt (a := { a with call := c }) hat)
  | takeMember e s c he hhead hc =>
    rw [settled_memberSignal he] at hs
    cases hs
  | hangupAgent v a c ha hc => exact isOpen_of_settled (by simp [AgentLeg.settled])
  | bridge a now ha hcause => exact isOpen_of_settled (settled_of_bridged rfl)
  | other e he =>
    rw [(callFree_silent he).1] at hs
    cases hs
  | _ => cases hs

theorem member_exchange (h : Exchanged w e w') :
    e.1 = .setCall .member ∨ SameHangup w.member.call w'.member.call := by
  cases h with
  | takeMember e s c he hs hc =>
    rw [receive_call hc]
    exact .inr ⟨rfl, rfl, rfl, rfl, rfl, rfl⟩
  | inviteMember v r c hc =>
    rw [inviteCall_spec hc]
    exact .inr ⟨rfl, rfl, rfl, rfl, rfl, rfl⟩
  | hangupMember v c hc =>
    rw [hangup_call hc]
    exact .inr (SameHangup.refl _)
  | setMember v o labels c hc => exact .inl rfl
  | _ => exact .inr (SameHangup.refl _)

theorem heard_signal (he : memberSignal e = some s) (h : hears e = true) : s = .hangup := by
  obtain ⟨o, v⟩ := e
  cases o with
  | select sel =>
    cases sel with
    | offer =>
      obtain rfl : v = .member .hangup := of_decide_eq_true h
      exact (Option.some.inj he).symm
    | legs =>
      obtain rfl : v = .member .hangup := of_decide_eq_true h
      exact (Option.some.inj he).symm
    | _ => cases h
  | _ => cases he

theorem heard_agentSignal (he : agentSignal e = some s) : hears e = false := by
  obtain ⟨o, v⟩ := e
  cases o with
  | select sel =>
    cases sel with
    | offer => cases v <;> first | rfl | cases he
    | legs => cases v <;> first | rfl | cases he
    | _ => rfl
  | _ => cases he

theorem heard_exchange (hw : CallsSound w) (h : Exchanged w e w') (hs : hears e = true) :
    w'.member.call.hangupAt ≠ 0 := by
  cases h with
  | read l f v c hc hagrees =>
    cases l with
    | member =>
      cases hc
      cases f with
      | hangupAt => exact of_decide_eq_true ((hagrees _ rfl).symm.trans hs)
      | hangupCause =>
        exact hw.member.hangupCause (of_decide_eq_true ((hagrees _ rfl).symm.trans hs))
      | _ => cases hs
    | agent => cases hs
    | transferred => cases hs
  | takeMember e s c he hhead hc =>
    obtain rfl := heard_signal he hs
    show c.call.hangupAt ≠ 0
    rw [receive_call hc]
    exact hw.member.sent (List.mem_of_mem_head? hhead)
  | takeAgent e s a c he ha hhead hc =>
    rw [heard_agentSignal he] at hs
    cases hs
  | other e he =>
    rw [(callFree_silent he).2.1] at hs
    cases hs
  | _ => cases hs

theorem denied_exchange (h : Exchanged w e w') :
    (denies e = true → w.member.call.hangupAt = 0)
    ∧ (namesTransferFrom e = true → w.transferFrom = true) := by
  cases h with
  | read l f v c hc hagrees =>
    cases l with
    | member =>
      cases hc
      cases f with
      | hangupAt =>
        refine ⟨fun hd => ?_, nofun⟩
        have hv : v = decide (w.member.call.hangupAt ≠ 0) := hagrees _ rfl
        have hd : (!v) = true := hd
        rw [hv, Bool.not_eq_true', decide_eq_false_iff_not] at hd
        exact not_not.mp hd
      | transferFrom => exact ⟨nofun, fun hn => (hagrees _ rfl).symm.trans hn⟩
      | _ => exact ⟨nofun, nofun⟩
    | agent => exact ⟨nofun, nofun⟩
    | transferred => exact ⟨nofun, nofun⟩
  | takeAgent e s a c he ha hs hc =>
    obtain ⟨o, v⟩ := e
    cases o with
    | select sel => exact ⟨nofun, nofun⟩
    | _ => cases he
  | takeMember e s c he hs hc =>
    obtain ⟨o, v⟩ := e
    cases o with
    | select sel => exact ⟨nofun, nofun⟩
    | _ => cases he
  | other e he =>
    obtain ⟨-, -, hd, hn, -⟩ := callFree_silent he
    exact ⟨fun h => absurd h (by rw [hd]; decide), fun h => absurd h (by rw [hn]; decide)⟩
  | _ => exact ⟨nofun, nofun⟩

end Exchange

/-! ## The goroutine among its calls -/

/-- The goroutine turns away from no open call, and invites no agent for a member who has
hung up (where it does not look again). -/
def LegKept (k : LegKind) (w : LegsWorld) : LegsLabel → Prop
  | .go e _ _ _ => (leavesLeg k w.member.call.transferFrom.isSome e = true →
        ∀ a ∈ w.agent, a.isOpen = false)
      ∧ (k = .joinAgent → e.1 = .rpc (.invite .agent) → w.member.call.hangupAt = 0)
  | _ => True

theorem leavesLeg_of_false {e : Exchange Action.Reply} {transferFrom : Bool}
    (h : leavesLeg k false e = true) : leavesLeg k transferFrom e = true := by
  cases k with
  | inbound =>
    simp only [leavesLeg] at h ⊢
    split at h
    case h_4 => rw [Bool.and_false] at h; cases h
    all_goals exact h
  | _ => exact h

theorem leavesLeg_action {e : Exchange Action.Reply} {transferFrom : Bool}
    (h : leavesLeg k transferFrom e = true) :
    e.1 ≠ .setCall .member ∧ e.1 ≠ .rpc (.invite .agent) := by
  obtain ⟨o, v⟩ := e
  refine ⟨fun ho => ?_, fun ho => ?_⟩ <;>
  · obtain rfl : o = _ := ho
    cases k <;> cases h

/-- What is known of the calls is so. -/
structure LegsView.Covers (m : LegsView) (w : LegsWorld) : Prop where
  opened : w.opened = true → m.opened = true
  lost : w.lost = true → m.lost = true
  hung : m.hung = true → w.member.call.hangupAt ≠ 0
  spared : m.spared = true → w.member.call.hangupAt ≠ 0 ∧ (w.opened = true → w.transferFrom = false)

theorem covers_exchange {m : LegsView} {w w' : LegsWorld} {e : Exchange Action.Reply}
    (hcalls : CallsSound w) (hm : m.Covers w)
    (hleaves : leavesLeg k w.transferFrom e = true → w.opened = false)
    (hinvites : k = .joinAgent → e.1 = .rpc (.invite .agent) → w.member.call.hangupAt = 0)
    (h : Exchanged w e w') : ∃ m', m.after k e = some m' ∧ m'.Covers w' := by
  obtain ⟨hopened, hlost, hdropped⟩ := opened_exchange h
  obtain ⟨hdenied, hnamed⟩ := denied_exchange h
  have hkept : w.member.call.hangupAt ≠ 0 → e.1 ≠ .setCall .member →
      w'.member.call.hangupAt ≠ 0 ∧ w'.transferFrom = w.transferFrom := by
    intro hat ho
    have hsame := (member_exchange h).resolve_left ho
    exact ⟨hsame.hangupAt ▸ hat, congrArg Option.isSome hsame.transferFrom⟩
  -- a call that is open is not one the goroutine turns away from
  have hstill : w.opened = true →
      (m.opened && !(leavesLeg k false e || m.spared && namesTransferFrom e)) = true := by
    intro ho
    have hfalse : leavesLeg k false e = false := by
      refine Bool.eq_false_iff.mpr fun hl => ?_
      rw [hleaves (leavesLeg_of_false hl)] at ho
      cases ho
    have hspared : (m.spared && namesTransferFrom e) = false := by
      refine Bool.eq_false_iff.mpr fun hs => ?_
      obtain ⟨hs, hn⟩ := Bool.and_eq_true_iff.mp hs
      have hfrom := hnamed hn
      rw [(hm.spared hs).2 ho] at hfrom
      cases hfrom
    rw [hm.opened ho, hfalse, hspared]
    rfl
  have hcomes : ¬ (m.hung && (denies e
      || decide (k = .joinAgent ∧ e.1 = .rpc (.invite .agent)))) = true := by
    intro hnot
    obtain ⟨hhung, hnot⟩ := Bool.and_eq_true_iff.mp hnot
    rcases Bool.or_eq_true_iff.mp hnot with hd | hi
    · exact hm.hung hhung (hdenied hd)
    · obtain ⟨hk, ho⟩ := of_decide_eq_true hi
      exact hm.hung hhung (hinvites hk ho)
  refine ⟨_, if_neg hcomes, fun ho => ?_, fun hl => ?_, fun hh => ?_, fun hs => ?_⟩
  · have hsettles : settles e = false := by
      refine Bool.eq_false_iff.mpr fun hs => ?_
      rw [settled_exchange hcalls h hs] at ho
      cases ho
    have hdrops : drops e.1 = false := by
      refine Bool.eq_false_iff.mpr fun hd => ?_
      rw [hdropped hd] at ho
      cases ho
    rcases hopened ho with hw | hi
    · simp only [hstill hw, hdrops, hsettles, Bool.not_false, Bool.and_self, Bool.true_or]
    · simp only [hi, hsettles, decide_true, Bool.or_true, Bool.not_false, Bool.and_self]
  · rcases hlost hl with hw | ⟨hd, hw⟩
    · simp only [hm.lost hw, Bool.true_or]
    · simp only [hstill hw, hd, Bool.and_self, Bool.or_true]
  · rcases Bool.or_eq_true_iff.mp hh with hh | hh
    · obtain ⟨hhung, ho⟩ := Bool.and_eq_true_iff.mp hh
      exact (hkept (hm.hung hhung) (of_decide_eq_true ho)).1
    · exact heard_exchange hcalls h hh
  · obtain ⟨hhung, hl⟩ := Bool.and_eq_true_iff.mp hs
    obtain ⟨hset, hinvite⟩ := leavesLeg_action hl
    obtain ⟨hat, hfrom⟩ := hkept (hm.hung hhung) hset
    refine ⟨hat, fun ho => ?_⟩
    rw [hfrom]
    refine Bool.eq_false_iff.mpr fun htrue => ?_
    have hw := (hopened ho).resolve_right hinvite
    rw [hleaves (htrue ▸ hl)] at hw
    cases hw

/-- The view covers the calls, and is closed in the end. -/
structure LegsKept (k : LegKind) (w : LegsWorld) : Prop where
  calls : CallsSound w
  meets : ∃ m : LegsView, m.Covers w ∧ k.Meets w.prog m fun _ m' => m'.closed = true

theorem any_set {p : AgentLeg → Bool} {legs : List AgentLeg} {i : Nat} (ha : legs[i]? = some a)
    (hp : p a' = true → p a = true) (h : (legs.set i a').any p = true) : legs.any p = true := by
  grind

theorem legsKept_step (k : LegKind) (w : LegsWorld) (l : LegsLabel) (w' : LegsWorld)
    (hw : LegsKept k w) (hkept : LegKept k w l) (h : legsStep w l = some w') : LegsKept k w' := by
  have hmoved := legsStep_cases h
  have hcalls := callsSound_step hw.calls hmoved
  obtain ⟨m, hm, hmeets⟩ := hw.meets
  cases hmoved with
  | member l c hc =>
    refine ⟨hcalls, m, ⟨hm.opened, hm.lost, fun hh => ?_, fun hs => ?_⟩, hmeets⟩
    · exact (step_kept hc (hm.hung hh)).hangupAt ▸ hm.hung hh
    · obtain ⟨hat, hfrom⟩ := hm.spared hs
      have hsame := step_kept hc hat
      exact ⟨hsame.hangupAt ▸ hat, fun ho =>
        (congrArg Option.isSome hsame.transferFrom).trans (hfrom ho)⟩
  | agent l a a' ha hs =>
    have hopened : a'.isOpen = true → w.opened = true := by
      intro ho
      rw [LegsWorld.opened, ha]
      exact isOpen_step hs ho
    exact ⟨hcalls, m, ⟨fun ho => hm.opened (hopened ho), hm.lost, hm.hung,
      fun hs => ⟨(hm.spared hs).1, fun ho => (hm.spared hs).2 (hopened ho)⟩⟩, hmeets⟩
  | past i l a a' ha hs =>
    exact ⟨hcalls, m, ⟨hm.opened, fun hl => hm.lost (any_set ha (isOpen_step hs) hl), hm.hung,
      hm.spared⟩, hmeets⟩
  | target l c hc => exact ⟨hcalls, m, ⟨hm.opened, hm.lost, hm.hung, hm.spared⟩, hmeets⟩
  | joinable b => exact ⟨hcalls, m, ⟨hm.opened, hm.lost, hm.hung, hm.spared⟩, hmeets⟩
  | go e r o labels p w₁ hp he =>
    have hleaves : leavesLeg k w.transferFrom e = true → w.opened = false := by
      intro hl
      have hclosed := hkept.1 hl
      rw [LegsWorld.opened]
      cases ha : w.agent with
      | none => rfl
      | some a => exact hclosed a ha
    obtain ⟨m', hafter, hm'⟩ := covers_exchange hw.calls hm hleaves hkept.2 he
    exact ⟨hcalls, m', ⟨hm'.opened, hm'.lost, hm'.hung, hm'.spared⟩, (hmeets.step hp).2 m' hafter⟩

/-- **No call of an agent is left behind** in every run whose steps keep the condition:
whenever the goroutine waits for another agent or has returned, every call it has invited
has hung up, or was asked to, or was bridged. -/
theorem no_orphaned_leg (k : LegKind) (q : QueueConfig) (rounds : Nat)
    {member target : CallManager.World} (hmember : InLife member) (htarget : InLife target)
    (labels : List LegsLabel)
    (hkept : Along legsStep (LegKept k) (legsStart (k.run q rounds) member none target) labels)
    {w : LegsWorld}
    (hrun : run legsStep (legsStart (k.run q rounds) member none target) labels = some w)
    (hwhere : w.prog = .ret () ∨ w.prog.asking = some (.select .waitCall)) :
    ∀ a ∈ w.agent.toList ++ w.past, a.invited = true → a.settled = true := by
  have hstart : LegsKept k (legsStart (k.run q rounds) member none target) :=
    ⟨callsSound_start hmember.consistent (fun c hc => (Option.not_mem_none c hc).elim)
      htarget.consistent, ⟨false, false, false, false⟩,
      ⟨fun h => absurd h Bool.false_ne_true, fun h => absurd h Bool.false_ne_true, nofun, nofun⟩,
      closed_run k q rounds _ rfl⟩
  have hw := run_invariant (legsKept_step k) labels hstart hkept hrun
  obtain ⟨m, hm, hmeets⟩ := hw.meets
  have hclosed : m.closed = true := by
    rcases hwhere with hret | hwait
    · rw [hret] at hmeets
      exact hmeets
    · exact hmeets.asks hwait
  obtain ⟨hopened, hlost⟩ := Bool.and_eq_true_iff.mp hclosed
  intro a ha hinvited
  have hopen : a.isOpen = false := by
    refine Bool.eq_false_iff.mpr fun h => ?_
    rcases List.mem_append.mp ha with ha | ha
    · have hw : w.opened = true := by
        rw [LegsWorld.opened, Option.mem_toList.mp ha]
        exact h
      rw [hm.opened hw] at hopened
      cases hopened
    · rw [hm.lost (List.any_eq_true.mpr ⟨a, ha, h⟩)] at hlost
      cases hlost
  rw [AgentLeg.isOpen, hinvited, Bool.true_and, Bool.not_eq_false'] at hopen
  exact hopen

/-! ## Calls that are left behind -/

instance (k : LegKind) (w : LegsWorld) (l : LegsLabel) : Decidable (LegKept k w l) := by
  unfold LegKept
  split <;> infer_instance

def startLegs (k : LegKind) (o : CallManager.Origin) : LegsWorld :=
  legsStart (k.run default 2) (CallManager.start o) none (CallManager.start (.newCall 0))

def made : List LegsLabel := [exchanged .newAgentCall (), exchanged (.rpc .publish) true]

def offered : List LegsLabel :=
  [exchanged (.setState .joined) (), exchanged (.store (.setFindAgentState false)) true,
    exchanged .on (), exchanged (.setState .waitAgent) (),
    exchanged (.read (.call .member .hangupAt)) false, exchanged (.select .waitCall) .agents,
    exchanged .getTeam true, exchanged (.read (.call .member .hangupCause)) false]
    ++ made ++ [exchanged (.rpc (.invite .agent)) true]

def waitsAgain : List LegsLabel :=
  [exchanged (.read (.call .agent .bridgeAt)) false,
    exchanged (.read (.call .agent .shouldMarkAsMissed)) false,
    exchanged (.store .setAttemptWaitingAgent) true, exchanged (.rpc .publish) true,
    exchanged .clearAgent (), exchanged (.setState .waitAgent) (), exchanged .clearAgentCall (),
    exchanged (.read (.call .member .hangupAt)) false,
    exchanged (.read (.call .member .bridgeAt)) false]

def agentHangsUp : List LegsLabel :=
  [.agent (.event (.hangup (normalClearing 9))), .agent (.advance 2 (answer true)),
    .agent (.advance 2 (answer true)), exchanged (.read (.call .agent .hangupCause)) true]

theorem no_orphaned_leg_inbound :
    ∃ w, run legsStep (startLegs .inbound (.joined false 1 1))
      (offered ++ agentHangsUp ++ waitsAgain)
        = some w ∧ w.past.map (·.invited) = [true]
      ∧ ∀ a ∈ w.agent.toList ++ w.past, a.invited = true → a.settled = true := by
  obtain ⟨w, hrun⟩ := Option.isSome_iff_exists.mp (rfl : (run legsStep
    (startLegs .inbound (.joined false 1 1)) (offered ++ agentHangsUp ++ waitsAgain)).isSome = true)
  have hend : (run legsStep (startLegs .inbound (.joined false 1 1))
      (offered ++ agentHangsUp ++ waitsAgain)).map (fun w =>
        (w.prog.asking, w.past.map (·.invited)))
      = some (some (.select .waitCall), [true]) := rfl
  rw [hrun, Option.map_some, Option.some.injEq, Prod.mk.injEq] at hend
  exact ⟨w, hrun, hend.2, no_orphaned_leg .inbound default 2 (inLife_start (.joined false 1 1))
    (inLife_start (.newCall 0)) (offered ++ agentHangsUp ++ waitsAgain) (by decide) hrun
    (.inr hend.1)⟩

def cancelled : List LegsLabel :=
  [exchanged (.read (.call .agent .hangupCause)) false,
    exchanged (.read (.call .member .hangupCause)) false, exchanged (.select .offer) .cancel]

/-- The member hangs up before the agent of a join-agent queue is invited; the loop is not
entered. -/
def lostRace : List LegsLabel :=
  [.member (.event (.hangup (normalClearing 9))), .member (.advance 0 (answer true)),
    .member (.advance 0 (answer true)), exchanged (.setState .joined) (),
    exchanged .getTeam true, exchanged (.read (.call .member .hangupCause)) true]
    ++ made ++ [exchanged (.rpc (.invite .agent)) true,
      exchanged (.read (.call .agent .bridgeAt)) false,
      exchanged (.read (.call .agent .shouldMarkAsMissed)) false,
      exchanged (.store .cancelAttemptAndReleaseAgent) true, exchanged (.rpc .publish) true,
      exchanged .leavingMember (), exchanged .off ()]

def answeredOnce : List LegsLabel :=
  [exchanged (.rpc .newCall) true, exchanged (.read (.attempt .canceled)) false,
    exchanged (.rpc .publish) true, exchanged (.rpc (.invite .member)) true,
    .member (.event (.active 5))] ++ List.replicate 5 (.member (.advance 2 (answer true)))
    ++ [exchanged (.select .member) (.state .accept),
      exchanged (.read (.call .member .hasProcessAmd)) false, exchanged .confirmAttempt true,
      exchanged .newAgentCall (), exchanged (.read (.call .member .hangupCause)) false,
      exchanged (.rpc (.invite .agent)) true]

/-- The detection of the answering machine is sent, and the member hangs up: the loop ends by
the cause, and the detection is taken for another answer. -/
def answeredTwice : List LegsLabel :=
  [.member (.event (.amd ⟨"HUMAN", "", "", ""⟩)), .member (.event (.hangup (normalClearing 9)))]
    ++ List.replicate 4 (.member (.advance 3 (answer true)))
    ++ List.replicate 2 (.member (.advance 4 (answer true)))
    ++ [exchanged (.read (.call .agent .hangupCause)) false,
      exchanged (.read (.call .member .hangupCause)) true,
      exchanged (.select .member) (.state .detectAmd),
      exchanged (.read (.call .member .hasProcessAmd)) false, exchanged .confirmAttempt true,
      exchanged .newAgentCall (), exchanged (.read (.call .member .hangupCause)) true,
      exchanged (.read (.call .agent .bridgeAt)) false,
      exchanged (.read (.call .agent .hangupAt)) false,
      exchanged (.read (.call .agent .transferTo)) false,
      exchanged (.read (.call .member .hangupAt)) true, exchanged (.rpc (.hangup .agent)) true,
      exchanged (.read (.call .agent .shouldMarkAsMissed)) false,
      exchanged (.store .cancelAttemptAndReleaseAgent) true, exchanged (.rpc .publish) true,
      exchanged .leavingMember ()]

/-- The goroutine waits for another agent, or has returned, and an invited call has neither
hung up, nor been asked to, nor been bridged. -/
theorem leg_orphaned :
    (∃ w, run legsStep (startLegs .inbound (.joined false 1 1)) (offered ++ cancelled ++ waitsAgain)
        = some w ∧ w.prog.asking = some (.select .waitCall)
      ∧ w.past.map (fun a => (a.invited, a.settled)) = [(true, false)])
    ∧ (∃ w, run legsStep (startLegs .joinAgent (.joined false 1 1)) lostRace = some w
      ∧ w.prog = .ret () ∧ w.agent.map (fun a => (a.invited, a.settled)) = some (true, false))
    ∧ ∃ w, run legsStep (startLegs .progressive (.newCall 0)) (answeredOnce ++ answeredTwice)
        = some w ∧ w.prog = .ret ()
      ∧ w.past.map (fun a => (a.invited, a.settled)) = [(true, false)] :=
  ⟨⟨_, rfl, rfl, rfl⟩, ⟨_, rfl, rfl, rfl⟩, _, rfl, rfl, rfl⟩

end CallCenter.Queue
