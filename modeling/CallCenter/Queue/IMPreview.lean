import CallCenter.Queue.PlainProof

/-!
# The previews of an IM attempt

An agent who is offered a thread gets a preview of it. The session remembers for whom
(`previewUserId`) until the preview is upgraded or removed, and `InboundIMQueue.run` has to see to
it in each of its ways out of an offer.

The record beside the goroutine has what the session remembers and the book of the gateway: every
preview that was granted, with its end. The two agree at all times (`Recorded`). The goroutine is
followed by whether there may be a preview: while an agent is offered the thread it is this
agent's, and everywhere else there is none.
-/

namespace CallCenter.Queue

open Lib

inductive PreviewEnd where
  | removed | upgraded
  /-- `RemoveFromPreview` has returned an error. -/
  | removeFailed

structure Preview where
  userId : Int
  ending : Option PreviewEnd

namespace IMPreview

/-- Users are named by their ids; a session that names nobody has the empty string for it. -/
structure Record where
  agent : Option Int
  held : Option Int
  previewUserId : Option Int
  userId : Option Int
  previews : List Preview

namespace Record

def grant (m : Record) : Record :=
  { m with previewUserId := m.held, previews := m.previews ++ m.held.toList.map (⟨·, none⟩) }

/-- The previews of a user that have no end get one. -/
def settle (previews : List Preview) (userId : Int) (e : PreviewEnd) : List Preview :=
  previews.map fun p =>
    if p.userId = userId ∧ p.ending = none then { p with ending := some e } else p

/-- `RemovePreviewUser`, which forgets the user also after an error. -/
def removePreviewUser (m : Record) (ok : Bool) : Record :=
  match m.previewUserId with
  | none => m
  | some u => { m with
      previewUserId := none
      previews := settle m.previews u (if ok then .removed else .removeFailed) }

def upgradePreviewUser (m : Record) (ok : Bool) : Record :=
  match m.held, ok with
  | some u, true => { m with
      userId := some u, previewUserId := none, previews := settle m.previews u .upgraded }
  | _, _ => m

/-- The record after an exchange of the goroutine, if it is possible. An event of an agent who was
cleared in the meantime is not received: the goroutine panics. -/
def exchange (m : Record) : Exchange Action.Reply → Option Record
  | ⟨.select .waitIM, s⟩ =>
    if s = .agents then
      if m.agent.isSome then some { m with held := m.agent } else none
    else some m
  | ⟨.clearAgent, _⟩ => some { m with agent := none }
  | ⟨.givePreview, r⟩ =>
    match r with
    | .ok => some m.grant
    -- already a member: `MarkUserJoined`
    | .special => some { m with userId := m.held }
    | .failed => some m
  | ⟨.read (.attempt .hasPreview), v⟩ => if v = m.previewUserId.isSome then some m else none
  | ⟨.read (.attempt .userJoined), v⟩ =>
    if v = (m.userId.isSome && m.userId == m.held) then some m else none
  | ⟨.read (.attempt .agentSet), v⟩ => if v = m.agent.isSome then some m else none
  | ⟨.rpc .removePreview, ok⟩ => some (m.removePreviewUser ok)
  | ⟨.rpc .upgradePreview, ok⟩ => some (m.upgradePreviewUser ok)
  | ⟨.rpc .addMember, ok⟩ | ⟨.rpc .transferMember, ok⟩ =>
    some (if ok then { m with userId := m.held } else m)
  | _ => some m

def pending (m : Record) : List Int :=
  (m.previews.filter fun p => p.ending.isNone).map Preview.userId

end Record

structure World where
  prog : Go Unit
  record : Record

inductive Label where
  | bring (userId : Int)
  | go (e : Exchange Action.Reply)

def step (w : World) : Label → Option World
  | .bring u => some { w with record := { w.record with agent := some u } }
  | .go e => (w.prog.step e).bind fun p => (w.record.exchange e).map fun m => ⟨p, m⟩

/-- The attempt is distributed: the target of a transfer to an agent has its agent. -/
def start (q : QueueConfig) (rounds : Nat) (agent : Option Int) : World where
  prog := InboundIMQueue.run q rounds
  record := ⟨agent, none, none, none, []⟩

/-! ## The book -/

section Book

variable {m : Record} {previews : List Preview} {u : Int} {e : PreviewEnd}

theorem pending_settle :
    ((Record.settle previews u e).filter fun p => p.ending.isNone).map Preview.userId
      = ((previews.filter fun p => p.ending.isNone).map Preview.userId).filter (· ≠ u) := by
  induction previews with
  | nil => rfl
  | cons p previews ih =>
    unfold Record.settle at ih ⊢
    rw [List.map_cons]
    cases hend : p.ending with
    | some e' => simp [hend, ih]
    | none =>
      by_cases hu : p.userId = u
      · simp [hend, hu, ih]
      · simp [hend, hu, ih]

/-- The previews without an end are what the session remembers. -/
def Recorded (m : Record) : Prop := m.pending = m.previewUserId.toList

theorem pending_of_none (h : Recorded m) (hnone : m.previewUserId = none) : m.pending = [] := by
  rw [Recorded, hnone] at h
  exact h

theorem recorded_grant (h : Recorded m) (hnone : m.previewUserId = none) : Recorded m.grant := by
  have hp := pending_of_none h hnone
  unfold Recorded Record.pending Record.grant at *
  cases m.held with
  | none => simpa using hp
  | some u => simpa using hp

theorem agent_removePreviewUser (ok : Bool) : (m.removePreviewUser ok).agent = m.agent := by
  unfold Record.removePreviewUser
  split <;> rfl

theorem agent_upgradePreviewUser (ok : Bool) : (m.upgradePreviewUser ok).agent = m.agent := by
  unfold Record.upgradePreviewUser
  split <;> rfl

theorem removed (h : Recorded m) (ok : Bool) :
    Recorded (m.removePreviewUser ok) ∧ (m.removePreviewUser ok).previewUserId = none := by
  unfold Record.removePreviewUser
  cases hu : m.previewUserId with
  | none => exact ⟨h, hu⟩
  | some u =>
    refine ⟨?_, rfl⟩
    rw [Recorded, hu] at h
    rw [Recorded, Record.pending, pending_settle, ← Record.pending, h]
    simp

theorem upgraded (h : Recorded m) (hheld : m.previewUserId = none ∨ m.previewUserId = m.held) :
    Recorded (m.upgradePreviewUser true)
      ∧ (m.upgradePreviewUser true).previewUserId = none := by
  unfold Record.upgradePreviewUser
  cases hu : m.held with
  | none =>
    rw [hu, or_self] at hheld
    exact ⟨h, hheld⟩
  | some u =>
    refine ⟨?_, rfl⟩
    rw [Recorded] at h
    rw [Recorded, Record.pending, pending_settle, ← Record.pending, h]
    rcases hheld with hnone | hsome
    · rw [hnone]
      rfl
    · rw [hsome, hu]
      simp

end Book

/-! ## What is known of the preview -/

structure Known where
  /-- There may be a preview: that of the agent who is offered the thread. -/
  preview : Bool
  /-- The attempt has an agent. -/
  agent : Bool
  deriving DecidableEq

instance : Listed Known where
  all := [⟨true, true⟩, ⟨true, false⟩, ⟨false, true⟩, ⟨false, false⟩]
  mem_all := by rintro ⟨_ | _, _ | _⟩ <;> decide

def Known.after (m : Known) : Exchange Action.Reply → Option Known
  | ⟨.select .waitIM, s⟩ => some (if s = .agents then { m with agent := true } else m)
  | ⟨.clearAgent, _⟩ => some { m with agent := false }
  | ⟨.givePreview, r⟩ => some (if r = .ok then { m with preview := true } else m)
  | ⟨.read (.attempt .hasPreview), v⟩ =>
    if v && !m.preview then none else some { m with preview := v }
  | ⟨.read (.attempt .agentSet), v⟩ => if m.agent && !v then none else some m
  | ⟨.rpc .removePreview, _⟩ => some { m with preview := false }
  | ⟨.rpc .upgradePreview, ok⟩ => some { m with preview := m.preview && !ok }
  | _ => some m

/-- Nobody is offered the thread where an agent is waited for or given a preview. -/
def Known.safe (m : Known) : Action → Bool
  | .select .waitIM | .givePreview => !m.preview
  | _ => true

def previewTracker : Tracker Action.Reply Known := ⟨Known.safe, Known.after⟩

abbrev PreviewMeets {α : Type} (p : Go α) (m : Known) (Q : α → Known → Prop) : Prop :=
  Meets previewTracker.contract p m Q

/-- What is known of the preview is so. -/
structure Known.Covers (m : Known) (r : Record) : Prop where
  recorded : Recorded r
  preview : r.previewUserId = none ∨ m.preview = true ∧ r.previewUserId = r.held
  agent : m.agent = true → r.agent.isSome = true

theorem Known.Covers.none {m : Known} {r : Record} (h : m.Covers r) (hm : m.preview = false) :
    r.previewUserId = none :=
  h.preview.resolve_right fun h => by
    rw [hm] at h
    cases h.1

theorem covers_exchange {m : Known} {r r' : Record} {e : Exchange Action.Reply} (hm : m.Covers r)
    (hsafe : m.safe e.1 = true) (h : r.exchange e = some r') :
    ∃ m', m.after e = some m' ∧ m'.Covers r' := by
  have hheld : r.previewUserId = Option.none ∨ r.previewUserId = r.held :=
    hm.preview.imp_right fun h => h.2
  obtain ⟨o, v⟩ := e
  cases o with
  | select s =>
    cases s with
    | waitIM =>
      have hnone := hm.none (Bool.not_eq_true' _ ▸ hsafe)
      by_cases hs : v = .agents
      · subst hs
        simp only [Record.exchange, if_true] at h
        obtain ⟨hagent, rfl⟩ := of_guard h
        exact ⟨_, rfl, hm.recorded, .inl hnone, fun _ => hagent⟩
      · simp only [Record.exchange, if_neg hs] at h
        cases h
        exact ⟨_, congrArg some (if_neg hs), hm⟩
    | _ => cases h; exact ⟨_, rfl, hm⟩
  | clearAgent =>
    cases h
    exact ⟨_, rfl, hm.recorded, hm.preview, nofun⟩
  | givePreview =>
    have hnone := hm.none (Bool.not_eq_true' _ ▸ hsafe)
    cases v <;> cases h
    · exact ⟨_, rfl, recorded_grant hm.recorded hnone, .inr ⟨rfl, rfl⟩, hm.agent⟩
    · exact ⟨_, rfl, hm.recorded, .inl hnone, hm.agent⟩
    · exact ⟨_, rfl, hm⟩
  | read d =>
    cases d with
    | attempt f =>
      cases f with
      | hasPreview =>
        obtain ⟨hv, rfl⟩ := of_guard h
        rcases hm.preview with hnone | ⟨hp, hsome⟩
        · obtain rfl : v = false := by rw [hv, hnone]; rfl
          exact ⟨_, rfl, hm.recorded, .inl hnone, hm.agent⟩
        · refine ⟨{ m with preview := v }, if_neg (by simp [hp]), hm.recorded, ?_, hm.agent⟩
          cases v with
          | true => exact .inr ⟨rfl, hsome⟩
          | false => exact .inl (Option.not_isSome_iff_eq_none.mp (by rw [← hv]; decide))
      | userJoined =>
        obtain ⟨-, rfl⟩ := of_guard h
        exact ⟨_, rfl, hm⟩
      | agentSet =>
        obtain ⟨hv, rfl⟩ := of_guard h
        refine ⟨m, if_neg fun hnot => ?_, hm⟩
        obtain ⟨hagent, hfalse⟩ := Bool.and_eq_true_iff.mp hnot
        rw [hv, hm.agent hagent] at hfalse
        cases hfalse
      | _ => cases h; exact ⟨_, rfl, hm⟩
    | _ => cases h; exact ⟨_, rfl, hm⟩
  | rpc c =>
    cases c with
    | removePreview =>
      cases h
      obtain ⟨hrecorded, hnone⟩ := removed hm.recorded v
      refine ⟨_, rfl, hrecorded, .inl hnone, fun hagent => ?_⟩
      rw [agent_removePreviewUser]
      exact hm.agent hagent
    | upgradePreview =>
      cases h
      cases v with
      | false =>
        have hsame : r.upgradePreviewUser false = r := by
          unfold Record.upgradePreviewUser
          split <;> first | rfl | contradiction
        rw [hsame]
        exact ⟨_, rfl, hm.recorded, hm.preview.imp_right fun h => ⟨by simp [h.1], h.2⟩, hm.agent⟩
      | true =>
        obtain ⟨hrecorded, hnone⟩ := upgraded hm.recorded hheld
        refine ⟨_, rfl, hrecorded, .inl hnone, fun hagent => ?_⟩
        rw [agent_upgradePreviewUser]
        exact hm.agent hagent
    | addMember | transferMember =>
      cases h
      refine ⟨m, rfl, ?_⟩
      cases v with
      | false => exact hm
      | true => exact ⟨hm.recorded, hm.preview, hm.agent⟩
    | _ => cases h; exact ⟨_, rfl, hm⟩
  | _ => cases h; exact ⟨_, rfl, hm⟩

/-! ## The rounds -/

/-- Changes nothing that is known. -/
def keepsPreview : Action → Bool
  | .select .waitIM | .clearAgent | .givePreview => false
  | .read (.attempt .hasPreview) | .read (.attempt .agentSet) => false
  | .rpc .removePreview | .rpc .upgradePreview => false
  | _ => true

theorem kept_part {α : Type} {p : Go α} {m : Known} (h : p.Only fun o => keepsPreview o = true) :
    PreviewMeets p m fun _ m' => m' = m := by
  refine Meets.kept (h.imp fun o ho => ?_)
  cases o with
  | select s => cases s <;> first | exact ⟨rfl, fun _ => rfl⟩ | cases ho
  | rpc c => cases c <;> first | exact ⟨rfl, fun _ => rfl⟩ | cases ho
  | read d =>
    cases d with
    | attempt f => cases f <;> first | exact ⟨rfl, fun _ => rfl⟩ | cases ho
    | _ => exact ⟨rfl, fun _ => rfl⟩
  | clearAgent | givePreview => cases ho
  | _ => exact ⟨rfl, fun _ => rfl⟩

/-- An interaction is over: before another agent is waited for nobody is offered the thread, and an
attempt without an agent has no preview. -/
def Known.over (wait : Bool) (m : Known) : Bool := !m.preview || !wait && m.agent

def Known.free (m : Known) : Bool := !m.preview

def interacted (r : Unit ⊕ Bool) (m : Known) : Bool :=
  match r with
  | .inl _ => m.agent
  | .inr wait => m.over wait

variable (q : QueueConfig)

theorem meets_interactionRound {m : Known} (hm : m.agent = true) :
    PreviewMeets (InboundIMQueue.interactionRound q ()) m fun r m' => interacted r m' = true := by
  refine Meets.seq (R := fun _ m => m.agent = true) (.tracked hm rfl) fun s m₁ hm₁ => ?_
  -- the configuration decides how the agent joins, and what becomes of an attempt without one
  have hjoin : PreviewMeets (do
      if ← InboundIMQueue.joinAgent q then
        bridged
        goOn ()
      else InboundIMQueue.giveUpAgent q) m₁ fun r m' => interacted r m' = true := by
    unfold InboundIMQueue.joinAgent InboundIMQueue.giveUpAgent InboundIMQueue.missAgent
    cases q.transferFrom <;> cases q.transferAgent <;> exact .tracked hm₁ rfl
  cases s with
  | cancel | inviteTimeout | imTransferred | sessionDone => exact .tracked hm₁ rfl
  | timeout =>
    refine Meets.seq (kept_part (only_checkIdleTimeouts q (by decide))) fun v m₂ hm₂ => ?_
    subst hm₂
    cases v <;> exact .tracked hm₁ rfl
  | task st =>
    cases st with
    | idle => exact hm₁
    | bridged => exact hjoin
    | closed =>
      unfold InboundIMQueue.giveUpAgent InboundIMQueue.missAgent
      cases q.transferAgent <;> exact .tracked hm₁ rfl

/-! ## The end of the attempt -/

theorem only_reporting (agentSendReporting transfer : Bool) :
    (reporting q agentSendReporting transfer).Only fun o => keepsPreview o = true := by
  refine .bind (only_andThen (.pure _) (.walk rfl)) fun _ => .ite (.walk rfl) ?_
  refine .bind (.walk rfl) fun _ => .ite (.walk rfl) ?_
  exact .bind (only_orElse (.pure _) (.walk rfl)) fun _ => .ite (.walk rfl) (.walk rfl)

theorem only_endAttempt (l : InboundIMQueue.Locals) :
    (InboundIMQueue.endAttempt q l).Only fun o => keepsPreview o = true := by
  refine .ite ?_ (.walk rfl)
  refine .bind (only_andThen (.pure _) (.walk rfl)) fun _ => .ite (.walk rfl) ?_
  exact .bind (only_andThen (.pure _) (.walk rfl)) fun _ => .bind (.walk rfl) fun _ =>
    only_reporting q _ _

/-- The cleanup looks for a preview when it has an agent; without one there is none. -/
def Known.cleanable (agent : Bool) (m : Known) : Bool := agent || !m.preview

theorem meets_finalizeAttempt {l : InboundIMQueue.Locals} {m : Known}
    (hm : m.cleanable l.agent = true) :
    PreviewMeets (InboundIMQueue.finalizeAttempt q l) m fun _ m' => m'.free = true := by
  refine Meets.seq (kept_part (.walk rfl)) fun _ m₁ hm₁ => ?_
  subst hm₁
  refine Meets.seq (kept_part (only_endAttempt q l)) fun _ m₂ hm₂ => ?_
  subst hm₂
  obtain ⟨agent, team, task⟩ := l
  cases agent <;> exact .tracked hm rfl

/-! ## The goroutine -/

variable (rounds : Nat)

theorem meets_interact {m : Known} (hm : m.agent = true) :
    PreviewMeets (InboundIMQueue.interact q rounds) m fun _ m' => m'.free = true := by
  refine Meets.seq (R := fun _ m => m.agent = true) (.tracked hm rfl) fun _ m hm => ?_
  refine Meets.seq (R := fun _ m => m.agent = true) (.tracked hm rfl) fun _ m hm => ?_
  refine Meets.seq (R := fun wait m => m.over wait = true) ?_ fun wait m₁ hm₁ => ?_
  · refine meets_loop (fun _ m => m.agent = true) (fun _ m hm => ?_) rounds hm
    refine (meets_interactionRound q hm).imp fun r m' hr => ?_
    cases r <;> exact hr
  · cases wait with
    | true => exact .tracked hm₁ rfl
    | false =>
      refine Meets.seq (R := fun agent m => m.cleanable agent = true) (.tracked hm₁ rfl)
        fun agent m₂ hm₂ => ?_
      exact Meets.seq (meets_finalizeAttempt q (l := ⟨agent, true, true⟩) hm₂) fun _ _ h => h

theorem meets_offerAgent :
    PreviewMeets (InboundIMQueue.offerAgent q rounds) ⟨false, true⟩ fun _ m => m.free = true := by
  have hmiss : PreviewMeets (InboundIMQueue.missAgent q) ⟨false, true⟩
      fun _ m => m.free = true := by
    unfold InboundIMQueue.missAgent
    cases q.transferAgent <;> exact .track rfl
  unfold InboundIMQueue.offerAgent InboundIMQueue.givePreview
  cases q.invitePreview with
  | false => exact meets_interact q rounds rfl
  | true =>
    refine Meets.ask rfl fun r m₁ hm₁ => ?_
    cases r <;> cases hm₁
    · exact meets_interact q rounds rfl
    · exact meets_interact q rounds rfl
    · refine Meets.seq hmiss fun wait m₂ hm₂ => ?_
      cases wait with
      | true => exact hm₂
      | false =>
        exact Meets.seq (meets_finalizeAttempt q (l := ⟨false, true, true⟩) hm₂) fun _ _ h => h

theorem meets_waitRound (l : InboundIMQueue.Locals) {m : Known} (hm : m.free = true) :
    PreviewMeets (InboundIMQueue.waitRound q rounds l) m fun _ m' => m'.free = true := by
  have hend : ∀ {m : Known}, m.free = true → PreviewMeets (InboundIMQueue.finalize q l) m
      fun _ m' => m'.free = true := fun {m} hm =>
    Meets.seq (meets_finalizeAttempt q (Bool.or_eq_true_iff.mpr (.inr hm))) fun _ _ h => h
  obtain ⟨preview, agent⟩ := m
  obtain rfl : preview = false := (Bool.not_eq_true' _).mp hm
  refine Meets.ask rfl fun s m₁ hm₁ => ?_
  cases s with
  | cancel | contextDone | sessionDone => cases hm₁; exact hend rfl
  | timeout =>
    cases hm₁
    refine Meets.seq (kept_part (only_checkIdleTimeouts q (by decide))) fun v m₂ hm₂ => ?_
    subst hm₂
    cases v with
    | true => exact rfl
    | false => exact hend rfl
  | agents =>
    cases hm₁
    refine Meets.ask rfl fun ok m₂ hm₂ => ?_
    cases hm₂
    cases ok with
    | false => exact rfl
    | true =>
      refine Meets.ask rfl fun skip m₃ hm₃ => ?_
      cases hm₃
      cases skip with
      | false => exact meets_offerAgent q rounds
      | true => exact .track rfl

theorem meets_run {m : Known} (hm : m.free = true) :
    PreviewMeets (InboundIMQueue.run q rounds) m fun _ m' => m'.free = true := by
  have hwait : ∀ m : Known, m.free = true →
      PreviewMeets (InboundIMQueue.waitAgents q rounds) m fun _ m' => m'.free = true := by
    intro m hm
    refine Meets.seq (kept_part (.walk rfl)) fun _ m₁ hm₁ => ?_
    refine Meets.seq (kept_part (.walk rfl)) fun _ m₂ hm₂ => ?_
    refine Meets.seq (kept_part (.ite (.walk rfl) (.pure _))) fun _ m₃ hm₃ => ?_
    subst hm₁ hm₂ hm₃
    exact Keeps.loop (fun l _ hm => meets_waitRound q rounds l hm) rounds _ _ hm
  unfold InboundIMQueue.run
  cases q.transferAgent with
  | true => exact hwait m hm
  | false =>
    refine Meets.seq (kept_part (.walk rfl)) fun ok m₁ hm₁ => ?_
    subst hm₁
    cases ok with
    | true => exact hwait m₁ hm
    | false => exact hm

/-! ## The runs -/

/-- The goroutine is followed by what is known, and that is so. -/
def Followed (w : World) : Prop :=
  ∃ m : Known, m.Covers w.record ∧ PreviewMeets w.prog m fun _ m' => m'.free = true

theorem step_kept (w : World) (l : Label) (w' : World) (hw : Followed w)
    (h : step w l = some w') : Followed w' := by
  obtain ⟨m, hm, hmeets⟩ := hw
  cases l with
  | bring u =>
    cases h
    exact ⟨m, ⟨hm.recorded, hm.preview, fun _ => rfl⟩, hmeets⟩
  | go e =>
    obtain ⟨p, hp, h⟩ := Option.bind_eq_some_iff.mp h
    obtain ⟨r, hr, rfl⟩ := Option.map_eq_some_iff.mp h
    obtain ⟨hsafe, hnext⟩ := hmeets.step hp
    obtain ⟨m', hafter, hm'⟩ := covers_exchange hm hsafe hr
    exact ⟨m', hm', hnext m' hafter⟩

/-- **Previews are balanced.** Whatever is offered, answered, declined, cancelled or fails: the
previews without an end are the one the session remembers, or none; and when the goroutine waits
for an agent again, when it is about to give a preview, and when it has cleaned up, there is
none. -/
theorem previews_balanced (q : QueueConfig) (rounds : Nat) (agent : Option Int)
    (labels : List Label) {w : World} (hrun : run step (start q rounds agent) labels = some w) :
    (w.prog ≠ .running → w.record.pending = w.record.previewUserId.toList)
    ∧ (w.prog.asking = some (.select .waitIM) ∨ w.prog.asking = some .givePreview
        ∨ w.prog = .ret () →
      w.record.previewUserId = none ∧ ∀ p ∈ w.record.previews, p.ending ≠ none) := by
  have hstart : Followed (start q rounds agent) :=
    ⟨⟨false, false⟩, ⟨rfl, .inl rfl, nofun⟩, meets_run q rounds rfl⟩
  obtain ⟨m, hm, hmeets⟩ := run_invariant (fun w l w' hw _ h => step_kept w l w' hw h) labels
    hstart (along_of_forall (fun _ _ => trivial) labels _) hrun
  refine ⟨fun _ => hm.recorded, fun hwhere => ?_⟩
  have hfree : m.preview = false := by
    refine (Bool.not_eq_true' _).mp ?_
    rcases hwhere with hask | hask | hret
    · exact hmeets.asks hask
    · exact hmeets.asks hask
    · rw [hret] at hmeets
      exact hmeets
  have hnone := hm.none hfree
  refine ⟨hnone, fun p hp hopen => ?_⟩
  have hmem : p.userId ∈ w.record.pending :=
    List.mem_map_of_mem (List.mem_filter.mpr ⟨hp, by rw [hopen]; rfl⟩)
  rw [pending_of_none hm.recorded hnone] at hmem
  cases hmem

def replied (o : Action) (v : o.Reply) : Label := .go ⟨o, v⟩

/-- An agent gets a preview and declines, the gateway fails to remove the preview, and the attempt
waits again. -/
def previewDeclined : List Label :=
  [replied (.store (.setFindAgentState false)) true, replied (.setState .waitAgent) (),
    replied .on (), .bring 7, replied (.select .waitIM) .agents, replied .getTeam true,
    replied (.read (.attempt .transferInitiator)) false, replied .givePreview .ok,
    replied (.rpc .publish) true, replied (.store .setAttemptOffering) false,
    replied (.select .im) (.task .closed), replied (.read (.task .declined)) true,
    replied (.read (.attempt .hasPreview)) true, replied (.rpc .removePreview) false,
    replied (.store .setAttemptMissedAgent) true, replied (.read (.attempt .maxNoAnswer)) false,
    replied (.setState .missed) (), replied (.rpc .publish) true, replied .clearAgent (),
    replied (.setState .waitAgent) ()]

def previewQueue : QueueConfig := { (default : QueueConfig) with invitePreview := true }

theorem previewDeclined_balanced :
    ∃ w, run step (start previewQueue 2 none) previewDeclined = some w
      ∧ w.record.previews = [⟨7, some .removeFailed⟩]
      ∧ w.record.previewUserId = none ∧ ∀ p ∈ w.record.previews, p.ending ≠ none := by
  obtain ⟨w, hrun⟩ := Option.isSome_iff_exists.mp
    (rfl : (run step (start previewQueue 2 none) previewDeclined).isSome = true)
  have hend : (run step (start previewQueue 2 none) previewDeclined).map
      (fun w => (w.prog.asking, w.record.previews))
        = some (some (.select .waitIM), [⟨7, some .removeFailed⟩]) := rfl
  rw [hrun, Option.map_some, Option.some.injEq, Prod.mk.injEq] at hend
  exact ⟨w, hrun, hend.2, (previews_balanced previewQueue 2 none _ hrun).2 (.inl hend.1)⟩

end IMPreview

end CallCenter.Queue
