import CallCenter.Queue.DecisionProof
import CallCenter.Queue.Reports

/-!
# A goroutine disposes of its attempt

When a goroutine returns, its attempt should have an owner: it has been passed to `LeavingMember`,
by the goroutine or by a report, or it is stored as processing with a deadline, or a report is still
at work on it. Otherwise it is abandoned.

The goroutine runs beside the reports. It comes to a decision (`ends_run`), and what is left to show
is who stands behind the mark of a report when there is no draft (`Answered`).
-/

namespace CallCenter.Queue

open Lib Store

/-! ## A goroutine and the reports -/

/-- A goroutine with the reports about its attempt. `deadline` says that the attempt is stored as
processing with a deadline, and `missed` that `Reporting` has looked for a draft in vain while the
channel was marked. -/
structure DisposalWorld where
  prog : Go Unit
  reports : Reports
  deadline : Bool
  missed : Bool

inductive DisposalLabel where
  | exchange (e : Exchange Action.Reply)
  | report (draft : Bool)
  | advance (i : Nat) (r : ReportReply)

def storesDeadline : Exchange Action.Reply → Bool
  | ⟨.store (.setAttemptReporting deadlineSec), ok⟩ => ok && decide (0 < deadlineSec)
  | _ => false

namespace DisposalWorld

def exchange (w : DisposalWorld) (e : Exchange Action.Reply) (prog : Go Unit) : DisposalWorld where
  prog := prog
  reports := w.reports.afterExchange e
  deadline := w.deadline || storesDeadline e
  missed := w.missed || w.reports.marked && draftMissed e

/-- The attempt has left, or the dispatcher will make it leave. -/
def owned (w : DisposalWorld) : Bool := w.deadline || !w.reports.tracked

def returned (w : DisposalWorld) : Bool :=
  match w.prog with
  | .ret _ => true
  | _ => false

/-- The goroutine has returned, and the attempt is in `membersCache` with nobody responsible for
it. -/
def abandoned (w : DisposalWorld) : Bool :=
  w.returned && !w.owned && !w.reports.calls.any ReportPc.atWork

end DisposalWorld

def disposalStep (q : QueueConfig) (w : DisposalWorld) : DisposalLabel → Option DisposalWorld
  | .exchange e => if w.reports.agrees e then (w.prog.step e).map (w.exchange e) else none
  | .report draft =>
    some { w with reports := { w.reports with calls := w.reports.calls ++ [.getAttempt draft] } }
  | .advance i r => w.reports.calls[i]?.bind fun pc =>
    (w.reports.advance q.waitChannelClose i r pc).map fun s => { w with reports := s }

/-- A new attempt: it is in the cache, and nobody has reported about it. -/
def disposalStart (k : QueueKind) (q : QueueConfig) (rounds : Nat) : DisposalWorld where
  prog := k.run q rounds
  reports := ⟨false, false, false, true, []⟩
  deadline := false
  missed := false

/-- With this reply a report ends without leaving the attempt, or a draft marks the channel. -/
def ReportPc.lets (s : Reports) (r : ReportReply) : ReportPc → Bool
  | .setChannelReporting => (s.marked || r.marks) && !r.ok
  | .callbackReporting => s.marked && !r.ok
  | .markDraft => r.marks
  | _ => false

/-- What a mark may stand for, apart from the report `i`: an attempt that has an owner, a draft that
`Reporting` has yet to find, or another report at work. -/
def DisposalWorld.answeredWithout (w : DisposalWorld) (i : Nat) : Bool :=
  w.owned || w.reports.draft && !w.missed || (w.reports.calls.set i .finished).any ReportPc.atWork

/-- The condition on a step. A leaky reply comes only when the attempt has an owner. A report ends
without leaving the attempt while the channel is marked, and a draft marks the channel, only while
something else answers for the mark. -/
def Disposes (k : QueueKind) (w : DisposalWorld) : DisposalLabel → Prop
  | .exchange e => w.owned = true ∨ leaky k e = false
  | .report _ => True
  | .advance i r => ∀ pc ∈ w.reports.calls[i]?, pc.lets w.reports r = true →
    w.answeredWithout i = true

instance (k : QueueKind) (w : DisposalWorld) : ∀ l, Decidable (Disposes k w l)
  | .exchange _ => inferInstanceAs (Decidable (_ ∨ _))
  | .report _ => inferInstanceAs (Decidable True)
  | .advance _ _ => inferInstanceAs (Decidable (∀ pc ∈ _, _))

/-! ### Who answers for a mark -/

section Answered

variable {w : DisposalWorld} {s : Reports} {pc pc' : ReportPc} {i : Nat} {r : ReportReply}

/-- A mark stands for an owner of the attempt, for a draft that is still to be found, or for a
report at work. -/
def Answered (w : DisposalWorld) : Prop :=
  w.reports.marked = true → w.owned = true ∨ (w.reports.draft = true ∧ w.missed = false)
    ∨ ∃ pc ∈ w.reports.calls, pc.atWork = true

theorem answered_of_owned (h : w.owned = true) : Answered w := fun _ => .inl h

theorem atWork_set {l : List ReportPc} (hpc : pc.atWork = false) (pc' : ReportPc)
    (h : ∃ x ∈ l.set i pc, x.atWork = true) : ∃ x ∈ l.set i pc', x.atWork = true := by
  obtain ⟨x, hx, hwork⟩ := h
  obtain ⟨j, hj⟩ := List.mem_iff_getElem?.mp hx
  have hij : i ≠ j := by
    rintro rfl
    obtain ⟨hlen, rfl⟩ := List.getElem?_eq_some_iff.mp hj
    rw [List.getElem_set_self, hpc] at hwork
    cases hwork
  refine ⟨x, List.mem_iff_getElem?.mpr ⟨j, ?_⟩, hwork⟩
  rw [List.getElem?_set_ne hij] at hj ⊢
  exact hj

/-- A step of a report that is not at work, and changes nothing but its place. -/
theorem Answered.goto (h : Answered w) (hi : w.reports.calls[i]? = some pc)
    (hpc : pc.atWork = false) (pc' : ReportPc) :
    Answered { w with reports := w.reports.goto i pc' } := by
  intro hmarked
  rcases h hmarked with howned | hdraft | hwork
  · exact .inl howned
  · exact .inr (.inl hdraft)
  · refine .inr (.inr (atWork_set hpc pc' ?_))
    obtain ⟨hlen, rfl⟩ := List.getElem?_eq_some_iff.mp hi
    rwa [List.set_getElem_self]

/-- A report that is at work answers for the mark. -/
theorem answered_goto (hi : s.calls[i]? = some pc) (hpc' : pc'.atWork = true) :
    Answered { w with reports := s.goto i pc' } := fun _ =>
  .inr (.inr ⟨pc', List.mem_set (List.getElem?_eq_some_iff.mp hi).1 pc', hpc'⟩)

/-- What answers for the mark without the report `i` goes on to do so. -/
theorem answered_without (h : w.answeredWithout i = true) (htracked : s.tracked = w.reports.tracked)
    (hdraft : s.draft = w.reports.draft) (hcalls : s.calls = w.reports.calls.set i pc') :
    Answered { w with reports := s } := by
  intro _
  rw [DisposalWorld.answeredWithout, Bool.or_eq_true, Bool.or_eq_true, Bool.and_eq_true,
    Bool.not_eq_true', List.any_eq_true] at h
  rcases h with (howned | ⟨hhas, hmissed⟩) | hwork
  · refine .inl ?_
    rwa [DisposalWorld.owned, htracked]
  · exact .inr (.inl ⟨hdraft.trans hhas, hmissed⟩)
  · refine .inr (.inr ?_)
    rw [hcalls]
    exact atWork_set rfl pc' hwork

theorem answered_advance {waitChannelClose : Bool} (h : Answered w)
    (hi : w.reports.calls[i]? = some pc)
    (hok : pc.lets w.reports r = true → w.answeredWithout i = true)
    {s' : Reports} (hstep : w.reports.advance waitChannelClose i r pc = some s') :
    Answered { w with reports := s' } := by
  cases pc with
  | getAttempt draft =>
    unfold Reports.advance at hstep
    dsimp only at hstep
    split at hstep
    · cases hstep
      exact h.goto hi rfl _
    · rename_i htracked
      cases hstep
      refine answered_of_owned ?_
      simp [DisposalWorld.owned, Reports.goto, Reports.mark, htracked]
  | useDraft =>
    cases hstep
    have hdraft : Answered { w with reports := { w.reports with draft := true } } := fun hmarked =>
      (h hmarked).imp_right (.imp_left fun hdraft => ⟨rfl, hdraft.2⟩)
    exact hdraft.goto hi rfl _
  | markDraft =>
    cases hstep
    cases hmarks : r.marks with
    | true => exact answered_without (hok hmarks) rfl rfl rfl
    | false =>
      have hmark : w.reports.mark r = w.reports := by
        rw [Reports.mark, hmarks, Bool.or_false]
      rw [hmark]
      exact h.goto hi rfl _
  | setCallback =>
    cases hstep
    refine answered_goto hi ?_
    cases waitChannelClose <;> rfl
  | setChannelReporting =>
    cases hstep
    cases hr : r.ok with
    | true => exact answered_goto hi rfl
    | false =>
      intro hmarked
      have hlets : ReportPc.lets w.reports r .setChannelReporting = true := by
        rw [ReportPc.lets, show (w.reports.marked || r.marks) = true from hmarked, hr]
        rfl
      exact answered_without (hok hlets) rfl rfl rfl hmarked
  | callbackReporting =>
    cases hstep
    cases hr : r.ok with
    | true => exact answered_goto hi rfl
    | false =>
      intro hmarked
      have hlets : ReportPc.lets w.reports r .callbackReporting = true := by
        rw [ReportPc.lets, show w.reports.marked = true from hmarked, hr]
        rfl
      exact answered_without (hok hlets) rfl rfl rfl hmarked
  | doLeavingReporting =>
    cases hstep
    exact answered_of_owned (Bool.or_true _)
  | finished => cases hstep
  | _ =>
    cases hstep
    exact answered_goto hi rfl

/-- What a step of a report never takes back. -/
theorem advance_later {waitChannelClose : Bool} {s' : Reports}
    (hstep : s.advance waitChannelClose i r pc = some s') :
    (s.marked = true → s'.marked = true) ∧ (s.tracked = false → s'.tracked = false) := by
  cases pc with
  | getAttempt draft =>
    unfold Reports.advance at hstep
    dsimp only at hstep
    split at hstep <;> cases hstep <;> simp +contextual [Reports.goto, Reports.mark]
  | finished => cases hstep
  | _ =>
    cases hstep
    simp +contextual [Reports.goto, Reports.mark]

end Answered

/-! ### The goroutine among the reports -/

/-- What the verdict of the monitor says about the world. -/
def Verdict.Holds (w : DisposalWorld) : Verdict → Prop
  | .undecided marked => marked = true → w.reports.marked = true
  | .reported => w.reports.marked = true ∧ w.missed = true
  | .settled => w.owned = true

structure DisposalInv (k : QueueKind) (w : DisposalWorld) : Prop where
  answered : Answered w
  /-- The monitor is right so far, and the goroutine will come to a decision. -/
  verdict : ∃ v : Verdict, v.Holds w
    ∧ Meets (Contract.watch (tally k)) w.prog v fun _ v' => v'.open = false

section Step

variable {k : QueueKind} {q : QueueConfig} {w w' : DisposalWorld} {e : Exchange Action.Reply}
  {prog : Go Unit}

theorem Verdict.Holds.later {v : Verdict} (h : v.Holds w)
    (hmarked : w.reports.marked = true → w'.reports.marked = true)
    (hmissed : w.missed = true → w'.missed = true) (howned : w.owned = true → w'.owned = true) :
    v.Holds w' := by
  cases v with
  | undecided marked => exact fun hm => hmarked (h hm)
  | reported => exact ⟨hmarked h.1, hmissed h.2⟩
  | settled => exact howned h

theorem afterExchange_eq (s : Reports) (e : Exchange Action.Reply) :
    ∃ tracked, s.afterExchange e = { s with tracked := tracked }
      ∧ (s.tracked = false → tracked = false) := by
  unfold Reports.afterExchange
  split
  · exact ⟨false, rfl, fun _ => rfl⟩
  · exact ⟨s.tracked, rfl, id⟩

theorem owned_exchange (h : w.owned = true) : (w.exchange e prog).owned = true := by
  obtain ⟨tracked, hs, htracked⟩ := afterExchange_eq w.reports e
  have h : (w.deadline || !w.reports.tracked) = true := h
  show (w.deadline || storesDeadline e || !(w.reports.afterExchange e).tracked) = true
  rw [hs]
  cases hleft : w.reports.tracked with
  | false => rw [htracked hleft, Bool.not_false, Bool.or_true]
  | true =>
    rw [hleft, Bool.not_true, Bool.or_false] at h
    rw [h, Bool.true_or, Bool.true_or]

theorem owned_of_disposes (hagrees : w.reports.agrees e = true) (h : disposes e = true) :
    (w.exchange e prog).owned = true := by
  show (w.deadline || storesDeadline e || !(w.reports.afterExchange e).tracked) = true
  unfold disposes at h
  split at h
  · exact Bool.or_true _
  · rename_i deadlineSec ok
    have hstored : storesDeadline ⟨.store (.setAttemptReporting deadlineSec), ok⟩ = true := h
    rw [hstored, Bool.or_true, Bool.true_or]
  · rename_i cached
    have hcached : cached = w.reports.tracked := of_decide_eq_true hagrees
    rw [hcached] at h
    have hsame : (w.reports.afterExchange ⟨.getAttempt, cached⟩).tracked = w.reports.tracked := rfl
    rw [hsame, h, Bool.or_true]
  · cases h

theorem marked_of_markRead (hagrees : w.reports.agrees e = true) (h : markRead e = some true) :
    w.reports.marked = true := by
  unfold markRead at h
  split at h
  all_goals cases h
  all_goals exact hagrees

theorem draft_of_missed (hagrees : w.reports.agrees e = true) (h : draftMissed e = true) :
    w.reports.draft = false := by
  unfold draftMissed at h
  split at h
  · rename_i draft
    have hdraft : draft = w.reports.draft := of_decide_eq_true hagrees
    rwa [Bool.not_eq_true', hdraft] at h
  · cases h

theorem marked_exchange : (w.exchange e prog).reports.marked = w.reports.marked := by
  obtain ⟨_, hs, -⟩ := afterExchange_eq w.reports e
  rw [DisposalWorld.exchange, hs]

theorem holds_exchange {v : Verdict} (h : v.Holds w) (hagrees : w.reports.agrees e = true)
    (hok : w.owned = true ∨ leaky k e = false) : (tally k v e).Holds (w.exchange e prog) := by
  cases hv : v.open with
  | false =>
    rw [tally_decided hv]
    exact h.later (fun hm => marked_exchange.trans hm)
      (fun hm => by simp [DisposalWorld.exchange, hm]) owned_exchange
  | true =>
    cases v with
    | reported => cases hv
    | settled => cases hv
    | undecided marked =>
      have h : marked = true → w.reports.marked = true := h
      rw [tally]
      split
      · rename_i hnoted
        rcases Bool.or_eq_true_iff.mp hnoted with hdisposes | hleaky
        · exact owned_of_disposes hagrees hdisposes
        · rcases hok with howned | hfalse
          · exact owned_exchange howned
          · rw [hfalse] at hleaky
            cases hleaky
      · split
        · rename_i hmissed
          obtain ⟨hmarked, hdraft⟩ := Bool.and_eq_true_iff.mp hmissed
          refine ⟨marked_exchange.trans (h hmarked), ?_⟩
          show (w.missed || w.reports.marked && draftMissed e) = true
          rw [h hmarked, hdraft, Bool.true_and, Bool.or_true]
        · intro hmarked
          rw [marked_exchange]
          cases hread : markRead e with
          | none =>
            rw [hread] at hmarked
            exact h hmarked
          | some reported =>
            rw [hread] at hmarked
            obtain rfl : reported = true := hmarked
            exact marked_of_markRead hagrees hread

theorem answered_exchange (h : Answered w) (hagrees : w.reports.agrees e = true) :
    Answered (w.exchange e prog) := by
  obtain ⟨_, hs, -⟩ := afterExchange_eq w.reports e
  intro hmarked
  rw [marked_exchange] at hmarked
  rcases h hmarked with howned | ⟨hdraft, hmissed⟩ | hwork
  · exact .inl (owned_exchange howned)
  · refine .inr (.inl ⟨?_, ?_⟩)
    · rw [DisposalWorld.exchange, hs]
      exact hdraft
    · -- `Reporting` looks for a draft, and finds it
      have hfound : draftMissed e = false := by
        refine Bool.eq_false_iff.mpr fun hmiss => ?_
        rw [draft_of_missed hagrees hmiss] at hdraft
        cases hdraft
      show (w.missed || w.reports.marked && draftMissed e) = false
      rw [hmissed, hfound, Bool.and_false, Bool.or_false]
  · refine .inr (.inr ?_)
    rw [DisposalWorld.exchange, hs]
    exact hwork

theorem disposalInv_exchange (h : DisposalInv k w) (hagrees : w.reports.agrees e = true)
    (hok : w.owned = true ∨ leaky k e = false) (hprog : w.prog.step e = some prog) :
    DisposalInv k (w.exchange e prog) := by
  obtain ⟨v, hv, hmeets⟩ := h.verdict
  exact ⟨answered_exchange h.answered hagrees, tally k v e, holds_exchange hv hagrees hok,
    (hmeets.step hprog).2 _ rfl⟩

theorem disposalInv_advance {i : Nat} {r : ReportReply} {pc : ReportPc} {s' : Reports}
    (h : DisposalInv k w) (hi : w.reports.calls[i]? = some pc)
    (hok : pc.lets w.reports r = true → w.answeredWithout i = true)
    (hstep : w.reports.advance q.waitChannelClose i r pc = some s') :
    DisposalInv k { w with reports := s' } := by
  obtain ⟨v, hv, hmeets⟩ := h.verdict
  obtain ⟨hmarked, hleft⟩ := advance_later hstep
  refine ⟨answered_advance h.answered hi hok hstep, v, hv.later hmarked id fun howned => ?_,
    hmeets⟩
  rcases Bool.or_eq_true_iff.mp howned with hdeadline | huntracked
  · exact Bool.or_eq_true_iff.mpr (.inl hdeadline)
  · rw [Bool.not_eq_true'] at huntracked
    refine Bool.or_eq_true_iff.mpr (.inr ?_)
    rw [hleft huntracked, Bool.not_false]

theorem disposalInv_step (w : DisposalWorld) (l : DisposalLabel) (w' : DisposalWorld)
    (h : DisposalInv k w) (hok : Disposes k w l) (hstep : disposalStep q w l = some w') :
    DisposalInv k w' := by
  cases l with
  | exchange e =>
    obtain ⟨hagrees, hstep⟩ := Option.ite_none_right_eq_some.mp hstep
    obtain ⟨prog, hprog, rfl⟩ := Option.map_eq_some_iff.mp hstep
    exact disposalInv_exchange h hagrees hok hprog
  | report draft =>
    cases hstep
    obtain ⟨v, hv, hmeets⟩ := h.verdict
    refine ⟨fun hmarked => ?_, v, hv.later id id id, hmeets⟩
    refine (h.answered hmarked).imp_right (.imp_right ?_)
    rintro ⟨pc, hpc, hwork⟩
    exact ⟨pc, List.mem_append_left _ hpc, hwork⟩
  | advance i r =>
    obtain ⟨pc, hi, hstep⟩ := Option.bind_eq_some_iff.mp hstep
    obtain ⟨s', hs', rfl⟩ := Option.map_eq_some_iff.mp hstep
    exact disposalInv_advance h hi (hok pc hi) hs'

end Step

/-- **No goroutine abandons its attempt**, whatever its configuration and its replies, and however
reports about the attempt run beside it, as long as every step meets `Disposes`. -/
theorem run_disposes (k : QueueKind) (q : QueueConfig) (rounds : Nat) (labels : List DisposalLabel)
    {w : DisposalWorld}
    (hok : Along (disposalStep q) (Disposes k) (disposalStart k q rounds) labels)
    (hrun : run (disposalStep q) (disposalStart k q rounds) labels = some w) :
    w.abandoned = false := by
  have hstart : DisposalInv k (disposalStart k q rounds) :=
    ⟨fun hmarked => absurd hmarked Bool.false_ne_true, .undecided false,
      fun hmarked => absurd hmarked Bool.false_ne_true, ends_run k q rounds _ rfl⟩
  obtain ⟨hanswered, v, hv, hmeets⟩ := run_invariant disposalInv_step labels hstart hok hrun
  refine Bool.eq_false_iff.mpr fun habandoned => ?_
  rw [DisposalWorld.abandoned, Bool.and_eq_true, Bool.and_eq_true, Bool.not_eq_true',
    Bool.not_eq_true', List.any_eq_false] at habandoned
  obtain ⟨⟨hreturned, howned⟩, hidle⟩ := habandoned
  have hdecided : v.open = false := by
    unfold DisposalWorld.returned at hreturned
    cases hprog : w.prog with
    | ret a =>
      rw [hprog] at hmeets
      exact hmeets
    | ask o next => rw [hprog] at hreturned; cases hreturned
    | running => rw [hprog] at hreturned; cases hreturned
  cases v with
  | undecided marked => cases hdecided
  | settled =>
    have hv : w.owned = true := hv
    rw [hv] at howned
    cases howned
  | reported =>
    -- the report behind the mark has left the attempt, or is at work
    rcases hanswered hv.1 with howned' | ⟨-, hmissed⟩ | ⟨pc, hpc, hwork⟩
    · rw [howned'] at howned
      cases howned
    · rw [hv.2] at hmissed
      cases hmissed
    · exact hidle pc hpc hwork

def sampleConfig : QueueConfig where
  waitChannelClose := false
  doSchema := false
  processing := true
  processingSec := 30
  retryAbandoned := false
  processingWithoutAnswer := false
  schema := false
  transferAbandoned := false
  maxIdleAgent := 0
  maxIdleClient := 0
  maxIdleDialog := 0
  transferAgent := false
  transferFrom := false
  invitePreview := false

def hungUp : List (Exchange Action.Reply) :=
  [⟨.rpc .newCall, true⟩, ⟨.rpc .publish, true⟩, ⟨.rpc (.invite .agent), true⟩,
    ⟨.select .call, .hangup⟩, ⟨.read (.call .agent .transferTo), false⟩]

/-- The agent's call was bridged; its mark is as given, and there is no draft. -/
def bridgedAndHungUp (reported : Bool) : List (Exchange Action.Reply) :=
  hungUp ++ [⟨.read (.call .agent .acceptAt), true⟩, ⟨.read (.call .agent .bridgeAt), true⟩,
    ⟨.read (.call .agent .acceptAt), true⟩, ⟨.read (.call .agent .reportingAt), reported⟩,
    ⟨.read (.call .agent .transferred), false⟩, ⟨.read (.attempt .draft), false⟩]

/-- The agent saves a draft, and then reports; the report comes to its `CallbackReporting`. -/
def draftAndReport : List DisposalLabel :=
  [.report true] ++ List.replicate 3 (.advance 0 ⟨true, true⟩)
    ++ [.report false] ++ List.replicate 3 (.advance 1 ⟨true, true⟩)

def reportedPreview : List DisposalLabel :=
  draftAndReport ++ [.advance 1 ⟨true, true⟩] ++ (bridgedAndHungUp true).map .exchange
    ++ List.replicate 2 (.advance 1 ⟨true, true⟩)

theorem run_disposes_preview :
    ∃ w, run (disposalStep sampleConfig) (disposalStart .preview sampleConfig 1) reportedPreview
        = some w ∧ w.abandoned = false := by
  obtain ⟨w, hrun⟩ := Option.isSome_iff_exists.mp
    (rfl : (run (disposalStep sampleConfig) (disposalStart .preview sampleConfig 1)
      reportedPreview).isSome = true)
  exact ⟨w, hrun, run_disposes .preview sampleConfig 1 reportedPreview (by decide) hrun⟩

/-- Some steps of reports, and then a session of the goroutine, after which its attempt is
abandoned. -/
def abandons (k : QueueKind) (reports : List DisposalLabel) (log : List (Exchange Action.Reply)) :
    Bool :=
  ((run (disposalStep sampleConfig) (disposalStart k sampleConfig 1)
    (reports ++ log.map .exchange)).map DisposalWorld.abandoned).getD false

/-- Five ways to abandon an attempt: the agent does not answer an offline call; an inbound call
cannot be made to wait; the invite of an IVR call fails; the deadline of the processing cannot be
stored; a report drops the draft and cannot store its result, and the mark of the draft stays. -/
theorem run_leaks :
    abandons .offline [] (hungUp ++ [⟨.read (.call .agent .billSeconds), false⟩,
      ⟨.read (.call .agent .acceptAt), false⟩, ⟨.afterDistributeSchema, none⟩,
      ⟨.store .setAttemptMissed, true⟩, ⟨.read (.attempt .maxNoAnswer), false⟩,
      ⟨.setState .missed, ()⟩, ⟨.rpc .publish, true⟩]) = true
    ∧ abandons .inbound [] [⟨.setState .joined, ()⟩, ⟨.store (.setFindAgentState false), false⟩]
      = true
    ∧ abandons .ivr [] [⟨.rpc .newCall, true⟩, ⟨.setState .joined, ()⟩,
      ⟨.rpc (.invite .member), false⟩, ⟨.read (.call .member .err), true⟩] = true
    ∧ abandons .preview [] (bridgedAndHungUp false ++ [⟨.read (.attempt .processTransfer), false⟩,
      ⟨.store (.setAttemptReporting 30), false⟩]) = true
    ∧ abandons .preview (draftAndReport ++ [.advance 1 ⟨false, true⟩]) (bridgedAndHungUp true)
      = true :=
  ⟨rfl, rfl, rfl, rfl, rfl⟩

end CallCenter.Queue
