import CallCenter.Store.MemberStop

/-!
# Retries by number

With `per_numbers` every number of a member has its own limit. Three rules then decide about the end
of an attempt: the number is stopped when it was tried as often as the limit says; the member is
stopped when no other number was waiting at the time the attempt became active and this one was
tried that often; and the trigger stops a member none of whose numbers is open.

They come to the same thing: a member that was not stopped is stopped exactly when each of its
numbers is. A member that was stopped stays so, whatever numbers it has left.
-/

namespace CallCenter.Store

open Lib

/-! ## Activation -/

/-- The other numbers of a member that are not stopped, as the lateral join counts them. -/
def waitingOtherNumbers (m : Member) (idx : Nat) : Int :=
  (((m.communications.getD []).zipIdx.filter fun p =>
    p.1.stopAt.getD 0 < 1 && p.2 ≠ idx).length : Nat)

/-- The rows that `cc_set_active_members` selects, of those it could lock. -/
def activates (db : Db) (ids : List Int) (a : Attempt) : Bool :=
  a.id ∈ ids && a.state = .idle && a.leavingAt.isNone && (a.queueId.bind db.queues.get?).isSome

/-- A row after `cc_set_active_members`; the type of the queue decides about the state. -/
def activated (now : Int) (node : String) (queueType : Int → Nat) (db : Db) (a : Attempt) :
    Attempt :=
  let member := a.memberId.bind db.members.get?
  { a with
    state := if member.isNone then .leaving
      else if a.queueId.any (fun q => queueType q ∈ [3, 4]) then .offering else .waiting
    nodeId := node
    lastStateChange := now
    waitingOtherNumbers := (member.map (waitingOtherNumbers · a.communicationIdx)).getD 0
    result := if member.isNone then some "cancel" else a.result
    leavingAt := if member.isNone then some now else none }

def ccSetActiveMembers (now : Int) (node : String) (queueType : Int → Nat) (ids : List Int)
    (db : Db) : Db :=
  { db with
    attempts := db.attempts.update (activates db ids) (activated now node queueType db)
      fun _ => rfl }

/-- The row has the count that `cc_set_active_members` gave it in an earlier state, in which its
member was this one. -/
def CountedAt (db₀ : Db) (m₀ : Member) (a : Attempt) : Prop :=
  ∃ now node queueType ids a₀ a₁, db₀.attempts.get? a.id = some a₀ ∧ activates db₀ ids a₀ = true
    ∧ a₀.memberId.bind db₀.members.get? = some m₀
    ∧ (ccSetActiveMembers now node queueType ids db₀).attempts.get? a.id = some a₁
    ∧ a.waitingOtherNumbers = a₁.waitingOtherNumbers
    ∧ a.communicationIdx = a₁.communicationIdx

theorem countedAt_eq {db₀ : Db} {m₀ : Member} {a : Attempt} (h : CountedAt db₀ m₀ a) :
    a.waitingOtherNumbers = waitingOtherNumbers m₀ a.communicationIdx := by
  obtain ⟨now, node, queueType, ids, a₀, a₁, ha₀, hsel, hm₀, ha₁, hcount, hidx⟩ := h
  have hrow : activated now node queueType db₀ a₀
      ∈ (ccSetActiveMembers now node queueType ids db₀).attempts.rows := by
    refine List.mem_map.mpr ⟨a₀, (Table.get?_eq_some.mp ha₀).1, ?_⟩
    rw [if_pos hsel]
  have hid : (activated now node queueType db₀ a₀).id = a.id := (Table.get?_eq_some.mp ha₀).2
  have heq : a₁ = activated now node queueType db₀ a₀ :=
    Option.some.inj (ha₁.symm.trans (Table.get?_eq_some.mpr ⟨hrow, hid⟩))
  rw [hcount, hidx, heq]
  unfold activated
  dsimp only
  rw [hm₀]
  rfl

/-- The other numbers of the member have not changed. -/
structure SameOthers (idx : Nat) (m₀ m : Member) : Prop where
  length : (m₀.communications.getD []).length = (m.communications.getD []).length
  others : ∀ k, k ≠ idx → (m₀.communications.getD [])[k]? = (m.communications.getD [])[k]?

theorem others_stopped {m₀ m : Member} {idx : Nat} (hothers : SameOthers idx m₀ m)
    (hzero : waitingOtherNumbers m₀ idx ≤ 0) {k : Nat} {c : Communication} (hk : k ≠ idx)
    (hc : (m.communications.getD [])[k]? = some c) : c.stopAt.getD 0 ≠ 0 := by
  have hc₀ : (m₀.communications.getD [])[k]? = some c := (hothers.others k hk).trans hc
  have hmem : (c, k) ∈ (m₀.communications.getD []).zipIdx :=
    List.mem_zipIdx_iff_getElem?.mpr hc₀
  have hnone : ((m₀.communications.getD []).zipIdx.filter fun p =>
      p.1.stopAt.getD 0 < 1 && p.2 ≠ idx) = [] := by
    unfold waitingOtherNumbers at hzero
    exact List.eq_nil_of_length_eq_zero (by omega)
  grind [List.filter_eq_nil_iff]

/-! ## The end of an attempt -/

def AllStopped (cs : List Communication) : Prop := ∀ c ∈ cs, c.stopAt.getD 0 ≠ 0

theorem filter_isOpen_isEmpty (cs : List Communication) :
    (cs.filter Communication.isOpen).isEmpty = true ↔ AllStopped cs := by
  rw [List.isEmpty_iff, List.filter_eq_nil_iff]
  refine forall₂_congr fun c _ => ?_
  unfold Communication.isOpen
  rw [decide_eq_true_iff]

theorem allStopped_set_iff {cs : List Communication} {idx : Nat} {c' : Communication}
    (hlt : idx < cs.length) :
    AllStopped (cs.set idx c')
      ↔ c'.stopAt.getD 0 ≠ 0 ∧ ∀ k x, k ≠ idx → cs[k]? = some x → x.stopAt.getD 0 ≠ 0 := by
  constructor
  · intro hall
    refine ⟨hall c' (List.mem_of_getElem? (List.getElem?_set_self hlt)), fun k x hk hx => ?_⟩
    rw [← List.getElem?_set_ne (a := c') (Ne.symm hk)] at hx
    exact hall x (List.mem_of_getElem? hx)
  · rintro ⟨hself, hothers⟩ x hx
    obtain ⟨k, hk⟩ := List.getElem?_of_mem hx
    grind

/-- **The member after the trigger**: stopped if the statement has stopped it, or if no number is
open in the new list. -/
theorem trigger_stopped_iff {now : Int} {m m' : Member} {cs cs' : List Communication}
    (hcs : m.communications = some cs) (hcs' : m'.communications = some cs') (hne : cs' ≠ cs) :
    (ccMemberSetSysDestinationsTg now m m').stopAt ≠ none
      ↔ m'.stopAt ≠ none ∨ AllStopped cs' := by
  grind [AllStopped, triggerStops, triggers, filter_isOpen_isEmpty, trigger_eq]

def redialled (c : Communication) (attempt : Attempt) (lastActivityAt stopAt : Option Int) :
    Communication :=
  { c with
    lastActivityAt := lastActivityAt
    attemptId := some attempt.id
    attempts := some (c.attemptCount + 1)
    stopAt := stopAt.or c.stopAt }

section Dialled

variable {m : Member} {attempt : Attempt} {cs : List Communication} {c : Communication}
  (hcs : m.communications = some cs) (hc : cs[attempt.communicationIdx]? = some c)

include hcs hc in
theorem attemptsOf_dialled : m.attemptsOf attempt.communicationIdx = c.attemptCount := by
  unfold Member.attemptsOf
  rw [hcs, Option.bind_some, hc]
  rfl

include hcs hc in
theorem dialled_eq (lastActivityAt stopAt : Option Int) :
    dialled m m.communications attempt lastActivityAt stopAt
      = some (cs.set attempt.communicationIdx (redialled c attempt lastActivityAt stopAt)) := by
  unfold dialled
  rw [attemptsOf_dialled hcs hc, hcs, Option.bind_some, Option.bind_some, hc]
  rfl

include hc in
theorem set_redialled_ne (lastActivityAt stopAt : Option Int) :
    cs.set attempt.communicationIdx (redialled c attempt lastActivityAt stopAt) ≠ cs := by
  grind [Communication.attemptCount, redialled]

end Dialled

/-- An attempt on an open number of a member, in the state before it is finished. -/
structure OnOpenNumber (db₀ : Db) (m₀ : Member) (a : Attempt) (m : Member)
    (cs : List Communication) (c : Communication) : Prop where
  counted : CountedAt db₀ m₀ a
  /-- They have not changed since. -/
  others : SameOthers a.communicationIdx m₀ m
  communications : m.communications = some cs
  dialled : cs[a.communicationIdx]? = some c
  isOpen : c.isOpen = true
  counter : 0 ≤ c.attemptCount

/-- The row that a statement returns is the attempt's, as far as the member's side reads it. -/
def SameNumber (a attempt : Attempt) : Prop :=
  attempt.communicationIdx = a.communicationIdx
    ∧ attempt.waitingOtherNumbers = a.waitingOtherNumbers

/-- A member is stopped if it was, or if no number is left. -/
def StoppedByNumbers (m m' : Member) : Prop :=
  ∃ cs', m'.communications = some cs' ∧ (m'.stopAt ≠ none ↔ m.stopAt ≠ none ∨ AllStopped cs')

section Finishing

variable {now : Int} {db₀ : Db} {m₀ m : Member} {a attempt : Attempt} {cs : List Communication}
  {c : Communication}

theorem OnOpenNumber.number (h : OnOpenNumber db₀ m₀ a m cs c) (hrow : SameNumber a attempt) :
    cs[attempt.communicationIdx]? = some c := by
  rw [hrow.1]
  exact h.dialled

theorem stoppedByNumbers_refl (h : OnOpenNumber db₀ m₀ a m cs c) : StoppedByNumbers m m := by
  refine ⟨cs, h.communications, .inl, fun hstop => ?_⟩
  rcases hstop with hstop | hall
  · exact hstop
  · have hopen := h.isOpen
    unfold Communication.isOpen at hopen
    rw [decide_eq_true_iff] at hopen
    exact absurd hopen (hall c (List.mem_of_getElem? h.dialled))

theorem spent_of_no_retries {max : Int} (h : OnOpenNumber db₀ m₀ a m cs c)
    (hrow : SameNumber a attempt) (hspent : retriesLeft true max attempt m = false) :
    waitingOtherNumbers m₀ a.communicationIdx ≤ 0 ∧ numberUsedUp true max attempt m = true := by
  have hcount := h.counter
  unfold retriesLeft at hspent
  rw [if_pos rfl, Bool.or_eq_false_iff, decide_eq_false_iff_not, hrow.2,
    countedAt_eq h.counted] at hspent
  obtain ⟨hothers, hlimit⟩ := hspent
  rw [Bool.and_eq_false_iff, decide_eq_false_iff_not, decide_eq_false_iff_not] at hlimit
  unfold numberUsedUp
  rw [attemptsOf_dialled h.communications (h.number hrow)] at hlimit ⊢
  grind

theorem allStopped_set (h : OnOpenNumber db₀ m₀ a m cs c) {c' : Communication}
    (hothers : waitingOtherNumbers m₀ a.communicationIdx ≤ 0) (hself : c'.stopAt.getD 0 ≠ 0) :
    AllStopped (cs.set a.communicationIdx c') := by
  refine (allStopped_set_iff (List.getElem?_eq_some_iff.mp h.dialled).1).mpr
    ⟨hself, fun k x hk hx => others_stopped h.others hothers hk ?_⟩
  rw [h.communications]
  exact hx

/-- **The three rules together.** A statement writes the list with the dialled number, stopped when
it is excluded or used up, and stops a member that was not stopped only when no try is left. -/
theorem stoppedByNumbers_trigger (h : OnOpenNumber db₀ m₀ a m cs c) (hnow : now ≠ 0)
    (hrow : SameNumber a attempt) {max : Int} (exclude : Bool) {lastActivityAt : Option Int}
    {m' : Member}
    (hcs' : m'.communications = dialled m m.communications attempt lastActivityAt
      (if exclude || numberUsedUp true max attempt m then some now else none))
    (hkeeps : m.stopAt ≠ none → m'.stopAt ≠ none)
    (hstops : m.stopAt = none → m'.stopAt ≠ none → retriesLeft true max attempt m = false) :
    StoppedByNumbers m (ccMemberSetSysDestinationsTg now m m') := by
  have hc := h.number hrow
  rw [dialled_eq h.communications hc] at hcs'
  refine ⟨_, (tg_keeps now m m').2.2.trans hcs', ?_⟩
  rw [trigger_stopped_iff h.communications hcs' (set_redialled_ne hc _ _), hrow.1]
  constructor
  · rintro (hstop | hall)
    · by_cases hfree : m.stopAt = none
      · obtain ⟨hothers, hused⟩ := spent_of_no_retries h hrow (hstops hfree hstop)
        refine .inr (allStopped_set h hothers ?_)
        rw [hused, Bool.or_true, if_pos rfl]
        exact hnow
      · exact .inl hfree
    · exact .inr hall
  · rintro (hstop | hall)
    · exact .inl (hkeeps hstop)
    · exact .inr hall

theorem stop_unless {again : Bool} {leavingAt : Option Int} {rest : Bool}
    (hagain : (m.stopAt.isSome || rest) = again) :
    (m.stopAt ≠ none → (if again then m.stopAt else leavingAt) ≠ none)
      ∧ (m.stopAt = none → (if again then m.stopAt else leavingAt) ≠ none → rest = false) := by
  subst hagain
  constructor
  · intro hstop
    rw [Option.isSome_iff_ne_none.mpr hstop, Bool.true_or, if_pos rfl]
    exact hstop
  all_goals grind

end Finishing

/-! ## The five statements -/

/-- The statements that finish an attempt, by number and with a result that is tried again. -/
def Finishes (a : Attempt) : StopOp → Prop
  | .abandoned p => p.id = a.id ∧ p.perNumber = true
  | .leaving p => p.id = a.id ∧ p.perNumber = true ∧ p.result ∉ ["success", "cancel"]
  | .endReporting p => p.id = a.id ∧ p.perNumber = true
    ∧ p.nextOfferingAt = none ∧ p.onlyCurrentCommunication = false
    ∧ ∃ r, p.status = some r ∧ r ∉ ["success", "cancel", "canceled_by_timeout"]
  | .schemaResult p => p.id = a.id ∧ p.perNumber = true ∧ p.nextOfferingAt = none
    ∧ ∃ r, p.status.or a.result = some r ∧ r ∉ ["success", "cancel", "canceled_by_timeout"]
  | .timeout p => p.id = a.id ∧ p.perNumber = true
  | _ => False

theorem resultNotIn_of_notMem {results : List String} {attempt : Attempt} {r : String}
    (hresult : attempt.result = some r) (hr : r ∉ results) :
    resultNotIn results attempt = true := by
  unfold resultNotIn
  rw [hresult]
  exact decide_eq_true hr

section Statements

variable {now j : Int} {db db₀ : Db} {m₀ m : Member} {a : Attempt} {cs : List Communication}
  {c : Communication}

def FinishedByNumbers (j : Int) (m : Member) (db' : Db) : Prop :=
  ∃ m', db'.members.get? j = some m' ∧ StoppedByNumbers m m'

theorem finished_updateMember {db' : Db} {f : Member → Member}
    (hmembers : db'.members.get? j = some m) (hf : ∀ m, (f m).id = m.id)
    (h : StoppedByNumbers m (ccMemberSetSysDestinationsTg now m (f m))) :
    FinishedByNumbers j m (db'.updateMember now (some j) f) :=
  ⟨_, updateMember_self now hf hmembers, h⟩

theorem finished_onAttempt {p : Attempt → Bool} {f : Attempt → Attempt}
    {rest : Attempt → Attempt → Db → Db} (h : OnOpenNumber db₀ m₀ a m cs c)
    (ha : db.attempts.get? a.id = some a) (hm : db.members.get? j = some m)
    (hrest : FinishedByNumbers j m
      (rest a (f a) { db with attempts := db.attempts.replace (f a) })) :
    FinishedByNumbers j m (db.onAttempt a.id p f rest) := by
  unfold Db.onAttempt
  rw [ha]
  dsimp only
  split
  · exact hrest
  · exact ⟨m, hm, stoppedByNumbers_refl h⟩

theorem finished_abandoned (h : OnOpenNumber db₀ m₀ a m cs c) (hnow : now ≠ 0)
    (ha : db.attempts.get? a.id = some a) (hj : a.memberId = some j)
    (hm : db.members.get? j = some m) {p : AbandonedArgs} (hp : Finishes a (.abandoned p)) :
    FinishedByNumbers j m (ccAttemptAbandoned now p db) := by
  obtain ⟨hid, hper⟩ := hp
  unfold ccAttemptAbandoned
  rw [hid, hper]
  refine finished_onAttempt h ha hm ?_
  dsimp only
  rw [hj]
  refine finished_updateMember hm (fun _ => rfl) ?_
  refine stoppedByNumbers_trigger h hnow ⟨rfl, rfl⟩ p.excludeDest rfl ?_ ?_
  · intro hstop
    dsimp only
    split
    · exact hstop
    · exact Option.some_ne_none now
  · intro hfree hstop
    dsimp only at hstop
    -- This function asks for the cause; either way a member it stops has no try left.
    split at hstop
    · exact absurd hfree hstop
    · rename_i hagain
      rw [Bool.not_eq_true, Bool.or_eq_false_iff] at hagain
      exact hagain.2

theorem finished_leaving (h : OnOpenNumber db₀ m₀ a m cs c) (hnow : now ≠ 0)
    (ha : db.attempts.get? a.id = some a) (hj : a.memberId = some j)
    (hm : db.members.get? j = some m) {p : LeavingArgs} (hp : Finishes a (.leaving p)) :
    FinishedByNumbers j m (ccAttemptLeaving now p db) := by
  obtain ⟨hid, hper, hresult⟩ := hp
  unfold ccAttemptLeaving
  rw [hid, hper]
  refine finished_onAttempt h ha hm ?_
  dsimp only
  rw [hj]
  refine finished_updateMember hm (fun _ => rfl) ?_
  rw [resultNotIn_of_notMem rfl hresult, Bool.true_and]
  obtain ⟨hkeeps, hstops⟩ := stop_unless (m := m) rfl
  exact stoppedByNumbers_trigger h hnow ⟨rfl, rfl⟩ false rfl hkeeps hstops

theorem finished_endReporting (h : OnOpenNumber db₀ m₀ a m cs c) (hnow : now ≠ 0)
    (ha : db.attempts.get? a.id = some a) (hj : a.memberId = some j)
    (hm : db.members.get? j = some m) {p : ReportArgs} (hp : Finishes a (.endReporting p)) :
    FinishedByNumbers j m (endReporting now p db) := by
  obtain ⟨hid, hper, hnext, honly, r, hstatus, hr⟩ := hp
  unfold endReporting
  rw [hid]
  refine finished_onAttempt h ha hm ?_
  have hmember : StoppedByNumbers m
      (ccMemberSetSysDestinationsTg now m (reportedMember db now p (reported now p a) m)) := by
    have hagain : resultNotIn ["success", "cancel", "canceled_by_timeout"] (reported now p a)
        = true := resultNotIn_of_notMem hstatus hr
    unfold reportedMember
    rw [hnext, honly, hper, hagain]
    simp only [Option.isSome_none, Bool.false_or, Bool.or_false, Bool.true_and]
    obtain ⟨hkeeps, hstops⟩ := stop_unless (m := m) rfl
    exact stoppedByNumbers_trigger h hnow ⟨rfl, rfl⟩ p.excludeDest rfl hkeeps hstops
  have hfinished : FinishedByNumbers j m (Db.updateMember
      { db with attempts := db.attempts.replace (reported now p a) } now
      (reported now p a).memberId (reportedMember db now p (reported now p a))) := by
    rw [show (reported now p a).memberId = some j from hj]
    exact finished_updateMember hm (fun _ => rfl) hmember
  dsimp only
  split
  · exact hfinished
  · exact hfinished

theorem finished_schemaResult (h : OnOpenNumber db₀ m₀ a m cs c) (hnow : now ≠ 0)
    (ha : db.attempts.get? a.id = some a) (hj : a.memberId = some j)
    (hm : db.members.get? j = some m) {p : ReportArgs} (hp : Finishes a (.schemaResult p)) :
    FinishedByNumbers j m (ccAttemptSchemaResult now p db) := by
  obtain ⟨hid, hper, hnext, r, hresult, hr⟩ := hp
  have hagain : resultNotIn ["success", "cancel", "canceled_by_timeout"] (saved p a) = true :=
    resultNotIn_of_notMem hresult hr
  unfold ccAttemptSchemaResult
  rw [hid]
  refine finished_onAttempt h ha hm ?_
  rw [show (saved p a).memberId = some j from hj]
  refine finished_updateMember hm (fun _ => rfl) ?_
  unfold savedMember
  rw [hagain, hper, hnext]
  simp only [Option.isSome_none, Bool.false_or, Bool.true_and]
  obtain ⟨hkeeps, hstops⟩ := stop_unless (m := m) rfl
  exact stoppedByNumbers_trigger h hnow ⟨rfl, rfl⟩ p.excludeDest rfl hkeeps hstops

theorem finished_timeout (h : OnOpenNumber db₀ m₀ a m cs c) (hnow : now ≠ 0)
    (ha : db.attempts.get? a.id = some a) (hj : a.memberId = some j)
    (hm : db.members.get? j = some m) {p : TimeoutArgs} (hp : Finishes a (.timeout p)) :
    FinishedByNumbers j m (ccAttemptTimeout now p db) := by
  obtain ⟨hid, hper⟩ := hp
  unfold ccAttemptTimeout
  rw [hid, hper]
  refine finished_onAttempt h ha hm ?_
  dsimp only
  split
  · rw [hj]
    refine finished_updateMember hm (fun _ => rfl) ?_
    rw [resultNotIn_of_notMem rfl (timeoutResult_notMem db p.maxAttempts a), Bool.true_and]
    obtain ⟨hkeeps, hstops⟩ := stop_unless (m := m) rfl
    exact stoppedByNumbers_trigger h hnow ⟨rfl, rfl⟩ false rfl hkeeps hstops
  · -- The schema of the queue will report; the row of the member is not touched.
    exact ⟨m, hm, stoppedByNumbers_refl h⟩

/-- **Retries by number**: whichever of the statements finishes an attempt on an open number, the
member is stopped afterwards exactly if it was stopped before, or each of its numbers has a time. -/
theorem stopped_iff_no_number_left {op : StopOp} {db' : Db} (h : OnOpenNumber db₀ m₀ a m cs c)
    (hnow : now ≠ 0) (ha : db.attempts.get? a.id = some a) (hj : a.memberId = some j)
    (hm : db.members.get? j = some m) (hop : Finishes a op)
    (hstep : stopStep db (now, op) = some db') :
    ∃ m' cs', db'.members.get? j = some m' ∧ m'.communications = some cs'
      ∧ (m'.stopAt ≠ none ↔ m.stopAt ≠ none ∨ ∀ x ∈ cs', x.stopAt.getD 0 ≠ 0) := by
  have hfinished : FinishedByNumbers j m db' := by
    cases op with
    | abandoned p =>
      cases hstep
      exact finished_abandoned h hnow ha hj hm hop
    | leaving p =>
      cases hstep
      exact finished_leaving h hnow ha hj hm hop
    | endReporting p =>
      grind [stopStep, ccAttemptEndReporting_eq, finished_endReporting]
    | schemaResult p =>
      cases hstep
      exact finished_schemaResult h hnow ha hj hm hop
    | timeout p =>
      cases hstep
      exact finished_timeout h hnow ha hj hm hop
    | distributeCancel p => exact hop.elim
    | setBarred id blockAllNumbers => exact hop.elim
    | setExpired ids => exact hop.elim
  obtain ⟨m', hm', cs', hcs', hiff⟩ := hfinished
  exact ⟨m', cs', hm', hcs', hiff⟩

end Statements

def twoNumbers (stopAt : Option Int) (counter : Int) (otherStopAt : Option Int) : Member :=
  ⟨1, 1, 1, none, none, 0, some [⟨none, some counter, none, none, none⟩,
    ⟨none, none, none, none, otherStopAt⟩], stopAt, none, none, none, none, none, none, none⟩

def firstNumber : Attempt :=
  { Attempt.inserted 0 7 with queueId := some 1, memberId := some 1, communicationIdx := 0 }

def dialling (a : Attempt) (m : Member) : Db :=
  { Db.empty with
    attempts := .single a
    members := .single m
    queues := .single ⟨1, none, none, none, none, false⟩ }

def activeNumber (m : Member) : Attempt :=
  activated 5 "node" (fun _ => 5) (dialling firstNumber m) firstNumber

def leavingNow (max : Int) : LeavingArgs := ⟨7, "failed", 0, none, max, 60, true, none, none⟩

theorem countedAt_activeNumber (m : Member) (hm : m.id = 1) :
    CountedAt (dialling firstNumber m) m (activeNumber m) := by
  have hget : (dialling firstNumber m).members.get? 1 = some m :=
    Table.get?_eq_some.mpr ⟨List.mem_singleton_self m, hm⟩
  refine ⟨5, "node", fun _ => 5, [7], firstNumber, activeNumber m, rfl, rfl, hget, ?_, rfl, rfl⟩
  exact Table.get?_eq_some.mpr ⟨List.mem_singleton_self _, rfl⟩

/-- The last number is dialled for the last time, and the member is stopped with it. -/
theorem last_number_stops :
    ∃ m' cs', ((stopStep (dialling (activeNumber (twoNumbers none 0 (some 3)))
        (twoNumbers none 0 (some 3))) (10, .leaving (leavingNow 1))).bind
          (·.members.get? 1)) = some m'
      ∧ m'.communications = some cs' ∧ m'.stopAt = some 10
      ∧ (m'.stopAt ≠ none ↔ none ≠ none (α := Int) ∨ ∀ x ∈ cs', x.stopAt.getD 0 ≠ 0) := by
  have hstep : stopStep (dialling (activeNumber (twoNumbers none 0 (some 3)))
    (twoNumbers none 0 (some 3))) (10, .leaving (leavingNow 1)) = some _ := rfl
  have hopen : OnOpenNumber (dialling firstNumber (twoNumbers none 0 (some 3)))
      (twoNumbers none 0 (some 3)) (activeNumber (twoNumbers none 0 (some 3)))
      (twoNumbers none 0 (some 3)) _ _ :=
    ⟨countedAt_activeNumber _ rfl, ⟨rfl, fun _ _ => rfl⟩, rfl, rfl, rfl, by decide⟩
  have hop : Finishes (activeNumber (twoNumbers none 0 (some 3))) (.leaving (leavingNow 1)) :=
    ⟨rfl, rfl, by decide⟩
  obtain ⟨m', cs', hm', hcs', hiff⟩ :=
    stopped_iff_no_number_left (j := 1) hopen (by decide) rfl rfl rfl hop hstep
  refine ⟨m', cs', hm', hcs', ?_, hiff⟩
  rw [← Option.some.inj hm']
  rfl

/-- An attempt on the first number finishes, and leaves the member stopped with a number open. -/
def StoppedThoughOpen (m : Member) : Prop :=
  CountedAt (dialling firstNumber m) m (activeNumber m)
    ∧ SameOthers (activeNumber m).communicationIdx m m
    ∧ Finishes (activeNumber m) (.leaving (leavingNow 0))
    ∧ ((stopStep (dialling (activeNumber m) m) (10, .leaving (leavingNow 0))).bind
        (·.members.get? 1)).any (fun m' => m'.stopAt.isSome
          && (m'.communications.getD []).any Communication.isOpen) = true

/-- A member that was stopped already stays so with both numbers open, and a counter below zero
without a limit stops the member and not the number. -/
theorem stopped_with_number_left : StoppedThoughOpen (twoNumbers (some 4) 0 none)
    ∧ StoppedThoughOpen (twoNumbers none (-2) (some 3)) := by
  constructor
  · exact ⟨countedAt_activeNumber _ rfl, ⟨rfl, fun _ _ => rfl⟩, ⟨rfl, rfl, by decide⟩, rfl⟩
  · exact ⟨countedAt_activeNumber _ rfl, ⟨rfl, fun _ _ => rfl⟩, ⟨rfl, rfl, by decide⟩, rfl⟩

end CallCenter.Store
