import CallCenter.Store.InboundCall

/-!
# The waiting size of an inbound queue

The count is a `SELECT` and the attempt an `INSERT` of the same function: between them, and until
the commit, other calls count without it. What the limit holds for is the load, the attempts that
wait together with the calls on their way, and a call keeps it when the calls on their way leave it
room (`leavesRoom`). The limit is one for each bucket, and one for the queue as long as no call with
a bucket joins.
-/

namespace CallCenter.Store.Inbound

open Lib

variable {queues : List InboundQueue} {queueId : Int} {buckets : Option BucketId → Bool}

/-! ## The pieces of a join -/

variable {r : JoinRequest} {a : Admitted}

theorem admission_ok {t : Tables} {committed : List QueuedAttempt}
    (h : admission queues t committed r = .ok a) :
    a.request = r ∧ ∃ queue, queues.find? (fun q => q.id = r.queueId) = some queue
      ∧ isFull queue committed r = false := by
  unfold admission at h
  dsimp only at h
  split at h
  · cases h
  · rename_i queue hqueue
    -- Each test before the count ends in an error of its own.
    iterate 6
      split at h
      · cases h
    grind

variable {queue : InboundQueue} {size : Int}

theorem room_of_not_full {committed : List QueuedAttempt} (hsize : queue.maxWaitingSize = some size)
    (hpos : 0 < size) (h : isFull queue committed r = false) :
    committed.countP (QueuedAttempt.waitsIn r.queueId (comparedWith r.bucketId)) < size.toNat := by
  grind [isFull]

theorem goesTo_inserted {t : Tables} {id : Int} {attempt : QueuedAttempt}
    {answer : InboundCallQueue} (h : insertAttempt t id a = .ok (attempt, answer)) :
    Joining.goesTo queueId buckets (.inserted a attempt answer)
      = Joining.goesTo queueId buckets (.admitted a) := by
  unfold insertAttempt at h
  split at h
  · cases h
  · split at h
    · cases h
    · split_ifs at h
      have hattempt : newAttempt t id a = attempt := congrArg Prod.fst (Except.ok.inj h)
      rw [← hattempt]
      exact congrArg (· && buckets a.request.bucketId) (decide_eq_decide.mpr Option.some_inj)

theorem goesTo_of_waitsIn {attempt : QueuedAttempt} {answer : InboundCallQueue}
    (h : attempt.waitsIn queueId buckets = true) :
    Joining.goesTo queueId buckets (.inserted a attempt answer) = true := by
  grind [Joining.goesTo, QueuedAttempt.waitsIn]

variable {w : JoinWorld}

theorem load_onAttempt_le {id : Int} {f : QueuedAttempt → QueuedAttempt}
    (hf : ∀ a, (f a).waitsIn queueId buckets = false) :
    (w.onAttempt id f).load queueId buckets ≤ w.load queueId buckets := by
  refine Intake.load_rows_le ?_
  rw [List.countP_map]
  refine List.countP_mono_left fun a _ ha => ?_
  grind

/-! ## One step -/

/-- The call that joins one of the buckets is compared with all of them. -/
def ComparedWithAll (queueId : Int) (buckets : Option BucketId → Bool) : JoinLabel → Prop
  | .join r => r.queueId = queueId → buckets r.bucketId = true →
      ∀ b, buckets b = true → comparedWith r.bucketId b = true
  | _ => True

theorem load_le_compared (h : ∀ b, buckets b = true → comparedWith r.bucketId b = true) :
    w.load queueId buckets ≤ w.load queueId (comparedWith r.bucketId) := by
  refine Intake.load_mono ?_ ?_
  · grind [QueuedAttempt.waitsIn]
  · intro j _ hj
    cases j with
    | admitted a =>
      rw [Joining.goesTo, Bool.and_eq_true] at hj ⊢
      exact ⟨hj.1, h _ hj.2⟩
    | inserted a attempt answer =>
      rw [Joining.goesTo, Bool.and_eq_true] at hj ⊢
      exact ⟨hj.1, h _ hj.2⟩

theorem load_join (hqueue : queues.find? (fun q => q.id = queue.id) = some queue)
    (hsize : queue.maxWaitingSize = some size) (hpos : 0 < size)
    (hload : w.load queue.id buckets ≤ size.toNat) (hroom : leavesRoom queues w (.join r))
    (hall : ComparedWithAll queue.id buckets (.join r))
    (ha : admission queues w.tables w.attempts.rows r = .ok a) :
    { w with attempts := w.attempts.enter (.admitted a) }.load queue.id buckets ≤ size.toNat := by
  obtain ⟨hrequest, found, hfound, hfull⟩ := admission_ok ha
  refine Intake.load_enter_le hload fun hgoes => ?_
  rw [Joining.goesTo, Bool.and_eq_true, hrequest, decide_eq_true_iff] at hgoes
  obtain ⟨hid, hbucket⟩ := hgoes
  have hsame : found = queue := by
    rw [hid, hqueue] at hfound
    exact (Option.some.inj hfound).symm
  rw [hsame] at hfound hfull
  -- What is committed leaves room, so the load does, and the load of the buckets is part of it.
  have hless := hroom queue hfound size hsize hpos (room_of_not_full hsize hpos hfull)
  rw [hid] at hless
  exact Nat.lt_of_le_of_lt (load_le_compared (hall hid hbucket)) hless

theorem load_step {w' : JoinWorld} {l : JoinLabel}
    (hqueue : queues.find? (fun q => q.id = queue.id) = some queue)
    (hsize : queue.maxWaitingSize = some size) (hpos : 0 < size)
    (hload : w.load queue.id buckets ≤ size.toNat)
    (hok : leavesRoom queues w l ∧ ComparedWithAll queue.id buckets l)
    (hstep : joinStep queues w l = some w') : w'.load queue.id buckets ≤ size.toNat := by
  cases l with
  | join r =>
    unfold joinStep at hstep
    dsimp only at hstep
    split at hstep
    · cases hstep
      exact hload
    · rename_i a ha
      cases hstep
      exact load_join hqueue hsize hpos hload hok.1 hok.2 ha
  | insert i =>
    unfold joinStep at hstep
    dsimp only at hstep
    split at hstep
    · rename_i a ha
      split at hstep
      · cases hstep
        exact Nat.le_trans (Intake.load_drop_le i) hload
      · rename_i attempt answer hinsert
        cases hstep
        refine Nat.le_trans (Intake.load_advance_le ha fun hgoes => ?_) hload
        rw [← goesTo_inserted hinsert]
        exact hgoes
    · cases hstep
  | commit i =>
    unfold joinStep at hstep
    dsimp only at hstep
    split at hstep
    · rename_i a attempt answer ha
      cases hstep
      exact Nat.le_trans (Intake.load_land_le ha goesTo_of_waitsIn) hload
    · cases hstep
  | rollback i =>
    cases hstep
    exact Nat.le_trans (Intake.load_drop_le i) hload
  | bridge id now =>
    cases hstep
    refine Nat.le_trans (load_onAttempt_le fun a => ?_) hload
    simp [QueuedAttempt.waitsIn]
  | leave id now =>
    cases hstep
    refine Nat.le_trans (load_onAttempt_le fun a => ?_) hload
    simp [QueuedAttempt.waitsIn]
  | archive id =>
    cases hstep
    exact Nat.le_trans (Intake.load_rows_le (List.filter_sublist.countP_le)) hload
  | change tables =>
    cases hstep
    exact hload

/-! ## Every run -/

theorem waits_le_of_compared {w' : JoinWorld} {labels : List JoinLabel}
    (hqueue : queues.find? (fun q => q.id = queue.id) = some queue)
    (hsize : queue.maxWaitingSize = some size) (hpos : 0 < size) (hidle : w.attempts.flying = [])
    (hok : Along (joinStep queues) (leavesRoom queues) w labels)
    (hall : ∀ l ∈ labels, ComparedWithAll queue.id buckets l)
    (hrun : run (joinStep queues) w labels = some w')
    (hstart : (w.attempts.rows.countP (QueuedAttempt.waitsIn queue.id buckets) : Int) ≤ size) :
    (w'.attempts.rows.countP (QueuedAttempt.waitsIn queue.id buckets) : Int) ≤ size := by
  have hload : w.load queue.id buckets ≤ size.toNat := by
    unfold JoinWorld.load Intake.load
    rw [hidle, List.countP_nil]
    omega
  have hload' : w'.load queue.id buckets ≤ size.toNat :=
    run_invariant (fun _ _ _ h hok hstep => load_step hqueue hsize hpos h hok hstep) labels hload
      (hok.and (along_of_mem hall w)) hrun
  have hrows := Nat.le_trans Intake.rows_le_load hload'
  omega

/-- **The waiting size of a queue is kept** in each bucket, and over the whole queue when calls join
it without a bucket, as long as the calls on their way leave room. -/
theorem waiting_size_respected {queue : InboundQueue} {size : Int} {w w' : JoinWorld}
    {labels : List JoinLabel} (hqueue : queues.find? (fun q => q.id = queue.id) = some queue)
    (hsize : queue.maxWaitingSize = some size) (hpos : 0 < size) (hidle : w.attempts.flying = [])
    (hok : Along (joinStep queues) (leavesRoom queues) w labels)
    (hrun : run (joinStep queues) w labels = some w') :
    (∀ bucketId : Option BucketId,
      (w.attempts.rows.countP (QueuedAttempt.waitsIn queue.id (· = bucketId)) : Int) ≤ size →
      (w'.attempts.rows.countP (QueuedAttempt.waitsIn queue.id (· = bucketId)) : Int) ≤ size)
    ∧ ((∀ r, JoinLabel.join r ∈ labels → r.queueId = queue.id → r.bucketId = none) →
      (w.attempts.rows.countP (QueuedAttempt.waitsIn queue.id fun _ => true) : Int) ≤ size →
      (w'.attempts.rows.countP (QueuedAttempt.waitsIn queue.id fun _ => true) : Int) ≤ size) := by
  constructor
  · intro bucketId
    refine waits_le_of_compared hqueue hsize hpos hidle hok (fun l _ => ?_) hrun
    cases l with
    | join r =>
      -- A call of the bucket is compared with the bucket.
      intro _ hr b hb
      unfold comparedWith
      rw [of_decide_eq_true hr, of_decide_eq_true hb, decide_eq_true rfl, Bool.or_true]
    | _ => trivial
  · intro hnone
    refine waits_le_of_compared hqueue hsize hpos hidle hok (fun l hl => ?_) hrun
    cases l with
    | join r =>
      -- A call without a bucket is compared with the queue.
      intro hid _ b _
      unfold comparedWith
      rw [hnone r hl hid]
      rfl
    | _ => trivial

/-! ## A queue with room for one -/

def smallQueue : InboundQueue where
  id := 1
  domainId := 1
  type := 1
  enabled := true
  updatedAt := 0
  calendarId := none
  ignoreCalendar := false
  dncListId := none
  team := none
  stickyAgent := false
  stickyIgnoreStatus := false
  granteeId := none
  maxWaitingSize := some 1
  discardAbandonedAfter := none

def ringing (id number : String) : CallRow where
  id := id
  domainId := 1
  state := some "ringing"
  direction := some "inbound"
  userId := none
  fromNumber := some number
  fromName := none
  toName := none
  destination := some "100"
  appId := none
  timestamp := none
  answeredAt := none
  bridgedAt := none
  createdAt := 0
  parentId := none
  queueId := none
  teamId := none
  attemptId := none
  granteeId := none
  payload := none

def twoCalls : JoinWorld where
  tables := ⟨0, [ringing "a" "201", ringing "b" "202"], fun _ _ => true, [], [], [], []⟩
  attempts := ⟨[], []⟩
  nextId := 1

def joinAs (callId : String) : JoinRequest := ⟨"node", 1, callId, none, none, 0, none⟩

/-- The first call is committed when the second counts, and the second is turned away; it is let in
when the first has been bridged. -/
def inTurn : List JoinLabel :=
  [.join (joinAs "a"), .insert 0, .commit 0, .join (joinAs "b"), .bridge 1 5, .join (joinAs "b"),
    .insert 0, .commit 0]

theorem twoCalls_inTurn : ∃ w', run (joinStep [smallQueue]) twoCalls inTurn = some w'
    ∧ w'.attempts.rows.length = 2
    ∧ (w'.attempts.rows.countP (QueuedAttempt.waitsIn 1 fun _ => true) : Int) ≤ 1 := by
  have hall : ∀ r, JoinLabel.join r ∈ inTurn → r.queueId = smallQueue.id → r.bucketId = none := by
    intro r hr _
    simp only [inTurn, List.mem_cons, JoinLabel.join.injEq, reduceCtorEq, List.not_mem_nil,
      false_or, or_false] at hr
    rcases hr with rfl | rfl | rfl <;> rfl
  have hok : Along (joinStep [smallQueue]) (leavesRoom [smallQueue]) twoCalls inTurn := by decide
  exact ⟨_, rfl, rfl,
    (waiting_size_respected (w := twoCalls) rfl (show smallQueue.maxWaitingSize = _ from rfl)
      Int.one_pos rfl hok rfl).2 hall (by decide)⟩

/-- Both calls count before either is committed, and two attempts wait in a queue for one. -/
theorem twoCalls_sideBySide : ∃ w', run (joinStep [smallQueue]) twoCalls
      [.join (joinAs "a"), .join (joinAs "b"), .insert 0, .insert 1, .commit 0, .commit 0]
        = some w'
    ∧ smallQueue.maxWaitingSize = some 1
    ∧ w'.attempts.rows.countP (QueuedAttempt.waitsIn 1 fun _ => true) = 2 :=
  ⟨_, rfl, rfl, rfl⟩

end CallCenter.Store.Inbound
