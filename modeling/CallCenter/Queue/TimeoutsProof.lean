import CallCenter.Queue.Timeouts

/-!
# Whom a timeout strands

The proof follows one attempt: the flag of its row, its place in the cache and the events recorded
of it are its `View`. The parts touch one attempt only, so a round over many of them is a sum of
independent cases.

A draft is saved by `LeavingMember` and only with `autosave`, but its presence alone keeps
`TimeoutLeavingMember` from saving a result: without `autosave` the draft is lost, and the flag of a
row with an after-schema stays set. A result that could not be saved leaves the attempt in the
cache, and an attempt that is not cached depends on the one write of `SetTimeoutError`.
-/

namespace CallCenter.Queue.Timeouts

open Lib Store

/-! ## Views -/

structure View where
  schemaProcessing : Option Bool
  live : Option LiveAttempt
  events : List TimeoutEvent

def TimeoutWorld.of (w : TimeoutWorld) (id : Int) : View where
  schemaProcessing := (w.db.attempts.get? id).map Attempt.schemaProcessing
  live := w.membersCache.get? id
  events := (w.events.filter fun e => e.1 = id).map Prod.snd

/-- **The property** of one attempt: its flag is down, it has left the cache, and a draft that no
result of a schema replaced is what was saved. -/
structure Settled (before after : View) : Prop where
  flag : after.schemaProcessing = some false
  left : after.live = none
  draft : ∀ a d, before.live = some a → a.draft = some d → (∀ r, .schema r ∉ after.events) →
    after.events = [.saved d]

structure Becomes (id : Int) (w : TimeoutWorld) (s : View) (w' : TimeoutWorld) : Prop where
  own : w'.of id = s
  others : ∀ j, j ≠ id → w'.of j = w.of j

theorem Becomes.trans {id : Int} {w w' w'' : TimeoutWorld} {s s' : View}
    (h : Becomes id w s w') (h' : Becomes id w' s' w'') : Becomes id w s' w'' where
  own := h'.own
  others j hne := (h'.others j hne).trans (h.others j hne)

/-! ## The store -/

section Store

variable {db : Db} {id : Int} {f : Attempt → Attempt}

variable {rest : Attempt → Attempt → Db → Db}

theorem onAttempt_get?_of_ne (hid : ∀ a, (f a).id = a.id)
    (hrest : ∀ a b db, (rest a b db).attempts = db.attempts) {j : Int} (hne : j ≠ id) :
    (db.onAttempt id (fun _ => true) f rest).attempts.get? j = db.attempts.get? j := by
  refine onAttempt_induction (motive := fun db' => db'.attempts.get? j = db.attempts.get? j)
    db _ _ _ _ rfl fun a hget _ => ?_
  rw [hrest]
  have ha : a.id = id := (Table.get?_eq_some.mp hget).2
  exact Table.get?_replace_of_ne (by rw [hid, ha]; exact hne)

theorem onAttempt_get? (hid : ∀ a, (f a).id = a.id)
    (hrest : ∀ a b db, (rest a b db).attempts = db.attempts) :
    (db.onAttempt id (fun _ => true) f rest).attempts.get? id = (db.attempts.get? id).map f := by
  unfold Db.onAttempt
  split
  · rename_i hget
    rw [hget]
    rfl
  · rename_i a hget
    have ha : a.id = id := (Table.get?_eq_some.mp hget).2
    grind [Table.get?_replace]

theorem onAttempt_flag (hid : ∀ a, (f a).id = a.id)
    (hrest : ∀ a b db, (rest a b db).attempts = db.attempts)
    (hflag : ∀ a, (f a).schemaProcessing = false) :
    ((db.onAttempt id (fun _ => true) f rest).attempts.get? id).map Attempt.schemaProcessing
      = (db.attempts.get? id).map fun _ => false := by
  rw [onAttempt_get? hid hrest, Option.map_map]
  exact congrArg (fun g => (db.attempts.get? id).map g) (funext hflag)

theorem setTimeoutError_flag (id : Int) (db : Db) :
    ((setTimeoutError id db).attempts.get? id).map Attempt.schemaProcessing
      = (db.attempts.get? id).map fun _ => false := by
  unfold setTimeoutError
  exact onAttempt_flag (fun _ => rfl) (fun _ _ _ => rfl) fun _ => rfl

theorem setTimeoutError_get?_of_ne {id : Int} (db : Db) {j : Int} (hne : j ≠ id) :
    (setTimeoutError id db).attempts.get? j = db.attempts.get? j := by
  unfold setTimeoutError
  refine onAttempt_get?_of_ne (fun _ => ?_) (fun _ _ _ => ?_) hne
  · rfl
  · rfl

theorem schemaResult_flag (now : Int) (p : ReportArgs) (db : Db) :
    ((ccAttemptSchemaResult now p db).attempts.get? p.id).map Attempt.schemaProcessing
      = (db.attempts.get? p.id).map fun _ => false := by
  unfold ccAttemptSchemaResult
  exact onAttempt_flag (fun _ => rfl) (fun _ _ _ => rfl) fun _ => rfl

theorem schemaResult_get?_of_ne (now : Int) (p : ReportArgs) (db : Db) {j : Int} (hne : j ≠ p.id) :
    (ccAttemptSchemaResult now p db).attempts.get? j = db.attempts.get? j := by
  unfold ccAttemptSchemaResult
  refine onAttempt_get?_of_ne (fun _ => ?_) (fun _ _ _ => ?_) hne
  · rfl
  · rfl

end Store

theorem timeout_queues (now : Int) (p : TimeoutArgs) (db : Db) :
    (ccAttemptTimeout now p db).queues = db.queues := by
  refine onAttempt_induction (motive := fun db' => db'.queues = db.queues) db _ _ _ _ rfl
    fun a _ _ => ?_
  dsimp only
  split
  · rfl
  · rfl

variable {nodeId : String}

/-- **The flag that `GetTimeouts` leaves on a row**: whether the queue has an after-schema. A row
that joins no queue keeps its flag, which is down. -/
theorem timeout_flag {now : Int} {db db' : Db} {a : Attempt}
    (hsel : timedOut db now nodeId a = true) (hrow : db'.attempts.get? a.id = some a)
    (hqueues : db'.queues = db.queues) :
    ((ccAttemptTimeout now (timeoutArgs db a) db').attempts.get? a.id).map
      Attempt.schemaProcessing = some (timeoutArgs db a).doLeaving := by
  have hdown : a.schemaProcessing = false := by
    unfold timedOut at hsel
    simp only [Bool.and_eq_true, Bool.not_eq_true'] at hsel
    exact hsel.1.2
  unfold ccAttemptTimeout Db.onAttempt
  have hid : (timeoutArgs db a).id = a.id := rfl
  rw [hid, hrow]
  dsimp only
  by_cases hjoins : joinsQueue db' a = true
  · rw [if_pos hjoins]
    have hset : ∀ r : Attempt, r.id = a.id → r.schemaProcessing = (timeoutArgs db a).doLeaving →
        ((db'.attempts.replace r).get? a.id).map Attempt.schemaProcessing
          = some (timeoutArgs db a).doLeaving := by
      grind [Table.get?_replace]
    split
    · refine hset _ ?_ ?_
      · rfl
      · rfl
    · refine hset _ ?_ ?_
      · rfl
      · rfl
  · rw [if_neg hjoins, hrow]
    have hno : (timeoutArgs db a).doLeaving = false := by
      unfold joinsQueue at hjoins
      rw [hqueues] at hjoins
      show ((a.queueId.bind db.queues.get?).bind Queue.afterSchemaId).isSome = false
      cases hq : a.queueId with
      | none => rfl
      | some q =>
        rw [hq] at hjoins
        cases hget : db.queues.get? q with
        | none => rw [Option.bind_some, hget]; rfl
        | some r => exact absurd (Option.isSome_iff_exists.mpr ⟨r, hget⟩) hjoins
    rw [Option.map_some, hdown, hno]

theorem timeouts_flag {now : Int} {db : Db} (selected : List Attempt)
    (hsel : ∀ a ∈ selected, timedOut db now nodeId a = true)
    (hnodup : (selected.map Attempt.id).Nodup) (db' : Db) (hqueues : db'.queues = db.queues)
    (hrows : ∀ a ∈ selected, db'.attempts.get? a.id = some a) {a : Attempt} (ha : a ∈ selected) :
    ((selected.foldl (fun db' a => ccAttemptTimeout now (timeoutArgs db a) db') db').attempts.get?
      a.id).map Attempt.schemaProcessing = some (timeoutArgs db a).doLeaving := by
  induction selected generalizing db' with
  | nil => cases ha
  | cons b rest ih =>
    rw [List.map_cons, List.nodup_cons] at hnodup
    rw [List.foldl_cons]
    have hother : ∀ c ∈ rest, c.id ≠ b.id := fun c hc heq =>
      hnodup.1 (List.mem_map.mpr ⟨c, hc, heq⟩)
    rcases List.mem_cons.mp ha with rfl | hrest
    · rw [timeouts_get?_of_notMem now (timeoutArgs db) (fun _ => rfl) rest hnodup.1]
      exact timeout_flag (hsel a List.mem_cons_self) (hrows a List.mem_cons_self) hqueues
    all_goals grind [timeoutArgs, timeout_get?_of_ne, timeout_queues]

theorem getTimeouts_flag {now : Int} {db : Db} {v : ReportingTimeout}
    (hv : v ∈ reportingTimeouts now nodeId db) :
    ((getTimeouts now nodeId db).attempts.get? v.attemptId).map Attempt.schemaProcessing
      = some v.afterSchemaId.isSome := by
  obtain ⟨a, ha, rfl⟩ := List.mem_map.mp hv
  refine timeouts_flag _ (fun b hb => (List.mem_filter.mp hb).2) ?_ db rfl (fun b hb => ?_) ha
  · exact db.attempts.nodup.sublist (List.filter_sublist.map Attempt.id)
  · exact Table.get?_eq_some.mpr ⟨(List.mem_filter.mp hb).1, rfl⟩

/-! ## The parts -/

def View.saved (s : View) (callback : AttemptCallback) : View :=
  { s with schemaProcessing := some false, events := s.events ++ [.saved callback] }

def View.flushed (o : TimeoutOutcomes) (a : LiveAttempt) (s : View) : View :=
  match a.draft with
  | some d => if a.queue.any TimeoutQueue.processingAutosave && o.saveDraft then s.saved d else s
  | none => s

section Parts

variable {o : TimeoutOutcomes} {a : LiveAttempt} {w : TimeoutWorld}

theorem Becomes.refl (id : Int) (w : TimeoutWorld) : Becomes id w (w.of id) w :=
  ⟨rfl, fun _ _ => rfl⟩

theorem events_append (w : TimeoutWorld) (id j : Int) (e : TimeoutEvent) :
    (((w.events ++ [(id, e)]).filter fun x => x.1 = j).map Prod.snd)
      = (w.of j).events ++ if id = j then [e] else [] := by
  rw [List.filter_append, List.map_append]
  by_cases h : id = j
  · rw [if_pos h, List.filter_cons_of_pos (by simpa using h)]
    rfl
  · rw [if_neg h, List.filter_cons_of_neg (by simpa using h)]
    rfl

theorem save_becomes (callback : AttemptCallback) (hrow : (w.of a.id).schemaProcessing.isSome) :
    ∃ w', w.save o true a callback = some w'
      ∧ Becomes a.id w ((w.of a.id).saved callback) w' := by
  have hget : (w.db.attempts.get? a.id).isSome := by
    rwa [TimeoutWorld.of, Option.isSome_map] at hrow
  unfold TimeoutWorld.save schemaResult
  rw [if_pos rfl, if_pos hget, Option.map_some]
  refine ⟨_, rfl, ?_, fun j hne => ?_⟩
  · unfold TimeoutWorld.of View.saved
    dsimp only
    congr 1
    · obtain ⟨r, hr⟩ := Option.isSome_iff_exists.mp hget
      exact (schemaResult_flag o.now (schemaResultArgs a.id callback a.config) w.db).trans
        (congrArg (Option.map fun _ => false) hr)
    · rw [events_append, if_pos rfl]
      rfl
  · unfold TimeoutWorld.of
    dsimp only
    congr 1
    · rw [schemaResult_get?_of_ne o.now (schemaResultArgs a.id callback a.config) w.db hne]
    · rw [events_append, if_neg (Ne.symm hne), List.append_nil]
      rfl

theorem flushDraft_becomes (hrow : (w.of a.id).schemaProcessing.isSome) :
    Becomes a.id w ((w.of a.id).flushed o a) (flushDraft o a w) := by
  unfold flushDraft View.flushed
  cases a.draft with
  | none =>
    dsimp only
    rw [ite_self]
    exact Becomes.refl a.id w
  | some d =>
    cases a.queue.any TimeoutQueue.processingAutosave with
    | false => exact Becomes.refl a.id w
    | true =>
      dsimp only
      rw [if_pos rfl, Bool.true_and]
      cases o.saveDraft with
      | false => exact Becomes.refl a.id w
      | true =>
        obtain ⟨w', hsave, hw'⟩ := save_becomes (o := o) d hrow
        rw [hsave]
        exact hw'

theorem delete_becomes (id : Int) :
    Becomes id w { w.of id with live := none }
      { w with membersCache := w.membersCache.delete fun b => b.id = id } := by
  refine ⟨?_, fun j hne => ?_⟩
  · unfold TimeoutWorld.of
    dsimp only
    congr 1
    rw [Table.get?_delete]
    refine Option.filter_eq_none_iff.mpr fun b hb => ?_
    have hid : b.id = id := (Table.get?_eq_some.mp hb).2
    simp [hid]
  · unfold TimeoutWorld.of
    dsimp only
    congr 1
    rw [Table.get?_delete]
    cases hget : w.membersCache.get? j with
    | none => rfl
    | some b =>
      have hid : b.id = j := (Table.get?_eq_some.mp hget).2
      rw [Option.filter_some, if_pos (by simp [hid, hne])]

theorem leavingMember_crashes (hqueue : a.queue = none) (hlive : (w.of a.id).live.isSome) :
    leavingMember o a w = none := by
  unfold leavingMember
  have hcached : (w.membersCache.get? a.id).isNone = false := Option.isNone_eq_false_iff.mpr hlive
  rw [hcached, hqueue]
  rfl

theorem leavingMember_becomes (hqueue : a.queue.isSome) (hlive : (w.of a.id).live.isSome)
    (hrow : (w.of a.id).schemaProcessing.isSome) :
    ∃ w', leavingMember o a w = some w'
      ∧ Becomes a.id w { (w.of a.id).flushed o a with live := none } w' := by
  unfold leavingMember
  have hcached : (w.membersCache.get? a.id).isNone = false := Option.isNone_eq_false_iff.mpr hlive
  have hset : a.queue.isNone = false := Option.isNone_eq_false_iff.mpr hqueue
  rw [hcached, if_neg Bool.false_ne_true]
  dsimp only
  rw [hset, if_neg Bool.false_ne_true]
  have hflush := flushDraft_becomes (o := o) hrow
  refine ⟨_, rfl, ?_⟩
  rw [← hflush.own]
  exact hflush.trans (delete_becomes a.id)

theorem saveAndLeave_result (callback : AttemptCallback) (hdraft : a.draft = none)
    (hqueue : a.queue.isSome) (hlive : (w.of a.id).live.isSome)
    (hrow : (w.of a.id).schemaProcessing.isSome) :
    ∃ w', saveAndLeave o a callback w = some w' ∧ Becomes a.id w
      (if o.saveResult then { (w.of a.id).saved callback with live := none } else w.of a.id) w' :=
        by
  unfold saveAndLeave
  rw [hdraft, Option.isNone_none, if_pos rfl]
  cases o.saveResult with
  | false => exact ⟨w, rfl, Becomes.refl a.id w⟩
  | true =>
    obtain ⟨w', hsave, hw'⟩ := save_becomes (o := o) callback hrow
    have hflushed : ∀ s : View, s.flushed o a = s := fun s => by
      unfold View.flushed
      rw [hdraft]
    obtain ⟨w'', hleave, hw''⟩ := leavingMember_becomes (o := o) (w := w') hqueue
      (by rw [hw'.own]; exact hlive) (by rw [hw'.own]; rfl)
    rw [hsave]
    refine ⟨w'', hleave, ?_⟩
    rw [hflushed, hw'.own] at hw''
    exact hw'.trans hw''

end Parts

/-! ## One attempt -/

/-- Nothing is left of an attempt in the cache: a draft needs `autosave`, and a result that takes
the place of one, or of nothing, must be saved. -/
def LiveAttempt.settles (o : TimeoutOutcomes) (v : ReportingTimeout) (a : LiveAttempt)
    (q : TimeoutQueue) : Bool :=
  if v.afterSchemaId.isNone && !a.isProlongationTimeout then
    a.draft.isNone || (q.processingAutosave && o.saveDraft)
  else if a.draft.isNone || (afterDistributeSchema o q).isSome then o.saveResult
  else q.processingAutosave && o.saveDraft

def Covered (o : TimeoutOutcomes) (v : ReportingTimeout) : Option LiveAttempt → Prop
  | none => o.setTimeoutError = true ∨ v.afterSchemaId = none
  | some a => ∃ q, a.queue = some q ∧ a.settles o v q = true

/-- `LeavingMember` is called for an attempt without a queue. -/
def Crashes (v : ReportingTimeout) (live : Option LiveAttempt) : Prop :=
  ∃ a, live = some a ∧ a.queue = none ∧ v.afterSchemaId = none

section One

variable {o : TimeoutOutcomes} {v : ReportingTimeout} {a : LiveAttempt} {s : View}

theorem covered_iff {q : TimeoutQueue} (hqueue : a.queue = some q) :
    Covered o v (some a) ↔ a.settles o v q = true := by
  refine ⟨fun ⟨q', hq', h⟩ => ?_, fun h => ⟨q, hqueue, h⟩⟩
  rw [Option.some.inj (hqueue.symm.trans hq')]
  exact h

theorem settled_flushed {d : AttemptCallback} (hlive : s.live = some a) (hevents : s.events = [])
    (hdraft : a.draft = some d) :
    Settled s { s.flushed o a with live := none }
      ↔ (a.queue.any TimeoutQueue.processingAutosave && o.saveDraft) = true := by
  unfold View.flushed
  rw [hdraft]
  dsimp only
  cases hsave : a.queue.any TimeoutQueue.processingAutosave && o.saveDraft with
  | false =>
    refine ⟨fun h => ?_, fun h => Bool.noConfusion h⟩
    have hlost := h.draft a d hlive hdraft fun r hr => by
      rw [if_neg Bool.false_ne_true, hevents] at hr
      exact List.not_mem_nil hr
    rw [if_neg Bool.false_ne_true, hevents] at hlost
    cases hlost
  | true =>
    rw [if_pos rfl]
    refine ⟨fun _ => rfl, fun _ => ⟨rfl, rfl, fun a' d' hlive' hdraft' _ => ?_⟩⟩
    have ha : a' = a := Option.some.inj (hlive'.symm.trans hlive)
    have hd : d' = d := Option.some.inj (hdraft'.symm.trans (ha ▸ hdraft))
    rw [hd]
    show s.events ++ [.saved d] = _
    rw [hevents, List.nil_append]

theorem settled_saved {before : View} {callback : AttemptCallback}
    (hdraft : ∀ a d, before.live = some a → a.draft = some d → ∃ r, .schema r ∈ s.events) :
    Settled before { s.saved callback with live := none } := by
  refine ⟨rfl, rfl, fun a d hlive hd hnone => ?_⟩
  obtain ⟨r, hr⟩ := hdraft a d hlive hd
  exact absurd (List.mem_append_left _ hr) (hnone r)

variable {w : TimeoutWorld}

inductive HandleEnd (o : TimeoutOutcomes) (v : ReportingTimeout) (w : TimeoutWorld) : Prop where
  | panics (hrun : handleTimeout o v w = none) (hcrash : Crashes v (w.of v.attemptId).live)
  | goes (w' : TimeoutWorld) (hrun : handleTimeout o v w = some w')
    (hothers : ∀ j, j ≠ v.attemptId → w'.of j = w.of j)
    (hsettled : Settled (w.of v.attemptId) (w'.of v.attemptId)
      ↔ Covered o v (w.of v.attemptId).live)

theorem handle_absent (hlive : (w.of v.attemptId).live = none)
    (hrow : (w.of v.attemptId).schemaProcessing = some v.afterSchemaId.isSome) :
    HandleEnd o v w := by
  have hrun : handleTimeout o v w = some
      (if o.setTimeoutError then { w with db := setTimeoutError v.attemptId w.db } else w) := by
    unfold handleTimeout
    rw [show w.membersCache.get? v.attemptId = none from hlive]
  have hsettled : ∀ after : View, after.live = none →
      (Settled (w.of v.attemptId) after ↔ after.schemaProcessing = some false) :=
    fun after hafter => ⟨fun h => h.flag, fun h =>
      ⟨h, hafter, fun a _ ha => nomatch hlive.symm.trans ha⟩⟩
  cases hwrite : o.setTimeoutError with
  | false =>
    rw [hwrite, if_neg Bool.false_ne_true] at hrun
    refine .goes w hrun (fun _ _ => rfl) ?_
    rw [hsettled _ hlive, hrow, hlive]
    unfold Covered
    rw [hwrite]
    cases v.afterSchemaId with
    | none => exact ⟨fun _ => .inr rfl, fun _ => rfl⟩
    | some id =>
      grind
  | true =>
    rw [hwrite, if_pos rfl] at hrun
    refine .goes _ hrun (fun j hne => ?_) ?_
    · unfold TimeoutWorld.of
      dsimp only
      rw [setTimeoutError_get?_of_ne w.db hne]
    · refine (hsettled _ ?_).trans ?_
      · exact hlive
      rw [hlive]
      refine ⟨fun _ => .inl hwrite, fun _ => ?_⟩
      grind [TimeoutWorld.of, setTimeoutError_flag, Option.isSome, Option.isSome_iff_exists,
        Option.isSome_map, Option.map]

theorem handle_leaves (hlive : (w.of v.attemptId).live = some a)
    (hrow : (w.of v.attemptId).schemaProcessing = some v.afterSchemaId.isSome)
    (hevents : (w.of v.attemptId).events = [])
    (hbranch : (v.afterSchemaId.isNone && !a.isProlongationTimeout) = true) :
    HandleEnd o v w := by
  have hid : a.id = v.attemptId := (Table.get?_eq_some.mp hlive).2
  have hrun : handleTimeout o v w = leavingMember o a w := by
    unfold handleTimeout
    rw [show w.membersCache.get? v.attemptId = some a from hlive]
    dsimp only
    rw [if_pos hbranch]
  rw [← hid] at hlive hrow hevents
  cases hqueue : a.queue with
  | none =>
    have hnone : v.afterSchemaId = none := by
      rw [Bool.and_eq_true] at hbranch
      exact Option.isNone_iff_eq_none.mp hbranch.1
    exact .panics (hrun.trans (leavingMember_crashes hqueue (by rw [hlive]; rfl)))
      ⟨a, hid ▸ hlive, hqueue, hnone⟩
  | some q =>
    obtain ⟨w', hleave, hw'⟩ := leavingMember_becomes (o := o) (w := w) (by rw [hqueue]; rfl)
      (by rw [hlive]; rfl) (by rw [hrow]; rfl)
    refine .goes w' (hrun.trans hleave) (hid ▸ hw'.others) ?_
    rw [← hid, hw'.own, hlive]
    rw [covered_iff hqueue, LiveAttempt.settles, hbranch, if_pos rfl]
    cases hdraft : a.draft with
    | none =>
      refine ⟨fun _ => rfl, fun _ => ⟨?_, rfl, fun a' d ha' hd _ => ?_⟩⟩
      · unfold View.flushed
        rw [hdraft]
        rw [Bool.and_eq_true] at hbranch
        grind [Option.isNone_iff_eq_none]
      · rw [← Option.some.inj (hlive.symm.trans ha'), hdraft] at hd
        cases hd
    | some d =>
      rw [settled_flushed hlive hevents hdraft, hqueue]
      exact Iff.rfl

theorem schema_becomes (r : SchemaResult) (hlive : (w.of a.id).live = some a) :
    Becomes a.id w
      { w.of a.id with
        live := some (a.afterSchema r)
        events := (w.of a.id).events ++ [.schema r] }
      { w with
        membersCache := w.membersCache.replace (a.afterSchema r)
        events := w.events ++ [(a.id, .schema r)] } := by
  refine ⟨?_, fun j hne => ?_⟩
  · unfold TimeoutWorld.of
    dsimp only
    congr 1
    · exact (Table.get?_replace (r := a.afterSchema r) hlive)
    · rw [events_append, if_pos rfl]
      rfl
  · unfold TimeoutWorld.of
    dsimp only
    congr 1
    · exact (Table.get?_replace_of_ne (r := a.afterSchema r) hne)
    · rw [events_append, if_neg (Ne.symm hne), List.append_nil]
      rfl

theorem not_settled_live {before after : View} {b : LiveAttempt} (h : after.live = some b) :
    ¬ Settled before after := fun hs => nomatch hs.left.symm.trans h

theorem settled_if_saved {before s : View} {b : LiveAttempt} {callback : AttemptCallback}
    {stored : Bool} (hlive : s.live = some b)
    (hdraft : ∀ a d, before.live = some a → a.draft = some d → ∃ r, .schema r ∈ s.events) :
    Settled before (if stored then { s.saved callback with live := none } else s)
      ↔ stored = true := by
  grind [not_settled_live, settled_saved]

theorem handle_times_out (hlive : (w.of v.attemptId).live = some a)
    (hrow : (w.of v.attemptId).schemaProcessing = some v.afterSchemaId.isSome)
    (hevents : (w.of v.attemptId).events = [])
    (hbranch : (v.afterSchemaId.isNone && !a.isProlongationTimeout) = false) :
    HandleEnd o v w := by
  have hid : a.id = v.attemptId := (Table.get?_eq_some.mp hlive).2
  have hrun : handleTimeout o v w = timeoutLeavingMember o a w := by
    unfold handleTimeout
    rw [show w.membersCache.get? v.attemptId = some a from hlive]
    dsimp only
    rw [hbranch, if_neg Bool.false_ne_true]
  rw [← hid] at hlive hrow hevents
  unfold timeoutLeavingMember at hrun
  cases hqueue : a.queue with
  | none =>
    rw [hqueue] at hrun
    refine .goes w hrun (fun _ _ => rfl) ?_
    rw [← hid, hlive]
    refine ⟨fun h => absurd h (not_settled_live hlive), fun ⟨q, hq, _⟩ => ?_⟩
    rw [hqueue] at hq
    cases hq
  | some q =>
    have hcovered : Covered o v (some a)
        ↔ (if a.draft.isNone || (afterDistributeSchema o q).isSome then o.saveResult
          else q.processingAutosave && o.saveDraft) = true := by
      rw [covered_iff hqueue, LiveAttempt.settles, hbranch, if_neg Bool.false_ne_true]
    rw [hqueue] at hrun
    dsimp only at hrun
    cases hschema : afterDistributeSchema o q with
    | some r =>
      rw [hschema] at hrun hcovered
      have hkey : (a.afterSchema r).id = a.id := rfl
      have hstart := schema_becomes r hlive
      obtain ⟨w', hsave, hw'⟩ := saveAndLeave_result (o := o)
        (a := a.afterSchema r) r.callback rfl (show a.queue.isSome = true by rw [hqueue]; rfl)
        (by rw [hkey, hstart.own]; rfl)
        (by rw [hkey, hstart.own]; exact congrArg Option.isSome hrow)
      rw [hkey, hstart.own] at hw'
      have hall := hstart.trans hw'
      refine .goes w' (hrun.trans hsave) (hid ▸ hall.others) ?_
      rw [← hid, hall.own, hlive, hcovered, Option.isSome_some, Bool.or_true, if_pos rfl]
      exact settled_if_saved rfl fun _ _ _ _ => ⟨r, List.mem_append_right _ List.mem_cons_self⟩
    | none =>
      rw [hschema] at hrun hcovered
      rw [Option.isSome_none, Bool.or_false] at hcovered
      cases hdraft : a.draft with
      | none =>
        rw [hdraft, Option.isNone_none, if_pos rfl] at hcovered
        obtain ⟨w', hsave, hw'⟩ := saveAndLeave_result (o := o)
          (timeoutCallback (if q.isProlongationTimeoutRetry then "timeout"
            else "canceled_by_timeout")) hdraft (by rw [hqueue]; rfl) (by rw [hlive]; rfl)
          (by rw [hrow]; rfl)
        refine .goes w' (hrun.trans hsave) (hid ▸ hw'.others) ?_
        rw [← hid, hw'.own, hlive, hcovered]
        refine settled_if_saved hlive fun a' d ha' hd => ?_
        rw [← Option.some.inj (hlive.symm.trans ha'), hdraft] at hd
        cases hd
      | some d =>
        rw [hdraft, Option.isNone_some, if_neg Bool.false_ne_true] at hcovered
        obtain ⟨w', hleave, hw'⟩ := leavingMember_becomes (o := o) (w := w) (by rw [hqueue]; rfl)
          (by rw [hlive]; rfl) (by rw [hrow]; rfl)
        have hsave : saveAndLeave o a (timeoutCallback (if q.isProlongationTimeoutRetry
            then "timeout" else "canceled_by_timeout")) w = leavingMember o a w := by
          unfold saveAndLeave
          rw [hdraft, Option.isNone_some, if_neg Bool.false_ne_true]
        refine .goes w' (hrun.trans (hsave.trans hleave)) (hid ▸ hw'.others) ?_
        rw [← hid, hw'.own, settled_flushed hlive hevents hdraft, hlive, hcovered, hqueue]
        exact Iff.rfl

/-- **The body of the loop.** -/
theorem handle_cases (hrow : (w.of v.attemptId).schemaProcessing = some v.afterSchemaId.isSome)
    (hevents : (w.of v.attemptId).events = []) : HandleEnd o v w := by
  cases hlive : (w.of v.attemptId).live with
  | none => exact handle_absent hlive hrow
  | some a =>
    grind [handle_leaves, handle_times_out]

end One

/-! ## The round -/

section Round

variable {o : Int → TimeoutOutcomes} {w : TimeoutWorld}

inductive RoundEnd (o : Int → TimeoutOutcomes) (vs : List ReportingTimeout) (w : TimeoutWorld) :
    Prop where
  | panics (hrun : vs.foldlM (fun w v => handleTimeout (o v.attemptId) v w) w = none)
    (hcrash : ∃ v ∈ vs, Crashes v (w.of v.attemptId).live)
  | goes (w' : TimeoutWorld)
    (hrun : vs.foldlM (fun w v => handleTimeout (o v.attemptId) v w) w = some w')
    (hothers : ∀ j, j ∉ vs.map ReportingTimeout.attemptId → w'.of j = w.of j)
    (hsettled : ∀ v ∈ vs, Settled (w.of v.attemptId) (w'.of v.attemptId)
      ↔ Covered (o v.attemptId) v (w.of v.attemptId).live)

/-- The attempts of a round are different, so that each is handled in the state it had before. -/
theorem round_cases (vs : List ReportingTimeout)
    (hnodup : (vs.map ReportingTimeout.attemptId).Nodup)
    (hrow : ∀ v ∈ vs, (w.of v.attemptId).schemaProcessing = some v.afterSchemaId.isSome)
    (hevents : ∀ v ∈ vs, (w.of v.attemptId).events = []) : RoundEnd o vs w := by
  induction vs generalizing w with
  | nil => exact .goes w rfl (fun _ _ => rfl) fun v hv => nomatch hv
  | cons v rest ih =>
    rw [List.map_cons, List.nodup_cons] at hnodup
    have hne : ∀ u ∈ rest, u.attemptId ≠ v.attemptId := fun u hu heq =>
      hnodup.1 (List.mem_map.mpr ⟨u, hu, heq⟩)
    cases handle_cases (o := o v.attemptId) (hrow v List.mem_cons_self)
      (hevents v List.mem_cons_self) with
    | panics hrun hcrash =>
      refine .panics ?_ ⟨v, List.mem_cons_self, hcrash⟩
      rw [List.foldlM_cons, hrun]
      rfl
    | goes w₁ hrun hothers hsettled =>
      have hkept : ∀ u ∈ rest, w₁.of u.attemptId = w.of u.attemptId := fun u hu =>
        hothers _ (hne u hu)
      have hfold : (v :: rest).foldlM (fun w v => handleTimeout (o v.attemptId) v w) w
          = rest.foldlM (fun w v => handleTimeout (o v.attemptId) v w) w₁ := by
        rw [List.foldlM_cons, hrun]
        rfl
      cases ih hnodup.2
        (fun u hu => by rw [hkept u hu]; exact hrow u (List.mem_cons_of_mem v hu))
        (fun u hu => by rw [hkept u hu]; exact hevents u (List.mem_cons_of_mem v hu)) with
      | panics hrest hcrash =>
        obtain ⟨u, hu, hcrash⟩ := hcrash
        exact .panics (hfold.trans hrest) ⟨u, List.mem_cons_of_mem v hu, hkept u hu ▸ hcrash⟩
      | goes w' hrest hothers' hsettled' =>
        refine .goes w' (hfold.trans hrest) (fun j hj => ?_) fun u hu => ?_
        all_goals grind

end Round

/-- **A round of `routeIdleAgents`.** It panics at an attempt without a queue, or it settles
exactly the attempts that are covered. -/
theorem timeout_settles (now : Int) (nodeId : String) (o : Int → TimeoutOutcomes)
    (w : TimeoutWorld) :
    match routeIdleAgents now nodeId o w with
    | none => ∃ v ∈ reportingTimeouts now nodeId w.db, Crashes v (w.of v.attemptId).live
    | some w' => ∀ v ∈ reportingTimeouts now nodeId w.db,
      (Settled (w.of v.attemptId) (w'.of v.attemptId)
        ↔ Covered (o v.attemptId) v (w.of v.attemptId).live) := by
  have hnodup : ((reportingTimeouts now nodeId w.db).map ReportingTimeout.attemptId).Nodup := by
    rw [reportingTimeouts, List.map_map]
    exact w.db.attempts.nodup.sublist (List.filter_sublist.map Attempt.id)
  have hround : RoundEnd o (reportingTimeouts now nodeId w.db)
      { w with db := getTimeouts now nodeId w.db, events := [] } :=
    round_cases _ hnodup (fun v hv => getTimeouts_flag hv) fun _ _ => rfl
  unfold routeIdleAgents
  cases hround with
  | panics hrun hcrash =>
    rw [hrun]
    exact hcrash
  | goes w' hrun hothers hsettled =>
    rw [hrun]
    -- The views before the round differ from those before the poll in nothing that is asked for.
    refine fun v hv => Iff.trans ⟨fun h => ⟨h.flag, h.left, h.draft⟩, fun h => ?_⟩ (hsettled v hv)
    exact ⟨h.flag, h.left, h.draft⟩

def draftReport : AttemptCallback :=
  { timeoutCallback "success" with description := "called back" }

def oneAttempt (queue : TimeoutQueue) : TimeoutWorld where
  db := { Db.empty with
    attempts := ⟨[{ Attempt.inserted 0 7 with
      nodeId := "node", agentId := some 3, queueId := some 1, state := .processing,
      timeout := some 10 }], by simp⟩
    agents := ⟨[⟨3, false⟩], by simp⟩
    queues := ⟨[⟨1, none, none, none, some 5, false⟩], by simp⟩ }
  membersCache := ⟨[⟨7, some queue, some draftReport, ⟨60, 3, false⟩⟩], by simp⟩
  events := []

/-- The schema fails. Without `autosave` the draft is lost, and the flag stays up. When the schema
answers and its result cannot be saved, the attempt stays in the cache and its draft is gone. -/
theorem timeout_strands :
    let failed : TimeoutOutcomes := ⟨21, none, true, true, true⟩
    let unsaved : TimeoutOutcomes := ⟨21, some ⟨"success", 0, 0, [], 0, ""⟩, false, true, true⟩
    let w := oneAttempt ⟨some 5, false, false, false⟩
    (reportingTimeouts 20 "node" w.db).map (·.attemptId) = [7]
      ∧ (routeIdleAgents 20 "node" (fun _ => failed) w).map (·.of 7) = some ⟨some true, none, []⟩
      ∧ ¬ Settled (w.of 7) ⟨some true, none, []⟩
      ∧ (routeIdleAgents 20 "node" (fun _ => unsaved) w).map (fun w' => ((w'.of 7).schemaProcessing,
          (w'.of 7).live.map LiveAttempt.draft)) = some (some true, some none) := by
  refine ⟨rfl, rfl, fun h => ?_, rfl⟩
  exact Bool.noConfusion (Option.some.inj h.flag)

end CallCenter.Queue.Timeouts
