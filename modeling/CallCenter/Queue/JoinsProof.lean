import CallCenter.Queue.Joins

/-!
# What a failed join leaves behind

Four kinds of failure leave something behind:

* a lookup between the row and the attempt returns its error at once, and the row stays;
* `DistributeAttempt` returns the error of its own `GetQueue` before it has a queue: the row is
  cancelled by the caller, and the attempt stays in the cache and in the wait group;
* `CreateAttemptIfNotExists` panics when its lookup of the agent fails, or the id is cached;
* an error that is undone by a single write leaves the row when that write fails.

`Covered` is the condition that none of them happens. The attempt enters the cache once, at a point
after which only `LeavingMember` changes the cache.
-/

namespace CallCenter.Queue

variable {α β : Type}

namespace Join

/-! ## Running an operation -/

theorem bind_apply (p : Join α) (f : α → Join β) (w : JoinWorld) :
    (p >>= f) w = match p w with
      | (.ok a, w') => f a w'
      | (.error e, w') => (.error e, w') := by
  simp only [bind, ExceptT.bind, ExceptT.mk, StateT.bind]
  rcases p w with ⟨e | a, w'⟩
  · rfl
  · rfl

theorem onError_apply (p : Join α) (undo : Join Unit) (w : JoinWorld) :
    onError p undo w = match p w with
      | (.error (.error e), w') => (undo >>= fun _ => fail e) w'
      | r => r := by
  simp only [onError, tryCatch, tryCatchThe, MonadExceptOf.tryCatch, ExceptT.tryCatch, ExceptT.mk,
    bind, StateT.bind]
  rcases p w with ⟨(e | _) | a, w'⟩
  · rfl
  · rfl
  · rfl

variable {p : Join α} {w' : JoinWorld}

theorem bind_ok {f : α → Join β} {w : JoinWorld} {a : α} (h : p w = (.ok a, w')) :
    (p >>= f) w = f a w' := by
  rw [bind_apply, h]

theorem bind_error {f : α → Join β} {w : JoinWorld} {e : JoinEnd} (h : p w = (.error e, w')) :
    (p >>= f) w = (.error e, w') := by
  rw [bind_apply, h]

variable {undo : Join Unit}

theorem onError_error {w w'' : JoinWorld} {e : AppError} (h : p w = (.error (.error e), w'))
    (hundo : undo w' = (.ok (), w'')) :
    onError p undo w = (.error (.error e), w'') := by
  rw [onError_apply, h]
  exact bind_ok hundo

theorem onError_ok {w : JoinWorld} {a : α} (h : p w = (.ok a, w')) :
    onError p undo w = (.ok a, w') := by
  rw [onError_apply, h]

theorem onError_panic {w : JoinWorld} (h : p w = (.error .panic, w')) :
    onError p undo w = (.error .panic, w') := by
  rw [onError_apply, h]

theorem logged_apply (p : Join Unit) (w : JoinWorld) :
    logged p w = match p w with
      | (.error (.error _), w') => (.ok (), w')
      | r => r := by
  simp only [logged, tryCatch, tryCatchThe, MonadExceptOf.tryCatch, ExceptT.tryCatch, ExceptT.mk,
    bind, StateT.bind]
  rcases p w with ⟨(e | _) | a, w'⟩
  · rfl
  · rfl
  · rfl

/-! ## The attempt in the cache -/

def track (id : Int) (w : JoinWorld) : JoinWorld :=
  { w with membersCache := id :: w.membersCache, waitGroup := w.waitGroup + 1 }

def leaveRow (ok : Bool) (w : JoinWorld) : JoinWorld :=
  if ok then { w with row := some .leaving } else w

section Tracked

variable {o : Outcomes} {m : JoinMember} {w : JoinWorld} {id : Int}

def attemptOf (m : JoinMember) : JoinAttempt where
  id := m.created.id
  memberCallId := m.memberCallId
  barred := m.created.listCommunicationId.isSome
  hasResource := m.created.hasResource
  agent := m.hasAgent
  inviterChannelId := m.created.inviterChannelId
  inviterUserId := m.created.inviterUserId

theorem create_cached (h : m.created.id ∈ w.membersCache) :
    createAttemptIfNotExists o m w = (.error .panic, w) := by
  have hget : (get : Join JoinWorld) w = (.ok w, w) := rfl
  unfold createAttemptIfNotExists
  rw [bind_ok hget, if_pos h]
  rfl

theorem create_agent_missing (h : m.created.id ∉ w.membersCache) (hagent : m.hasAgent = true)
    (hget : o.getAttemptAgent.isSome = true) :
    createAttemptIfNotExists o m w = (.error .panic, track m.created.id w) := by
  have hw : (get : Join JoinWorld) w = (.ok w, w) := rfl
  unfold createAttemptIfNotExists
  rw [bind_ok hw, if_neg h, hagent, hget]
  rfl

theorem create_new (h : m.created.id ∉ w.membersCache)
    (hagent : (m.hasAgent && o.getAttemptAgent.isSome) = false) :
    createAttemptIfNotExists o m w = (.ok (attemptOf m), track m.created.id w) := by
  have hw : (get : Join JoinWorld) w = (.ok w, w) := rfl
  unfold createAttemptIfNotExists
  rw [bind_ok hw, if_neg h, hagent]
  rfl

theorem leavingMember_track (h : id ∉ w.membersCache) :
    leavingMember id (track id w) = (.ok (), w) := by
  have hmem : id ∈ (track id w).membersCache := List.mem_cons_self
  have hcache : (track id w).membersCache.filter (· ≠ id) = w.membersCache := by
    grind [track, List.filter_cons_of_neg, List.filter_eq_self]
  have hgroup : (track id w).waitGroup - 1 = w.waitGroup := by
    unfold track
    dsimp only
    omega
  show ((.ok (), if id ∈ (track id w).membersCache then _ else _) : Except JoinEnd Unit × JoinWorld)
    = (.ok (), w)
  rw [if_pos hmem, hcache, hgroup]
  rfl

theorem leavingMember_absent (h : id ∉ w.membersCache) : leavingMember id w = (.ok (), w) := by
  show ((.ok (), if id ∈ w.membersCache then _ else _) : Except JoinEnd Unit × JoinWorld)
    = (.ok (), w)
  rw [if_neg h]

theorem track_leaveRow (ok : Bool) : leaveRow ok (track id w) = track id (leaveRow ok w) := by
  unfold leaveRow
  split
  · rfl
  · rfl

theorem leaveRow_cache (ok : Bool) : (leaveRow ok w).membersCache = w.membersCache := by
  unfold leaveRow
  split
  · rfl
  · rfl

theorem leave_after_write (ok : Bool) (h : id ∉ w.membersCache) :
    leavingMember id (leaveRow ok (track id w)) = (.ok (), leaveRow ok w) := by
  rw [track_leaveRow]
  exact leavingMember_track ((leaveRow_cache ok).symm ▸ h)

theorem abandonAndLeave_track (h : id ∉ w.membersCache) :
    abandonAndLeave o id (track id w) = (.ok (), leaveRow o.setAttemptAbandoned w) := by
  have habandoned : abandoned o id (track id w) = (.ok (), leaveRow o.setAttemptAbandoned w) :=
    leave_after_write o.setAttemptAbandoned h
  unfold abandonAndLeave
  rw [bind_ok habandoned]
  exact leavingMember_absent ((leaveRow_cache _).symm ▸ h)

end Tracked

/-! ## The queues -/

def accepts (o : Outcomes) (a : JoinAttempt) : QueueType → Bool
  | .offlineCall | .previewCall | .progressiveCall =>
    a.hasResource && o.getResource && (a.agent && o.getTeam.isNone)
  | .ivrCall | .predictCall => a.hasResource && o.getResource
  | .inboundCall => a.memberCallId && o.getCall
  | .inboundChat => a.memberCallId && (a.inviterChannelId && a.inviterUserId)
  | .agentTask => a.agent && o.getTeam.isNone
  | .outboundTask => true
  | .inboundIM => a.memberCallId
  | .outboundCall => false

/-- It follows the pointer to a call that the attempt does not have. -/
def followsNil (a : JoinAttempt) : QueueType → Bool
  | .inboundCall | .inboundIM => !a.memberCallId
  | _ => false

/-! ### Guards -/

/-- A part that lets the operation go on, or ends it with an error, and changes nothing. -/
structure Guards (b : Bool) (p : Join Unit) : Prop where
  pass : b = true → ∀ w, p w = (.ok (), w)
  stop : b = false → ∃ e, ∀ w, p w = (.error (.error e), w)

theorem Guards.bind {b c : Bool} {p q : Join Unit} (hp : Guards b p) (hq : Guards c q) :
    Guards (b && c) (p >>= fun _ => q) := by
  constructor
  · grind [cases Guards, bind_ok]
  · intro h
    cases hb : b with
    | false =>
      obtain ⟨e, he⟩ := hp.stop hb
      exact ⟨e, fun w => bind_error (he w)⟩
    | true =>
      rw [hb, Bool.true_and] at h
      obtain ⟨e, he⟩ := hq.stop h
      exact ⟨e, fun w => (bind_ok (hp.pass hb w)).trans (he w)⟩

theorem guards_ite (b : Bool) (e : AppError) : Guards b (if b then pure () else fail e) := by
  constructor
  · intro h w
    rw [if_pos h]
    rfl
  · intro h
    refine ⟨e, fun w => ?_⟩
    rw [if_neg (by rw [h]; exact Bool.false_ne_true)]
    rfl

theorem guards_check (err : Option AppError) : Guards err.isNone (check err) := by
  cases err with
  | none => exact ⟨fun _ _ => rfl, fun h => Bool.noConfusion h⟩
  | some e => exact ⟨fun h => Bool.noConfusion h, fun _ => ⟨e, fun _ => rfl⟩⟩

/-! ### What a queue comes to -/

section Queues

variable {o : Outcomes} {a : JoinAttempt}

theorem guards_agentTeam : Guards (a.agent && o.getTeam.isNone)
    (do requireAgent a; check o.getTeam) :=
  (guards_ite a.agent _).bind (guards_check o.getTeam)

theorem guards_resource : Guards (a.hasResource && o.getResource) (requireResource o a) :=
  guards_ite _ _

theorem guards_calling : Guards (a.hasResource && o.getResource && (a.agent && o.getTeam.isNone))
    (do requireResource o a; requireAgent a; check o.getTeam) :=
  guards_resource.bind guards_agentTeam

/-- **A queue's `DistributeAttempt`.** It is a guard, unless it follows a nil pointer. -/
theorem queue_guards (type : QueueType) (h : followsNil a type = false) :
    Guards (accepts o a type) (queueDistributeAttempt o a type) := by
  cases type with
  | offlineCall => exact guards_calling
  | previewCall => exact guards_calling
  | progressiveCall => exact guards_calling
  | ivrCall => exact guards_resource
  | predictCall => exact guards_resource
  | inboundCall =>
    have hcall : a.memberCallId = true := by simpa [followsNil] using h
    have hderef : Guards a.memberCallId (derefMemberCallId a) := by
      unfold derefMemberCallId
      rw [hcall]
      exact ⟨fun _ _ => rfl, fun h => Bool.noConfusion h⟩
    exact hderef.bind (guards_ite o.getCall _)
  | inboundChat =>
    exact (guards_ite a.memberCallId _).bind ((guards_ite a.inviterChannelId _).bind
      (guards_ite a.inviterUserId _))
  | agentTask => exact guards_agentTeam
  | outboundTask => exact ⟨fun _ _ => rfl, fun h => Bool.noConfusion h⟩
  | inboundIM =>
    have hcall : a.memberCallId = true := by simpa [followsNil] using h
    unfold accepts queueDistributeAttempt derefMemberCallId
    rw [hcall]
    exact ⟨fun _ _ => rfl, fun h => Bool.noConfusion h⟩
  | outboundCall => exact ⟨fun h => Bool.noConfusion h, fun _ => ⟨errorNotImplement, fun _ => rfl⟩⟩

theorem queue_crashes {type : QueueType} (h : followsNil a type = true) (w : JoinWorld) :
    queueDistributeAttempt o a type w = (.error .panic, w) := by
  have hderef : a.memberCallId = false → derefMemberCallId a w = (.error .panic, w) := by
    intro hcall
    unfold derefMemberCallId
    rw [hcall]
    rfl
  cases type with
  | inboundCall => exact bind_error (hderef (by simpa [followsNil] using h))
  | inboundIM => exact hderef (by simpa [followsNil] using h)
  | _ => exact Bool.noConfusion h

end Queues

/-! ## `DistributeAttempt` -/

def queueOf (o : Outcomes) : Option QueueType :=
  match o.getAttemptQueue with
  | .error _ => none
  | .ok type => if type = .outboundCall then none else some type

/-- The ends of `DistributeAttempt` for an attempt that was just tracked. -/
inductive DistributeEnd (o : Outcomes) (a : JoinAttempt) (w : JoinWorld) : Prop where
  | missing (e : AppError) (hqueue : queueOf o = none)
    (hrun : distributeAttempt o a (track a.id w) = (.error (.error e), track a.id w))
  | barred (type : QueueType) (hqueue : queueOf o = some type) (hbarred : a.barred = true)
    (hrun : distributeAttempt o a (track a.id w) = (.ok (), leaveRow o.setBarred w))
  | crashes (type : QueueType) (hqueue : queueOf o = some type) (hbarred : a.barred = false)
    (hnil : followsNil a type = true)
    (hrun : distributeAttempt o a (track a.id w) = (.error .panic, track a.id w))
  | starts (type : QueueType) (hqueue : queueOf o = some type) (hbarred : a.barred = false)
    (hnil : followsNil a type = false) (haccepts : accepts o a type = true)
    (hrun : distributeAttempt o a (track a.id w) = (.ok (), track a.id w))
  | refused (type : QueueType) (e : AppError) (hqueue : queueOf o = some type)
    (hbarred : a.barred = false) (hnil : followsNil a type = false)
    (haccepts : accepts o a type = false)
    (hrun : distributeAttempt o a (track a.id w)
      = (.error (.error e), leaveRow o.setAttemptAbandoned w))

section Undoing

variable {o : Outcomes} {a : JoinAttempt} {w : JoinWorld} {id group : Int} {e : AppError}

theorem distributeAttempt_missing (hqueue : queueOf o = none) :
    ∃ e, ∀ w, distributeAttempt o a w = (.error (.error e), w) := by
  unfold queueOf at hqueue
  unfold distributeAttempt
  cases htype : o.getAttemptQueue with
  | error e => exact ⟨e, fun _ => rfl⟩
  | ok type =>
    rw [htype] at hqueue
    dsimp only at hqueue ⊢
    by_cases hknown : type = .outboundCall
    · refine ⟨errorNotImplement, fun w => ?_⟩
      rw [if_pos hknown]
      rfl
    · rw [if_neg hknown] at hqueue
      cases hqueue

theorem distributeAttempt_found {type : QueueType} (hqueue : queueOf o = some type) :
    distributeAttempt o a = if a.barred then (do
        modify fun w => if o.setBarred then { w with row := some .leaving } else w
        leavingMember a.id)
      else onError (queueDistributeAttempt o a type) (abandonAndLeave o a.id) := by
  grind [distributeAttempt, queueOf]

theorem distributeAttempt_cases (hnew : a.id ∉ w.membersCache) : DistributeEnd o a w := by
  cases hqueue : queueOf o with
  | none =>
    obtain ⟨e, he⟩ := distributeAttempt_missing (a := a) hqueue
    exact .missing e hqueue (he _)
  | some type =>
    have hrun := distributeAttempt_found (a := a) hqueue
    cases hbarred : a.barred with
    | true =>
      refine .barred type hqueue hbarred ?_
      rw [hrun, hbarred]
      exact leave_after_write o.setBarred hnew
    | false =>
      rw [hbarred] at hrun
      cases hnil : followsNil a type with
      | true =>
        refine .crashes type hqueue hbarred hnil ?_
        rw [hrun]
        exact onError_panic (queue_crashes hnil _)
      | false =>
        have hguards := queue_guards (o := o) type hnil
        cases haccepts : accepts o a type with
        | true =>
          refine .starts type hqueue hbarred hnil haccepts ?_
          rw [hrun]
          exact onError_ok (hguards.pass haccepts _)
        | false =>
          obtain ⟨e, he⟩ := hguards.stop haccepts
          refine .refused type e hqueue hbarred hnil haccepts ?_
          rw [hrun]
          exact onError_error (he _) (abandonAndLeave_track hnew)

/-! ### What an error leaves -/

theorem leaveRow_leaveRow (b c : Bool) : leaveRow b (leaveRow c w) = leaveRow (c || b) w := by
  cases b with
  | false => rw [Bool.or_false]; rfl
  | true => cases c with
    | false => rfl
    | true => rfl

structure Inserted (id group : Int) (w : JoinWorld) : Prop where
  row : w.row = some .inserted
  waitGroup : w.waitGroup = group
  new : id ∉ w.membersCache

theorem leavesNothing_leaveRow (ok : Bool) (hw : Inserted id group w) :
    LeavesNothing id group (.error (.error e), leaveRow ok w) ↔ ok = true := by
  constructor
  · intro h
    cases ok with
    | true => rfl
    | false => exact JoinRow.noConfusion (h .inserted hw.row).1
  · intro hok r hr
    subst hok
    exact ⟨(Option.some.inj hr).symm, hw.new, hw.waitGroup⟩

theorem not_leavesNothing_track (ok : Bool) (hrow : w.row = some .inserted) :
    ¬ LeavesNothing id group (.error (.error e), leaveRow ok (track id w)) := by
  intro h
  have hmem : id ∈ (leaveRow ok (track id w)).membersCache := by
    rw [leaveRow_cache]
    exact List.mem_cons_self
  cases ok with
  | true => exact (h .leaving rfl).2.1 hmem
  | false => exact (h .inserted hrow).2.1 hmem

end Undoing

/-- The queue is found, and the attempt is barred or starts, or the row is written when the queue
refuses it. -/
def distributes (o : Outcomes) (a : JoinAttempt) : Bool :=
  (queueOf o).any fun type => a.barred || (!followsNil a type
    && (accepts o a type || (o.setAttemptAbandoned || o.distributeCallToQueueCancel)))

/-- **`DistributeAttempt` and the cancel after it.** -/
theorem distributeOrCancel_iff {o : Outcomes} {a : JoinAttempt} {w : JoinWorld} {group : Int}
    (hw : Inserted a.id group w) :
    LeavesNothing a.id group (distributeOrCancel o a (track a.id w))
      ↔ distributes o a = true := by
  have hcancel : ∀ w, cancelRow o w = (.ok (), leaveRow o.distributeCallToQueueCancel w) :=
    fun _ => rfl
  unfold distributeOrCancel distributes
  cases distributeAttempt_cases (o := o) hw.new with
  | missing e hqueue hrun =>
    rw [onError_error hrun (hcancel _), hqueue]
    exact ⟨fun h => absurd h (not_leavesNothing_track _ hw.row), fun h => Bool.noConfusion h⟩
  | barred type hqueue hbarred hrun =>
    rw [onError_ok hrun, hqueue, Option.any_some, hbarred]
    exact ⟨fun _ => rfl, fun _ => trivial⟩
  | crashes type hqueue hbarred hnil hrun =>
    rw [onError_panic hrun, hqueue, Option.any_some, hbarred, hnil]
    exact ⟨fun h => h.elim, fun h => Bool.noConfusion h⟩
  | starts type hqueue hbarred hnil haccepts hrun =>
    rw [onError_ok hrun, hqueue, Option.any_some, hbarred, hnil, haccepts]
    exact ⟨fun _ => rfl, fun _ => trivial⟩
  | refused type e hqueue hbarred hnil haccepts hrun =>
    rw [onError_error hrun (hcancel _), hqueue, Option.any_some, hbarred, hnil, haccepts,
      leaveRow_leaveRow]
    exact leavesNothing_leaveRow _ hw

/-- The errors of `DistributeDirectMember` go to the log, so only the nil pointer counts. -/
def survives (o : Outcomes) (a : JoinAttempt) : Bool :=
  (queueOf o).all fun type => a.barred || !followsNil a type

theorem logged_distributeAttempt_iff {o : Outcomes} {a : JoinAttempt} {w : JoinWorld} {group : Int}
    (hnew : a.id ∉ w.membersCache) :
    LeavesNothing a.id group (logged (distributeAttempt o a) (track a.id w)) ↔ survives o a =
      true := by
  unfold survives
  cases distributeAttempt_cases (o := o) hnew with
  | missing e hqueue hrun =>
    rw [logged_apply, hrun, hqueue]
    exact ⟨fun _ => rfl, fun _ => trivial⟩
  | barred type hqueue hbarred hrun =>
    rw [logged_apply, hrun, hqueue, Option.all_some, hbarred]
    exact ⟨fun _ => rfl, fun _ => trivial⟩
  | crashes type hqueue hbarred hnil hrun =>
    rw [logged_apply, hrun, hqueue, Option.all_some, hbarred, hnil]
    exact ⟨fun h => h.elim, fun h => Bool.noConfusion h⟩
  | starts type hqueue hbarred hnil _ hrun =>
    rw [logged_apply, hrun, hqueue, Option.all_some, hbarred, hnil]
    exact ⟨fun _ => rfl, fun _ => trivial⟩
  | refused type e hqueue hbarred hnil _ hrun =>
    rw [logged_apply, hrun, hqueue, Option.all_some, hbarred, hnil]
    exact ⟨fun _ => rfl, fun _ => trivial⟩

/-! ## The way to the queue -/

section Way

variable {o : Outcomes} {w : JoinWorld} {id group : Int}

variable {f : Unit → Join Unit}

theorem lookup_then {b : Bool} {p : Join Unit} (hp : Guards b p) (hrow : w.row = some .inserted) :
    LeavesNothing id group ((p >>= f) w) ↔ b = true ∧ LeavesNothing id group (f () w) := by
  cases hb : b with
  | true =>
    rw [bind_ok (hp.pass hb w)]
    exact ⟨fun h => ⟨rfl, h⟩, fun h => h.2⟩
  | false =>
    obtain ⟨e, he⟩ := hp.stop hb
    rw [bind_error (he w)]
    exact ⟨fun h => JoinRow.noConfusion (h .inserted hrow).1, fun h => Bool.noConfusion h.1⟩

theorem connect_then {err : Option AppError} (hw : Inserted id group w) :
    LeavesNothing id group ((onError (check err) (cancelRow o) >>= f) w)
      ↔ if err = none then LeavesNothing id group (f () w)
        else o.distributeCallToQueueCancel = true := by
  cases err with
  | none => rw [bind_ok (onError_ok ((guards_check none).pass rfl w)), if_pos rfl]
  | some e =>
    have hcancel : cancelRow o w = (.ok (), leaveRow o.distributeCallToQueueCancel w) := rfl
    have hfail : check (some e) w = (.error (.error e), w) := rfl
    rw [bind_error (onError_error hfail hcancel), if_neg (fun h => nomatch h)]
    exact leavesNothing_leaveRow _ hw

theorem create_then {m : JoinMember} {f : JoinAttempt → Join Unit}
    (hnew : m.created.id ∉ w.membersCache) :
    LeavesNothing id group ((createAttemptIfNotExists o m >>= f) w)
      ↔ (m.hasAgent = true → o.getAttemptAgent = none)
        ∧ LeavesNothing id group (f (attemptOf m) (track m.created.id w)) := by
  by_cases hagent : m.hasAgent = true ∧ o.getAttemptAgent ≠ none
  · have hsome : o.getAttemptAgent.isSome = true := Option.isSome_iff_ne_none.mpr hagent.2
    rw [bind_error (create_agent_missing hnew hagent.1 hsome)]
    exact ⟨fun h => h.elim, fun h => absurd (h.1 hagent.1) hagent.2⟩
  · have hloads : m.hasAgent = true → o.getAttemptAgent = none := by
      intro h
      by_contra hne
      exact hagent ⟨h, hne⟩
    have hnone : (m.hasAgent && o.getAttemptAgent.isSome) = false := by
      cases hm : m.hasAgent with
      | false => rfl
      | true => rw [hloads hm]; rfl
    rw [bind_ok (create_new hnew hnone)]
    exact ⟨fun h => ⟨hloads, h⟩, fun h => h.2⟩

/-- The queues of the operations themselves: an error is abandoned and not cancelled. -/
theorem abandoned_iff {b : Bool} {p : Join Unit} (hp : Guards b p) (hw : Inserted id group w) :
    LeavesNothing id group (onError p (abandonAndLeave o id) (track id w))
      ↔ b = true ∨ o.setAttemptAbandoned = true := by
  cases hb : b with
  | true =>
    rw [onError_ok (hp.pass hb _)]
    exact ⟨fun _ => .inl rfl, fun _ => trivial⟩
  | false =>
    obtain ⟨e, he⟩ := hp.stop hb
    rw [onError_error (he _) (abandonAndLeave_track hw.new), leavesNothing_leaveRow _ hw]
    exact ⟨.inr, fun h => h.resolve_left Bool.false_ne_true⟩

theorem start_iff {m : JoinMember} (hw : Inserted m.created.id group w) :
    LeavesNothing m.created.id group
        ((createAttemptIfNotExists o m >>= fun a => distributeOrCancel o a) w)
      ↔ (m.hasAgent = true → o.getAttemptAgent = none) ∧ distributes o (attemptOf m) = true := by
  rw [create_then hw.new]
  exact and_congr_right fun _ => distributeOrCancel_iff (a := attemptOf m) hw

theorem start_agentless_iff {m : JoinMember} (hagent : m.hasAgent = false)
    (hw : Inserted m.created.id group w) :
    LeavesNothing m.created.id group
        ((createAttemptIfNotExists o m >>= fun a => distributeOrCancel o a) w)
      ↔ distributes o (attemptOf m) = true := by
  rw [start_iff hw, hagent]
  exact and_iff_right fun h => Bool.noConfusion h

theorem agent_iff {b : Bool} {p : Join Unit} {m : JoinMember} (hp : Guards b p)
    (hagent : m.hasAgent = true) (hw : Inserted m.created.id group w) :
    LeavesNothing m.created.id group
        ((createAttemptIfNotExists o m >>= fun a => onError p (abandonAndLeave o a.id)) w)
      ↔ o.getAttemptAgent = none ∧ (b = true ∨ o.setAttemptAbandoned = true) := by
  rw [create_then hw.new, hagent]
  exact and_congr ⟨fun h => h rfl, fun h _ => h⟩ (abandoned_iff hp hw)

theorem connect_cached {err : Option AppError} (hrow : w.row = some .inserted)
    (hmem : id ∈ w.membersCache)
    (h : LeavesNothing id group ((onError (check err) (cancelRow o) >>= f) w)) :
    LeavesNothing id group (f () w) := by
  cases err with
  | none =>
    rw [bind_ok (onError_ok ((guards_check none).pass rfl w))] at h
    exact h
  | some e =>
    have hcancel : cancelRow o w = (.ok (), leaveRow o.distributeCallToQueueCancel w) := rfl
    have hfail : check (some e) w = (.error (.error e), w) := rfl
    rw [bind_error (onError_error hfail hcancel)] at h
    have hmem' : id ∈ (leaveRow o.distributeCallToQueueCancel w).membersCache := by
      rw [leaveRow_cache]
      exact hmem
    cases hok : o.distributeCallToQueueCancel with
    | true =>
      rw [hok] at h
      exact absurd hmem (h .leaving rfl).2.1
    | false =>
      rw [hok] at h
      exact absurd hmem (h .inserted hrow).2.1

theorem create_cached_then {m : JoinMember} {f : JoinAttempt → Join Unit}
    (hmem : m.created.id ∈ w.membersCache) :
    ¬ LeavesNothing id group ((createAttemptIfNotExists o m >>= f) w) := by
  rw [bind_error (create_cached hmem)]
  exact fun h => h

end Way

end Join

/-! ## The condition -/

open Join

/-- What must hold of the row that was inserted. A row that the operation never hears of stays. -/
def AfterRow (o : Outcomes) (membersCache : List Int) (f : Created → Prop) : Prop :=
  match o.create with
  | .failed _ => True
  | .lost _ => False
  | .created c => c.id ∉ membersCache ∧ f c

def Covered (o : Outcomes) (membersCache : List Int) (source : IMTransfer) : JoinRequest → Prop
  | .call => AfterRow o membersCache fun c =>
    o.getQueue = none ∧ if o.inboundCallQueue = none then
      distributes o (attemptOf ⟨{ c with listCommunicationId := none }, true, false⟩) = true
    else o.distributeCallToQueueCancel = true
  | .callToAgent => AfterRow o membersCache fun _ =>
    o.getAgent = none ∧ if o.connectCall = none then
      o.getAttemptAgent = none ∧ (o.getCall = true ∨ o.setAttemptAbandoned = true)
    else o.distributeCallToQueueCancel = true
  | .outboundCall => AfterRow o membersCache fun _ =>
    o.getAgent = none ∧ if o.connectCall = none then
      o.getAttemptAgent = none
        ∧ ((o.getCall && o.getTeam.isNone) = true ∨ o.setAttemptAbandoned = true)
    else o.distributeCallToQueueCancel = true
  | .taskToAgent => AfterRow o membersCache fun _ =>
    o.getAgent = none ∧ o.getAttemptAgent = none
      ∧ (o.getTeam.isNone = true ∨ o.setAttemptAbandoned = true)
  | .chat => AfterRow o membersCache fun c => distributes o (attemptOf ⟨c, true, false⟩) = true
  | .im rejoins => rejoins = false →
    AfterRow o membersCache fun c => distributes o (attemptOf ⟨c, true, false⟩) = true
  | .directMember => AfterRow o membersCache fun c =>
    let hasAgent := c.agentId.isSome && c.agentUpdatedAt.isSome
    (hasAgent = true → o.getAttemptAgent = none)
      ∧ survives o (attemptOf ⟨c, false, hasAgent⟩) = true
  | .transferIM r => r.invalid = none → source.reserveIMTransfer ≠ none →
    if r.agentId = 0 then o.attemptWeight = none →
      AfterRow o membersCache fun c => distributes o (attemptOf ⟨c, true, false⟩) = true
    else AfterRow o membersCache fun c =>
      (c.agentUpdatedAt.isSome = true → o.getAttemptAgent = none)
        ∧ distributes o (attemptOf ⟨c, true, c.agentUpdatedAt.isSome⟩) = true

/-! ## The operations -/

section Operations

variable {o : Outcomes} {membersCache : List Int} {group : Int} {source : IMTransfer}

def insertedWorld (membersCache : List Int) (group : Int) (source : IMTransfer) : JoinWorld :=
  ⟨some .inserted, membersCache, group, source⟩

theorem row_then {f : Created → Join Unit} {g : Created → Prop}
    (hf : ∀ c, c.id ∉ membersCache →
      (LeavesNothing c.id group (f c (insertedWorld membersCache group source)) ↔ g c))
    (hcached : ∀ c, c.id ∈ membersCache →
      ¬ LeavesNothing c.id group (f c (insertedWorld membersCache group source))) :
    LeavesNothing o.newId group ((createRow o >>= f) (.start membersCache group source))
      ↔ AfterRow o membersCache g := by
  unfold AfterRow Outcomes.newId
  cases hcreate : o.create with
  | failed e =>
    have hrun : createRow o (.start membersCache group source)
        = (.error (.error e), .start membersCache group source) := by
      unfold createRow
      rw [hcreate]
      rfl
    rw [bind_error hrun]
    exact ⟨fun _ => trivial, fun _ _ hr => nomatch hr⟩
  | lost e =>
    have hrun : createRow o (.start membersCache group source)
        = (.error (.error e), insertedWorld membersCache group source) := by
      unfold createRow
      rw [hcreate]
      rfl
    rw [bind_error hrun]
    exact ⟨fun h => JoinRow.noConfusion (h .inserted rfl).1, fun h => h.elim⟩
  | created c =>
    have hrun : createRow o (.start membersCache group source)
        = (.ok c, insertedWorld membersCache group source) := by
      unfold createRow
      rw [hcreate]
      rfl
    grind [bind_ok]

theorem check_then {err : Option AppError} {f : Unit → Join Unit} {id : Int} {w : JoinWorld}
    (hrow : w.row = some .inserted) :
    LeavesNothing id group ((check err >>= f) w) ↔ err = none ∧ LeavesNothing id group (f () w) :=
      by
  rw [lookup_then (guards_check err) hrow, Option.isNone_iff_eq_none]

theorem inserted_new (group : Int) (source : IMTransfer) {c : Created}
    (hnew : c.id ∉ membersCache) :
    Inserted c.id group (insertedWorld membersCache group source) := ⟨rfl, rfl, hnew⟩

theorem call_iff : LeavesNothing o.newId group (distributeCall o (.start membersCache group source))
    ↔ Covered o membersCache source .call := by
  refine row_then (fun c hnew => ?_) fun c hmem h => ?_
  · have hw := inserted_new group source hnew
    rw [check_then hw.row, connect_then hw]
    refine and_congr_right fun _ => ?_
    by_cases hcall : o.inboundCallQueue = none
    · rw [if_pos hcall, if_pos hcall]
      exact start_agentless_iff rfl hw
    · rw [if_neg hcall, if_neg hcall]
  · rw [check_then rfl] at h
    exact create_cached_then hmem (connect_cached rfl hmem h.2)

theorem connected_iff {b : Bool} {p : Join Unit} (hp : Guards b p) :
    LeavesNothing o.newId group ((createRow o >>= fun res => check o.getAgent >>= fun _ =>
        onError (check o.connectCall) (cancelRow o) >>= fun _ =>
        createAttemptIfNotExists o ⟨res, true, true⟩ >>= fun a =>
        onError p (abandonAndLeave o a.id)) (.start membersCache group source))
      ↔ AfterRow o membersCache fun _ => o.getAgent = none ∧ if o.connectCall = none then
          o.getAttemptAgent = none ∧ (b = true ∨ o.setAttemptAbandoned = true)
        else o.distributeCallToQueueCancel = true := by
  refine row_then (fun c hnew => ?_) fun c hmem h => ?_
  · have hw := inserted_new group source hnew
    rw [check_then hw.row, connect_then hw]
    refine and_congr_right fun _ => ?_
    by_cases hcall : o.connectCall = none
    · rw [if_pos hcall, if_pos hcall]
      exact agent_iff hp rfl hw
    · rw [if_neg hcall, if_neg hcall]
  · rw [check_then rfl] at h
    exact create_cached_then hmem (connect_cached rfl hmem h.2)

theorem callToAgent_iff :
    LeavesNothing o.newId group (distributeCallToAgent o (.start membersCache group source))
      ↔ Covered o membersCache source .callToAgent :=
  connected_iff (guards_ite o.getCall _)

theorem outboundCall_iff :
    LeavesNothing o.newId group (Join.outboundCall o (.start membersCache group source))
      ↔ Covered o membersCache source .outboundCall :=
  connected_iff ((guards_ite o.getCall _).bind (guards_check o.getTeam))

theorem taskToAgent_iff :
    LeavesNothing o.newId group (distributeTaskToAgent o (.start membersCache group source))
      ↔ Covered o membersCache source .taskToAgent := by
  refine row_then (fun c hnew => ?_) fun c hmem h => ?_
  · have hw := inserted_new group source hnew
    rw [check_then hw.row]
    exact and_congr_right fun _ => agent_iff (guards_check o.getTeam) rfl hw
  · rw [check_then rfl] at h
    exact create_cached_then hmem h.2

theorem joined_iff :
    LeavesNothing o.newId group ((createRow o >>= fun res =>
        createAttemptIfNotExists o ⟨res, true, false⟩ >>= fun a => distributeOrCancel o a)
        (.start membersCache group source))
      ↔ AfterRow o membersCache fun c => distributes o (attemptOf ⟨c, true, false⟩) = true := by
  refine row_then (fun c hnew => ?_) fun c hmem => create_cached_then hmem
  exact start_agentless_iff rfl (inserted_new group source hnew)

theorem im_iff (rejoins : Bool) :
    LeavesNothing o.newId group
        (distributeIMToQueue o rejoins (.start membersCache group source))
      ↔ Covered o membersCache source (.im rejoins) := by
  cases rejoins with
  | true => exact ⟨fun _ h => Bool.noConfusion h, fun _ => trivial⟩
  | false => exact joined_iff.trans ⟨fun h _ => h, fun h => h rfl⟩

theorem directMember_iff :
    LeavesNothing o.newId group (distributeDirectMember o (.start membersCache group source))
      ↔ Covered o membersCache source .directMember := by
  refine row_then (fun c hnew => ?_) fun c hmem => create_cached_then hmem
  rw [create_then hnew]
  exact and_congr_right fun _ => logged_distributeAttempt_iff
    (a := attemptOf ⟨c, false, c.agentId.isSome && c.agentUpdatedAt.isSome⟩) hnew

/-! ### The transfer

`TransferIM` reserves the source before it inserts the row and releases it when the insertion or
what follows it fails. Neither touches what `LeavesNothing` looks at. -/

theorem source_iff {p : Join Unit} {f g : IMTransfer → IMTransfer} {id : Int} {w : JoinWorld} :
    LeavesNothing id group ((onError p (modify fun w => { w with source := f w.source })
        >>= fun _ => modify fun w => { w with source := g w.source }) w)
      ↔ LeavesNothing id group (p w) := by
  rw [bind_apply, onError_apply]
  rcases p w with ⟨(e | _) | _, w'⟩
  · exact Iff.rfl
  · exact Iff.rfl
  · exact Iff.rfl

theorem toAgent_iff {agentId : Int} (h : agentId ≠ 0) :
    LeavesNothing o.newId group (distributeIMTransfer o agentId (.start membersCache group source))
      ↔ AfterRow o membersCache fun c => (c.agentUpdatedAt.isSome = true → o.getAttemptAgent = none)
        ∧ distributes o (attemptOf ⟨c, true, c.agentUpdatedAt.isSome⟩) = true := by
  unfold distributeIMTransfer
  rw [if_pos h]
  refine row_then (fun c hnew => ?_) fun c hmem => create_cached_then hmem
  exact start_iff (m := ⟨c, true, c.agentUpdatedAt.isSome⟩) (inserted_new group source hnew)

theorem toQueue_iff :
    LeavesNothing o.newId group (distributeIMTransfer o 0 (.start membersCache group source))
      ↔ (o.attemptWeight = none → AfterRow o membersCache fun c =>
          distributes o (attemptOf ⟨c, true, false⟩) = true) := by
  unfold distributeIMTransfer
  rw [if_neg (fun h => h rfl)]
  cases o.attemptWeight with
  | some e => exact ⟨fun _ h => (nomatch h), fun _ _ hr => nomatch hr⟩
  | none => exact joined_iff.trans ⟨fun h _ => h, fun h => h rfl⟩

theorem transferIM_iff (r : TransferRequest) :
    LeavesNothing o.newId group
        (Join.transferIM o r o.newId (.start membersCache group source))
      ↔ Covered o membersCache source (.transferIM r) := by
  unfold Join.transferIM
  show _ ↔ (r.invalid = none → source.reserveIMTransfer ≠ none → if r.agentId = 0 then _ else _)
  cases hvalid : r.invalid with
  | some e => exact ⟨fun _ h => (nomatch h), fun _ _ hr => nomatch hr⟩
  | none =>
    have hget : (get : Join JoinWorld) (.start membersCache group source)
        = (.ok (.start membersCache group source), .start membersCache group source) := rfl
    cases hsource : source.reserveIMTransfer with
    | none =>
      have hrun : reserveTransfer (.start membersCache group source)
          = (.error (.error ⟨"qm.transfer_im.valid.pending", 409⟩),
            .start membersCache group source) := by
        unfold reserveTransfer
        rw [bind_ok hget]
        simp only [JoinWorld.start, hsource]
        rfl
      have hcheck : check none (.start membersCache group source)
          = (.ok (), .start membersCache group source) := rfl
      rw [bind_ok hcheck, bind_error hrun]
      exact ⟨fun _ _ h => absurd rfl h, fun _ _ hr => nomatch hr⟩
    | some reserved =>
      have hrun : reserveTransfer (.start membersCache group source)
          = (.ok (), .start membersCache group reserved) := by
        unfold reserveTransfer
        rw [bind_ok hget]
        simp only [JoinWorld.start, hsource]
        rfl
      have hcheck : check none (.start membersCache group source)
          = (.ok (), .start membersCache group source) := rfl
      rw [bind_ok hcheck, bind_ok hrun]
      refine (source_iff (f := (IMTransfer.releaseIMTransfer · 0))
        (g := (IMTransfer.setIMTransferTo · o.newId))).trans ?_
      have hdrop : ∀ p : Prop, ((none : Option AppError) = none →
          some reserved ≠ none → p) ↔ p := by
        simp
      rw [hdrop]
      by_cases hagent : r.agentId = 0
      · rw [if_pos hagent, hagent]
        exact toQueue_iff
      · rw [if_neg hagent]
        exact toAgent_iff hagent

end Operations

/-- **A failed join leaves nothing behind exactly when every failure is one that is undone.** -/
theorem failed_join_leaves_nothing (o : Outcomes) (membersCache : List Int) (group : Int)
    (source : IMTransfer) (j : JoinRequest) :
    LeavesNothing o.newId group (j.run o (.start membersCache group source))
      ↔ Covered o membersCache source j := by
  cases j with
  | call => exact call_iff
  | callToAgent => exact callToAgent_iff
  | outboundCall => exact outboundCall_iff
  | taskToAgent => exact taskToAgent_iff
  | chat => exact joined_iff
  | im rejoins => exact im_iff rejoins
  | directMember => exact directMember_iff
  | transferIM r => exact transferIM_iff r

def allWell : Outcomes where
  create := .created ⟨7, none, none, none, false, true, true⟩
  getQueue := none
  inboundCallQueue := none
  connectCall := none
  getAgent := none
  getAttemptAgent := none
  getAttemptQueue := .ok .inboundCall
  getCall := true
  getTeam := none
  getResource := true
  attemptWeight := none
  distributeCallToQueueCancel := true
  setAttemptAbandoned := true
  setBarred := true

def noTransfer : IMTransfer := ⟨false, 0, false⟩

def storeError : AppError := ⟨"store.sql.app_error", 500⟩

/-- The three ways in which one failed lookup is enough: the row stays as it was inserted; the row
is cancelled and the attempt stays in the cache and in the wait group; the process panics. -/
theorem failed_join_left_behind :
    (JoinRequest.call.run { allWell with getQueue := some storeError } (.start [] 0 noTransfer)
        = (.error (.error storeError), ⟨some .inserted, [], 0, noTransfer⟩)
      ∧ ¬ LeavesNothing 7 0 (.error (.error storeError), ⟨some .inserted, [], 0, noTransfer⟩))
    ∧ (JoinRequest.call.run { allWell with getAttemptQueue := .error storeError }
          (.start [] 0 noTransfer)
        = (.error (.error storeError), ⟨some .leaving, [7], 1, noTransfer⟩)
      ∧ ¬ LeavesNothing 7 0 (.error (.error storeError), ⟨some .leaving, [7], 1, noTransfer⟩))
    ∧ (JoinRequest.callToAgent.run { allWell with getAttemptAgent := some storeError }
          (.start [] 0 noTransfer)
        = (.error .panic, ⟨some .inserted, [7], 1, noTransfer⟩)
      ∧ ¬ LeavesNothing 7 0 (.error .panic, ⟨some .inserted, [7], 1, noTransfer⟩)) := by
  refine ⟨⟨rfl, fun h => ?_⟩, ⟨rfl, fun h => ?_⟩, rfl, fun h => h⟩
  · exact JoinRow.noConfusion (h .inserted rfl).1
  · exact (h .leaving rfl).2.1 List.mem_cons_self

end CallCenter.Queue
