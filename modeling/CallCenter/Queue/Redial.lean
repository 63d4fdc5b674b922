import CallCenter.Queue.WaitQueues

/-!
# Dialling a member again

`runPark` of a predictive queue dials the member, and when the call is over the after-schema may
ask for another try: the database looks for a resource that has not been tried, the manager loads
it, and the member is dialled again over it, `maxRetryCount` times in all. Here is the data that
goes round with the goroutine: the counter, the resources tried, the resource of the attempt, and
its cancellation, which can come at any time.

Two things are not looked at. The resource that the database has found may fail to load, and
`FlipAttemptResource` asks a missing resource for its display number. And the cancellation is not
read before a new call is made.
-/

namespace CallCenter.Queue.Redial

open Lib

open PredictCallQueue (maxRetryCount)

def maxRetrySleep : Int := 60 * 1000

/-! ## The next resource -/

structure FlipRow where
  queueId : Option Int
  typeId : Option Int
  resourceId : Option Int

/-- A row of its join, before the `where`. -/
structure Candidate where
  id : Int
  updatedAt : Option Int
  queueId : Int
  communicationId : Option Int
  matchesPatterns : Bool
  enabled : Bool
  limit : Option Int
  used : Int
  priority : Option Int
  deriving DecidableEq

namespace Candidate

def allowCall (c : Candidate) : Option Bool := c.limit.map fun limit => limit - c.used > 0

/-- `not id = any(ids)`: a `NULL` among the ids makes it unknown. -/
def notAny (id : Int) (ids : List (Option Int)) : Bool := ids.all fun x => x.any fun n => n ≠ id

def eligible (c : Candidate) (row : FlipRow) (skip : List Int) : Bool :=
  row.queueId = some c.queueId && c.communicationId.any (fun n => row.typeId = some n)
    && c.matchesPatterns && c.enabled && notAny c.id (row.resourceId :: skip.map some)

def allowRank (c : Candidate) : Nat :=
  match c.allowCall with
  | some true => 2
  | some false => 1
  | none => 0

/-- `order by allow_call desc nulls last, priority desc`. -/
def before (c c' : Candidate) : Bool :=
  c'.allowRank < c.allowRank || (c.allowRank = c'.allowRank && match c.priority, c'.priority with
    | none, some _ => true
    | some p, some q => q < p
    | _, none => false)

end Candidate

/-- The row that `limit 1` leaves, of several equal ones any. -/
def isNext (rows : List Candidate) (row : FlipRow) (skip : List Int) : Option Candidate → Bool
  | none => rows.all fun c => !c.eligible row skip
  | some c => rows.contains c && c.eligible row skip
      && rows.all fun c' => !(c'.eligible row skip && c'.before c)

theorem not_mem_of_isNext {rows : List Candidate} {row : FlipRow} {skip : List Int} {c : Candidate}
    (h : isNext rows row skip (some c) = true) : c.id ∉ skip := by
  intro hmem
  simp only [isNext, Candidate.eligible, Candidate.notAny, Bool.and_eq_true, List.all_cons,
    List.all_eq_true] at h
  grind [List.mem_map_of_mem]

/-! ## The goroutine -/

structure DialResource where
  id : Int
  limited : Bool

inductive ParkPc where
  | schema
  | retry
  | take
  | newCall
  | invite
  | calling
  | last
  /-- In `FlipResource`; the sleep is the one that the schema has asked for. -/
  | flip (retrySleep : Int)
  | load (retrySleep : Int) (c : Candidate)
  | sleep
  | leaving
  | ended
  | handedOver
  | panicked
  deriving DecidableEq

/-- A member call, with what was known when it was made. -/
structure Dial where
  resource : Option Int
  tried : List Int
  canceled : Bool
  allowCall : Bool
  deriving DecidableEq

structure ParkWorld where
  pc : ParkPc
  canceled : Bool
  retryCounter : Nat
  resourceIds : List Int
  allowCall : Bool
  lastExec : Bool
  resource : Option DialResource
  row : FlipRow
  dials : List Dial
  leavings : Nat

def parkWorld (r : DialResource) (row : FlipRow) : ParkWorld where
  pc := .schema
  canceled := false
  retryCounter := 1
  resourceIds := []
  allowCall := true
  lastExec := false
  resource := some r
  row := row
  dials := []
  leavings := 0

inductive ParkSignal where
  | cancel
  /-- `accept` or `detect_amd`, and whether the answering machine detection goes on. -/
  | accept (hasProcessAmd : Bool)
  | state
  | hangup

structure RetryResult where
  success : Bool
  retry : Bool
  retrySleep : Int

inductive FlipAnswer where
  | error
  | answer (rows : List Candidate) (next : Option Candidate)

inductive ParkLabel where
  | cancel
  | doDistributeSchema (confirm : Bool)
  | request
  | take (ok : Bool)
  | newCall (ok : Bool)
  | invite
  | signal (s : ParkSignal)
  | afterDistributeSchema (res : Option RetryResult)
  | flipResource (a : FlipAnswer)
  /-- `resourceManager.Get`: an error, or the resource, with or without a limiter. -/
  | load (limited : Option Bool)
  | wake
  | leavingMember

namespace ParkWorld

def useResource (w : ParkWorld) (f : DialResource → Option ParkWorld) : Option ParkWorld :=
  match w.resource with
  | some r => f r
  | none => some { w with pc := .panicked }

/-- `Take` fails only by the cancellation, and only if there is a limiter. -/
def take (w : ParkWorld) (ok : Bool) : Option ParkWorld :=
  w.useResource fun r =>
    -- without a limiter the cancellation is not read, and with one a token may be quicker
    if ok then some { w with pc := .newCall }
    else if r.limited && w.canceled then some { w with pc := .leaving }
    else none

def dial (w : ParkWorld) : ParkWorld :=
  { w with
    pc := .calling
    dials := w.dials ++
      [⟨w.resource.map DialResource.id, w.resourceIds, w.canceled, w.allowCall⟩] }

def signal (w : ParkWorld) : ParkSignal → Option ParkWorld
  -- the call is hung up, and the loop goes on
  | .cancel => if w.canceled then some w else none
  | .accept true | .state => some w
  | .accept false => w.useResource fun _ => some { w with pc := .handedOver }
  | .hangup => w.useResource fun _ => some { w with pc := .last }

def afterDistributeSchema (w : ParkWorld) : Option RetryResult → Option ParkWorld
  | none => some { w with pc := .leaving }
  | some res =>
    if !res.success && res.retry && decide (w.retryCounter < maxRetryCount) then
      w.useResource fun r =>
        -- the resource is on the list before the next one is looked for
        some { w with resourceIds := w.resourceIds ++ [r.id], pc := .flip res.retrySleep }
    else some { w with pc := .leaving }

def noResource (w : ParkWorld) : ParkWorld :=
  { w with
    retryCounter := w.retryCounter + 1
    lastExec := true
    pc := if w.lastExec then .leaving else .last }

def flipResource (w : ParkWorld) (retrySleep : Int) : FlipAnswer → Option ParkWorld
  | .error => some w.noResource
  | .answer rows next =>
    if isNext rows w.row w.resourceIds next then
      match next with
      | none => some w.noResource
      | some c =>
        some { w with row := { w.row with resourceId := some c.id }, pc := .load retrySleep c }
    else none

/-- `GetAttemptResource` and the display number of the resource; then back in `runPark`. -/
def load (w : ParkWorld) (retrySleep : Int) (c : Candidate) (limited : Option Bool) : ParkWorld :=
  match c.updatedAt, limited with
  | some _, some limited =>
    { w with
      resource := some ⟨c.id, limited⟩
      retryCounter := w.retryCounter + 1
      allowCall := c.allowCall.getD false
      pc := if c.allowCall.getD false ∧ 0 < retrySleep ∧ retrySleep < maxRetrySleep then .sleep
        else .retry }
  -- `attempt.resource.GetDisplay()` of a missing resource
  | _, _ => { w with resource := none, pc := .panicked }

end ParkWorld

def parkStep (w : ParkWorld) : ParkLabel → Option ParkWorld
  | .cancel => some { w with canceled := true }
  | .doDistributeSchema confirm =>
    if w.pc = .schema then some { w with pc := if confirm then .retry else .leaving } else none
  | .request =>
    if w.pc = .retry then w.useResource fun _ => some { w with pc := .take } else none
  | .take ok => if w.pc = .take then w.take ok else none
  | .newCall ok =>
    if w.pc = .newCall then some { w with pc := if ok then .invite else .leaving } else none
  | .invite => if w.pc = .invite then some w.dial else none
  | .signal s => if w.pc = .calling then w.signal s else none
  | .afterDistributeSchema res => if w.pc = .last then w.afterDistributeSchema res else none
  | .flipResource a =>
    match w.pc with
    | .flip retrySleep => w.flipResource retrySleep a
    | _ => none
  | .load limited =>
    match w.pc with
    | .load retrySleep c => some (w.load retrySleep c limited)
    | _ => none
  | .wake => if w.pc = .sleep then some { w with pc := .retry } else none
  | .leavingMember =>
    if w.pc = .leaving then some { w with pc := .ended, leavings := w.leavings + 1 } else none

/-! ## What a step does -/

/-- A dial is still to come in this round. -/
def ParkPc.dials : ParkPc → Bool
  | .schema | .retry | .take | .newCall | .invite | .sleep => true
  | _ => false

def ParkPc.rank : ParkPc → Nat
  | .schema => 12
  | .sleep => 11
  | .retry => 10
  | .take => 9
  | .newCall => 8
  | .invite => 7
  | .calling => 6
  | .last => 5
  | .flip _ => 4
  | .load _ _ => 3
  | .leaving => 1
  | .ended | .handedOver | .panicked => 0

/-- The labels after which the goroutine is where it was: the cancellation, and what the loop over
the call waits through. -/
def ParkLabel.waits : ParkLabel → Bool
  | .cancel | .signal .cancel | .signal (.accept true) | .signal .state => true
  | _ => false

/-- What there is left to do. -/
def ParkWorld.left (w : ParkWorld) : Nat := (maxRetryCount - w.retryCounter) * 16 + w.pc.rank

def ParkPc.plain : ParkPc → Bool
  | .flip _ | .load _ _ | .ended | .panicked => false
  | _ => true

/-- What a step with a label does, as long as the attempt has its resource. -/
inductive ParkEffect (w : ParkWorld) : ParkLabel → ParkWorld → Prop where
  | cancels : ParkEffect w .cancel { w with canceled := true }
  | stays {l : ParkLabel} (hl : l.waits = true) : ParkEffect w l w
  | moves {l : ParkLabel} {q : ParkPc} (hl : l.waits = false) (hplain : q.plain = true)
      (hrank : q.rank < w.pc.rank) (hdials : q.dials = true → w.pc.dials = true)
      (htake : q = .newCall → l = .take true) (hcall : q = .invite → w.pc = .newCall) :
      ParkEffect w l { w with pc := q }
  | dials (hpc : w.pc = .invite) : ParkEffect w .invite w.dial
  | retries {res : RetryResult} {r : DialResource} (hpc : w.pc = .last)
      (hresource : w.resource = some r) (hcounter : w.retryCounter < maxRetryCount) :
      ParkEffect w (.afterDistributeSchema (some res))
        { w with resourceIds := w.resourceIds ++ [r.id], pc := .flip res.retrySleep }
  | noResource {a : FlipAnswer} {retrySleep : Int} (hpc : w.pc = .flip retrySleep) :
      ParkEffect w (.flipResource a) w.noResource
  | found {a : FlipAnswer} {retrySleep : Int} {c : Candidate} {row : FlipRow}
      (hpc : w.pc = .flip retrySleep) (hnew : c.id ∉ w.resourceIds) :
      ParkEffect w (.flipResource a) { w with row := row, pc := .load retrySleep c }
  | loads {retrySleep : Int} {c : Candidate} {limited : Option Bool}
      (hpc : w.pc = .load retrySleep c) :
      ParkEffect w (.load limited) (w.load retrySleep c limited)
  | leaves (hpc : w.pc = .leaving) :
      ParkEffect w .leavingMember { w with pc := .ended, leavings := w.leavings + 1 }

/-- What is true in every run, whatever the surroundings do. -/
structure ParkInv (w : ParkWorld) : Prop where
  counter : w.retryCounter ≤ maxRetryCount
  flip : ∀ retrySleep, w.pc = .flip retrySleep → w.retryCounter < maxRetryCount
  load : ∀ retrySleep c, w.pc = .load retrySleep c →
    w.retryCounter < maxRetryCount ∧ c.id ∉ w.resourceIds
  dials : w.dials.length + w.pc.dials.toNat ≤ w.retryCounter
  resource : w.pc ≠ .panicked → w.resource.isSome
  untried : w.pc.dials = true → ∀ r, w.resource = some r → r.id ∉ w.resourceIds
  fresh : ∀ d ∈ w.dials, ∃ id, d.resource = some id ∧ id ∉ d.tried
  leavings : w.leavings = if w.pc = .ended then 1 else 0

section Steps

variable {w w' : ParkWorld} {l : ParkLabel}

variable {r : DialResource}

theorem useResource_eq (hr : w.resource = some r) (f : DialResource → Option ParkWorld) :
    w.useResource f = f r := by
  unfold ParkWorld.useResource
  rw [hr]

theorem parkEffect_of_signal {s : ParkSignal} (hr : w.resource = some r) (hpc : w.pc = .calling)
    (hs : w.signal s = some w') : ParkEffect w (.signal s) w' := by
  unfold ParkWorld.signal at hs
  split at hs
  · obtain ⟨-, rfl⟩ := of_guard hs
    exact .stays rfl
  · cases hs
    exact .stays rfl
  · cases hs
    exact .stays rfl
  · rw [useResource_eq hr] at hs
    cases hs
    exact .moves rfl rfl (by rw [hpc]; decide) nofun nofun nofun
  · rw [useResource_eq hr] at hs
    cases hs
    exact .moves rfl rfl (by rw [hpc]; decide) nofun nofun nofun

theorem parkEffect_of_take {ok : Bool} (hr : w.resource = some r) (hpc : w.pc = .take)
    (hs : w.take ok = some w') : ParkEffect w (.take ok) w' := by
  unfold ParkWorld.take at hs
  rw [useResource_eq hr] at hs
  cases ok with
  | true =>
    rw [if_pos rfl] at hs
    cases hs
    exact .moves rfl rfl (by rw [hpc]; decide) (fun _ => by rw [hpc]; rfl) (fun _ => rfl) nofun
  | false =>
    obtain ⟨-, rfl⟩ := of_guard hs
    exact .moves rfl rfl (by rw [hpc]; decide) nofun nofun nofun

theorem parkEffect_of_afterDistributeSchema {res : Option RetryResult} (hr : w.resource = some r)
    (hpc : w.pc = .last) (hs : w.afterDistributeSchema res = some w') :
    ParkEffect w (.afterDistributeSchema res) w' := by
  have hleaving : ∀ res, ParkEffect w (.afterDistributeSchema res) { w with pc := .leaving } :=
    fun _ => .moves rfl rfl (by rw [hpc]; decide) nofun nofun nofun
  unfold ParkWorld.afterDistributeSchema at hs
  split at hs
  · cases hs
    exact hleaving none
  · split at hs
    next hretry =>
      rw [useResource_eq hr] at hs
      cases hs
      simp only [Bool.and_eq_true, decide_eq_true_eq] at hretry
      exact .retries hpc hr hretry.2
    next =>
      cases hs
      exact hleaving _

theorem parkEffect_of_flipResource {a : FlipAnswer} {retrySleep : Int}
    (hpc : w.pc = .flip retrySleep) (hs : w.flipResource retrySleep a = some w') :
    ParkEffect w (.flipResource a) w' := by
  unfold ParkWorld.flipResource at hs
  split at hs
  · cases hs
    exact .noResource hpc
  · obtain ⟨hnext, hs⟩ := Option.ite_none_right_eq_some.mp hs
    split at hs
    · cases hs
      exact .noResource hpc
    · cases hs
      exact .found hpc (not_mem_of_isNext hnext)

theorem parkEffect_of_parkStep (hresource : w.pc ≠ .panicked → w.resource.isSome)
    (hs : parkStep w l = some w') : ParkEffect w l w' := by
  have hsome : ∀ {p : ParkPc}, w.pc = p → p ≠ .panicked → ∃ r, w.resource = some r :=
    fun hpc hp => Option.isSome_iff_exists.mp (hresource (hpc ▸ hp))
  cases l with
  | cancel =>
    cases hs
    exact .cancels
  | doDistributeSchema confirm =>
    obtain ⟨hpc, rfl⟩ := of_guard hs
    cases confirm <;> exact .moves rfl rfl (by rw [hpc]; decide) (by simp [hpc, ParkPc.dials])
      nofun nofun
  | request =>
    obtain ⟨hpc, hs⟩ := Option.ite_none_right_eq_some.mp hs
    obtain ⟨r, hr⟩ := hsome hpc nofun
    rw [useResource_eq hr] at hs
    cases hs
    exact .moves rfl rfl (by rw [hpc]; decide) (by simp [hpc, ParkPc.dials]) nofun nofun
  | take ok =>
    obtain ⟨hpc, hs⟩ := Option.ite_none_right_eq_some.mp hs
    obtain ⟨r, hr⟩ := hsome hpc nofun
    exact parkEffect_of_take hr hpc hs
  | newCall ok =>
    obtain ⟨hpc, rfl⟩ := of_guard hs
    cases ok <;> exact .moves rfl rfl (by rw [hpc]; decide) (by simp [hpc, ParkPc.dials]) nofun
      (fun _ => hpc)
  | invite =>
    obtain ⟨hpc, rfl⟩ := of_guard hs
    exact .dials hpc
  | signal s =>
    obtain ⟨hpc, hs⟩ := Option.ite_none_right_eq_some.mp hs
    obtain ⟨r, hr⟩ := hsome hpc nofun
    exact parkEffect_of_signal hr hpc hs
  | afterDistributeSchema res =>
    obtain ⟨hpc, hs⟩ := Option.ite_none_right_eq_some.mp hs
    obtain ⟨r, hr⟩ := hsome hpc nofun
    exact parkEffect_of_afterDistributeSchema hr hpc hs
  | flipResource a =>
    grind [parkStep, parkEffect_of_flipResource]
  | load limited =>
    unfold parkStep at hs
    dsimp only at hs
    split at hs
    next hpc =>
      cases hs
      exact .loads hpc
    next => cases hs
  | wake =>
    obtain ⟨hpc, rfl⟩ := of_guard hs
    exact .moves rfl rfl (by rw [hpc]; decide) (by simp [hpc, ParkPc.dials]) nofun nofun
  | leavingMember =>
    obtain ⟨hpc, rfl⟩ := of_guard hs
    exact .leaves hpc

end Steps

namespace ParkInv

variable {w w' : ParkWorld} {l : ParkLabel}

theorem init (r : DialResource) (row : FlipRow) : ParkInv (parkWorld r row) where
  counter := (by decide : 1 ≤ maxRetryCount)
  flip _ hno := by cases hno
  load _ _ hno := by cases hno
  dials := le_refl 1
  resource _ := rfl
  untried _ _ _ := List.not_mem_nil
  fresh := nofun
  leavings := rfl

theorem ne_of_rank {p q : ParkPc} (h : q.rank < p.rank) : p ≠ .ended ∧ p ≠ .panicked := by
  constructor <;> rintro rfl <;> exact absurd h (Nat.not_lt_zero _)

theorem leavings_eq_zero (h : ParkInv w) (hpc : w.pc ≠ .ended) : w.leavings = 0 := by
  rw [h.leavings, if_neg hpc]

theorem moves (h : ParkInv w) {q : ParkPc} (hplain : q.plain = true)
    (hrank : q.rank < w.pc.rank) (hdials : q.dials = true → w.pc.dials = true) :
    ParkInv { w with pc := q } where
  counter := h.counter
  flip retrySleep hq := by cases hq; cases hplain
  load retrySleep c hq := by cases hq; cases hplain
  dials := by
    have hold := h.dials
    show w.dials.length + q.dials.toNat ≤ w.retryCounter
    cases hq : q.dials with
    | false => exact le_trans (Nat.add_le_add_left (Nat.zero_le _) _) hold
    | true =>
      rw [hdials hq] at hold
      exact hold
  resource _ := h.resource (ne_of_rank hrank).2
  untried hq := h.untried (hdials hq)
  fresh := h.fresh
  leavings := by
    have hq : q ≠ .ended := by rintro rfl; cases hplain
    show w.leavings = if q = .ended then 1 else 0
    rw [if_neg hq]
    exact h.leavings_eq_zero (ne_of_rank hrank).1

theorem dial (h : ParkInv w) (hpc : w.pc = .invite) : ParkInv w.dial where
  counter := h.counter
  flip _ hno := by cases hno
  load _ _ hno := by cases hno
  dials := by
    have hold := h.dials
    rw [hpc] at hold
    show (w.dials ++ _).length + 0 ≤ w.retryCounter
    rw [List.length_append]
    exact hold
  resource _ := h.resource (by rw [hpc]; nofun)
  untried := nofun
  fresh d hd := by
    rcases List.mem_append.mp hd with hold | hnew
    · exact h.fresh d hold
    · obtain ⟨r, hr⟩ := Option.isSome_iff_exists.mp (h.resource (by rw [hpc]; nofun))
      rw [List.mem_singleton.mp hnew]
      exact ⟨r.id, by rw [hr]; rfl, h.untried (by rw [hpc]; rfl) r hr⟩
  leavings := h.leavings_eq_zero (by rw [hpc]; nofun)

theorem past (h : ParkInv w) {p : ParkPc} {ids : List Int} {row : FlipRow} {n : Nat}
    (hfrom : w.pc ≠ .panicked) (hp : p.dials = false)
    (hflip : ∀ retrySleep, p = .flip retrySleep → w.retryCounter < maxRetryCount)
    (hload : ∀ retrySleep c, p = .load retrySleep c →
      w.retryCounter < maxRetryCount ∧ c.id ∉ ids)
    (hleavings : n = if p = .ended then 1 else 0) :
    ParkInv { w with resourceIds := ids, row := row, pc := p, leavings := n } where
  counter := h.counter
  flip := hflip
  load := hload
  dials := by
    show w.dials.length + p.dials.toNat ≤ w.retryCounter
    rw [hp]
    exact le_trans (Nat.add_le_add_left (Nat.zero_le _) _) h.dials
  resource _ := h.resource hfrom
  untried hno := by cases hp.symm.trans hno
  fresh := h.fresh
  leavings := hleavings

variable {retrySleep : Int}

theorem retries (h : ParkInv w) {r : DialResource} (hpc : w.pc = .last)
    (hcounter : w.retryCounter < maxRetryCount) :
    ParkInv { w with resourceIds := w.resourceIds ++ [r.id], pc := .flip retrySleep } :=
  h.past (by rw [hpc]; nofun) rfl (fun _ _ => hcounter) (fun _ _ hno => by cases hno)
    (h.leavings_eq_zero (by rw [hpc]; nofun))

theorem noResource (h : ParkInv w) (hpc : w.pc = .flip retrySleep) :
    ParkInv w.noResource := by
  have hcounter := h.flip retrySleep hpc
  have hresource := h.resource (by rw [hpc]; nofun)
  have hleavings := h.leavings_eq_zero (by rw [hpc]; nofun)
  have hdials : w.dials.length ≤ w.retryCounter := le_trans (Nat.le_add_right _ _) h.dials
  unfold ParkWorld.noResource
  cases w.lastExec <;> exact {
    counter := hcounter
    flip := fun _ hno => by cases hno
    load := fun _ _ hno => by cases hno
    dials := Nat.le_succ_of_le hdials
    resource := fun _ => hresource
    untried := fun hno => by cases hno
    fresh := h.fresh
    leavings := hleavings }

theorem found (h : ParkInv w) {c : Candidate} {row : FlipRow} (hpc : w.pc = .flip retrySleep)
    (hnew : c.id ∉ w.resourceIds) :
    ParkInv { w with row := row, pc := .load retrySleep c } := by
  refine h.past (by rw [hpc]; nofun) rfl (fun _ hno => by cases hno) (fun _ c' hc' => ?_)
    (h.leavings_eq_zero (by rw [hpc]; nofun))
  cases hc'
  exact ⟨h.flip retrySleep hpc, hnew⟩

theorem loads (h : ParkInv w) {c : Candidate} {limited : Option Bool}
    (hpc : w.pc = .load retrySleep c) : ParkInv (w.load retrySleep c limited) := by
  obtain ⟨hcounter, hnew⟩ := h.load retrySleep c hpc
  have hleavings := h.leavings_eq_zero (by rw [hpc]; nofun)
  have hdials : w.dials.length ≤ w.retryCounter := le_trans (Nat.le_add_right _ _) h.dials
  have huntried : ∀ {b : Bool} {r : DialResource}, some ⟨c.id, b⟩ = some r →
      r.id ∉ w.resourceIds := by
    intro b r hr
    cases hr
    exact hnew
  unfold ParkWorld.load
  split
  · split_ifs <;> exact {
      counter := hcounter
      flip := fun _ hno => by cases hno
      load := fun _ _ hno => by cases hno
      dials := Nat.succ_le_succ hdials
      resource := fun _ => rfl
      untried := fun _ _ hr => huntried hr
      fresh := h.fresh
      leavings := hleavings }
  · exact {
      counter := h.counter
      flip := fun _ hno => by cases hno
      load := fun _ _ hno => by cases hno
      dials := hdials
      resource := fun hne => absurd rfl hne
      untried := fun hno => by cases hno
      fresh := h.fresh
      leavings := hleavings }

theorem leaves (h : ParkInv w) (hpc : w.pc = .leaving) :
    ParkInv { w with pc := .ended, leavings := w.leavings + 1 } := by
  refine h.past (by rw [hpc]; nofun) rfl (fun _ hno => by cases hno)
    (fun _ _ hno => by cases hno) ?_
  rw [h.leavings_eq_zero (by rw [hpc]; nofun)]
  rfl

theorem step (h : ParkInv w) (hs : parkStep w l = some w') : ParkInv w' := by
  -- nothing here depends on the answers, so the effect of the step is all that matters
  cases parkEffect_of_parkStep h.resource hs with
  | cancels => exact { h with }
  | stays _ => exact h
  | moves _ hplain hrank hdials _ _ => exact h.moves hplain hrank hdials
  | dials hpc => exact h.dial hpc
  | retries hpc _ hcounter => exact h.retries hpc hcounter
  | noResource hpc => exact h.noResource hpc
  | found hpc hnew => exact h.found hpc hnew
  | loads hpc => exact h.loads hpc
  | leaves hpc => exact h.leaves hpc

theorem left_step (h : ParkInv w) (hs : parkStep w l = some w') :
    (!l.waits).toNat + w'.left ≤ w.left := by
  unfold ParkWorld.left
  cases parkEffect_of_parkStep h.resource hs with
  | cancels => exact le_of_eq (Nat.zero_add _)
  | stays hl => rw [hl]; exact le_of_eq (Nat.zero_add _)
  | moves hl _ hrank _ _ _ =>
    rw [hl]
    exact Nat.add_comm 1 _ ▸ Nat.add_lt_add_left hrank _
  | dials hpc =>
    rw [hpc]
    show 1 + ((maxRetryCount - w.retryCounter) * 16 + 6) ≤ _ + 7
    omega
  | retries hpc _ _ =>
    rw [hpc]
    show 1 + ((maxRetryCount - w.retryCounter) * 16 + 4) ≤ _ + 5
    omega
  | noResource hpc =>
    have hcounter := h.flip _ hpc
    have hrank : w.noResource.pc.rank ≤ 5 := by
      cases hlast : w.lastExec <;> simp [ParkWorld.noResource, hlast, ParkPc.rank]
    rw [hpc]
    show 1 + ((maxRetryCount - (w.retryCounter + 1)) * 16 + w.noResource.pc.rank) ≤ _ + 4
    omega
  | found hpc _ =>
    rw [hpc]
    show 1 + ((maxRetryCount - w.retryCounter) * 16 + 3) ≤ _ + 4
    omega
  | @loads retrySleep c limited hpc =>
    have hcounter := (h.load _ _ hpc).1
    rw [hpc]
    unfold ParkWorld.load
    split
    · -- a new round, with one of the counter spent
      have hrank : ∀ p : Prop, ∀ [Decidable p], (if p then ParkPc.sleep else .retry).rank ≤ 11 := by
        intro p _
        split_ifs <;> decide
      have hround := hrank (c.allowCall.getD false = true ∧ 0 < retrySleep
        ∧ retrySleep < maxRetrySleep)
      show 1 + ((maxRetryCount - (w.retryCounter + 1)) * 16 + _) ≤ _ + 3
      dsimp only
      omega
    · show 1 + ((maxRetryCount - w.retryCounter) * 16 + 0) ≤ _ + 3
      omega
  | leaves hpc =>
    rw [hpc]
    show 1 + ((maxRetryCount - w.retryCounter) * 16 + 0) ≤ _ + 1
    omega

end ParkInv

/-! ## The surroundings at their best -/

/-- A resource that the database has found can be loaded; a dial is let through by `Take` only
while the attempt is not cancelled, and the cancellation does not come between `Take` and the
call. -/
def Undisturbed (w : ParkWorld) : ParkLabel → Prop
  | .load limited => ∀ retrySleep c, w.pc = .load retrySleep c →
      c.updatedAt.isSome ∧ limited.isSome
  | .take true => w.canceled = false
  | .cancel => w.pc ≠ .newCall ∧ w.pc ≠ .invite
  | _ => True

instance (w : ParkWorld) : ∀ l, Decidable (Undisturbed w l)
  | .load limited =>
    match hpc : w.pc with
    | .load retrySleep c => decidable_of_iff (c.updatedAt.isSome ∧ limited.isSome)
        ⟨fun h _ _ heq => by cases hpc.symm.trans heq; exact h, fun h => h retrySleep c hpc⟩
    | .schema | .retry | .take | .newCall | .invite | .calling | .last | .flip _ | .sleep
    | .leaving | .ended | .handedOver | .panicked =>
      .isTrue fun _ _ heq => by cases hpc.symm.trans heq
  | .take true => inferInstanceAs (Decidable (w.canceled = false))
  | .cancel => inferInstanceAs (Decidable (w.pc ≠ .newCall ∧ w.pc ≠ .invite))
  | .take false | .doDistributeSchema _ | .request | .newCall _ | .invite | .signal _
  | .afterDistributeSchema _ | .flipResource _ | .wake | .leavingMember => .isTrue trivial

/-- Nobody is called for a cancelled attempt. -/
structure CalmInv (w : ParkWorld) : Prop where
  safe : w.pc ≠ .panicked
  calling : w.pc = .newCall ∨ w.pc = .invite → w.canceled = false
  dials : ∀ d ∈ w.dials, d.canceled = false

namespace CalmInv

variable {w w' : ParkWorld} {l : ParkLabel}

theorem init (r : DialResource) (row : FlipRow) : CalmInv (parkWorld r row) where
  safe := nofun
  calling _ := rfl
  dials := nofun

theorem elsewhere (h : CalmInv w) (hsafe : w'.pc ≠ .panicked) (hcall : w'.pc ≠ .newCall)
    (hinvite : w'.pc ≠ .invite) (hdials : w'.dials = w.dials) : CalmInv w' where
  safe := hsafe
  calling hpc := hpc.elim (absurd · hcall) (absurd · hinvite)
  dials := hdials ▸ h.dials

theorem step (h : CalmInv w) (hinv : ParkInv w) (hok : Undisturbed w l)
    (hs : parkStep w l = some w') : CalmInv w' := by
  cases parkEffect_of_parkStep hinv.resource hs with
  | cancels => exact h.elsewhere h.safe hok.1 hok.2 rfl
  | stays _ => exact h
  | moves _ hplain _ _ htake hcall =>
    -- the call is made two steps after `Take`, and neither step reads the cancellation
    refine ⟨fun hno => ?_, fun hpc => ?_, h.dials⟩
    · cases hno
      cases hplain
    · rcases hpc with hpc | hpc
      · rw [htake hpc] at hok
        exact hok
      · exact h.calling (.inl (hcall hpc))
  | dials hpc =>
    refine ⟨nofun, fun hno => hno.elim nofun nofun, fun d hd => ?_⟩
    rcases List.mem_append.mp hd with hold | hnew
    · exact h.dials d hold
    · rw [List.mem_singleton.mp hnew]
      exact h.calling (.inr hpc)
  | retries _ _ _ => exact h.elsewhere nofun nofun nofun rfl
  | noResource _ =>
    unfold ParkWorld.noResource
    cases w.lastExec <;> exact h.elsewhere nofun nofun nofun rfl
  | found _ _ => exact h.elsewhere nofun nofun nofun rfl
  | @loads retrySleep c limited hpc =>
    obtain ⟨hupdated, hlimited⟩ := hok retrySleep c hpc
    obtain ⟨_, hupdated⟩ := Option.isSome_iff_exists.mp hupdated
    obtain ⟨_, hlimited⟩ := Option.isSome_iff_exists.mp hlimited
    unfold ParkWorld.load
    rw [hupdated, hlimited]
    dsimp only
    split_ifs <;> exact h.elsewhere nofun nofun nofun rfl
  | leaves _ => exact h.elsewhere nofun nofun nofun rfl

end CalmInv

theorem finished_of_stopped {w : ParkWorld} (hinv : ParkInv w) (hsafe : w.pc ≠ .panicked)
    (hstop : ∀ l : ParkLabel, l.waits = false → parkStep w l = none) :
    w.pc = .ended ∨ w.pc = .handedOver := by
  obtain ⟨r, hr⟩ := Option.isSome_iff_exists.mp (hinv.resource hsafe)
  cases hpc : w.pc with
  | schema =>
    have := hstop (.doDistributeSchema true) rfl
    simp [parkStep, hpc] at this
  | retry =>
    have := hstop .request rfl
    simp [parkStep, hpc, useResource_eq hr] at this
  | take =>
    have := hstop (.take true) rfl
    simp [parkStep, hpc, ParkWorld.take, useResource_eq hr] at this
  | newCall =>
    have := hstop (.newCall true) rfl
    simp [parkStep, hpc] at this
  | invite =>
    have := hstop .invite rfl
    simp [parkStep, hpc] at this
  | calling =>
    have := hstop (.signal .hangup) rfl
    simp [parkStep, hpc, ParkWorld.signal, useResource_eq hr] at this
  | last =>
    have := hstop (.afterDistributeSchema none) rfl
    simp [parkStep, hpc, ParkWorld.afterDistributeSchema] at this
  | flip retrySleep =>
    have := hstop (.flipResource .error) rfl
    simp [parkStep, hpc, ParkWorld.flipResource] at this
  | load retrySleep c =>
    have := hstop (.load none) rfl
    simp [parkStep, hpc] at this
  | sleep =>
    have := hstop .wake rfl
    simp [parkStep, hpc] at this
  | leaving =>
    have := hstop .leavingMember rfl
    simp [parkStep, hpc] at this
  | ended => exact .inl rfl
  | handedOver => exact .inr rfl
  | panicked => exact absurd hpc hsafe

/-- What every run comes to. -/
structure Promise (ls : List ParkLabel) (w : ParkWorld) : Prop where
  dials : w.dials.length ≤ maxRetryCount
  fresh : ∀ d ∈ w.dials, ∃ id, d.resource = some id ∧ id ∉ d.tried
  uncanceled : ∀ d ∈ w.dials, d.canceled = false
  safe : w.pc ≠ .panicked
  /-- If each call hangs up or is accepted after finitely many waits, the run is finite. -/
  bounded : ls.countP (fun l => !l.waits) ≤ 16 * maxRetryCount
  ends : (∀ l : ParkLabel, l.waits = false → parkStep w l = none) →
    w.pc = .ended ∨ w.pc = .handedOver
  leaves : w.pc = .ended → w.leavings = 1

structure ParkRun (start : ParkWorld) (seen : List ParkLabel) (w : ParkWorld) : Prop where
  park : ParkInv w
  calm : CalmInv w
  left : seen.countP (fun l => !l.waits) + w.left ≤ start.left

theorem ParkRun.step {start w w' : ParkWorld} {seen : List ParkLabel} {l : ParkLabel}
    (h : ParkRun start seen w) (hok : Undisturbed w l) (hs : parkStep w l = some w') :
    ParkRun start (seen ++ [l]) w' where
  park := h.park.step hs
  calm := h.calm.step h.park hok hs
  left := by
    have hstep := h.park.left_step hs
    have hbefore := h.left
    have hcost : [l].countP (fun l => !l.waits) = (!l.waits).toNat := by
      cases hl : l.waits <;> simp [hl]
    rw [List.countP_append, hcost]
    omega

/-- **Dialling again is bounded and respects the cancellation**, in every undisturbed run. -/
theorem redial_keeps_promise {r : DialResource} {row : FlipRow} {ls : List ParkLabel}
    {w : ParkWorld} (hrun : run parkStep (parkWorld r row) ls = some w)
    (hcalm : Along parkStep Undisturbed (parkWorld r row) ls) : Promise ls w := by
  have hinit : ParkRun (parkWorld r row) [] (parkWorld r row) :=
    ⟨ParkInv.init r row, CalmInv.init r row, le_of_eq (Nat.zero_add _)⟩
  have hw : ParkRun (parkWorld r row) ([] ++ ls) w :=
    run_invariant_seen (fun _ _ _ _ h hok hs => h.step hok hs) ls [] hinit hcalm hrun
  have hleft := hw.left
  exact {
    dials := le_trans (le_trans (Nat.le_add_right _ _) hw.park.dials) hw.park.counter
    fresh := hw.park.fresh
    uncanceled := hw.calm.dials
    safe := hw.calm.safe
    bounded := le_trans (Nat.le_add_right _ _) (le_trans hleft (by decide : 9 * 16 + 12 ≤ _))
    ends := finished_of_stopped hw.park hw.calm.safe
    leaves := fun hpc => by rw [hw.park.leavings, if_pos hpc] }

def second : Candidate where
  id := 2
  updatedAt := some 5
  queueId := 1
  communicationId := some 1
  matchesPatterns := true
  enabled := true
  limit := some 10
  used := 0
  priority := some 1

/-- A dial over the first resource that is hung up, after which the schema asks for another. -/
def firstDial : List ParkLabel :=
  [.doDistributeSchema true, .request, .take true, .newCall true, .invite, .signal .hangup,
    .afterDistributeSchema (some ⟨false, true, 0⟩), .flipResource (.answer [second] (some second))]

def secondDial : List ParkLabel :=
  [.load (some false), .request, .take true, .newCall true, .invite, .signal .hangup,
    .afterDistributeSchema none, .leavingMember]

theorem twoDials_promise :
    ∃ w, run parkStep (parkWorld ⟨1, false⟩ ⟨some 1, some 1, some 1⟩) (firstDial ++ secondDial)
        = some w
      ∧ w.pc = .ended ∧ w.dials.length = 2 ∧ Promise (firstDial ++ secondDial) w := by
  have hcalm : Along parkStep Undisturbed (parkWorld ⟨1, false⟩ ⟨some 1, some 1, some 1⟩)
      (firstDial ++ secondDial) := by decide
  exact ⟨_, rfl, rfl, rfl, redial_keeps_promise rfl hcalm⟩

/-- The attempt is cancelled while its next resource is loaded, and the member is dialled again; or
the resource cannot be loaded, and its display number is asked for nevertheless. -/
theorem redial_disturbed :
    (∃ w, run parkStep (parkWorld ⟨1, false⟩ ⟨some 1, some 1, some 1⟩)
        (firstDial ++ [.cancel] ++ secondDial) = some w ∧ ∃ d ∈ w.dials, d.canceled = true)
      ∧ ∃ w, run parkStep (parkWorld ⟨1, false⟩ ⟨some 1, some 1, some 1⟩)
        (firstDial ++ [.load none]) = some w ∧ w.pc = .panicked :=
  ⟨⟨_, rfl, ⟨some 2, [1], true, true⟩, by decide, rfl⟩, ⟨_, rfl, rfl⟩⟩

end CallCenter.Queue.Redial
