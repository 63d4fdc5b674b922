import CallCenter.Lib.Intake
import CallCenter.Store.Rows

/-!
# A member given straight to an agent

`cc_distribute_direct_member_to_queue` is one `INSERT … SELECT`: it inserts nothing when the member
has an attempt already. The statement takes no lock on the member, and no index makes `member_id`
unique, so two requests for one member that overlap both find none.

What the statement reads back of the inserted row is left out: it decides about no insert.
-/

namespace CallCenter.Store.Direct

open Lib

structure NamedMember extends Member where
  name : String

structure Destination where
  communication : Communication
  name : String

structure QueueRow where
  id : Int
  teamId : Option Int
  domainId : Int
  type : Int

/-- What the statement joins with. A distribution resource is the id of a queue and the types and
resources of `cc_sys_queue_distribute_resources`; agents are their ids. -/
structure Catalog where
  members : List NamedMember
  queues : List QueueRow
  distributeResources : List (Int × List (Int × Int))
  agents : List Int

/-- The columns of `cc_member_attempt` that the statement writes, and the time of leaving. -/
structure DirectAttempt where
  id : Int
  /-- The statement writes the number 1. -/
  state : String
  queueId : Int
  memberId : Option Int
  destination : Destination
  communicationIdx : Int
  nodeId : String
  agentId : Int
  resourceId : Int
  bucketId : Option BucketId
  seq : Int
  teamId : Option Int
  domainId : Int
  queueType : Int
  leavingAt : Option Int

/-- `j -> i` on an array: a negative index counts from the end. -/
def jsonElement {α : Type} (l : List α) (i : Int) : Option α :=
  if 0 ≤ i then l[i.toNat]? else if 0 ≤ l.length + i then l[(l.length + i).toNat]? else none

structure DirectRequest where
  node : String
  memberId : Int
  communicationId : Int
  agentId : Int

/-- `communicationId-1`. -/
def DirectRequest.communicationIdx (r : DirectRequest) : Int := r.communicationId - 1

/-- `select … from unnest(r.types) t where t.type_id = … limit 1`. -/
def Catalog.resourceFor (cat : Catalog) (queueId : Int) (typeId : Option Int) : Option Int :=
  (cat.distributeResources.filter fun r => r.1 = queueId).firstM fun r =>
    (r.2.find? fun t => some t.1 = typeId).map Prod.snd

def Catalog.selected (cat : Catalog) (id : Int) (r : DirectRequest) : Option DirectAttempt := do
  let m ← cat.members.find? fun m => m.id = r.memberId
  let q ← cat.queues.find? fun q => q.id = m.queueId
  let communication ← jsonElement (m.communications.getD []) r.communicationIdx
  let resourceId ← cat.resourceFor m.queueId communication.typeId
  return {
    id := id
    state := "1"
    queueId := m.queueId
    memberId := some m.id
    destination := ⟨communication, m.name⟩
    communicationIdx := r.communicationIdx
    nodeId := r.node
    agentId := r.agentId
    resourceId := resourceId
    bucketId := m.bucketId
    seq := m.attempts + 1
    teamId := q.teamId
    domainId := q.domainId
    queueType := q.type
    leavingAt := none }

def DirectAttempt.isOf (memberId : Int) (a : DirectAttempt) : Bool := a.memberId = some memberId

def DirectAttempt.isLiveOf (memberId : Int) (a : DirectAttempt) : Bool :=
  a.isOf memberId && a.leavingAt.isNone

/-- `_communication_id::int2`. -/
def int2 (n : Int) : Bool := -32768 ≤ n && n ≤ 32767

/-- The insert of `cc_distribute_direct_member_to_queue`, on the committed attempts. The agent is a
foreign key. -/
def distributeDirectMemberToQueue (cat : Catalog) (committed : List DirectAttempt) (id : Int)
    (r : DirectRequest) : Option DirectAttempt :=
  if int2 r.communicationIdx && decide (r.agentId ∈ cat.agents)
      && !committed.any (DirectAttempt.isOf r.memberId) then cat.selected id r
  else none

/-! ## Requests side by side -/

/-- The tables, with the attempts that are inserted and not committed. `nextId` is the sequence,
which no rollback sets back. -/
structure DirectWorld where
  catalog : Catalog
  attempts : Intake DirectAttempt DirectAttempt
  nextId : Int

inductive DirectLabel where
  | request (r : DirectRequest)
  | commit (i : Nat)
  | rollback (i : Nat)
  | leave (id now : Int)
  | archive (id : Int)
  | change (catalog : Catalog)

def directStep (w : DirectWorld) : DirectLabel → Option DirectWorld
  | .request r =>
    match distributeDirectMemberToQueue w.catalog w.attempts.rows w.nextId r with
    | none => some w
    | some a => some { w with attempts := w.attempts.enter a, nextId := w.nextId + 1 }
  | .commit i => w.attempts.flying[i]?.map fun a => { w with attempts := w.attempts.land i a }
  | .rollback i => some { w with attempts := w.attempts.drop i }
  | .leave id now =>
    some { w with attempts := { w.attempts with
      rows := w.attempts.rows.map fun a =>
        if a.id = id then { a with leavingAt := some now } else a } }
  | .archive id =>
    some { w with attempts := { w.attempts with
      rows := w.attempts.rows.filter fun a => !(decide (a.id = id) && a.leavingAt.isSome) } }
  | .change catalog => some { w with catalog := catalog }

/-- The condition on a request, in the state before it: no other request for the member is between
its insert and its commit, unless the member has a committed attempt. -/
def meetsNone (w : DirectWorld) : DirectLabel → Prop
  | .request r => w.attempts.rows.any (DirectAttempt.isOf r.memberId) = true
      ∨ w.attempts.flying.any (DirectAttempt.isOf r.memberId) = false
  | _ => True

/-! ## One live attempt -/

def liveLoad (m : Int) (s : Intake DirectAttempt DirectAttempt) : Nat :=
  s.load (DirectAttempt.isLiveOf m) (DirectAttempt.isOf m)

def OneLive (w : DirectWorld) : Prop := ∀ m, liveLoad m w.attempts ≤ 1

theorem selected_isOf {cat : Catalog} {id m : Int} {r : DirectRequest} {a : DirectAttempt}
    (h : cat.selected id r = some a) : a.isOf m = true ↔ m = r.memberId := by
  obtain ⟨member, hmember, h⟩ := Option.bind_eq_some_iff.mp h
  grind [DirectAttempt.isOf, Option.bind_eq_some_iff]

theorem countP_eq_zero_of_any {α : Type} {p : α → Bool} {l : List α} (h : l.any p = false) :
    l.countP p = 0 := by
  rw [List.countP_eq_zero]
  exact List.any_eq_false.mp h

theorem oneLive_request {w : DirectWorld} {r : DirectRequest} {a : DirectAttempt} (h : OneLive w)
    (hok : meetsNone w (.request r))
    (ha : distributeDirectMemberToQueue w.catalog w.attempts.rows w.nextId r = some a) (m : Int) :
    liveLoad m (w.attempts.enter a) ≤ 1 := by
  obtain ⟨hguard, hselected⟩ := Option.ite_none_right_eq_some.mp ha
  rw [Bool.and_eq_true, Bool.not_eq_true'] at hguard
  refine Intake.load_enter_le (h m) fun hm => ?_
  have hmember : m = r.memberId := (selected_isOf hselected).mp hm
  subst hmember
  -- The statement saw no attempt of the member, and none is on its way.
  have hnone := hguard.2
  rcases hok with hsome | hflying
  all_goals grind [DirectAttempt.isLiveOf, Intake.load, countP_eq_zero_of_any]

theorem oneLive_step {w w' : DirectWorld} {l : DirectLabel} (h : OneLive w) (hok : meetsNone w l)
    (hstep : directStep w l = some w') : OneLive w' := by
  intro m
  cases l with
  | request r =>
    unfold directStep at hstep
    dsimp only at hstep
    split at hstep
    · cases hstep
      exact h m
    · rename_i a ha
      cases hstep
      exact oneLive_request h hok ha m
  | commit i =>
    obtain ⟨a, ha, hw'⟩ := Option.map_eq_some_iff.mp hstep
    rw [← hw']
    refine Nat.le_trans (Intake.load_land_le ha fun hlive => ?_) (h m)
    exact (Bool.and_eq_true _ _ ▸ hlive).1
  | rollback i =>
    cases hstep
    exact Nat.le_trans (Intake.load_drop_le i) (h m)
  | leave id now =>
    cases hstep
    refine Nat.le_trans (Intake.load_rows_le ?_) (h m)
    rw [List.countP_map]
    refine List.countP_mono_left fun a _ ha => ?_
    -- An attempt that leaves is not live any more, and the others stay as they are.
    grind [DirectAttempt.isLiveOf]
  | archive id =>
    cases hstep
    exact Nat.le_trans (Intake.load_rows_le (List.filter_sublist.countP_le)) (h m)
  | change catalog =>
    cases hstep
    exact h m

/-- **A member has at most one live attempt**, when no two requests for it overlap. -/
theorem one_live_attempt {w w' : DirectWorld} {labels : List DirectLabel}
    (hidle : w.attempts.flying = [])
    (hstart : ∀ m, w.attempts.rows.countP (DirectAttempt.isLiveOf m) ≤ 1)
    (hok : Along directStep meetsNone w labels) (hrun : run directStep w labels = some w')
      (m : Int) :
    w'.attempts.rows.countP (DirectAttempt.isLiveOf m) ≤ 1 := by
  have hone : OneLive w := by
    intro k
    unfold liveLoad Intake.load
    rw [hidle, List.countP_nil]
    exact hstart k
  have hone' : OneLive w' :=
    run_invariant (fun _ _ _ h hok hstep => oneLive_step h hok hstep) labels hone hok hrun
  exact Nat.le_trans Intake.rows_le_load (hone' m)

/-! ## A member and two requests -/

/-- A member with one number, a queue with a resource for it, and an agent. -/
def sampleCatalog : Catalog where
  members := [⟨⟨7, 1, 1, none, none, 0, some [⟨some 4, none, none, none, none⟩], none, none, none,
    none, none, none, none, none⟩, "Ann"⟩]
  queues := [⟨1, some 1, 1, 2⟩]
  distributeResources := [(1, [(4, 9)])]
  agents := [3]

def sampleDirect : DirectWorld := ⟨sampleCatalog, ⟨[], []⟩, 1⟩

def sampleRequest : DirectRequest := ⟨"node", 7, 1, 3⟩

/-- The second request comes when the first is committed, and inserts nothing. -/
theorem requests_in_turn : ∃ w', run directStep sampleDirect
    [.request sampleRequest, .commit 0, .request sampleRequest] = some w'
    ∧ w'.attempts.rows.countP (DirectAttempt.isLiveOf 7) ≤ 1 := by
  have hok : Along directStep meetsNone sampleDirect
      [.request sampleRequest, .commit 0, .request sampleRequest] := by
    refine ⟨.inr rfl, fun w₁ h₁ => ⟨trivial, fun w₂ h₂ => ⟨.inl ?_, fun _ _ => trivial⟩⟩⟩
    rw [← Option.some.inj h₁] at h₂
    cases h₂
    rfl
  exact ⟨_, rfl, one_live_attempt (w := sampleDirect) rfl (fun _ => Nat.zero_le 1) hok rfl 7⟩

/-- Both requests run before either is committed, and the member has two live attempts. -/
theorem requests_overlap : ∃ w', run directStep sampleDirect
    [.request sampleRequest, .request sampleRequest, .commit 0, .commit 0] = some w'
    ∧ w'.attempts.rows.countP (DirectAttempt.isLiveOf 7) = 2 :=
  ⟨_, rfl, rfl⟩

end CallCenter.Store.Direct
