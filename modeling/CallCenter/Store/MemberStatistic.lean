import CallCenter.Store.Rows

/-!
# The statement triggers that keep queue statistics

`cc_queue_statistics` holds, for every queue and bucket, how many members there are and how many of
them still wait; `cc_queue_skill_statistics` the same for every queue and skill. Six trigger
functions run after each statement on `cc_member` and upsert the change it made. They come in two
families of three, which differ in the columns they group by, in the unique index of their table and
in where they drop the groups without a skill.

A statement whose triggers or constraints raise an error is rolled back as a whole.
-/

namespace CallCenter.Store

open Lib

/-! ## Counters and the statements on them -/

/-- A row of a statistics table, under the columns it is grouped by. -/
structure StatRow (γ : Type) where
  group : γ
  memberCount : Int
  memberWaiting : Int

def StatRow.int4 {γ : Type} (r : StatRow γ) : Bool :=
  (-2147483648 ≤ r.memberCount && r.memberCount ≤ 2147483647)
    && (-2147483648 ≤ r.memberWaiting && r.memberWaiting ≤ 2147483647)

section Statements

variable {γ ι : Type} [DecidableEq γ] [DecidableEq ι] {idx : γ → ι}

/-- A statistics table whose unique index is `idx` of the grouping columns. -/
abbrev Stats (idx : γ → ι) := Table fun r : StatRow γ => idx r.group

/-- The `DO UPDATE SET` of the inserting and updating triggers. -/
def addExcluded (excluded r : StatRow γ) : StatRow γ :=
  { r with
    memberCount := excluded.memberCount + r.memberCount
    memberWaiting := excluded.memberWaiting + r.memberWaiting }

/-- The `DO UPDATE SET` of the deleting triggers. -/
def subExcluded (excluded r : StatRow γ) : StatRow γ :=
  { r with
    memberCount := r.memberCount - excluded.memberCount
    memberWaiting := r.memberWaiting - excluded.memberWaiting }

/-- `INSERT … ON CONFLICT DO UPDATE` of one group, with the range check of the
`integer` columns on what is proposed and on what is stored. -/
def upsertStat (set : StatRow γ → StatRow γ → StatRow γ)
    (hset : ∀ e r, (set e r).group = r.group) (t : Stats idx) (e : StatRow γ) :
    Option (Stats idx) :=
  let t' := t.upsert e (set e) fun r => congrArg idx (hset e r)
  if e.int4 && (t'.get? (idx e.group)).all StatRow.int4 then some t' else none

def upsertAdd (t : Stats idx) (groups : List (StatRow γ)) : Option (Stats idx) :=
  groups.foldlM (upsertStat addExcluded fun _ _ => rfl) t

def upsertSub (t : Stats idx) (groups : List (StatRow γ)) : Option (Stats idx) :=
  groups.foldlM (upsertStat subExcluded fun _ _ => rfl) t

end Statements

section Grouping

variable {γ : Type} [DecidableEq γ]

/-- `SELECT g, count(*), count(*) FILTER (WHERE stop_at ISNULL) … GROUP BY g`. -/
def countMembers (g : Member → γ) (ms : List Member) : List (StatRow γ) :=
  groupBy g (fun k ms => ⟨k, ms.length, ms.countP (·.stopAt.isNone)⟩) ms

/-- `-1 * count(*)`. -/
def StatRow.neg (r : StatRow γ) : StatRow γ :=
  { r with memberCount := -1 * r.memberCount, memberWaiting := -1 * r.memberWaiting }

/-- The union of the old groups, negated, and the new ones, summed group by group. -/
def countChange (g : Member → γ) (oldData newData : List Member) : List (StatRow γ) :=
  groupBy StatRow.group
    (fun k rs => ⟨k, (rs.map StatRow.memberCount).sum, (rs.map StatRow.memberWaiting).sum⟩)
    ((countMembers g oldData).map StatRow.neg ++ countMembers g newData)

end Grouping

/-! ## The two tables -/

structure QueueBucket where
  queueId : Int
  bucketId : Option BucketId
  deriving DecidableEq

/-- The unique index `(queue_id, coalesce(bucket_id, 0))`. -/
def QueueBucket.conflictKey (k : QueueBucket) : Int × Int :=
  (k.queueId, (k.bucketId.map Subtype.val).getD 0)

structure QueueSkill where
  queueId : Int
  skillId : Int
  deriving DecidableEq

def Member.queueBucket (m : Member) : QueueBucket := ⟨m.queueId, m.bucketId⟩

/-- The grouping columns of the skill triggers, before groups without a skill go. -/
def Member.queueSkill (m : Member) : Int × Option Int := (m.queueId, m.skillId)

/-- `WHERE t.skill_id NOTNULL`. -/
def withSkill (groups : List (StatRow (Int × Option Int))) : List (StatRow QueueSkill) :=
  groups.filterMap fun r => r.group.2.map fun s =>
    ⟨⟨r.group.1, s⟩, r.memberCount, r.memberWaiting⟩

abbrev QueueStatistics := Stats QueueBucket.conflictKey
abbrev QueueSkillStatistics := Stats (id : QueueSkill → QueueSkill)

/-- The tables the triggers read and write. `queues` are the ids in `cc_queue`,
`communicationTypes` the `(domain_id, id)` of `cc_communication`. -/
structure StatDb where
  queues : List Int
  communicationTypes : List (Int × Int)
  members : Table Member.id
  queueStatistics : QueueStatistics
  queueSkillStatistics : QueueSkillStatistics

/-- The communication types of a member that its domain does not have; a domain
without any type is not looked at. -/
def badCommunicationTypes (types : List (Int × Int)) (m : Member) : Bool :=
  (types.any fun t => t.1 = m.domainId)
    && ((m.communications.getD []).filterMap Communication.typeId).any
      fun i => (m.domainId, i) ∉ types

/-! ## The trigger functions -/

def memberStatisticTriggerInserted (db : StatDb) (inserted : List Member) : Option StatDb :=
  if inserted.any (badCommunicationTypes db.communicationTypes) then none
  else do
    let t ← upsertAdd db.queueStatistics (countMembers Member.queueBucket inserted)
    return { db with queueStatistics := t }

/-- `cc_member_statistic_trigger_deleted`: only the members of a present queue. -/
def memberStatisticTriggerDeleted (db : StatDb) (deleted : List Member) : Option StatDb := do
  let t ← upsertSub db.queueStatistics
    (countMembers Member.queueBucket (deleted.filter fun m => m.queueId ∈ db.queues))
  return { db with queueStatistics := t }

def memberStatisticTriggerUpdated (db : StatDb) (oldData newData : List Member) :
    Option StatDb :=
  if newData.any (badCommunicationTypes db.communicationTypes) then none
  else do
    let t ← upsertAdd db.queueStatistics (countChange Member.queueBucket oldData newData)
    return { db with queueStatistics := t }

/-- `cc_member_statistic_skill_trigger_inserted`, which drops the members without a
skill before it groups them. -/
def memberStatisticSkillTriggerInserted (db : StatDb) (inserted : List Member) :
    Option StatDb := do
  let t ← upsertAdd db.queueSkillStatistics
    (withSkill (countMembers Member.queueSkill (inserted.filter fun m => m.skillId.isSome)))
  return { db with queueSkillStatistics := t }

def memberStatisticSkillTriggerDeleted (db : StatDb) (deleted : List Member) :
    Option StatDb := do
  let t ← upsertSub db.queueSkillStatistics (withSkill (countMembers Member.queueSkill deleted))
  return { db with queueSkillStatistics := t }

def memberStatisticSkillTriggerUpdated (db : StatDb) (oldData newData : List Member) :
    Option StatDb := do
  let t ← upsertAdd db.queueSkillStatistics
    (withSkill (countChange Member.queueSkill oldData newData))
  return { db with queueSkillStatistics := t }

/-! ## Statements on `cc_member` -/

/-- A statement on `cc_member`. The rows it writes are given as they are after the
row-level `BEFORE` triggers; an update may set any column but the primary key. -/
inductive Statement where
  | insert (rows : List Member)
  | update (where_ : Member → Bool) (set : Member → Member)
  | delete (where_ : Member → Bool)

/-- `cc_member_bucket_skill_check` and the foreign key to `cc_queue`. -/
def rowAllowed (db : StatDb) (m : Member) : Bool :=
  !(m.bucketId.isSome && m.skillId.isSome) && decide (m.queueId ∈ db.queues)

def updatedRow (set : Member → Member) (m : Member) : Member := { set m with id := m.id }

/-- One statement with its triggers, which run in the order of their names. -/
def exec? (db : StatDb) : Statement → Option StatDb
  | .insert rows =>
    if rows.all (rowAllowed db) then do
      let members ← db.members.insert? rows
      let db ← memberStatisticSkillTriggerInserted { db with members := members } rows
      memberStatisticTriggerInserted db rows
    else none
  | .update where_ set =>
    let oldData := db.members.rows.filter where_
    let newData := oldData.map (updatedRow set)
    if newData.all (rowAllowed db) then do
      let members := db.members.update where_ (updatedRow set) fun _ => rfl
      let db ← memberStatisticSkillTriggerUpdated { db with members := members } oldData newData
      memberStatisticTriggerUpdated db oldData newData
    else none
  | .delete where_ => do
    let deleted := db.members.rows.filter where_
    let db ← memberStatisticSkillTriggerDeleted
      { db with members := db.members.delete where_ } deleted
    memberStatisticTriggerDeleted db deleted

def exec (db : StatDb) (s : Statement) : StatDb := (exec? db s).getD db

def emptyStatDb (queues : List Int) (types : List (Int × Int)) : StatDb where
  queues := queues
  communicationTypes := types
  members := Table.empty
  queueStatistics := Table.empty
  queueSkillStatistics := Table.empty

def execAll (queues : List Int) (types : List (Int × Int)) (ss : List Statement) : StatDb :=
  ss.foldl exec (emptyStatDb queues types)

end CallCenter.Store
