import CallCenter.Store.MemberStatistic
import Mathlib.Tactic.Ring
import Mathlib.Tactic.Linarith

/-!
# Queue statistics never drift

After any sequence of statements on `cc_member`, each counter of the statistics tables is the number
of members it stands for. The two counters of a row are one parameter: `Counter.read` is the column
and `Counter.sees` says which members it counts.

Only the deleting triggers need the invariant. Their upsert subtracts when the row exists and
*inserts the number itself* when it does not; the second branch is never taken, because a member
that is being deleted has been counted.
-/

namespace CallCenter.Store

open Lib

inductive Counter where
  | count | waiting

namespace Counter

def read {γ : Type} : Counter → StatRow γ → Int
  | count, r => r.memberCount
  | waiting, r => r.memberWaiting

def sees : Counter → Member → Bool
  | count, _ => true
  | waiting, m => m.stopAt.isNone

/-- How many members of `ms` a counter counts in the group `p`. -/
def of (c : Counter) (p : Member → Bool) (ms : List Member) : Int :=
  ms.countP fun m => p m && c.sees m

variable (c : Counter) (p : Member → Bool)

theorem of_append (xs ys : List Member) :
    c.of p (xs ++ ys) = c.of p xs + c.of p ys := by
  rw [of, List.countP_append, Nat.cast_add]
  rfl

theorem of_filter (q : Member → Bool) (ms : List Member) (h : ∀ m ∈ ms, p m = true → q m = true) :
    c.of p (ms.filter q) = c.of p ms := by
  rw [of, of, List.countP_filter]
  refine congrArg Nat.cast (List.countP_congr fun m hm => ?_)
  cases hp : p m with
  | false => simp
  | true => simp [h m hm hp]

theorem of_split (w : Member → Bool) (ms : List Member) :
    c.of p ms = c.of p (ms.filter w) + c.of p (ms.filter fun m => !w m) := by
  rw [of, of, of, countP_split _ w ms, Nat.cast_add]

theorem of_update (w : Member → Bool) (f : Member → Member) (ms : List Member) :
    c.of p (ms.map fun m => if w m then f m else m)
      = c.of p ms - c.of p (ms.filter w) + c.of p ((ms.filter w).map f) := by
  have hcount := countP_rewrite (fun m => p m && c.sees m) w f ms
  rw [of, of, of, of]
  omega

end Counter

/-! ## What a statement's groups add up to -/

section Groups

variable {γ : Type} [DecidableEq γ]

/-- What the groups of a statement say about the group `k`. -/
def total (c : Counter) (groups : List (StatRow γ)) (k : γ) : Int :=
  ((groups.filter fun r => r.group = k).map c.read).sum

variable (c : Counter)

theorem total_append (xs ys : List (StatRow γ)) (k : γ) :
    total c (xs ++ ys) k = total c xs k + total c ys k := by
  rw [total, List.filter_append, List.map_append, List.sum_append]
  rfl

theorem total_cons (e : StatRow γ) (es : List (StatRow γ)) (k : γ) :
    total c (e :: es) k = (if e.group = k then c.read e else 0) + total c es k := by
  by_cases h : e.group = k <;> simp [total, h]

theorem total_neg (xs : List (StatRow γ)) (k : γ) :
    total c (xs.map StatRow.neg) k = - total c xs k := by
  induction xs with
  | nil => rfl
  | cons e es ih =>
    have hread : c.read e.neg = - c.read e := by
      cases c <;> simp [Counter.read, StatRow.neg]
    rw [List.map_cons, total_cons, total_cons, ih, hread]
    by_cases h : e.group = k
    · simp only [StatRow.neg, h, if_true]
      omega
    · simp [StatRow.neg, h]

theorem total_countMembers (g : Member → γ) (ms : List Member) (k : γ) :
    total c (countMembers g ms) k = c.of (fun m => g m = k) ms := by
  have hsum := sum_groupBy g (fun k ms => (⟨k, ms.length, ms.countP (·.stopAt.isNone)⟩ : StatRow γ))
    StatRow.group c.read (fun _ _ => rfl) (by intro k; cases c <;> rfl) ms k
  rw [total, countMembers, hsum]
  cases c with
  | count => simp [Counter.read, Counter.of, Counter.sees, List.countP_eq_length_filter]
  | waiting =>
    rw [Counter.read, Counter.of, List.countP_filter]
    refine congrArg Nat.cast (List.countP_congr fun m _ => ?_)
    simp [Counter.sees, Bool.and_comm]

theorem total_countChange (g : Member → γ) (oldData newData : List Member) (k : γ) :
    total c (countChange g oldData newData) k
      = c.of (fun m => g m = k) newData - c.of (fun m => g m = k) oldData := by
  have hsum := sum_groupBy StatRow.group
    (fun k rs => (⟨k, (rs.map StatRow.memberCount).sum, (rs.map StatRow.memberWaiting).sum⟩ :
      StatRow γ)) StatRow.group c.read (fun _ _ => rfl) (by intro k; cases c <;> rfl)
    ((countMembers g oldData).map StatRow.neg ++ countMembers g newData) k
  have hread : ∀ rs : List (StatRow γ), c.read
      (⟨k, (rs.map StatRow.memberCount).sum, (rs.map StatRow.memberWaiting).sum⟩ : StatRow γ)
        = (rs.map c.read).sum := by
    intro rs
    cases c <;> rfl
  have hunion := total_append c ((countMembers g oldData).map StatRow.neg)
    (countMembers g newData) k
  rw [total_neg, total_countMembers, total_countMembers] at hunion
  rw [total, countChange, hsum, hread]
  rw [total] at hunion
  omega

end Groups

theorem total_withSkill (c : Counter) (groups : List (StatRow (Int × Option Int)))
    (k : QueueSkill) : total c (withSkill groups) k = total c groups (k.queueId, some k.skillId) :=
      by
  induction groups with
  | nil => rfl
  | cons e es ih =>
    rw [total_cons, ← ih]
    obtain ⟨⟨q, s⟩, n, w⟩ := e
    cases s with
    | none => simp [withSkill]
    | some s =>
      have hcons : withSkill (⟨(q, some s), n, w⟩ :: es) = ⟨⟨q, s⟩, n, w⟩ :: withSkill es := rfl
      have hread : c.read (⟨⟨q, s⟩, n, w⟩ : StatRow QueueSkill)
          = c.read (⟨(q, some s), n, w⟩ : StatRow (Int × Option Int)) := by
        cases c <;> rfl
      rw [hcons, total_cons, hread]
      obtain ⟨q', s'⟩ := k
      simp

/-! ## What an upsert of groups does to a table -/

section Upsert

variable {γ ι : Type} [DecidableEq γ] [DecidableEq ι] {idx : γ → ι}

def fits (t : Stats idx) (e : StatRow γ) : Bool :=
  e.int4 && (t.get? (idx e.group)).all StatRow.int4

theorem total_eq_totalOf (hidx : Function.Injective idx) (c : Counter) (groups : List (StatRow γ))
    (k : γ) : Table.totalOf (fun r : StatRow γ => idx r.group) c.read groups (idx k)
      = total c groups k := by
  unfold Table.totalOf total
  simp only [hidx.eq_iff]

theorem reading_upsertAdd (hidx : Function.Injective idx) (c : Counter) (k : γ)
    (groups : List (StatRow γ)) {t t' : Stats idx} (h : upsertAdd t groups = some t') :
    Table.reading c.read t' (idx k) = Table.reading c.read t (idx k) + total c groups k := by
  have hadd : ∀ e r : StatRow γ, c.read (addExcluded e r) = c.read r + c.read e := by
    intro e r
    cases c <;> exact Int.add_comm _ _
  have hall : Table.upsertAll addExcluded (fun _ _ => rfl) fits t groups = some t' := h
  rw [← total_eq_totalOf hidx]
  exact Table.reading_upsertAll_add hadd hall (idx k)

theorem reading_upsertSub (hidx : Function.Injective idx) (c : Counter) (k : γ)
    (groups : List (StatRow γ)) {t t' : Stats idx}
    (hrows : ∀ e ∈ groups, (t.get? (idx e.group)).isSome) (h : upsertSub t groups = some t') :
    Table.reading c.read t' (idx k) = Table.reading c.read t (idx k) - total c groups k := by
  have hsub : ∀ e r : StatRow γ, c.read (subExcluded e r) = c.read r - c.read e := by
    intro e r
    cases c <;> rfl
  have hall : Table.upsertAll subExcluded (fun _ _ => rfl) fits t groups = some t' := h
  rw [← total_eq_totalOf hidx]
  exact Table.reading_upsertAll_sub hsub hrows hall (idx k)

end Upsert

/-! ## The invariant -/

def inBucket (k : QueueBucket) (m : Member) : Bool := m.queueBucket = k

def inSkill (k : QueueSkill) (m : Member) : Bool := m.queueSkill = (k.queueId, some k.skillId)

/-- The statistics are those of the members, and every member has its queue. -/
structure Consistent (db : StatDb) : Prop where
  present : ∀ m ∈ db.members.rows, m.queueId ∈ db.queues
  bucket : ∀ (c : Counter) (k : QueueBucket),
    Table.reading c.read db.queueStatistics k.conflictKey = c.of (inBucket k) db.members.rows
  skill : ∀ (c : Counter) (k : QueueSkill),
    Table.reading c.read db.queueSkillStatistics k = c.of (inSkill k) db.members.rows

theorem conflictKey_injective : Function.Injective QueueBucket.conflictKey := by
  intro a b h
  obtain ⟨qa, ba⟩ := a
  obtain ⟨qb, bb⟩ := b
  simp only [QueueBucket.conflictKey, Prod.mk.injEq] at h
  obtain ⟨hq, hb⟩ := h
  subst hq
  -- A bucket never coalesces to the zero that stands for no bucket.
  cases ba with
  | none =>
    cases bb with
    | none => rfl
    | some b => exact absurd hb.symm b.property
  | some a =>
    cases bb with
    | none => exact absurd hb a.property
    | some b => rw [Subtype.ext hb]

theorem consistent_empty (queues : List Int) (types : List (Int × Int)) :
    Consistent (emptyStatDb queues types) where
  present := by
    intro m hm
    exact absurd hm (by simp [emptyStatDb, Table.empty])
  bucket := fun _ _ => rfl
  skill := fun _ _ => rfl

theorem isSome_of_reading_pos {γ ι : Type} [DecidableEq ι] {idx : γ → ι} {t : Stats idx} {i : ι}
    {c : Counter} (h : 0 < Table.reading c.read t i) : (t.get? i).isSome := by
  cases hg : t.get? i with
  | some r => rfl
  | none =>
    rw [Table.reading, hg] at h
    exact absurd h (by simp)

variable {ms : List Member}

theorem mem_countMembers {γ : Type} [DecidableEq γ] {g : Member → γ} {e : StatRow γ}
    (he : e ∈ countMembers g ms) : ∃ m ∈ ms, g m = e.group := by
  rw [countMembers, groupBy] at he
  obtain ⟨k, hk, rfl⟩ := List.mem_map.mp he
  obtain ⟨m, hm, rfl⟩ := List.mem_map.mp (List.mem_dedup.mp hk)
  exact ⟨m, hm, rfl⟩

theorem of_pos {p : Member → Bool} {m : Member} (hm : m ∈ ms) (hp : p m = true) :
    0 < Counter.count.of p ms := by
  rw [Counter.of]
  exact_mod_cast List.countP_pos_iff.mpr ⟨m, hm, by simp [hp, Counter.sees]⟩

/-! ## The triggers -/

variable {db db' : StatDb}

theorem triggerInserted_spec (h : memberStatisticTriggerInserted db ms = some db') :
    ∃ t, db' = { db with queueStatistics := t } ∧ ∀ (c : Counter) (k : QueueBucket),
      Table.reading c.read t k.conflictKey
        = Table.reading c.read db.queueStatistics k.conflictKey + c.of (inBucket k) ms := by
  rw [memberStatisticTriggerInserted] at h
  split at h
  · exact absurd h (by simp)
  · obtain ⟨t, ht, hdb⟩ := Option.bind_eq_some_iff.mp h
    refine ⟨t, (Option.some.inj hdb).symm, fun c k => ?_⟩
    rw [reading_upsertAdd conflictKey_injective c k _ ht, total_countMembers]
    rfl

theorem triggerUpdated_spec {old new : List Member}
    (h : memberStatisticTriggerUpdated db old new = some db') :
    ∃ t, db' = { db with queueStatistics := t } ∧ ∀ (c : Counter) (k : QueueBucket),
      Table.reading c.read t k.conflictKey
        = Table.reading c.read db.queueStatistics k.conflictKey
          + (c.of (inBucket k) new - c.of (inBucket k) old) := by
  rw [memberStatisticTriggerUpdated] at h
  split at h
  · exact absurd h (by simp)
  · obtain ⟨t, ht, hdb⟩ := Option.bind_eq_some_iff.mp h
    refine ⟨t, (Option.some.inj hdb).symm, fun c k => ?_⟩
    rw [reading_upsertAdd conflictKey_injective c k _ ht, total_countChange]
    rfl

theorem triggerDeleted_spec (h : memberStatisticTriggerDeleted db ms = some db')
    (hpresent : ∀ m ∈ ms, m.queueId ∈ db.queues)
    (hcounted : ∀ m ∈ ms, 0 < Table.reading Counter.count.read db.queueStatistics
      m.queueBucket.conflictKey) :
    ∃ t, db' = { db with queueStatistics := t } ∧ ∀ (c : Counter) (k : QueueBucket),
      Table.reading c.read t k.conflictKey
        = Table.reading c.read db.queueStatistics k.conflictKey - c.of (inBucket k) ms := by
  obtain ⟨t, ht, hdb⟩ := Option.bind_eq_some_iff.mp h
  have hall : ms.filter (fun m => m.queueId ∈ db.queues) = ms :=
    List.filter_eq_self.mpr fun m hm => by simpa using hpresent m hm
  rw [hall] at ht
  refine ⟨t, (Option.some.inj hdb).symm, fun c k => ?_⟩
  have hrows : ∀ e ∈ countMembers Member.queueBucket ms,
      (db.queueStatistics.get? e.group.conflictKey).isSome := by
    intro e he
    obtain ⟨m, hm, hg⟩ := mem_countMembers he
    rw [← hg]
    exact isSome_of_reading_pos (hcounted m hm)
  rw [reading_upsertSub conflictKey_injective c k _ hrows ht, total_countMembers]
  rfl

theorem skillTriggerInserted_spec (h : memberStatisticSkillTriggerInserted db ms = some db') :
    ∃ t, db' = { db with queueSkillStatistics := t } ∧ ∀ (c : Counter) (k : QueueSkill),
      Table.reading c.read t k
        = Table.reading c.read db.queueSkillStatistics k + c.of (inSkill k) ms := by
  obtain ⟨t, ht, hdb⟩ := Option.bind_eq_some_iff.mp h
  refine ⟨t, (Option.some.inj hdb).symm, fun c k => ?_⟩
  have hadd := reading_upsertAdd Function.injective_id c k _ ht
  rw [total_withSkill, total_countMembers, Counter.of_filter] at hadd
  · exact hadd
  · intro m _ hm
    simp only [Member.queueSkill, decide_eq_true_eq, Prod.mk.injEq] at hm
    rw [hm.2]
    rfl

theorem skillTriggerUpdated_spec {old new : List Member}
    (h : memberStatisticSkillTriggerUpdated db old new = some db') :
    ∃ t, db' = { db with queueSkillStatistics := t } ∧ ∀ (c : Counter) (k : QueueSkill),
      Table.reading c.read t k
        = Table.reading c.read db.queueSkillStatistics k
          + (c.of (inSkill k) new - c.of (inSkill k) old) := by
  obtain ⟨t, ht, hdb⟩ := Option.bind_eq_some_iff.mp h
  refine ⟨t, (Option.some.inj hdb).symm, fun c k => ?_⟩
  have hadd := reading_upsertAdd Function.injective_id c k _ ht
  rw [total_withSkill, total_countChange] at hadd
  exact hadd

theorem skillTriggerDeleted_spec (h : memberStatisticSkillTriggerDeleted db ms = some db')
    (hcounted : ∀ m ∈ ms, ∀ s, m.skillId = some s → 0 < Table.reading Counter.count.read
      db.queueSkillStatistics ⟨m.queueId, s⟩) :
    ∃ t, db' = { db with queueSkillStatistics := t } ∧ ∀ (c : Counter) (k : QueueSkill),
      Table.reading c.read t k
        = Table.reading c.read db.queueSkillStatistics k - c.of (inSkill k) ms := by
  obtain ⟨t, ht, hdb⟩ := Option.bind_eq_some_iff.mp h
  refine ⟨t, (Option.some.inj hdb).symm, fun c k => ?_⟩
  have hrows : ∀ e ∈ withSkill (countMembers Member.queueSkill ms),
      (db.queueSkillStatistics.get? (id e.group)).isSome := by
    intro e he
    rw [withSkill] at he
    obtain ⟨r, hr, hre⟩ := List.mem_filterMap.mp he
    obtain ⟨s, hs, rfl⟩ := Option.map_eq_some_iff.mp hre
    obtain ⟨m, hm, hg⟩ := mem_countMembers hr
    rw [← hg] at hs ⊢
    exact isSome_of_reading_pos (hcounted m hm s hs)
  have hsub := reading_upsertSub Function.injective_id c k _ hrows ht
  rw [total_withSkill, total_countMembers] at hsub
  exact hsub

/-! ## Every statement keeps the statistics -/

theorem rowAllowed_present {m : Member} (h : rowAllowed db m = true) :
    m.queueId ∈ db.queues := by
  rw [rowAllowed, Bool.and_eq_true] at h
  exact of_decide_eq_true h.2

theorem consistent_insert {rows : List Member} (hc : Consistent db)
    (h : exec? db (.insert rows) = some db') : Consistent db' := by
  rw [exec?] at h
  split at h
  · rename_i hallowed
    obtain ⟨members, hins, h⟩ := Option.bind_eq_some_iff.mp h
    obtain ⟨db₁, hskill, hbucket⟩ := Option.bind_eq_some_iff.mp h
    obtain ⟨t₁, rfl, hs⟩ := skillTriggerInserted_spec hskill
    obtain ⟨t₂, rfl, hb⟩ := triggerInserted_spec hbucket
    have hrows := Table.rows_of_insert? hins
    refine ⟨fun m hm => ?_, fun c k => ?_, fun c k => ?_⟩
    · rw [hrows] at hm
      rcases List.mem_append.mp hm with hm | hm
      · exact hc.present m hm
      · exact rowAllowed_present (List.all_eq_true.mp hallowed m hm)
    · rw [hb c k, hrows, Counter.of_append, ← hc.bucket c k]
    · rw [hs c k, hrows, Counter.of_append, ← hc.skill c k]
  · exact absurd h (by simp)

theorem consistent_update {w : Member → Bool} {set : Member → Member} (hc : Consistent db)
    (h : exec? db (.update w set) = some db') : Consistent db' := by
  rw [exec?] at h
  simp only at h
  split at h
  · rename_i hallowed
    obtain ⟨db₁, hskill, hbucket⟩ := Option.bind_eq_some_iff.mp h
    obtain ⟨t₁, rfl, hs⟩ := skillTriggerUpdated_spec hskill
    obtain ⟨t₂, rfl, hb⟩ := triggerUpdated_spec hbucket
    refine ⟨fun m hm => ?_, fun c k => ?_, fun c k => ?_⟩
    · obtain ⟨m₀, hm₀, rfl⟩ := List.mem_map.mp hm
      by_cases hw : w m₀
      · rw [if_pos hw]
        exact rowAllowed_present (List.all_eq_true.mp hallowed _
          (List.mem_map_of_mem (List.mem_filter.mpr ⟨hm₀, hw⟩)))
      · rw [if_neg hw]
        exact hc.present m₀ hm₀
    · have hrows := c.of_update (inBucket k) w (updatedRow set) db.members.rows
      have hold := hc.bucket c k
      rw [hb c k]
      simp only [Table.update]
      omega
    · have hrows := c.of_update (inSkill k) w (updatedRow set) db.members.rows
      have hold := hc.skill c k
      have hnew := hs c k
      simp only [Table.update] at hnew ⊢
      omega
  · exact absurd h (by simp)

theorem consistent_delete {w : Member → Bool} (hc : Consistent db)
    (h : exec? db (.delete w) = some db') : Consistent db' := by
  obtain ⟨db₁, hskill, hbucket⟩ := Option.bind_eq_some_iff.mp h
  -- A row that is deleted was counted, so the upserts find the rows they subtract from.
  have hskillCounted : ∀ m ∈ db.members.rows.filter w, ∀ s, m.skillId = some s →
      0 < Table.reading Counter.count.read db.queueSkillStatistics ⟨m.queueId, s⟩ := by
    intro m hm s hs
    rw [hc.skill]
    exact of_pos (List.mem_of_mem_filter hm) (by simp [inSkill, Member.queueSkill, hs])
  have hbucketCounted : ∀ m ∈ db.members.rows.filter w,
      0 < Table.reading Counter.count.read db.queueStatistics m.queueBucket.conflictKey := by
    intro m hm
    rw [hc.bucket]
    exact of_pos (List.mem_of_mem_filter hm) (by simp [inBucket])
  obtain ⟨t₁, rfl, hs⟩ := skillTriggerDeleted_spec hskill hskillCounted
  obtain ⟨t₂, rfl, hb⟩ := triggerDeleted_spec hbucket
    (fun m hm => hc.present m (List.mem_of_mem_filter hm)) hbucketCounted
  refine ⟨fun m hm => hc.present m (List.mem_of_mem_filter hm), fun c k => ?_, fun c k => ?_⟩
  · have hsplit := c.of_split (inBucket k) w db.members.rows
    have hold := hc.bucket c k
    rw [hb c k]
    simp only [Table.delete]
    omega
  · have hsplit := c.of_split (inSkill k) w db.members.rows
    have hold := hc.skill c k
    have hnew := hs c k
    simp only [Table.delete] at hnew ⊢
    omega

theorem consistent_exec (hc : Consistent db) (s : Statement) :
    Consistent (exec db s) := by
  rw [exec]
  cases h : exec? db s with
  | none => exact hc
  | some db' =>
    cases s with
    | insert rows => exact consistent_insert hc h
    | update w set => exact consistent_update hc h
    | delete w => exact consistent_delete hc h

theorem consistent_run (queues : List Int) (types : List (Int × Int)) (ss : List Statement) :
    Consistent (execAll queues types ss) := by
  suffices h : ∀ db, Consistent db → Consistent (ss.foldl exec db) from
    h _ (consistent_empty queues types)
  induction ss with
  | nil => exact fun db hc => hc
  | cons s ss ih => exact fun db hc => ih _ (consistent_exec hc s)

/-- **Queue statistics never drift.** After any statements on `cc_member`, run from
empty tables, every counter is the number of members it stands for. -/
theorem statistics_never_drift (queues : List Int) (types : List (Int × Int))
    (ss : List Statement) :
    (∀ (q : Int) (b : Option BucketId),
      Table.reading StatRow.memberCount (execAll queues types ss).queueStatistics
          (QueueBucket.mk q b).conflictKey
        = (execAll queues types ss).members.rows.countP
            (fun m => m.queueId = q && m.bucketId = b)
      ∧ Table.reading StatRow.memberWaiting (execAll queues types ss).queueStatistics
          (QueueBucket.mk q b).conflictKey
        = (execAll queues types ss).members.rows.countP
            (fun m => (m.queueId = q && m.bucketId = b) && m.stopAt.isNone))
      ∧ ∀ q s : Int,
        Table.reading StatRow.memberCount (execAll queues types ss).queueSkillStatistics ⟨q, s⟩
          = (execAll queues types ss).members.rows.countP
              (fun m => m.queueId = q && m.skillId = some s)
        ∧ Table.reading StatRow.memberWaiting (execAll queues types ss).queueSkillStatistics ⟨q, s⟩
          = (execAll queues types ss).members.rows.countP
              (fun m => (m.queueId = q && m.skillId = some s) && m.stopAt.isNone) := by
  have hc := consistent_run queues types ss
  have hbucket : ∀ (q : Int) (b : Option BucketId) (m : Member),
      inBucket ⟨q, b⟩ m = (decide (m.queueId = q) && decide (m.bucketId = b)) := by
    intro q b m
    simp [inBucket, Member.queueBucket]
  have hskill : ∀ (q s : Int) (m : Member),
      inSkill ⟨q, s⟩ m = (decide (m.queueId = q) && decide (m.skillId = some s)) := by
    intro q s m
    simp [inSkill, Member.queueSkill]
  refine ⟨fun q b => ⟨?_, ?_⟩, fun q s => ⟨?_, ?_⟩⟩
  · refine (hc.bucket .count ⟨q, b⟩).trans (congrArg Nat.cast (List.countP_congr fun m _ => ?_))
    simp [hbucket, Counter.sees]
  · refine (hc.bucket .waiting ⟨q, b⟩).trans (congrArg Nat.cast (List.countP_congr fun m _ => ?_))
    simp [hbucket, Counter.sees]
  · refine (hc.skill .count ⟨q, s⟩).trans (congrArg Nat.cast (List.countP_congr fun m _ => ?_))
    simp [hskill, Counter.sees]
  · refine (hc.skill .waiting ⟨q, s⟩).trans (congrArg Nat.cast (List.countP_congr fun m _ => ?_))
    simp [hskill, Counter.sees]

end CallCenter.Store
