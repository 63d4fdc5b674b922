import CallCenter.Lib.Run
import CallCenter.Lib.Table

/-!
# The statement triggers that count the numbers of a list

`cc_list_statistics` holds for every list how many numbers `cc_list_communications` has of it. One
trigger function adds the groups of the rows that a statement inserted, the other subtracts those of
the rows that it deleted. There is no trigger for updates, so a number that an update moves to
another list stays counted where it was. A count is right as long as every update leaves each list
with as many of the numbers it touches as it had of them.

A statement whose triggers or constraints raise an error is rolled back as a whole.
-/

namespace CallCenter.Store.Lists

open Lib

structure ListCommunication where
  id : Int
  listId : Int
  number : String
  description : Option String
  expireAt : Option Int

structure ListStatistic where
  listId : Int
  count : Int

def int4 (n : Int) : Bool := -2147483648 ≤ n && n ≤ 2147483647

def ListStatistic.int4 (r : ListStatistic) : Bool := Lists.int4 r.listId && Lists.int4 r.count

abbrev ListStatistics := Table ListStatistic.listId

/-- The tables of the triggers. `lists` are the ids in `cc_list`. -/
structure ListDb where
  lists : List Int
  communications : Table ListCommunication.id
  statistics : ListStatistics

def countLists (rows : List ListCommunication) : List ListStatistic :=
  groupBy ListCommunication.listId (fun k rows => ⟨k, rows.length⟩) rows

def fits (t : ListStatistics) (e : ListStatistic) : Bool :=
  e.int4 && (t.get? e.listId).all ListStatistic.int4

/-- `SET count = EXCLUDED.count + count`. -/
def addExcluded (excluded r : ListStatistic) : ListStatistic :=
  { r with count := excluded.count + r.count }

/-- `SET count = count - EXCLUDED.count`. -/
def subExcluded (excluded r : ListStatistic) : ListStatistic :=
  { r with count := r.count - excluded.count }

def listStatisticsTriggerInserted (db : ListDb) (inserted : List ListCommunication) :
    Option ListDb := do
  let t ← Table.upsertAll addExcluded (fun _ _ => rfl) fits db.statistics (countLists inserted)
  return { db with statistics := t }

/-- `cc_list_statistics_trigger_deleted`: only the numbers of a present list. -/
def listStatisticsTriggerDeleted (db : ListDb) (deleted : List ListCommunication) :
    Option ListDb := do
  let t ← Table.upsertAll subExcluded (fun _ _ => rfl) fits db.statistics
    (countLists (deleted.filter fun c => c.listId ∈ db.lists))
  return { db with statistics := t }

/-! ## Statements on `cc_list_communications` -/

/-- A statement. An update may set any column. -/
inductive ListStatement where
  | insert (rows : List ListCommunication)
  | update (where_ : ListCommunication → Bool) (set : ListCommunication → ListCommunication)
  | delete (where_ : ListCommunication → Bool)

/-- The foreign key to `cc_list`, and `number varchar(256)`. -/
def rowAllowed (db : ListDb) (c : ListCommunication) : Bool :=
  decide (c.listId ∈ db.lists) && decide (c.number.length ≤ 256)

def numbersUnique (rows : List ListCommunication) : Bool :=
  decide (rows.map fun c => (c.listId, c.number)).Nodup

def exec? (db : ListDb) : ListStatement → Option ListDb
  | .insert rows =>
    if rows.all (rowAllowed db) then do
      let communications ← db.communications.insert? rows
      if numbersUnique communications.rows then
        listStatisticsTriggerInserted { db with communications := communications } rows
      else none
    else none
  | .update where_ set =>
    if ((db.communications.rows.filter where_).map set).all (rowAllowed db) then do
      let communications ← db.communications.rewrite? where_ set
      if numbersUnique communications.rows then
        return { db with communications := communications }
      else none
    else none
  | .delete where_ =>
    listStatisticsTriggerDeleted { db with communications := db.communications.delete where_ }
      (db.communications.rows.filter where_)

def listStep (db : ListDb) (s : ListStatement) : Option ListDb := some ((exec? db s).getD db)

def emptyListDb (lists : List Int) : ListDb where
  lists := lists
  communications := Table.empty
  statistics := Table.empty

def numbersOn (k : Int) (rows : List ListCommunication) : Nat := rows.countP fun c => c.listId = k

/-- The condition on a statement, in the state before it: an update leaves every list with as many
of the numbers it touches as the list had of them. -/
def keepsLists (db : ListDb) : ListStatement → Prop
  | .update where_ set => ∀ k, numbersOn k ((db.communications.rows.filter where_).map set)
      = numbersOn k (db.communications.rows.filter where_)
  | _ => True

/-! ## What the triggers do to the counts -/

/-- What the table says of a list; no row counts as zero. -/
def ListDb.counted (db : ListDb) (k : Int) : Int :=
  Table.reading ListStatistic.count db.statistics k

theorem totalOf_countLists (rows : List ListCommunication) (k : Int) :
    Table.totalOf ListStatistic.listId ListStatistic.count (countLists rows) k =
      numbersOn k rows := by
  have hsum := sum_groupBy ListCommunication.listId
    (fun k rows => (⟨k, rows.length⟩ : ListStatistic)) ListStatistic.listId ListStatistic.count
    (fun _ _ => rfl) (fun _ => rfl) rows k
  unfold Table.totalOf countLists numbersOn
  rw [hsum, List.countP_eq_length_filter]

theorem triggerInserted_spec {db db' : ListDb} {rows : List ListCommunication}
    (h : listStatisticsTriggerInserted db rows = some db') :
    db'.lists = db.lists ∧ db'.communications = db.communications
      ∧ ∀ k, db'.counted k = db.counted k + numbersOn k rows := by
  obtain ⟨t, ht, hdb⟩ := Option.bind_eq_some_iff.mp h
  cases hdb
  refine ⟨rfl, rfl, fun k => ?_⟩
  rw [← totalOf_countLists]
  exact Table.reading_upsertAll_add (fun e r => Int.add_comm _ _) ht k

theorem isSome_of_counted {db : ListDb} {k : Int} (h : db.counted k ≠ 0) :
    (db.statistics.get? k).isSome := by
  cases hget : db.statistics.get? k with
  | some r => rfl
  | none =>
    refine absurd ?_ h
    unfold ListDb.counted Table.reading
    rw [hget]
    rfl

theorem triggerDeleted_spec {db db' : ListDb} {rows : List ListCommunication}
    (h : listStatisticsTriggerDeleted db rows = some db')
    (hpresent : ∀ c ∈ rows, c.listId ∈ db.lists) (hcounted : ∀ c ∈ rows, db.counted c.listId ≠ 0) :
    db'.lists = db.lists ∧ db'.communications = db.communications
      ∧ ∀ k, db'.counted k = db.counted k - numbersOn k rows := by
  obtain ⟨t, ht, hdb⟩ := Option.bind_eq_some_iff.mp h
  have hall : rows.filter (fun c => c.listId ∈ db.lists) = rows :=
    List.filter_eq_self.mpr fun c hc => decide_eq_true (hpresent c hc)
  have hrows : ∀ e ∈ countLists rows, (db.statistics.get? e.listId).isSome := by
    intro e he
    obtain ⟨k, hk, rfl⟩ := List.mem_map.mp he
    obtain ⟨c, hc, rfl⟩ := List.mem_map.mp (List.mem_dedup.mp hk)
    exact isSome_of_counted (hcounted c hc)
  cases hdb
  rw [hall] at ht
  refine ⟨rfl, rfl, fun k => ?_⟩
  rw [← totalOf_countLists]
  exact Table.reading_upsertAll_sub (fun _ _ => rfl) hrows ht k

/-! ## The invariant -/

/-- The counts are those of the numbers, and every number has its list. -/
structure Accurate (db : ListDb) : Prop where
  present : ∀ c ∈ db.communications.rows, c.listId ∈ db.lists
  counts : ∀ k, db.counted k = numbersOn k db.communications.rows

theorem accurate_empty (lists : List Int) : Accurate (emptyListDb lists) where
  present := fun _ hc => absurd hc List.not_mem_nil
  counts := fun _ => rfl

theorem rowAllowed_present {db : ListDb} {c : ListCommunication} (h : rowAllowed db c = true) :
    c.listId ∈ db.lists := by
  unfold rowAllowed at h
  rw [Bool.and_eq_true] at h
  exact of_decide_eq_true h.1

section Statements

variable {db db' : ListDb}

theorem accurate_insert {rows : List ListCommunication} (h : Accurate db)
    (hexec : exec? db (.insert rows) = some db') : Accurate db' := by
  obtain ⟨hallowed, hexec⟩ := Option.ite_none_right_eq_some.mp hexec
  obtain ⟨communications, hinsert, hexec⟩ := Option.bind_eq_some_iff.mp hexec
  obtain ⟨-, hexec⟩ := Option.ite_none_right_eq_some.mp hexec
  have hrows := Table.rows_of_insert? hinsert
  obtain ⟨hlists, hkept, hcounts⟩ := triggerInserted_spec hexec
  constructor
  · grind [cases Accurate, rowAllowed_present]
  · intro k
    have hold : db.counted k = numbersOn k db.communications.rows := h.counts k
    rw [hcounts k, hkept, hrows]
    unfold numbersOn at hold ⊢
    rw [List.countP_append, Nat.cast_add, ← hold]
    rfl

theorem accurate_update_iff {where_ : ListCommunication → Bool}
    {set : ListCommunication → ListCommunication} (h : Accurate db)
    (hexec : exec? db (.update where_ set) = some db') :
    Accurate db' ↔ keepsLists db (.update where_ set) := by
  obtain ⟨hallowed, hexec⟩ := Option.ite_none_right_eq_some.mp hexec
  obtain ⟨communications, hrewrite, hexec⟩ := Option.bind_eq_some_iff.mp hexec
  obtain ⟨-, heq⟩ := Option.ite_none_right_eq_some.mp hexec
  cases heq
  have hrows : communications.rows
      = db.communications.rows.map fun c => if where_ c then set c else c := by
    grind [Table.rewrite?]
  -- The numbers it touches leave their lists and come back to others; the counts stay.
  have hsize : ∀ k, numbersOn k communications.rows + numbersOn k
      (db.communications.rows.filter where_)
      = numbersOn k db.communications.rows
        + numbersOn k ((db.communications.rows.filter where_).map set) := by
    intro k
    rw [hrows]
    exact countP_rewrite _ where_ set _
  have hcount : ∀ k, db.counted k = numbersOn k db.communications.rows := h.counts
  constructor
  · intro h' k
    have hnew : db.counted k = numbersOn k communications.rows := h'.counts k
    have := hsize k
    have := hcount k
    omega
  · intro hkeeps
    constructor
    · grind [cases Accurate, rowAllowed_present]
    · intro k
      show db.counted k = numbersOn k communications.rows
      have := hsize k
      have := hcount k
      have := hkeeps k
      omega

theorem accurate_delete {where_ : ListCommunication → Bool} (h : Accurate db)
    (hexec : exec? db (.delete where_) = some db') : Accurate db' := by
  have hold : ∀ c ∈ db.communications.rows.filter where_, c ∈ db.communications.rows :=
    fun c hc => List.mem_of_mem_filter hc
  have hcounted : ∀ c ∈ db.communications.rows.filter where_, db.counted c.listId ≠ 0 := by
    grind [cases Accurate, numbersOn, List.countP_pos_iff]
  obtain ⟨hlists, hkept, hcounts⟩ :=
    triggerDeleted_spec hexec (fun c hc => h.present c (hold c hc)) hcounted
  constructor
  · intro c hc
    rw [hkept] at hc
    rw [hlists]
    exact h.present c (List.mem_of_mem_filter hc)
  · intro k
    have hsplit : numbersOn k db.communications.rows = numbersOn k
        (db.communications.rows.filter where_)
        + numbersOn k (db.communications.delete where_).rows := countP_split _ where_ _
    have hcount : db.counted k = numbersOn k db.communications.rows := h.counts k
    rw [hcounts k, hkept]
    show db.counted k - _ = numbersOn k (db.communications.delete where_).rows
    omega

theorem accurate_step {s : ListStatement} (h : Accurate db) (hok : keepsLists db s)
    (hstep : listStep db s = some db') : Accurate db' := by
  cases hstep
  cases hexec : exec? db s with
  | none => exact h
  | some db₁ =>
    cases s with
    | insert rows => exact accurate_insert h hexec
    | update where_ set => exact (accurate_update_iff h hexec).mpr hok
    | delete where_ => exact accurate_delete h hexec

end Statements

/-- **The counts of the lists never drift**, as long as no update changes how many numbers a list
has. -/
theorem list_counts_never_drift (lists : List Int) (statements : List ListStatement) {db : ListDb}
    (hok : Along listStep keepsLists (emptyListDb lists) statements)
    (hrun : run listStep (emptyListDb lists) statements = some db) (k : Int) :
    Table.reading ListStatistic.count db.statistics k
      = db.communications.rows.countP fun c => c.listId = k :=
  (run_invariant (fun _ _ _ h hok hstep => accurate_step h hok hstep) statements
    (accurate_empty lists) hok hrun).counts k

/-- Two numbers of list 1, and one of them goes; then the other gets a description. -/
def keptStatements : List ListStatement :=
  [.insert [⟨1, 1, "100", none, none⟩, ⟨2, 1, "200", none, none⟩], .delete fun c => c.id = 1,
    .update (fun _ => true) fun c => { c with description := some "vip" }]

theorem keptStatements_keep : Along listStep keepsLists (emptyListDb [1, 2]) keptStatements := by
  refine ⟨trivial, fun _ _ => ⟨trivial, fun db hdb => ⟨fun k => ?_, fun _ _ => trivial⟩⟩⟩
  unfold numbersOn
  rw [List.countP_map]
  rfl

theorem keptStatements_counted : ∃ db, run listStep (emptyListDb [1, 2]) keptStatements = some db
    ∧ Table.reading ListStatistic.count db.statistics 1
      = db.communications.rows.countP fun c => c.listId = 1 :=
  ⟨_, rfl, list_counts_never_drift [1, 2] keptStatements keptStatements_keep rfl 1⟩

/-- A number is moved from list 1 to list 2, and is counted where it was. -/
theorem moved_number_miscounted : ∃ db, run listStep (emptyListDb [1, 2])
    [.insert [⟨1, 1, "100", none, none⟩], .update (fun _ => true) fun c => { c with listId := 2 }]
      = some db
    ∧ (db.communications.rows.countP fun c => c.listId = 1) = 0
    ∧ Table.reading ListStatistic.count db.statistics 1 = 1
    ∧ (db.communications.rows.countP fun c => c.listId = 2) = 1
    ∧ Table.reading ListStatistic.count db.statistics 2 = 0 :=
  ⟨_, rfl, by decide, by decide, by decide, by decide⟩

end CallCenter.Store.Lists
