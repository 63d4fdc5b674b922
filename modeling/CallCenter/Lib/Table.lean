import Mathlib.Data.List.Nodup
import Mathlib.Data.List.Dedup
import Mathlib.Algebra.BigOperators.Group.List.Basic
import Mathlib.Tactic.Abel

/-!
# Tables with a unique index

A table is a list of rows no two of which have the same key. `update`, `delete`,
`insert?` and `upsert` are the statements of SQL with those names: an update sets
columns of the rows that satisfy a condition, and leaves the key alone; an upsert
inserts a row, or updates the row that already has its key.

`reading φ t k` is what a number stored in the row of key `k` says, a missing row
counting as zero. The rules at the end are about maintaining such numbers by
upserts, and about the groups of a `GROUP BY` that feed them.
-/

namespace CallCenter.Lib

variable {ρ κ : Type} {key : ρ → κ}

structure Table {ρ κ : Type} (key : ρ → κ) where
  rows : List ρ
  nodup : (rows.map key).Nodup

namespace Table

def empty : Table key := ⟨[], List.nodup_nil⟩

def single (r : ρ) : Table key := ⟨[r], List.nodup_singleton _⟩

def update (t : Table key) (p : ρ → Bool) (f : ρ → ρ) (h : ∀ r, key (f r) = key r) :
    Table key where
  rows := t.rows.map fun r => if p r then f r else r
  nodup := by
    have hkeys : t.rows.map (key ∘ fun r => if p r then f r else r) = t.rows.map key := by
      refine List.map_congr_left fun r _ => ?_
      by_cases hp : p r <;> simp [hp, h]
    rw [List.map_map, hkeys]
    exact t.nodup

def delete (t : Table key) (p : ρ → Bool) : Table key where
  rows := t.rows.filter fun r => !p r
  nodup := t.nodup.sublist (List.filter_sublist.map key)

variable [DecidableEq κ]

def get? (t : Table key) (k : κ) : Option ρ := t.rows.find? fun r => key r = k

/-- The row with the key of `r`, if there is one, becomes `r`. -/
def replace (t : Table key) (r : ρ) : Table key where
  rows := t.rows.map fun x => if key x = key r then r else x
  nodup := by
    have hkeys : t.rows.map (key ∘ fun x => if key x = key r then r else x) = t.rows.map key := by
      refine List.map_congr_left fun x _ => ?_
      by_cases hx : key x = key r <;> simp [hx]
    rw [List.map_map, hkeys]
    exact t.nodup

/-- `UPDATE … SET f WHERE p` that may set the key, refused when two rows get the same. -/
def rewrite? (t : Table key) (p : ρ → Bool) (f : ρ → ρ) : Option (Table key) :=
  if h : ((t.rows.map fun r => if p r then f r else r).map key).Nodup then some ⟨_, h⟩ else none

def insert? (t : Table key) (new : List ρ) : Option (Table key) :=
  if h : ((t.rows ++ new).map key).Nodup then some ⟨t.rows ++ new, h⟩ else none

def upsert (t : Table key) (new : ρ) (f : ρ → ρ) (h : ∀ r, key (f r) = key r) : Table key :=
  if hk : key new ∈ t.rows.map key then t.update (fun r => key r = key new) f h
  else ⟨t.rows ++ [new], by
    rw [List.map_append, List.map_singleton]
    exact List.nodup_append'.mpr ⟨t.nodup, List.nodup_singleton _, by simpa using hk⟩⟩

variable {t : Table key} {k : κ}

theorem get?_eq_some {r : ρ} :
    t.get? k = some r ↔ r ∈ t.rows ∧ key r = k := by
  constructor
  · intro h
    exact ⟨List.mem_of_find?_eq_some h, by simpa using List.find?_some h⟩
  · rintro ⟨hr, rfl⟩
    have hsome : (t.get? (key r)).isSome :=
      List.find?_isSome.mpr ⟨r, hr, by simp⟩
    obtain ⟨r', hr'⟩ := Option.isSome_iff_exists.mp hsome
    have hkey : key r' = key r := by simpa using List.find?_some hr'
    rw [hr', List.inj_on_of_nodup_map t.nodup (List.mem_of_find?_eq_some hr') hr hkey]

theorem get?_eq_none :
    t.get? k = none ↔ k ∉ t.rows.map key := by
  simp [get?, List.find?_eq_none]

theorem rows_of_insert? {t' : Table key} {new : List ρ} (h : t.insert? new = some t') :
    t'.rows = t.rows ++ new := by
  obtain ⟨_, ht'⟩ := Option.dite_none_right_eq_some.mp h
  rw [← Option.some.inj ht']

theorem get?_insert? {t' : Table key} {new : List ρ} (h : t.insert? new = some t') {r : ρ} :
    t'.get? k = some r ↔ t.get? k = some r ∨ r ∈ new ∧ key r = k := by
  rw [get?_eq_some, get?_eq_some, rows_of_insert? h, List.mem_append, or_and_right]

variable {f : ρ → ρ}

theorem get?_update_of_ne {h : ∀ r, key (f r) = key r} {k' : κ} (hne : k' ≠ k) :
    (t.update (fun r => key r = k) f h).get? k' = t.get? k' := by
  refine Option.ext fun r => ?_
  grind [update, get?_eq_some]

theorem get?_update {h : ∀ r, key (f r) = key r} :
    (t.update (fun r => key r = k) f h).get? k = (t.get? k).map f := by
  refine Option.ext fun r => ?_
  rw [get?_eq_some, Option.map_eq_some_iff]
  constructor
  · rintro ⟨hr, hk⟩
    obtain ⟨r', hr', rfl⟩ := List.mem_map.mp hr
    by_cases hp : key r' = k
    · exact ⟨r', get?_eq_some.mpr ⟨hr', hp⟩, by simp [hp]⟩
    · simp [hp] at hk
  · rintro ⟨r', hr', rfl⟩
    obtain ⟨hmem, hk⟩ := get?_eq_some.mp hr'
    exact ⟨List.mem_map.mpr ⟨r', hmem, by simp [hk]⟩, (h r').trans hk⟩

theorem get?_upsert_of_ne {new : ρ} {h : ∀ r, key (f r) = key r} (hne : k ≠ key new) :
    (t.upsert new f h).get? k = t.get? k := by
  unfold upsert
  split
  · exact get?_update_of_ne hne
  · refine Option.ext fun r => ?_
    grind [get?_eq_some]

theorem get?_upsert {new : ρ} {h : ∀ r, key (f r) = key r} :
    (t.upsert new f h).get? (key new) = some (((t.get? (key new)).map f).getD new) := by
  unfold upsert
  split
  · rename_i hk
    rw [get?_update]
    cases hg : t.get? (key new) with
    | none => exact absurd hk (get?_eq_none.mp hg)
    | some r => rfl
  · rename_i hk
    rw [get?_eq_none.mpr hk, get?_eq_some]
    exact ⟨List.mem_append_right _ (List.mem_singleton_self new), rfl⟩

theorem mem_replace {r x : ρ} :
    x ∈ (t.replace r).rows ↔ (x = r ∧ key r ∈ t.rows.map key) ∨ (x ∈ t.rows ∧ key x ≠ key r) := by
  grind [replace]

theorem get?_replace {r old : ρ} (h : t.get? (key r) = some old) :
    (t.replace r).get? (key r) = some r := by
  obtain ⟨hold, hk⟩ := get?_eq_some.mp h
  exact get?_eq_some.mpr ⟨mem_replace.mpr (Or.inl ⟨rfl, List.mem_map.mpr ⟨old, hold, hk⟩⟩), rfl⟩

theorem get?_replace_of_ne {r : ρ} (hne : k ≠ key r) :
    (t.replace r).get? k = t.get? k := by
  refine Option.ext fun x => ?_
  grind [get?_eq_some, mem_replace]

theorem get?_delete {p : ρ → Bool} :
    (t.delete p).get? k = (t.get? k).filter fun r => !p r := by
  refine Option.ext fun x => ?_
  rw [get?_eq_some, Option.filter_eq_some_iff, get?_eq_some, delete, List.mem_filter]
  exact and_right_comm

/-! ## Numbers kept in a table -/

section Reading

variable {M : Type} [AddCommGroup M]

/-- The number `φ` keeps in the row of `k`; a missing row counts as zero. -/
def reading (φ : ρ → M) (t : Table key) (k : κ) : M := ((t.get? k).map φ).getD 0

variable {φ : ρ → M} {t : Table key}

theorem reading_upsert_add {new : ρ} {f : ρ → ρ} {h : ∀ r, key (f r) = key r}
    (hf : ∀ r, φ (f r) = φ r + φ new) (k : κ) :
    reading φ (t.upsert new f h) k = reading φ t k + if key new = k then φ new else 0 := by
  unfold reading
  by_cases hk : key new = k
  · subst hk
    rw [get?_upsert]
    cases t.get? (key new) with
    | none => simp
    | some r => simp [hf]
  · rw [get?_upsert_of_ne (Ne.symm hk), if_neg hk, add_zero]

/-- Upserting with "subtract from what is there" subtracts when the row exists. -/
theorem reading_upsert_sub {new : ρ} {f : ρ → ρ} {h : ∀ r, key (f r) = key r}
    (hf : ∀ r, φ (f r) = φ r - φ new) (hrow : (t.get? (key new)).isSome) (k : κ) :
    reading φ (t.upsert new f h) k = reading φ t k - if key new = k then φ new else 0 := by
  grind [reading, get?_upsert, get?_upsert_of_ne, Option.isSome_iff_exists]

theorem isSome_get?_upsert {new : ρ} {f : ρ → ρ} {h : ∀ r, key (f r) = key r} {k : κ}
    (hk : (t.get? k).isSome) : ((t.upsert new f h).get? k).isSome := by
  by_cases hne : k = key new
  · subst hne
    simp [get?_upsert]
  · rw [get?_upsert_of_ne hne]
    exact hk

/-! ### Many upserts -/

section UpsertAll

variable {set : ρ → ρ → ρ} {hset : ∀ e r, key (set e r) = key r} {ok : Table key → ρ → Bool}

/-- The statement that upserts its rows one by one, refused as a whole when one of them is. -/
def upsertAll (set : ρ → ρ → ρ) (hset : ∀ e r, key (set e r) = key r) (ok : Table key → ρ → Bool)
    (t : Table key) (new : List ρ) : Option (Table key) :=
  new.foldlM (fun t e => if ok (t.upsert e (set e) (hset e)) e then
    some (t.upsert e (set e) (hset e)) else none) t

def totalOf (key : ρ → κ) (φ : ρ → M) (new : List ρ) (k : κ) : M :=
  ((new.filter fun e => key e = k).map φ).sum

variable {t' : Table key}

theorem upsertAll_cons {t : Table key} {e : ρ} {es : List ρ}
    (h : upsertAll set hset ok t (e :: es) = some t') :
    upsertAll set hset ok (t.upsert e (set e) (hset e)) es = some t' := by
  obtain ⟨t₁, h₁, h₂⟩ := Option.bind_eq_some_iff.mp h
  obtain ⟨-, heq⟩ := Option.ite_none_right_eq_some.mp h₁
  rw [Option.some.inj heq]
  exact h₂

theorem totalOf_cons (φ : ρ → M) (e : ρ) (es : List ρ) (k : κ) :
    totalOf key φ (e :: es) k = (if key e = k then φ e else 0) + totalOf key φ es k := by
  unfold totalOf
  by_cases h : key e = k
  · simp [h]
  · simp [h]

theorem reading_upsertAll_add {φ : ρ → M} (hadd : ∀ e r, φ (set e r) = φ r + φ e) {new : List ρ}
    {t : Table key} (h : upsertAll set hset ok t new = some t') (k : κ) :
    reading φ t' k = reading φ t k + totalOf key φ new k := by
  induction new generalizing t with
  | nil =>
    rw [show t = t' from Option.some.inj h]
    simp [totalOf]
  | cons e es ih =>
    rw [ih (upsertAll_cons h), reading_upsert_add (hadd e) k, totalOf_cons, add_assoc]

/-- Rows that are subtracted add up too, if the table has a row for each. -/
theorem reading_upsertAll_sub {φ : ρ → M} (hsub : ∀ e r, φ (set e r) = φ r - φ e) {new : List ρ}
    {t : Table key} (hrows : ∀ e ∈ new, (t.get? (key e)).isSome)
    (h : upsertAll set hset ok t new = some t') (k : κ) :
    reading φ t' k = reading φ t k - totalOf key φ new k := by
  induction new generalizing t with
  | nil =>
    rw [show t = t' from Option.some.inj h]
    simp [totalOf]
  | cons e es ih =>
    have hrows' : ∀ e' ∈ es, ((t.upsert e (set e) (hset e)).get? (key e')).isSome := by
      intro e' he'
      exact isSome_get?_upsert (hrows e' (List.mem_cons_of_mem e he'))
    rw [ih hrows' (upsertAll_cons h), totalOf_cons,
      reading_upsert_sub (hsub e) (hrows e List.mem_cons_self) k]
    abel

end UpsertAll

theorem reading_replace {r old : ρ} (h : t.get? (key r) = some old) (k : κ) :
    reading φ (t.replace r) k = reading φ t k + if key r = k then φ r - φ old else 0 := by
  grind [reading, get?_replace, get?_replace_of_ne]

theorem sum_replace {r old : ρ} (h : t.get? (key r) = some old) :
    ((t.replace r).rows.map φ).sum = (t.rows.map φ).sum - φ old + φ r := by
  obtain ⟨hmem, hkey⟩ := get?_eq_some.mp h
  have hlist : ∀ l : List ρ, (l.map key).Nodup → old ∈ l →
      ((l.map fun x => if key x = key r then r else x).map φ).sum
        = (l.map φ).sum - φ old + φ r := by
    intro l
    induction l with
    | nil => intro _ hold; exact absurd hold List.not_mem_nil
    | cons x l ih =>
      grind [List.map_congr_left, List.map_id, List.nodup_cons]
  exact hlist t.rows t.nodup hmem

end Reading

end Table

/-! ## Counting the rows of a statement -/

section Counting

variable {α : Type} (p w : α → Bool)

theorem countP_split (l : List α) :
    l.countP p = (l.filter w).countP p + (l.filter fun x => !w x).countP p := by
  induction l with
  | nil => rfl
  | cons x l ih =>
    grind

/-- Rewriting the rows that satisfy `w` trades their old values for their new ones. -/
theorem countP_rewrite (f : α → α) (l : List α) :
    (l.map fun x => if w x then f x else x).countP p + (l.filter w).countP p
      = l.countP p + ((l.filter w).map f).countP p := by
  induction l with
  | nil => rfl
  | cons x l ih =>
    grind

end Counting

/-! ## Groups -/

section Groups

variable {γ α : Type} [DecidableEq γ] {M : Type} [AddCommMonoid M]

/-- `SELECT g, agg GROUP BY g`: one result for each value of `g`. -/
def groupBy (g : α → γ) (agg : γ → List α → ρ) (xs : List α) : List ρ :=
  (xs.map g).dedup.map fun k => agg k (xs.filter fun x => g x = k)

theorem sum_groupBy (g : α → γ) (agg : γ → List α → ρ) (group : ρ → γ) (φ : ρ → M)
    (hgroup : ∀ k xs, group (agg k xs) = k) (hnil : ∀ k, φ (agg k []) = 0) (xs : List α)
    (k : γ) :
    (((groupBy g agg xs).filter fun r => group r = k).map φ).sum
      = φ (agg k (xs.filter fun x => g x = k)) := by
  have hfilter : (groupBy g agg xs).filter (fun r => group r = k)
      = ((xs.map g).dedup.filter fun k' => k' = k).map
          fun k' => agg k' (xs.filter fun x => g x = k') := by
    rw [groupBy, List.filter_map]
    refine congrArg (List.map _) (List.filter_congr fun k' _ => ?_)
    simp [hgroup]
  rw [hfilter]
  by_cases hk : k ∈ (xs.map g).dedup
  · have hone : (xs.map g).dedup.filter (fun k' => k' = k) = [k] := by
      have hcount := List.count_eq_one_of_mem (List.nodup_dedup _) hk
      rw [List.count_eq_countP, List.countP_eq_length_filter] at hcount
      have heq : ∀ k' ∈ (xs.map g).dedup.filter (fun k' => k' == k), k' = k := by
        intro k' hk'
        simpa using (List.mem_filter.mp hk').2
      have hrep := List.eq_replicate_of_mem heq
      rw [hcount] at hrep
      simpa [beq_eq_decide] using hrep
    rw [hone]
    simp
  all_goals grind [List.filter_eq_nil_iff, List.mem_dedup]

end Groups

end CallCenter.Lib
