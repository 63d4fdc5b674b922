import CallCenter.Utils.LruProof

/-!
# Compare and remove

`model/lru.go` is `utils/lru.go` over again, with one more operation: `RemoveFunc` removes the entry
of a key if its value meets a predicate, and says whether it did, all under the lock of the cache.

`Get` treats an entry of an older generation and an expired one as absent. `RemoveFunc` asks the map
alone, so it finds such an entry, removes it and answers that it did. What the map holds for a key
is followed through every operation here, without a bound on the number of purges.
-/

namespace CallCenter.Utils

open Lib

variable {κ υ : Type} [DecidableEq κ]

def Cache.removeFunc (c : Cache κ υ) (key : κ) (pred : υ → Bool) : Cache κ υ × Bool :=
  match c.lookup key with
  | none => (c, false)
  | some item => if !pred item.val.value then (c, false) else (c.removeElement item, true)

end CallCenter.Utils

namespace CallCenter.Model

open Lib Utils

inductive CacheCall (κ υ : Type) where
  | op (o : Op κ υ)
  | removeFunc (key : κ) (pred : υ → Bool)

variable {κ υ : Type} [DecidableEq κ]

def call (c : Cache κ υ) : CacheCall κ υ → Cache κ υ
  | .op o => (c.step o).1
  | .removeFunc key pred => (c.removeFunc key pred).1

def afterCalls (size : Nat) (defaultExpiry : Int64) (ops : List (CacheCall κ υ)) : Cache κ υ :=
  ops.foldl call (newLruWithParams κ υ size defaultExpiry)

/-! ## What the map holds -/

/-- The value of a key in the map, whether `Get` would return it or not, and whether it is of the
current generation. -/
def holds (c : Cache κ υ) (k : κ) : Option (υ × Bool) :=
  (c.lookup k).map fun n => (n.val.value, c.current n.val)

section Holds

variable {c : Cache κ υ} {k : κ}

omit [DecidableEq κ] in
theorem linked_newLru (n : Nat) (d : Int64) : (newLruWithParams κ υ n d).Linked :=
  (newLru_refines (n := n) d).wf.linked

variable {n : Node (Entry κ υ)}

theorem lookup_removeElement (h : c.Linked) (hn : n ∈ c.evictList.nodes) (k : κ) :
    (c.removeElement n).lookup k = if k = n.val.key then none else c.lookup k := by
  have hlinked := h.removeElement hn
  by_cases hk : k = n.val.key
  · rw [if_pos hk]
    unfold Cache.lookup Cache.removeElement
    rw [hk]
    simp only [Function.update_self, Option.bind_none]
  · rw [if_neg hk]
    refine Option.ext fun m => ?_
    grind [Cache.addr_eq_iff, Cache.lookup_eq_some, Cache.removeElement_nodes]

theorem holds_removeElement (h : c.Linked) (hn : n ∈ c.evictList.nodes) (k : κ) :
    holds (c.removeElement n) k = if k = n.val.key then none else holds c k := by
  unfold holds
  rw [lookup_removeElement h hn]
  split <;> rfl

theorem holds_promotes (h : c.Linked) {c' : Cache κ υ} {e : Entry κ υ} (hpr : c.Promotes n e c')
    (k : κ) : holds c' k = if k = n.val.key then some (e.value, true) else holds c k := by
  have hlinked := hpr.linked h
  have hcurrent := Cache.current_congr hpr.generation
  unfold holds
  rw [hcurrent]
  by_cases hk : k = n.val.key
  · have hl : c'.lookup k = some ⟨n.addr, e⟩ := by
      rw [Cache.lookup_eq_some hlinked, hpr.nodes]
      exact ⟨List.mem_cons_self, hpr.key.trans hk.symm⟩
    rw [if_pos hk, hl, Option.map_some, (Cache.current_iff c e).mpr hpr.fresh]
  · rw [if_neg hk]
    refine congrArg _ (Option.ext fun m => ?_)
    rw [Cache.lookup_eq_some hlinked, Cache.lookup_eq_some h, hpr.nodes, List.mem_cons,
      List.mem_filter]
    constructor
    · rintro ⟨rfl | ⟨hm, -⟩, hkey⟩
      · exact absurd (hkey.symm.trans hpr.key) hk
      · exact ⟨hm, hkey⟩
    · rintro ⟨hm, hkey⟩
      refine ⟨.inr ⟨hm, decide_eq_true fun haddr => hk ?_⟩, hkey⟩
      rw [← hkey]
      exact (Cache.addr_eq_iff h hm hpr.mem).mp haddr

theorem holds_pushNew (h : c.Linked) {k₀ : κ} (hk : ∀ n ∈ c.evictList.nodes, n.val.key ≠ k₀)
    (v : υ) (x : Int64) (k : κ) :
    holds (c.pushNew k₀ v x) k = if k = k₀ then some (v, true) else holds c k := by
  have hlinked := h.pushNew hk v x
  have hnodes : (c.pushNew k₀ v x).evictList.nodes
      = ⟨c.evictList.fresh, ⟨k₀, v, x, c.currentGeneration⟩⟩ :: c.evictList.nodes := rfl
  have hcurrent : (c.pushNew k₀ v x).current = c.current := rfl
  unfold holds
  rw [hcurrent]
  by_cases hkk : k = k₀
  · have hl : (c.pushNew k₀ v x).lookup k
        = some ⟨c.evictList.fresh, ⟨k₀, v, x, c.currentGeneration⟩⟩ := by
      rw [Cache.lookup_eq_some hlinked, hnodes]
      exact ⟨List.mem_cons_self, hkk.symm⟩
    rw [if_pos hkk, hl, Option.map_some, (Cache.current_iff c _).mpr rfl]
  · rw [if_neg hkk]
    refine congrArg _ (Option.ext fun m => ?_)
    grind [Cache.lookup_eq_some]

end Holds

/-! ## Every call keeps the map and the list linked -/

section Calls

variable {c : Cache κ υ} {k : κ}

theorem get_cases (h : c.Linked) (now : Int64) (k : κ) :
    c.lookup k = none ∧ c.get now k = (c, none)
    ∨ (∃ n, c.lookup k = some n ∧ n ∈ c.evictList.nodes ∧ n.val.key = k
      ∧ (c.current n.val = false ∨ Cache.expired now n.val.expireAtSecs = true)
      ∧ c.get now k = (c.removeElement n, none))
    ∨ ∃ n c', c.lookup k = some n ∧ n ∈ c.evictList.nodes ∧ n.val.key = k
      ∧ c.current n.val = true ∧ Cache.expired now n.val.expireAtSecs = false
      ∧ c.Promotes n n.val c' ∧ c.get now k = (c', some n.val.value) := by
  grind [Cache.expired, Cache.get, Cache.hit_promotes, Cache.lookup_eq_some]

theorem linked_get (h : c.Linked) (now : Int64) (k : κ) : (c.get now k).1.Linked := by
  rcases get_cases h now k with ⟨-, heq⟩ | ⟨n, -, hn, -, -, heq⟩ | ⟨n, c', -, -, -, -, -, hpr, heq⟩
  · rw [heq]
    exact h
  · rw [heq]
    exact h.removeElement hn
  · rw [heq]
    exact hpr.linked h

theorem add_cases (h : c.Linked) (now : Int64) (k : κ) (v : υ) (x : Int64) :
    (∃ n e, n ∈ c.evictList.nodes ∧ n.val.key = k ∧ e.value = v
      ∧ c.Promotes n e (c.addWithExpiresInSecs now k v x))
    ∨ (∀ n ∈ c.evictList.nodes, n.val.key ≠ k)
      ∧ c.addWithExpiresInSecs now k v x = (c.pushNew k v (Cache.expiry now x)).evict := by
  unfold Cache.addWithExpiresInSecs
  cases hl : c.lookup k with
  | some n =>
    obtain ⟨hn, hkey⟩ := (Cache.lookup_eq_some h).mp hl
    exact .inl ⟨n, _, hn, hkey, rfl, Cache.refresh_promotes hn v _⟩
  | none => exact .inr ⟨Cache.lookup_eq_none h hl, rfl⟩

theorem linked_add (h : c.Linked) (now : Int64) (k : κ) (v : υ) (x : Int64) :
    (c.addWithExpiresInSecs now k v x).Linked := by
  rcases add_cases h now k v x with ⟨n, e, -, -, -, hpr⟩ | ⟨hnew, heq⟩
  · exact hpr.linked h
  · rw [heq]
    exact (h.pushNew hnew v _).evict

theorem linked_removeFunc (h : c.Linked) (k : κ) (pred : υ → Bool) :
    (c.removeFunc k pred).1.Linked := by
  unfold Cache.removeFunc
  cases hl : c.lookup k with
  | none => exact h
  | some n =>
    dsimp only
    split
    · exact h
    · exact h.removeElement ((Cache.lookup_eq_some h).mp hl).1

theorem linked_call (h : c.Linked) (o : CacheCall κ υ) : (call c o).Linked := by
  cases o with
  | removeFunc k pred => exact linked_removeFunc h k pred
  | op o =>
    cases o with
    | addWithExpiresInSecs now k v x => exact linked_add h now k v x
    | get now k => exact linked_get h now k
    | remove k =>
      show (c.remove k).Linked
      unfold Cache.remove
      cases hl : c.lookup k with
      | none => exact h
      | some n => exact h.removeElement ((Cache.lookup_eq_some h).mp hl).1
    | purge | keys | len => exact h

/-- The element that a `Get` drops, because it is stale or has expired. -/
def droppedByGet (c : Cache κ υ) (now : Int64) (k : κ) : Option (Node (Entry κ υ)) :=
  (c.lookup k).filter fun n => !c.current n.val || Cache.expired now n.val.expireAtSecs

def droppedByAdd (c : Cache κ υ) (now : Int64) (k : κ) (v : υ) (x : Int64) :
    Option (Node (Entry κ υ)) :=
  if (c.lookup k).isSome then none else (c.pushNew k v (Cache.expiry now x)).evicted

theorem holds_get (h : c.Linked) (now : Int64) (k k' : κ) :
    holds (c.get now k).1 k' = if (droppedByGet c now k).isSome ∧ k' =
      k then none else holds c k' := by
  rcases get_cases h now k with ⟨hl, heq⟩ | ⟨n, hl, hn, hkey, hout, heq⟩
    | ⟨n, c', hl, -, hkey, hc, hx, hpr, heq⟩
  · simp [heq, droppedByGet, hl]
  · -- The element that is found is dropped.
    have hdropped : (droppedByGet c now k).isSome = true := by
      rcases hout with hstale | hexpired
      · simp [droppedByGet, hl, hstale]
      · simp [droppedByGet, hl, hexpired]
    simp only [heq, holds_removeElement h hn, hkey, hdropped, true_and]
  · -- The element goes to the front with the value that it had.
    have hkept : droppedByGet c now k = none := by simp [droppedByGet, hl, hc, hx]
    have hheld : holds c k = some (n.val.value, true) := by rw [holds, hl, Option.map_some, hc]
    rw [heq, holds_promotes h hpr, hkey, ← hheld]
    by_cases hk : k' = k <;> simp [hkept, hk]

theorem holds_add (h : c.Linked) (now : Int64) (k : κ) (v : υ) (x : Int64) (k' : κ) :
    holds (c.addWithExpiresInSecs now k v x) k'
      = if (droppedByAdd c now k v x).any (fun n => k' = n.val.key) then none
        else if k' = k then some (v, true) else holds c k' := by
  unfold droppedByAdd Cache.addWithExpiresInSecs
  cases hl : c.lookup k with
  | some n =>
    obtain ⟨hn, hkey⟩ := (Cache.lookup_eq_some h).mp hl
    simp only [holds_promotes h (Cache.refresh_promotes hn v _), hkey, Option.isSome_some, if_true,
      Option.any_none, Bool.false_eq_true, if_false]
  | none =>
    have hnew := Cache.lookup_eq_none h hl
    have hpush := h.pushNew hnew v (Cache.expiry now x)
    unfold Cache.evict
    -- The one at the back may have gone for the new element.
    cases he : (c.pushNew k v (Cache.expiry now x)).evicted with
    | none => simp [holds_pushNew h hnew]
    | some n => simp [holds_removeElement hpush (Cache.evicted_mem he), holds_pushNew h hnew]

theorem holds_removeFunc (h : c.Linked) (k : κ) (pred : υ → Bool) (k' : κ) :
    holds (c.removeFunc k pred).1 k'
      = if k' = k ∧ (holds c k).any (fun v => pred v.1) then none else holds c k' := by
  grind [Cache.removeFunc, holds, Cache.lookup_eq_some, holds_removeElement]

theorem linked_run (n : Nat) (d : Int64) (ops : List (CacheCall κ υ)) :
    (afterCalls n d ops).Linked := by
  have hfold : ∀ (ops : List (CacheCall κ υ)) (c : Cache κ υ), c.Linked →
      (ops.foldl call c).Linked := by
    intro ops
    induction ops with
    | nil => exact fun c h => h
    | cons o ops ih => exact fun c h => ih (call c o) (linked_call h o)
  exact hfold ops _ (linked_newLru n d)

end Calls

/-! ## `RemoveFunc` beside `Get` -/

section Agreement

variable (c : Cache κ υ) (now : Int64) (key : κ) (pred : υ → Bool)

/-- `Get` would return a value that meets the predicate. -/
def GetSatisfies : Prop := ∃ v, (c.get now key).2 = some v ∧ pred v = true

/-- `RemoveFunc` agrees with `Get`: it answers whether `Get` would have returned a value that meets
the predicate, in that case the key is gone, and otherwise nobody will ever notice the call. -/
structure AgreesWithGet : Prop where
  returns : (c.removeFunc key pred).2 = true ↔ GetSatisfies c now key pred
  misses : GetSatisfies c now key pred → ∀ later, ((c.removeFunc key pred).1.get later key).2 = none
  unnoticed : ¬ GetSatisfies c now key pred → ∀ (ops : List (CacheCall κ υ)) (later : Int64)
    (k : κ),
    ((ops.foldl call (c.removeFunc key pred).1).get later k).2
      = ((ops.foldl call c).get later k).2

/-- The map has no entry under the key that meets the predicate although it is of an older
generation or has expired. -/
def NoneLeftOver : Prop :=
  ∀ n, c.lookup key = some n → pred n.val.value = true →
    c.current n.val = true ∧ Cache.expired now n.val.expireAtSecs = false

variable {c now key pred}

theorem removeFunc_eq_true (h : (c.removeFunc key pred).2 = true) :
    ∃ n, c.lookup key = some n ∧ pred n.val.value = true
      ∧ (c.removeFunc key pred).1 = c.removeElement n := by
  grind [Cache.removeFunc]

theorem removeFunc_eq_false (h : (c.removeFunc key pred).2 = false) :
    (c.removeFunc key pred).1 = c := by
  grind [Cache.removeFunc]

theorem removeFunc_of_lookup {n : Node (Entry κ υ)} (hl : c.lookup key = some n)
    (hp : pred n.val.value = true) : (c.removeFunc key pred).2 = true := by
  unfold Cache.removeFunc
  rw [hl]
  dsimp only
  rw [hp, Bool.not_true, if_neg Bool.false_ne_true]

theorem getSatisfies_iff (h : c.Linked) :
    GetSatisfies c now key pred ↔ ∃ n, c.lookup key = some n ∧ pred n.val.value = true
      ∧ c.current n.val = true ∧ Cache.expired now n.val.expireAtSecs = false := by
  unfold GetSatisfies
  rcases get_cases h now key with ⟨hl, heq⟩ | ⟨n, hl, -, -, hout, heq⟩
    | ⟨n, c', hl, -, -, hc, hx, -, heq⟩
  all_goals grind

theorem get_of_lookup_none (hl : c.lookup key = none) : (c.get now key).2 = none := by
  unfold Cache.get
  rw [hl]

theorem get_of_removed (h : c.Linked) (htrue : (c.removeFunc key pred).2 = true) (later : Int64) :
    ((c.removeFunc key pred).1.get later key).2 = none := by
  obtain ⟨n, hl, -, heq⟩ := removeFunc_eq_true htrue
  grind [Cache.lookup_eq_some, get_of_lookup_none, lookup_removeElement]

theorem removeFunc_true_iff (h : c.Linked) (hnone : NoneLeftOver c now key pred) :
    (c.removeFunc key pred).2 = true ↔ GetSatisfies c now key pred := by
  rw [getSatisfies_iff h]
  constructor
  · intro htrue
    obtain ⟨n, hl, hp, -⟩ := removeFunc_eq_true htrue
    exact ⟨n, hl, hp, hnone n hl hp⟩
  · rintro ⟨n, hl, hp, -⟩
    exact removeFunc_of_lookup hl hp

theorem agreesWithGet_iff (h : c.Linked) :
    AgreesWithGet c now key pred ↔ NoneLeftOver c now key pred := by
  constructor
  · intro hagree n hl hp
    obtain ⟨n', hl', -, hfresh⟩ := (getSatisfies_iff h).mp
      (hagree.returns.mp (removeFunc_of_lookup hl hp))
    rw [hl] at hl'
    obtain rfl := Option.some.inj hl'
    exact hfresh
  · intro hnone
    have hreturns := removeFunc_true_iff h hnone
    refine ⟨hreturns, fun hsat later => ?_, fun hno ops later k => ?_⟩
    · exact get_of_removed h (hreturns.mpr hsat) later
    all_goals grind [removeFunc_eq_false]

end Agreement

/-- **Compare-and-remove asks the map.** For every cache reached by any calls, every key and
predicate: `RemoveFunc` answers whether the map has an entry under the key that meets the predicate.
If so the key is gone, and otherwise nobody will ever notice the call. It agrees with `Get`, at any
clock reading, exactly if no such entry is left over from an older generation or has expired. -/
theorem removeFunc_asks_map (size : Nat) (defaultExpiry : Int64) (ops : List (CacheCall κ υ))
    (key : κ) (pred : υ → Bool) :
    let c := afterCalls size defaultExpiry ops
    let removed := c.removeFunc key pred
    (removed.2 = true ↔ ∃ n, c.lookup key = some n ∧ pred n.val.value = true)
    ∧ (removed.2 = true → ∀ later, (removed.1.get later key).2 = none)
    ∧ (removed.2 = false → ∀ (ops' : List (CacheCall κ υ)) (later : Int64) (k : κ),
      ((ops'.foldl call removed.1).get later k).2 = ((ops'.foldl call c).get later k).2)
    ∧ ∀ now, AgreesWithGet c now key pred ↔ NoneLeftOver c now key pred := by
  intro c removed
  have h : c.Linked := linked_run size defaultExpiry ops
  refine ⟨⟨fun htrue => ?_, fun ⟨n, hl, hp⟩ => removeFunc_of_lookup hl hp⟩,
    fun htrue later => get_of_removed h htrue later, fun hfalse ops' later k => ?_,
    fun now => agreesWithGet_iff h⟩
  · obtain ⟨n, hl, hp, -⟩ := removeFunc_eq_true htrue
    exact ⟨n, hl, hp⟩
  · have hsame : removed.1 = c := removeFunc_eq_false hfalse
    rw [hsame]

def leftOver : Cache Nat Nat :=
  [CacheCall.op (.addWithExpiresInSecs 0 1 10 0), .op (.addWithExpiresInSecs 0 2 20 1)].foldl call
    (newLruWithParams Nat Nat 2 0)

/-- Five seconds later `Get` would miss the second key; `RemoveFunc` removes it and returns true,
and the place it leaves lets the first key survive the next addition. -/
theorem removeFunc_finds_expired :
    (leftOver.get 5000000000 2).2 = none
      ∧ (leftOver.removeFunc 2 fun v => v = 20).2 = true
      ∧ ((call (leftOver.removeFunc 2 fun v => v = 20).1
          (.op (.addWithExpiresInSecs 5000000000 3 30 0))).get 5000000000 1).2 = some 10
      ∧ ((call leftOver (.op (.addWithExpiresInSecs 5000000000 3 30 0))).get 5000000000 1).2
          = none := by
  decide

end CallCenter.Model
