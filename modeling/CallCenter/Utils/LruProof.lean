import CallCenter.Utils.Lru
import Mathlib.Tactic.Linarith
import Mathlib.Tactic.Cases

/-!
# The cache is a plain bounded LRU

A reference cache is one list of items, newest first, never longer than its size. `Cache.view` reads
such a list off the real cache: the entries of the current generation, in list order. Every
operation does to the view what the reference does to its list, as long as the cache is well formed:

* the map names exactly the elements of the list, by their keys;
* current entries stand ahead of stale ones, so an eviction meets stale ones first;
* `len` counts the current entries;
* every generation in the list is one the cache has had. Here `int64` shows: after 2^64 purges a
  generation number comes back, and with it every entry that still carries it.
-/

namespace CallCenter.Utils

open Lib

variable {κ υ : Type}

/-! ## The reference cache -/

structure Item (κ υ : Type) where
  key : κ
  value : υ
  expiry : Int64

/-- The reference cache of size `n`: at most `n` items, newest first. -/
structure RefCache (κ υ : Type) (n : Nat) where
  items : List (Item κ υ)
  bounded : items.length ≤ n

namespace RefCache

variable [DecidableEq κ] {n : Nat}

def empty : RefCache κ υ n := ⟨[], Nat.zero_le n⟩

def remove (r : RefCache κ υ n) (key : κ) : RefCache κ υ n where
  items := r.items.filter (fun i => i.key ≠ key)
  bounded := Nat.le_trans (List.length_filter_le _ _) r.bounded

/-- Put an item at the front, in place of any other of its key, and drop the
oldest item if there are now more than `n`. -/
def add (r : RefCache κ υ n) (i : Item κ υ) : RefCache κ υ n where
  items := (i :: (r.remove i.key).items).take n
  bounded := List.length_take_le _ _

/-- Look a key up: an expired item is removed and missed, any other moves to the
front. -/
def get (r : RefCache κ υ n) (now : Int64) (key : κ) : RefCache κ υ n × Option υ :=
  match r.items.find? (fun i => i.key = key) with
  | some i =>
    if Cache.expired now i.expiry then (r.remove key, none) else (r.add i, some i.value)
  | none => (r, none)

@[simp] theorem add_items (r : RefCache κ υ n) (i : Item κ υ) :
    (r.add i).items = (i :: (r.remove i.key).items).take n := rfl

variable {k : κ}

theorem remove_eq_self {r : RefCache κ υ n} (hk : r.items.find? (fun i => i.key = k) = none) :
    r.remove k = r := by
  have hitems : r.items.filter (fun i => i.key ≠ k) = r.items := by
    refine List.filter_eq_self.mpr fun i hi => ?_
    simpa using List.find?_eq_none.mp hk i hi
  cases r
  simpa [remove] using hitems

variable {i : Item κ υ}

theorem mem_remove {r : RefCache κ υ n} (h : i ∈ (r.remove k).items) :
    i ∈ r.items ∧ i.key ≠ k := by
  rw [remove, List.mem_filter] at h
  exact ⟨h.1, by simpa using h.2⟩

theorem mem_add {r : RefCache κ υ n} {j : Item κ υ} (h : i ∈ (r.add j).items) :
    i = j ∨ i ∈ r.items := by
  rcases List.mem_cons.mp (List.mem_of_mem_take h) with h | h
  · exact Or.inl h
  · exact Or.inr (mem_remove h).1

variable {now : Int64}

theorem mem_get {r : RefCache κ υ n} (h : i ∈ (r.get now k).1.items) : i ∈ r.items := by
  unfold get at h
  grind [mem_add, mem_remove]

theorem mem_of_get_eq_some {r : RefCache κ υ n} {v : υ} (h : (r.get now k).2 = some v) :
    ∃ i ∈ r.items, i.key = k ∧ i.value = v := by
  unfold get at h
  grind

theorem mem_of_get_isSome {r : RefCache κ υ n} (h : (r.get now k).2.isSome) :
    ∃ i ∈ r.items, i.key = k := by
  obtain ⟨v, hv⟩ := Option.isSome_iff_exists.mp h
  obtain ⟨i, hi, hkey, -⟩ := mem_of_get_eq_some hv
  exact ⟨i, hi, hkey⟩

theorem get_add {r : RefCache κ υ n} (hn : 0 < n) (hx : Cache.expired now i.expiry = false) :
    ((r.add i).get now i.key).2 = some i.value := by
  obtain ⟨m, rfl⟩ := Nat.exists_eq_succ_of_ne_zero (Nat.ne_of_gt hn)
  have hfind : (r.add i).items.find? (fun j => j.key = i.key) = some i := by
    rw [add_items, List.take_succ_cons, List.find?_cons, decide_eq_true rfl]
  unfold get
  rw [hfind]
  dsimp only
  rw [hx]
  rfl

theorem get_get {r : RefCache κ υ n} :
    ((r.get now k).1.get now k).2 = (r.get now k).2 := by
  cases hfind : r.items.find? (fun i => i.key = k) with
  | none =>
    have hget : r.get now k = (r, none) := by rw [get, hfind]
    rw [hget]
    exact congrArg Prod.snd hget
  | some i =>
    have hfound := List.find?_some hfind
    have hkey : i.key = k := of_decide_eq_true hfound
    cases hx : Cache.expired now i.expiry with
    | true =>
      have hget : r.get now k = (r.remove k, none) := by rw [get, hfind]; simp only [hx, if_true]
      have hgone : (r.remove k).items.find? (fun i => i.key = k) = none := by
        refine List.find?_eq_none.mpr fun j hj => ?_
        rw [decide_eq_true_iff]
        exact (mem_remove hj).2
      rw [hget]
      change ((r.remove k).get now k).2 = none
      rw [get, hgone]
    | false =>
      have hget : r.get now k = (r.add i, some i.value) := by
        rw [get, hfind]
        simp only [hx, Bool.false_eq_true, if_false]
      have hroom : 0 < n := Nat.lt_of_lt_of_le
        (List.length_pos_of_mem (List.mem_of_find?_eq_some hfind)) r.bounded
      rw [hget, ← hkey]
      exact get_add hroom hx

def step (r : RefCache κ υ n) : Op κ υ → RefCache κ υ n × Answer κ υ
  | .addWithExpiresInSecs now k v e => (r.add ⟨k, v, Cache.expiry now e⟩, .done)
  | .get now k => ((r.get now k).1, .got (r.get now k).2)
  | .remove k => (r.remove k, .done)
  | .purge => (empty, .done)
  | .keys => (r, .keys (.ok (r.items.reverse.map fun i => some i.key)))
  | .len => (r, .len r.items.length)

end RefCache

/-! ## Time -/

namespace Cache

theorem nowSecs_bounds (now : Int64) :
    -9223372037 ≤ (nowSecs now).toInt ∧ (nowSecs now).toInt ≤ 9223372036 := by
  have hlt := now.toInt_lt
  have hle := now.le_toInt
  have hsecs : (nowSecs now).toInt = now.toInt.tdiv 1000000000 :=
    Int64.toInt_div_of_ne_right now 1000000000 (by decide)
  have hsign : Int.sign 1000000000 = 1 := rfl
  rw [hsecs, Int.tdiv_eq_ediv, hsign]
  split <;> omega

theorem expired_expiry {now x : Int64} (hx : x.toInt < 2 ^ 62) :
    expired now (expiry now x) = false := by
  unfold expired expiry
  by_cases hpos : x > 0
  · have hsecs := nowSecs_bounds now
    have hpos' : 0 < x.toInt := Int64.lt_iff_toInt_lt.mp hpos
    have hsum : (nowSecs now + x).toInt = (nowSecs now).toInt + x.toInt := by
      rw [Int64.toInt_add, Int.bmod_eq_of_le] <;> omega
    have hlate : ¬ nowSecs now > nowSecs now + x := by
      rw [gt_iff_lt, Int64.lt_iff_toInt_lt, hsum]
      omega
    rw [if_pos hpos, decide_eq_false hlate, Bool.and_false]
  · rw [if_neg hpos, decide_eq_false hpos, Bool.false_and]
end Cache

/-! ## What the cache shows -/

namespace Cache

def item (e : Entry κ υ) : Item κ υ := ⟨e.key, e.value, e.expireAtSecs⟩

/-- The elements of the current generation, newest first. -/
def live (c : Cache κ υ) : List (Node (Entry κ υ)) :=
  c.evictList.nodes.filter (fun n => c.current n.val)

def view (c : Cache κ υ) : List (Item κ υ) := c.live.map fun n => item n.val

/-- A cache `purges` generations after it was made. -/
structure WF (c : Cache κ υ) (purges : Nat) : Prop where
  /-- The map names the elements of the list by their keys. -/
  linked : ∀ k a, c.items k = some a ↔ ∃ e, ⟨a, e⟩ ∈ c.evictList.nodes ∧ e.key = k
  /-- Current entries stand ahead of stale ones. -/
  ahead : c.evictList.nodes.Pairwise fun n m => c.current m.val → c.current n.val
  len_eq : c.len = c.live.length
  /-- The generation counts the purges, in `int64`. -/
  generation : c.currentGeneration = Int64.ofNat purges
  /-- No entry is of a generation yet to come. -/
  past : ∀ n ∈ c.evictList.nodes, ∃ p ≤ purges, n.val.generation = Int64.ofNat p

/-- The first of these facts does not depend on the generations, which may wrap. -/
def Linked (c : Cache κ υ) : Prop :=
  ∀ k a, c.items k = some a ↔ ∃ e, ⟨a, e⟩ ∈ c.evictList.nodes ∧ e.key = k

variable {c : Cache κ υ} {p : Nat}

theorem current_iff (c : Cache κ υ) (e : Entry κ υ) :
    c.current e = true ↔ e.generation = c.currentGeneration := by
  simp [current]

theorem lookup_eq_some (h : c.Linked) {k : κ} {n : Node (Entry κ υ)} :
    c.lookup k = some n ↔ n ∈ c.evictList.nodes ∧ n.val.key = k := by
  constructor
  · intro hl
    obtain ⟨a, ha, hd⟩ := Option.bind_eq_some_iff.mp hl
    obtain ⟨e, he, rfl⟩ := Option.map_eq_some_iff.mp hd
    have hmem := c.evictList.deref_eq_some.mp he
    obtain ⟨e', hmem', hk⟩ := (h k a).mp ha
    have : (⟨a, e'⟩ : Node (Entry κ υ)) = ⟨a, e⟩ := c.evictList.node_unique hmem' hmem rfl
    exact ⟨hmem, by rw [← hk]; injection this with _ he'; rw [he']⟩
  · rintro ⟨hmem, hk⟩
    have ha : c.items k = some n.addr := (h k n.addr).mpr ⟨n.val, hmem, hk⟩
    have hd : c.evictList.deref n.addr = some n.val := c.evictList.deref_eq_some.mpr hmem
    simp [lookup, ha, hd]

theorem lookup_eq_none (h : c.Linked) {k : κ} (hl : c.lookup k = none) :
    ∀ n ∈ c.evictList.nodes, n.val.key ≠ k := by
  intro n hn hk
  rw [(lookup_eq_some h).mpr ⟨hn, hk⟩] at hl
  exact absurd hl (by simp)

theorem addr_eq_iff (h : c.Linked) {n m : Node (Entry κ υ)} (hn : n ∈ c.evictList.nodes)
    (hm : m ∈ c.evictList.nodes) : n.addr = m.addr ↔ n.val.key = m.val.key := by
  constructor
  · intro ha
    rw [c.evictList.node_unique hn hm ha]
  · intro hk
    have h1 := (h _ _).mpr ⟨n.val, hn, rfl⟩
    have h2 := (h _ _).mpr ⟨m.val, hm, rfl⟩
    rw [hk, h2] at h1
    exact (Option.some.inj h1).symm

section Operations

variable [DecidableEq κ]

/-! ## Removing an element -/

@[simp] theorem removeElement_nodes (c : Cache κ υ) (n : Node (Entry κ υ)) :
    (c.removeElement n).evictList.nodes
      = c.evictList.nodes.filter (fun m => m.addr ≠ n.addr) := rfl

theorem removeElement_live (c : Cache κ υ) (n : Node (Entry κ υ)) :
    (c.removeElement n).live = c.live.filter (fun m => m.addr ≠ n.addr) := by
  have hcur : (c.removeElement n).current = c.current := rfl
  rw [live, hcur, removeElement_nodes, List.filter_comm]
  rfl

theorem view_removeElement (h : c.WF p) {n : Node (Entry κ υ)} (hn : n ∈ c.evictList.nodes) :
    (c.removeElement n).view = c.view.filter (fun i => i.key ≠ n.val.key) := by
  have hkey : c.live.filter (fun m => m.addr ≠ n.addr)
      = c.live.filter (fun m => m.val.key ≠ n.val.key) := by
    refine List.filter_congr fun m hm => ?_
    simp only [ne_eq, addr_eq_iff h.linked (List.mem_of_mem_filter hm) hn]
  rw [view, removeElement_live, hkey, view, List.filter_map]
  rfl

theorem length_live_removeElement {n : Node (Entry κ υ)} (hn : n ∈ c.evictList.nodes) :
    ((c.removeElement n).live.length : Int)
      = if c.current n.val then (c.live.length : Int) - 1 else c.live.length := by
  have hsplit := List.length_eq_length_filter_add (l := c.live) (fun m => m.addr = n.addr)
  have hrest : c.live.filter (fun m => !decide (m.addr = n.addr)) = (c.removeElement n).live := by
    rw [removeElement_live]
    exact List.filter_congr fun m _ => by simp
  have hone : c.live.filter (fun m => m.addr = n.addr)
      = if c.current n.val then [n] else [] := by
    rw [live, List.filter_comm, c.evictList.filter_addr (a := n.addr) (v := n.val) hn]
    by_cases hc : c.current n.val <;> simp [hc]
  grind

theorem Linked.removeElement (h : c.Linked) {n : Node (Entry κ υ)} (hn : n ∈ c.evictList.nodes) :
    (c.removeElement n).Linked := by
  intro k a
  have hkeep : ∀ e, ((⟨a, e⟩ : Node (Entry κ υ)) ∈ (c.removeElement n).evictList.nodes
      ∧ e.key = k) ↔ ((⟨a, e⟩ : Node (Entry κ υ)) ∈ c.evictList.nodes ∧ e.key = k)
        ∧ k ≠ n.val.key := by
    intro e
    simp only [removeElement_nodes, List.mem_filter, decide_eq_true_eq]
    constructor
    · rintro ⟨⟨hm, ha⟩, rfl⟩
      exact ⟨⟨hm, rfl⟩, fun hk => ha ((addr_eq_iff h hm hn).mpr hk)⟩
    · rintro ⟨⟨hm, rfl⟩, hk⟩
      exact ⟨⟨hm, fun ha => hk ((addr_eq_iff h hm hn).mp ha)⟩, rfl⟩
  simp only [hkeep, exists_and_right, ← h k a]
  by_cases hk : k = n.val.key
  · simp [Cache.removeElement, hk]
  · simp [Cache.removeElement, hk]

theorem WF.removeElement (h : c.WF p) {n : Node (Entry κ υ)} (hn : n ∈ c.evictList.nodes) :
    (c.removeElement n).WF p where
  linked := Linked.removeElement h.linked hn
  ahead := h.ahead.sublist List.filter_sublist
  len_eq := by
    rw [length_live_removeElement hn, ← h.len_eq]
    rfl
  generation := h.generation
  past := fun m hm => h.past m (List.mem_of_mem_filter hm)

/-! ## Bringing an element to the front -/

/-- `c'` is `c` with the element `n` brought to the front as a current entry `e`
of the same key. Both a refreshing `Add` and a hit of `Get` do this. -/
structure Promotes (c : Cache κ υ) (n : Node (Entry κ υ)) (e : Entry κ υ) (c' : Cache κ υ) :
    Prop where
  mem : n ∈ c.evictList.nodes
  nodes : c'.evictList.nodes
    = ⟨n.addr, e⟩ :: c.evictList.nodes.filter (fun m => m.addr ≠ n.addr)
  key : e.key = n.val.key
  fresh : e.generation = c.currentGeneration
  items : c'.items = c.items
  generation : c'.currentGeneration = c.currentGeneration
  len : c'.len = if c.current n.val then c.len else c.len + 1

variable {c' : Cache κ υ} {n : Node (Entry κ υ)} {e : Entry κ υ}

omit [DecidableEq κ] in
theorem current_congr (h : c'.currentGeneration = c.currentGeneration) :
    c'.current = c.current := by
  funext e
  simp only [current, h]

theorem Promotes.live (h : Promotes c n e c') :
    c'.live = ⟨n.addr, e⟩ :: (c.removeElement n).live := by
  have hcur : c.current e = true := (current_iff c e).mpr h.fresh
  rw [Cache.live, h.nodes, current_congr h.generation]
  simp only [List.filter_cons, hcur, if_true]
  rfl

theorem Promotes.view (hwf : c.WF p) (h : Promotes c n e c') :
    c'.view = item e :: c.view.filter (fun i => i.key ≠ e.key) := by
  rw [Cache.view, h.live, List.map_cons, h.key, ← view_removeElement hwf h.mem]
  rfl

omit [DecidableEq κ] in
theorem Promotes.linked (hlinked : c.Linked) (h : Promotes c n e c') : c'.Linked := by
  intro k a
  rw [h.items, hlinked k a, h.nodes]
  constructor
  · rintro ⟨e', hm, hk⟩
    by_cases ha : a = n.addr
    · have heq := c.evictList.node_unique hm h.mem ha
      subst heq
      exact ⟨e, List.mem_cons_self, h.key.trans hk⟩
    · exact ⟨e', List.mem_cons_of_mem _ (List.mem_filter.mpr ⟨hm, by simpa using ha⟩), hk⟩
  · rintro ⟨e', hm, hk⟩
    rcases List.mem_cons.mp hm with heq | hm
    · injection heq with ha he
      subst ha he
      exact ⟨n.val, h.mem, h.key.symm.trans hk⟩
    · exact ⟨e', List.mem_of_mem_filter hm, hk⟩

theorem Promotes.wf (hwf : c.WF p) (h : Promotes c n e c') : c'.WF p where
  linked := h.linked hwf.linked
  ahead := by
    rw [h.nodes, current_congr h.generation]
    refine List.pairwise_cons.mpr ⟨fun m _ _ => (current_iff c e).mpr h.fresh, ?_⟩
    exact hwf.ahead.sublist List.filter_sublist
  len_eq := by
    rw [h.len, h.live, List.length_cons, Nat.cast_add, length_live_removeElement h.mem,
      hwf.len_eq]
    by_cases hc : c.current n.val
    · simp [hc]
    · simp [hc]
  generation := h.generation.trans hwf.generation
  past := by
    intro m hm
    rw [h.nodes] at hm
    rcases List.mem_cons.mp hm with rfl | hm
    · exact ⟨p, Nat.le_refl p, h.fresh.trans hwf.generation⟩
    · exact hwf.past m (List.mem_of_mem_filter hm)

omit [DecidableEq κ] in
theorem Promotes.length_le (h : Promotes c n e c') :
    c'.evictList.len ≤ c.evictList.len := by
  have hlt : (c.evictList.nodes.filter (fun m => m.addr ≠ n.addr)).length
      < c.evictList.nodes.length :=
    List.length_filter_lt_length_iff_exists.mpr ⟨n, h.mem, by simp⟩
  rw [LinkedList.len, h.nodes, List.length_cons]
  exact hlt

omit [DecidableEq κ] in
theorem refresh_promotes (hn : n ∈ c.evictList.nodes) (v : υ) (x : Int64) :
    Promotes c n ⟨n.val.key, v, x, c.currentGeneration⟩ (c.refresh n v x) where
  mem := hn
  nodes := c.evictList.modify_moveToFront_nodes (v := n.val) _ hn
  key := rfl
  fresh := rfl
  items := rfl
  generation := rfl
  len := rfl

omit [DecidableEq κ] in
theorem hit_promotes (hn : n ∈ c.evictList.nodes) (hc : c.current n.val) :
    Promotes c n n.val { c with evictList := c.evictList.moveToFront n.addr } where
  mem := hn
  nodes := c.evictList.moveToFront_nodes (v := n.val) hn
  key := rfl
  fresh := (current_iff c n.val).mp hc
  items := rfl
  generation := rfl
  len := by simp [hc]

/-! ## A new key -/

theorem pushNew_live (c : Cache κ υ) (k : κ) (v : υ) (x : Int64) :
    (c.pushNew k v x).live
      = ⟨c.evictList.fresh, ⟨k, v, x, c.currentGeneration⟩⟩ :: c.live := by
  grind [live, pushNew, LinkedList.pushFront_nodes, current_iff, live, pushNew]

theorem view_pushNew (c : Cache κ υ) (k : κ) (v : υ) (x : Int64) :
    (c.pushNew k v x).view = ⟨k, v, x⟩ :: c.view := by
  simp [view, pushNew_live, item]

theorem Linked.pushNew (h : c.Linked) {k : κ} (hk : ∀ n ∈ c.evictList.nodes, n.val.key ≠ k)
    (v : υ) (x : Int64) : (c.pushNew k v x).Linked := by
  intro k' a
  by_cases hkk : k' = k
  · subst hkk
    simp only [Cache.pushNew, Function.update_self, LinkedList.pushFront_nodes, List.mem_cons]
    constructor
    · intro ha
      cases ha
      exact ⟨_, Or.inl rfl, rfl⟩
    all_goals grind
  · simp only [Cache.pushNew, Function.update_of_ne hkk, LinkedList.pushFront_nodes,
      List.mem_cons, h k' a]
    grind

theorem WF.pushNew (h : c.WF p) {k : κ} (hk : ∀ n ∈ c.evictList.nodes, n.val.key ≠ k) (v : υ)
    (x : Int64) : (c.pushNew k v x).WF p where
  linked := Linked.pushNew h.linked hk v x
  ahead := by
    refine List.pairwise_cons.mpr ⟨?_, h.ahead⟩
    intro m _ _
    simp [Cache.pushNew, current]
  len_eq := by
    rw [pushNew_live, List.length_cons, Nat.cast_add, ← h.len_eq]
    rfl
  generation := h.generation
  past := by
    intro m hm
    rcases List.mem_cons.mp hm with rfl | hm
    · exact ⟨p, Nat.le_refl p, h.generation⟩
    · exact h.past m hm

omit [DecidableEq κ] in
/-- If the back of the list is current then so is everything in it: an eviction
drops a current entry only when no stale one is left. -/
theorem current_of_back (h : c.WF p) (hback : c.evictList.back = some n)
    (hc : c.current n.val) : ∀ m ∈ c.evictList.nodes, c.current m.val := by
  obtain ⟨init, hinit, -⟩ := c.evictList.back_eq_some hback
  have hahead := h.ahead
  grind

omit [DecidableEq κ] in
theorem evicted_mem (hn : c.evicted = some n) : n ∈ c.evictList.nodes := by
  unfold evicted at hn
  split at hn
  · exact List.mem_of_getLast? hn
  · exact absurd hn (by simp)

theorem Linked.evict (h : c.Linked) : c.evict.Linked := by
  unfold Cache.evict
  cases hn : c.evicted with
  | none => exact h
  | some n => exact h.removeElement (evicted_mem hn)

theorem WF.evict (h : c.WF p) : c.evict.WF p := by
  unfold Cache.evict
  cases hn : c.evicted with
  | none => exact h
  | some n => exact h.removeElement (evicted_mem hn)

theorem evict_eq (hgt : c.evictList.len > c.size) :
    ∃ init n, c.evictList.back = some n ∧ c.evictList.nodes = init ++ [n]
      ∧ c.evict = c.removeElement n ∧ (c.removeElement n).evictList.nodes = init := by
  have hne : c.evictList.nodes ≠ [] :=
    List.ne_nil_of_length_pos (Nat.lt_of_le_of_lt (Nat.zero_le _) hgt)
  have hback : c.evictList.back = some (c.evictList.nodes.getLast hne) :=
    List.getLast?_eq_some_getLast hne
  obtain ⟨init, hinit, hrem⟩ := c.evictList.back_eq_some hback
  exact ⟨init, _, hback, hinit, by simp [Cache.evict, evicted, hgt, hback], hrem⟩

@[simp] theorem evict_size (c : Cache κ υ) : c.evict.size = c.size := by
  unfold Cache.evict
  cases c.evicted <;> rfl

theorem evict_eq_self (hle : ¬ c.evictList.len > c.size) : c.evict = c := by
  simp [Cache.evict, evicted, hle]

/-- The size check drops the oldest entry when there are more than `size`, and a
stale element in place of it while there is one. -/
theorem view_evict (h : c.WF p) (hlen : c.evictList.len ≤ c.size + 1) :
    c.evict.view = c.view.take c.size := by
  by_cases hgt : c.evictList.len > c.size
  · obtain ⟨init, n, hback, hinit, hevict, hrem⟩ := evict_eq hgt
    have hsize : init.length = c.size := by
      simp only [LinkedList.len, hinit, List.length_append, List.length_singleton] at hlen hgt
      omega
    have hleft : (c.removeElement n).live = init.filter (fun m => c.current m.val) := by
      rw [live, hrem]
      rfl
    have hall : c.live = init.filter (fun m => c.current m.val)
        ++ if c.current n.val then [n] else [] := by
      rw [live, hinit, List.filter_append]
      by_cases hc : c.current n.val <;> simp [hc]
    rw [hevict, view, hleft, view, hall]
    by_cases hc : c.current n.val
    · have hcur : init.filter (fun m => c.current m.val) = init :=
        List.filter_eq_self.mpr fun m hm =>
          current_of_back h hback hc m (by rw [hinit]; exact List.mem_append_left _ hm)
      simp only [hcur, hc, if_true, List.map_append]
      rw [List.take_left' (by rw [List.length_map, hsize])]
    all_goals grind [Bool.false_eq_true, List.length_filter_le, List.length_map,
      List.take_of_length_le]
  · have hlive : c.view.length ≤ c.evictList.len :=
      (List.length_map _).trans_le (List.length_filter_le _ _)
    rw [evict_eq_self hgt, List.take_of_length_le (by omega)]

theorem evict_len_le (hlen : c.evictList.len ≤ c.size + 1) :
    c.evict.evictList.len ≤ c.size := by
  by_cases hgt : c.evictList.len > c.size
  · obtain ⟨init, n, -, hinit, hevict, hrem⟩ := evict_eq hgt
    grind [LinkedList.len]
  · rw [evict_eq_self hgt]
    exact Nat.le_of_not_gt hgt

/-! ## A new generation -/

omit [DecidableEq κ] in
theorem ofNat_generation_ne {j p : Nat} (hj : j ≤ p) (hp : p + 1 < 2 ^ 64) :
    Int64.ofNat j ≠ Int64.ofNat p + 1 := by
  intro h
  have hb := congrArg (fun i : Int64 => i.toBitVec.toNat) h
  simp at hb
  omega

omit [DecidableEq κ] in
theorem purge_live (h : c.WF p) (hp : p + 1 < 2 ^ 64) : c.purge.live = [] := by
  refine List.filter_eq_nil_iff.mpr fun n hn => ?_
  obtain ⟨j, hj, hg⟩ := h.past n hn
  intro hc
  have hg' : n.val.generation = c.currentGeneration + 1 := (current_iff c.purge n.val).mp hc
  rw [hg, h.generation] at hg'
  exact ofNat_generation_ne hj hp hg'

omit [DecidableEq κ] in
theorem WF.purge (h : c.WF p) (hp : p + 1 < 2 ^ 64) : c.purge.WF (p + 1) where
  linked := h.linked
  ahead := by
    have hnone := List.filter_eq_nil_iff.mp (purge_live h hp)
    exact List.Pairwise.imp_of_mem (fun _ hm _ hc => absurd hc (hnone _ hm)) h.ahead
  len_eq := by
    rw [purge_live h hp]
    rfl
  generation := by
    have hgen : c.purge.currentGeneration = c.currentGeneration + 1 := rfl
    rw [hgen, h.generation]
    exact (Int64.ofNat_add p 1).symm
  past := by
    intro n hn
    obtain ⟨j, hj, hg⟩ := h.past n hn
    exact ⟨j, Nat.le_succ_of_le hj, hg⟩

/-! ## `Keys` -/

omit [DecidableEq κ] in
theorem set_first_empty (done : List (Option κ)) (m : Nat) (x : Option κ) :
    (done ++ List.replicate (m + 1) none).set done.length x
      = (done ++ [x]) ++ List.replicate m none := by
  grind

omit [DecidableEq κ] in
theorem fillKeys_eq (c : Cache κ υ) (ns : List (Node (Entry κ υ))) :
    ∀ done : List (Option κ),
      c.fillKeys ns done.length
          (done ++ List.replicate (ns.filter fun n => c.current n.val).length none)
        = .ok (done ++ (ns.filter fun n => c.current n.val).map fun n => some n.val.key) := by
  induction ns with
  | nil => intro done; simp [fillKeys]
  | cons n ns ih =>
    grind [fillKeys, set_first_empty]

omit [DecidableEq κ] in
theorem keys_eq (h : c.WF p) : c.keys = .ok (c.view.reverse.map fun i => some i.key) := by
  have hlen : ¬ c.len < 0 := by rw [h.len_eq]; omega
  have hcount : c.len.toNat
      = (c.evictList.nodes.reverse.filter fun n => c.current n.val).length := by
    rw [h.len_eq, List.filter_reverse, List.length_reverse]
    rfl
  rw [keys, if_neg hlen, hcount]
  refine (c.fillKeys_eq _ []).trans ?_
  rw [List.filter_reverse, List.nil_append, view, List.map_reverse, List.map_reverse,
    List.map_map]
  rfl

/-! ## Finding a key in the view -/

omit [DecidableEq κ] in
theorem mem_view {i : Item κ υ} :
    i ∈ c.view ↔ ∃ n ∈ c.evictList.nodes, c.current n.val ∧ item n.val = i := by
  simp only [view, live, List.mem_map, List.mem_filter, and_assoc]

theorem view_find_eq_some (h : c.WF p) (hn : n ∈ c.evictList.nodes) (hc : c.current n.val) :
    c.view.find? (fun i => i.key = n.val.key) = some (item n.val) := by
  have hsome : (c.view.find? (fun i => i.key = n.val.key)).isSome :=
    List.find?_isSome.mpr ⟨item n.val, mem_view.mpr ⟨n, hn, hc, rfl⟩, by simp [item]⟩
  obtain ⟨i, hi⟩ := Option.isSome_iff_exists.mp hsome
  obtain ⟨m, hm, -, rfl⟩ := mem_view.mp (List.mem_of_find?_eq_some hi)
  have hfound := List.find?_some hi
  have hkey : m.val.key = n.val.key := of_decide_eq_true hfound
  rw [hi, c.evictList.node_unique hm hn ((addr_eq_iff h.linked hm hn).mpr hkey)]

theorem view_find_eq_none (h : c.WF p) {k : κ}
    (hk : ∀ n, c.lookup k = some n → ¬ c.current n.val) :
    c.view.find? (fun i => i.key = k) = none := by
  refine List.find?_eq_none.mpr fun i hi => ?_
  obtain ⟨n, hn, hc, rfl⟩ := mem_view.mp hi
  intro hkey
  exact hk n ((lookup_eq_some h.linked).mpr ⟨hn, of_decide_eq_true hkey⟩) hc

end Operations

end Cache

/-! ## Every operation does to the view what the reference does to its list -/

section Refinement

variable [DecidableEq κ] {n p : Nat} {c : Cache κ υ} {r : RefCache κ υ n}

/-- The cache is well formed, as large as the reference and shows its list. -/
structure Refines (c : Cache κ υ) (p : Nat) (r : RefCache κ υ n) : Prop where
  wf : c.WF p
  size : c.size = n
  bounded : c.evictList.len ≤ n
  view : c.view = r.items

omit [DecidableEq κ] in
theorem view_length_le (c : Cache κ υ) : c.view.length ≤ c.evictList.len :=
  (List.length_map _).trans_le (List.length_filter_le _ _)

omit [DecidableEq κ] in
theorem newLru_refines (d : Int64) :
    Refines (newLruWithParams κ υ n d) 0 (RefCache.empty : RefCache κ υ n) where
  wf := by
    refine ⟨?_, List.Pairwise.nil, rfl, rfl, ?_⟩
    · simp [newLruWithParams, newLru]
    · simp [newLruWithParams, newLru]
  size := rfl
  bounded := Nat.zero_le n
  view := rfl

theorem Refines.removeElement (h : Refines c p r) {m : Node (Entry κ υ)}
    (hm : m ∈ c.evictList.nodes) : Refines (c.removeElement m) p (r.remove m.val.key) where
  wf := h.wf.removeElement hm
  size := h.size
  bounded := Nat.le_trans (List.length_filter_le _ _) h.bounded
  view := by rw [Cache.view_removeElement h.wf hm, h.view]; rfl

theorem Refines.promotes (h : Refines c p r) {m : Node (Entry κ υ)} {e : Entry κ υ}
    {c' : Cache κ υ} (hpr : c.Promotes m e c') (hsize : c'.size = c.size) :
    Refines c' p (r.add (Cache.item e)) where
  wf := hpr.wf h.wf
  size := hsize.trans h.size
  bounded := Nat.le_trans hpr.length_le h.bounded
  view := by
    have hview := hpr.view h.wf
    have hlen : c'.view.length ≤ n :=
      Nat.le_trans (view_length_le c') (Nat.le_trans hpr.length_le h.bounded)
    rw [h.view] at hview
    rw [hview] at hlen ⊢
    exact (List.take_of_length_le hlen).symm

theorem Refines.add (h : Refines c p r) (now : Int64) (k : κ) (v : υ) (x : Int64) :
    Refines (c.addWithExpiresInSecs now k v x) p (r.add ⟨k, v, Cache.expiry now x⟩) := by
  unfold Cache.addWithExpiresInSecs
  cases hl : c.lookup k with
  | some m =>
    obtain ⟨hm, rfl⟩ := (Cache.lookup_eq_some h.wf.linked).mp hl
    exact h.promotes (Cache.refresh_promotes hm v _) rfl
  | none =>
    have hnew := Cache.lookup_eq_none h.wf.linked hl
    have habsent := Cache.view_find_eq_none h.wf (k := k) (by simp [hl])
    have hpush := h.wf.pushNew hnew v (Cache.expiry now x)
    have hlen : (c.pushNew k v (Cache.expiry now x)).evictList.len
        ≤ (c.pushNew k v (Cache.expiry now x)).size + 1 :=
      Nat.succ_le_succ (h.size ▸ h.bounded)
    have hsize : (c.pushNew k v (Cache.expiry now x)).size = n := h.size
    refine ⟨hpush.evict, ?_, ?_, ?_⟩
    all_goals grind [cases Refines, Cache.evict_len_le, Cache.evict_size, Cache.view_evict,
      Cache.view_pushNew, RefCache.add_items, RefCache.remove_eq_self]

theorem Refines.get (h : Refines c p r) (now : Int64) (k : κ) :
    (c.get now k).2 = (r.get now k).2 ∧ Refines (c.get now k).1 p (r.get now k).1 := by
  unfold Cache.get RefCache.get
  rw [← h.view]
  cases hl : c.lookup k with
  | none =>
    rw [Cache.view_find_eq_none h.wf (by simp [hl])]
    exact ⟨rfl, h⟩
  | some m =>
    obtain ⟨hm, rfl⟩ := (Cache.lookup_eq_some h.wf.linked).mp hl
    by_cases hc : c.current m.val
    · rw [Cache.view_find_eq_some h.wf hm hc]
      by_cases hx : Cache.expired now m.val.expireAtSecs
      · simp only [hc, hx, Cache.item, Bool.not_true, Bool.false_or, if_true]
        exact ⟨trivial, h.removeElement hm⟩
      · simp only [hc, hx, Cache.item, Bool.not_true, Bool.false_or, Bool.false_eq_true,
          if_false]
        exact ⟨trivial, h.promotes (Cache.hit_promotes hm hc) rfl⟩
    · -- A stale element is dropped; the reference had nothing under the key.
      have habsent : c.view.find? (fun i => i.key = m.val.key) = none := by
        refine Cache.view_find_eq_none h.wf fun m' hl' => ?_
        rw [hl] at hl'
        cases hl'
        exact hc
      have hrem := h.removeElement hm
      grind [cases Refines, RefCache.remove_eq_self]

theorem Refines.remove (h : Refines c p r) (k : κ) : Refines (c.remove k) p (r.remove k) := by
  unfold Cache.remove
  cases hl : c.lookup k with
  | none =>
    have habsent := Cache.view_find_eq_none h.wf (k := k) (by simp [hl])
    rw [RefCache.remove_eq_self (h.view ▸ habsent)]
    exact h
  | some m =>
    obtain ⟨hm, rfl⟩ := (Cache.lookup_eq_some h.wf.linked).mp hl
    exact h.removeElement hm

omit [DecidableEq κ] in
theorem Refines.purge (h : Refines c p r) (hp : p + 1 < 2 ^ 64) :
    Refines c.purge (p + 1) (RefCache.empty : RefCache κ υ n) where
  wf := h.wf.purge hp
  size := h.size
  bounded := h.bounded
  view := by rw [Cache.view, Cache.purge_live h.wf hp]; rfl

/-! ## Whole runs -/

def purges (ops : List (Op κ υ)) : Nat :=
  ops.countP fun | .purge => true | _ => false

/-- One call keeps the refinement and is answered alike. -/
theorem Refines.step (h : Refines c p r) (op : Op κ υ) (ops : List (Op κ υ))
    (hp : p + purges (op :: ops) < 2 ^ 64) :
    (c.step op).2 = (r.step op).2
      ∧ ∃ p', Refines (c.step op).1 p' (r.step op).1 ∧ p' + purges ops < 2 ^ 64 := by
  simp only [purges, List.countP_cons] at hp
  cases op with
  | addWithExpiresInSecs now k v x => exact ⟨rfl, p, h.add now k v x, hp⟩
  | get now k =>
    obtain ⟨hout, href⟩ := h.get now k
    exact ⟨congrArg Answer.got hout, p, href, hp⟩
  | remove k => exact ⟨rfl, p, h.remove k, hp⟩
  | purge =>
    simp only [if_true] at hp
    exact ⟨rfl, p + 1, h.purge (by omega), by simp only [purges]; omega⟩
  | keys =>
    refine ⟨?_, p, h, hp⟩
    simp only [Cache.step, RefCache.step, Cache.keys_eq h.wf, h.view]
  | len =>
    refine ⟨?_, p, h, hp⟩
    have hlen : c.live.length = r.items.length := by rw [← h.view, Cache.view, List.length_map]
    simp only [Cache.step, RefCache.step, Cache.Len, h.wf.len_eq, hlen]

/-- The refinement holds after every run with fewer than 2^64 purges. -/
theorem refines_run (d : Int64) (ops : List (Op κ υ)) (hp : purges ops < 2 ^ 64) :
    outputs Cache.step (newLruWithParams κ υ n d) ops
        = outputs RefCache.step (RefCache.empty : RefCache κ υ n) ops
      ∧ ∃ p, Refines (final Cache.step (newLruWithParams κ υ n d) ops) p
          (final RefCache.step (RefCache.empty : RefCache κ υ n) ops) := by
  obtain ⟨hout, p, hfin, -⟩ := outputs_eq_of_simulation
    (R := fun ops c (r : RefCache κ υ n) => ∃ p, Refines c p r ∧ p + purges ops < 2 ^ 64)
    (fun op ops c r ⟨p, href, hlt⟩ => href.step op ops hlt)
    ops (newLruWithParams κ υ n d) RefCache.empty ⟨0, newLru_refines d, by simpa using hp⟩
  exact ⟨hout, p, hfin⟩

/-- **The cache answers every call as a plain bounded LRU does**, in every sequence
with fewer than 2^64 purges and whatever the clock reads. After any such sequence
`Len` is the number of current entries, `Keys` stays inside its slice and lists
their keys from oldest to newest, and the element an insertion would evict is
current only if every element of the list is. -/
theorem cache_is_bounded_lru (n : Nat) (d : Int64) (ops : List (Op κ υ))
    (hp : purges ops < 2 ^ 64) :
    outputs Cache.step (newLruWithParams κ υ n d) ops
        = outputs RefCache.step (RefCache.empty : RefCache κ υ n) ops
      ∧ ∀ c, c = final Cache.step (newLruWithParams κ υ n d) ops →
        c.Len = c.live.length
        ∧ c.keys = .ok (c.live.reverse.map fun m => some m.val.key)
        ∧ ∀ k v x, c.lookup k = none → ∀ m, (c.pushNew k v x).evicted = some m →
            (c.pushNew k v x).current m.val →
            ∀ m' ∈ (c.pushNew k v x).evictList.nodes, (c.pushNew k v x).current m'.val := by
  obtain ⟨hout, p, href⟩ := refines_run (κ := κ) (υ := υ) (n := n) d ops hp
  refine ⟨hout, ?_⟩
  rintro c rfl
  refine ⟨href.wf.len_eq, ?_, ?_⟩
  · rw [Cache.keys_eq href.wf, Cache.view, ← List.map_reverse, List.map_map]
    rfl
  · intro k v x hl m hev hcur
    have hwf := href.wf.pushNew (Cache.lookup_eq_none href.wf.linked hl) v x
    grind [Cache.evicted, Cache.step, final, newLruWithParams, Cache.current_of_back]

end Refinement

/-- A run that fills a cache of two, purges it and adds again: the stale entries
are evicted first. -/
theorem cache_is_bounded_lru_purge :
    outputs Cache.step (newLruWithParams Nat Nat 2 0)
        [.addWithExpiresInSecs 0 1 10 0, .addWithExpiresInSecs 0 2 20 0, .purge,
          .addWithExpiresInSecs 0 3 30 0, .get 0 1, .addWithExpiresInSecs 0 4 40 0, .keys]
      = outputs RefCache.step (RefCache.empty : RefCache Nat Nat 2)
        [.addWithExpiresInSecs 0 1 10 0, .addWithExpiresInSecs 0 2 20 0, .purge,
          .addWithExpiresInSecs 0 3 30 0, .get 0 1, .addWithExpiresInSecs 0 4 40 0, .keys] :=
  (cache_is_bounded_lru 2 0 _ (by decide)).1

/-! ## When the generations wrap -/

section Wrap

variable [DecidableEq κ]

theorem final_replicate_purge (c : Cache κ υ) (m : Nat) :
    final Cache.step c (List.replicate m .purge)
      = { c with
          len := if m = 0 then c.len else 0
          currentGeneration := c.currentGeneration + Int64.ofNat m } := by
  induction m generalizing c with
  | zero => simp [final]
  | succ m ih =>
    simp only [List.replicate_succ, final, Cache.step, ih, Cache.purge]
    have hgen : c.currentGeneration + 1 + Int64.ofNat m
        = c.currentGeneration + Int64.ofNat (m + 1) := by
      rw [Int64.ofNat_add, Int64.add_assoc, Int64.add_comm 1]
      rfl
    simp [hgen]

theorem ref_final_replicate_purge {n : Nat} (r : RefCache κ υ n) (m : Nat) :
    (final RefCache.step r (List.replicate (m + 1) .purge)).items = [] := by
  induction m generalizing r with
  | zero => rfl
  | succ m ih => exact ih _

end Wrap

/-- An entry, purges that bring its generation number back, and a look at it. -/
def wrapRun (m : Nat) : List (Op Nat Nat) :=
  [.addWithExpiresInSecs 0 1 7 0] ++ List.replicate m .purge ++ [.get 0 1]

theorem wrapRun_hit {m : Nat} (hm : Int64.ofNat (m + 1) = 0) :
    (outputs Cache.step (newLruWithParams Nat Nat 1 0) (wrapRun (m + 1))).getLast?
      = some (.got (some 7)) := by
  rw [wrapRun, outputs_append, List.getLast?_append, final_append, final_replicate_purge, hm]
  rfl

theorem wrapRun_miss (m : Nat) :
    (outputs RefCache.step (RefCache.empty : RefCache Nat Nat 1) (wrapRun (m + 1))).getLast?
      = some (.got none) := by
   grind [RefCache, RefCache.empty, RefCache.get, RefCache.step, final, outputs, wrapRun,
    final_append, outputs_append, ref_final_replicate_purge]

/-- After exactly 2^64 purges the entry of the first generation is current again:
the cache finds it and a plain LRU does not. -/
theorem cache_hit_after_wrapped_purges :
    outputs Cache.step (newLruWithParams Nat Nat 1 0) (wrapRun (2 ^ 64))
      ≠ outputs RefCache.step (RefCache.empty : RefCache Nat Nat 1) (wrapRun (2 ^ 64)) := by
  grind [wrapRun_hit, wrapRun_miss]

end CallCenter.Utils
