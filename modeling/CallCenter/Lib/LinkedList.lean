import Mathlib.Data.List.Nodup
import Mathlib.Data.List.Pairwise

/-!
# Linked lists whose elements have an identity

A doubly linked list hands out a pointer for every element it creates, and later
operations are told *which* element to move or remove, not which value. Here a
list is its nodes from front to back, each with the address it was created at.
Addresses are never reused, so an address held elsewhere (in an index, say) names
at most one node for ever; that is the invariant the structure carries.
-/

namespace CallCenter.Lib

structure Node (α : Type) where
  addr : Nat
  val : α

structure LinkedList (α : Type) where
  nodes : List (Node α)
  fresh : Nat
  nodup : (nodes.map Node.addr).Nodup
  below : ∀ n ∈ nodes, n.addr < fresh

namespace LinkedList

variable {α : Type}

def empty : LinkedList α where
  nodes := []
  fresh := 0
  nodup := List.nodup_nil
  below := by simp

def len (l : LinkedList α) : Nat := l.nodes.length

def back (l : LinkedList α) : Option (Node α) := l.nodes.getLast?

def deref (l : LinkedList α) (a : Nat) : Option α :=
  (l.nodes.find? (fun n => n.addr = a)).map Node.val

def pushFront (l : LinkedList α) (v : α) : LinkedList α where
  nodes := ⟨l.fresh, v⟩ :: l.nodes
  fresh := l.fresh + 1
  nodup := by
    refine List.nodup_cons.mpr ⟨?_, l.nodup⟩
    intro h
    obtain ⟨n, hn, ha⟩ := List.mem_map.mp h
    exact absurd (l.below n hn) (by simp [ha])
  below := by
    intro n hn
    rcases List.mem_cons.mp hn with rfl | hn
    · exact Nat.lt_succ_self _
    · exact Nat.lt_succ_of_lt (l.below n hn)

def remove (l : LinkedList α) (a : Nat) : LinkedList α where
  nodes := l.nodes.filter (fun n => n.addr ≠ a)
  fresh := l.fresh
  nodup := l.nodup.sublist (List.filter_sublist.map Node.addr)
  below := fun n hn => l.below n (List.mem_of_mem_filter hn)

def modify (l : LinkedList α) (a : Nat) (f : α → α) : LinkedList α where
  nodes := l.nodes.map (fun n => if n.addr = a then ⟨n.addr, f n.val⟩ else n)
  fresh := l.fresh
  nodup := by
    have h : l.nodes.map (Node.addr ∘ fun n => if n.addr = a then ⟨n.addr, f n.val⟩ else n)
        = l.nodes.map Node.addr := by
      refine List.map_congr_left fun n _ => ?_
      by_cases hn : n.addr = a <;> simp [hn]
    rw [List.map_map, h]
    exact l.nodup
  below := by
    intro n hn
    obtain ⟨m, hm, rfl⟩ := List.mem_map.mp hn
    by_cases h : m.addr = a
    · simpa [h] using l.below m hm
    · simpa [h] using l.below m hm

/-- Move the node at `a` to the front, leaving the order of the others alone. -/
def moveToFront (l : LinkedList α) (a : Nat) : LinkedList α where
  nodes := l.nodes.filter (fun n => n.addr = a) ++ l.nodes.filter (fun n => n.addr ≠ a)
  fresh := l.fresh
  nodup := by
    rw [List.map_append]
    refine List.Nodup.append (l.nodup.sublist (List.filter_sublist.map Node.addr))
      (l.nodup.sublist (List.filter_sublist.map Node.addr)) ?_
    intro b hb hb'
    obtain ⟨n, hn, rfl⟩ := List.mem_map.mp hb
    obtain ⟨m, hm, hmn⟩ := List.mem_map.mp hb'
    simp only [List.mem_filter, decide_eq_true_eq] at hn hm
    exact hm.2 (hmn.trans hn.2)
  below := by
    intro n hn
    rcases List.mem_append.mp hn with h | h
    · exact l.below n (List.mem_of_mem_filter h)
    · exact l.below n (List.mem_of_mem_filter h)

@[simp] theorem empty_nodes : (empty : LinkedList α).nodes = [] := rfl

variable (l : LinkedList α)

@[simp] theorem pushFront_nodes (v : α) :
    (l.pushFront v).nodes = ⟨l.fresh, v⟩ :: l.nodes := rfl

@[simp] theorem remove_nodes (a : Nat) :
    (l.remove a).nodes = l.nodes.filter (fun n => n.addr ≠ a) := rfl

theorem node_unique {n m : Node α} (hn : n ∈ l.nodes) (hm : m ∈ l.nodes) (h : n.addr = m.addr) :
    n = m :=
  List.inj_on_of_nodup_map l.nodup hn hm h

theorem deref_eq_some {a : Nat} {v : α} :
    l.deref a = some v ↔ ⟨a, v⟩ ∈ l.nodes := by
  constructor
  · intro h
    obtain ⟨n, hn, rfl⟩ := Option.map_eq_some_iff.mp h
    have ha : n.addr = a := by simpa using List.find?_some hn
    exact ha ▸ List.mem_of_find?_eq_some hn
  · intro h
    have hsome : (l.nodes.find? (fun n => n.addr = a)).isSome := by
      rw [List.find?_isSome]
      exact ⟨⟨a, v⟩, h, by simp⟩
    obtain ⟨n, hn⟩ := Option.isSome_iff_exists.mp hsome
    have ha : n.addr = a := by simpa using List.find?_some hn
    have heq : n = ⟨a, v⟩ := l.node_unique (List.mem_of_find?_eq_some hn) h ha
    simp [deref, hn, heq]

theorem filter_addr {a : Nat} {v : α} (h : ⟨a, v⟩ ∈ l.nodes) :
    l.nodes.filter (fun n => n.addr = a) = [⟨a, v⟩] := by
  have hcount : (l.nodes.filter (fun n => n.addr = a)).length ≤ 1 := by
    have hnd := l.nodup.sublist (List.filter_sublist (p := fun n => n.addr = a) |>.map Node.addr)
    have hrep : (l.nodes.filter (fun n => n.addr = a)).map Node.addr
        = List.replicate (l.nodes.filter (fun n => n.addr = a)).length a := by
      refine List.eq_replicate_iff.mpr ⟨by simp, ?_⟩
      intro b hb
      obtain ⟨n, hn, rfl⟩ := List.mem_map.mp hb
      simpa using (List.mem_filter.mp hn).2
    rw [hrep] at hnd
    exact List.nodup_replicate.mp hnd
  have hmem : (⟨a, v⟩ : Node α) ∈ l.nodes.filter (fun n => n.addr = a) :=
    List.mem_filter.mpr ⟨h, by simp⟩
  obtain ⟨n, hn⟩ :=
    List.length_eq_one_iff.mp (Nat.le_antisymm hcount (List.length_pos_of_mem hmem))
  rw [hn] at hmem ⊢
  rw [List.mem_singleton.mp hmem]

theorem moveToFront_nodes {a : Nat} {v : α} (h : ⟨a, v⟩ ∈ l.nodes) :
    (l.moveToFront a).nodes = ⟨a, v⟩ :: l.nodes.filter (fun n => n.addr ≠ a) := by
  simp only [moveToFront, l.filter_addr h, List.singleton_append]

theorem modify_moveToFront_nodes {a : Nat} {v : α} (f : α → α) (h : ⟨a, v⟩ ∈ l.nodes) :
    ((l.moveToFront a).modify a f).nodes = ⟨a, f v⟩ :: l.nodes.filter (fun n => n.addr ≠ a) := by
  have hrest : (l.nodes.filter (fun n => n.addr ≠ a)).map
      (fun n => if n.addr = a then ⟨n.addr, f n.val⟩ else n)
        = l.nodes.filter (fun n => n.addr ≠ a) := by
    refine (List.map_congr_left fun n hn => ?_).trans (List.map_id _)
    have ha : n.addr ≠ a := by simpa using (List.mem_filter.mp hn).2
    simp [ha]
  simp only [modify, l.moveToFront_nodes h, List.map_cons, if_true, hrest]

theorem back_eq_some {n : Node α} (h : l.back = some n) :
    ∃ init, l.nodes = init ++ [n] ∧ (l.remove n.addr).nodes = init := by
  obtain ⟨init, hinit⟩ := List.getLast?_eq_some_iff.mp h
  refine ⟨init, hinit, ?_⟩
  have hnd := l.nodup
  rw [hinit, List.map_append] at hnd
  have hne : ∀ m ∈ init, decide (m.addr ≠ n.addr) = true := by
    intro m hm
    have := List.disjoint_of_nodup_append hnd (List.mem_map_of_mem hm)
    simpa using this
  rw [remove_nodes, hinit, List.filter_append, List.filter_eq_self.mpr hne]
  simp

end LinkedList

end CallCenter.Lib
