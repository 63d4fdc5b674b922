import CallCenter.Lib.Run

/-!
# Rows that are on their way

Transactions insert rows into a table that others read at the same time. A reader sees the rows that
are committed, and not those of the transactions that are still under way. So a transaction that
counts the rows before it inserts one, and inserts only up to a limit, keeps the limit for what it
sees; what is kept for all is the `load`, the committed rows together with those on their way, and
only if the count lets nothing in that the load has no room for (`Sees`).
-/

namespace CallCenter.Lib

variable {ρ π : Type}

structure Intake (ρ π : Type) where
  rows : List ρ
  flying : List π

namespace Intake

def enter (s : Intake ρ π) (x : π) : Intake ρ π := { s with flying := s.flying ++ [x] }

def advance (s : Intake ρ π) (i : Nat) (y : π) : Intake ρ π := { s with flying := s.flying.set i y }

def land (s : Intake ρ π) (i : Nat) (r : ρ) : Intake ρ π :=
  ⟨s.rows ++ [r], s.flying.eraseIdx i⟩

def drop (s : Intake ρ π) (i : Nat) : Intake ρ π := { s with flying := s.flying.eraseIdx i }

def load (p : ρ → Bool) (q : π → Bool) (s : Intake ρ π) : Nat :=
  s.rows.countP p + s.flying.countP q

/-- What the committed rows leave room for, there is room for. -/
def Sees (s : Intake ρ π) (p : ρ → Bool) (q : π → Bool) (limit : Nat) : Prop :=
  s.rows.countP p < limit → load p q s < limit

instance (s : Intake ρ π) (p : ρ → Bool) (q : π → Bool) (limit : Nat) :
    Decidable (s.Sees p q limit) := inferInstanceAs (Decidable (_ → _))

section Load

variable {p p' : ρ → Bool} {q q' : π → Bool} {limit : Nat} {s : Intake ρ π}

theorem load_mono (hp : ∀ r ∈ s.rows, p r = true → p' r = true)
    (hq : ∀ x ∈ s.flying, q x = true → q' x = true) : load p q s ≤ load p' q' s :=
  Nat.add_le_add (List.countP_mono_left hp) (List.countP_mono_left hq)

theorem rows_le_load : s.rows.countP p ≤ load p q s := Nat.le_add_right _ _

theorem load_enter (x : π) : load p q (s.enter x) = load p q s + if q x then 1 else 0 := by
  unfold load enter
  rw [List.countP_append, List.countP_singleton, Nat.add_assoc]

theorem load_enter_le {x : π} (hload : load p q s ≤ limit)
    (hroom : q x = true → load p q s < limit) : load p q (s.enter x) ≤ limit := by
  rw [load_enter]
  split
  · rename_i hx
    exact hroom hx
  · exact hload

theorem load_advance_le {x y : π} {i : Nat} (hi : s.flying[i]? = some x)
    (hy : q y = true → q x = true) : load p q (s.advance i y) ≤ load p q s := by
  have hold := countP_pool q hi
  have hnew : (s.flying.set i y ++ []).countP q
      = (s.flying.eraseIdx i).countP q + (if q y then 1 else 0) + [].countP q :=
    countP_set_append q y hi
  rw [List.append_nil, List.countP_nil] at hnew
  unfold load advance
  dsimp only
  by_cases hqy : q y = true
  · rw [if_pos hqy] at hnew
    rw [if_pos (hy hqy)] at hold
    omega
  · rw [if_neg hqy] at hnew
    omega

theorem load_land_le {x : π} {r : ρ} {i : Nat} (hi : s.flying[i]? = some x)
    (hr : p r = true → q x = true) : load p q (s.land i r) ≤ load p q s := by
  have hold := countP_pool q hi
  unfold load land
  dsimp only
  rw [List.countP_append, List.countP_singleton, hold]
  by_cases hpr : p r = true
  · rw [if_pos hpr, if_pos (hr hpr)]
    omega
  · rw [if_neg hpr]
    omega

theorem load_drop_le (i : Nat) : load p q (s.drop i) ≤ load p q s :=
  Nat.add_le_add_left ((List.eraseIdx_sublist _ _).countP_le) _

theorem load_rows_le {rows : List ρ} (h : rows.countP p ≤ s.rows.countP p) :
    load p q { s with rows := rows } ≤ load p q s := Nat.add_le_add_right h _

end Load

end Intake

end CallCenter.Lib
