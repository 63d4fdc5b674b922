import Mathlib.Data.List.AList

/-!
# Ranging over a map

A map is an `AList`, and a loop over it copies those of its entries that pass a test into another
map, under the same or under another key. The loop may take the entries in any order: as long as no
two keys are renamed to one, an entry is found under its new key if it passes the test, and what was
there before otherwise.
-/

namespace CallCenter.Lib

variable {α β : Type} [DecidableEq α]

def copyEntry (g : α → α) (ok : α → β → Bool) (res : AList fun _ : α => β)
    (e : Sigma fun _ : α => β) : AList fun _ : α => β :=
  if ok e.1 e.2 then res.insert (g e.1) e.2 else res

/-- Copies the entries of `m` that pass `ok` into `res`, under the keys that `g` gives them. -/
def copyInto (g : α → α) (ok : α → β → Bool) (m res : AList fun _ : α => β) :
    AList fun _ : α => β :=
  m.entries.foldl (copyEntry g ok) res

theorem lookup_copyEntry_of_ne {g : α → α} {ok : α → β → Bool} {res : AList fun _ : α => β}
    {e : Sigma fun _ : α => β} {k : α} (h : k ≠ g e.1) :
    (copyEntry g ok res e).lookup k = res.lookup k := by
  unfold copyEntry
  split
  · exact AList.lookup_insert_ne h
  · rfl

theorem lookup_copyInto_of_ne {g : α → α} {ok : α → β → Bool} (m res : AList fun _ : α => β) {k : α}
    (h : ∀ k', k ≠ g k') : (copyInto g ok m res).lookup k = res.lookup k := by
  unfold copyInto
  generalize m.entries = l
  induction l generalizing res with
  | nil => rfl
  | cons e rest ih =>
    rw [List.foldl_cons, ih, lookup_copyEntry_of_ne (h e.1)]

theorem lookup_copyInto {g : α → α} (hg : Function.Injective g) (ok : α → β → Bool)
    (m res : AList fun _ : α => β) (k : α) :
    (copyInto g ok m res).lookup (g k) = ((m.lookup k).filter (ok k)).or (res.lookup (g k)) := by
  have hrange : ∀ (l : List (Sigma fun _ : α => β)) (res : AList fun _ : α => β), l.NodupKeys →
      (l.foldl (copyEntry g ok) res).lookup (g k)
        = ((l.dlookup k).filter (ok k)).or (res.lookup (g k)) := by
    intro l
    induction l with
    | nil =>
      intro res _
      rfl
    | cons e rest ih =>
      intro res hnodup
      obtain ⟨hnew, hrest⟩ := List.nodupKeys_cons.mp hnodup
      rw [List.foldl_cons, ih _ hrest]
      by_cases hk : k = e.1
      · -- The keys are distinct, so no later entry has this one.
        rw [hk, List.dlookup_eq_none.mpr hnew, List.dlookup_cons_eq, Option.filter_none,
          Option.none_or]
        unfold copyEntry
        by_cases hok : ok e.1 e.2 = true
        · rw [if_pos hok, AList.lookup_insert, Option.filter_some, if_pos hok, Option.some_or]
        · rw [if_neg hok, Option.filter_some, if_neg hok, Option.none_or]
      · rw [List.dlookup_cons_ne _ _ hk, lookup_copyEntry_of_ne fun h => hk (hg h)]
  exact hrange m.entries res m.nodupKeys

end CallCenter.Lib
