import CallCenter.Model.Lru

/-!
# The conversations of the chat manager

`chat/store.go` keeps the conversations in a cache under their ids. A new conversation replaces one
that has the same id; when the goroutine of the old one ends, `RemoveConversation` takes the old one
out only if the cache has not got another one by then.

Every conversation has its own goroutine, which adds it and later removes it. The cache also drops
what it holds by itself. `stored` and `dropped` keep track of what was stored and of what went that
way.
-/

namespace CallCenter.Chat

open Lib Utils Model

structure ConvRef where
  ref : Nat
  id : String
  deriving DecidableEq

inductive StorePc where
  -- the two operations of `StoreConversation`
  | check | add
  | stored | removed

structure ChatStore where
  chats : Cache String ConvRef
  convs : List (ConvRef × StorePc)
  stored : List ConvRef
  dropped : List ConvRef

namespace ChatStore

def latest (w : ChatStore) (id : String) : Option ConvRef := w.stored.find? fun c => c.id = id

def get (w : ChatStore) (id : String) (now : Int64) : ChatStore :=
  { w with
    chats := (w.chats.get now id).1
    dropped := w.dropped ++ ((droppedByGet w.chats now id).map fun n => n.val.value).toList }

def getConversation (w : ChatStore) (id : String) (now : Int64) : ChatStore × Option ConvRef :=
  if id = "" then (w, none) else (w.get id now, (w.chats.get now id).2)

def addWithDefaultExpires (w : ChatStore) (c : ConvRef) (now : Int64) : ChatStore :=
  { w with
    chats := w.chats.addWithDefaultExpires now c.id c
    stored := c :: w.stored
    dropped := w.dropped ++
      ((droppedByAdd w.chats now c.id c w.chats.defaultExpiry).map fun n => n.val.value).toList }

/-- `RemoveConversation`: the predicate compares pointers. -/
def removeConversation (w : ChatStore) (c : ConvRef) : ChatStore :=
  { w with chats := (w.chats.removeFunc c.id fun v => v = c).1 }

/-- A purge leaves everything in the map, under an older generation. -/
def purge (w : ChatStore) : ChatStore :=
  { w with
    chats := w.chats.purge
    dropped := w.dropped ++ w.chats.evictList.nodes.map fun n => n.val.value }

def goto (w : ChatStore) (c : ConvRef) (pc : StorePc) : ChatStore :=
  { w with convs := w.convs.set c.ref (c, pc) }

end ChatStore

inductive StoreLabel where
  | newConversation (id : String)
  | check (ref : Nat) (now : Int64) | add (ref : Nat) (now : Int64)
  | removeConversation (ref : Nat)
  | getConversation (id : String) (now : Int64)
  | purge

def ChatStore.step (w : ChatStore) : StoreLabel → Option ChatStore
  | .newConversation id => some { w with convs := w.convs ++ [(⟨w.convs.length, id⟩, .check)] }
  | .check ref now =>
    match w.convs[ref]? with
    | some (c, .check) => some ((w.get c.id now).goto c .add)
    | _ => none
  | .add ref now =>
    match w.convs[ref]? with
    | some (c, .add) => some ((w.addWithDefaultExpires c now).goto c .stored)
    | _ => none
  | .removeConversation ref =>
    match w.convs[ref]? with
    | some (c, .stored) => some ((w.removeConversation c).goto c .removed)
    | _ => none
  | .getConversation id now => some (w.getConversation id now).1
  | .purge => some w.purge

def chatStore (size : Nat) (expiry : Int64) : ChatStore where
  chats := newLruWithParams String ConvRef size expiry
  convs := []
  stored := []
  dropped := []

/-! ## What a step can do -/

inductive StoreMoves (w : ChatStore) : StoreLabel → ChatStore → Prop where
  | newConversation (id : String) :
      StoreMoves w (.newConversation id)
        { w with convs := w.convs ++ [(⟨w.convs.length, id⟩, .check)] }
  | check (ref : Nat) (now : Int64) (c : ConvRef) (h : w.convs[ref]? = some (c, .check)) :
      StoreMoves w (.check ref now) ((w.get c.id now).goto c .add)
  | add (ref : Nat) (now : Int64) (c : ConvRef) (h : w.convs[ref]? = some (c, .add)) :
      StoreMoves w (.add ref now) ((w.addWithDefaultExpires c now).goto c .stored)
  | removeConversation (ref : Nat) (c : ConvRef) (h : w.convs[ref]? = some (c, .stored)) :
      StoreMoves w (.removeConversation ref) ((w.removeConversation c).goto c .removed)
  | getConversation (id : String) (now : Int64) :
      StoreMoves w (.getConversation id now) (w.getConversation id now).1
  | purge : StoreMoves w .purge w.purge

theorem store_cases {w w' : ChatStore} {l : StoreLabel} (h : w.step l = some w') :
    StoreMoves w l w' := by
  cases l <;> grind [ChatStore.step, StoreMoves]

/-! ## What the cache holds -/

/-- The cache holds a conversation for an id only if it is the latest one stored under it and has
not been removed, and the latest one is there unless it was removed or the cache has dropped it. -/
structure StoreOk (w : ChatStore) : Prop where
  linked : w.chats.Linked
  refs : ∀ (i : Nat) (p : ConvRef × StorePc), w.convs[i]? = some p → p.1.ref = i
  stored : ∀ c ∈ w.stored,
    w.convs[c.ref]? = some (c, .stored) ∨ w.convs[c.ref]? = some (c, .removed)
  held : ∀ id c b, holds w.chats id = some (c, b) →
    w.latest id = some c ∧ w.convs[c.ref]? = some (c, .stored)
  kept : ∀ id c, w.latest id = some c →
    holds w.chats id = some (c, true) ∨ c ∈ w.dropped ∨ w.convs[c.ref]? = some (c, .removed)

variable {w w' : ChatStore} {c : ConvRef} {pc pc' : StorePc}

variable {id : String} {chats : Cache String ConvRef}

theorem id_of_latest (h : w.latest id = some c) : c.id = id := by
  simpa using List.find?_some h

theorem latest_add (c : ConvRef) (now : Int64) (id : String) :
    (w.addWithDefaultExpires c now).latest id = if c.id = id then some c else w.latest id := by
  unfold ChatStore.latest ChatStore.addWithDefaultExpires
  rw [List.find?_cons]
  by_cases h : c.id = id <;> simp [h]

theorem getElem?_goto (hpc : w.convs[c.ref]? = some (c, pc)) (i : Nat) :
    (w.goto c pc').convs[i]? = if i = c.ref then some (c, pc') else w.convs[i]? := by
  obtain ⟨hlt, -⟩ := List.getElem?_eq_some_iff.mp hpc
  unfold ChatStore.goto
  grind

theorem refs_goto (hw : StoreOk w) (hpc : w.convs[c.ref]? = some (c, pc)) (pc' : StorePc)
    (i : Nat) (p : ConvRef × StorePc) (h : (w.goto c pc').convs[i]? = some p) : p.1.ref = i := by
  rw [getElem?_goto hpc] at h
  have := hw.refs i p
  grind

theorem storeOk_loses (hw : StoreOk w) {dropped : List ConvRef} (hlinked : chats.Linked)
    (hheld : ∀ id c b, holds chats id = some (c, b) → ∃ b', holds w.chats id = some (c, b'))
    (hkept : ∀ id c, holds w.chats id = some (c, true) →
      holds chats id = some (c, true) ∨ c ∈ dropped) :
    StoreOk { w with chats, dropped := w.dropped ++ dropped } where
  linked := hlinked
  refs := hw.refs
  stored := hw.stored
  held id c b h := by
    obtain ⟨b', h'⟩ := hheld id c b h
    exact hw.held id c b' h'
  kept id c h := by
    have := hw.kept id c h
    have := hkept id c
    grind

theorem storeOk_get (hw : StoreOk w) (id : String) (now : Int64) : StoreOk (w.get id now) := by
  refine storeOk_loses hw (linked_get hw.linked now id) (fun id' c b h => ?_) fun id' c h => ?_
  · rw [holds_get hw.linked] at h
    exact ⟨b, (Option.ite_none_left_eq_some.mp h).2⟩
  · rw [holds_get hw.linked]
    by_cases hdrop : (droppedByGet w.chats now id).isSome ∧ id' = id
    · -- the element that is dropped is the one in the map
      right
      obtain ⟨n, hn⟩ := Option.isSome_iff_exists.mp hdrop.1
      have hl : w.chats.lookup id' = some n := hdrop.2 ▸ (Option.filter_eq_some_iff.mp hn).1
      rw [holds, hl, Option.map_some, Option.some.injEq, Prod.mk.injEq] at h
      simp [hn, h.1]
    · exact .inl ((if_neg hdrop).trans h)

theorem storeOk_purge (hw : StoreOk w) : StoreOk w.purge := by
  refine storeOk_loses hw hw.linked (fun id c b h => ?_) fun id c h => ?_
  · obtain ⟨n, hl, hv⟩ := Option.map_eq_some_iff.mp h
    have hl : w.chats.lookup id = some n := hl
    exact ⟨_, by rw [holds, hl, Option.map_some, (Prod.mk.inj hv).1]⟩
  · obtain ⟨n, hl, hv⟩ := Option.map_eq_some_iff.mp h
    grind [cases StoreOk, Cache.lookup_eq_some]

theorem storeOk_new (hw : StoreOk w) (id : String) :
    StoreOk { w with convs := w.convs ++ [(⟨w.convs.length, id⟩, .check)] } := by
  have hkeep {i : Nat} {p : ConvRef × StorePc} (h : w.convs[i]? = some p) :
      (w.convs ++ [(⟨w.convs.length, id⟩, .check)])[i]? = some p := by grind
  refine ⟨hw.linked, fun i p h => ?_, fun c hc => (hw.stored c hc).imp hkeep hkeep,
    fun id c b h => (hw.held id c b h).imp_right hkeep,
    fun id c h => (hw.kept id c h).imp_right (.imp_right hkeep)⟩
  have := hw.refs i p
  grind

theorem storeOk_goto (hw : StoreOk w) (hpc : w.convs[c.ref]? = some (c, pc))
    (hne : pc ≠ .stored ∧ pc ≠ .removed) (pc' : StorePc) : StoreOk (w.goto c pc') := by
  have hkeep {x : ConvRef} {q : StorePc} (hq : q = .stored ∨ q = .removed)
      (h : w.convs[x.ref]? = some (x, q)) : (w.goto c pc').convs[x.ref]? = some (x, q) := by
    rw [getElem?_goto hpc]
    grind
  exact ⟨hw.linked, refs_goto hw hpc pc',
    fun c hc => (hw.stored c hc).imp (hkeep (.inl rfl)) (hkeep (.inr rfl)),
    fun id c b h => (hw.held id c b h).imp_right (hkeep (.inl rfl)),
    fun id c h => (hw.kept id c h).imp_right (.imp_right (hkeep (.inr rfl)))⟩

theorem droppedByAdd_holds {κ υ : Type} [DecidableEq κ] {c : Cache κ υ} (h : c.Linked) {now : Int64}
    {k : κ} {v : υ} {x : Int64} {n : Node (Entry κ υ)} (hn : droppedByAdd c now k v x = some n) :
    ∃ b, (if n.val.key = k then some (v, true) else holds c n.val.key) = some (n.val.value, b) := by
  obtain ⟨hnone, hev⟩ := Option.ite_none_left_eq_some.mp hn
  have hnew := Cache.lookup_eq_none h (Option.not_isSome_iff_eq_none.mp hnone)
  have hlinked := h.pushNew hnew v (Cache.expiry now x)
  have hl := (Cache.lookup_eq_some hlinked).mpr ⟨Cache.evicted_mem hev, rfl⟩
  rw [← holds_pushNew h hnew v (Cache.expiry now x), holds, hl]
  exact ⟨_, rfl⟩

theorem storeOk_add (hw : StoreOk w) (hpc : w.convs[c.ref]? = some (c, .add)) (now : Int64) :
    StoreOk ((w.addWithDefaultExpires c now).goto c .stored) := by
  have hgoto (i : Nat) : ((w.addWithDefaultExpires c now).goto c .stored).convs[i]?
      = if i = c.ref then some (c, .stored) else w.convs[i]? :=
    getElem?_goto (w := w.addWithDefaultExpires c now) hpc i
  have hkeep {x : ConvRef} {q : StorePc} (hq : q = .stored ∨ q = .removed)
      (h : w.convs[x.ref]? = some (x, q)) :
      ((w.addWithDefaultExpires c now).goto c .stored).convs[x.ref]? = some (x, q) := by
    grind
  refine ⟨linked_add hw.linked now c.id c _, ?_, fun x hx => ?_, fun id x b h => ?_,
    fun id x h => ?_⟩
  · intro i p h
    rw [hgoto] at h
    have := hw.refs i p
    grind
  · rcases List.mem_cons.mp hx with rfl | hx
    all_goals grind [cases StoreOk]
  · have hlatest := latest_add (w := w) c now id
    have hheld := (holds_add hw.linked now c.id c w.chats.defaultExpiry id).symm.trans h
    obtain ⟨-, hheld⟩ := Option.ite_none_left_eq_some.mp hheld
    by_cases hid : id = c.id
    · rw [if_pos hid] at hheld
      rw [if_pos hid.symm] at hlatest
      obtain rfl : c = x := (Prod.mk.inj (Option.some.inj hheld)).1
      exact ⟨hlatest, (hgoto _).trans (if_pos rfl)⟩
    · rw [if_neg hid] at hheld
      rw [if_neg (Ne.symm hid)] at hlatest
      obtain ⟨hl, hs⟩ := hw.held id x b hheld
      exact ⟨hlatest.trans hl, hkeep (.inl rfl) hs⟩
  · have hlatest := (latest_add (w := w) c now id).symm.trans h
    have hadd := holds_add hw.linked now c.id c w.chats.defaultExpiry id
    -- before room is made, the map holds the conversation unless it went earlier
    have hbefore : (if id = c.id then some (c, true) else holds w.chats id) = some (x, true)
        ∨ x ∈ w.dropped ∨ w.convs[x.ref]? = some (x, .removed) := by
      have := hw.kept id x
      grind
    rcases hbefore with hbefore | hx | hx
    · cases hd : droppedByAdd w.chats now c.id c w.chats.defaultExpiry with
      | none =>
        rw [hd, Option.any_none, if_neg Bool.false_ne_true] at hadd
        exact .inl (hadd.trans hbefore)
      | some n =>
        rw [hd, Option.any_some] at hadd
        by_cases hn : id = n.val.key
        · obtain ⟨b, hb⟩ := droppedByAdd_holds hw.linked hd
          rw [← hn, hbefore, Option.some.injEq, Prod.mk.injEq] at hb
          right
          left
          show x ∈ w.dropped ++ ((droppedByAdd w.chats now c.id c w.chats.defaultExpiry).map
            fun n => n.val.value).toList
          simp [hd, hb.1]
        · rw [if_neg (by simpa using hn)] at hadd
          exact .inl (hadd.trans hbefore)
    · exact .inr (.inl (List.mem_append_left _ hx))
    · exact .inr (.inr (hkeep (.inr rfl) hx))

theorem storeOk_remove (hw : StoreOk w) (hpc : w.convs[c.ref]? = some (c, .stored)) :
    StoreOk ((w.removeConversation c).goto c .removed) := by
  have hgoto (i : Nat) : ((w.removeConversation c).goto c .removed).convs[i]?
      = if i = c.ref then some (c, .removed) else w.convs[i]? :=
    getElem?_goto (w := w.removeConversation c) hpc i
  have hholds (id : String) := holds_removeFunc hw.linked c.id (fun v => decide (v = c)) id
  refine ⟨linked_removeFunc hw.linked c.id _, ?_, fun x hx => ?_, fun id x b h => ?_,
    fun id x h => ?_⟩
  · intro i p h
    rw [hgoto] at h
    have := hw.refs i p
    grind
  · have := hw.stored x hx
    rw [hgoto]
    grind
  · obtain ⟨hsame, hheld⟩ := Option.ite_none_left_eq_some.mp ((hholds id).symm.trans h)
    obtain ⟨hlatest, hstored⟩ := hw.held id x b hheld
    refine ⟨hlatest, ?_⟩
    grind [id_of_latest]
  · have hlatest : w.latest id = some x := h
    rcases hw.kept id x hlatest with hheld | hx | hx
    · by_cases hxc : x = c
      · exact .inr (.inr (by rw [hxc]; exact (hgoto _).trans (if_pos rfl)))
      · refine .inl ((hholds id).trans ?_)
        grind
    · exact .inr (.inl hx)
    · rw [hgoto]
      grind

theorem storeOk_step {l : StoreLabel} (hw : StoreOk w) (h : w.step l = some w') : StoreOk w' := by
  cases store_cases h with
  | newConversation id => exact storeOk_new hw id
  | check ref now c hc =>
    obtain rfl := hw.refs ref _ hc
    exact storeOk_goto (storeOk_get hw c.id now) hc ⟨nofun, nofun⟩ .add
  | add ref now c hc =>
    obtain rfl := hw.refs ref _ hc
    exact storeOk_add hw hc now
  | removeConversation ref c hc =>
    obtain rfl := hw.refs ref _ hc
    exact storeOk_remove hw hc
  | getConversation id now =>
    unfold ChatStore.getConversation
    split
    · exact hw
    · exact storeOk_get hw id now
  | purge => exact storeOk_purge hw

theorem storeOk_run {size : Nat} {expiry : Int64} {labels : List StoreLabel}
    (hrun : run ChatStore.step (chatStore size expiry) labels = some w) : StoreOk w := by
  have hstart : StoreOk (chatStore size expiry) :=
    ⟨linked_newLru size expiry, nofun, nofun, nofun, nofun⟩
  exact run_invariant (fun _ _ _ hs _ h => storeOk_step hs h) labels hstart
    (along_of_forall (fun _ _ => trivial) labels _) hrun

/-! ## A conversation that ends spares its successor -/

theorem get_of_holds (hheld : holds chats id = some (c, true)) :
    ∃ n, chats.lookup id = some n ∧ n.val.value = c
      ∧ ∀ now, Cache.expired now n.val.expireAtSecs = false → (chats.get now id).2 = some c := by
  obtain ⟨n, hl, hv⟩ := Option.map_eq_some_iff.mp hheld
  grind [Cache.get]

theorem holds_of_get (h : chats.Linked) {now : Int64} (hget : (chats.get now id).2 = some c) :
    holds chats id = some (c, true) := by
  grind [holds, get_cases]

/-- **Removing a conversation never removes its successor.** In every state that can be reached,
when `RemoveConversation(old)` runs and another conversation was stored last under the id, the cache
stays as it is, and it holds that conversation unless the conversation has removed itself or the
cache has dropped it; what it holds `Get` returns until it expires. A conversation that has removed
itself is not returned any more. -/
theorem removeConversation_spares_successor {size : Nat} {expiry : Int64}
    {labels : List StoreLabel} {w : ChatStore}
    (hrun : run ChatStore.step (chatStore size expiry) labels = some w) :
    (∀ old w', w.convs[old.ref]? = some (old, .stored) →
      w.step (.removeConversation old.ref) = some w' →
      ∀ c, w.latest old.id = some c → c ≠ old →
        w'.chats = w.chats ∧ w'.latest old.id = some c
        ∧ (c ∉ w'.dropped → w'.convs[c.ref]? ≠ some (c, .removed) →
          ∃ n, w'.chats.lookup old.id = some n ∧ n.val.value = c
            ∧ ∀ now, Cache.expired now n.val.expireAtSecs = false →
              (w'.chats.get now old.id).2 = some c))
    ∧ ∀ c, w.convs[c.ref]? = some (c, .removed) →
      ∀ id now, (w.getConversation id now).2 ≠ some c := by
  have hw := storeOk_run hrun
  refine ⟨fun old w' hold hstep c hc hne => ?_, fun c hc id now hget => ?_⟩
  · have hw' := storeOk_step hw hstep
    have hsame : w'.chats = w.chats ∧ w'.stored = w.stored := by
      cases store_cases hstep with
      | removeConversation ref c' hc' =>
        obtain rfl : old = c' := (Prod.mk.inj (Option.some.inj (hold.symm.trans hc'))).1
        refine ⟨removeFunc_eq_false (Bool.eq_false_iff.mpr fun htrue => ?_), rfl⟩
        obtain ⟨n, hl, hp, -⟩ := removeFunc_eq_true htrue
        have hheld : holds w.chats old.id = some (old, w.chats.current n.val) := by
          rw [holds, hl, Option.map_some, of_decide_eq_true hp]
        exact hne (Option.some.inj (hc.symm.trans (hw.held _ _ _ hheld).1))
    have hlatest : w'.latest old.id = some c := by
      unfold ChatStore.latest
      rw [hsame.2]
      exact hc
    refine ⟨hsame.1, hlatest, fun hdropped hremoved => ?_⟩
    rcases hw'.kept _ _ hlatest with hheld | h | h
    · exact get_of_holds hheld
    · exact absurd h hdropped
    · exact absurd h hremoved
  · unfold ChatStore.getConversation at hget
    split at hget
    · cases hget
    · obtain ⟨-, hstored⟩ := hw.held _ _ _ (holds_of_get hw.linked hget)
      rw [hc] at hstored
      cases hstored

/-- Two conversations under one id: the first ends after the second was stored. -/
def successorStored : List StoreLabel :=
  [.newConversation "a", .check 0 0, .add 0 0, .newConversation "a", .check 1 0, .add 1 0]

theorem successor_spared :
    ∃ w w', run ChatStore.step (chatStore 10 0) successorStored = some w
      ∧ w.step (.removeConversation 0) = some w'
      ∧ ∃ n, w'.chats.lookup "a" = some n ∧ n.val.value = ⟨1, "a"⟩ := by
  have hrun : (run ChatStore.step (chatStore 10 0) successorStored).map (fun w =>
      (w.convs[0]?, w.latest "a", (w.step (.removeConversation 0)).map fun w' =>
        (w'.dropped, w'.convs[1]?)))
      = some (some (⟨0, "a"⟩, .stored), some ⟨1, "a"⟩, some ([], some (⟨1, "a"⟩, .stored))) := rfl
  obtain ⟨w, hw, hend⟩ := Option.map_eq_some_iff.mp hrun
  simp only [Prod.mk.injEq] at hend
  obtain ⟨hold, hlatest, hend⟩ := hend
  obtain ⟨w', hw', hend⟩ := Option.map_eq_some_iff.mp hend
  simp only [Prod.mk.injEq] at hend
  obtain ⟨n, hl, hn, -⟩ := ((removeConversation_spares_successor hw).1 ⟨0, "a"⟩ w' hold hw' ⟨1, "a"⟩
    hlatest (by decide)).2.2 (by simp [hend.1]) (by simp [hend.2])
  exact ⟨w, w', hw, hw', n, hl, hn⟩

end CallCenter.Chat
