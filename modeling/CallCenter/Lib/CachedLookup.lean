import CallCenter.Lib.Run
import Mathlib.Logic.Function.Basic
import Mathlib.Data.List.Nodup

/-!
# Lookups through a cache and coalesced loads

A lookup asks a cache, and if it misses goes through a group of coalesced calls: the first call of a
key begins a flight, which loads the row, and the calls of that key that come before the flight is
over take its result. What is loaded is put into the cache by the flight, by each of its callers, by
the caller of a flight that nobody joined, or by nobody.

Reads and writes of the cache, entering the group, the load and the end of a flight are steps of
their own, and calls, changes of the row, evictions and invalidations come in between.
-/

namespace CallCenter.Lib.Lookup

variable {ν ρ κ : Type}

inductive Writer where
  | flight | callers | unshared | nobody
  deriving DecidableEq

/-- What lookups of this shape differ in: what is asked for (`ν`), the row (`ρ`) and the key of a
flight (`κ`). -/
structure Policy (ν ρ κ : Type) where
  key : ν → κ
  fresh : ν → ρ → Bool
  rechecks : Bool
  writer : Writer
  /-- Each caller builds its object from the row, and may fail. -/
  builds : Bool
  locked : Bool

/-- An object, with the revision of the row that it was read from and the flight that read it. -/
structure Object (ρ : Type) where
  rev : Nat
  row : ρ
  flight : Nat
  deriving DecidableEq

inductive Stage (ρ : Type) where
  | checking
  | loading
  | writing (o : Object ρ)
  | ready (r : Option (Object ρ))
  | done (r : Option (Object ρ))

def Stage.object : Stage ρ → Option (Object ρ)
  | writing o => some o
  | ready r | done r => r
  | _ => none

def Stage.checks : Stage ρ → Bool
  | checking => true
  | _ => false

/-- What a flight was begun with, and by which call. -/
structure Ticket (ν κ : Type) where
  leader : Nat
  ask : ν
  key : κ

inductive Phase (ρ : Type) where
  | missed
  | waiting (f : Nat)
  | holding (o : Object ρ)
  | returned (r : Option (Object ρ))
  deriving DecidableEq

def Phase.underWay : Phase ρ → Bool
  | returned _ => false
  | _ => true

/-- A lookup, with the revisions of the row and the invalidations that there were when it began. -/
structure Request (ν ρ : Type) where
  id : Nat
  ask : ν
  rows : List ρ
  handled : Nat

structure Call (ν ρ : Type) extends Request ν ρ where
  phase : Phase ρ

structure World (ν ρ κ : Type) where
  rows : List ρ
  cache : Option (Object ρ)
  tickets : List (Ticket ν κ)
  stage : Nat → Stage ρ
  /-- Those that can be joined, those that were, and those that have asked for the row. -/
  current : κ → Option Nat
  joined : List Nat
  loads : List Nat
  calls : List (Call ν ρ)
  /-- The invalidations that have reached the cache, and those that are over. -/
  removed : Nat
  handled : Nat

def World.start (row : ρ) : World ν ρ κ :=
  ⟨[row], none, [], fun _ => .loading, fun _ => none, [], [], [], 0, 0⟩

inductive Label (ν ρ κ : Type) where
  | update (row : ρ)
  | start (v : ν)
  | enter (c : Nat)
  | check (f : Nat)
  | load (f : Nat) (ok : Bool)
  | write (f : Nat)
  | finish (f : Nat)
  | take (c : Nat) (built : Bool)
  | put (c : Nat)
  | drop
  /-- The first and the second half of the invalidation for the next revision. -/
  | remove
  | forget (k : κ)

namespace World

variable (w : World ν ρ κ)

def rev : Nat := w.rows.length - 1

def underWay : Nat := w.calls.countP (·.phase.underWay)

def setPhase (c : Nat) (call : Call ν ρ) (p : Phase ρ) : World ν ρ κ :=
  { w with calls := w.calls.set c { call with phase := p } }

def setStage (f : Nat) (s : Stage ρ) : World ν ρ κ :=
  { w with stage := Function.update w.stage f s }

def arrive (v : ν) (p : Phase ρ) : World ν ρ κ :=
  { w with calls := w.calls ++ [⟨⟨w.calls.length, v, w.rows, w.handled⟩, p⟩] }

end World

section Steps

variable [DecidableEq κ] (P : Policy ν ρ κ) (w : World ν ρ κ)

def cached (v : ν) : Option (Object ρ) := w.cache.filter fun o => P.fresh v o.row

def lead (c : Nat) (call : Call ν ρ) : World ν ρ κ :=
  { w.setPhase c call (.waiting w.tickets.length) with
    tickets := w.tickets ++ [⟨call.id, call.ask, P.key call.ask⟩]
    stage := Function.update w.stage w.tickets.length (if P.rechecks then .checking else .loading)
    current := Function.update w.current (P.key call.ask) (some w.tickets.length) }

/-- A call that missed joins the flight of its key, or begins one. -/
def enter (c : Nat) (call : Call ν ρ) : World ν ρ κ :=
  match w.current (P.key call.ask) with
  | some f => { w.setPhase c call (.waiting f) with joined := f :: w.joined }
  | none => lead P w c call

def loaded (f : Nat) (ok : Bool) : Stage ρ :=
  match if ok then w.rows.getLast? else none with
  | none => .ready none
  | some row =>
    if P.writer = .flight then .writing ⟨w.rev, row, f⟩ else .ready (some ⟨w.rev, row, f⟩)

def finish (f : Nat) (t : Ticket ν κ) (r : Option (Object ρ)) : World ν ρ κ :=
  { w.setStage f (.done r) with
    current := if w.current t.key = some f then Function.update w.current t.key none
      else w.current }

def taken (shared built : Bool) : Option (Object ρ) → Phase ρ
  | none => .returned none
  | some o =>
    if P.builds && !built then .returned none
    else if P.writer = .callers || (P.writer = .unshared && !shared) then .holding o
    else .returned (some o)

def step : Label ν ρ κ → Option (World ν ρ κ)
  | .update row => some { w with rows := w.rows ++ [row] }
  | .start v =>
    if P.locked = true ∧ w.underWay ≠ 0 then none
    else
      match cached P w v with
      | some o => some (w.arrive v (.returned (some o)))
      | none => some (w.arrive v .missed)
  | .enter c =>
    w.calls[c]?.bind fun call =>
      match call.phase with
      | .missed => some (enter P w c call)
      | _ => none
  | .check f =>
    w.tickets[f]?.bind fun t =>
      match w.stage f, cached P w t.ask with
      | .checking, some o => some (w.setStage f (.ready (some o)))
      | .checking, none => some (w.setStage f .loading)
      | _, _ => none
  | .load f ok =>
    w.tickets[f]?.bind fun _ =>
      match w.stage f with
      | .loading => some { w.setStage f (loaded P w f ok) with loads := f :: w.loads }
      | _ => none
  | .write f =>
    w.tickets[f]?.bind fun _ =>
      match w.stage f with
      | .writing o => some { w.setStage f (.ready (some o)) with cache := some o }
      | _ => none
  | .finish f =>
    w.tickets[f]?.bind fun t =>
      match w.stage f with
      | .ready r => some (finish w f t r)
      | _ => none
  | .take c built =>
    w.calls[c]?.bind fun call =>
      match call.phase with
      | .waiting f =>
        match w.stage f with
        | .done r => some (w.setPhase c call (taken P (w.joined.contains f) built r))
        | _ => none
      | _ => none
  | .put c =>
    w.calls[c]?.bind fun call =>
      match call.phase with
      | .holding o => some { w.setPhase c call (.returned (some o)) with cache := some o }
      | _ => none
  | .drop => some { w with cache := none }
  | .remove =>
    if w.removed = w.handled ∧ w.handled < w.rev then
      some { w with cache := none, removed := w.handled + 1 }
    else none
  | .forget k =>
    if w.removed = w.handled + 1 then
      some { w with current := Function.update w.current k none, handled := w.removed }
    else none

inductive Move : Label ν ρ κ → World ν ρ κ → Prop where
  | update (row : ρ) : Move (.update row) { w with rows := w.rows ++ [row] }
  | hit {v o} (h : cached P w v = some o) : Move (.start v) (w.arrive v (.returned (some o)))
  | miss {v} (h : cached P w v = none) : Move (.start v) (w.arrive v .missed)
  | enter {c call} (hc : w.calls[c]? = some call) (hphase : call.phase = .missed) :
    Move (.enter c) (enter P w c call)
  | found {f t o} (ht : w.tickets[f]? = some t) (hstage : w.stage f = .checking)
    (h : cached P w t.ask = some o) : Move (.check f) (w.setStage f (.ready (some o)))
  | absent {f} (hstage : w.stage f = .checking) : Move (.check f) (w.setStage f .loading)
  | load {f t ok} (ht : w.tickets[f]? = some t) (hstage : w.stage f = .loading) :
    Move (.load f ok) { w.setStage f (loaded P w f ok) with loads := f :: w.loads }
  | write {f t o} (ht : w.tickets[f]? = some t) (hstage : w.stage f = .writing o) :
    Move (.write f) { w.setStage f (.ready (some o)) with cache := some o }
  | finish {f t r} (ht : w.tickets[f]? = some t) (hstage : w.stage f = .ready r) :
    Move (.finish f) (finish w f t r)
  | take {c call f r built} (hc : w.calls[c]? = some call) (hphase : call.phase = .waiting f)
    (hstage : w.stage f = .done r) :
    Move (.take c built) (w.setPhase c call (taken P (w.joined.contains f) built r))
  | put {c call o} (hc : w.calls[c]? = some call) (hphase : call.phase = .holding o) :
    Move (.put c) { w.setPhase c call (.returned (some o)) with cache := some o }
  | drop : Move .drop { w with cache := none }
  | remove (hrev : w.handled < w.rev) :
    Move .remove { w with cache := none, removed := w.handled + 1 }
  | forget (k : κ) (h : w.removed = w.handled + 1) :
    Move (.forget k) { w with current := Function.update w.current k none, handled := w.removed }

end Steps

variable {P : Policy ν ρ κ} {w w' : World ν ρ κ}

/-! ## Where answers come from -/

section Served

variable (P) (w) (R : Request ν ρ → Ticket ν κ → Stage ρ → Prop)

/-- The object was read by a flight that asked for the row. -/
def Honest (o : Object ρ) : Prop := w.rows[o.rev]? = some o.row ∧ o.flight ∈ w.loads

/-- The flight read the object, or found that it answers. -/
def Made (f : Nat) (t : Ticket ν κ) (o : Object ρ) : Prop :=
  Honest w o ∧ (o.flight = f ∨ P.fresh t.ask o.row = true)

/-- The object answers the call, or is that of a flight that serves it. -/
def Got (q : Request ν ρ) (o : Object ρ) : Prop :=
  Honest w o ∧ (P.fresh q.ask o.row = true ∨
    ∃ f t, w.tickets[f]? = some t ∧ R q t (.done (some o)) ∧ Made P w f t o)

def CallOk (call : Call ν ρ) : Prop :=
  match call.phase with
  | .missed | .returned none => True
  | .waiting f => ∃ t, w.tickets[f]? = some t ∧ R call.toRequest t (w.stage f)
  | .holding o | .returned (some o) => Got P w R call.toRequest o

/-- A call gets a row that was loaded, fresh for it or by a flight that serves it. -/
structure Served : Prop where
  cache : ∀ o, w.cache = some o → Honest w o
  stage : ∀ f t, w.tickets[f]? = some t → ∀ o, (w.stage f).object = some o → Made P w f t o
  call : ∀ call ∈ w.calls, call.rows <+: w.rows ∧ CallOk P w R call
  current : ∀ k f, w.current k = some f → f < w.tickets.length

/-- What never goes away. -/
structure Grew (w w' : World ν ρ κ) : Prop where
  rows : w.rows <+: w'.rows
  loads : w.loads ⊆ w'.loads
  tickets : w.tickets <+: w'.tickets

/-- A call that enters the group joins or begins a flight that serves it. -/
def Serves : Label ν ρ κ → Prop
  | .enter c => ∀ call ∈ w.calls[c]?,
      match w.current (P.key call.ask) with
      | some f => ∀ t ∈ w.tickets[f]?, R call.toRequest t (w.stage f)
      | none => R call.toRequest ⟨call.id, call.ask, P.key call.ask⟩
          (if P.rechecks then .checking else .loading)
  | _ => True

/-- A flight that serves a call goes on to do so. -/
structure Stable : Prop where
  found : ∀ {w : World ν ρ κ} {q t o}, q.rows <+: w.rows → Honest w o →
    P.fresh t.ask o.row = true → R q t .checking → R q t (.ready (some o))
  absent : ∀ {q t}, R q t .checking → R q t .loading
  load : ∀ {w : World ν ρ κ} {q t f ok}, q.rows <+: w.rows → R q t .loading →
    R q t (loaded P w f ok)
  write : ∀ {q t o}, R q t (.writing o) → R q t (.ready (some o))
  finish : ∀ {q t r}, R q t (.ready r) → R q t (.done r)

end Served

variable {R : Request ν ρ → Ticket ν κ → Stage ρ → Prop} {call : Call ν ρ} {o : Object ρ}
  {c f : Nat} {t : Ticket ν κ}

theorem getElem?_grown {α : Type} {l l' : List α} (h : l <+: l') {i : Nat} {x : α}
    (hx : l[i]? = some x) : l'[i]? = some x := by
  obtain ⟨more, rfl⟩ := h
  rw [List.getElem?_append_left (List.getElem?_eq_some_iff.mp hx).1]
  exact hx

theorem Honest.grow (h : Honest w o) (hg : Grew w w') : Honest w' o :=
  ⟨getElem?_grown hg.rows h.1, hg.loads h.2⟩

theorem Got.grow {q : Request ν ρ} (h : Got P w R q o) (hg : Grew w w') : Got P w' R q o := by
  refine ⟨h.1.grow hg, h.2.imp_right ?_⟩
  rintro ⟨f, t, ht, hR, hmade⟩
  exact ⟨f, t, getElem?_grown hg.tickets ht, hR, hmade.1.grow hg, hmade.2⟩

theorem CallOk.grow (h : CallOk P w R call) (hg : Grew w w')
    (hstage : ∀ f < w.tickets.length, w'.stage f = w.stage f) : CallOk P w' R call := by
  unfold CallOk at h ⊢
  split at h
  · trivial
  · trivial
  · obtain ⟨t, ht, hR⟩ := h
    refine ⟨t, getElem?_grown hg.tickets ht, ?_⟩
    rwa [hstage _ (List.getElem?_eq_some_iff.mp ht).1]
  · exact h.grow hg
  · exact h.grow hg

theorem Served.grow (h : Served P w R) (hg : Grew w w') (htickets : w'.tickets = w.tickets)
    (hstage : w'.stage = w.stage) (hcalls : w'.calls = w.calls) (hcurrent : w'.current = w.current)
    (hcache : w'.cache = w.cache) : Served P w' R := by
  refine ⟨fun o ho => (h.cache o (hcache ▸ ho)).grow hg, ?_, ?_, ?_⟩
  · intro f t ht o ho
    rw [htickets] at ht
    rw [hstage] at ho
    exact ⟨(h.stage f t ht o ho).1.grow hg, (h.stage f t ht o ho).2⟩
  · intro call hcall
    rw [hcalls] at hcall
    exact ⟨(h.call call hcall).1.trans hg.rows,
      (h.call call hcall).2.grow hg fun f _ => congrFun hstage f⟩
  · rw [hcurrent, htickets]
    exact h.current

theorem setStage_stage (w : World ν ρ κ) (f : Nat) (s : Stage ρ) (g : Nat) :
    (w.setStage f s).stage g = if g = f then s else w.stage g :=
  Function.update_apply w.stage f s g

theorem Served.setStage (h : Served P w R) {s : Stage ρ}
    (hs : ∀ t, w.tickets[f]? = some t → ∀ o, s.object = some o → Made P w f t o)
    (hR : ∀ q t, q.rows <+: w.rows → w.tickets[f]? = some t → R q t (w.stage f) → R q t s) :
    Served P (w.setStage f s) R := by
  refine { h with stage := fun g t ht o ho => ?_, call := fun x hx => ⟨(h.call x hx).1, ?_⟩ }
  · rw [setStage_stage] at ho
    split at ho
    · rename_i hg
      exact hg ▸ hs t (hg ▸ ht) o ho
    · exact h.stage g t ht o ho
  · obtain ⟨hrows, hok⟩ := h.call x hx
    unfold CallOk at hok ⊢
    split at hok
    · trivial
    · trivial
    · obtain ⟨t, ht, hok⟩ := hok
      refine ⟨t, ht, ?_⟩
      rw [setStage_stage]
      split
      · rename_i hg
        exact hR _ t hrows (hg ▸ ht) (hg ▸ hok)
      · exact hok
    · exact hok
    · exact hok

variable {p : Phase ρ} {l : Label ν ρ κ}

theorem mem_setPhase {x : Call ν ρ} (hx : x ∈ (w.setPhase c call p).calls) :
    x ∈ w.calls ∨ x = { call with phase := p } :=
  List.mem_or_eq_of_mem_set hx

theorem Served.setPhase (h : Served P w R) (hcall : call ∈ w.calls)
    (hp : CallOk P w R { call with phase := p }) : Served P (w.setPhase c call p) R := by
  refine { h with call := fun x hx => ?_ }
  rcases mem_setPhase hx with hx | rfl
  · exact h.call x hx
  · exact ⟨(h.call call hcall).1, hp⟩

theorem Served.arrive (h : Served P w R) {v : ν}
    (hp : CallOk P w R ⟨⟨w.calls.length, v, w.rows, w.handled⟩, p⟩) :
    Served P (w.arrive v p) R := by
  refine { h with call := fun x hx => ?_ }
  rcases List.mem_append.mp hx with hx | hx
  · exact h.call x hx
  · rw [List.mem_singleton.mp hx]
    exact ⟨List.prefix_refl _, hp⟩

theorem Served.taken (h : Served P w R) {r : Option (Object ρ)} (hcall : call ∈ w.calls)
    (hphase : call.phase = .waiting f) (hstage : w.stage f = .done r) (shared built : Bool) :
    CallOk P w R { call with phase := taken P shared built r } := by
  cases r with
  | none => trivial
  | some o =>
    have hwaits := (h.call call hcall).2
    rw [CallOk, hphase] at hwaits
    obtain ⟨t, ht, hR⟩ := hwaits
    have hmade := h.stage f t ht o (by rw [hstage]; rfl)
    rw [hstage] at hR
    have hgot : Got P w R call.toRequest o := ⟨hmade.1, .inr ⟨f, t, ht, hR, hmade⟩⟩
    simp only [Lookup.taken]
    split
    · trivial
    · split
      · exact hgot
      · exact hgot

theorem of_loaded {ok : Bool} (h : (loaded P w f ok).object = some o) :
    w.rows[o.rev]? = some o.row ∧ o.rev = w.rev ∧ o.flight = f := by
  have hlast : ∀ row, w.rows.getLast? = some row → w.rows[w.rev]? = some row :=
    fun row hrow => List.getLast?_eq_getElem?.symm.trans hrow
  unfold loaded at h
  split at h
  · cases h
  · rename_i row hrow
    have ho : o = ⟨w.rev, row, f⟩ := by
      split at h
      · exact (Option.some.inj h).symm
      · exact (Option.some.inj h).symm
    rw [ho]
    exact ⟨hlast row (Option.ite_none_right_eq_some.mp hrow).2, rfl, rfl⟩

theorem served_start (row : ρ) : Served P (World.start row) R :=
  ⟨nofun, nofun, nofun, nofun⟩

theorem Served.returned (h : Served P w R) (hcall : call ∈ w.calls)
    (hphase : call.phase = .returned (some o)) :
    call.rows <+: w.rows ∧ Got P w R call.toRequest o := by
  have hok := h.call call hcall
  rw [CallOk, hphase] at hok
  exact hok

def Stage.asked : Stage ρ → Bool
  | checking | loading => false
  | _ => true

/-- A call begins at most one flight, and a flight asks for the row at most once. -/
structure LeadsOnce (w : World ν ρ κ) : Prop where
  call : ∀ i (call : Call ν ρ), w.calls[i]? = some call →
    call.id = i ∧ (call.phase = .missed → ∀ t ∈ w.tickets, t.leader ≠ i)
  known : ∀ t ∈ w.tickets, t.leader < w.calls.length
  leaders : (w.tickets.map (·.leader)).Nodup
  loaded : ∀ f ∈ w.loads, f < w.tickets.length ∧ (w.stage f).asked = true
  loads : w.loads.Nodup

theorem LeadsOnce.setStage (h : LeadsOnce w) {s : Stage ρ} (hs : f ∈ w.loads → s.asked = true) :
    LeadsOnce (w.setStage f s) := by
  refine { h with loaded := fun g hg => ⟨(h.loaded g hg).1, ?_⟩ }
  rw [setStage_stage]
  split
  · rename_i hgf
    exact hs (hgf ▸ hg)
  · exact (h.loaded g hg).2

theorem getElem?_setPhase {i : Nat} {x : Call ν ρ} (hx : (w.setPhase c call p).calls[i]? = some x) :
    i = c ∧ x = { call with phase := p } ∨ i ≠ c ∧ w.calls[i]? = some x := by
  simp only [World.setPhase, List.getElem?_set] at hx
  grind

theorem LeadsOnce.setPhase (h : LeadsOnce w) (hc : w.calls[c]? = some call) (hp : p ≠ .missed) :
    LeadsOnce (w.setPhase c call p) := by
  refine { h with call := fun i x hx => ?_, known := fun t ht => ?_ }
  · rcases getElem?_setPhase hx with ⟨rfl, rfl⟩ | ⟨-, hx⟩
    · exact ⟨(h.call i call hc).1, fun hmissed => absurd hmissed hp⟩
    · exact h.call i x hx
  · rw [World.setPhase, List.length_set]
    exact h.known t ht

theorem LeadsOnce.arrive (h : LeadsOnce w) {v : ν} : LeadsOnce (w.arrive v p) := by
  refine { h with call := fun i x hx => ?_, known := fun t ht => ?_ }
  · simp only [World.arrive, List.getElem?_append] at hx
    split at hx
    · exact h.call i x hx
    · obtain ⟨hi, rfl⟩ : i = w.calls.length ∧ ⟨⟨w.calls.length, v, w.rows, w.handled⟩, p⟩ = x := by
        grind
      exact ⟨hi.symm, fun _ t ht => hi ▸ Nat.ne_of_lt (h.known t ht)⟩
  · rw [World.arrive, List.length_append]
    exact Nat.lt_add_right _ (h.known t ht)

theorem leadsOnce_start (row : ρ) : LeadsOnce (World.start row : World ν ρ κ) :=
  ⟨nofun, nofun, .nil, nofun, .nil⟩

/-- The flight of a call is the only one that has asked for the row on its behalf. -/
theorem LeadsOnce.countP_loads (h : LeadsOnce w) (hf : f ∈ w.loads) (ht : w.tickets[f]? = some t)
    {p : Ticket ν κ → Bool} (hp : p t = true) (hleader : ∀ t', p t' = true → t'.leader = t.leader) :
    w.loads.countP (fun g => w.tickets[g]?.any p) = 1 := by
  rw [← List.count_eq_one_of_mem h.loads hf]
  refine List.countP_congr fun g _ => ?_
  rw [Option.any_eq_true, beq_iff_eq]
  constructor
  · rintro ⟨t', ht', hp'⟩
    have hsame := hleader t' hp'
    obtain ⟨hg, rfl⟩ := List.getElem?_eq_some_iff.mp ht'
    obtain ⟨hf, rfl⟩ := List.getElem?_eq_some_iff.mp ht
    have hinj := @List.Nodup.getElem_inj_iff _ _ h.leaders g (by simpa) f (by simpa)
    exact hinj.mp (by simpa using hsame)
  · rintro rfl
    exact ⟨t, ht, hp⟩

variable [DecidableEq κ]

theorem move_of_step (h : step P w l = some w') : Move P w l w' := by
  cases l with
  | take c built =>
    obtain ⟨call, hc, h⟩ := Option.bind_eq_some_iff.mp h
    split at h
    · rename_i f hphase
      split at h
      · rename_i r hstage
        rw [← Option.some.inj h]
        exact .take hc hphase hstage
      · cases h
    · cases h
  | _ => grind [step, Move]

theorem lead_stage (c : Nat) (call : Call ν ρ) (g : Nat) : (lead P w c call).stage g =
    if g = w.tickets.length then (if P.rechecks then .checking else .loading) else w.stage g :=
  Function.update_apply _ _ _ _

theorem Served.lead (h : Served P w R) (hcall : call ∈ w.calls)
    (hR : R call.toRequest ⟨call.id, call.ask, P.key call.ask⟩
      (if P.rechecks then .checking else .loading)) :
    Served P (lead P w c call) R := by
  have hg : Grew w (Lookup.lead P w c call) :=
    ⟨List.prefix_refl _, fun _ => id, List.prefix_append _ _⟩
  have hlength : (Lookup.lead P w c call).tickets.length = w.tickets.length + 1 :=
    List.length_append
  refine ⟨fun o ho => (h.cache o ho).grow hg, ?_, ?_, ?_⟩
  · intro f t ht o ho
    rw [lead_stage] at ho
    split at ho
    · split at ho <;> cases ho
    · rename_i hne
      have hlt := (List.getElem?_eq_some_iff.mp ht).1
      have ht : w.tickets[f]? = some t := by
        rw [← List.getElem?_append_left (by omega)]
        exact ht
      exact ⟨(h.stage f t ht o ho).1.grow hg, (h.stage f t ht o ho).2⟩
  · intro x hx
    rcases mem_setPhase hx with hx | rfl
    · refine ⟨(h.call x hx).1, (h.call x hx).2.grow hg fun f hf => ?_⟩
      rw [lead_stage, if_neg (Nat.ne_of_lt hf)]
    · refine ⟨(h.call call hcall).1, _, List.getElem?_concat_length, ?_⟩
      rwa [lead_stage, if_pos rfl]
  · intro k f hk
    rw [hlength]
    simp only [Lookup.lead, Function.update_apply] at hk
    split at hk
    · rw [← Option.some.inj hk]
      exact Nat.lt_succ_self _
    · exact Nat.lt_succ_of_lt (h.current k f hk)

theorem Served.enter (h : Served P w R) (hserves : Serves P w R (.enter c))
    (hc : w.calls[c]? = some call) : Served P (enter P w c call) R := by
  have hcall : call ∈ w.calls := List.mem_of_getElem? hc
  have hserves := hserves call hc
  unfold Lookup.enter
  split
  · rename_i f hf
    have ht := List.getElem?_eq_getElem (h.current _ f hf)
    rw [hf] at hserves
    exact { h.setPhase hcall (p := .waiting f) ⟨_, ht, hserves _ ht⟩ with }
  · rename_i hnone
    rw [hnone] at hserves
    exact h.lead hcall hserves

theorem of_update_none {current : κ → Option Nat} {k k' : κ}
    (h : Function.update current k none k' = some f) : current k' = some f := by
  rw [Function.update_apply] at h
  split at h
  · cases h
  · exact h

theorem served_step (hR : Stable P R) (h : Served P w R) (hserves : Serves P w R l)
    (hstep : step P w l = some w') : Served P w' R := by
  cases move_of_step hstep with
  | update row =>
    exact h.grow ⟨List.prefix_append _ _, fun _ => id, List.prefix_refl _⟩ rfl rfl rfl rfl rfl
  | hit hcached =>
    obtain ⟨hcache, hfresh⟩ := Option.filter_eq_some_iff.mp hcached
    exact h.arrive ⟨h.cache _ hcache, .inl hfresh⟩
  | miss => exact h.arrive trivial
  | enter hc _ => exact h.enter hserves hc
  | @found f t o ht hstage hcached =>
    obtain ⟨hcache, hfresh⟩ := Option.filter_eq_some_iff.mp hcached
    refine h.setStage (fun t' ht' o' ho => ?_) fun q t' hrows ht' hserve => ?_
    · obtain rfl := Option.some.inj (ht.symm.trans ht')
      obtain rfl := Option.some.inj ho
      exact ⟨h.cache o hcache, .inr hfresh⟩
    · obtain rfl := Option.some.inj (ht.symm.trans ht')
      exact hR.found hrows (h.cache o hcache) hfresh (hstage ▸ hserve)
  | absent hstage =>
    exact h.setStage (fun _ _ => nofun) fun _ _ _ _ hserve => hR.absent (hstage ▸ hserve)
  | @load f t ok ht hstage =>
    have hg : Grew w { w with loads := f :: w.loads } :=
      ⟨List.prefix_refl _, List.subset_cons_self _ _, List.prefix_refl _⟩
    refine (h.grow hg rfl rfl rfl rfl rfl).setStage (fun t' ht' o ho => ?_)
      fun _ _ hrows _ hserve => hR.load hrows (hstage ▸ hserve)
    obtain ⟨hrow, -, hflight⟩ := of_loaded ho
    exact ⟨⟨hrow, hflight ▸ List.mem_cons_self⟩, .inl hflight⟩
  | @write f t o ht hstage =>
    have hmade := h.stage f t ht o (by rw [hstage]; rfl)
    have hready : Served P (w.setStage f (.ready (some o))) R :=
      h.setStage (fun t' ht' o' ho => h.stage f t' ht' o' (by rw [hstage]; exact ho))
        fun _ _ _ _ hserve => hR.write (hstage ▸ hserve)
    exact { hready with cache := fun o' ho => Option.some.inj ho ▸ hmade.1 }
  | @finish f t r ht hstage =>
    have hdone : Served P (w.setStage f (.done r)) R :=
      h.setStage (fun t' ht' o ho => h.stage f t' ht' o (by rw [hstage]; exact ho))
        fun _ _ _ _ hserve => hR.finish (hstage ▸ hserve)
    refine { hdone with current := fun k g hk => h.current k g ?_ }
    simp only [finish] at hk
    split at hk
    · exact of_update_none hk
    · exact hk
  | take hc hphase hstage =>
    have hcall := List.mem_of_getElem? hc
    exact h.setPhase hcall (h.taken hcall hphase hstage _ _)
  | @put c call o hc hphase =>
    have hcall := List.mem_of_getElem? hc
    have hgot := (h.call call hcall).2
    rw [CallOk, hphase] at hgot
    have hreturned : Served P (w.setPhase c call (.returned (some o))) R := h.setPhase hcall hgot
    exact { hreturned with cache := fun o' ho => Option.some.inj ho ▸ hgot.1 }
  | drop | remove => exact { h with cache := nofun }
  | forget k _ => exact { h with current := fun k' f hk => h.current k' f (of_update_none hk) }

omit [DecidableEq κ] in
theorem stable_of_ticket (R : Request ν ρ → Ticket ν κ → Prop) : Stable P fun q t _ => R q t :=
  ⟨fun _ _ _ h => h, id, fun _ h => h, id, id⟩

omit [DecidableEq κ] in
theorem serves_true (w : World ν ρ κ) (l : Label ν ρ κ) : Serves P w (fun _ _ _ => True) l := by
  cases l with
  | enter c =>
    intro call _
    split
    · exact fun _ _ => trivial
    · trivial
  | _ => trivial

/-- In a run whose calls all enter flights that serve them, what a call returns answers it or is
that of such a flight. -/
theorem served_run {ok : World ν ρ κ → Label ν ρ κ → Prop} (hR : Stable P R)
    (hok : ∀ w l, ok w l → Serves P w R l)
    {row : ρ} {labels : List (Label ν ρ κ)} (halong : Along (step P) ok (.start row) labels)
    (hrun : run (step P) (.start row) labels = some w) : Served P w R :=
  run_invariant (fun _ _ _ h hl => served_step hR h (hok _ _ hl)) labels (served_start row) halong
    hrun

/-! ## Who begins flights -/

theorem LeadsOnce.lead (h : LeadsOnce w) (hc : w.calls[c]? = some call)
    (hphase : call.phase = .missed) : LeadsOnce (lead P w c call) := by
  obtain ⟨hid, hmissed⟩ := h.call c call hc
  have hset := h.setPhase hc (p := .waiting w.tickets.length) nofun
  refine ⟨fun i x hx => ⟨(hset.call i x hx).1, fun hx' t ht => ?_⟩, fun t ht => ?_, ?_, ?_, h.loads⟩
  · rcases List.mem_append.mp ht with ht | ht
    · exact (hset.call i x hx).2 hx' t ht
    · rw [List.mem_singleton.mp ht]
      rcases getElem?_setPhase hx with ⟨-, rfl⟩ | ⟨hne, -⟩
      · cases hx'
      · exact hid ▸ hne.symm
  · rcases List.mem_append.mp ht with ht | ht
    · exact hset.known t ht
    · rw [List.mem_singleton.mp ht]
      show call.id < (w.calls.set c _).length
      rw [List.length_set, hid]
      exact (List.getElem?_eq_some_iff.mp hc).1
  · have hnew : call.id ∉ w.tickets.map (·.leader) := by
      intro hmem
      obtain ⟨t, ht, hleader⟩ := List.mem_map.mp hmem
      exact hmissed hphase t ht (hleader.trans hid)
    simp only [Lookup.lead, List.map_append, List.map_cons, List.map_nil]
    rw [← List.concat_eq_append]
    exact h.leaders.concat hnew
  · intro f hf
    obtain ⟨hlt, hasked⟩ := h.loaded f hf
    rw [lead_stage, if_neg (Nat.ne_of_lt hlt), Lookup.lead, List.length_append]
    exact ⟨Nat.lt_add_right _ hlt, hasked⟩

theorem leadsOnce_step (h : LeadsOnce w) (hstep : step P w l = some w') : LeadsOnce w' := by
  cases move_of_step hstep with
  | update | drop | remove | forget => exact { h with }
  | hit | miss => exact h.arrive
  | @enter c call hc hphase =>
    unfold enter
    split
    · rename_i f _
      exact { h.setPhase hc (p := .waiting f) nofun with }
    · exact h.lead hc hphase
  | @found f t o => exact h.setStage (s := .ready (some o)) fun _ => rfl
  | @finish f t r => exact { h.setStage (f := f) (s := .done r) fun _ => rfl with }
  | @write f t o => exact { h.setStage (f := f) (s := .ready (some o)) fun _ => rfl with }
  | @absent f hstage =>
    refine h.setStage fun hf => ?_
    have hasked := (h.loaded f hf).2
    rw [hstage] at hasked
    cases hasked
  | @load f t ok ht hstage =>
    have hnot : f ∉ w.loads := by
      intro hf
      have hasked := (h.loaded f hf).2
      rw [hstage] at hasked
      cases hasked
    have hlt := (List.getElem?_eq_some_iff.mp ht).1
    have hset := h.setStage (f := f) (s := loaded P w f ok) fun hf => absurd hf hnot
    refine { hset with loaded := fun g hg => ?_, loads := List.nodup_cons.mpr ⟨hnot, h.loads⟩ }
    rcases List.mem_cons.mp hg with rfl | hg
    · refine ⟨hlt, ?_⟩
      show ((w.setStage g _).stage g).asked = true
      rw [setStage_stage, if_pos rfl]
      unfold loaded
      split
      · rfl
      · split <;> rfl
    · exact hset.loaded g hg
  | @take c call f r built hc _ _ =>
    refine h.setPhase hc ?_
    cases r with
    | none => exact nofun
    | some o =>
      simp only [taken]
      split
      · exact nofun
      · split <;> exact nofun
  | @put c call o hc _ => exact { h.setPhase hc (p := .returned (some o)) nofun with }

end CallCenter.Lib.Lookup
