import CallCenter.App.Lookups

/-!
# What the caches of the lookups keep

`ResourceManager.Get` should give every attempt the same object of a resource, whose rate limiter
they share, and `RecordAllCalls` should not remember a setting that has been invalidated. Both
depend on who is under way between a load and the write to the cache.
-/

namespace CallCenter.App

open Lib Lib.Lookup

/-! ## One object for a version of a resource -/

abbrev ResourceWorld := World Int Int (Option Int)

/-- All calls ask for the same version, and nothing is removed from the cache. -/
def sameVersion (v : Int) : Label Int Int (Option Int) → Bool
  | .start v' => v' == v
  | .drop | .remove => false
  | _ => true

/-- Any two calls that return an object return the same one. -/
def OneResource (w : ResourceWorld) : Prop :=
  ∀ a ∈ w.calls, ∀ b ∈ w.calls, ∀ o o', a.phase = .returned (some o) →
    b.phase = .returned (some o') → o = o'

/-- A call begins a load only while no call has an object, or waits for one. -/
def loadsFirst (v : Int) (w : ResourceWorld) : Label Int Int (Option Int) → Bool
  | .enter _ => (w.current (some v)).isSome
      || w.calls.all fun call => call.phase = .missed || call.phase = .returned none
  | _ => true

/-- What a call has, or waits for, is what the flight `f` brings. -/
def FromFlight (f : Nat) (w : ResourceWorld) : Phase Int → Prop
  | .missed | .returned none => True
  | .waiting g => g = f
  | .holding o | .returned (some o) => (w.stage f).object = some o

/-- All the calls go back to one flight. -/
structure OneFlight (v : Int) (f : Nat) (w : ResourceWorld) : Prop where
  ask : ∀ call ∈ w.calls, call.ask = v
  phase : ∀ call ∈ w.calls, FromFlight f w call.phase
  /-- Who comes later joins this flight. -/
  current : ∀ g, w.current (some v) = some g → g = f
  /-- Only the callers write to the cache, and they return what they have written. -/
  cache : ∀ o, w.cache = some o → ∃ call ∈ w.calls, call.phase = .returned (some o)
  stage : ∀ g o, w.stage g ≠ .writing o

section OneFlight

variable {v : Int} {f : Nat} {w w' : ResourceWorld} {c : Nat} {call : Call Int Int} {p : Phase Int}

theorem OneFlight.oneResource (h : OneFlight v f w) : OneResource w := by
  intro a ha b hb o o' hao hbo
  have hfa := h.phase a ha
  have hfb := h.phase b hb
  rw [hao] at hfa
  rw [hbo] at hfb
  exact Option.some.inj (hfa.symm.trans hfb)

theorem OneFlight.cached (h : OneFlight v f w) {o : Object Int} (ho : w.cache = some o) :
    (w.stage f).object = some o := by
  obtain ⟨call, hcall, hphase⟩ := h.cache o ho
  have hfrom := h.phase call hcall
  rwa [hphase] at hfrom

theorem OneFlight.arrive (h : OneFlight v f w) (hp : FromFlight f w p) :
    OneFlight v f (w.arrive v p) := by
  refine { h with ask := fun x hx => ?_, phase := fun x hx => ?_, cache := fun o ho => ?_ }
  · rcases List.mem_append.mp hx with hx | hx
    · exact h.ask x hx
    · rw [List.mem_singleton.mp hx]
  · rcases List.mem_append.mp hx with hx | hx
    · exact h.phase x hx
    · rw [List.mem_singleton.mp hx]
      exact hp
  · obtain ⟨x, hx, hphase⟩ := h.cache o ho
    exact ⟨x, List.mem_append_left _ hx, hphase⟩

theorem mem_setPhase_of_returned (hc : w.calls[c]? = some call) (hway : call.phase.underWay = true)
    {x : Call Int Int} {r : Option (Object Int)} (hx : x ∈ w.calls)
    (hphase : x.phase = .returned r) : x ∈ (w.setPhase c call p).calls := by
  obtain ⟨i, hi⟩ := List.mem_iff_getElem?.mp hx
  refine List.mem_iff_getElem?.mpr ⟨i, ?_⟩
  rw [World.setPhase, List.getElem?_set_ne ?_]
  · exact hi
  · rintro rfl
    cases hc.symm.trans hi
    rw [hphase] at hway
    cases hway

theorem OneFlight.setPhase (h : OneFlight v f w) (hc : w.calls[c]? = some call)
    (hway : call.phase.underWay = true) (hp : FromFlight f w p) :
    OneFlight v f (w.setPhase c call p) := by
  refine { h with ask := fun x hx => ?_, phase := fun x hx => ?_, cache := fun o ho => ?_ }
  · rcases mem_setPhase hx with hx | rfl
    · exact h.ask x hx
    · exact h.ask call (List.mem_of_getElem? hc)
  · rcases mem_setPhase hx with hx | rfl
    · exact h.phase x hx
    · exact hp
  · obtain ⟨x, hx, hphase⟩ := h.cache o ho
    exact ⟨x, mem_setPhase_of_returned hc hway hx hphase, hphase⟩

theorem OneFlight.setStage (h : OneFlight v f w) {g : Nat} {s : Stage Int}
    (hold : (w.stage g).object = none ∨ s.object = (w.stage g).object)
    (hs : ∀ o, s ≠ .writing o) : OneFlight v f (w.setStage g s) := by
  have hobject : ∀ o, (w.stage f).object = some o → ((w.setStage g s).stage f).object = some o := by
    intro o ho
    rw [setStage_stage]
    split
    · rename_i hfg
      subst hfg
      rcases hold with hnone | hsame
      · cases hnone.symm.trans ho
      · exact hsame.trans ho
    · exact ho
  refine { h with phase := fun x hx => ?_, stage := fun g' o => ?_ }
  · have hphase := h.phase x hx
    unfold FromFlight at hphase ⊢
    split at hphase
    · trivial
    · trivial
    · exact hphase
    · exact hobject _ hphase
    · exact hobject _ hphase
  · rw [setStage_stage]
    split
    · exact hs o
    · exact h.stage g' o

theorem oneFlight_enter (h : OneFlight v f w) (hc : w.calls[c]? = some call)
    (hphase : call.phase = .missed) (hok : loadsFirst v w (.enter c) = true) :
    ∃ f', OneFlight v f' (enter resourceManagerGet w c call) := by
  have hkey : resourceManagerGet.key call.ask = some v :=
    congrArg some (h.ask call (List.mem_of_getElem? hc))
  have hway : call.phase.underWay = true := by rw [hphase]; rfl
  unfold enter
  rw [hkey]
  split
  · rename_i g hg
    obtain rfl := h.current g hg
    exact ⟨g, { h.setPhase hc hway (p := .waiting g) rfl with }⟩
  · rename_i hnone
    -- nobody has an object, so that the cache is empty too
    rw [loadsFirst, hnone, Option.isSome_none, Bool.false_or, List.all_eq_true] at hok
    have hempty : ∀ x ∈ w.calls, ∀ f, FromFlight f (lead resourceManagerGet w c call) x.phase := by
      intro x hx f
      have hx := hok x hx
      rw [Bool.or_eq_true, decide_eq_true_eq, decide_eq_true_eq] at hx
      rcases hx with hx | hx <;> rw [hx] <;> trivial
    have hcache : w.cache = none := by
      refine Option.eq_none_iff_forall_not_mem.mpr fun o ho => ?_
      obtain ⟨x, hx, hreturned⟩ := h.cache o ho
      have hx := hok x hx
      rw [hreturned] at hx
      cases hx
    refine ⟨w.tickets.length, fun x hx => ?_, fun x hx => ?_, fun g hg => ?_, fun o ho => ?_,
      fun g o => ?_⟩
    · rcases mem_setPhase hx with hx | rfl
      · exact h.ask x hx
      · exact h.ask call (List.mem_of_getElem? hc)
    · rcases mem_setPhase hx with hx | rfl
      · exact hempty x hx _
      · rfl
    · have hg : Function.update w.current (resourceManagerGet.key call.ask)
          (some w.tickets.length) (some v) = some g := hg
      rw [hkey, Function.update_self] at hg
      exact (Option.some.inj hg).symm
    · cases hcache.symm.trans ho
    · rw [lead_stage]
      split
      · exact nofun
      · exact h.stage g o

end OneFlight

theorem oneFlight_step {v : Int} {w w' : ResourceWorld} {l : Label Int Int (Option Int)}
    (h : ∃ f, OneFlight v f w) (hok : sameVersion v l = true ∧ loadsFirst v w l = true)
    (hstep : step resourceManagerGet w l = some w') : ∃ f, OneFlight v f w' := by
  obtain ⟨f, h⟩ := h
  cases move_of_step hstep with
  | update => exact ⟨f, { h with }⟩
  | @hit v' o hcached =>
    obtain rfl : v' = v := eq_of_beq hok.1
    exact ⟨f, h.arrive (h.cached (Option.filter_eq_some_iff.mp hcached).1)⟩
  | @miss v' hcached =>
    obtain rfl : v' = v := eq_of_beq hok.1
    exact ⟨f, h.arrive trivial⟩
  | enter hc hphase => exact oneFlight_enter h hc hphase hok.2
  | found _ hstage _ => exact ⟨f, h.setStage (.inl (by rw [hstage]; rfl)) nofun⟩
  | absent hstage => exact ⟨f, h.setStage (.inl (by rw [hstage]; rfl)) nofun⟩
  | @load g t ok _ hstage =>
    have hloaded : ∀ o, loaded resourceManagerGet w g ok ≠ .writing o := by
      intro o
      unfold loaded
      split
      · exact nofun
      · exact nofun
    exact ⟨f, { h.setStage (.inl (by rw [hstage]; rfl)) hloaded with }⟩
  | @write g _ o _ hstage => exact absurd hstage (h.stage g o)
  | @finish g t r _ hstage =>
    refine ⟨f, { h.setStage (s := .done r) (.inr (by rw [hstage]; rfl)) nofun with
      current := fun g' hg' => h.current g' ?_ }⟩
    simp only [finish] at hg'
    split at hg'
    · exact of_update_none hg'
    · exact hg'
  | @take c call g r built hc hphase hstage =>
    obtain rfl : g = f := by
      have hfrom := h.phase call (List.mem_of_getElem? hc)
      rwa [hphase] at hfrom
    refine ⟨g, h.setPhase hc (by rw [hphase]; rfl) ?_⟩
    cases r with
    | none => trivial
    | some o =>
      have ho : (w.stage g).object = some o := by rw [hstage]; rfl
      show FromFlight g w (if _ then _ else _)
      split
      · exact ho
      · exact ho
  | @put c call o hc hphase =>
    have hfrom := h.phase call (List.mem_of_getElem? hc)
    rw [hphase] at hfrom
    refine ⟨f, { h.setPhase hc (p := .returned (some o)) (by rw [hphase]; rfl) hfrom with
      cache := fun o' ho => ?_ }⟩
    obtain rfl := Option.some.inj ho
    exact ⟨_, List.mem_set (List.getElem?_eq_some_iff.mp hc).1 _, rfl⟩
  | drop | remove => cases hok.1
  | forget k =>
    exact ⟨f, { h with current := fun g hg => h.current g (of_update_none hg) }⟩

def callsInTurn : List (Label Int Int (Option Int)) :=
  [.start 5, .enter 0, .load 0 true, .finish 0, .take 0 true, .put 0, .start 5]

/-- The first two calls share a load, which nobody puts into the cache. -/
def callsAtOnce : List (Label Int Int (Option Int)) :=
  [.start 5, .start 5, .enter 0, .enter 1, .load 0 true, .finish 0, .take 0 true, .take 1 true,
    .start 5, .enter 2, .load 1 true, .finish 1, .take 2 true, .put 2]

/-- `App.RecordAllCalls` of a domain, with `listenSystemSettingEvents`. Each change of the setting
is a revision, and its event an invalidation. -/
def recordAllCalls : Policy Unit Bool Unit where
  key _ := ()
  fresh _ _ := true
  rechecks := false
  writer := .callers
  builds := false
  locked := false

abbrev SettingWorld := World Unit Bool Unit

/-- What a call answers; after an error that is no. -/
def recordAnswer : Option (Object Bool) → Bool
  | some o => o.row
  | none => false

/-- A call answers what the setting was at or after the last change whose event had been handled
when it began. -/
def NotStale (w : SettingWorld) : Prop :=
  ∀ call ∈ w.calls, ∀ r, call.phase = .returned r →
    ∃ rev ≥ call.handled, w.rows[rev]? = some (recordAnswer r)

/-- The value that a call has in its hands, or is about to receive. -/
def inHand (w : SettingWorld) (call : Call Unit Bool) : Option (Object Bool) :=
  match call.phase with
  | .waiting f => (w.stage f).object
  | .holding o => some o
  | _ => none

def inSight (w : SettingWorld) : List (Object Bool) :=
  ((w.current ()).bind fun f => (w.stage f).object).toList ++ w.calls.filterMap (inHand w)

/-- No load fails, and when an event is handled no older value is on its way. -/
def noneOnTheWay (w : SettingWorld) : Label Unit Bool Unit → Bool
  | .load _ ok => ok
  | .remove => (inSight w).all fun o => w.handled + 1 ≤ o.rev
  | _ => true

def Brings : Stage Bool → Prop
  | .loading => True
  | .ready r | .done r => r ≠ none
  | .checking | .writing _ => False

/-- Nothing in sight is older than the last removal. -/
structure Fresh (w : SettingWorld) : Prop where
  rows : w.rows ≠ []
  order : w.handled ≤ w.removed ∧ w.removed ≤ w.rev
  cache : ∀ o, w.cache = some o → w.removed ≤ o.rev
  stage : ∀ f, Brings (w.stage f)
  flight : ∀ f o, w.current () = some f → (w.stage f).object = some o → w.removed ≤ o.rev
  hand : ∀ call ∈ w.calls, ∀ o, inHand w call = some o → w.removed ≤ o.rev
  call : ∀ call ∈ w.calls, call.handled ≤ w.handled ∧
    ∀ r, call.phase = .returned r → ∃ o, r = some o ∧ call.handled ≤ o.rev

theorem Fresh.flight_to {w w' : SettingWorld} {f : Nat} {s : Stage Bool} (h : Fresh w)
    (hw : ∀ g, w'.stage g = if g = f then s else w.stage g) (hrows : w'.rows = w.rows)
    (hcache : w'.cache = w.cache) (hcalls : w'.calls = w.calls)
    (htimes : w'.removed = w.removed ∧ w'.handled = w.handled) (hs : Brings s)
    (hold : ∀ o, s.object = some o → (w.stage f).object = some o ∨ w.removed ≤ o.rev)
    (hcurrent : ∀ g, w'.current () = some g → w.current () = some g ∨ g = f ∧ s = .loading) :
    Fresh w' := by
  obtain ⟨hremoved, hhandled⟩ := htimes
  have hobject : ∀ g o, (w'.stage g).object = some o →
      (w.stage g).object = some o ∨ w.removed ≤ o.rev := by
    intro g o ho
    rw [hw] at ho
    split at ho
    · rename_i hg
      exact hg ▸ hold o ho
    · exact .inl ho
  refine ⟨hrows ▸ h.rows, ?_, ?_, fun g => ?_, fun g o hg ho => ?_, fun x hx o ho => ?_, ?_⟩
  · rw [hremoved, hhandled, World.rev, hrows]
    exact h.order
  · rw [hcache, hremoved]
    exact h.cache
  · rw [hw]
    split
    · exact hs
    · exact h.stage g
  · rw [hremoved]
    rcases hcurrent g hg with hg | ⟨hgf, hloading⟩
    · exact (hobject g o ho).elim (h.flight g o hg) id
    · rw [hw, if_pos hgf, hloading] at ho
      cases ho
  · have hhand := h.hand x (hcalls ▸ hx) o
    rw [hremoved]
    unfold inHand at ho hhand
    split at ho
    · rename_i g hphase
      rw [hphase] at hhand
      exact (hobject g o ho).elim hhand id
    · rename_i hphase
      rw [hphase] at hhand
      exact hhand ho
    · cases ho
  · rw [hcalls, hhandled]
    exact h.call

theorem Fresh.setPhase {w : SettingWorld} {c : Nat} {call : Call Unit Bool} {p : Phase Bool}
    (h : Fresh w) (hmem : call ∈ w.calls)
    (hhand : ∀ o, inHand w { call with phase := p } = some o → w.removed ≤ o.rev)
    (hreturned : ∀ r, p = .returned r → ∃ o, r = some o ∧ w.removed ≤ o.rev) :
    Fresh (w.setPhase c call p) := by
  obtain ⟨hhandled, -⟩ := h.call call hmem
  refine { h with hand := fun x hx => ?_, call := fun x hx => ?_ }
  · rcases mem_setPhase hx with hx | rfl
    · exact h.hand x hx
    · exact hhand
  · rcases mem_setPhase hx with hx | rfl
    · exact h.call x hx
    · refine ⟨hhandled, fun r hr => ?_⟩
      obtain ⟨o, ho, hrev⟩ := hreturned r hr
      exact ⟨o, ho, Nat.le_trans hhandled (Nat.le_trans h.order.1 hrev)⟩

theorem Fresh.arrive {w : SettingWorld} {p : Phase Bool} (h : Fresh w)
    (hp : p = .missed ∨ ∃ o, p = .returned (some o) ∧ w.removed ≤ o.rev) :
    Fresh (w.arrive () p) := by
  refine { h with hand := fun x hx => ?_, call := fun x hx => ?_ }
  · rcases List.mem_append.mp hx with hx | hx
    · exact h.hand x hx
    · rw [List.mem_singleton.mp hx]
      rcases hp with rfl | ⟨o, rfl, -⟩ <;> exact nofun
  · rcases List.mem_append.mp hx with hx | hx
    · exact h.call x hx
    · rw [List.mem_singleton.mp hx]
      refine ⟨Nat.le_refl _, fun r hr => ?_⟩
      rcases hp with rfl | ⟨o, rfl, hrev⟩
      · cases hr
      · exact ⟨o, (Phase.returned.inj hr).symm, Nat.le_trans h.order.1 hrev⟩

theorem fresh_step {w w' : SettingWorld} {l : Label Unit Bool Unit} (h : Fresh w)
    (hok : noneOnTheWay w l = true) (hstep : step recordAllCalls w l = some w') : Fresh w' := by
  cases move_of_step hstep with
  | update row =>
    have hrev := h.order.2
    refine { h with rows := by simp, order := ⟨h.order.1, ?_⟩ }
    simp only [World.rev, List.length_append] at hrev ⊢
    omega
  | @hit v o hcached =>
    have hold := h.cache o (Option.filter_eq_some_iff.mp hcached).1
    exact h.arrive (.inr ⟨o, rfl, hold⟩)
  | miss => exact h.arrive (.inl rfl)
  | @enter c call hc hphase =>
    have hmem := List.mem_of_getElem? hc
    unfold enter
    split
    · rename_i f hf
      have hwaiting := h.setPhase (c := c) hmem (p := .waiting f) (fun o => h.flight f o hf)
        fun _ hr => by cases hr
      exact { hwaiting with }
    · -- The new flight has nothing to bring yet.
      have hflights : Fresh { lead recordAllCalls w c call with calls := w.calls } :=
        h.flight_to (lead_stage c call) rfl rfl rfl ⟨rfl, rfl⟩ trivial
          (fun _ ho => by cases ho) fun g hg => .inr ⟨(Option.some.inj hg).symm, rfl⟩
      have hwaiting := hflights.setPhase (c := c) hmem (p := .waiting w.tickets.length)
        (fun o ho => ?_) fun _ hr => by cases hr
      · exact { hwaiting with }
      · simp only [inHand, lead_stage, if_pos] at ho
        cases ho
  | @found f _ _ _ hchecks | @absent f hchecks | @write f _ _ _ hchecks =>
    have hbrings := h.stage f
    rw [hchecks] at hbrings
    exact hbrings.elim
  | @load f t ok _ hloads =>
    have hloaded : loaded recordAllCalls w f ok
        = .ready (some ⟨w.rev, w.rows.getLast h.rows, f⟩) := by
      rw [loaded, show ok = true from hok, if_pos rfl, List.getLast?_eq_some_getLast h.rows]
      rfl
    rw [hloaded]
    exact h.flight_to (setStage_stage w f _) rfl rfl rfl ⟨rfl, rfl⟩ (Option.some_ne_none _)
      (fun o ho => .inr (Option.some.inj ho ▸ h.order.2)) fun g hg => .inl hg
  | @finish f t r _ hready =>
    have hbrings := h.stage f
    rw [hready] at hbrings
    refine h.flight_to (setStage_stage w f _) rfl rfl rfl ⟨rfl, rfl⟩ hbrings
      (fun o ho => .inl (by rw [hready]; exact ho)) fun g hg => .inl ?_
    simp only [finish] at hg
    split at hg
    · cases hg
    · exact hg
  | @take c call f r built hc hphase hdone =>
    have hmem := List.mem_of_getElem? hc
    have hbrings := h.stage f
    have hhand := h.hand call hmem
    rw [hdone] at hbrings
    simp only [inHand, hphase, hdone] at hhand
    cases r with
    | none => exact absurd rfl hbrings
    | some o => exact h.setPhase hmem hhand fun _ hr => by cases hr
  | @put c call o hc hphase =>
    have hmem := List.mem_of_getElem? hc
    have hrev := h.hand call hmem o (by rw [inHand, hphase])
    have hreturned : Fresh (w.setPhase c call (.returned (some o))) :=
      h.setPhase hmem (fun _ ho => by cases ho) fun r hr =>
        ⟨o, (Phase.returned.inj hr).symm, hrev⟩
    exact { hreturned with cache := fun o' ho => Option.some.inj ho ▸ hrev }
  | drop => exact { h with cache := fun _ ho => by cases ho }
  | remove hlt =>
    have hsight : ∀ o ∈ inSight w, w.handled + 1 ≤ o.rev :=
      fun o ho => of_decide_eq_true (List.all_eq_true.mp hok o ho)
    refine { h with
      order := ⟨Nat.le_succ _, hlt⟩
      cache := fun _ ho => by cases ho
      flight := fun f o hf ho => hsight o (List.mem_append_left _ ?_)
      hand := fun x hx o ho => ?_ }
    · rw [show w.current () = some f from hf, Option.bind_some, show (w.stage f).object = _ from ho]
      exact List.mem_singleton_self o
    · exact hsight o (List.mem_append_right _ (List.mem_filterMap.mpr ⟨x, hx, ho⟩))
  | forget k heq =>
    refine { h with
      order := ⟨Nat.le_refl _, h.order.2⟩
      flight := fun _ _ hf => by cases hf
      call := fun x hx => ?_ }
    exact ⟨Nat.le_trans (h.call x hx).1 h.order.1, (h.call x hx).2⟩

/-- In every interleaving in which no load fails and no older value is on its way when an event is
handled, no call answers a stale setting. -/
theorem recordAllCalls_never_stale (row : Bool) (labels : List (Label Unit Bool Unit))
    (w : SettingWorld) (hrun : run (step recordAllCalls) (.start row) labels = some w)
    (halong : Along (step recordAllCalls) (fun w l => noneOnTheWay w l = true) (.start row)
      labels) : NotStale w := by
  have hstart : Fresh (.start row) :=
    ⟨nofun, ⟨Nat.le_refl 0, Nat.le_refl 0⟩, nofun, fun _ => trivial, nofun, nofun, nofun⟩
  have hfresh := run_invariant (fun _ _ _ => fresh_step) labels hstart halong hrun
  have hserved : Served recordAllCalls w fun _ _ _ => True :=
    served_run (stable_of_ticket _) (fun w l _ => serves_true w l) halong hrun
  intro call hcall r hphase
  obtain ⟨o, rfl, hrev⟩ := (hfresh.call call hcall).2 r hphase
  exact ⟨o.rev, hrev, (hserved.returned hcall hphase).2.1.1⟩

def readAroundChange : List (Label Unit Bool Unit) :=
  [.start (), .enter 0, .load 0 true, .finish 0, .take 0 true, .put 0, .update true, .remove,
    .forget (), .start (), .enter 1, .load 1 true, .finish 1, .take 1 true, .put 1]

theorem read_around_change_not_stale :
    ∃ w, run (step recordAllCalls) (.start false) readAroundChange = some w ∧ NotStale w := by
  have hrun : (run (step recordAllCalls) (.start false) readAroundChange).isSome = true := by decide
  obtain ⟨w, hw⟩ := Option.isSome_iff_exists.mp hrun
  exact ⟨w, hw, recordAllCalls_never_stale false readAroundChange w hw (by decide)⟩

/-- The old value is put into the cache after the invalidation, and found there. -/
def putAfterRemove : List (Label Unit Bool Unit) :=
  [.start (), .enter 0, .load 0 true, .finish 0, .take 0 true, .update true, .remove, .forget (),
    .put 0, .start ()]

theorem put_after_remove_stale :
    ∃ w, run (step recordAllCalls) (.start false) putAfterRemove = some w ∧ ¬NotStale w := by
  have hrun : (run (step recordAllCalls) (.start false) putAfterRemove).map
      (fun w => (w.calls[1]?, w.rows))
      = some (some ⟨⟨1, (), [false, true], 1⟩, .returned (some ⟨0, false, 0⟩)⟩, [false, true]) :=
    rfl
  obtain ⟨w, hw, hfields⟩ := Option.map_eq_some_iff.mp hrun
  obtain ⟨hcall, hrows⟩ := Prod.mk.inj hfields
  refine ⟨w, hw, fun h => ?_⟩
  obtain ⟨rev, hrev, hrow⟩ := h _ (List.mem_of_getElem? hcall) _ rfl
  rw [hrows] at hrow
  match rev, hrev, hrow with
  | 1, _, hrow => cases hrow
  | n + 2, _, hrow => cases hrow

end CallCenter.App
