import CallCenter.Lib.CachedLookup

/-!
# Lookups that share their loads

`GetAgent`, `GetQueue`, `GetTeam` and `ResourceManager.Get` are asked for an object by id and
version, and `queueUserIds` for the users of a queue without one agent. Overlapping lookups share
one load when the keys that they give to the group are equal.
-/

namespace CallCenter.App

open Lib Lib.Lookup

/-! ## Versioned lookups

The row is its `updated_at`, which is also what a lookup asks for. The id is fixed. -/

/-- `agentManager.GetAgent`: the version is not part of the key `agent:%d`. -/
def getAgent : Policy Int Int (Option Int) where
  key _ := none
  fresh v updatedAt := updatedAt == v
  rechecks := true
  writer := .flight
  builds := false
  locked := false

/-- `Manager.GetQueue`: each caller makes its own queue of the row. -/
def getQueue : Policy Int Int (Option Int) where
  key v := some v
  fresh v updatedAt := updatedAt == v
  rechecks := false
  writer := .callers
  builds := true
  locked := false

/-- `teamManager.GetTeam`, under the lock of the manager. -/
def getTeam : Policy Int Int (Option Int) where
  key v := some v
  fresh v updatedAt := v == 0 || updatedAt == v
  rechecks := false
  writer := .unshared
  builds := false
  locked := true

def resourceManagerGet : Policy Int Int (Option Int) where
  key v := some v
  fresh v updatedAt := updatedAt == v
  rechecks := false
  writer := .unshared
  builds := false
  locked := false

inductive Versioned where
  | agent | queue | team | resource

def Versioned.policy : Versioned → Policy Int Int (Option Int)
  | agent => getAgent
  | queue => getQueue
  | team => getTeam
  | resource => resourceManagerGet

/-- The lookup asks for a version that the row had reached when it began. -/
def Reached (q : Request Int Int) : Prop := q.ask ≠ 0 ∧ q.ask ∈ q.rows

instance (q : Request Int Int) : Decidable (Reached q) := by unfold Reached; infer_instance

/-- Such lookups return what was read at or after the moment when the row reached the version. -/
def AsNewAsAsked (w : World Int Int (Option Int)) : Prop :=
  ∀ call ∈ w.calls, ∀ o, call.phase = .returned (some o) → Reached call.toRequest →
    call.rows.idxOf call.ask ≤ o.rev

/-- What the flight brings is as new as the lookup asks for: it has read the row since, or is going
to; and if it has yet to look into the cache, it asks for the same version. -/
def Suits (q : Request Int Int) (t : Ticket Int (Option Int)) (s : Stage Int) : Prop :=
  Reached q → (s.checks = true → t.ask = q.ask) ∧ ∀ o ∈ s.object, q.rows.idxOf q.ask ≤ o.rev

instance (q : Request Int Int) (t : Ticket Int (Option Int)) (s : Stage Int) :
    Decidable (Suits q t s) := by unfold Suits; infer_instance

/-- A lookup joins only flights that suit it. -/
def joinsSuiting (P : Policy Int Int (Option Int)) (w : World Int Int (Option Int)) :
    Label Int Int (Option Int) → Bool
  | .enter c => w.calls[c]?.all fun call => (w.current (P.key call.ask)).all fun f =>
      w.tickets[f]?.all fun t => decide (Suits call.toRequest t (w.stage f))
  | _ => true

theorem serves_of_joinsSuiting (P : Policy Int Int (Option Int)) (w : World Int Int (Option Int))
    (l : Label Int Int (Option Int)) (h : joinsSuiting P w l = true) : Serves P w Suits l := by
  cases l with
  | enter c =>
    intro call hc
    have hjoin := (Option.all_eq_true _ _).mp h call hc
    split
    · rename_i f hf
      intro t ht
      exact of_decide_eq_true
        ((Option.all_eq_true _ _).mp ((Option.all_eq_true _ _).mp hjoin f hf) t ht)
    · -- a flight of its own has nothing yet
      refine fun _ => ⟨fun _ => rfl, fun o ho => ?_⟩
      split at ho <;> cases ho
  | _ => trivial

theorem fresh_eq_of_ne_zero {v updatedAt : Int} (kind : Versioned) (hv : v ≠ 0)
    (h : kind.policy.fresh v updatedAt = true) : updatedAt = v := by
  cases kind
  all_goals simpa [Versioned.policy, getAgent, getQueue, getTeam, resourceManagerGet, hv] using h

theorem idxOf_le_of_row_eq {w : World Int Int (Option Int)} {q : Request Int Int} {o : Object Int}
    (hrows : q.rows <+: w.rows) (hreached : Reached q) (ho : Honest w o) (hrow : o.row = q.ask) :
    q.rows.idxOf q.ask ≤ o.rev := by
  obtain ⟨more, hmore⟩ := hrows
  obtain ⟨hlt, hget⟩ := List.getElem?_eq_some_iff.mp ho.1
  have hfirst : w.rows.idxOf q.ask ≤ o.rev := by
    by_contra hgt
    have hne := List.not_of_lt_findIdx (show o.rev < w.rows.findIdx (· == q.ask) by
      rw [← List.idxOf]
      omega)
    simp [hget, hrow] at hne
  rw [← hmore, List.idxOf_append_of_mem hreached.2] at hfirst
  exact hfirst

theorem stable_suits (kind : Versioned) : Stable kind.policy Suits where
  found hrows hhonest hfresh h := by
    refine fun hreached => ⟨nofun, fun o ho => ?_⟩
    cases ho
    rw [(h hreached).1 rfl] at hfresh
    exact idxOf_le_of_row_eq hrows hreached hhonest (fresh_eq_of_ne_zero kind hreached.1 hfresh)
  absent h hreached := ⟨nofun, fun _ ho => by cases ho⟩
  load {w q t f ok} hrows h := by
    refine fun hreached => ⟨fun hchecks => ?_, fun o ho => ?_⟩
    · unfold loaded at hchecks
      grind [Stage.checks]
    · -- the row is read now
      have hlt : q.rows.idxOf q.ask < w.rows.length :=
        Nat.lt_of_lt_of_le (List.idxOf_lt_length_of_mem hreached.2) hrows.length_le
      rw [(of_loaded ho).2.1]
      show _ ≤ w.rows.length - 1
      omega
  write h hreached := ⟨nofun, (h hreached).2⟩
  finish h hreached := ⟨nofun, (h hreached).2⟩

/-- In every interleaving in which lookups join only flights that suit them, versioned lookups
return nothing older than asked for. -/
theorem versioned_lookups_as_new (kind : Versioned) (row : Int)
    (labels : List (Label Int Int (Option Int))) (w : World Int Int (Option Int))
    (hrun : run (step kind.policy) (.start row) labels = some w)
    (halong : Along (step kind.policy) (fun w l => joinsSuiting kind.policy w l = true) (.start row)
      labels) :
    AsNewAsAsked w := by
  have hserved := served_run (stable_suits kind) (serves_of_joinsSuiting kind.policy) halong hrun
  intro call hcall o hphase hreached
  obtain ⟨hrows, hhonest, hfresh | ⟨f, t, -, hsuits, -⟩⟩ := hserved.returned hcall hphase
  · exact idxOf_le_of_row_eq hrows hreached hhonest (fresh_eq_of_ne_zero kind hreached.1 hfresh)
  · exact (hsuits hreached).2 o rfl

def lookupsInTurn : List (Label Int Int (Option Int)) :=
  [.start 1, .enter 0, .check 0, .load 0 true, .write 0, .finish 0, .take 0 true, .update 2,
    .start 2, .enter 1, .check 1, .load 1 true, .write 1, .finish 1, .take 1 true]

theorem lookups_in_turn_as_new :
    ∃ w, run (step getAgent) (.start 1) lookupsInTurn = some w ∧ AsNewAsAsked w := by
  have hrun : (run (step getAgent) (.start 1) lookupsInTurn).isSome = true := by decide
  obtain ⟨w, hw⟩ := Option.isSome_iff_exists.mp hrun
  exact ⟨w, hw, versioned_lookups_as_new .agent 1 lookupsInTurn w hw (by decide)⟩

/-- The second lookup asks for version 2 after the update, and joins the first one's load. -/
def lookupsSharing : List (Label Int Int (Option Int)) :=
  [.start 1, .enter 0, .check 0, .load 0 true, .update 2, .start 2, .enter 1, .write 0, .finish 0,
    .take 0 true, .take 1 true]

theorem shared_lookup_older : ∃ w, run (step getAgent) (.start 1) lookupsSharing = some w ∧
    ¬AsNewAsAsked w := by
  have hrun : (run (step getAgent) (.start 1) lookupsSharing).map (·.calls[1]?)
      = some (some ⟨⟨1, 2, [1, 2], 0⟩, .returned (some ⟨0, 1, 0⟩)⟩) := rfl
  obtain ⟨w, hw, hcall⟩ := Option.map_eq_some_iff.mp hrun
  refine ⟨w, hw, fun h => ?_⟩
  have hle := h _ (List.mem_of_getElem? hcall) _ rfl (by decide)
  exact absurd hle (by decide)

/-! ## The users of a queue -/

/-- A call of `NotificationHideMember` or `NotificationInterceptAttempt`, with the agent to skip. -/
inductive Notification where
  | hideMember (skipAgentId : Int)
  | interceptAttempt (skipAgentId : Int)

def Notification.skipAgentId : Notification → Int
  | hideMember skip | interceptAttempt skip => skip

def Notification.passed : Notification → Int
  | hideMember skip => skip
  | interceptAttempt _ => 0

/-- `App.queueUserIds` of one queue. The row is the store's list for each agent to skip, who is not
part of the key `queue-%d`. -/
def queueUserIds : Policy Notification (Int → List Int) Unit where
  key _ := ()
  fresh _ _ := false
  rechecks := false
  writer := .nobody
  builds := false
  locked := false

abbrev NotificationWorld := World Notification (Int → List Int) Unit

/-- The list that is published: what the store answered to the flight that asked. -/
def published (w : NotificationWorld) (o : Object (Int → List Int)) : Option (List Int) :=
  w.tickets[o.flight]?.map fun t => o.row t.ask.passed

/-- Each call publishes what the store has for its own skipped agent. -/
def PublishesOwn (w : NotificationWorld) : Prop :=
  ∀ call ∈ w.calls, ∀ o, call.phase = .returned (some o) →
    o.row ∈ w.rows ∧ published w o = some (o.row call.ask.skipAgentId)

/-- A call enters a flight in which its own agent is passed to the store. -/
def passesOwn (w : NotificationWorld) : Label Notification (Int → List Int) Unit → Bool
  | .enter c => w.calls[c]?.all fun call =>
      match w.current () with
      | some f => w.tickets[f]?.all fun t => t.ask.passed == call.ask.skipAgentId
      | none => call.ask.passed == call.ask.skipAgentId
  | _ => true

theorem serves_of_passesOwn (w : NotificationWorld) (l : Label Notification (Int → List Int) Unit)
    (h : passesOwn w l = true) :
    Serves queueUserIds w (fun q t _ => t.ask.passed = q.ask.skipAgentId) l := by
  cases l with
  | enter c =>
    intro call hc
    have hown := (Option.all_eq_true _ _).mp h call hc
    split
    · rename_i f hf
      simp only [show w.current () = some f from hf] at hown
      intro t ht
      exact eq_of_beq ((Option.all_eq_true _ _).mp hown t ht)
    · rename_i hf
      simp only [show w.current () = none from hf] at hown
      exact eq_of_beq hown
  | _ => trivial

/-- In every interleaving in which calls enter flights that pass their own agent, they publish the
store's list for that agent. -/
theorem notifications_skip_own (row : Int → List Int)
    (labels : List (Label Notification (Int → List Int) Unit)) (w : NotificationWorld)
    (hrun : run (step queueUserIds) (.start row) labels = some w)
    (halong : Along (step queueUserIds) (fun w l => passesOwn w l = true) (.start row) labels) :
    PublishesOwn w := by
  have hserved := served_run (stable_of_ticket _) serves_of_passesOwn halong hrun
  intro call hcall o hphase
  obtain ⟨-, hhonest, hfresh | ⟨f, t, ht, hskip, hmade⟩⟩ := hserved.returned hcall hphase
  · cases hfresh
  · obtain hflight | hfresh := hmade.2
    · refine ⟨List.mem_of_getElem? hhonest.1, ?_⟩
      rw [published, hflight, ht, Option.map_some, hskip]
    · cases hfresh

def twoAgents (skip : Int) : List Int := [1, 2].filter (· ≠ skip)

def hiddenInTurn : List (Label Notification (Int → List Int) Unit) :=
  [.start (.hideMember 1), .enter 0, .load 0 true, .finish 0, .take 0 true,
    .start (.hideMember 2), .enter 1, .load 1 true, .finish 1, .take 1 true]

theorem hidden_in_turn_skip_own :
    ∃ w, run (step queueUserIds) (.start twoAgents) hiddenInTurn = some w ∧ PublishesOwn w := by
  have hrun : (run (step queueUserIds) (.start twoAgents) hiddenInTurn).isSome = true := rfl
  obtain ⟨w, hw⟩ := Option.isSome_iff_exists.mp hrun
  exact ⟨w, hw, notifications_skip_own twoAgents hiddenInTurn w hw (by decide)⟩

def hiddenAtOnce : List (Label Notification (Int → List Int) Unit) :=
  [.start (.hideMember 1), .enter 0, .start (.hideMember 2), .enter 1, .load 0 true, .finish 0,
    .take 0 true, .take 1 true]

theorem hidden_at_once_skip_other :
    ∃ w, run (step queueUserIds) (.start twoAgents) hiddenAtOnce = some w ∧ ¬PublishesOwn w := by
  have hrun : (run (step queueUserIds) (.start twoAgents) hiddenAtOnce).map
      (fun w => (w.calls[1]?, w.tickets))
      = some (some ⟨⟨1, .hideMember 2, [twoAgents], 0⟩, .returned (some ⟨0, twoAgents, 0⟩)⟩,
        [⟨0, .hideMember 1, ()⟩]) := rfl
  obtain ⟨w, hw, hfields⟩ := Option.map_eq_some_iff.mp hrun
  obtain ⟨hcall, htickets⟩ := Prod.mk.inj hfields
  refine ⟨w, hw, fun h => ?_⟩
  have hpublished := (h _ (List.mem_of_getElem? hcall) _ rfl).2
  rw [published, htickets] at hpublished
  exact absurd hpublished (by decide)

end CallCenter.App
