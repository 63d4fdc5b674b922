import CallCenter.Queue.IMTransfer

/-!
# When a conversation can always be transferred again

While a transfer is under way the source is in one of four shapes: *idle*; with a `TransferIM` call
*starting* a target, or about to release because that failed; with a call *recording* a running
target; or *waiting* for the target it names.

Two things break the chain. A barred target has no run, so nothing releases the reservation that is
recorded for it. And a target whose run ends before `TransferIM` has recorded it releases too early:
the id written afterwards stays behind, and makes the next failed transfer skip its own release.
`Orderly` is that neither happens, and that the source is still cached when its target releases it.
-/

namespace CallCenter.Queue

open Lib

/-- **The condition.** No target is barred; and when a target's deferred release
runs, the transfer is complete, or the source is still cached and names this target. -/
def Orderly (w : TransferWorld) : TransferLabel → Prop
  | .call _ (.barred _) => False
  | .runEnds toId => w.source.transferred = true ∨ (w.cached = true ∧ w.source.toId = toId)
  | _ => True

instance (w : TransferWorld) (l : TransferLabel) : Decidable (Orderly w l) := by
  unfold Orderly
  split <;> infer_instance

def TransferCall.holds : TransferCall → Bool
  | .reserve | .returned => false
  | .distribute | .record _ | .release => true

instance (w : TransferWorld) : Decidable (NotLockedOut w) := by
  unfold NotLockedOut
  infer_instance

def active (w : TransferWorld) : List TransferCall := w.calls.filter TransferCall.holds

def runningIds (w : TransferWorld) : List Int :=
  (w.targets.filter fun t => t.run = .running).map Target.id

inductive Shape (w : TransferWorld) : Prop where
  | idle (hact : active w = []) (hp : w.source.pending = false) (hto : w.source.toId = 0)
      (hrun : runningIds w = [])
  | starting (c : TransferCall) (hc : c = .distribute ∨ c = .release) (hact : active w = [c])
      (hp : w.source.pending = true) (hto : w.source.toId = 0) (hrun : runningIds w = [])
  | recording (b : Int) (hact : active w = [.record b]) (hp : w.source.pending = true)
      (hto : w.source.toId = 0) (hrun : runningIds w = [b])
  | waiting (b : Int) (hact : active w = []) (hp : w.source.pending = true)
      (hto : w.source.toId = b) (hrun : runningIds w = [b])

theorem Shape.congr {w w' : TransferWorld} (h : Shape w) (hact : active w' = active w)
    (hp : w'.source.pending = w.source.pending) (hto : w'.source.toId = w.source.toId)
    (hrun : runningIds w' = runningIds w) : Shape w' := by
  cases h with
  | idle ha hp' hto' hrun' =>
    exact .idle (hact.trans ha) (hp.trans hp') (hto.trans hto') (hrun.trans hrun')
  | starting c hc ha hp' hto' hrun' =>
    exact .starting c hc (hact.trans ha) (hp.trans hp') (hto.trans hto') (hrun.trans hrun')
  | recording b ha hp' hto' hrun' =>
    exact .recording b (hact.trans ha) (hp.trans hp') (hto.trans hto') (hrun.trans hrun')
  | waiting b ha hp' hto' hrun' =>
    exact .waiting b (hact.trans ha) (hp.trans hp') (hto.trans hto') (hrun.trans hrun')

structure TransferInv (w : TransferWorld) : Prop where
  nonzero : ∀ t ∈ w.targets, t.id ≠ 0
  done : w.source.transferred = true → w.source.pending = false
  shape : w.source.transferred = false → Shape w

theorem transferInv_start : TransferInv TransferWorld.start where
  nonzero := by
    intro t ht
    exact absurd ht (by simp [TransferWorld.start])
  done := fun _ => rfl
  shape := fun _ => .idle rfl rfl rfl rfl

/-! ## Running targets -/

theorem mem_runningIds {w : TransferWorld} {b : Int} :
    b ∈ runningIds w ↔ ∃ t ∈ w.targets, t.id = b ∧ t.run = .running := by
  grind [runningIds]

theorem isRunning_iff {w : TransferWorld} {b : Int} :
    isRunning w b = true ↔ b ∈ runningIds w := by
  rw [mem_runningIds, isRunning, List.any_eq_true]
  simp only [Bool.and_eq_true, decide_eq_true_eq]

theorem runningIds_release (ts : List Target) (b : Int) :
    ((ts.map fun t => if t.id = b then { t with run := .released } else t).filter
        fun t => t.run = .running).map Target.id
      = ((ts.filter fun t => t.run = .running).map Target.id).filter fun i => i ≠ b := by
  induction ts with
  | nil => rfl
  | cons t ts ih =>
    grind

/-! ## The methods of the source -/

theorem reserve_eq_some {a s : IMTransfer} (h : a.reserveIMTransfer = some s) :
    a.pending = false ∧ a.transferred = false ∧ s = { a with pending := true } := by
  grind [IMTransfer.reserveIMTransfer]

theorem release_transferred (a : IMTransfer) (b : Int) :
    (a.releaseIMTransfer b).transferred = a.transferred := by
  rw [IMTransfer.releaseIMTransfer]
  split <;> rfl

theorem release_pending {a : IMTransfer} (b : Int) (h : a.pending = false) :
    (a.releaseIMTransfer b).pending = false := by
  rw [IMTransfer.releaseIMTransfer]
  split
  · rfl
  · exact h

theorem complete_transferred (a : IMTransfer) : a.completeIMTransfer.transferred = true := by
  rw [IMTransfer.completeIMTransfer]
  split
  · assumption
  · rfl

theorem complete_pending {a : IMTransfer} (h : a.transferred = true → a.pending = false) :
    a.completeIMTransfer.pending = false := by
  rw [IMTransfer.completeIMTransfer]
  split
  · rename_i ht
    exact h ht
  · rfl

/-! ## Steps of a call -/

section Call

variable {w w' : TransferWorld} {i : Nat} {d : Distributed}

theorem transferInv_reserve (h : TransferInv w) (hi : w.calls[i]? = some .reserve)
    (hs : advanceTransfer w i d .reserve = some w') : TransferInv w' := by
  rw [advanceTransfer] at hs
  cases hres : w.source.reserveIMTransfer with
  | none =>
    rw [hres] at hs
    cases hs
    have hact : active { w with calls := w.calls.set i .returned } = active w := by
      obtain ⟨before, after, hold, hnew⟩ := filter_set TransferCall.holds hi
      rw [active, active, hold, hnew]
      rfl
    exact ⟨h.nonzero, h.done, fun ht => (h.shape ht).congr hact rfl rfl rfl⟩
  | some s =>
    rw [hres] at hs
    cases hs
    obtain ⟨hfree, hnot, rfl⟩ := reserve_eq_some hres
    refine ⟨h.nonzero, fun ht => absurd (hnot.symm.trans ht) (by simp), fun ht => ?_⟩
    cases h.shape hnot with
    | idle ha hp hto hrun =>
      exact .starting .distribute (Or.inl rfl) (filter_set_of_eq_nil hi ha .distribute) rfl hto hrun
    | starting c hc ha hp hto hrun => exact absurd (hfree.symm.trans hp) (by simp)
    | recording b ha hp hto hrun => exact absurd (hfree.symm.trans hp) (by simp)
    | waiting b ha hp hto hrun => exact absurd (hfree.symm.trans hp) (by simp)

theorem shape_of_active {c : TransferCall} (h : Shape w) (hi : w.calls[i]? = some c)
    (hc : c.holds = true) :
    active w = [c] ∧ w.source.pending = true ∧ w.source.toId = 0
      ∧ ((c = .distribute ∨ c = .release) ∧ runningIds w = []
        ∨ ∃ b, c = .record b ∧ runningIds w = [b]) := by
  have hmem : c ∈ active w := List.mem_filter.mpr ⟨List.mem_of_getElem? hi, hc⟩
  cases h with
  | idle ha hp hto hrun => exact absurd (ha ▸ hmem) (by simp)
  | starting c' hc' ha hp hto hrun =>
    grind
  | recording b ha hp hto hrun =>
    grind
  | waiting b ha hp hto hrun => exact absurd (ha ▸ hmem) (by simp)

theorem active_set {c : TransferCall} (hi : w.calls[i]? = some c)
    (hc : c.holds = true) (ha : active w = [c]) (c' : TransferCall) :
    (w.calls.set i c').filter TransferCall.holds = if c'.holds then [c'] else [] :=
  (filter_set_of_eq_singleton hi hc ⟨c, ha⟩ c').2

theorem transferInv_distribute (h : TransferInv w) (hi : w.calls[i]? = some .distribute)
    (hbar : ∀ b, d ≠ .barred b) (hs : advanceTransfer w i d .distribute = some w') :
    TransferInv w' := by
  cases d with
  | failed =>
    cases hs
    refine ⟨h.nonzero, h.done, fun ht => ?_⟩
    obtain ⟨ha, hp, hto, hrest⟩ := shape_of_active (h.shape ht) hi rfl
    rcases hrest with ⟨-, hrun⟩ | ⟨b, hb, -⟩
    · exact .starting .release (Or.inr rfl) (active_set hi rfl ha .release) hp hto hrun
    · exact absurd hb (by simp)
  | barred b => exact absurd rfl (hbar b)
  | started b =>
    simp only [advanceTransfer] at hs
    split at hs
    · rename_i hnew
      rw [newTarget, Bool.and_eq_true, decide_eq_true_eq] at hnew
      cases hs
      refine ⟨fun t ht => ?_, h.done, fun ht => ?_⟩
      · grind [cases TransferInv]
      · obtain ⟨ha, hp, hto, hrest⟩ := shape_of_active (h.shape ht) hi rfl
        rcases hrest with ⟨-, hrun⟩ | ⟨b', hb', -⟩
        · refine .recording b (active_set hi rfl ha (.record b)) hp hto ?_
          simpa [runningIds] using hrun
        · exact absurd hb' (by simp)
    · exact absurd hs (by simp)

theorem transferInv_record {b : Int} (h : TransferInv w) (hi : w.calls[i]? = some (.record b))
    (hs : advanceTransfer w i d (.record b) = some w') : TransferInv w' := by
  cases hs
  refine ⟨h.nonzero, h.done, fun ht => ?_⟩
  obtain ⟨ha, hp, -, hrest⟩ := shape_of_active (h.shape ht) hi rfl
  rcases hrest with ⟨hc, -⟩ | ⟨b', hb', hrun⟩
  · rcases hc with hc | hc
    · exact absurd hc (by simp)
    · exact absurd hc (by simp)
  · injection hb' with hb'
    subst hb'
    exact .waiting b (active_set hi rfl ha .returned) hp rfl hrun

theorem transferInv_release (h : TransferInv w) (hi : w.calls[i]? = some .release)
    (hs : advanceTransfer w i d .release = some w') : TransferInv w' := by
  cases hs
  refine ⟨h.nonzero, fun ht => ?_, fun ht => ?_⟩
  · exact release_pending 0 (h.done ((release_transferred w.source 0).symm.trans ht))
  · obtain ⟨ha, hp, hto, hrest⟩ :=
      shape_of_active (h.shape ((release_transferred w.source 0).symm.trans ht)) hi rfl
    rcases hrest with ⟨-, hrun⟩ | ⟨b, hb, -⟩
    · refine .idle (active_set hi rfl ha .returned) ?_ ?_ hrun
      · simp [IMTransfer.releaseIMTransfer, hto]
      · simp [IMTransfer.releaseIMTransfer, hto]
    · exact absurd hb (by simp)

end Call

/-! ## Runs -/

theorem transferInv_runEnds {w : TransferWorld} {b : Int} (h : TransferInv w)
    (hrunning : isRunning w b = true)
    (hok : w.source.transferred = true ∨ (w.cached = true ∧ w.source.toId = b)) :
    TransferInv { w with
      targets := w.targets.map fun t => if t.id = b then { t with run := .released } else t
      source := if w.cached then w.source.releaseIMTransfer b else w.source } := by
  have hmem := isRunning_iff.mp hrunning
  refine ⟨fun t ht => ?_, fun ht => ?_, fun ht => ?_⟩
  · grind [cases TransferInv]
  · grind [cases TransferInv, release_pending, release_transferred]
  · have hnot : w.source.transferred = false := by
      grind [release_transferred]
    rcases hok with htr | ⟨hc, hto⟩
    · exact absurd (hnot.symm.trans htr) (by simp)
    · cases h.shape hnot with
      | idle ha hp hto' hrun => exact absurd (hrun ▸ hmem) (by simp)
      | starting c hc' ha hp hto' hrun => exact absurd (hrun ▸ hmem) (by simp)
      | recording b' ha hp hto' hrun =>
        -- The source names no target yet, and no target has the id zero.
        obtain ⟨t, ht', hid, -⟩ := mem_runningIds.mp hmem
        exact absurd (hid.trans (hto.symm.trans hto')) (h.nonzero t ht')
      | waiting b' ha hp hto' hrun =>
        have hb : b = b' := hto.symm.trans hto'
        subst hb
        refine .idle ha ?_ ?_ ?_
        · simp [hc, IMTransfer.releaseIMTransfer, hto]
        · simp [hc, IMTransfer.releaseIMTransfer, hto]
        · refine (runningIds_release w.targets b).trans ?_
          rw [show (w.targets.filter fun t => t.run = .running).map Target.id = [b] from hrun]
          simp

theorem transferInv_step (w : TransferWorld) (l : TransferLabel) (w' : TransferWorld)
    (h : TransferInv w) (hok : Orderly w l) (hs : transferStep w l = some w') :
    TransferInv w' := by
  cases l with
  | transferIM =>
    simp only [transferStep] at hs
    split at hs
    · cases hs
      -- A call that has not reserved yet holds nothing.
      have hact : active { w with calls := w.calls ++ [.reserve] } = active w := by
        simp [active, TransferCall.holds]
      refine ⟨h.nonzero, h.done, fun ht => ?_⟩
      exact (h.shape ht).congr hact rfl rfl rfl
    · exact absurd hs (by simp)
  | call i d =>
    obtain ⟨c, hi, hs⟩ := Option.bind_eq_some_iff.mp hs
    cases c with
    | reserve => exact transferInv_reserve h hi hs
    | distribute =>
      refine transferInv_distribute h hi (fun b hb => ?_) hs
      subst hb
      exact hok
    | record b => exact transferInv_record h hi hs
    | release => exact transferInv_release h hi hs
    | returned => exact absurd hs (by simp [advanceTransfer])
  | complete b =>
    simp only [transferStep] at hs
    split at hs
    · cases hs
      split
      · refine ⟨h.nonzero, fun _ => complete_pending h.done, fun ht => ?_⟩
        exact absurd ((complete_transferred w.source).symm.trans ht) (by simp)
      · exact h
    · exact absurd hs (by simp)
  | runEnds b =>
    simp only [transferStep] at hs
    split at hs
    · rename_i hrunning
      cases hs
      exact transferInv_runEnds h hrunning hok
    · exact absurd hs (by simp)
  | sourceLeaves =>
    cases hs
    exact ⟨h.nonzero, h.done, fun ht => (h.shape ht).congr rfl rfl rfl rfl⟩

/-- In a state of the invariant the reservation is held for a target still to release it. -/
theorem TransferInv.notLockedOut {w : TransferWorld} (h : TransferInv w) : NotLockedOut w := by
  intro hcalls hpending
  have hact : active w = [] := by
    refine List.filter_eq_nil_iff.mpr fun c hc => ?_
    have hret : c = .returned := by
      have hall := List.any_eq_false.mp hcalls c hc
      simpa using hall
    rw [hret]
    exact Bool.false_ne_true
  have hnot : w.source.transferred = false := by
    grind [cases TransferInv]
  cases h.shape hnot with
  | idle ha hp hto hrun => exact absurd (hp.symm.trans hpending) (by simp)
  | starting c hc ha hp hto hrun => exact absurd (ha.symm.trans hact) (by simp)
  | recording b ha hp hto hrun => exact absurd (ha.symm.trans hact) (by simp)
  | waiting b ha hp hto hrun =>
    have hmem : b ∈ runningIds w := hrun ▸ List.mem_singleton.mpr rfl
    obtain ⟨t, ht, hid, hr⟩ := mem_runningIds.mp hmem
    exact ⟨t, ht, hid.trans hto.symm, hr⟩

/-- **A conversation is never locked out of transfer** along orderly runs: a
reservation that no call in progress holds names a target whose release is to come. -/
theorem transfer_never_locked_out (labels : List TransferLabel) (w : TransferWorld)
    (horderly : Along transferStep Orderly TransferWorld.start labels)
    (hrun : run transferStep TransferWorld.start labels = some w) : NotLockedOut w :=
  (run_invariant transferInv_step labels transferInv_start horderly hrun).notLockedOut

/-- A transfer that fails, one whose target ends unanswered, and one under way. -/
def retries : List TransferLabel :=
  [.transferIM, .call 0 .failed, .call 0 .failed, .call 0 .failed,
   .transferIM, .call 1 .failed, .call 1 (.started 5), .call 1 .failed, .runEnds 5,
   .transferIM, .call 2 .failed, .call 2 (.started 6), .call 2 .failed]

theorem transfer_never_locked_out_retries :
    ∃ w, run transferStep TransferWorld.start retries = some w
      ∧ w.source = ⟨true, 6, false⟩ ∧ transferring w = false ∧ NotLockedOut w :=
  ⟨_, rfl, rfl, rfl, transfer_never_locked_out retries _ (by decide) rfl⟩

/-- The two ways out of the condition. A barred target is recorded and never releases;
and after a target that ends before it is recorded, a second transfer that fails does
not give back its own reservation. -/
theorem transfer_locked_out :
    (∃ w, run transferStep TransferWorld.start
        [.transferIM, .call 0 .failed, .call 0 (.barred 5), .call 0 .failed] = some w
      ∧ ¬ NotLockedOut w)
    ∧ ∃ w, run transferStep TransferWorld.start
        [.transferIM, .call 0 .failed, .call 0 (.started 5), .runEnds 5, .call 0 .failed,
         .transferIM, .call 1 .failed, .call 1 .failed, .call 1 .failed] = some w
      ∧ ¬ NotLockedOut w :=
  ⟨⟨_, rfl, by decide⟩, ⟨_, rfl, by decide⟩⟩

end CallCenter.Queue
