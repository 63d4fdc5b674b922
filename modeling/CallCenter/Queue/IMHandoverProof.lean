import CallCenter.Queue.IMHandover
import CallCenter.Queue.IMTransferProof

/-!
# A completed handover

If nothing ends A's interaction before B has completed the transfer, A is marked
transferred whenever it leaves its loop. The invariant is that fact together with its
two sources: A's session is only done, and B is only past its completion, in a state
where A is transferred. The branch of `finalizeAttempt` that cancels the target is
then never reached.
-/

namespace CallCenter.Queue

open IM Lib

/-- **The condition.** Until A is marked transferred, the event loop hands A's session no
event that ends it, the agent of A does not close the conversation, and nobody is idle
for too long. -/
def completedFirst (w : HandoverWorld) : HandoverLabel → Bool
  | .handle _ =>
    match w.handling with
    | some (msg, .a :: _) => !endsSession w.sessA msg || w.source.transferred
    | _ => true
  | .agentCloses | .idle _ => w.source.transferred
  | _ => true

def SourceOk (w : HandoverWorld) : SourcePc → Prop
  | .interacting => w.cached = true
  | .checkTransferred => w.cached = true ∧ w.source.transferred = true
  | .checkPending | .cancelTarget _ => False
  | .reporting => w.source.transferred = true ∧ w.result = some attemptResultTransfer
  | .finalised => w.source.transferred = true ∧ w.result = some attemptResultTransfer

/-- The source ends only after the transfer, and cancels no target. -/
structure HandoverInv (w : HandoverWorld) : Prop where
  done : w.sessA.done = true → w.source.transferred = true
  completed : w.pcB = .bridged ∨ w.pcB = .ended → w.source.transferred = true
  source : SourceOk w w.pcA
  cancels : w.cancels = []

theorem handoverInv_start (targetId : Int) {sessA : Session} (sessB : Session)
    (backlog : List IMMessage) (event : IMMessage) (hlive : sessA.done = false) :
    HandoverInv (HandoverWorld.start targetId sessA sessB backlog event) where
  done := fun h => absurd (hlive.symm.trans h) (by simp)
  completed := fun h => by
    rcases h with h | h
    · exact absurd h (by simp [HandoverWorld.start])
    · exact absurd h (by simp [HandoverWorld.start])
  source := rfl
  cancels := rfl

variable {w w' : HandoverWorld}

theorem SourceOk.mono {pc : SourcePc} (h : SourceOk w pc) (hcached : w'.cached = w.cached)
    (hresult : w'.result = w.result)
    (ht : w.source.transferred = true → w'.source.transferred = true) : SourceOk w' pc := by
  cases pc with
  | interacting => exact hcached.trans h
  | checkTransferred => exact ⟨hcached.trans h.1, ht h.2⟩
  | checkPending => exact h
  | cancelTarget toId => exact h
  | reporting => exact ⟨ht h.1, hresult.trans h.2⟩
  | finalised => exact ⟨ht h.1, hresult.trans h.2⟩

theorem SourceOk.cached {pc : SourcePc} (h : SourceOk w pc) :
    w.cached = true ∨ w.source.transferred = true := by
  cases pc with
  | interacting => exact Or.inl h
  | checkTransferred => exact Or.inr h.2
  | checkPending => exact h.elim
  | cancelTarget toId => exact h.elim
  | reporting => exact Or.inr h.1
  | finalised => exact Or.inr h.1

theorem handoverInv_handle {now : Int} (h : HandoverInv w)
    (hok : completedFirst w (.handle now) = true) (hs : handoverStep w (.handle now) = some w') :
    HandoverInv w' := by
  simp only [handoverStep] at hs
  simp only [completedFirst] at hok
  split at hs
  · exact absurd hs (by simp)
  · cases hs
    exact ⟨h.done, h.completed, h.source.mono rfl rfl id, h.cancels⟩
  · rename_i msg legs hat
    rw [hat] at hok
    cases hs
    refine ⟨fun hdone => ?_, h.completed, h.source.mono rfl rfl id, h.cancels⟩
    grind [cases HandoverInv, handleEvent_done]
  · cases hs
    exact ⟨h.done, h.completed, h.source.mono rfl rfl id, h.cancels⟩

theorem handoverInv_finalize {leaves : Bool} (h : HandoverInv w)
    (hs : finalizeStep w leaves w.pcA = some w') : HandoverInv w' := by
  have hsource := h.source
  cases hpc : w.pcA with
  | interacting => rw [hpc] at hs; exact absurd hs (by simp [finalizeStep])
  | checkTransferred =>
    rw [hpc] at hs hsource
    rw [finalizeStep, if_pos hsource.2] at hs
    cases hs
    exact ⟨h.done, h.completed, ⟨hsource.2, rfl⟩, h.cancels⟩
  | checkPending => rw [hpc] at hsource; exact hsource.elim
  | cancelTarget toId => rw [hpc] at hsource; exact hsource.elim
  | reporting =>
    rw [hpc] at hs hsource
    cases hs
    exact ⟨h.done, h.completed, hsource, h.cancels⟩
  | finalised => rw [hpc] at hs; exact absurd hs (by simp [finalizeStep])

theorem handoverInv_step (w : HandoverWorld) (l : HandoverLabel) (w' : HandoverWorld)
    (h : HandoverInv w) (hok : completedFirst w l = true) (hs : handoverStep w l = some w') :
    HandoverInv w' := by
  -- A leaves its loop for `finalizeAttempt` in a state where it is transferred.
  have hleave : ∀ r, w.pcA = .interacting → w.source.transferred = true →
      HandoverInv { w with result := r, pcA := .checkTransferred } := by
    intro r hpc ht
    have hcached := h.source
    rw [hpc] at hcached
    exact ⟨h.done, h.completed, ⟨hcached, ht⟩, h.cancels⟩
  cases l with
  | reply memberId userId =>
    obtain ⟨-, rfl⟩ := of_guard hs
    refine ⟨h.done, fun hpc => ?_, h.source.mono rfl rfl id, h.cancels⟩
    rcases hpc with hpc | hpc
    · exact absurd hpc (by simp)
    · exact absurd hpc (by simp)
  | complete =>
    obtain ⟨-, rfl⟩ := of_guard hs
    have ht : (if w.cached then w.source.completeIMTransfer else w.source).transferred
        = true := by
      rcases h.source.cached with hc | ht
      all_goals grind [complete_transferred]
    exact ⟨fun _ => ht, fun _ => ht, h.source.mono rfl rfl fun _ => ht, h.cancels⟩
  | targetEnds =>
    obtain ⟨hpc, rfl⟩ := of_guard hs
    have ht : (if w.cached then w.source.releaseIMTransfer w.targetId
        else w.source).transferred = true := by
      grind [cases HandoverWorld, cases HandoverInv, release_transferred]
    exact ⟨fun _ => ht, fun _ => ht, h.source.mono rfl rfl fun _ => ht, h.cancels⟩
  | emit msg =>
    cases hs
    exact ⟨h.done, h.completed, h.source.mono rfl rfl id, h.cancels⟩
  | receive =>
    simp only [handoverStep] at hs
    split at hs
    · cases hs
      exact ⟨h.done, h.completed, h.source.mono rfl rfl id, h.cancels⟩
    · exact absurd hs (by simp)
  | handle now => exact handoverInv_handle h hok hs
  | seesTransferred =>
    obtain ⟨hpc, rfl⟩ := of_guard hs
    exact hleave w.result hpc.1 hpc.2
  | seesDone =>
    obtain ⟨hpc, rfl⟩ := of_guard hs
    exact hleave w.result hpc.1 (h.done hpc.2)
  | agentCloses =>
    obtain ⟨hpc, rfl⟩ := of_guard hs
    exact hleave w.result hpc hok
  | idle t =>
    obtain ⟨hpc, rfl⟩ := of_guard hs
    exact hleave _ hpc hok
  | finalize leaves => exact handoverInv_finalize h hs

/-! ## A can always be finalised -/

def LeadsTo (w w' : HandoverWorld) : Prop :=
  ∃ labels, Along handoverStep (fun w l => completedFirst w l) w labels
    ∧ run handoverStep w labels = some w'

theorem LeadsTo.trans {w₁ w₂ w₃ : HandoverWorld} (h₁ : LeadsTo w₁ w₂) (h₂ : LeadsTo w₂ w₃) :
    LeadsTo w₁ w₃ := by
  obtain ⟨as, ha, hrun⟩ := h₁
  obtain ⟨bs, hb, hrun'⟩ := h₂
  refine ⟨as ++ bs, along_append ha hrun hb, ?_⟩
  rw [run_append, hrun]
  exact hrun'

theorem LeadsTo.step {l : HandoverLabel} (hok : completedFirst w l = true)
    (hs : handoverStep w l = some w') : LeadsTo w w' :=
  ⟨[l], ⟨hok, fun _ _ => trivial⟩, by rw [run, hs]; rfl⟩

theorem HandoverInv.leadsTo (h : HandoverInv w) (hto : LeadsTo w w') :
    HandoverInv w' := by
  obtain ⟨labels, hal, hrun⟩ := hto
  exact run_invariant handoverInv_step labels h hal hrun

theorem completing_completes (hpc : w.pcB = .completing) (hcached : w.cached = true) :
    ∃ w', LeadsTo w w' ∧ w'.source.transferred = true := by
  refine ⟨_, .step (l := .complete) rfl (if_pos hpc), ?_⟩
  grind [complete_transferred]

theorem target_completes (h : HandoverInv w) :
    ∃ w', LeadsTo w w' ∧ w'.source.transferred = true := by
  by_cases ht : w.source.transferred = true
  · exact ⟨w, ⟨[], trivial, rfl⟩, ht⟩
  · have hcached := h.source.cached.resolve_right ht
    cases hpc : w.pcB with
    | awaitingReply =>
      have hreply : LeadsTo w { w with sessB := w.sessB.setAgent "" "", pcB := .completing } :=
        .step (l := .reply "" "") rfl (if_pos hpc)
      obtain ⟨w', hto, ht'⟩ := completing_completes (w := { w with
        sessB := w.sessB.setAgent "" "", pcB := .completing }) rfl hcached
      exact ⟨w', hreply.trans hto, ht'⟩
    | completing => exact completing_completes hpc hcached
    | bridged => exact absurd (h.completed (Or.inl hpc)) ht
    | ended => exact absurd (h.completed (Or.inr hpc)) ht

theorem reporting_finalises (hpc : w.pcA = .reporting) :
    ∃ w', LeadsTo w w' ∧ w'.pcA = .finalised := by
  refine ⟨{ w with cached := w.cached && !true, pcA := .finalised }, ?_, rfl⟩
  refine .step (l := .finalize true) rfl ?_
  rw [handoverStep, hpc]
  rfl

theorem check_finalises (hpc : w.pcA = .checkTransferred) (ht : w.source.transferred = true) :
    ∃ w', LeadsTo w w' ∧ w'.pcA = .finalised := by
  have hcheck : LeadsTo w { w with result := some attemptResultTransfer, pcA := .reporting } := by
    refine .step (l := .finalize true) rfl ?_
    rw [handoverStep, hpc]
    exact if_pos ht
  obtain ⟨w', hto, hpc'⟩ := reporting_finalises (w := { w with
    result := some attemptResultTransfer, pcA := .reporting }) rfl
  exact ⟨w', hcheck.trans hto, hpc'⟩

theorem source_finalises (h : HandoverInv w) (ht : w.source.transferred = true) :
    ∃ w', LeadsTo w w' ∧ w'.pcA = .finalised := by
  have hsource := h.source
  cases hpc : w.pcA with
  | interacting =>
    have hsees : LeadsTo w { w with pcA := .checkTransferred } :=
      .step (l := .seesTransferred) rfl (if_pos ⟨hpc, ht⟩)
    obtain ⟨w', hto, hpc'⟩ := check_finalises (w := { w with pcA := .checkTransferred }) rfl ht
    exact ⟨w', hsees.trans hto, hpc'⟩
  | checkTransferred => exact check_finalises hpc ht
  | checkPending => rw [hpc] at hsource; exact hsource.elim
  | cancelTarget toId => rw [hpc] at hsource; exact hsource.elim
  | reporting => exact reporting_finalises hpc
  | finalised => exact ⟨w, ⟨[], trivial, rfl⟩, hpc⟩

theorem HandoverInv.result (h : HandoverInv w) (hpc : w.pcA = .finalised) :
    w.result = some attemptResultTransfer := by
  have hsource := h.source
  rw [hpc] at hsource
  exact hsource.2

/-- **A handover that is completed first succeeds.** Whatever the interleaving, the
target is not cancelled, a finalised source has the result of a transfer, and a source
that is not finalised yet can still be. -/
theorem handover_succeeds (targetId : Int) (sessA sessB : Session) (backlog : List IMMessage)
    (event : IMMessage) (hlive : sessA.done = false) (labels : List HandoverLabel)
    (w : HandoverWorld)
    (hfirst : Along handoverStep (fun w l => completedFirst w l)
      (HandoverWorld.start targetId sessA sessB backlog event) labels)
    (hrun : run handoverStep (HandoverWorld.start targetId sessA sessB backlog event) labels
      = some w) :
    targetId ∉ w.cancels
      ∧ (w.pcA = .finalised → w.result = some attemptResultTransfer)
      ∧ ∃ w', LeadsTo w w' ∧ w'.pcA = .finalised ∧ w'.result = some attemptResultTransfer := by
  have hinv := run_invariant handoverInv_step labels
    (handoverInv_start targetId sessB backlog event hlive) hfirst hrun
  refine ⟨by rw [hinv.cancels]; exact List.not_mem_nil, hinv.result, ?_⟩
  obtain ⟨w₁, hto₁, ht₁⟩ := target_completes hinv
  have hinv₁ := hinv.leadsTo hto₁
  obtain ⟨w₂, hto₂, hpc₂⟩ := source_finalises hinv₁ ht₁
  exact ⟨w₂, hto₁.trans hto₂, hpc₂, (hinv₁.leadsTo hto₂).result hpc₂⟩

def sampleSession (tagId : Int) (agentMemberId : String) : Session where
  tagId := tagId
  threadId := "t"
  agentMemberId := agentMemberId
  clientMemberId := "c"
  subMember := "s"
  userId := "u"
  lastMessageAt := 0
  lastMessageAtFromMember := 0
  lastMessageAtFromAgent := 0
  botActive := false
  done := false

def transferEvent : IMMessage := ⟨"t", "", some ⟨"transfer", ⟨"", "m"⟩⟩⟩

/-- The reply comes first: B completes the transfer, then the event ends A's session. -/
theorem handover_succeeds_reply_first :
    ∃ w, run handoverStep
        (HandoverWorld.start 2 (sampleSession 1 "m") (sampleSession 2 "") [] transferEvent)
        [.reply "n" "v", .complete, .receive, .handle 5, .seesDone, .finalize true,
          .finalize true] = some w
      ∧ w.sessA.done = true ∧ w.pcA = .finalised
      ∧ 2 ∉ w.cancels ∧ (w.pcA = .finalised → w.result = some attemptResultTransfer)
      ∧ ∃ w', LeadsTo w w' ∧ w'.pcA = .finalised ∧ w'.result = some attemptResultTransfer :=
  ⟨_, rfl, by decide, rfl,
    handover_succeeds 2 (sampleSession 1 "m") (sampleSession 2 "") [] transferEvent rfl
      [.reply "n" "v", .complete, .receive, .handle 5, .seesDone, .finalize true,
        .finalize true] _ (by decide) rfl⟩

/-- The event comes first: it ends A's session through the agent it names, and A cancels
the target that has taken its conversation over. -/
theorem handover_cancels_target :
    ∃ w, run handoverStep
        (HandoverWorld.start 2 (sampleSession 1 "m") (sampleSession 2 "") [] transferEvent)
        [.receive, .handle 5, .seesDone, .finalize true, .finalize true, .finalize true,
          .reply "n" "v", .finalize true, .complete] = some w
      ∧ 2 ∈ w.cancels ∧ w.pcA = .finalised ∧ w.result ≠ some attemptResultTransfer :=
  ⟨_, rfl, by decide, rfl, by decide⟩

end CallCenter.Queue
