import CallCenter.Queue.Leaving
import CallCenter.Utils.LruProof

/-!
# Leaving happens once, while its check and its removal exclude each other

`LeavingMember` decides whether to run by looking the attempt up in the cache, and takes it out only
later. Two calls can both look before either takes it out; then the hook, the removal and `Done` run
twice (`leaving_twice`).

A thread is *inside* after its check and *leaving* after its hook, until it removes the attempt. If
no check is made while another thread is inside or leaving with the same attempt, then at most one
thread ever gets there. The count of threads by phase carries the argument.
-/

namespace CallCenter.Queue

open Lib Utils

inductive Phase where
  | outside | creating | inside | leaving | done
  deriving DecidableEq

def Pc.phase : Pc → Phase
  | .createGet | .createAdd | .createWgAdd => .creating
  | .flush | .draftResult | .hook => .inside
  | .close | .remove => .leaving
  | .wgDone => .done
  | _ => .outside

def World.count (w : World) (ph : Phase) (id : Int) : Nat :=
  w.threads.countP fun t => t.attempt = id ∧ t.pc.phase = ph

/-- **The condition.** When a `LeavingMember` makes its cache check, no other one is
between its own check and its removal of the same attempt. -/
def Exclusive (w : World) : Label → Prop
  | .thread i _ => ∀ t ∈ w.threads[i]?, t.pc = .check →
      ∀ t' ∈ w.threads, t'.attempt = t.attempt → t'.pc.phase ≠ .inside ∧ t'.pc.phase ≠ .leaving
  | _ => True

instance (w : World) (l : Label) : Decidable (Exclusive w l) := by
  unfold Exclusive
  split <;> infer_instance

/-! ## Counting threads -/

section Counting

variable {w : World} {i : Nat} {t : Thread}

theorem count_set {w' : World} {t' : Thread} (hi : w.threads[i]? = some t)
    (hset : w'.threads = w.threads.set i t')
    (hat : t'.attempt = t.attempt) (ph : Phase) (id : Int) :
    w'.count ph id + (if t.attempt = id ∧ t.pc.phase = ph then 1 else 0)
      = w.count ph id + if t.attempt = id ∧ t'.pc.phase = ph then 1 else 0 := by
  grind [World.count]

theorem count_move (w' : World) (t' : Thread) (ph₀ ph₁ : Phase) (hi : w.threads[i]? = some t)
    (hset : w'.threads = w.threads.set i t') (hat : t'.attempt = t.attempt)
    (h₀ : t.pc.phase = ph₀) (h₁ : t'.pc.phase = ph₁) (hne : ph₀ ≠ ph₁) :
    (∀ id, w'.count ph₀ id + (if t.attempt = id then 1 else 0) = w.count ph₀ id)
      ∧ (∀ id, w'.count ph₁ id = w.count ph₁ id + if t.attempt = id then 1 else 0)
      ∧ ∀ ph id, ph ≠ ph₀ → ph ≠ ph₁ → w'.count ph id = w.count ph id := by
  grind [count_set]

theorem count_spawn (w' : World) (hspawn : w'.threads = w.threads ++ [t]) (ph : Phase)
    (id : Int) :
    w'.count ph id = w.count ph id + if t.attempt = id ∧ t.pc.phase = ph then 1 else 0 := by
  rw [World.count, World.count, hspawn, List.countP_append, List.countP_singleton]
  simp only [decide_eq_true_eq]

theorem count_pos (hi : w.threads[i]? = some t) : 0 < w.count t.pc.phase t.attempt :=
  List.countP_pos_iff.mpr ⟨t, List.mem_of_getElem? hi, by simp⟩

end Counting

/-! ## The invariant -/

/-- Each attempt is created, hooked, removed and left at most once, in this order. -/
structure Inv (w : World) : Prop where
  cache : ∃ (n : Nat) (r : RefCache Int Int n),
    Refines w.membersCache 0 r ∧ ∀ i ∈ r.items, i.key ∉ w.removed
  issued : w.issued.Nodup
  creating : ∀ id, w.count .creating id + w.created.count id ≤ w.issued.count id
  /-- Only a created attempt has a queue, and so only a created one gets past its hook. -/
  queue : ∀ id, (w.attempts id).queue.isSome → id ∈ w.created
  hookedCreated : ∀ id ∈ w.hooked, id ∈ w.created
  once : ∀ id, w.count .inside id + w.count .leaving id + w.removed.count id ≤ 1
  hooked : ∀ id, w.hooked.count id = w.count .leaving id + w.removed.count id
  left : ∀ id, w.removed.count id = w.count .done id + w.left.count id
  balance : w.waitGroup = w.created.length - w.left.length

theorem inv_start (size : Nat) (attempts : Int → LiveAttempt) :
    Inv (World.start size attempts) where
  cache := ⟨size, RefCache.empty, newLru_refines 0, by simp [RefCache.empty]⟩
  issued := List.nodup_nil
  creating := fun _ => Nat.le_refl _
  queue := by
    intro id h
    exact absurd h (by simp [World.start])
  hookedCreated := by
    intro id h
    exact absurd h (by simp [World.start])
  once := fun _ => Nat.zero_le _
  hooked := fun _ => rfl
  left := fun _ => rfl
  balance := rfl

theorem Inv.not_removed_of_creating {w : World} (h : Inv w) {id : Int}
    (hc : 0 < w.count .creating id) : id ∉ w.removed := by
  intro hr
  have hissued := List.nodup_iff_count_le_one.mp h.issued id
  have hcreated : id ∉ w.created := by
    intro hm
    have := List.count_pos_iff.mpr hm
    have := h.creating id
    omega
  have hhooked : w.hooked.count id = 0 :=
    List.count_eq_zero.mpr fun hm => hcreated (h.hookedCreated id hm)
  have := h.hooked id
  have := List.count_pos_iff.mpr hr
  omega

/-! ## Steps that change no count -/

/-- Everything the invariant speaks of, except the threads and the cache, is the
same in both worlds. -/
structure SameLedger (w w' : World) : Prop where
  waitGroup : w'.waitGroup = w.waitGroup
  issued : w'.issued = w.issued
  created : w'.created = w.created
  hooked : w'.hooked = w.hooked
  removed : w'.removed = w.removed
  left : w'.left = w.left
  queue : ∀ id, (w'.attempts id).queue = (w.attempts id).queue

def CacheRead (w w' : World) : Prop :=
  w'.membersCache = w.membersCache
    ∨ ∃ now k, w'.membersCache = (w.membersCache.get now k).1

theorem Inv.cache_read {w w' : World} (h : Inv w) (hc : CacheRead w w') :
    ∃ (n : Nat) (r : RefCache Int Int n),
      Refines w'.membersCache 0 r ∧ ∀ i ∈ r.items, i.key ∉ w.removed := by
  obtain ⟨n, r, href, hitems⟩ := h.cache
  rcases hc with hc | ⟨now, k, hc⟩
  · exact ⟨n, r, hc ▸ href, hitems⟩
  · exact ⟨n, (r.get now k).1, hc ▸ (href.get now k).2,
      fun i hi => hitems i (RefCache.mem_get hi)⟩

theorem Inv.of_counts {w w' : World} (h : Inv w) (hs : SameLedger w w') (hc : CacheRead w w')
    (hcount : ∀ ph id, ph ≠ .outside → w'.count ph id = w.count ph id) : Inv w' where
  cache := by
    rw [hs.removed]
    exact h.cache_read hc
  issued := hs.issued ▸ h.issued
  creating := by
    intro id
    rw [hs.created, hs.issued, hcount .creating id nofun]
    exact h.creating id
  queue := by
    intro id hq
    rw [hs.queue] at hq
    rw [hs.created]
    exact h.queue id hq
  hookedCreated := by
    rw [hs.hooked, hs.created]
    exact h.hookedCreated
  once := by
    intro id
    rw [hs.removed, hcount .inside id nofun, hcount .leaving id nofun]
    exact h.once id
  hooked := by
    intro id
    rw [hs.hooked, hs.removed, hcount .leaving id nofun]
    exact h.hooked id
  left := by
    intro id
    rw [hs.removed, hs.left, hcount .done id nofun]
    exact h.left id
  balance := by
    rw [hs.waitGroup, hs.created, hs.left]
    exact h.balance

theorem Inv.quiet {w w' : World} {i : Nat} {t t' : Thread} (h : Inv w) (hs : SameLedger w w')
    (hc : CacheRead w w') (hi : w.threads[i]? = some t)
    (hset : w'.threads = w.threads.set i t') (hat : t'.attempt = t.attempt)
    (hph : t'.pc.phase = t.pc.phase) : Inv w' := by
  refine h.of_counts hs hc fun ph id _ => ?_
  have hcount := count_set hi hset hat ph id
  rw [hph] at hcount
  omega

theorem Inv.crash {w w' : World} (h : Inv w) (hs : SameLedger w w') (hc : CacheRead w w')
    (hset : w'.threads = w.threads) : Inv w' := by
  refine h.of_counts hs hc fun ph id _ => ?_
  rw [World.count, World.count, hset]

/-! ## The steps that do -/

section Steps

variable {w : World} {i : Nat} {t : Thread}

theorem setAttempt_queue {id : Int} {a : LiveAttempt} (ha : a.queue = (w.attempts id).queue)
    (j : Int) : ((w.setAttempt id a).attempts j).queue = (w.attempts j).queue := by
  by_cases hj : j = id
  · subst hj
    simp [World.setAttempt, ha]
  · simp [World.setAttempt, hj]

theorem inv_createAdd (h : Inv w) (hi : w.threads[i]? = some t) (hpc : t.pc = .createAdd)
    (now : Int64) : Inv ({ w with
      membersCache := w.membersCache.addWithDefaultExpires now t.attempt t.attempt
      }.setThread i { t with pc := .createWgAdd }) := by
  have hquiet : Inv (w.setThread i { t with pc := .createWgAdd }) :=
    h.quiet ⟨rfl, rfl, rfl, rfl, rfl, rfl, fun _ => rfl⟩ (Or.inl rfl) hi rfl rfl (by rw [hpc]; rfl)
  obtain ⟨n, r, href, hitems⟩ := h.cache
  refine { hquiet with cache := ⟨n, _, href.add now t.attempt t.attempt _, ?_⟩ }
  intro j hj
  rcases RefCache.mem_add hj with rfl | hj
  · exact h.not_removed_of_creating (by simpa [hpc, Pc.phase] using count_pos hi)
  · exact hitems j hj

theorem inv_createWgAdd (h : Inv w) (hi : w.threads[i]? = some t) (hpc : t.pc = .createWgAdd) :
    Inv ({ w with
      waitGroup := w.waitGroup + 1, created := t.attempt :: w.created
      }.setThread i { t with pc := .finished }) := by
  obtain ⟨hfrom, -, hother⟩ := count_move ({ w with
    waitGroup := w.waitGroup + 1, created := t.attempt :: w.created
    }.setThread i { t with pc := .finished }) { t with pc := .finished } .creating .outside
    hi rfl rfl (by rw [hpc]; rfl) rfl nofun
  refine ⟨h.cache, h.issued, fun id => ?_, fun id hq => ?_, fun id hm => ?_, fun id => ?_,
    fun id => ?_, fun id => ?_, ?_⟩
  all_goals grind [cases Inv, World.setThread]

/-- The check is where the condition is needed: with nobody else inside or leaving,
and the attempt still in the cache, this thread is the first one in. -/
theorem inv_checkHit (h : Inv w) (hi : w.threads[i]? = some t) (hpc : t.pc = .check)
    (hex : ∀ t' ∈ w.threads, t'.attempt = t.attempt →
      t'.pc.phase ≠ .inside ∧ t'.pc.phase ≠ .leaving)
    {now : Int64} (hhit : w.cacheHit now t.attempt = true) {pc : Pc}
    (hph : pc.phase = .inside) :
    Inv ((w.cacheGet now t.attempt).setThread i { t with pc := pc }) := by
  obtain ⟨-, hto, hother⟩ := count_move
    ((w.cacheGet now t.attempt).setThread i { t with pc := pc })
    { t with pc := pc } .outside .inside hi rfl rfl (by rw [hpc]; rfl) hph nofun
  have hnone : ∀ ph, ph = .inside ∨ ph = .leaving → w.count ph t.attempt = 0 := by
    intro ph hph
    refine List.countP_eq_zero.mpr fun t' ht' => ?_
    grind
  have hkept : t.attempt ∉ w.removed := by
    obtain ⟨n, r, href, hitems⟩ := h.cache
    rw [World.cacheHit, (href.get now t.attempt).1] at hhit
    obtain ⟨j, hj, hkey⟩ := RefCache.mem_of_get_isSome hhit
    exact hkey ▸ hitems j hj
  refine ⟨h.cache_read (Or.inr ⟨now, t.attempt, rfl⟩), h.issued, fun id => ?_, h.queue,
    h.hookedCreated, fun id => ?_, fun id => ?_, fun id => ?_, h.balance⟩
  all_goals grind [cases Inv, World.cacheGet, World.setThread]

theorem inv_hook (h : Inv w) (hi : w.threads[i]? = some t) (hpc : t.pc = .hook)
    (hq : (w.attempts t.attempt).queue.isSome) {a : LiveAttempt}
    (ha : a.queue = (w.attempts t.attempt).queue) :
    Inv ({ w.setAttempt t.attempt a with hooked := t.attempt :: w.hooked }.setThread i
      { t with pc := .close }) := by
  obtain ⟨hfrom, hto, hother⟩ := count_move
    ({ w.setAttempt t.attempt a with hooked := t.attempt :: w.hooked }.setThread i
      { t with pc := .close })
    { t with pc := .close } .inside .leaving hi rfl rfl (by rw [hpc]; rfl) rfl nofun
  refine ⟨h.cache, h.issued, fun id => ?_, fun id hq' => ?_, fun id hm => ?_, fun id => ?_,
    fun id => ?_, fun id => ?_, h.balance⟩
  · rw [hother .creating id nofun nofun]
    exact h.creating id
  · refine h.queue id ?_
    rw [← setAttempt_queue ha id]
    exact hq'
  all_goals grind [cases Inv, World.setAttempt, World.setThread]

theorem inv_remove (h : Inv w) (hi : w.threads[i]? = some t) (hpc : t.pc = .remove) :
    Inv ({ w with
      membersCache := w.membersCache.remove t.attempt, removed := t.attempt :: w.removed
      }.setThread i { t with pc := .wgDone }) := by
  obtain ⟨hfrom, hto, hother⟩ := count_move ({ w with
      membersCache := w.membersCache.remove t.attempt, removed := t.attempt :: w.removed
      }.setThread i { t with pc := .wgDone })
    { t with pc := .wgDone } .leaving .done hi rfl rfl (by rw [hpc]; rfl) rfl nofun
  refine ⟨?_, h.issued, fun id => ?_, h.queue, h.hookedCreated, fun id => ?_, fun id => ?_,
    fun id => ?_, h.balance⟩
  · obtain ⟨n, r, href, hitems⟩ := h.cache
    refine ⟨n, r.remove t.attempt, href.remove t.attempt, fun j hj hm => ?_⟩
    obtain ⟨hj, hne⟩ := RefCache.mem_remove hj
    rcases List.mem_cons.mp hm with hm | hm
    · exact hne hm
    · exact hitems j hj hm
  all_goals grind [cases Inv, World.setThread]

theorem inv_wgDone (h : Inv w) (hi : w.threads[i]? = some t) (hpc : t.pc = .wgDone) (b : Bool) :
    Inv ({ w with
      waitGroup := w.waitGroup - 1, left := t.attempt :: w.left, crashed := b
      }.setThread i t.afterLeaving) := by
  have hafter : t.afterLeaving.pc.phase = .outside := by
    rw [Thread.afterLeaving]
    cases t.again <;> rfl
  obtain ⟨hfrom, -, hother⟩ := count_move ({ w with
      waitGroup := w.waitGroup - 1, left := t.attempt :: w.left, crashed := b
      }.setThread i t.afterLeaving)
    t.afterLeaving .done .outside hi rfl rfl (by rw [hpc]; rfl) hafter nofun
  refine ⟨h.cache, h.issued, fun id => ?_, h.queue, h.hookedCreated, fun id => ?_, fun id => ?_,
    fun id => ?_, ?_⟩
  all_goals grind [cases Inv, World.setThread]

/-! ### One step of a thread -/

theorem SameLedger.refl (w : World) : SameLedger w w :=
  ⟨rfl, rfl, rfl, rfl, rfl, rfl, fun _ => rfl⟩

theorem SameLedger.cacheGet (w : World) (now : Int64) (id : Int) :
    SameLedger w (w.cacheGet now id) :=
  ⟨rfl, rfl, rfl, rfl, rfl, rfl, fun _ => rfl⟩

theorem SameLedger.setAttempt {id : Int} {a : LiveAttempt}
    (ha : a.queue = (w.attempts id).queue) : SameLedger w (w.setAttempt id a) :=
  ⟨rfl, rfl, rfl, rfl, rfl, rfl, setAttempt_queue ha⟩

theorem Inv.move {w₁ : World} {t' : Thread} (h : Inv w) (hi : w.threads[i]? = some t)
    (hs : SameLedger w w₁) (hc : CacheRead w w₁) (hth : w₁.threads = w.threads)
    (hat : t'.attempt = t.attempt) (hph : t'.pc.phase = t.pc.phase) :
    Inv (w₁.setThread i t') := by
  refine h.quiet ⟨hs.waitGroup, hs.issued, hs.created, hs.hooked, hs.removed, hs.left, hs.queue⟩
    hc hi ?_ hat hph
  simp only [World.setThread, hth]

theorem inv_advance_outside {w' : World} {r : Reply} (h : Inv w) (hi : w.threads[i]? = some t)
    (hphase : t.pc.phase = .outside) (hcheck : t.pc ≠ .check)
    (hstep : advance w i t r = some w') : Inv w' := by
  have hsame := SameLedger.refl w
  have hgot := SameLedger.cacheGet w r.now t.attempt
  have hread : CacheRead w (w.cacheGet r.now t.attempt) := Or.inr ⟨r.now, t.attempt, rfl⟩
  cases hpc : t.pc with
  | setAttemptAbandoned =>
    simp only [advance, hpc] at hstep
    cases hstep
    exact h.move hi hsame (Or.inl rfl) rfl rfl (by rw [hpc]; rfl)
  | reportingGet system draft =>
    simp only [advance, hpc] at hstep
    split at hstep
    · split at hstep
      · cases hstep
        exact h.move hi hgot hread rfl rfl (by rw [hpc]; rfl)
      · cases hstep
        refine h.move hi ⟨rfl, rfl, rfl, rfl, rfl, rfl, setAttempt_queue rfl⟩ hread rfl rfl ?_
        rw [hpc]
        cases r.alt && !system <;> rfl
    · cases hstep
      exact h.move hi hgot hread rfl rfl (by rw [hpc]; rfl)
  | setChannelReporting =>
    simp only [advance, hpc] at hstep
    cases hstep
    refine h.move hi hsame (Or.inl rfl) rfl rfl ?_
    rw [hpc]
    cases r.ok <;> rfl
  | callbackReporting system =>
    simp only [advance, hpc] at hstep
    split at hstep
    · cases hstep
      refine h.move hi hsame (Or.inl rfl) rfl rfl ?_
      rw [hpc]
      cases system <;> rfl
    · cases hstep
      exact h.move hi hsame (Or.inl rfl) rfl rfl (by rw [hpc]; rfl)
  | closeBeforeReporting =>
    simp only [advance, hpc] at hstep
    cases hstep
    cases r.alt with
    | true => exact h.move hi hgot hread rfl rfl (by rw [hpc]; rfl)
    | false => exact h.move hi hsame (Or.inl rfl) rfl rfl (by rw [hpc]; rfl)
  | doLeavingReporting =>
    simp only [advance, hpc] at hstep
    have hq : (if (w.attempts t.attempt).isChat && (w.attempts t.attempt).waitAgent
          && !(w.attempts t.attempt).canceled
        then { w.attempts t.attempt with canceled := true } else w.attempts t.attempt).queue
        = (w.attempts t.attempt).queue := by
      split <;> rfl
    split at hstep
    · cases hstep
      exact h.crash ⟨rfl, rfl, rfl, rfl, rfl, rfl, setAttempt_queue hq⟩ (Or.inl rfl) rfl
    · cases hstep
      refine h.move hi (.setAttempt hq) (Or.inl rfl) rfl rfl ?_
      rw [hpc]
      split <;> rfl
  | waitHangup =>
    simp only [advance, hpc] at hstep
    cases hstep
    exact h.move hi hsame (Or.inl rfl) rfl rfl (by rw [hpc]; rfl)
  | timeoutGet afterSchema =>
    simp only [advance, hpc] at hstep
    split at hstep
    · cases hstep
      refine h.move hi hgot hread rfl rfl ?_
      rw [hpc]
      split
      · rfl
      · split <;> rfl
    · cases hstep
      exact h.move hi hgot hread rfl rfl (by rw [hpc]; rfl)
  | afterDistributeSchema =>
    simp only [advance, hpc] at hstep
    cases hstep
    have hq : (if r.ok then { w.attempts t.attempt with hasDraft := false }
        else w.attempts t.attempt).queue = (w.attempts t.attempt).queue := by
      split <;> rfl
    have hph : ∀ b : Bool, (if b then Pc.check else .schemaResult).phase = .outside := by
      intro b
      cases b <;> rfl
    exact h.move hi (.setAttempt hq) (Or.inl rfl) rfl rfl ((hph _).trans (by rw [hpc]; rfl))
  | schemaResult =>
    simp only [advance, hpc] at hstep
    cases hstep
    refine h.move hi hsame (Or.inl rfl) rfl rfl ?_
    rw [hpc]
    cases r.ok <;> rfl
  | finished =>
    simp only [advance, hpc] at hstep
    exact absurd hstep (by simp)
  | check => exact absurd hpc hcheck
  | _ =>
    rw [hpc] at hphase
    cases hphase

theorem inv_advance {w' : World} {r : Reply} (h : Inv w) (hi : w.threads[i]? = some t)
    (hex : t.pc = .check → ∀ t' ∈ w.threads, t'.attempt = t.attempt →
      t'.pc.phase ≠ .inside ∧ t'.pc.phase ≠ .leaving)
    (hstep : advance w i t r = some w') : Inv w' := by
  have hsame := SameLedger.refl w
  have hgot := SameLedger.cacheGet w r.now t.attempt
  have hread : CacheRead w (w.cacheGet r.now t.attempt) := Or.inr ⟨r.now, t.attempt, rfl⟩
  cases hpc : t.pc with
  | createGet =>
    simp only [advance, hpc] at hstep
    split at hstep
    · cases hstep
      exact h.crash ⟨rfl, rfl, rfl, rfl, rfl, rfl, fun _ => rfl⟩ hread rfl
    · cases hstep
      exact h.move hi hgot hread rfl rfl (by rw [hpc]; rfl)
  | createAdd =>
    simp only [advance, hpc] at hstep
    cases hstep
    exact inv_createAdd h hi hpc r.now
  | createWgAdd =>
    simp only [advance, hpc] at hstep
    cases hstep
    exact inv_createWgAdd h hi hpc
  | check =>
    simp only [advance, hpc] at hstep
    split at hstep
    · rename_i hhit
      cases hstep
      refine inv_checkHit h hi hpc (hex hpc) hhit ?_
      rw [afterCheck]
      split <;> rfl
    · cases hstep
      refine h.move hi hgot hread rfl rfl ?_
      rw [hpc, Thread.afterLeaving]
      cases t.again <;> rfl
  | flush =>
    simp only [advance, hpc] at hstep
    cases hstep
    refine h.move hi hsame (Or.inl rfl) rfl rfl ?_
    rw [hpc]
    split <;> rfl
  | draftResult =>
    simp only [advance, hpc] at hstep
    cases hstep
    exact h.move hi hsame (Or.inl rfl) rfl rfl (by rw [hpc]; rfl)
  | hook =>
    simp only [advance, hpc] at hstep
    split at hstep
    · cases hstep
      exact h.crash ⟨rfl, rfl, rfl, rfl, rfl, rfl, setAttempt_queue rfl⟩ (Or.inl rfl) rfl
    · rename_i q hq
      cases hstep
      exact inv_hook h hi hpc (by rw [hq]; rfl) rfl
  | close =>
    simp only [advance, hpc] at hstep
    cases hstep
    exact h.move hi hsame (Or.inl rfl) rfl rfl (by rw [hpc]; rfl)
  | remove =>
    simp only [advance, hpc] at hstep
    cases hstep
    exact inv_remove h hi hpc
  | wgDone =>
    simp only [advance, hpc] at hstep
    cases hstep
    exact inv_wgDone h hi hpc _
  | _ => exact inv_advance_outside h hi (by rw [hpc]; rfl) (by rw [hpc]; nofun) hstep

theorem inv_spawn (h : Inv w) {t : Thread} (ht : t.pc.phase = .outside) : Inv (w.spawn t) := by
  refine h.of_counts ⟨rfl, rfl, rfl, rfl, rfl, rfl, fun _ => rfl⟩ (Or.inl rfl) fun ph id hph => ?_
  have hcount := count_spawn (w := w) (t := t) (w.spawn t) rfl ph id
  simpa [ht, Ne.symm hph] using hcount

end Steps

theorem inv_create {w : World} (h : Inv w) {id : Int} (hid : id ∉ w.issued) :
    Inv ({ w with issued := id :: w.issued }.spawn ⟨id, .createGet, false, false, false⟩) := by
  have hcount := count_spawn (w := w) (t := ⟨id, .createGet, false, false, false⟩)
    ({ w with issued := id :: w.issued }.spawn ⟨id, .createGet, false, false, false⟩) rfl
  have hother : ∀ ph j, ph ≠ .creating →
      ({ w with issued := id :: w.issued }.spawn ⟨id, .createGet, false, false, false⟩).count ph j
        = w.count ph j := by
    intro ph j hph
    have := hcount ph j
    simpa [Pc.phase, Ne.symm hph] using this
  refine ⟨h.cache, List.nodup_cons.mpr ⟨hid, h.issued⟩, fun j => ?_, h.queue, h.hookedCreated,
    fun j => ?_, fun j => ?_, fun j => ?_, h.balance⟩
  all_goals grind [cases Inv, Pc.phase, World.spawn]

theorem inv_setQueue {w : World} (h : Inv w) {id : Int} (hid : id ∈ w.created)
    (q : QueueParams) : Inv (w.setAttempt id { w.attempts id with queue := some q }) := by
  refine { h with queue := fun j hj => ?_ }
  by_cases hji : j = id
  · exact hji ▸ hid
  · refine h.queue j ?_
    simpa [World.setAttempt, hji] using hj

theorem inv_step (w : World) (l : Label) (w' : World) (h : Inv w) (hex : Exclusive w l)
    (hstep : step w l = some w') : Inv w' := by
  cases l with
  | create id =>
    simp only [step] at hstep
    grind [inv_create]
  | setQueue id q =>
    simp only [step] at hstep
    grind [inv_setQueue]
  | touch id a =>
    simp only [step] at hstep
    split at hstep
    · cases hstep
      refine { h with queue := fun j hj => h.queue j ?_ }
      grind [setAttempt_queue]
    · exact absurd hstep (by simp)
  | queueLeaving id =>
    simp only [step] at hstep
    split at hstep
    · cases hstep
      exact inv_spawn h rfl
    · exact absurd hstep (by simp)
  | queueAbandoned id again =>
    simp only [step] at hstep
    split at hstep
    · cases hstep
      exact inv_spawn h rfl
    · exact absurd hstep (by simp)
  | reporting id system draft =>
    simp only [step] at hstep
    split at hstep
    · cases hstep
      exact inv_spawn h rfl
    · exact absurd hstep (by simp)
  | timeout id afterSchema =>
    simp only [step] at hstep
    split at hstep
    · cases hstep
      exact inv_spawn h rfl
    · exact absurd hstep (by simp)
  | thread i r =>
    simp only [step] at hstep
    split at hstep
    · exact absurd hstep (by simp)
    · obtain ⟨t, hi, hadv⟩ := Option.bind_eq_some_iff.mp hstep
      exact inv_advance h hi (fun hpc => hex t hi hpc) hadv

/-! ## What the invariant gives -/

/-- **Leaving happens exactly once.** In every run whose checks are exclusive, for
every attempt the hook, the removal and `Done` run at most once, and the wait group
counts the attempts created and not yet left. -/
theorem leaving_once (size : Nat) (attempts : Int → LiveAttempt) (ls : List Label) (w : World)
    (hex : Along step Exclusive (World.start size attempts) ls)
    (hrun : run step (World.start size attempts) ls = some w) :
    (∀ id, w.hooked.count id ≤ 1 ∧ w.removed.count id ≤ 1 ∧ w.left.count id ≤ 1)
      ∧ 0 ≤ w.waitGroup
      ∧ w.waitGroup = (w.created.filter fun id => id ∉ w.left).length := by
  have h : Inv w := run_invariant inv_step ls (inv_start size attempts) hex hrun
  have hcounts : ∀ id, w.hooked.count id ≤ 1 ∧ w.removed.count id ≤ 1 ∧ w.left.count id ≤ 1 := by
    intro id
    have := h.once id
    have := h.hooked id
    have := h.left id
    omega
  have hcreated : w.created.Nodup := by
    refine List.nodup_iff_count_le_one.mpr fun id => ?_
    have := List.nodup_iff_count_le_one.mp h.issued id
    have := h.creating id
    omega
  have hleft : w.left.Nodup := List.nodup_iff_count_le_one.mpr fun id => (hcounts id).2.2
  have hsub : w.left ⊆ w.created := by
    intro id hid
    have := List.count_pos_iff.mpr hid
    have := h.left id
    have := h.hooked id
    exact h.hookedCreated id (List.count_pos_iff.mp (by omega))
  -- What is created and not left is what is created less what is left.
  have hsplit := List.length_eq_length_filter_add (l := w.created) (fun id => decide (id ∈ w.left))
  have hperm : (w.created.filter fun id => decide (id ∈ w.left)).length = w.left.length := by
    refine List.Perm.length_eq ((List.perm_ext_iff_of_nodup (hcreated.filter _) hleft).mpr ?_)
    grind
  have hbal : w.waitGroup = (w.created.filter fun id => id ∉ w.left).length := by
    have hbalance := h.balance
    simp only [decide_not]
    omega
  exact ⟨hcounts, by omega, hbal⟩

/-! ## When the checks are not exclusive -/

def plainAttempt : LiveAttempt := ⟨none, true, false, false, false, false, false⟩

def plainQueue : QueueParams := ⟨false, false, false, false⟩

def okReply : Reply := ⟨0, true, false⟩

/-- The attempt is created and distributed; then its agent reports, and the queue
goroutine ends too. `steps` is the order in which the two threads go on. -/
def raceRun (steps : List Nat) : List Label :=
  [.create 1, .thread 0 okReply, .thread 0 okReply, .thread 0 okReply, .setQueue 1 plainQueue,
    .reporting 1 false false, .queueLeaving 1] ++ steps.map fun i => .thread i okReply

/-- Report and queue goroutine both find the attempt in the cache before either
removes it: everything after the check runs twice and the counter is negative. -/
theorem leaving_twice :
    (run step (World.start 50000 fun _ => plainAttempt)
        (raceRun [1, 1, 1, 1, 1, 2, 1, 2, 1, 2, 1, 2, 1, 2])).map
      (fun w => (w.hooked.count 1, w.removed.count 1, w.left.count 1, w.waitGroup))
      = some (2, 2, 2, -1) := by
  decide

/-- One after the other the same two threads do no harm: the second misses. -/
theorem leaving_once_sequential :
    ∃ w, run step (World.start 50000 fun _ => plainAttempt)
        (raceRun [1, 1, 1, 1, 1, 1, 1, 1, 1, 2]) = some w
      ∧ w.waitGroup = (w.created.filter fun id => id ∉ w.left).length := by
  obtain ⟨w, hrun⟩ := Option.isSome_iff_exists.mp
    (by decide : (run step (World.start 50000 fun _ => plainAttempt)
      (raceRun [1, 1, 1, 1, 1, 1, 1, 1, 1, 2])).isSome)
  exact ⟨w, hrun, (leaving_once 50000 (fun _ => plainAttempt) _ w (by decide) hrun).2.2⟩

end CallCenter.Queue
