import CallCenter.Lib.Run
import Mathlib.Algebra.GroupWithZero.Nat

/-!
# Errors of a gateway resource

A resource is switched off after a number of errors in succession. The counter is a column of its
row, and every `Resource` object has a copy of it. An error is counted in the row, and the object is
then dropped from the cache; a success resets the row only when the copy of the object at hand is
positive. Objects are shared: an attempt has the object that the cache gave it, or one that it
loaded, alone or together with others; an object loaded together is not cached.
-/

namespace CallCenter.Queue

open Lib

/-! ## Which errors count -/

structure ResourceConfig where
  maxSuccessivelyErrors : Nat
  errorIds : List (List Char)

/-- The loop of `checkCodeMask`; the index into the code is the byte offset in the mask. -/
def checkCodeMaskFrom (code : List Char) : Nat → List Char → Bool
  | _, [] => false
  | i, v :: rest =>
    if v = 'X' ∨ v = 'x' then checkCodeMaskFrom code (i + v.utf8Size) rest
    else if code[i]? ≠ some v then true
    else checkCodeMaskFrom code (i + v.utf8Size) rest

/-- `checkCodeMask`: is there a difference? Codes of another length have none. -/
def checkCodeMask (maskCode code : List Char) : Bool :=
  if (maskCode.map Char.utf8Size).sum ≠ code.length then false
  else checkCodeMaskFrom code 0 maskCode

def ResourceConfig.checkCodeError (cfg : ResourceConfig) (errorCode : List Char) : Bool :=
  if cfg.maxSuccessivelyErrors < 1 then false
  else cfg.errorIds.any fun v => !checkCodeMask v errorCode

inductive CallResult where
  | success
  | failed (hangupCauseCode : Int)

def sprintCode : Int → List Char
  | .ofNat n => Nat.toDigits 10 n
  | .negSucc n => '-' :: Nat.toDigits 10 (n + 1)

def ResourceConfig.matching (cfg : ResourceConfig) : CallResult → Bool
  | .success => false
  | .failed code => cfg.checkCodeError (sprintCode code)

/-! ## The system -/

inductive ResultPc where
  | idle
  | resetting
  | clearing
  | removing

structure ResourceHolder where
  object : Nat
  pc : ResultPc

structure ResourceWorld where
  successivelyErrors : Nat
  enabled : Bool
  objects : List Nat
  cache : Option Nat
  loading : List Nat
  attempts : List ResourceHolder
  /-- The results processed, the last one first: was it an error that counts? -/
  results : List Bool

namespace ResourceWorld

def ccResourceSetError (cfg : ResourceConfig) (w : ResourceWorld) : ResourceWorld :=
  if w.enabled then
    if w.successivelyErrors + 1 ≥ cfg.maxSuccessivelyErrors then
      { w with successivelyErrors := 0, enabled := false }
    else { w with successivelyErrors := w.successivelyErrors + 1 }
  else w

def goto (w : ResourceWorld) (i : Nat) (k : Nat) (pc : ResultPc) : ResourceWorld :=
  { w with attempts := w.attempts.set i ⟨k, pc⟩ }

def processed (w : ResourceWorld) (error : Bool) : ResourceWorld :=
  { w with results := error :: w.results }

def copy (w : ResourceWorld) (k : Nat) : Nat := w.objects[k]?.getD 0

end ResourceWorld

inductive ResourceLabel where
  /-- `GetOutboundResourceById` for the singleflight call of `ResourceManager.Get`. -/
  | load
  /-- The call returns to the attempt that made it and to `others` that joined it. -/
  | loaded (object others : Nat)
  | hit
  | evict
  /-- `CallCheckResourceError`; `stored` says whether the store call succeeds. -/
  | result (attempt : Nat) (r : CallResult) (stored : Bool)
  | setSuccessivelyErrorsById (attempt : Nat) (stored : Bool)
  | setSuccessivelyErrors (attempt : Nat)
  | removeFromCacheById (attempt : Nat)

open ResourceWorld ResourceLabel in
def resourceStep (cfg : ResourceConfig) (w : ResourceWorld) : ResourceLabel → Option ResourceWorld
  | load =>
    some { w with
      objects := w.objects ++ [w.successivelyErrors]
      loading := w.objects.length :: w.loading }
  | loaded k others =>
    if k ∈ w.loading then
      some { w with
        loading := w.loading.erase k
        attempts := w.attempts ++ List.replicate (others + 1) ⟨k, .idle⟩
        cache := if others = 0 then some k else w.cache }
    else none
  | hit => w.cache.map fun k => { w with attempts := w.attempts ++ [⟨k, .idle⟩] }
  | evict => some { w with cache := none }
  | result i r stored =>
    match w.attempts[i]? with
    | some ⟨k, .idle⟩ =>
      if cfg.matching r then
        if stored then some (((w.ccResourceSetError cfg).processed true).goto i k .removing)
        else some (w.processed true)
      else if w.copy k > 0 then some (w.goto i k .resetting)
      else some (w.processed false)
    | _ => none
  | setSuccessivelyErrorsById i stored =>
    match w.attempts[i]? with
    | some ⟨k, .resetting⟩ =>
      let w := if stored then { w with successivelyErrors := 0 } else w
      some ((w.processed false).goto i k .clearing)
    | _ => none
  | setSuccessivelyErrors i =>
    match w.attempts[i]? with
    | some ⟨k, .clearing⟩ => some ({ w with objects := w.objects.set k 0 }.goto i k .idle)
    | _ => none
  | removeFromCacheById i =>
    match w.attempts[i]? with
    | some ⟨k, .removing⟩ => some ({ w with cache := none }.goto i k .idle)
    | _ => none

/-! ## The counter and the errors in succession -/

/-- The condition on a step: its store call succeeds, and a success whose store call is skipped,
because the copy is zero, finds the counter of the row at zero. -/
def keepsCount (cfg : ResourceConfig) (w : ResourceWorld) : ResourceLabel → Bool
  | .result i r stored =>
    if cfg.matching r then stored
    else w.attempts[i]?.all fun h => w.copy h.object > 0 || w.successivelyErrors = 0
  | .setSuccessivelyErrorsById _ stored => stored
  | _ => true

/-- What a step that meets the condition does to the row and to the record of the results. -/
inductive ResultEffect (cfg : ResourceConfig) (w w' : ResourceWorld) : Prop where
  | none (hresults : w'.results = w.results) (henabled : w'.enabled = w.enabled)
    (hcount : w'.successivelyErrors = w.successivelyErrors)
  | error (hresults : w'.results = true :: w.results)
    (henabled : w'.enabled = (w.ccResourceSetError cfg).enabled)
    (hcount : w'.successivelyErrors = (w.ccResourceSetError cfg).successivelyErrors)
  | success (hresults : w'.results = false :: w.results) (henabled : w'.enabled = w.enabled)
    (hcount : w'.successivelyErrors = 0)

section Steps

variable {cfg : ResourceConfig} {w w' : ResourceWorld}

theorem result_effect {i : Nat} {r : CallResult} {stored : Bool}
    (hok : keepsCount cfg w (.result i r stored) = true)
    (h : resourceStep cfg w (.result i r stored) = some w') : ResultEffect cfg w w' := by
  unfold resourceStep at h
  unfold keepsCount at hok
  dsimp only at h hok
  split at h
  · rename_i k hholder
    rw [hholder] at hok
    by_cases hmatch : cfg.matching r = true
    · rw [if_pos hmatch] at h hok
      rw [if_pos hok] at h
      cases h
      have hkeeps : (w.ccResourceSetError cfg).results = w.results := by
        grind [ResourceWorld.ccResourceSetError]
      exact .error (congrArg (true :: ·) hkeeps) rfl rfl
    · rw [if_neg hmatch] at h hok
      by_cases hcopy : w.copy k > 0
      · rw [if_pos hcopy] at h
        cases h
        exact .none rfl rfl rfl
      · rw [if_neg hcopy] at h
        cases h
        have hzero : w.successivelyErrors = 0 := by
          grind
        exact .success rfl rfl hzero
  · cases h

theorem step_effect {l : ResourceLabel} (hok : keepsCount cfg w l = true)
    (h : resourceStep cfg w l = some w') : ResultEffect cfg w w' := by
  cases l with
  | load =>
    cases h
    exact .none rfl rfl rfl
  | loaded k others =>
    obtain ⟨-, rfl⟩ := of_guard h
    exact .none rfl rfl rfl
  | hit =>
    obtain ⟨k, -, hw'⟩ := Option.map_eq_some_iff.mp h
    rw [← hw']
    exact .none rfl rfl rfl
  | evict =>
    cases h
    exact .none rfl rfl rfl
  | result i r stored => exact result_effect hok h
  | setSuccessivelyErrorsById i stored =>
    have hstored : stored = true := hok
    unfold resourceStep at h
    dsimp only at h
    split at h
    · rw [hstored, if_pos rfl] at h
      cases h
      exact .success rfl rfl rfl
    · cases h
  | setSuccessivelyErrors i =>
    unfold resourceStep at h
    dsimp only at h
    split at h
    · cases h
      exact .none rfl rfl rfl
    · cases h
  | removeFromCacheById i =>
    unfold resourceStep at h
    dsimp only at h
    split at h
    · cases h
      exact .none rfl rfl rfl
    · cases h

end Steps

def errorRun : List Bool → Nat
  | true :: results => errorRun results + 1
  | _ => 0

theorem le_errorRun_iff (n : Nat) (results : List Bool) :
    n ≤ errorRun results ↔ results.take n = List.replicate n true := by
  induction results generalizing n with
  | nil =>
    cases n with
    | zero => exact ⟨fun _ => rfl, fun _ => Nat.le_refl 0⟩
    | succ n => exact ⟨fun h => absurd h (Nat.not_succ_le_zero n), fun h => nomatch h⟩
  | cons r results ih =>
    cases n with
    | zero => exact ⟨fun _ => rfl, fun _ => Nat.zero_le _⟩
    | succ n =>
      rw [List.take_succ_cons, List.replicate_succ, List.cons.injEq, ← ih n]
      cases r with
      | false => exact ⟨fun h => absurd h (Nat.not_succ_le_zero n), fun h => Bool.noConfusion h.1⟩
      | true =>
        grind [errorRun]

/-- While the resource is on, its row counts the errors in succession, and they are below the
limit. -/
def Counts (cfg : ResourceConfig) (w : ResourceWorld) : Prop :=
  w.enabled = true → w.successivelyErrors = errorRun w.results
    ∧ errorRun w.results < cfg.maxSuccessivelyErrors

section Counting

variable {w w' : ResourceWorld}

theorem setError_cases (cfg : ResourceConfig) (hon : w.enabled = true) :
    (cfg.maxSuccessivelyErrors ≤ w.successivelyErrors + 1
      ∧ (w.ccResourceSetError cfg).enabled = false)
    ∨ (w.successivelyErrors + 1 < cfg.maxSuccessivelyErrors
      ∧ (w.ccResourceSetError cfg).enabled = true
      ∧ (w.ccResourceSetError cfg).successivelyErrors = w.successivelyErrors + 1) := by
  grind [ResourceWorld.ccResourceSetError]

theorem setError_off {cfg : ResourceConfig} (hoff : w.enabled = false) :
    (w.ccResourceSetError cfg).enabled = false := by
  unfold ResourceWorld.ccResourceSetError
  rw [if_neg (by rw [hoff]; exact Bool.false_ne_true)]
  exact hoff

theorem counts_step {cfg : ResourceConfig} (hmax : 1 ≤ cfg.maxSuccessivelyErrors) (h : Counts cfg w)
    (he : ResultEffect cfg w w') : Counts cfg w' := by
  intro hon'
  cases he with
  | none hresults henabled hcount =>
    rw [hresults, hcount]
    exact h (henabled ▸ hon')
  | success hresults henabled hcount =>
    rw [hresults, hcount]
    exact ⟨rfl, hmax⟩
  | error hresults henabled hcount =>
    rw [henabled] at hon'
    have hon : w.enabled = true := by
      cases hoff : w.enabled with
      | true => rfl
      | false => rw [setError_off hoff] at hon'; cases hon'
    obtain ⟨hrow, hbelow⟩ := h hon
    grind [errorRun, setError_cases]

theorem disables_iff {cfg : ResourceConfig} (h : Counts cfg w) (hon : w.enabled = true)
    (he : ResultEffect cfg w w')
    (hmax : 1 ≤ cfg.maxSuccessivelyErrors) :
    (w'.results = w.results ∧ w'.enabled = true)
      ∨ ((∃ r, w'.results = r :: w.results)
        ∧ (w'.enabled = false ↔ cfg.maxSuccessivelyErrors ≤ errorRun w'.results)) := by
  obtain ⟨hrow, hbelow⟩ := h hon
  cases he with
  | none hresults henabled hcount => exact .inl ⟨hresults, henabled.trans hon⟩
  | success hresults henabled hcount =>
    grind [errorRun]
  | error hresults henabled hcount =>
    refine .inr ⟨⟨true, hresults⟩, ?_⟩
    rw [henabled, hresults]
    unfold errorRun
    rcases setError_cases cfg hon with ⟨hlimit, hoff⟩ | ⟨hlimit, hstays, -⟩
    all_goals grind

end Counting

/-- **A resource is switched off exactly by the last of its limit of errors in succession**, in
every run whose steps meet the condition: no other step switches it off, and a result does exactly
when it and the results before it up to the limit are all errors that count. -/
theorem disabled_exactly_at_limit {cfg : ResourceConfig} (hmax : 1 ≤ cfg.maxSuccessivelyErrors)
    {w₀ w w' : ResourceWorld} {labels : List ResourceLabel} {l : ResourceLabel}
    (hstart : w₀.enabled = true ∧ w₀.successivelyErrors = 0 ∧ w₀.results = [])
    (halong : Along (resourceStep cfg) (fun w l => keepsCount cfg w l = true) w₀ labels)
    (hrun : run (resourceStep cfg) w₀ labels = some w) (hon : w.enabled = true)
    (hok : keepsCount cfg w l = true) (hstep : resourceStep cfg w l = some w') :
    (w'.results = w.results ∧ w'.enabled = true)
      ∨ ((∃ r, w'.results = r :: w.results)
        ∧ (w'.enabled = false ↔ w'.results.take cfg.maxSuccessivelyErrors
            = List.replicate cfg.maxSuccessivelyErrors true)) := by
  obtain ⟨-, hzero, hempty⟩ := hstart
  have hinit : Counts cfg w₀ := by
    intro _
    rw [hzero, hempty]
    exact ⟨rfl, hmax⟩
  have hcounts : Counts cfg w :=
    run_invariant (fun _ _ _ hinv hok hstep => counts_step hmax hinv (step_effect hok hstep)) labels
      hinit halong hrun
  rw [← le_errorRun_iff]
  exact disables_iff hcounts hon (step_effect hok hstep) hmax

def twoErrors : ResourceConfig := ⟨2, ["5XX".toList]⟩

def freshResource : ResourceWorld := ⟨0, true, [], none, [], [], []⟩

/-- An error, a success with a copy that was loaded after it, and another error. -/
def sharedErrors : List ResourceLabel :=
  [.load, .loaded 0 0, .result 0 (.failed 503) true, .removeFromCacheById 0, .load, .loaded 1 0,
    .result 1 .success true, .setSuccessivelyErrorsById 1 true, .setSuccessivelyErrors 1,
    .result 0 (.failed 502) true]

/-- The error that follows switches the resource off. -/
theorem disabled_at_second_error :
    ∃ w w', run (resourceStep twoErrors) freshResource sharedErrors = some w
      ∧ resourceStep twoErrors w (.result 1 (.failed 500) true) = some w'
      ∧ w'.results = [true, true, false, true] ∧ w'.enabled = false
      ∧ ((w'.results = w.results ∧ w'.enabled = true)
        ∨ ((∃ r, w'.results = r :: w.results)
          ∧ (w'.enabled = false ↔ w'.results.take 2 = List.replicate 2 true))) := by
  have hrun : run (resourceStep twoErrors) freshResource sharedErrors = some ⟨1, true, [0, 0],
    some 1, [], [⟨0, .removing⟩, ⟨1, .idle⟩], [true, false, true]⟩ := rfl
  have hstep : resourceStep twoErrors ⟨1, true, [0, 0], some 1, [], [⟨0, .removing⟩, ⟨1, .idle⟩],
    [true, false, true]⟩ (.result 1 (.failed 500) true) = some _ := rfl
  exact ⟨_, _, hrun, hstep, rfl, rfl, disabled_exactly_at_limit (by decide) ⟨rfl, rfl, rfl⟩
    (by decide) hrun rfl rfl hstep⟩

/-- Two attempts have the object that was loaded before the first error. The success of the one
does not reset the row, and the next error of the other switches the resource off, although the
result before it was a success. -/
theorem disabled_after_success :
    (run (resourceStep twoErrors) freshResource [.load, .loaded 0 0, .hit,
        .result 0 (.failed 503) true, .removeFromCacheById 0, .result 1 .success true,
        .result 0 (.failed 503) true]).map
      (fun w => (w.enabled, w.results)) = some (false, [true, false, true])
    ∧ [true, false, true].take twoErrors.maxSuccessivelyErrors
      ≠ List.replicate twoErrors.maxSuccessivelyErrors true :=
  ⟨by decide, by decide⟩

end CallCenter.Queue
