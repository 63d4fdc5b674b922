import CallCenter.Queue.Resources

/-!
# Error masks

A resource lists the error codes that count against it as masks, in which `X` and `x` stand for any
character. `CheckCodeError` looks for a mask without a difference, and `checkCodeMask` reports none
for a mask of another length than the code: such a mask matches everything. The length of the mask
is its number of bytes, that of the code its number of characters, and so are the two indices that
are compared.
-/

namespace CallCenter.Queue

def wildcard (v : Char) : Prop := v = 'X' ∨ v = 'x'

def bytes (s : List Char) : Nat := (s.map Char.utf8Size).sum

/-- What a mask is for: as many characters as the code, the same where it has no wildcard. -/
def Describes (mask code : List Char) : Prop :=
  List.Forall₂ (fun v c => wildcard v ∨ c = v) mask code

/-- A character of the mask that is not a wildcard differs from the character of the code whose
index is its byte offset. -/
def Differs (mask code : List Char) : Prop :=
  ∃ before v after, mask = before ++ v :: after ∧ ¬ wildcard v ∧ code[bytes before]? ≠ some v

/-- The property of a resource and a code: exactly the masks that describe the code match it. -/
def MatchesDescribed (cfg : ResourceConfig) (code : List Char) : Prop :=
  cfg.checkCodeError code = true
    ↔ 1 ≤ cfg.maxSuccessivelyErrors ∧ ∃ mask ∈ cfg.errorIds, Describes mask code

variable {code : List Char}

theorem checkCodeMaskFrom_eq_true (i : Nat) (mask : List Char) :
    checkCodeMaskFrom code i mask = true ↔ ∃ before v after, mask = before ++ v :: after
      ∧ ¬ wildcard v ∧ code[i + bytes before]? ≠ some v := by
  induction mask generalizing i with
  | nil => simp [checkCodeMaskFrom]
  | cons v rest ih =>
    -- a difference is at the first character or in the rest
    have hsplit : (∃ before u after, v :: rest = before ++ u :: after ∧ ¬ wildcard u
          ∧ code[i + bytes before]? ≠ some u)
        ↔ (¬ wildcard v ∧ code[i]? ≠ some v)
          ∨ checkCodeMaskFrom code (i + v.utf8Size) rest = true := by
      rw [ih]
      constructor
      · rintro ⟨before, u, after, heq, hu, hne⟩
        cases before with
        | nil =>
          obtain ⟨rfl, -⟩ := List.cons.inj heq
          exact .inl ⟨hu, hne⟩
        | cons b before =>
          obtain ⟨rfl, hrest⟩ := List.cons.inj heq
          refine .inr ⟨before, u, after, hrest, hu, ?_⟩
          rwa [Nat.add_assoc]
      · rintro (⟨hv, hne⟩ | ⟨before, u, after, rfl, hu, hne⟩)
        · exact ⟨[], v, rest, rfl, hv, hne⟩
        · refine ⟨v :: before, u, after, rfl, hu, ?_⟩
          rwa [Nat.add_assoc] at hne
    rw [hsplit, checkCodeMaskFrom]
    unfold wildcard
    split
    · next h => simp [h]
    · next h => split <;> simp_all

theorem checkCodeMask_eq_true (mask : List Char) :
    checkCodeMask mask code = true ↔ bytes mask = code.length ∧ Differs mask code := by
  show (if bytes mask ≠ code.length then false else checkCodeMaskFrom code 0 mask) = true ↔ _
  by_cases hlen : bytes mask = code.length
  · rw [if_neg (not_not.mpr hlen), checkCodeMaskFrom_eq_true]
    simp only [Nat.zero_add, hlen, true_and, Differs]
  · rw [if_pos hlen]
    simp [hlen]

theorem length_le_bytes (s : List Char) : s.length ≤ bytes s := by
  induction s with
  | nil => exact Nat.le_refl 0
  | cons v s ih =>
    have hpos := v.utf8Size_pos
    simp only [List.length_cons, bytes, List.map_cons, List.sum_cons] at ih ⊢
    omega

theorem not_differs_of_describes {mask : List Char} (hlen : bytes mask = code.length)
    (h : Describes mask code) : ¬ Differs mask code := by
  rintro ⟨before, v, after, rfl, hv, hne⟩
  have hcount : (before ++ v :: after).length = code.length := h.length_eq
  have hsum : bytes (before ++ v :: after) = bytes before + bytes (v :: after) := by
    simp [bytes]
  have hbefore := length_le_bytes before
  have hafter := length_le_bytes (v :: after)
  rw [List.length_append] at hcount
  have hoffset : bytes before = before.length := by omega
  have hlt : before.length < code.length := by
    simp only [List.length_cons] at hcount
    omega
  have hpair := h.get (i := before.length) (by simp) hlt
  simp only [List.get_eq_getElem, List.getElem_append_right (Nat.le_refl _), Nat.sub_self,
    List.getElem_cons_zero] at hpair
  rw [hoffset, List.getElem?_eq_getElem hlt] at hne
  rcases hpair with hwild | heq
  · exact hv hwild
  · exact hne (congrArg some heq)

/-- **Error masks match what they describe** exactly if the resource has no limit, or some mask
describes the code, or every mask has as many bytes as the code has characters and a character that
is no wildcard differs from the code's at its byte offset. -/
theorem checkCodeError_matches_iff (cfg : ResourceConfig) (code : List Char) :
    MatchesDescribed cfg code ↔ cfg.maxSuccessivelyErrors < 1
      ∨ (∃ mask ∈ cfg.errorIds, Describes mask code)
      ∨ ∀ mask ∈ cfg.errorIds, bytes mask = code.length ∧ Differs mask code := by
  have hcode : cfg.checkCodeError code = true ↔ 1 ≤ cfg.maxSuccessivelyErrors
      ∧ ∃ mask ∈ cfg.errorIds, ¬ (bytes mask = code.length ∧ Differs mask code) := by
    unfold ResourceConfig.checkCodeError
    by_cases hlimit : cfg.maxSuccessivelyErrors < 1
    · rw [if_pos hlimit]
      simp only [Bool.false_eq_true, false_iff]
      omega
    · rw [if_neg hlimit, List.any_eq_true]
      simp only [Bool.not_eq_true', ← checkCodeMask_eq_true, Bool.not_eq_true]
      exact (and_iff_right (by omega)).symm
  have hdescribed : (∃ mask ∈ cfg.errorIds, Describes mask code) →
      ∃ mask ∈ cfg.errorIds, ¬ (bytes mask = code.length ∧ Differs mask code) := by
    rintro ⟨mask, hmem, h⟩
    exact ⟨mask, hmem, fun hdiffers => not_differs_of_describes hdiffers.1 h hdiffers.2⟩
  have hlast : (∀ mask ∈ cfg.errorIds, bytes mask = code.length ∧ Differs mask code)
      ↔ ¬ ∃ mask ∈ cfg.errorIds, ¬ (bytes mask = code.length ∧ Differs mask code) := by
    push Not
    rfl
  rw [MatchesDescribed, hcode, hlast, ← Nat.not_le]
  constructor
  · intro h
    by_contra hno
    simp only [not_or, not_not] at hno
    obtain ⟨hlimit, hnone, hother⟩ := hno
    exact hnone (h.mp ⟨hlimit, hother⟩).2
  · rintro (hlimit | hdescribes | hnone)
    · exact ⟨fun h => absurd h.1 hlimit, fun h => absurd h.1 hlimit⟩
    · exact ⟨fun h => ⟨h.1, hdescribes⟩, fun h => ⟨h.1, hdescribed hdescribes⟩⟩
    · exact ⟨fun h => absurd h.2 hnone, fun h => absurd (hdescribed h.2) hnone⟩

/-- A limit of one and the mask `404`: the code `16` of a call that ended normally counts. -/
theorem shorter_code_matches :
    (ResourceConfig.mk 1 ["404".toList]).checkCodeError "16".toList = true
      ∧ ¬ ∃ mask ∈ ["404".toList], Describes mask "16".toList := by
  refine ⟨by decide, ?_⟩
  rintro ⟨mask, hmem, h⟩
  rw [List.mem_singleton.mp hmem] at h
  exact absurd h.length_eq (by decide)

end CallCenter.Queue
