import CallCenter.Lib.Run
import CallCenter.Store.Attempts
import Mathlib.Algebra.Order.BigOperators.Group.List
import Mathlib.Tactic.Linarith
import Mathlib.Tactic.Ring

/-!
# Every finished attempt is counted once

A member keeps how often it was tried, and how often each of its communications was. An attempt
counts when it is *finished*: it has left, and no schema is still to give it a result. What the
counters say minus what is finished is the *balance*, which no operation should change.

The functions do not see to this themselves. A row that has left can be left again or can time out,
and counts twice; and some functions finish a row without its member. `CountedOnce` is the condition
under which the balance is kept.
-/

namespace CallCenter.Store

open Lib

/-- The counters of a member: all its attempts, or those of one communication. -/
inductive AttemptCounter where
  | all
  | number (idx : Nat)

def AttemptCounter.read : AttemptCounter → Member → Int
  | .all, m => m.attempts
  | .number i, m => m.attemptsOf i

def AttemptCounter.concerns : AttemptCounter → Attempt → Bool
  | .all, _ => true
  | .number i, a => a.communicationIdx = i

/-- The sum of a number over all attempts, in the table and in the history. -/
def tally (φ : Attempt → Int) (db : Db) : Int :=
  (db.attempts.rows.map φ).sum + (db.history.map φ).sum

/-- One for an attempt of the member, and zero for any other. -/
def unit (c : AttemptCounter) (k : Int) (a : Attempt) : Int :=
  if a.memberId = some k ∧ c.concerns a = true then 1 else 0

/-- One for a finished attempt of the member, and zero for any other. -/
def finishedUnit (c : AttemptCounter) (k : Int) (a : Attempt) : Int :=
  if archivable a then unit c k a else 0

def finished (c : AttemptCounter) (k : Int) (db : Db) : Int := tally (finishedUnit c k) db

def balance (c : AttemptCounter) (k : Int) (db : Db) : Int :=
  db.members.reading c.read k - finished c k db

/-- The attempts in the table are what the program makes: only an attempt that has left
has a schema running, and a member's attempt has a queue and a communication. -/
structure Sound (db : Db) : Prop where
  schema : ∀ a ∈ db.attempts.rows, a.schemaProcessing = true → a.state = .leaving
  member : ∀ a ∈ db.attempts.rows, ∀ k, a.memberId = some k →
    a.queueId.isSome = true ∧ ∃ m, db.members.get? k = some m ∧ m.HasNumber a.communicationIdx

/-- What becomes archivable is counted, and nothing else is. -/
structure Keeps (db db' : Db) : Prop where
  sound : Sound db'
  balance : ∀ c k, balance c k db' = balance c k db
  members : ∀ k, (db'.members.get? k).isSome = (db.members.get? k).isSome
  attempts : ∀ c k, tally (unit c k) db' = tally (unit c k) db
  archived : ∀ a ∈ db'.history, a ∈ db.history ∨ archivable a = true

theorem Keeps.refl {db : Db} (h : Sound db) : Keeps db db :=
  ⟨h, fun _ _ => rfl, fun _ => rfl, fun _ _ => rfl, fun _ => Or.inl⟩

theorem Keeps.trans {db db₁ db₂ : Db} (h₁ : Keeps db db₁) (h₂ : Keeps db₁ db₂) : Keeps db db₂ where
  sound := h₂.sound
  balance c k := (h₂.balance c k).trans (h₁.balance c k)
  members k := (h₂.members k).trans (h₁.members k)
  attempts c k := (h₂.attempts c k).trans (h₁.attempts c k)
  archived a ha := by
    rcases h₂.archived a ha with ha | ha
    · exact h₁.archived a ha
    · exact Or.inr ha

/-! ## The member's row -/

/-- The attempt is counted in the member's row. -/
structure CountedIn (attempt : Attempt) (m m' : Member) : Prop where
  id : m'.id = m.id
  attempts : m'.attempts = m.attempts + 1
  number : ∀ i, m'.attemptsOf i
    = m.attemptsOf i + if attempt.communicationIdx = i then 1 else 0
  keeps : ∀ i, m.HasNumber i → m'.HasNumber i

variable {attempt : Attempt} {m : Member}

theorem CountedIn.read {m' : Member} (h : CountedIn attempt m m') (c : AttemptCounter) :
    c.read m' = c.read m + if c.concerns attempt = true then 1 else 0 := by
  cases c with
  | all => exact h.attempts
  | number i =>
    simp only [AttemptCounter.read, AttemptCounter.concerns, decide_eq_true_eq]
    exact h.number i

theorem CountedIn.tg {m' : Member} (h : CountedIn attempt m m') (now : Int) :
    CountedIn attempt m (ccMemberSetSysDestinationsTg now m m') := by
  obtain ⟨hid, hattempts, hcomm⟩ := tg_keeps now m m'
  refine ⟨hid.trans h.id, hattempts.trans h.attempts, fun i => ?_, fun i hi => ?_⟩
  all_goals grind [cases CountedIn, Member.HasNumber, Member.attemptsOf]

theorem attemptsOf_eq {cs : List Communication} (h : m.communications = some cs) (i : Nat) :
    m.attemptsOf i = ((cs[i]?).map Communication.attemptCount).getD 0 := by
  rw [Member.attemptsOf, h]
  rfl

theorem stopOthers_counts (time : Int) (idx : Nat) (cs : List Communication) (i : Nat) :
    ((stopOthers time idx cs)[i]?).map Communication.attemptCount
      = (cs[i]?).map Communication.attemptCount := by
  rw [stopOthers, List.getElem?_mapIdx, Option.map_map]
  refine congrArg (fun g => Option.map g cs[i]?) (funext fun c => ?_)
  simp only [Function.comp]
  split <;> rfl

/-- Writing the dialled communication counts it, from any version of the communications
that has the same counts. -/
theorem countedIn_of_dialled {m' : Member} {base : Option (List Communication)}
    {lastActivityAt stopAt : Option Int} (hm : m.HasNumber attempt.communicationIdx)
    (hbase : base = m.communications ∨ ∃ t, base = m.communications.map
      (stopOthers t attempt.communicationIdx))
    (hid : m'.id = m.id) (hattempts : m'.attempts = m.attempts + 1)
    (hcomm : m'.communications = dialled m base attempt lastActivityAt stopAt) :
    CountedIn attempt m m' := by
  obtain ⟨c, hc⟩ := Option.isSome_iff_exists.mp hm
  obtain ⟨cs, hcs, hget⟩ := Option.bind_eq_some_iff.mp hc
  have hlt : attempt.communicationIdx < cs.length := (List.getElem?_eq_some_iff.mp hget).1
  -- The version written to has the length and the counts of the member's own.
  obtain ⟨cs', hcs', hlen, hsame⟩ : ∃ cs', base = some cs' ∧ cs'.length = cs.length
      ∧ ∀ i, (cs'[i]?).map Communication.attemptCount = (cs[i]?).map Communication.attemptCount :=
        by
    rcases hbase with hbase | ⟨t, hbase⟩
    · exact ⟨cs, hbase.trans hcs, rfl, fun _ => rfl⟩
    · rw [hcs] at hbase
      exact ⟨_, hbase, List.length_mapIdx, stopOthers_counts t _ cs⟩
  rw [dialled, hcs', hc] at hcomm
  refine ⟨hid, hattempts, fun i => ?_, fun i hi => ?_⟩
  · rw [attemptsOf_eq hcomm i, attemptsOf_eq hcs i]
    grind [Communication.attemptCount, attemptsOf_eq]
  all_goals grind [Member.HasNumber]

/-! ## The attempt's row -/

/-- What no operation changes in an attempt. -/
structure SameAttempt (a a' : Attempt) : Prop where
  id : a'.id = a.id
  memberId : a'.memberId = a.memberId
  queueId : a'.queueId = a.queueId
  communicationIdx : a'.communicationIdx = a.communicationIdx

theorem SameAttempt.unit {a a' : Attempt} (hsame : SameAttempt a a') (c : AttemptCounter)
    (k : Int) :
    unit c k a' = unit c k a := by
  have hc : c.concerns a' = c.concerns a := by
    cases c with
    | all => rfl
    | number i => simp only [AttemptCounter.concerns, hsame.communicationIdx]
  rw [Store.unit, Store.unit, hsame.memberId, hc]

theorem unit_of_memberless {a : Attempt} (h : a.memberId = none) (c : AttemptCounter) (k : Int) :
    unit c k a = 0 :=
  if_neg fun hall => absurd (h.symm.trans hall.1) (by simp)

section Row

variable {db db' : Db} {a a' : Attempt}

theorem tally_replace (hget : db.attempts.get? a.id = some a) (hid : a'.id = a.id)
    (hattempts : db'.attempts = db.attempts.replace a') (hhist : db'.history = db.history)
    (φ : Attempt → Int) : tally φ db' = tally φ db - φ a + φ a' := by
  grind [tally, Table.sum_replace]

theorem tally_unit_replace (hget : db.attempts.get? a.id = some a) (hsame : SameAttempt a a')
    (hattempts : db'.attempts = db.attempts.replace a') (hhist : db'.history = db.history)
    (c : AttemptCounter) (k : Int) : tally (unit c k) db' = tally (unit c k) db := by
  rw [tally_replace hget hsame.id hattempts hhist, hsame.unit]
  ring

theorem Sound.replace (h : Sound db) (hget : db.attempts.get? a.id = some a)
    (hsame : SameAttempt a a') (hschema : a'.schemaProcessing = true → a'.state = .leaving)
    (hattempts : db'.attempts = db.attempts.replace a')
    (hmembers : ∀ k m, db.members.get? k = some m →
      ∃ m', db'.members.get? k = some m' ∧ ∀ i, m.HasNumber i → m'.HasNumber i) : Sound db' := by
  have hkept : ∀ b ∈ db.attempts.rows, ∀ k, b.memberId = some k →
      b.queueId.isSome = true ∧ ∃ m, db'.members.get? k = some m ∧ m.HasNumber b.communicationIdx :=
        by
    grind [cases Sound]
  refine ⟨fun b hb => ?_, fun b hb => ?_⟩
  · rw [hattempts] at hb
    rcases Table.mem_replace.mp hb with ⟨rfl, -⟩ | ⟨hb, -⟩
    · exact hschema
    · exact h.schema b hb
  · rw [hattempts] at hb
    rcases Table.mem_replace.mp hb with ⟨rfl, -⟩ | ⟨hb, -⟩
    · rw [hsame.memberId, hsame.queueId, hsame.communicationIdx]
      exact hkept a (Table.get?_eq_some.mp hget).1
    · exact hkept b hb

theorem keeps_uncounted (hattempts : db'.attempts = db.attempts.replace a')
    (hmembers : db'.members = db.members) (hhist : db'.history = db.history) (h : Sound db)
    (hget : db.attempts.get? a.id = some a) (hsame : SameAttempt a a')
    (hschema : a'.schemaProcessing = true → a'.state = .leaving)
    (hfin : archivable a' = archivable a ∨ a.memberId = none) : Keeps db db' := by
  refine ⟨h.replace hget hsame hschema hattempts fun k m hm => ?_, fun c k => ?_, fun k => ?_,
    tally_unit_replace hget hsame hattempts hhist, fun b hb => Or.inl (hhist ▸ hb)⟩
  · exact ⟨m, hmembers ▸ hm, fun _ => id⟩
  · have hunit : finishedUnit c k a' = finishedUnit c k a := by
      rcases hfin with hfin | hnone
      · rw [finishedUnit, finishedUnit, hfin, hsame.unit]
      · rw [finishedUnit, finishedUnit, hsame.unit, unit_of_memberless hnone, ite_self, ite_self]
    rw [balance, balance, finished, finished, hmembers,
      tally_replace hget hsame.id hattempts hhist, hunit]
    ring
  · rw [hmembers]

theorem keeps_counted {now : Int} {f : Member → Member}
    (hattempts : db'.attempts = db.attempts.replace a')
    (hmembers : db'.members = (db.updateMember now a'.memberId f).members)
    (hhist : db'.history = db.history) (h : Sound db) (hget : db.attempts.get? a.id = some a)
    (hsame : SameAttempt a a') (hbefore : archivable a = false) (hafter : archivable a' = true)
    (hf : ∀ m, m.HasNumber a'.communicationIdx → CountedIn a' m (f m)) : Keeps db db' := by
  have hschema : a'.schemaProcessing = true → a'.state = .leaving := by
    intro _
    rw [archivable, Bool.and_eq_true, decide_eq_true_eq] at hafter
    exact hafter.1
  cases hmember : a.memberId with
  | none =>
    grind [cases SameAttempt, Db.updateMember, keeps_uncounted]
  | some k₀ =>
    obtain ⟨-, m, hm, hnum⟩ := h.member a (Table.get?_eq_some.mp hget).1 k₀ hmember
    rw [← hsame.communicationIdx] at hnum
    have hcounted := (hf m hnum).tg now
    -- The member's row is replaced by one with its key.
    have hreplaced : db'.members
        = db.members.replace (ccMemberSetSysDestinationsTg now m (f m)) := by
      rw [hmembers, Db.updateMember, hsame.memberId, hmember]
      simp only [Option.bind_some, hm]
    have hkey : (ccMemberSetSysDestinationsTg now m (f m)).id = k₀ :=
      hcounted.id.trans (Table.get?_eq_some.mp hm).2
    have hm' : db.members.get? (ccMemberSetSysDestinationsTg now m (f m)).id = some m := by
      rw [hkey]
      exact hm
    refine ⟨h.replace hget hsame hschema hattempts fun k n hn => ?_, fun c k => ?_, fun k => ?_,
      tally_unit_replace hget hsame hattempts hhist, fun b hb => Or.inl (hhist ▸ hb)⟩
    · by_cases hk : k = k₀
      · subst hk
        rw [hm] at hn
        rw [← Option.some.inj hn, hreplaced, ← hkey]
        exact ⟨_, Table.get?_replace hm', hcounted.keeps⟩
      all_goals grind [Table.get?_replace_of_ne]
    · have hunit : unit c k a' = if k₀ = k ∧ c.concerns a' = true then 1 else 0 := by
        simp only [unit, hsame.memberId, hmember, Option.some.injEq]
      rw [balance, balance, finished, finished, hreplaced, Table.reading_replace hm', hkey,
        tally_replace hget hsame.id hattempts hhist, hcounted.read c, finishedUnit, finishedUnit,
        hbefore, hafter, hunit]
      grind
    all_goals grind [Table.get?_replace, Table.get?_replace_of_ne]

end Row

/-! ## The condition -/

def notLeft (db : Db) (id : Int) : Prop := ∀ a, db.attempts.get? id = some a → a.state ≠ .leaving

def memberless (db : Db) (id : Int) : Prop := ∀ a, db.attempts.get? id = some a → a.memberId = none

/-- **The condition.** A row that has left is not offered, bridged, missed or left again, and
no poll selects it; a function that finishes a row without its member is not used on a
member's row; and a schema result comes for a row whose schema is running. -/
def CountedOnce (db : Db) (l : Int × Op) : Prop :=
  match l.2 with
  | .offering p => notLeft db p.id
  | .bridged id | .missedAgent id _ | .waitingAgent id => notLeft db id
  | .leaving p => notLeft db p.id
  | .abandoned p => notLeft db p.id
  | .cancelReleaseAgent id | .agentCancel id _ _ _ | .transferredTo id _ => memberless db id
  | .schemaResult p => ∀ a, db.attempts.get? p.id = some a → a.schemaProcessing = true
  | .getTimeouts nodeId => ∀ a ∈ db.attempts.rows, timedOut db l.1 nodeId a = true →
      a.state ≠ .leaving
  | .reporting _ _ | .endReporting _ | .saveToHistory _ | .transferredFrom _ _ _
  | .getChannelTimeout => True

/-! ## Each operation -/

section Ops

variable {db : Db} {now : Int}

theorem archivable_of_ne {a : Attempt} (h : a.state ≠ .leaving) : archivable a = false := by
  rw [archivable, decide_eq_false h, Bool.false_and]

theorem Sound.idle (h : Sound db) {a : Attempt} {id : Int} (hget : db.attempts.get? id = some a)
    (hstate : a.state ≠ .leaving) : a.schemaProcessing = false := by
  cases hs : a.schemaProcessing with
  | false => rfl
  | true => exact absurd (h.schema a (Table.get?_eq_some.mp hget).1 hs) hstate

theorem keeps_running {db' : Db} {a a' : Attempt} {id : Int}
    (hattempts : db'.attempts = db.attempts.replace a') (hmembers : db'.members = db.members)
    (hhist : db'.history = db.history) (h : Sound db) (hget : db.attempts.get? id = some a)
    (hsame : SameAttempt a a') (hidle : a'.schemaProcessing = a.schemaProcessing)
    (hstate : a.state ≠ .leaving) (hstate' : a'.state ≠ .leaving) : Keeps db db' := by
  refine keeps_uncounted hattempts hmembers hhist h (row_self hget) hsame (fun hs => ?_)
    (Or.inl ?_)
  · exact absurd ((h.idle hget hstate).symm.trans (hidle.symm.trans hs)) (by simp)
  · rw [archivable_of_ne hstate, archivable_of_ne hstate']

theorem keeps_offering (h : Sound db) (p : OfferingArgs) (hok : notLeft db p.id) :
    Keeps db (ccAttemptOffering now p db) := by
  refine onAttempt_induction db _ _ _ _ (Keeps.refl h) fun a hget _ => ?_
  exact keeps_running rfl rfl rfl h hget ⟨rfl, rfl, rfl, rfl⟩ rfl (hok a hget) (by simp)

theorem keeps_bridged (h : Sound db) (id : Int) (hok : notLeft db id) :
    Keeps db (ccAttemptBridged now id db) := by
  refine onAttempt_induction db _ _ _ _ (Keeps.refl h) fun a hget _ => ?_
  exact keeps_running rfl rfl rfl h hget ⟨rfl, rfl, rfl, rfl⟩ rfl (hok a hget) (by simp)

theorem keeps_missedAgent (h : Sound db) (id agentHold : Int) (hok : notLeft db id) :
    Keeps db (ccAttemptMissedAgent now id agentHold db) := by
  refine onAttempt_induction db _ _ _ _ (Keeps.refl h) fun a hget _ => ?_
  exact keeps_running rfl rfl rfl h hget ⟨rfl, rfl, rfl, rfl⟩ rfl (hok a hget)
    (by simp [backToWaiting])

theorem keeps_waitingAgent (h : Sound db) (id : Int) (hok : notLeft db id) :
    Keeps db (ccAttemptWaitingAgent now id db) := by
  refine onAttempt_induction db _ _ _ _ (Keeps.refl h) fun a hget _ => ?_
  exact keeps_running rfl rfl rfl h hget ⟨rfl, rfl, rfl, rfl⟩ rfl (hok a hget)
    (by simp [backToWaiting])

theorem keeps_reporting (h : Sound db) (id deadlineSec : Int) :
    Keeps db (setAttemptReporting now id deadlineSec db) := by
  refine onAttempt_induction db _ _ _ _ (Keeps.refl h) fun a hget _ => ?_
  by_cases hstate : a.state ≠ .leaving
  · exact keeps_running rfl rfl rfl h hget ⟨rfl, rfl, rfl, rfl⟩ rfl hstate (by simp [hstate])
  · -- The row has left already, and stays as it is but for its times.
    refine keeps_uncounted rfl rfl rfl h (row_self hget) ⟨rfl, rfl, rfl, rfl⟩ (fun _ => ?_)
      (Or.inl ?_)
    · simp only [hstate, if_false]
      exact not_not.mp hstate
    · simp only [archivable, hstate, if_false]

theorem keeps_transferredFrom (h : Sound db) (id toAgentId : Int) (agentSessId : Option String) :
    Keeps db (ccAttemptTransferredFrom now id toAgentId agentSessId db) := by
  refine onAttempt_induction db _ _ _ _ (Keeps.refl h) fun a hget _ => ?_
  have hschema := h.schema a (Table.get?_eq_some.mp hget).1
  dsimp only
  split
  · exact keeps_uncounted rfl rfl rfl h (row_self hget) ⟨rfl, rfl, rfl, rfl⟩ hschema (Or.inl rfl)
  · exact keeps_uncounted rfl rfl rfl h (row_self hget) ⟨rfl, rfl, rfl, rfl⟩ hschema (Or.inl rfl)

theorem keeps_cancelReleaseAgent (h : Sound db) (id : Int) (hok : memberless db id) :
    Keeps db (ccAttemptCancelReleaseAgent now id db) := by
  refine onAttempt_induction db _ _ _ _ (Keeps.refl h) fun a hget _ => ?_
  exact keeps_uncounted rfl rfl rfl h (row_self hget) ⟨rfl, rfl, rfl, rfl⟩ (fun _ => rfl)
    (Or.inr (hok a hget))

theorem keeps_agentCancel (h : Sound db) (id : Int) (result : String) (agentStatus : State)
    (agentHoldSec : Int) (hok : memberless db id) :
    Keeps db (ccAttemptAgentCancel now id result agentStatus agentHoldSec db) := by
  refine onAttempt_induction db _ _ _ _ (Keeps.refl h) fun a hget _ => ?_
  exact keeps_uncounted rfl rfl rfl h (row_self hget) ⟨rfl, rfl, rfl, rfl⟩ (fun _ => rfl)
    (Or.inr (hok a hget))

theorem keeps_transferredTo (h : Sound db) (id toAttemptId : Int) (hok : memberless db id) :
    Keeps db (ccAttemptTransferredTo now id toAttemptId db) := by
  refine onAttempt_induction db _ _ _ _ (Keeps.refl h) fun a hget _ => ?_
  exact keeps_uncounted rfl rfl rfl h (row_self hget) ⟨rfl, rfl, rfl, rfl⟩ (fun _ => rfl)
    (Or.inr (hok a hget))

theorem archivable_of_leaving {a : Attempt} (hstate : a.state = .leaving)
    (hidle : a.schemaProcessing = false) : archivable a = true := by
  rw [archivable, hstate, hidle]
  rfl

theorem keeps_leaving (h : Sound db) (p : LeavingArgs) (hok : notLeft db p.id) :
    Keeps db (ccAttemptLeaving now p db) := by
  refine onAttempt_induction db _ _ _ _ (Keeps.refl h) fun a hget _ => ?_
  have hidle := h.idle hget (hok a hget)
  exact keeps_counted rfl rfl rfl h (row_self hget) ⟨rfl, rfl, rfl, rfl⟩
    (archivable_of_ne (hok a hget)) (archivable_of_leaving rfl hidle)
    (fun m hm => countedIn_of_dialled hm (Or.inl rfl) rfl rfl rfl)

theorem keeps_abandoned (h : Sound db) (p : AbandonedArgs) (hok : notLeft db p.id) :
    Keeps db (ccAttemptAbandoned now p db) := by
  refine onAttempt_induction db _ _ _ _ (Keeps.refl h) fun a hget _ => ?_
  have hidle := h.idle hget (hok a hget)
  exact keeps_counted rfl rfl rfl h (row_self hget) ⟨rfl, rfl, rfl, rfl⟩
    (archivable_of_ne (hok a hget)) (archivable_of_leaving rfl hidle)
    (fun m hm => countedIn_of_dialled hm (Or.inl rfl) rfl rfl rfl)

/-- The report asks for the state of its row, so nothing has to be assumed. -/
theorem keeps_endReporting (h : Sound db) (p : ReportArgs) :
    Keeps db (endReporting now p db) := by
  refine onAttempt_induction db _ _ _ _ (Keeps.refl h) fun a hget hguard => ?_
  have hstate : a.state ≠ .leaving := of_decide_eq_true hguard
  have hbase : ∀ m : Member, (if p.onlyCurrentCommunication then
        m.communications.map (stopOthers now a.communicationIdx) else m.communications)
      = m.communications ∨ ∃ t, (if p.onlyCurrentCommunication then
        m.communications.map (stopOthers now a.communicationIdx) else m.communications)
      = m.communications.map (stopOthers t a.communicationIdx) := by
    intro m
    split
    · exact Or.inr ⟨now, rfl⟩
    · exact Or.inl rfl
  have hidle := h.idle hget hstate
  dsimp only
  split
  · exact keeps_counted rfl rfl rfl h (row_self hget) ⟨rfl, rfl, rfl, rfl⟩ (archivable_of_ne hstate)
      (archivable_of_leaving rfl hidle)
      (fun m hm => countedIn_of_dialled hm (hbase m) rfl rfl rfl)
  · exact keeps_counted rfl rfl rfl h (row_self hget) ⟨rfl, rfl, rfl, rfl⟩ (archivable_of_ne hstate)
      (archivable_of_leaving rfl hidle)
      (fun m hm => countedIn_of_dialled hm (hbase m) rfl rfl rfl)

theorem keeps_schemaResult (h : Sound db) (p : ReportArgs)
    (hok : ∀ a, db.attempts.get? p.id = some a → a.schemaProcessing = true) :
    Keeps db (ccAttemptSchemaResult now p db) := by
  refine onAttempt_induction db _ _ _ _ (Keeps.refl h) fun a hget _ => ?_
  have hrunning := hok a hget
  have hstate := h.schema a (Table.get?_eq_some.mp hget).1 hrunning
  refine keeps_counted rfl rfl rfl h (row_self hget) ⟨rfl, rfl, rfl, rfl⟩ ?_
    (archivable_of_leaving hstate rfl)
    (fun m hm => countedIn_of_dialled hm (Or.inl rfl) rfl rfl rfl)
  rw [archivable, hrunning, Bool.not_true, Bool.and_false]

/-- A row that times out counts at once, or when its schema gives a result. -/
theorem keeps_timeout (h : Sound db) (p : TimeoutArgs) (hok : notLeft db p.id) :
    Keeps db (ccAttemptTimeout now p db) := by
  refine onAttempt_induction db _ _ _ _ (Keeps.refl h) fun a hget hjoins => ?_
  have hstate := hok a hget
  dsimp only
  split
  · rename_i hleaving hq
    exact keeps_counted rfl rfl rfl h (row_self hget) ⟨rfl, rfl, rfl, rfl⟩ (archivable_of_ne hstate)
      (archivable_of_leaving rfl hleaving)
      (fun m hm => countedIn_of_dialled hm (Or.inl rfl) rfl rfl rfl)
  · rename_i hnot
    refine keeps_uncounted rfl rfl rfl h (row_self hget) ⟨rfl, rfl, rfl, rfl⟩ (fun _ => rfl) ?_
    cases hleaving : p.doLeaving with
    | true =>
      refine Or.inl ?_
      rw [archivable_of_ne hstate, archivable]
      simp
    | false =>
      -- No queue was joined in the second statement, so the attempt has none, and no member.
      refine Or.inr ?_
      cases hmember : a.memberId with
      | none => rfl
      | some k =>
        obtain ⟨hq, -⟩ := h.member a (Table.get?_eq_some.mp hget).1 k hmember
        grind [joinsQueue, Option.isSome_iff_exists]

end Ops

/-! ## A poll -/

section Poll

variable {now : Int}

/-- The rows selected are different rows, so when the turn of one comes it is still as the
statement saw it. -/
theorem keeps_timeouts (args : Attempt → TimeoutArgs) (hargs : ∀ a, (args a).id = a.id)
    (selected : List Attempt) :
    ∀ {db : Db}, Sound db → (selected.map Attempt.id).Nodup →
      (∀ a ∈ selected, db.attempts.get? a.id = some a ∧ a.state ≠ .leaving) →
      Keeps db (selected.foldl (fun db' a => ccAttemptTimeout now (args a) db') db) := by
  induction selected with
  | nil =>
    intro db h _ _
    exact Keeps.refl h
  | cons a rest ih =>
    intro db h hnodup hrows
    obtain ⟨ha, hnodup⟩ := List.nodup_cons.mp hnodup
    have hok : notLeft db (args a).id := by
      intro b hb
      grind
    have hfirst : Keeps db (ccAttemptTimeout now (args a) db) := keeps_timeout h (args a) hok
    refine hfirst.trans (ih hfirst.sound hnodup fun b hb => ?_)
    grind [timeout_get?_of_ne]

variable {db : Db} {nodeId : String}

theorem keeps_getTimeouts (h : Sound db)
    (hok : ∀ a ∈ db.attempts.rows, timedOut db now nodeId a = true → a.state ≠ .leaving) :
    Keeps db (getTimeouts now nodeId db) := by
  refine keeps_timeouts (timeoutArgs db) (fun _ => rfl) _ h ?_ fun a ha => ?_
  · exact db.attempts.nodup.sublist (List.filter_sublist.map Attempt.id)
  · obtain ⟨ha, hsel⟩ := List.mem_filter.mp ha
    exact ⟨Table.get?_eq_some.mpr ⟨ha, rfl⟩, hok a ha hsel⟩

theorem getTimeouts_get?_of_leaving
    (hok : ∀ a ∈ db.attempts.rows, timedOut db now nodeId a = true → a.state ≠ .leaving)
    {a : Attempt} (ha : a ∈ db.attempts.rows) (hleft : a.state = .leaving) :
    (getTimeouts now nodeId db).attempts.get? a.id = some a := by
  have hrow : db.attempts.get? a.id = some a := Table.get?_eq_some.mpr ⟨ha, rfl⟩
  rw [getTimeouts, timeouts_get?_of_notMem now (timeoutArgs db) (fun _ => rfl) _ ?_, hrow]
  intro hsel
  obtain ⟨b, hb, hid⟩ := List.mem_map.mp hsel
  obtain ⟨hb, hsel⟩ := List.mem_filter.mp hb
  have hab : b = a := by
    have hb' := Table.get?_eq_some.mpr ⟨hb, hid⟩
    exact Option.some.inj (hb'.symm.trans hrow)
  exact hok b hb hsel (hab ▸ hleft)

theorem tally_saveToHistory (φ : Attempt → Int) (ids : List Int) :
    tally φ (saveToHistory ids db) = tally φ db := by
  have hsplit : ∀ (moved : Attempt → Bool) (l : List Attempt),
      ((l.filter fun a => !moved a).map φ).sum + ((l.filter moved).map φ).sum
        = (l.map φ).sum := by
    intro moved l
    induction l with
    | nil => rfl
    | cons a l ih => cases hmoved : moved a <;> simp [hmoved, ← ih] <;> ring
  grind [Table.delete, archivable, saveToHistory, tally]

theorem keeps_saveToHistory (h : Sound db) (ids : List Int) : Keeps db (saveToHistory ids db) := by
  have hmembers : (saveToHistory ids db).members = db.members := by
    unfold saveToHistory
    split
    · rfl
    · rfl
  have hrows : ∀ a ∈ (saveToHistory ids db).attempts.rows, a ∈ db.attempts.rows := by
    intro a ha
    unfold saveToHistory at ha
    split at ha
    · exact (List.mem_filter.mp ha).1
    · exact ha
  refine ⟨⟨fun a ha => h.schema a (hrows a ha), fun a ha => ?_⟩, fun c k => ?_, fun k => ?_,
    fun c k => tally_saveToHistory _ ids, fun a ha => ?_⟩
  · rw [hmembers]
    exact h.member a (hrows a ha)
  all_goals grind [balance, finished, saveToHistory, finished, tally_saveToHistory]

end Poll

/-! ## Runs -/

theorem keeps_perform {db : Db} (h : Sound db) (l : Int × Op) (hok : CountedOnce db l) :
    Keeps db (perform db l.1 l.2) := by
  obtain ⟨now, op⟩ := l
  cases op with
  | offering p => exact keeps_offering h p hok
  | bridged id => exact keeps_bridged h id hok
  | reporting id deadlineSec => exact keeps_reporting h id deadlineSec
  | endReporting p =>
    simp only [perform, ccAttemptEndReporting_eq]
    exact keeps_endReporting h p
  | leaving p => exact keeps_leaving h p hok
  | abandoned p => exact keeps_abandoned h p hok
  | cancelReleaseAgent id => exact keeps_cancelReleaseAgent h id hok
  | agentCancel id result agentStatus agentHoldSec =>
    exact keeps_agentCancel h id result agentStatus agentHoldSec hok
  | missedAgent id agentHold => exact keeps_missedAgent h id agentHold hok
  | waitingAgent id => exact keeps_waitingAgent h id hok
  | schemaResult p => exact keeps_schemaResult h p hok
  | getTimeouts nodeId => exact keeps_getTimeouts h hok
  | saveToHistory ids => exact keeps_saveToHistory h ids
  | transferredFrom id toAgentId agentSessId =>
    exact keeps_transferredFrom h id toAgentId agentSessId
  | transferredTo id toAttemptId => exact keeps_transferredTo h id toAttemptId hok
  | getChannelTimeout =>
    exact ⟨⟨h.schema, h.member⟩, fun _ _ => rfl, fun _ => rfl, fun _ _ => rfl, fun _ => Or.inl⟩

theorem keeps_run {db db' : Db} (h : Sound db) (ops : List (Int × Op))
    (halong : Along storeStep CountedOnce db ops) (hrun : run storeStep db ops = some db') :
    Keeps db db' := by
  have hstep : ∀ (s : Db) (l : Int × Op) (s' : Db), Keeps db s → CountedOnce s l →
      storeStep s l = some s' → Keeps db s' := by
    intro s l s' hs hok hs'
    rw [← Option.some.inj hs']
    exact hs.trans (keeps_perform hs.sound l hok)
  exact run_invariant hstep ops (Keeps.refl h) halong hrun

theorem Keeps.read {db db' : Db} (h : Keeps db db') {k : Int} (hm : db.members.get? k = some m) :
    ∃ m', db'.members.get? k = some m'
      ∧ ∀ c : AttemptCounter, c.read m' = c.read m + (finished c k db' - finished c k db) := by
  have hsome : (db'.members.get? k).isSome = true := by
    rw [h.members k, hm]
    rfl
  obtain ⟨m', hm'⟩ := Option.isSome_iff_exists.mp hsome
  refine ⟨m', hm', fun c => ?_⟩
  have hbalance := h.balance c k
  simp only [Store.balance, Table.reading, hm, hm', Option.map_some, Option.getD_some] at hbalance
  linarith

structure OnlyAttempt (db : Db) (k : Int) (a : Attempt) : Prop where
  row : a ∈ db.attempts.rows
  member : a.memberId = some k
  unfinished : archivable a = false
  only : ∀ b ∈ db.attempts.rows, b.memberId = some k → b = a
  fresh : ∀ b ∈ db.history, b.memberId ≠ some k

theorem tally_eq_zero {db : Db} {φ : Attempt → Int} (hrows : ∀ a ∈ db.attempts.rows, φ a = 0)
    (hhist : ∀ a ∈ db.history, φ a = 0) : tally φ db = 0 := by
  rw [tally, List.map_congr_left hrows, List.map_congr_left hhist]
  simp

section Only

variable {db : Db} {k : Int} {a : Attempt} {c : AttemptCounter}

theorem OnlyAttempt.unit_history (h : OnlyAttempt db k a) :
    ∀ b ∈ db.history, unit c k b = 0 :=
  fun b hb => if_neg fun hall => h.fresh b hb hall.1

theorem OnlyAttempt.tally_unit (h : OnlyAttempt db k a) (hc : c.concerns a = true) :
    tally (unit c k) db = 1 := by
  have hcount : db.attempts.rows.count a = 1 :=
    List.count_eq_one_of_mem db.attempts.nodup.of_map h.row
  have hothers : ∀ b, b ≠ a → b ∈ db.attempts.rows → unit c k b = 0 :=
    fun b hba hb => if_neg fun hall => hba (h.only b hb hall.1)
  have hold : (db.history.map (unit c k)).sum = 0 := by
    rw [List.map_congr_left h.unit_history]
    simp
  rw [tally, hold, add_zero, List.sum_map_eq_nsmul_single a _ hothers, hcount, one_nsmul]
  exact if_pos ⟨h.member, hc⟩

theorem OnlyAttempt.tally_unit_other (h : OnlyAttempt db k a) (hc : c.concerns a = false) :
    tally (unit c k) db = 0 := by
  refine tally_eq_zero (fun b hb => if_neg fun hall => ?_) h.unit_history
  rw [h.only b hb hall.1, hc] at hall
  exact absurd hall.2 (by simp)

theorem OnlyAttempt.finished (h : OnlyAttempt db k a) : finished c k db = 0 := by
  refine tally_eq_zero (fun b hb => ?_) fun b hb => ?_
  · rw [finishedUnit]
    split
    · rename_i hfin
      refine if_neg fun hall => ?_
      rw [h.only b hb hall.1, h.unfinished] at hfin
      exact absurd hfin (by simp)
    · rfl
  · rw [finishedUnit, h.unit_history b hb, ite_self]

end Only

theorem finishedUnit_le_unit (c : AttemptCounter) (k : Int) (a : Attempt) :
    0 ≤ finishedUnit c k a ∧ finishedUnit c k a ≤ unit c k a := by
  unfold finishedUnit unit
  split <;> split <;> simp

theorem finished_le (c : AttemptCounter) (k : Int) (db : Db) :
    finished c k db ≤ tally (unit c k) db := by
  have hsum : ∀ l : List Attempt, (l.map (finishedUnit c k)).sum ≤ (l.map (unit c k)).sum :=
    fun l => List.sum_le_sum fun a _ => (finishedUnit_le_unit c k a).2
  exact add_le_add (hsum _) (hsum _)

theorem one_le_finished {db : Db} {b : Attempt} {k : Int} {c : AttemptCounter} (hb : b ∈ db.history)
    (hfin : archivable b = true) (hk : b.memberId = some k) (hc : c.concerns b = true) :
    1 ≤ finished c k db := by
  have hnonneg : ∀ (l : List Attempt), ∀ x ∈ l.map (finishedUnit c k), 0 ≤ x := by
    intro l x hx
    obtain ⟨a, -, rfl⟩ := List.mem_map.mp hx
    exact (finishedUnit_le_unit c k a).1
  have hunit : finishedUnit c k b = 1 := by
    rw [finishedUnit, if_pos hfin, unit, if_pos ⟨hk, hc⟩]
  have hle := List.single_le_sum (hnonneg db.history) (finishedUnit c k b)
    (List.mem_map.mpr ⟨b, hb, rfl⟩)
  have hrows := List.sum_nonneg (hnonneg db.attempts.rows)
  rw [finished, tally]
  linarith

theorem Keeps.grows_by_one {db db' : Db} (h : Keeps db db') {a b : Attempt} {k : Int}
    (hone : OnlyAttempt db k a) (hm : db.members.get? k = some m) (hb : b ∈ db'.history)
    (hbk : b.memberId = some k) :
    ∃ m', db'.members.get? k = some m' ∧ m'.attempts = m.attempts + 1
      ∧ m'.attemptsOf a.communicationIdx = m.attemptsOf a.communicationIdx + 1 := by
  have hfin : archivable b = true := by
    rcases h.archived b hb with hb | hb
    · exact absurd hbk (hone.fresh b hb)
    · exact hb
  have hle : ∀ c, finished c k db' ≤ tally (unit c k) db := by
    intro c
    rw [← h.attempts c k]
    exact finished_le c k db'
  -- The row in the history is that of the one attempt there was, so it has its number.
  have hidx : b.communicationIdx = a.communicationIdx := by
    by_contra hne
    have hge := one_le_finished (c := .number b.communicationIdx) hb hfin hbk (decide_eq_true rfl)
    have hle' := hle (.number b.communicationIdx)
    rw [hone.tally_unit_other (c := .number b.communicationIdx)
      (decide_eq_false (Ne.symm hne))] at hle'
    linarith
  have hafter : ∀ c : AttemptCounter, c.concerns a = true → c.concerns b = true →
      finished c k db' = 1 := by
    intro c hca hcb
    have hle' := hle c
    rw [hone.tally_unit hca] at hle'
    exact le_antisymm hle' (one_le_finished hb hfin hbk hcb)
  obtain ⟨m', hm', hread⟩ := h.read hm
  refine ⟨m', hm', ?_, ?_⟩
  · have hall := hread .all
    rw [hone.finished, hafter .all rfl rfl, sub_zero] at hall
    exact hall
  · have hnumber := hread (.number a.communicationIdx)
    rw [hone.finished, hafter (.number a.communicationIdx) (decide_eq_true rfl)
      (decide_eq_true hidx), sub_zero] at hnumber
    exact hnumber

/-- **Every finished attempt is counted once**, along runs of the store that meet the
condition. Each counter of a member moves by the number of its attempts that became
finished; in particular by one when its only attempt went to the history; and a poll
leaves every row that has left as it is. -/
theorem finished_attempts_counted_once (db db' : Db) (hsound : Sound db) (ops : List (Int × Op))
    (halong : Along storeStep CountedOnce db ops) (hrun : run storeStep db ops = some db') :
    (∀ k m, db.members.get? k = some m → ∃ m', db'.members.get? k = some m'
      ∧ ∀ c : AttemptCounter, c.read m' = c.read m + (finished c k db' - finished c k db))
    ∧ (∀ k a m, OnlyAttempt db k a → db.members.get? k = some m →
      ∀ b ∈ db'.history, b.memberId = some k →
      ∃ m', db'.members.get? k = some m' ∧ m'.attempts = m.attempts + 1
        ∧ m'.attemptsOf a.communicationIdx = m.attemptsOf a.communicationIdx + 1)
    ∧ ∀ now nodeId, CountedOnce db' (now, .getTimeouts nodeId) → ∀ a ∈ db'.attempts.rows,
      a.state = .leaving → (perform db' now (.getTimeouts nodeId)).attempts.get? a.id = some a := by
  have hkeeps := keeps_run hsound ops halong hrun
  refine ⟨fun k m hm => hkeeps.read hm, ?_, ?_⟩
  · intro k a m hone hm b hb hbk
    exact hkeeps.grows_by_one hone hm hb hbk
  · intro now nodeId hok a ha hleft
    exact getTimeouts_get?_of_leaving hok ha hleft

/-! A member with one number, its attempt in processing until 4000, and the agent's report. -/

def sampleAttempt : Attempt :=
  { Attempt.inserted 0 10 with
    queueId := some 3
    memberId := some 1
    nodeId := "node"
    agentId := some 7
    state := .processing
    timeout := some 4000
    communicationIdx := 0 }

def sampleMember : Member where
  id := 1
  domainId := 1
  queueId := 3
  bucketId := none
  skillId := none
  attempts := 0
  communications := some [⟨none, none, none, none, none⟩]
  stopAt := none
  stopCause := none
  readyAt := none
  expireAt := none
  agentId := none
  lastAgent := none
  vars := none
  sysOffsetId := none

def sampleDb : Db :=
  { Db.empty with
    attempts := .single sampleAttempt
    members := .single sampleMember
    agents := .single ⟨7, false⟩
    queues := .single ⟨3, none, none, none, none, true⟩ }

def sampleReport : ReportArgs where
  id := 10
  status := some "success"
  description := none
  expireAt := none
  nextOfferingAt := none
  stickyAgentId := none
  vars := none
  maxAttempts := 0
  waitBetweenRetries := 60
  excludeDest := false
  perNumber := false
  onlyCurrentCommunication := false

theorem sampleDb_sound : Sound sampleDb where
  schema a ha hs := by
    rw [List.mem_singleton.mp ha] at hs
    exact absurd hs (by decide)
  member a ha k hk := by
    rw [List.mem_singleton.mp ha] at hk ⊢
    cases hk
    exact ⟨rfl, sampleMember, rfl, rfl⟩

theorem sampleDb_only : OnlyAttempt sampleDb 1 sampleAttempt where
  row := List.mem_singleton.mpr rfl
  member := rfl
  unfinished := rfl
  only _ hb _ := List.mem_singleton.mp hb
  fresh _ hb := absurd hb List.not_mem_nil

/-- The report is saved to the history before the deadline passes. -/
theorem finished_attempts_counted_once_report :
    ∃ db', run storeStep sampleDb [(1000, .endReporting sampleReport), (2000, .saveToHistory [10])]
        = some db'
      ∧ ∃ m', db'.members.get? 1 = some m' ∧ m'.attempts = 0 + 1 ∧ m'.attemptsOf 0 = 0 + 1 :=
  ⟨_, rfl, (finished_attempts_counted_once sampleDb _ sampleDb_sound
    [(1000, .endReporting sampleReport), (2000, .saveToHistory [10])]
    ⟨trivial, fun _ _ => ⟨trivial, fun _ _ => trivial⟩⟩ rfl).2.1 1 sampleAttempt sampleMember
    sampleDb_only rfl _ List.mem_cons_self rfl⟩

/-- The deadline passes first: the poll counts the row again and writes over its result.
And an attempt cancelled to release its agent goes to the history without being counted. -/
theorem finished_attempt_counted_twice_or_never :
    (∃ db₁ db₂, run storeStep sampleDb [(1000, .endReporting sampleReport)] = some db₁
      ∧ (db₁.attempts.get? 10).map (fun a => (a.state, a.result)) = some (.leaving, some "success")
      ∧ run storeStep db₁ [(5000, .getTimeouts "node")] = some db₂
      ∧ (db₂.attempts.get? 10).bind Attempt.result = some "timeout"
      ∧ (db₂.members.get? 1).map (fun m => (m.attempts, m.attemptsOf 0)) = some (2, 2))
    ∧ ∃ db₁, run storeStep sampleDb
        [(1000, .cancelReleaseAgent 10), (2000, .saveToHistory [10])] = some db₁
      ∧ db₁.history.map Attempt.id = [10]
      ∧ (db₁.members.get? 1).map (fun m => (m.attempts, m.attemptsOf 0)) = some (0, 0) :=
  ⟨⟨_, _, rfl, by decide, rfl, by decide, by decide⟩, ⟨_, rfl, by decide, by decide⟩⟩

end CallCenter.Store
