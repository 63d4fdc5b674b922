import CallCenter.Store.CountingProof
import CallCenter.Store.MemberStop

/-!
# The counters of a member and of its numbers

A member counts its attempts, and each of its communications counts the attempts on it. Every
statement that finishes an attempt adds one to both; the cancel of a distribution adds to neither.
`SetBarred` counts the attempt for its number and not for the member. What is followed here is the
surplus of a member, its counter less the sum of the others.
-/

namespace CallCenter.Store

open Lib

def attemptSum (cs : List Communication) : Int := (cs.map Communication.attemptCount).sum

def Member.surplus (m : Member) : Int := m.attempts - attemptSum (m.communications.getD [])

def Member.Balanced (m : Member) : Prop := m.attempts = attemptSum (m.communications.getD [])

theorem balanced_iff_surplus {m : Member} : m.Balanced ↔ m.surplus = 0 := by
  unfold Member.Balanced Member.surplus
  omega

/-! ## The dialled communication -/

theorem attemptSum_stopOthers (time : Int) (idx : Nat) (cs : List Communication) :
    attemptSum (stopOthers time idx cs) = attemptSum cs := by
  unfold attemptSum
  refine congrArg List.sum (List.ext_getElem? fun i => ?_)
  rw [List.getElem?_map, List.getElem?_map]
  exact stopOthers_counts time idx cs i

theorem attemptSum_set {cs : List Communication} {i : Nat} {c : Communication} (hi : i < cs.length)
    (hc : c.attemptCount = (cs[i]).attemptCount + 1) :
    attemptSum (cs.set i c) = attemptSum cs + 1 := by
  grind [Communication.attemptCount, attemptSum, List.length_map, List.map_set,
    List.sum_set']

theorem attemptSum_dialled {m : Member} {base : Option (List Communication)} {attempt : Attempt}
    (hm : m.HasNumber attempt.communicationIdx)
    (hbase : base = m.communications
      ∨ ∃ t, base = m.communications.map (stopOthers t attempt.communicationIdx))
    (lastActivityAt stopAt : Option Int) :
    attemptSum ((dialled m base attempt lastActivityAt stopAt).getD [])
      = attemptSum (m.communications.getD []) + 1 := by
  obtain ⟨c, hc⟩ := Option.isSome_iff_exists.mp hm
  obtain ⟨cs, hcs, hget⟩ := Option.bind_eq_some_iff.mp hc
  obtain ⟨hlt, hat⟩ := List.getElem?_eq_some_iff.mp hget
  -- The version that is written to has the same counters.
  obtain ⟨cs', hcs', hlen, hsum, hsame⟩ : ∃ cs', base = some cs' ∧ cs'.length = cs.length
      ∧ attemptSum cs' = attemptSum cs
      ∧ (cs'[attempt.communicationIdx]?).map Communication.attemptCount
        = (cs[attempt.communicationIdx]?).map Communication.attemptCount := by
    rcases hbase with hbase | ⟨t, hbase⟩
    · exact ⟨cs, hbase.trans hcs, rfl, rfl, rfl⟩
    · rw [hcs] at hbase
      exact ⟨_, hbase, List.length_mapIdx, attemptSum_stopOthers t _ cs,
        stopOthers_counts t _ cs _⟩
  have hlt' : attempt.communicationIdx < cs'.length := hlen ▸ hlt
  have hcount : (cs'[attempt.communicationIdx]).attemptCount = c.attemptCount := by
    rw [List.getElem?_eq_getElem hlt', hget, Option.map_some, Option.map_some] at hsame
    exact Option.some.inj hsame
  have hold : m.attemptsOf attempt.communicationIdx = c.attemptCount := by
    rw [attemptsOf_eq hcs, hget]
    rfl
  unfold dialled
  rw [hcs', Option.bind_some, hc, Option.map_some, Option.getD_some, hcs, Option.getD_some, ← hsum]
  refine attemptSum_set hlt' ?_
  rw [hcount, hold]
  rfl

/-! ## One statement -/

/-- The member is there after a statement, and its surplus has grown by `d`. -/
def SurplusGrows (j : Int) (m : Member) (d : Int) (db : Db) : Prop :=
  ∃ m', db.members.get? j = some m' ∧ m'.surplus = m.surplus + d

section Statement

variable {db : Db} {now j d : Int} {m : Member}

theorem surplusGrows_refl (hm : db.members.get? j = some m) : SurplusGrows j m 0 db :=
  ⟨m, hm, (Int.add_zero _).symm⟩

theorem surplus_trigger (old new : Member) :
    (ccMemberSetSysDestinationsTg now old new).surplus = new.surplus := by
  obtain ⟨-, hattempts, hcomm⟩ := tg_keeps now old new
  unfold Member.surplus
  rw [hattempts, hcomm]

theorem surplusGrows_updateMember {id : Option Int} {f : Member → Member}
    (hm : db.members.get? j = some m) (hf : ∀ m, (f m).id = m.id)
    (hself : id = some j → (f m).surplus = m.surplus + d) (hother : id ≠ some j → d = 0) :
    SurplusGrows j m d (db.updateMember now id f) := by
  by_cases hid : id = some j
  · subst hid
    refine ⟨_, updateMember_self now hf hm, ?_⟩
    rw [surplus_trigger, hself rfl]
  · refine ⟨m, (updateMember_of_ne now hf hid).trans hm, ?_⟩
    rw [hother hid, Int.add_zero]

theorem surplusGrows_onAttempt {id : Int} {p : Attempt → Bool} {f : Attempt → Attempt}
    {rest : Attempt → Attempt → Db → Db} (hm : db.members.get? j = some m)
    (h : ∀ a, db.attempts.get? id = some a →
      SurplusGrows j m 0 (rest a (f a) { db with attempts := db.attempts.replace (f a) })) :
    SurplusGrows j m 0 (db.onAttempt id p f rest) :=
  onAttempt_induction db id p f rest (surplusGrows_refl hm) fun a ha _ => h a ha

theorem surplus_dialled {m' : Member} {base : Option (List Communication)} {attempt : Attempt}
    {lastActivityAt stopAt : Option Int} (hnumber : m.HasNumber attempt.communicationIdx)
    (hbase : base = m.communications
      ∨ ∃ t, base = m.communications.map (stopOthers t attempt.communicationIdx))
    (hattempts : m'.attempts = m.attempts + 1 + d)
    (hcomm : m'.communications = dialled m base attempt lastActivityAt stopAt) :
    m'.surplus = m.surplus + d := by
  grind [Member.surplus, attemptSum_dialled]

theorem surplus_counted {m' : Member} {base : Option (List Communication)} {attempt : Attempt}
    {lastActivityAt stopAt : Option Int} (hnumber : m.HasNumber attempt.communicationIdx)
    (hbase : base = m.communications
      ∨ ∃ t, base = m.communications.map (stopOthers t attempt.communicationIdx))
    (hattempts : m'.attempts = m.attempts + 1)
    (hcomm : m'.communications = dialled m base attempt lastActivityAt stopAt) :
    m'.surplus = m.surplus + 0 :=
  surplus_dialled hnumber hbase (hattempts.trans (Int.add_zero _).symm) hcomm

/-- The attempt is on a communication that its member has. -/
def OnNumber (db : Db) (id j : Int) (m : Member) : Prop :=
  ∀ a, db.attempts.get? id = some a → a.memberId = some j → m.HasNumber a.communicationIdx

theorem surplus_abandoned (hm : db.members.get? j = some m) {p : AbandonedArgs}
    (hon : OnNumber db p.id j m) : SurplusGrows j m 0 (ccAttemptAbandoned now p db) := by
  refine surplusGrows_onAttempt hm fun a ha => ?_
  refine surplusGrows_updateMember hm (fun _ => rfl) (fun hid => ?_) fun _ => rfl
  refine surplus_counted ?_ (.inl rfl) rfl rfl
  exact hon a ha hid

theorem surplus_leaving (hm : db.members.get? j = some m) {p : LeavingArgs}
    (hon : OnNumber db p.id j m) : SurplusGrows j m 0 (ccAttemptLeaving now p db) := by
  refine surplusGrows_onAttempt hm fun a ha => ?_
  refine surplusGrows_updateMember hm (fun _ => rfl) (fun hid => ?_) fun _ => rfl
  refine surplus_counted ?_ (.inl rfl) rfl rfl
  exact hon a ha hid

theorem surplus_endReporting (hm : db.members.get? j = some m) {p : ReportArgs}
    (hon : OnNumber db p.id j m) : SurplusGrows j m 0 (endReporting now p db) := by
  refine surplusGrows_onAttempt hm fun a ha => ?_
  have hmember : SurplusGrows j m 0 (Db.updateMember
      { db with attempts := db.attempts.replace (reported now p a) } now (reported now p a).memberId
      (reportedMember { db with attempts := db.attempts.replace (reported now p a) } now p
        (reported now p a))) := by
    refine surplusGrows_updateMember hm (fun _ => rfl) (fun hid => ?_) fun _ => rfl
    refine surplus_counted ?_ ?_ rfl rfl
    · exact hon a ha hid
    all_goals grind
  dsimp only
  split
  · exact hmember
  · exact hmember

theorem surplus_schemaResult (hm : db.members.get? j = some m) {p : ReportArgs}
    (hon : OnNumber db p.id j m) : SurplusGrows j m 0 (ccAttemptSchemaResult now p db) := by
  refine surplusGrows_onAttempt hm fun a ha => ?_
  refine surplusGrows_updateMember hm (fun _ => rfl) (fun hid => ?_) fun _ => rfl
  refine surplus_counted ?_ (.inl rfl) rfl rfl
  exact hon a ha hid

theorem surplus_timeout (hm : db.members.get? j = some m) {p : TimeoutArgs}
    (hon : OnNumber db p.id j m) : SurplusGrows j m 0 (ccAttemptTimeout now p db) := by
  refine surplusGrows_onAttempt hm fun a ha => ?_
  dsimp only
  -- The member is written unless a schema is to follow or the queue is gone.
  split
  · refine surplusGrows_updateMember hm (fun _ => rfl) (fun hid => ?_) fun _ => rfl
    refine surplus_counted ?_ (.inl rfl) rfl rfl
    exact hon a ha hid
  · exact surplusGrows_refl hm

theorem surplus_distributeCancel (hm : db.members.get? j = some m) (p : DistributeCancelArgs) :
    SurplusGrows j m 0 (ccAttemptDistributeCancel now p db) := by
  refine surplusGrows_onAttempt hm fun a _ => ?_
  exact surplusGrows_updateMember hm (fun _ => rfl) (fun _ => (Int.add_zero _).symm) fun _ => rfl

theorem surplus_setExpired (hm : db.members.get? j = some m) (ids : List Int) :
    SurplusGrows j m 0 (setExpired now ids db) := by
  obtain ⟨hmem, hid⟩ := Table.get?_eq_some.mp hm
  by_cases hexpired : (m.id ∈ ids && expired now m) = true
  · refine ⟨{ m with stopCause := some "expired", stopAt := some now }, ?_, (Int.add_zero _).symm⟩
    refine Table.get?_eq_some.mpr ⟨List.mem_map.mpr ⟨m, hmem, ?_⟩, hid⟩
    rw [if_pos hexpired]
  · refine ⟨m, Table.get?_eq_some.mpr ⟨List.mem_map.mpr ⟨m, hmem, ?_⟩, hid⟩, (Int.add_zero _).symm⟩
    rw [if_neg hexpired]

theorem surplus_setBarred (hm : db.members.get? j = some m) {id : Int} {blockAllNumbers : Bool}
    (hon : OnNumber db id j m) {a : Attempt} (ha : db.attempts.get? id = some a) :
    SurplusGrows j m (if a.memberId = some j then -1 else 0)
      (setBarred now id blockAllNumbers db) := by
  unfold setBarred Db.onAttempt
  rw [ha]
  refine surplusGrows_updateMember hm (fun _ => rfl) (fun hid => ?_) fun hne => if_neg hne
  rw [if_pos hid]
  refine surplus_dialled ?_ (.inl rfl) ?_ rfl
  · exact hon a ha hid
  · change m.attempts = m.attempts + 1 + -1
    omega

end Statement

/-! ## Every statement -/

def StopOp.attemptId : StopOp → Option Int
  | abandoned p => some p.id
  | leaving p => some p.id
  | endReporting p => some p.id
  | schemaResult p => some p.id
  | timeout p => some p.id
  | distributeCancel p => some p.id
  | setBarred id _ => some id
  | setExpired _ => none

def StopOp.Bars (db : Db) (j : Int) : StopOp → Prop
  | setBarred id _ => ∃ a, db.attempts.get? id = some a ∧ a.memberId = some j
  | _ => False

theorem surplus_stopStep {db db' : Db} {now j : Int} {m : Member} {op : StopOp}
    (hm : db.members.get? j = some m) (hon : ∀ id ∈ op.attemptId, OnNumber db id j m)
    (hstep : stopStep db (now, op) = some db') :
    (op.Bars db j ∧ SurplusGrows j m (-1) db') ∨ (¬ op.Bars db j ∧ SurplusGrows j m 0 db') := by
  cases op with
  | abandoned p =>
    cases hstep
    exact .inr ⟨not_false, surplus_abandoned hm (hon p.id rfl)⟩
  | leaving p =>
    cases hstep
    exact .inr ⟨not_false, surplus_leaving hm (hon p.id rfl)⟩
  | endReporting p =>
    refine .inr ⟨not_false, ?_⟩
    unfold stopStep ccAttemptEndReporting at hstep
    dsimp only at hstep
    split at hstep
    · rename_i db₁ hok
      split at hok
      · cases hok
      · rw [← Option.some.inj hstep, ← Except.ok.inj hok]
        exact surplus_endReporting hm (hon p.id rfl)
    · cases hstep
      exact surplusGrows_refl hm
  | schemaResult p =>
    cases hstep
    exact .inr ⟨not_false, surplus_schemaResult hm (hon p.id rfl)⟩
  | timeout p =>
    cases hstep
    exact .inr ⟨not_false, surplus_timeout hm (hon p.id rfl)⟩
  | distributeCancel p =>
    cases hstep
    exact .inr ⟨not_false, surplus_distributeCancel hm p⟩
  | setExpired ids =>
    cases hstep
    exact .inr ⟨not_false, surplus_setExpired hm ids⟩
  | setBarred id b =>
    cases hstep
    cases ha : db.attempts.get? id with
    | none =>
      refine .inr ⟨fun ⟨a, ha', _⟩ => ?_, ?_⟩
      · rw [ha] at ha'
        cases ha'
      · unfold setBarred Db.onAttempt
        rw [ha]
        exact surplusGrows_refl hm
    | some a =>
      have hgrows : SurplusGrows j m _ (setBarred now id b db) :=
        surplus_setBarred hm (hon id rfl) ha
      by_cases hj : a.memberId = some j
      · rw [if_pos hj] at hgrows
        exact .inl ⟨⟨a, ha, hj⟩, hgrows⟩
      · rw [if_neg hj] at hgrows
        refine .inr ⟨fun ⟨a', ha', hj'⟩ => ?_, hgrows⟩
        rw [ha] at ha'
        cases ha'
        exact hj hj'

/-- **The counters of a member still add up after a statement** exactly if it does not bar one of
the member's numbers. -/
theorem counters_add_up_iff {db db' : Db} {now j : Int} {m : Member} {op : StopOp}
    (hm : db.members.get? j = some m) (hbalanced : m.Balanced)
    (hon : ∀ id ∈ op.attemptId, OnNumber db id j m)
    (hstep : stopStep db (now, op) = some db') :
    ∃ m', db'.members.get? j = some m' ∧ (m'.Balanced ↔ ¬ op.Bars db j) := by
  have hzero : m.surplus = 0 := balanced_iff_surplus.mp hbalanced
  rcases surplus_stopStep hm hon hstep with ⟨hbars, m', hm', hgrows⟩ | ⟨hbars, m', hm', hgrows⟩
  all_goals grind [balanced_iff_surplus]

/-! ## A member with two numbers -/

/-- A report on the first number, which is excluded, and which stops the other one. -/
def strictReport : ReportArgs :=
  ⟨7, some "success", none, none, none, none, none, 3, 60, true, true, true⟩

theorem strictReport_adds_up :
    ∃ m', (endReporting 10 strictReport twoAttempts).members.get? 1 = some m'
      ∧ m'.attempts = 1 ∧ m'.Balanced := by
  have hm : twoAttempts.members.get? 1 = some _ := rfl
  have hstep : stopStep twoAttempts (10, .endReporting strictReport)
      = some (endReporting 10 strictReport twoAttempts) := rfl
  obtain ⟨m', hm', hiff⟩ := counters_add_up_iff hm rfl (fun id hid a ha _ => by
    cases hid
    cases ha
    rfl) hstep
  refine ⟨m', hm', ?_, hiff.mpr not_false⟩
  rw [← Option.some.inj hm']
  rfl

/-- The first number is barred: it counts the attempt, and the member does not. -/
theorem barred_number_uncounted :
    ((stopStep twoAttempts (10, .setBarred 7 false)).bind (·.members.get? 1)).map
      (fun m => (m.attempts, attemptSum (m.communications.getD []))) = some (0, 1)
    ∧ (twoAttempts.members.get? 1).map
      (fun m => (m.attempts, attemptSum (m.communications.getD []))) = some (0, 0) :=
  ⟨rfl, rfl⟩

end CallCenter.Store
