import CallCenter.Store.Reports
import CallCenter.Store.PerNumber

/-!
# A report and a saved result

`cc_attempt_end_reporting` and `cc_attempt_schema_result` are two copies of one update of the
member, and differ in two columns. The first stamps the attempt with the time, so it always has a
time to stop the member with; the second takes the time the row has, which may be none. And the
first reads the time of the next call on the member's clocks, the second on the session's.

The trigger hides part of this: it clears `ready_at` of a member with a cause, and it supplies a
time when no number is left. What remains is `ReportsAgree`.
-/

namespace CallCenter.Store

open Lib

structure SameMember (m₁ m₂ : Member) : Prop where
  stopAt : m₁.stopAt = m₂.stopAt
  stopCause : m₁.stopCause = m₂.stopCause
  readyAt : m₁.readyAt = m₂.readyAt
  expireAt : m₁.expireAt = m₂.expireAt
  agentId : m₁.agentId = m₂.agentId
  vars : m₁.vars = m₂.vars
  attempts : m₁.attempts = m₂.attempts
  communications : m₁.communications = m₂.communications

/-- The report ends the member: no next call, no earlier stop, and no other try. -/
def endsMember (callback : AttemptCallback) (cfg : ReportingConfig) (a : Attempt) (m : Member) :
    Bool :=
  callback.nextCallAt.isNone && m.stopAt.isNone
    && !(callback.status ∉ ["success", "cancel", "canceled_by_timeout"]
      && retriesLeft cfg.perNumbers cfg.maxAttempts a m)

def stopsNumber (callback : AttemptCallback) (cfg : ReportingConfig) (a : Attempt) (m : Member) :
    Bool :=
  callback.excludeCurrentCommunication.getD false
    || numberUsedUp cfg.perNumbers cfg.maxAttempts a m

/-- The member has no other open number, and the dialled one is stopped or to be stopped. -/
def LastNumber (callback : AttemptCallback) (cfg : ReportingConfig) (a : Attempt) (m : Member) :
    Prop :=
  ∃ cs, m.communications = some cs ∧ a.communicationIdx < cs.length
    ∧ ∀ k c, cs[k]? = some c → c.isOpen = true →
      k = a.communicationIdx ∧ stopsNumber callback cfg a m = true

/-- Both ways come to the same time for the next call. With a time given, the member has no zone, or
the time read on the member's clocks is the member's time read on those of the session; without
one, the callback has no wait of its own. -/
def SameReady (db : Db) (callback : AttemptCallback) (cfg : ReportingConfig) (m : Member) : Prop :=
  match callback.nextCallAt with
  | some t => ∀ z, db.zoneOf m = some z → z.ofLocal t = db.timeZone.ofLocal (z.toLocal t)
  | none => ∀ w, callback.waitBetweenRetries = some w → w % 2 ^ 64 = cfg.waitBetween

structure ReportsAgree (db : Db) (callback : AttemptCallback) (cfg : ReportingConfig) (a : Attempt)
    (m : Member) : Prop where
  /-- The attempt has not left. -/
  live : a.state ≠ .leaving
  added : callback.addCommunications = [] ∨ ¬ m.HasNumber a.communicationIdx
  /-- The attempt has a leaving time, or the report does not stop the member; or the trigger stops
  it at the same time, and the status is the cause that the trigger gives. -/
  stop : a.leavingAt ≠ none ∨ endsMember callback cfg a m = false
    ∨ (callback.status = "no_communications" ∧ LastNumber callback cfg a m)
  ready : (m.HasNumber a.communicationIdx
      ∧ (endsMember callback cfg a m = true ∨ m.stopCause ≠ none))
    ∨ SameReady db callback cfg m

/-! ## What both write -/

section Written

variable {db : Db} {now id : Int} {callback : AttemptCallback} {cfg : ReportingConfig}
  {a : Attempt} {m : Member}

def writtenNumbers (now : Int) (callback : AttemptCallback) (cfg : ReportingConfig) (a : Attempt)
    (m : Member) : Option (List Communication) :=
  dialled m m.communications a (if callback.nextCallAt.isSome then some 0 else some now)
    (if stopsNumber callback cfg a m then some now else none)

/-- The row that both write, up to the time of the stop and that of the next call. -/
def written (now : Int) (callback : AttemptCallback) (cfg : ReportingConfig) (a : Attempt)
    (stopAt readyAt : Option Int) (m : Member) : Member :=
  { m with
    vars := mergeVars m.vars callback.jsonVariables
    expireAt := callback.expireAt.or m.expireAt
    agentId := callback.stickyAgentId.or m.agentId
    stopAt := if endsMember callback cfg a m then stopAt else m.stopAt
    stopCause := if endsMember callback cfg a m then some callback.status else m.stopCause
    readyAt := readyAt
    lastAgent := a.agentId.or m.lastAgent
    communications := writtenNumbers now callback cfg a m
    attempts := m.attempts + 1 }

def reportedReady (db : Db) (now : Int) (callback : AttemptCallback) (cfg : ReportingConfig)
    (m : Member) : Option Int :=
  match callback.nextCallAt with
  | some t => (db.zoneOf m).map fun z => z.ofLocal t
  | none => some (now + sec ((callback.waitBetweenRetries.map (· % 2 ^ 64)).getD cfg.waitBetween))

def savedReady (db : Db) (now : Int) (callback : AttemptCallback) (cfg : ReportingConfig)
    (m : Member) : Option Int :=
  match callback.nextCallAt with
  | some t => (db.zoneOf m).map fun z => db.timeZone.ofLocal (z.toLocal t)
  | none => some (now + sec cfg.waitBetween)

/-- The member's row after a report, and after a result was saved. -/
def reportedRow (db : Db) (now : Int) (callback : AttemptCallback) (cfg : ReportingConfig)
    (a : Attempt) (m : Member) : Member :=
  ccMemberSetSysDestinationsTg now m (written now callback cfg a (a.leavingAt.or (some now))
    (reportedReady db now callback cfg m) m)

@[inherit_doc reportedRow]
def savedRow (db : Db) (now : Int) (callback : AttemptCallback) (cfg : ReportingConfig)
    (a : Attempt) (m : Member) : Member :=
  ccMemberSetSysDestinationsTg now m (written now callback cfg a a.leavingAt
    (savedReady db now callback cfg m) m)

theorem again_eq (callback : AttemptCallback) (cfg : ReportingConfig) (a : Attempt) (m : Member) :
    (callback.nextCallAt.isSome || m.stopAt.isSome
      || (callback.status ∉ ["success", "cancel", "canceled_by_timeout"]
        && retriesLeft cfg.perNumbers cfg.maxAttempts a m)) = !endsMember callback cfg a m := by
  unfold endsMember
  rw [Bool.not_and, Bool.not_and, Bool.not_not, Option.not_isNone, Option.not_isNone]

theorem reportedMember_eq (id : Int) (honly : callback.onlyCurrentCommunication ≠ some true) :
    reportedMember db now (callbackReportingArgs id callback cfg)
        (reported now (callbackReportingArgs id callback cfg) a) m
      = written now callback cfg a (a.leavingAt.or (some now))
          (reportedReady db now callback cfg m) m := by
  let p := callbackReportingArgs id callback cfg
  have hflag : p.onlyCurrentCommunication = false := by
    show callback.onlyCurrentCommunication.getD false = false
    cases hcase : callback.onlyCurrentCommunication with
    | none => rfl
    | some b =>
      cases b with
      | true => exact absurd hcase honly
      | false => rfl
  have hagain : (p.nextOfferingAt.isSome || m.stopAt.isSome || p.onlyCurrentCommunication
      || (resultNotIn ["success", "cancel", "canceled_by_timeout"] (reported now p a)
        && retriesLeft p.perNumber p.maxAttempts (reported now p a) m))
      = !endsMember callback cfg a m := by
    rw [hflag, Bool.or_false]
    exact again_eq callback cfg a m
  show reportedMember db now p (reported now p a) m = _
  unfold reportedMember written
  rw [hagain, hflag]
  cases endsMember callback cfg a m with
  | true => rfl
  | false => rfl

theorem savedMember_eq (id : Int) :
    savedMember db now (schemaResultArgs id callback cfg)
        (saved (schemaResultArgs id callback cfg) a) m
      = written now callback cfg a a.leavingAt (savedReady db now callback cfg m) m := by
  let p := schemaResultArgs id callback cfg
  have hagain : (p.nextOfferingAt.isSome || m.stopAt.isSome
      || (resultNotIn ["success", "cancel", "canceled_by_timeout"] (saved p a)
        && retriesLeft p.perNumber p.maxAttempts (saved p a) m)) = !endsMember callback cfg a m :=
    again_eq callback cfg a m
  show savedMember db now p (saved p a) m = _
  unfold savedMember written
  rw [hagain]
  cases endsMember callback cfg a m with
  | true => rfl
  | false => rfl

section Rows

variable {j : Int} (ha : db.attempts.get? id = some a) (hj : a.memberId = some j)
  (hm : db.members.get? j = some m)

include ha hj hm

theorem schemaResult_member (now : Int) (callback : AttemptCallback) (cfg : ReportingConfig) :
    ((schemaResult now id callback cfg db).getD db).members.get? j
      = some (savedRow db now callback cfg a m) := by
  let p := schemaResultArgs id callback cfg
  have hrow : ccAttemptSchemaResult now p db
      = Db.updateMember { db with attempts := db.attempts.replace (saved p a) } now a.memberId
          (savedMember db now p (saved p a)) := by
    unfold ccAttemptSchemaResult Db.onAttempt
    rw [show p.id = id from rfl, ha]
    rfl
  unfold schemaResult
  rw [ha, Option.isSome_some, if_pos rfl, Option.getD_some, hrow, hj]
  unfold savedRow
  rw [← savedMember_eq id]
  exact updateMember_self now (fun _ => rfl) hm

theorem endReporting_member (now : Int) (cfg : ReportingConfig) (hlive : a.state ≠ .leaving)
    (honly : callback.onlyCurrentCommunication ≠ some true) :
    (endReporting now (callbackReportingArgs id callback cfg) db).members.get? j
      = some (reportedRow db now callback cfg a m) := by
  let p := callbackReportingArgs id callback cfg
  have hmember : (Db.updateMember { db with attempts := db.attempts.replace (reported now p a) }
      now (some j) (reportedMember db now p (reported now p a))).members.get? j
      = some (reportedRow db now callback cfg a m) := by
    unfold reportedRow
    rw [← reportedMember_eq id honly]
    exact updateMember_self now (fun _ => rfl) hm
  show (endReporting now p db).members.get? j = _
  unfold endReporting Db.onAttempt
  rw [show p.id = id from rfl, ha]
  dsimp only
  rw [if_pos (decide_eq_true hlive), show (reported now p a).memberId = some j from hj]
  split
  · exact hmember
  · exact hmember

end Rows

/-! ## Where they differ -/

theorem triggers_written (stopAt readyAt : Option Int) :
    triggers m (written now callback cfg a stopAt readyAt m) = true
      ↔ m.HasNumber a.communicationIdx := by
  unfold triggers Member.HasNumber written writtenNumbers
  cases hcs : m.communications with
  | none =>
    rw [Option.bind_none]
    exact ⟨fun h => Bool.noConfusion h, fun h => Bool.noConfusion h⟩
  | some cs =>
    cases hc : cs[a.communicationIdx]? with
    | none =>
      unfold dialled
      rw [Option.bind_some, Option.bind_some, hcs, Option.bind_some, hc]
      exact ⟨fun h => Bool.noConfusion h, fun h => Bool.noConfusion h⟩
    | some c =>
      rw [← hcs, dialled_eq hcs hc, hcs, Option.bind_some, hc]
      dsimp only
      rw [decide_eq_true (set_redialled_ne hc _ _)]
      exact ⟨fun _ => rfl, fun _ => rfl⟩

theorem hasNumber_iff {idx : Nat} :
    m.HasNumber idx ↔ ∃ cs c, m.communications = some cs ∧ cs[idx]? = some c := by
  grind [Member.HasNumber, Option.bind_eq_some_iff, Option.isSome_iff_exists]

theorem noneOpen_written (hnow : now ≠ 0) :
    (m.HasNumber a.communicationIdx
      ∧ (((writtenNumbers now callback cfg a m).getD []).filter Communication.isOpen).isEmpty
        = true) ↔ LastNumber callback cfg a m := by
  rw [filter_isOpen_isEmpty]
  unfold writtenNumbers
  have hopen : ∀ x : Communication, x.isOpen = true ↔ x.stopAt.getD 0 = 0 := fun _ =>
    decide_eq_true_iff
  constructor
  · rintro ⟨hnumber, hall⟩
    obtain ⟨cs, c, hcs, hc⟩ := hasNumber_iff.mp hnumber
    have hlt : a.communicationIdx < cs.length := (List.getElem?_eq_some_iff.mp hc).1
    rw [dialled_eq hcs hc, Option.getD_some, allStopped_set_iff hlt] at hall
    obtain ⟨hself, hothers⟩ := hall
    refine ⟨cs, hcs, hlt, fun k x hx hx0 => ?_⟩
    rw [hopen] at hx0
    by_cases hk : k = a.communicationIdx
    · refine ⟨hk, ?_⟩
      by_contra hstops
      rw [if_neg hstops] at hself
      rw [hk, hc] at hx
      rw [← Option.some.inj hx] at hx0
      exact hself hx0
    · exact absurd hx0 (hothers k x hk hx)
  · rintro ⟨cs, hcs, hlt, hlast⟩
    have hc : cs[a.communicationIdx]? = some cs[a.communicationIdx] :=
      List.getElem?_eq_getElem hlt
    refine ⟨hasNumber_iff.mpr ⟨cs, _, hcs, hc⟩, ?_⟩
    rw [dialled_eq hcs hc, Option.getD_some, allStopped_set_iff hlt]
    refine ⟨fun h0 => ?_, fun k x hk hx h0 => hk (hlast k x hx ((hopen x).mpr h0)).1⟩
    by_cases hstops : stopsNumber callback cfg a m = true
    · rw [if_pos hstops] at h0
      exact hnow h0
    · rw [if_neg hstops] at h0
      exact hstops (hlast _ _ hc ((hopen _).mpr h0)).2

/-- The two columns of the stop, as they are after the trigger: `runs` says whether the trigger
runs, and `spent` whether it finds no open number. -/
theorem stop_agrees_iff (runs spent ends : Bool) (now : Int) (leavingAt stopAt : Option Int)
    (status : String) (stopCause : Option String) :
    ((if runs && ((if ends then leavingAt.or (some now) else stopAt).isNone && spent)
          then some now else if ends then leavingAt.or (some now) else stopAt)
        = (if runs && ((if ends then leavingAt else stopAt).isNone && spent)
          then some now else if ends then leavingAt else stopAt)
      ∧ (if runs && ((if ends then leavingAt.or (some now) else stopAt).isNone && spent)
          then some "no_communications" else if ends then some status else stopCause)
        = (if runs && ((if ends then leavingAt else stopAt).isNone && spent)
          then some "no_communications" else if ends then some status else stopCause))
      ↔ leavingAt ≠ none ∨ ends = false
        ∨ (status = "no_communications" ∧ (runs = true ∧ spent = true)) := by
  cases ends with
  | false => exact ⟨fun _ => .inr (.inl rfl), fun _ => ⟨rfl, rfl⟩⟩
  | true =>
    cases leavingAt with
    | some t => exact ⟨fun _ => .inl (Option.some_ne_none t), fun _ => ⟨rfl, rfl⟩⟩
    | none =>
      grind

theorem ready_agrees_iff (runs cause : Bool) (r₁ r₂ : Option Int) :
    (if runs && cause then none else r₁) = (if runs && cause then none else r₂)
      ↔ (runs = true ∧ cause = true) ∨ r₁ = r₂ := by
  rw [← Bool.and_eq_true]
  cases runs && cause with
  | true => exact ⟨fun _ => .inl rfl, fun _ => rfl⟩
  | false => exact ⟨.inr, fun h => h.resolve_left Bool.false_ne_true⟩

theorem reportedReady_eq_iff :
    reportedReady db now callback cfg m = savedReady db now callback cfg m
      ↔ SameReady db callback cfg m := by
  unfold reportedReady savedReady SameReady
  cases callback.nextCallAt with
  | some t =>
    cases db.zoneOf m with
    | none => exact ⟨fun _ z hz => absurd hz.symm (Option.some_ne_none z), fun _ => rfl⟩
    | some z =>
      refine ⟨fun h z' hz => ?_, fun h => congrArg some (h z rfl)⟩
      cases hz
      exact Option.some.inj h
  | none =>
    cases callback.waitBetweenRetries with
    | none => exact ⟨fun _ w hw => absurd hw.symm (Option.some_ne_none w), fun _ => rfl⟩
    | some w =>
      unfold sec
      dsimp only [Option.map_some, Option.getD_some]
      constructor
      · intro h w' hw
        cases hw
        have := Option.some.inj h
        omega
      · intro h
        rw [h w rfl]

/-- **The two rows agree** after the trigger on either. -/
theorem sameMember_iff (hnow : now ≠ 0) :
    SameMember (reportedRow db now callback cfg a m) (savedRow db now callback cfg a m)
      ↔ (a.leavingAt ≠ none ∨ endsMember callback cfg a m = false
          ∨ (callback.status = "no_communications" ∧ LastNumber callback cfg a m))
        ∧ ((m.HasNumber a.communicationIdx
            ∧ (endsMember callback cfg a m = true ∨ m.stopCause ≠ none))
          ∨ SameReady db callback cfg m) := by
  have hstop := stop_agrees_iff (triggers m (written now callback cfg a none none m))
    (((writtenNumbers now callback cfg a m).getD []).filter Communication.isOpen).isEmpty
    (endsMember callback cfg a m) now a.leavingAt m.stopAt callback.status m.stopCause
  rw [triggers_written, noneOpen_written hnow] at hstop
  have hready := ready_agrees_iff (triggers m (written now callback cfg a none none m))
    (if endsMember callback cfg a m then some callback.status else m.stopCause).isSome
    (reportedReady db now callback cfg m) (savedReady db now callback cfg m)
  have hcause : (if endsMember callback cfg a m then some callback.status else m.stopCause).isSome
      = true ↔ endsMember callback cfg a m = true ∨ m.stopCause ≠ none := by
    cases endsMember callback cfg a m with
    | true => exact ⟨fun _ => .inl rfl, fun _ => rfl⟩
    | false =>
      rw [if_neg Bool.false_ne_true, Option.isSome_iff_ne_none]
      exact ⟨.inr, fun h => h.resolve_left Bool.false_ne_true⟩
  rw [reportedReady_eq_iff, triggers_written, hcause] at hready
  unfold reportedRow savedRow
  rw [← hstop, ← hready, trigger_eq, trigger_eq]
  constructor
  · intro h
    exact ⟨⟨h.stopAt, h.stopCause⟩, h.readyAt⟩
  · rintro ⟨⟨hat, hcause⟩, hready⟩
    exact ⟨hat, hcause, hready, rfl, rfl, rfl, rfl, rfl⟩

/-! ## Both functions -/

theorem callbackReporting_eq (ha : db.attempts.get? id = some a) :
    callbackReporting now id callback cfg db
      = if a.state = .leaving then none
        else if callback.addCommunications = [] then
          some (endReporting now (callbackReportingArgs id callback cfg) db)
        else some (addCommunications now a.memberId callback.addCommunications
          (endReporting now (callbackReportingArgs id callback cfg) db)) := by
  have hok : ccAttemptEndReporting now (callbackReportingArgs id callback cfg) db
      = .ok (endReporting now (callbackReportingArgs id callback cfg) db) :=
    ccAttemptEndReporting_eq now (callbackReportingArgs id callback cfg) db
  unfold callbackReporting
  rw [ha, hok]

theorem addCommunications_member (now : Int) (types : List Int) {j : Int} {db' : Db} {m' : Member}
    (hm' : db'.members.get? j = some m') :
    ∃ m'', (addCommunications now (some j) types db').members.get? j = some m''
      ∧ m''.communications = m'.communications.map (· ++ types.map fun t =>
        ⟨some t, none, none, none, none⟩)
      ∧ (m'.communications = none → m'' = m') := by
  refine ⟨_, updateMember_self now (fun _ => rfl) hm', (tg_keeps now m' _).2.2, fun hnone => ?_⟩
  have hrow : { m' with communications := m'.communications.map (· ++ types.map fun t =>
      ⟨some t, none, none, none, none⟩) } = m' := by
    rw [hnone, Option.map_none, ← hnone]
  rw [hrow, trigger_eq]
  have hruns : triggers m' m' = false := by
    unfold triggers
    rw [hnone]
  unfold triggerStops
  rw [hruns]
  rfl

theorem writtenNumbers_none (h : ¬ m.HasNumber a.communicationIdx) :
    writtenNumbers now callback cfg a m = none := by
  unfold Member.HasNumber at h
  rw [Bool.not_eq_true, Option.isSome_eq_false_iff, Option.isNone_iff_eq_none] at h
  unfold writtenNumbers dialled
  rw [h]
  cases m.communications with
  | none => rfl
  | some cs => rfl

theorem row_communications :
    (reportedRow db now callback cfg a m).communications = writtenNumbers now callback cfg a m
      ∧ (savedRow db now callback cfg a m).communications
        = writtenNumbers now callback cfg a m := by
  unfold reportedRow savedRow
  rw [trigger_eq, trigger_eq]
  exact ⟨rfl, rfl⟩

/-- **The member after `CallbackReporting`** of an attempt that has not left: the reported row, or
one with more numbers than a saved result leaves. -/
theorem callbackReporting_member (now : Int) (cfg : ReportingConfig) {j : Int}
    (ha : db.attempts.get? id = some a)
    (hj : a.memberId = some j) (hm : db.members.get? j = some m) (hlive : a.state ≠ .leaving)
    (honly : callback.onlyCurrentCommunication ≠ some true) :
    ∃ m₁, ((callbackReporting now id callback cfg db).getD db).members.get? j = some m₁
      ∧ if callback.addCommunications = [] ∨ ¬ m.HasNumber a.communicationIdx then
          m₁ = reportedRow db now callback cfg a m
        else m₁.communications ≠ (savedRow db now callback cfg a m).communications := by
  have hreported := endReporting_member ha hj hm now cfg hlive honly
  rw [callbackReporting_eq ha, if_neg hlive]
  by_cases hadd : callback.addCommunications = []
  · rw [if_pos hadd]
    refine ⟨_, hreported, ?_⟩
    rw [if_pos (.inl hadd)]
  rw [if_neg hadd, hj]
  obtain ⟨m₁, hm₁, hnumbers, hsame⟩ :=
    addCommunications_member now callback.addCommunications hreported
  refine ⟨m₁, hm₁, ?_⟩
  by_cases hnumber : m.HasNumber a.communicationIdx
  · obtain ⟨cs, c, hcs, hc⟩ := hasNumber_iff.mp hnumber
    have hwritten : writtenNumbers now callback cfg a m = some _ := dialled_eq hcs hc _ _
    rw [if_neg (not_or.mpr ⟨hadd, not_not.mpr hnumber⟩), hnumbers, row_communications.1,
      row_communications.2, hwritten, Option.map_some]
    intro heq
    have hnil := List.append_right_eq_self.mp (Option.some.inj heq)
    exact hadd (List.map_eq_nil_iff.mp hnil)
  · rw [if_pos (.inr hnumber)]
    exact hsame (row_communications.1.trans (writtenNumbers_none hnumber))

/-- **A report and a saved result do the same to the member** exactly under this condition. -/
theorem reports_agree_iff {j : Int} (hnow : now ≠ 0) (ha : db.attempts.get? id = some a)
    (hj : a.memberId = some j) (hm : db.members.get? j = some m)
    (honly : callback.onlyCurrentCommunication ≠ some true) :
    (∃ m₁ m₂, ((callbackReporting now id callback cfg db).getD db).members.get? j = some m₁
        ∧ ((schemaResult now id callback cfg db).getD db).members.get? j = some m₂
        ∧ SameMember m₁ m₂) ↔ ReportsAgree db callback cfg a m := by
  rw [schemaResult_member ha hj hm]
  by_cases hleft : a.state = .leaving
  · -- The report finds no attempt, and the saved result counts one more.
    rw [callbackReporting_eq ha, if_pos hleft]
    constructor
    · rintro ⟨m₁, m₂, hm₁, hm₂, hsame⟩
      have hcount := hsame.attempts
      rw [← Option.some.inj (hm.symm.trans hm₁), ← Option.some.inj hm₂] at hcount
      have hsaved : (savedRow db now callback cfg a m).attempts = m.attempts + 1 := by
        unfold savedRow
        rw [trigger_eq]
        rfl
      omega
    · intro h
      exact absurd hleft h.live
  · obtain ⟨m₁, hm₁, hrow⟩ := callbackReporting_member now cfg ha hj hm hleft honly
    rw [hm₁]
    by_cases hadd : callback.addCommunications = [] ∨ ¬ m.HasNumber a.communicationIdx
    · rw [if_pos hadd] at hrow
      constructor
      · rintro ⟨m₁', m₂, hm₁', hm₂, hsame⟩
        rw [← Option.some.inj hm₁', ← Option.some.inj hm₂, hrow, sameMember_iff hnow] at hsame
        exact ⟨hleft, hadd, hsame.1, hsame.2⟩
      · intro h
        exact ⟨_, _, rfl, rfl, hrow ▸ (sameMember_iff hnow).mpr ⟨h.stop, h.ready⟩⟩
    · rw [if_neg hadd] at hrow
      constructor
      · rintro ⟨m₁', m₂, hm₁', hm₂, hsame⟩
        rw [← Option.some.inj hm₁', ← Option.some.inj hm₂] at hsame
        exact absurd hsame.communications hrow
      · intro h
        exact absurd h.added hadd

end Written

/-- A member in a zone and an attempt on its only number that waits for a report. -/
def reporting (offset : Int) (leavingAt : Option Int) : Db :=
  { Db.empty with
    attempts := .single { Attempt.inserted 0 7 with
      memberId := some 1, communicationIdx := 0, state := .processing, leavingAt := leavingAt }
    members := .single ⟨1, 1, 1, none, none, 0, some [⟨none, none, none, none, none⟩], none, none,
      none, none, none, none, none, some 2⟩
    zones := fun _ => some (.fixed offset) }

def reportAt (status : String) (nextCallAt : Option Int) : AttemptCallback :=
  { status := status, nextCallAt := nextCallAt, expireAt := none, description := "", vars := [],
    stickyAgentId := none, excludeCurrentCommunication := none, waitBetweenRetries := none,
    onlyCurrentCommunication := none }

/-- The time of the next call of a member whose clocks are those of the session. -/
theorem reports_agree_in_utc :
    ∃ m₁ m₂, ((callbackReporting 10 7 (reportAt "failed" (some 90)) ⟨60, 3, false⟩
          (reporting 0 (some 5))).getD (reporting 0 (some 5))).members.get? 1 = some m₁
      ∧ ((schemaResult 10 7 (reportAt "failed" (some 90)) ⟨60, 3, false⟩
          (reporting 0 (some 5))).getD (reporting 0 (some 5))).members.get? 1 = some m₂
      ∧ SameMember m₁ m₂ := by
  refine (reports_agree_iff (by decide) rfl rfl rfl (Option.some_ne_none true).symm).mpr
    ⟨fun h => State.noConfusion h, .inl rfl, .inl (Option.some_ne_none 5), .inr fun z hz => ?_⟩
  cases hz
  rfl

/-- Two hours east of the session, a call that the report plans two hours earlier is saved two hours
later; and a result that is saved for an attempt without a leaving time gives a cause and no
time. -/
theorem reports_differ :
    let readyAt := fun db : Option Db => (db.bind (·.members.get? 1)).map Member.readyAt
    let stop := fun db : Option Db =>
      (db.bind (·.members.get? 1)).map fun m => (m.stopAt, m.stopCause)
    let east := reporting 7200000 (some 5)
    let fresh := reporting 0 none
    let next := reportAt "failed" (some 90000000)
    let success := reportAt "success" none
    readyAt (callbackReporting 10 7 next ⟨60, 3, false⟩ east) = some (some 82800000)
      ∧ readyAt (schemaResult 10 7 next ⟨60, 3, false⟩ east) = some (some 97200000)
      ∧ stop (callbackReporting 10 7 success ⟨60, 3, false⟩ fresh)
        = some (some 10, some "success")
      ∧ stop (schemaResult 10 7 success ⟨60, 3, false⟩ fresh) = some (none, some "success") := by
  exact ⟨rfl, rfl, rfl, rfl⟩

/-! ## A next call in the past -/

/-- The report that the check at the head of `cc_attempt_end_reporting` is there to refuse. -/
def ReportsPast (db : Db) (now : Int) (p : ReportArgs) : Prop :=
  p.status ∉ [some "success", some "cancel", some "canceled_by_timeout"]
    ∧ ∃ t, p.nextOfferingAt = some t ∧ db.timeZone.ofLocal t < now

/-- The database after the statement: an exception takes back what it has written. -/
def afterReport (now : Int) (p : ReportArgs) (db : Db) : Db :=
  match ccAttemptEndReporting now p db with
  | .ok db' => db'
  | .error _ => db

/-- A report into the past is refused and changes no row, and no other report is refused. -/
structure PastRefused (db : Db) (now : Int) (p : ReportArgs) : Prop where
  raises : ReportsPast db now p →
    ccAttemptEndReporting now p db = .error "bad parameter: next distribute at"
  unchanged : ReportsPast db now p → (afterReport now p db).attempts = db.attempts
    ∧ (afterReport now p db).members = db.members ∧ (afterReport now p db).channels = db.channels
  onlyThen : ¬ReportsPast db now p →
    ccAttemptEndReporting now p db ≠ .error "bad parameter: next distribute at"

/-- **No report is refused**, so the check does what it is for only where there is nothing to
refuse. -/
theorem past_refused_iff (db : Db) (now : Int) (p : ReportArgs) :
    PastRefused db now p ↔ ¬ReportsPast db now p := by
  have haccepted : ccAttemptEndReporting now p db ≠ .error "bad parameter: next distribute at" := by
    rw [ccAttemptEndReporting_eq]
    exact nofun
  constructor
  · intro h hpast
    exact haccepted (h.raises hpast)
  · intro hpast
    exact ⟨fun h => absurd h hpast, fun h => absurd h hpast, fun _ => haccepted⟩

/-- A failed attempt whose next call was due ten milliseconds ago leaves, and its member is to be
called then. -/
theorem past_accepted :
    let p := callbackReportingArgs 7 (reportAt "failed" (some 90)) ⟨60, 3, false⟩
    let db := reporting 0 none
    ReportsPast db 100 p
      ∧ (ccAttemptEndReporting 100 p db).toOption.isSome = true
      ∧ ((afterReport 100 p db).attempts.get? 7).map Attempt.state = some .leaving
      ∧ ((afterReport 100 p db).members.get? 1).map Member.readyAt = some (some 90) := by
  exact ⟨⟨by decide, 90, rfl, by decide⟩, rfl, rfl, rfl⟩

end CallCenter.Store
