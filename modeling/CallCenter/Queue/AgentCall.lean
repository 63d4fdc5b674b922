import CallCenter.Lib.Ranges
import CallCenter.Store.Rows

/-!
# The call to the agent

`AgentCallRequest` makes the request for the agent's leg. Its variables are merged from four maps,
the later ones winning: what the attempt exports of its member's variables, those of the queue,
those of the agent, and the function's own. The member's variables are exported under keys that
begin with `usr_`; only a key that begins with `sip_h_` or `wbt_` is kept.

The merge skips empty values, and `wbt_from_id` is set only for an attempt with a member: where
nobody else has something to say, the member's variable is what the call is made with.
-/

namespace CallCenter.Queue

open Lib Store

abbrev StringMap := AList fun _ : String => String

def hasPrefixOf (s start : String) : Bool := start.toList.isPrefixOf s.toList

def unionStringMaps (src : List StringMap) : StringMap :=
  src.foldl (fun res m => copyInto id (fun k v => k ≠ "" && v ≠ "") m res) ∅

/-! ## The parties -/

structure RingtoneFile where
  id : Int
  mimeType : String

/-- `RingtoneUri`, with the host of the files: that of the call manager, or a variable that the
switch expands. -/
def ringtoneUri (host : String) (domainId : Int) (file : RingtoneFile) : String :=
  if file.mimeType = "audio/mp3" ∨ file.mimeType = "audio/mpeg" then
    "shout://" ++ host ++ "/sys/media/" ++ toString file.id ++ "/stream?domain_id="
      ++ toString domainId ++ "&.mp3"
  else if file.mimeType = "audio/wav" then
    "http_cache://http://" ++ host ++ "/sys/media/" ++ toString file.id ++ "/stream?domain_id="
      ++ toString domainId ++ "&.wav"
  else ""

structure CallAgent where
  id : Int
  userId : Int
  domainId : Int
  name : String
  extension : Option String
  destination : Option String
  vars : StringMap
  hasPush : Bool
  greetingMedia : Option RingtoneFile

def CallAgent.callNumber (agent : CallAgent) : String := agent.extension.getD ""

def CallAgent.callEndpoints (agent : CallAgent) : List String := agent.destination.toList

structure CallTeam where
  id : Int
  callTimeout : Nat

/-- A queue for calls. Its type decides about its name only. -/
structure CallingQueue where
  id : Int
  domainId : Int
  name : String
  typeId : Nat
  processing : Bool
  vars : StringMap
  holdMusic : Option RingtoneFile
  cdr : String

def CallingQueue.typeName (queue : CallingQueue) : String :=
  match queue.typeId with
  | 0 => "offline"
  | 1 => "inbound"
  | 2 => "ivr"
  | 3 => "preview"
  | 4 => "progressive"
  | 5 => "predictive"
  | 6 => "inbound chat"
  | 7 => "task"
  | 8 => "outbound_task"
  | 9 => "im"
  | 10 => "outbound_call"
  | _ => "NOT_IMPLEMENT"

structure CallAttempt where
  id : Int
  channel : Channel
  /-- The column, which may be zero. -/
  member : Option Int
  name : String
  destination : String
  seq : Option Int
  vars : StringMap

def CallAttempt.memberId (attempt : CallAttempt) : Option Int := attempt.member.filter (· ≠ 0)

def CallAttempt.exportKey (attempt : CallAttempt) (k : String) : String :=
  if attempt.channel = .call && !hasPrefixOf k "sip_h_" && !hasPrefixOf k "wbt_" then "usr_" ++ k
  else k

def CallAttempt.exportVariables (attempt : CallAttempt) : StringMap :=
  let res := copyInto attempt.exportKey (fun _ _ => true) attempt.vars ∅
  match attempt.seq with
  | none => res
  | some seq => res.insert "cc_attempt_seq" (toString seq)

structure Caller where
  number : String
  name : String

structure CallRequestApplication where
  appName : String
  args : String

structure CallRequest where
  endpoints : List String
  /-- `CALL_STRATEGY_DEFAULT` is zero. -/
  strategy : Nat
  destination : String
  originationNumber : String
  vars : StringMap
  timeout : Nat
  applications : List CallRequestApplication

/-! ## The request -/

section Request

variable (queue : CallingQueue) (agent : CallAgent) (team : CallTeam) (attempt : CallAttempt)
  (caller : Caller)

def ownVariables : StringMap :=
  List.toAList [
    ⟨"hangup_after_bridge", "true"⟩,
    ⟨"ignore_display_updates", "true"⟩,
    ⟨"cc_reporting", toString queue.processing⟩,
    ⟨"sip_h_X-Webitel-Domain-Id", toString queue.domainId⟩,
    ⟨"sip_h_X-Webitel-User-Id", toString agent.userId⟩,
    ⟨"bridge_export_vars", "cc_agent_id"⟩,
    ⟨"sip_h_X-Webitel-Direction", "internal"⟩,
    ⟨"wbt_destination", attempt.destination⟩,
    ⟨"wbt_to_id", toString agent.userId⟩,
    ⟨"wbt_to_number", agent.callNumber⟩,
    ⟨"wbt_to_name", agent.name⟩,
    ⟨"wbt_to_type", "user"⟩,
    ⟨"wbt_from_name", attempt.name⟩,
    ⟨"wbt_from_type", "member"⟩,
    ⟨"wbt_from_number", attempt.destination⟩,
    ⟨"origination_caller_id_name", caller.name⟩,
    ⟨"origination_caller_id_number", caller.number⟩,
    ⟨"cc_agent_id", toString agent.id⟩,
    ⟨"cc_team_id", toString team.id⟩,
    ⟨"cc_queue_name", queue.name⟩,
    ⟨"cc_queue_type", queue.typeName⟩,
    ⟨"cc_attempt_id", toString attempt.id⟩]

def setPush (vars : StringMap) : StringMap := vars.insert "execute_on_originate" "wbt_send_hook"

def setHoldMusic (vars : StringMap) : StringMap :=
  match queue.holdMusic with
  | none => vars
  | some file =>
    let uri := ringtoneUri queue.cdr queue.domainId file
    (vars.insert "hold_music" uri).insert "transfer_ringback" uri

def setIds (vars : StringMap) : StringMap :=
  let vars := if queue.id > 0 then vars.insert "cc_queue_id" (toString queue.id) else vars
  match attempt.memberId with
  | none => vars
  | some memberId =>
    let vars := vars.insert "wbt_from_id" (toString memberId)
    vars.insert "cc_member_id" ((vars.lookup "wbt_from_id").getD "")

def agentCallRequest (apps : List CallRequestApplication) : CallRequest where
  endpoints := agent.callEndpoints
  strategy := 0
  destination := attempt.destination
  originationNumber := caller.number
  vars :=
    let vars := unionStringMaps [attempt.exportVariables, queue.vars, agent.vars,
      ownVariables queue agent team attempt caller]
    let vars := if agent.hasPush then setPush vars else vars
    setIds queue attempt (setHoldMusic queue vars)
  timeout := team.callTimeout
  applications := match agent.greetingMedia with
    | none => apps
    | some file =>
      ⟨"playback", ringtoneUri "$$\x7bcdr_url\x7d" agent.domainId file⟩ :: apps

end Request

def agentCallKeys : List String :=
  ["hangup_after_bridge", "ignore_display_updates", "cc_reporting", "sip_h_X-Webitel-Domain-Id",
    "sip_h_X-Webitel-User-Id", "bridge_export_vars", "sip_h_X-Webitel-Direction", "wbt_destination",
    "wbt_to_id", "wbt_to_number", "wbt_to_name", "wbt_to_type", "wbt_from_name", "wbt_from_type",
    "wbt_from_number", "origination_caller_id_name", "origination_caller_id_number", "cc_agent_id",
    "cc_team_id", "cc_queue_name", "cc_queue_type", "cc_attempt_id", "execute_on_originate",
    "hold_music", "transfer_ringback", "cc_queue_id", "wbt_from_id", "cc_member_id"]

/-! ## The merge -/

/-- The value under a key, unless it is empty. -/
def StringMap.given (m : StringMap) (k : String) : Option String :=
  (m.lookup k).filter fun v => k ≠ "" && v ≠ ""

/-- **The merge of four maps**: the last that has a value under the key. -/
theorem lookup_unionStringMaps (m₁ m₂ m₃ m₄ : StringMap) (k : String) :
    (unionStringMaps [m₁, m₂, m₃, m₄]).lookup k
      = (m₄.given k).or ((m₃.given k).or ((m₂.given k).or (m₁.given k))) := by
  have hcopy : ∀ m res : StringMap,
      (copyInto id (fun k v => k ≠ "" && v ≠ "") m res).lookup k = (m.given k).or (res.lookup k) :=
    fun m res => lookup_copyInto Function.injective_id _ m res k
  unfold unionStringMaps
  rw [List.foldl_cons, List.foldl_cons, List.foldl_cons, List.foldl_cons, List.foldl_nil, hcopy,
    hcopy, hcopy, hcopy, AList.lookup_empty, Option.or_none]

def memberKey (k : String) : Bool :=
  hasPrefixOf k "sip_h_" || hasPrefixOf k "wbt_" || hasPrefixOf k "usr_"

theorem memberKey_exportKey {attempt : CallAttempt} (hcall : attempt.channel = .call) (k : String) :
    memberKey (attempt.exportKey k) = true := by
  unfold CallAttempt.exportKey memberKey
  rw [decide_eq_true hcall, Bool.true_and]
  split
  · have husr : hasPrefixOf ("usr_" ++ k) "usr_" = true := by
      unfold hasPrefixOf
      rw [String.toList_append, List.isPrefixOf_iff_prefix]
      exact List.prefix_append _ _
    rw [husr, Bool.or_true]
  all_goals grind

/-! ## What the member's variables reach -/

section Forging

variable {queue : CallingQueue} {agent : CallAgent} {team : CallTeam} {attempt : CallAttempt}
  {caller : Caller} {apps : List CallRequestApplication} {k : String}

def setLater (queue : CallingQueue) (agent : CallAgent) (attempt : CallAttempt) (vars : StringMap) :
    StringMap :=
  setIds queue attempt (setHoldMusic queue (if agent.hasPush then setPush vars else vars))

theorem insert_congr {m₁ m₂ : StringMap} (h : m₁.lookup k = m₂.lookup k) (k' v : String) :
    (m₁.insert k' v).lookup k = (m₂.insert k' v).lookup k := by
  by_cases hk : k = k'
  · rw [hk, AList.lookup_insert, AList.lookup_insert]
  · rw [AList.lookup_insert_ne hk, AList.lookup_insert_ne hk, h]

theorem setLater_congr {m₁ m₂ : StringMap} (h : m₁.lookup k = m₂.lookup k) :
    (setLater queue agent attempt m₁).lookup k = (setLater queue agent attempt m₂).lookup k := by
  have hpush : (if agent.hasPush then setPush m₁ else m₁).lookup k
      = (if agent.hasPush then setPush m₂ else m₂).lookup k := by
    split
    · exact insert_congr h _ _
    · exact h
  have hmusic : (setHoldMusic queue (if agent.hasPush then setPush m₁ else m₁)).lookup k
      = (setHoldMusic queue (if agent.hasPush then setPush m₂ else m₂)).lookup k := by
    unfold setHoldMusic
    split
    · exact hpush
    · exact insert_congr (insert_congr hpush _ _) _ _
  unfold setLater setIds
  have hqueue := insert_congr hmusic "cc_queue_id" (toString queue.id)
  dsimp only
  split
  · split
    · exact hqueue
    · exact hmusic
  · -- The id of the member is read back from where it was just written.
    rw [AList.lookup_insert, AList.lookup_insert]
    grind [insert_congr]

theorem setLater_of_ne (m : StringMap)
    (hne : k ∉ ["execute_on_originate", "hold_music", "transfer_ringback", "cc_queue_id",
      "cc_member_id"])
    (hmember : k ≠ "wbt_from_id" ∨ attempt.memberId = none) :
    (setLater queue agent attempt m).lookup k = m.lookup k := by
  simp only [List.mem_cons, List.not_mem_nil, or_false, not_or] at hne
  obtain ⟨hpush, hmusic, hringback, hqueue, hid⟩ := hne
  have h₁ : (if agent.hasPush then setPush m else m).lookup k = m.lookup k := by
    split
    · exact AList.lookup_insert_ne hpush
    · rfl
  have h₂ : ∀ m', (setHoldMusic queue m').lookup k = m'.lookup k := by
    intro m'
    unfold setHoldMusic
    split
    · rfl
    · rw [AList.lookup_insert_ne hringback, AList.lookup_insert_ne hmusic]
  have h₃ : ∀ m' : StringMap, (if queue.id > 0 then m'.insert "cc_queue_id" (toString queue.id)
      else m').lookup k = m'.lookup k := by
    intro m'
    split
    · exact AList.lookup_insert_ne hqueue
    · rfl
  unfold setLater setIds
  dsimp only
  split
  · rw [h₃, h₂, h₁]
  · rename_i memberId hsome
    rcases hmember with hfrom | hnone
    · rw [AList.lookup_insert_ne hid, AList.lookup_insert_ne hfrom, h₃, h₂, h₁]
    · rw [hnone] at hsome
      cases hsome

theorem setLater_member (m : StringMap) {memberId : Int} (h : attempt.memberId = some memberId) :
    (setLater queue agent attempt m).lookup "wbt_from_id" = some (toString memberId) := by
  unfold setLater setIds
  rw [h]
  dsimp only
  rw [AList.lookup_insert_ne (by decide), AList.lookup_insert]

def systemValue (queue : CallingQueue) (agent : CallAgent) (team : CallTeam) (attempt : CallAttempt)
    (caller : Caller) (k : String) : Option String :=
  ((ownVariables queue agent team attempt caller).given k).or
    ((agent.vars.given k).or (queue.vars.given k))

def mergedVariables (queue : CallingQueue) (agent : CallAgent) (team : CallTeam)
    (attempt : CallAttempt) (caller : Caller) (vars : StringMap) : StringMap :=
  unionStringMaps [{ attempt with vars := vars }.exportVariables, queue.vars, agent.vars,
    ownVariables queue agent team attempt caller]

/-- **The merged variables**: what the system says, and only then what the attempt exports. -/
theorem lookup_mergedVariables (vars : StringMap) (k : String) :
    (mergedVariables queue agent team attempt caller vars).lookup k
      = (systemValue queue agent team attempt caller k).or
        ({ attempt with vars := vars }.exportVariables.given k) := by
  unfold mergedVariables systemValue
  rw [lookup_unionStringMaps, Option.or_assoc, Option.or_assoc]

def Unaffected (queue : CallingQueue) (agent : CallAgent) (team : CallTeam) (attempt : CallAttempt)
    (caller : Caller) (apps : List CallRequestApplication) (k : String) : Prop :=
  ∀ vars₁ vars₂ : StringMap,
    (agentCallRequest queue agent team { attempt with vars := vars₁ } caller apps).vars.lookup k
      = (agentCallRequest queue agent team { attempt with vars := vars₂ } caller apps).vars.lookup k

theorem unaffected_of_merged (h : ∀ vars₁ vars₂,
      (mergedVariables queue agent team attempt caller vars₁).lookup k
        = (mergedVariables queue agent team attempt caller vars₂).lookup k) :
    Unaffected queue agent team attempt caller apps k := by
  intro vars₁ vars₂
  exact setLater_congr (h vars₁ vars₂)

theorem unaffected_of_systemValue (h : systemValue queue agent team attempt caller k ≠ none) :
    Unaffected queue agent team attempt caller apps k := by
  obtain ⟨value, hvalue⟩ := Option.ne_none_iff_exists'.mp h
  grind [lookup_mergedVariables, unaffected_of_merged]

theorem unaffected_of_not_memberKey (hcall : attempt.channel = .call) (hk : memberKey k = false) :
    Unaffected queue agent team attempt caller apps k := by
  have hcopy : ∀ vars : StringMap,
      (copyInto attempt.exportKey (fun _ _ => true) vars ∅).lookup k = none := by
    intro vars
    refine (lookup_copyInto_of_ne vars ∅ fun k' heq => ?_).trans (AList.lookup_empty k)
    rw [heq, memberKey_exportKey hcall] at hk
    cases hk
  have hexport : ∀ vars₁ vars₂ : StringMap,
      ({ attempt with vars := vars₁ } : CallAttempt).exportVariables.lookup k
        = ({ attempt with vars := vars₂ } : CallAttempt).exportVariables.lookup k := by
    intro vars₁ vars₂
    have hsame := (hcopy vars₁).trans (hcopy vars₂).symm
    unfold CallAttempt.exportVariables
    dsimp only
    split
    · exact hsame
    · exact insert_congr hsame _ _
  grind [StringMap.given, lookup_mergedVariables, unaffected_of_merged]

/-- **Forging**: a key of the member's on which the system is silent. -/
theorem affected_of_silent (hwbt : hasPrefixOf k "wbt_" = true)
    (hsilent : systemValue queue agent team attempt caller k = none)
    (hlater : ∀ m, (setLater queue agent attempt m).lookup k = m.lookup k) :
    ¬ Unaffected queue agent team attempt caller apps k := by
  have hempty : k ≠ "" := by
    rintro rfl
    exact absurd hwbt (by decide)
  have hseq : k ≠ "cc_attempt_seq" := by
    rintro rfl
    exact absurd hwbt (by decide)
  have hkey : attempt.exportKey k = k := by
    unfold CallAttempt.exportKey
    rw [hwbt, Bool.not_true, Bool.and_false, if_neg Bool.false_ne_true]
  -- The number of the try is exported beside the variables.
  have hexport : ∀ vars : StringMap,
      ({ attempt with vars := vars } : CallAttempt).exportVariables.lookup
      k = (copyInto attempt.exportKey (fun _ _ => true) vars ∅).lookup k := by
    intro vars
    unfold CallAttempt.exportVariables
    dsimp only
    split
    · rfl
    · exact AList.lookup_insert_ne hseq
  have hvalue : ∀ vars : StringMap,
      (agentCallRequest queue agent team { attempt with vars := vars } caller apps).vars.lookup k
        = (({ attempt with vars := vars } : CallAttempt).exportVariables.given k) := by
    intro vars
    refine (hlater _).trans ?_
    refine (lookup_mergedVariables vars k).trans ?_
    rw [hsilent, Option.none_or]
  intro h
  have hforged := h ∅ (AList.singleton k "forged")
  rw [hvalue, hvalue] at hforged
  unfold StringMap.given at hforged
  rw [hexport, hexport] at hforged
  have hset : (copyInto attempt.exportKey (fun _ _ => true) (AList.singleton k "forged")
      ∅).lookup k = some "forged" := by
    show ((∅ : StringMap).insert (attempt.exportKey k) "forged").lookup k = some "forged"
    rw [hkey, AList.lookup_insert]
  have hunset : (copyInto attempt.exportKey (fun _ _ => true) (∅ : StringMap) ∅).lookup k = none :=
    rfl
  grind

/-! ## The keys of the function -/

theorem given_ne_none_iff {m : StringMap} (hk : k ≠ "") :
    m.given k ≠ none ↔ ∃ v, m.lookup k = some v ∧ v ≠ "" := by
  unfold StringMap.given
  cases m.lookup k with
  | none =>
    grind
  | some v =>
    grind

/-- The agent or the queue has a variable with this key that is not empty. -/
def Shielded (queue : CallingQueue) (agent : CallAgent) (k : String) : Prop :=
  ∃ v, (agent.vars.lookup k = some v ∨ queue.vars.lookup k = some v) ∧ v ≠ ""

theorem systemValue_ne_none_iff (hk : k ≠ "") :
    systemValue queue agent team attempt caller k ≠ none
      ↔ (∃ v, (ownVariables queue agent team attempt caller).lookup k = some v ∧ v ≠ "")
        ∨ Shielded queue agent k := by
  grind [Shielded, systemValue, given_ne_none_iff]

theorem unaffected_own_iff {value : String} (hk : hasPrefixOf k "wbt_" = true)
    (hlater : k ∉ ["execute_on_originate", "hold_music", "transfer_ringback", "cc_queue_id",
      "cc_member_id"] ∧ k ≠ "wbt_from_id")
    (hown : (ownVariables queue agent team attempt caller).lookup k = some value) :
    Unaffected queue agent team attempt caller apps k ↔ value ≠ "" ∨ Shielded queue agent k := by
  have hempty : k ≠ "" := by
    rintro rfl
    exact absurd hk (by decide)
  grind [Shielded, systemValue, affected_of_silent, setLater_of_ne, systemValue_ne_none_iff,
    unaffected_of_systemValue]

theorem unaffected_member_iff :
    Unaffected queue agent team attempt caller apps "wbt_from_id"
      ↔ attempt.memberId ≠ none ∨ Shielded queue agent "wbt_from_id" := by
  have hown : (ownVariables queue agent team attempt caller).lookup "wbt_from_id" = none := by
    unfold ownVariables
    rw [AList.lookup_to_alist]
    rfl
  have hsystem : systemValue queue agent team attempt caller "wbt_from_id" ≠ none
      ↔ Shielded queue agent "wbt_from_id" := by
    grind [systemValue_ne_none_iff]
  cases hmember : attempt.memberId with
  | some memberId =>
    refine ⟨fun _ => .inl (Option.some_ne_none memberId), fun _ vars₁ vars₂ => ?_⟩
    exact (setLater_member _ hmember).trans (setLater_member _ hmember).symm
  | none =>
    rw [← hsystem]
    constructor
    · intro h
      refine .inr fun hsilent => ?_
      exact affected_of_silent (by decide) hsilent
        (fun m => setLater_of_ne m (by decide) (.inr hmember)) h
    · intro h
      exact unaffected_of_systemValue (h.resolve_left fun hnot => hnot rfl)

/-- The system has something to say about every key that a variable of the member can have. -/
structure Unforgeable (queue : CallingQueue) (agent : CallAgent) (attempt : CallAttempt) :
    Prop where
  fromId : attempt.memberId ≠ none ∨ Shielded queue agent "wbt_from_id"
  fromName : attempt.name ≠ "" ∨ Shielded queue agent "wbt_from_name"
  fromNumber : attempt.destination ≠ "" ∨ Shielded queue agent "wbt_from_number"
  destination : attempt.destination ≠ "" ∨ Shielded queue agent "wbt_destination"
  toName : agent.name ≠ "" ∨ Shielded queue agent "wbt_to_name"
  toNumber : agent.callNumber ≠ "" ∨ Shielded queue agent "wbt_to_number"

theorem toString_ne_empty (n : Int) : toString n ≠ "" := by
  have hnat : ∀ m : Nat, Nat.repr m ≠ "" := by
    intro m h
    have hchars := congrArg String.toList h
    unfold Nat.repr at hchars
    simp at hchars
  intro h
  cases n with
  | ofNat m => exact hnat m h
  | negSucc m =>
    have hchars := congrArg String.toList h
    change ("-" ++ _ : String).toList = _ at hchars
    simp at hchars

theorem memberKeys_eq : agentCallKeys.filter memberKey =
    ["sip_h_X-Webitel-Domain-Id", "sip_h_X-Webitel-User-Id", "sip_h_X-Webitel-Direction",
      "wbt_destination", "wbt_to_id", "wbt_to_number", "wbt_to_name", "wbt_to_type",
      "wbt_from_name", "wbt_from_type", "wbt_from_number", "wbt_from_id"] := by
  decide

theorem unaffected_of_own {value : String} (hk : k ≠ "") (hne : value ≠ "")
    (hown : (ownVariables queue agent team attempt caller).lookup k = some value) :
    Unaffected queue agent team attempt caller apps k :=
  unaffected_of_systemValue ((systemValue_ne_none_iff hk).mpr (.inl ⟨value, hown, hne⟩))

/-- **The member's variables cannot forge the call** exactly under this condition. -/
theorem member_cannot_forge_iff (hcall : attempt.channel = .call) :
    (∀ vars₁ vars₂ : StringMap, ∀ k ∈ agentCallKeys,
      (agentCallRequest queue agent team { attempt with vars := vars₁ } caller apps).vars.lookup k
        = (agentCallRequest queue agent team { attempt with vars := vars₂ } caller
          apps).vars.lookup k) ↔ Unforgeable queue agent attempt := by
  have hfromName : Unaffected queue agent team attempt caller apps "wbt_from_name" ↔ _ :=
    unaffected_own_iff (by decide) (by decide) (AList.lookup_to_alist _)
  have hfromNumber : Unaffected queue agent team attempt caller apps "wbt_from_number" ↔ _ :=
    unaffected_own_iff (by decide) (by decide) (AList.lookup_to_alist _)
  have hdestination : Unaffected queue agent team attempt caller apps "wbt_destination" ↔ _ :=
    unaffected_own_iff (by decide) (by decide) (AList.lookup_to_alist _)
  have htoName : Unaffected queue agent team attempt caller apps "wbt_to_name" ↔ _ :=
    unaffected_own_iff (by decide) (by decide) (AList.lookup_to_alist _)
  have htoNumber : Unaffected queue agent team attempt caller apps "wbt_to_number" ↔ _ :=
    unaffected_own_iff (by decide) (by decide) (AList.lookup_to_alist _)
  constructor
  · intro h
    have hall : ∀ k ∈ agentCallKeys, Unaffected queue agent team attempt caller apps k :=
      fun k hk vars₁ vars₂ => h vars₁ vars₂ k hk
    exact ⟨unaffected_member_iff.mp (hall _ (by decide)), hfromName.mp (hall _ (by decide)),
      hfromNumber.mp (hall _ (by decide)), hdestination.mp (hall _ (by decide)),
      htoName.mp (hall _ (by decide)), htoNumber.mp (hall _ (by decide))⟩
  · intro h vars₁ vars₂ k hk
    suffices hk : Unaffected queue agent team attempt caller apps k from hk vars₁ vars₂
    by_cases hmember : memberKey k = true
    · have hmem : k ∈ agentCallKeys.filter memberKey := List.mem_filter.mpr ⟨hk, hmember⟩
      rw [memberKeys_eq] at hmem
      simp only [List.mem_cons, List.not_mem_nil, or_false] at hmem
      rcases hmem with rfl | rfl | rfl | rfl | rfl | rfl | rfl | rfl | rfl | rfl | rfl | rfl
      · exact unaffected_of_own (by decide) (toString_ne_empty _) (AList.lookup_to_alist _)
      · exact unaffected_of_own (by decide) (toString_ne_empty _) (AList.lookup_to_alist _)
      · exact unaffected_of_own (by decide) (by decide) (AList.lookup_to_alist _)
      · exact hdestination.mpr h.destination
      · exact unaffected_of_own (by decide) (toString_ne_empty _) (AList.lookup_to_alist _)
      · exact htoNumber.mpr h.toNumber
      · exact htoName.mpr h.toName
      · exact unaffected_of_own (by decide) (by decide) (AList.lookup_to_alist _)
      · exact hfromName.mpr h.fromName
      · exact unaffected_of_own (by decide) (by decide) (AList.lookup_to_alist _)
      · exact hfromNumber.mpr h.fromNumber
      · exact unaffected_member_iff.mpr h.fromId
    · exact unaffected_of_not_memberKey hcall (Bool.not_eq_true _ ▸ hmember)

end Forging

def salesQueue : CallingQueue := ⟨4, 1, "sales", 1, true, ∅, none, "cdr"⟩

def salesAgent (extension : Option String) : CallAgent :=
  ⟨3, 30, 1, "Agent", extension, some "agent@domain", ∅, false, none⟩

def salesAttempt (member : Option Int) : CallAttempt :=
  ⟨7, .call, member, "Member", "380501234567", some 0, ∅⟩

/-- The variables of the request for an attempt with these member variables. -/
def salesVariables (extension : Option String) (member : Option Int) (vars : StringMap) :
    StringMap :=
  (agentCallRequest salesQueue (salesAgent extension) ⟨5, 20⟩
    { salesAttempt member with vars := vars } ⟨"380501234567", "Member"⟩ []).vars

/-- A member's variable does not stand for the id of the member. -/
theorem known_member_not_forged :
    Unforgeable salesQueue (salesAgent (some "100")) (salesAttempt (some 9))
      ∧ (salesVariables (some "100") (some 9) (AList.singleton "wbt_from_id" "1")).lookup
          "wbt_from_id" = (salesVariables (some "100") (some 9) ∅).lookup "wbt_from_id" := by
  have hok : Unforgeable salesQueue (salesAgent (some "100")) (salesAttempt (some 9)) :=
    ⟨.inl (by decide), .inl (by decide), .inl (by decide), .inl (by decide), .inl (by decide),
      .inl (by decide)⟩
  exact ⟨hok, (member_cannot_forge_iff rfl).mpr hok _ _ "wbt_from_id" (by decide)⟩

/-- It does for an attempt without a member, and so for the number of an agent without an
extension. -/
theorem unknown_member_forged :
    (salesVariables (some "100") none (AList.singleton "wbt_from_id" "1")).lookup "wbt_from_id"
        = some "1"
      ∧ (salesVariables (some "100") none ∅).lookup "wbt_from_id" = none
      ∧ (salesVariables none (some 9) (AList.singleton "wbt_to_number" "911")).lookup
        "wbt_to_number" = some "911"
      ∧ (salesVariables none (some 9) ∅).lookup "wbt_to_number" = none := by
  decide

end CallCenter.Queue
