import CallCenter.Lib.Bracketed

/-!
# The dial string of a gateway

`SipGateway.Bridge` writes the variables of a leg in brackets in front of its address. Texts that
come from members, requests and gateways are put into single quotes or not at all, and nothing in
them is escaped. So the variables are read back as they were meant exactly if no such text contains
what ends it; a display number with a comma sets further variables.
-/

namespace CallCenter.Model

open Lib.Bracketed

structure SipGateway where
  id : Int
  register : Bool
  proxy : List Char
  hostName : Option (List Char)
  userName : Option (List Char)
  account : Option (List Char)
  password : Option (List Char)
  domainId : Int
  useBridgeAnswerTimeout : Bool
  sipCidType : List Char
  ignoreEarlyMedia : List Char

structure BridgeRequest where
  id : Option (List Char)
  granteeId : Option Int
  parentId : List Char
  name : List Char
  destination : List Char
  display : List Char
  timeout : UInt16
  recordings : Bool
  recordMono : Bool
  recordAll : Bool

def quoted (key : String) (value : List Char) : Entry := ⟨key, value, true⟩

def plain (key : String) (value : List Char) : Entry := ⟨key, value, false⟩

def printInt : Int → List Char
  | .ofNat n => Nat.toDigits 10 n
  | .negSucc n => '-' :: Nat.toDigits 10 (n + 1)

def printBool (b : Bool) : List Char := if b then "true".toList else "false".toList

/-- `Variables`; a map, of which this is one order. -/
def SipGateway.variables (g : SipGateway) : List Entry :=
  [quoted "sip_h_X-Webitel-Direction" "outbound".toList]
  ++ (match g.register, g.userName, g.password, g.account with
    | true, some userName, some password, some account =>
      [quoted "sip_auth_username" userName, quoted "sip_auth_password" password,
        quoted "sip_from_uri" account]
    | _, _, _, _ => (g.hostName.map (quoted "sip_invite_domain")).toList)
  ++ (if g.sipCidType ≠ [] then [quoted "sip_cid_type" g.sipCidType] else [])
  ++ (if g.ignoreEarlyMedia ≠ [] then [quoted "ignore_early_media" g.ignoreEarlyMedia] else [])

def SipGateway.endpoint (g : SipGateway) (destination : List Char) : List Char :=
  "sofia/sip/".toList ++ destination.filter (· ≠ ' ') ++ '@' :: g.proxy

def callRecordFileTemplate : List Char :=
  "$\x7bstrepoch()\x7d_$\x7burl_encode $\x7bwbt_from_number\x7d\x7d".toList
    ++ "_$\x7burl_encode $\x7bwbt_destination\x7d\x7d.mp3".toList

def recordSession (domainId : Int) (parentId : List Char) : List Char :=
  "wbt_record_session http_cache://http://$$\x7bcdr_url\x7d/sys/recordings?domain=".toList
    ++ printInt domainId ++ "&id=".toList ++ parentId
    ++ ("&name=".toList ++ callRecordFileTemplate ++ "&.mp3".toList)

def displayEntries (display : List Char) : List Entry :=
  [plain "origination_caller_id_number" display,
    plain "wbt_from_number" display,
    plain "wbt_from_name" display]

def nameEntries (name : List Char) : List Entry :=
  [quoted "wbt_to_name" name, quoted "effective_callee_id_name" name]

/-- The variables of `Bridge`, each with the value of its field; `vars` is the order in which the
map of the gateway's variables is gone through. -/
def SipGateway.bridgeEntries (g : SipGateway) (params : BridgeRequest) (vars : List Entry) :
    List Entry :=
  [plain "leg_progress_timeout" (printInt params.timeout.toNat),
    plain "bridge_answer_timeout" (printInt params.timeout.toNat),
    plain "wbt_parent_id" params.parentId]
  ++ displayEntries params.display
  ++ [plain "wbt_to_type" "dest".toList,
    plain "ignore_display_updates" "true".toList,
    quoted "wbt_to_number" params.destination]
  ++ nameEntries params.name
  ++ [plain "sip_h_X-Webitel-Domain-Id" (printInt g.domainId),
    plain "sip_h_X-Webitel-Gateway-Id" (printInt g.id),
    plain "sip_route_uri" "sip:$$\x7boutbound_sip_proxy\x7d".toList,
    plain "sip_copy_custom_headers" "false".toList]
  ++ (params.id.map (plain "origination_uuid")).toList
  ++ (params.granteeId.map fun id => plain "wbt_grantee_id" (printInt id)).toList
  ++ (if g.useBridgeAnswerTimeout then
      [plain "bridge_answer_timeout" (printInt params.timeout.toNat)] else [])
  ++ (if params.recordings then
      [plain "hangup_after_bridge" "true".toList,
        plain "recording_follow_transfer" "true".toList,
        plain "RECORD_MIN_SEC" "2".toList,
        plain "RECORD_BRIDGE_REQ" (printBool params.recordAll),
        plain "media_bug_answer_req" (printBool params.recordAll),
        plain "RECORD_STEREO" (printBool !params.recordMono),
        plain "execute_on_answer" (recordSession g.domainId params.parentId)]
    else [])
  ++ vars

def SipGateway.bridge (g : SipGateway) (params : BridgeRequest) (vars : List Entry) : List Char :=
  render (g.bridgeEntries params vars) (g.endpoint params.destination)

/-! ## What is read -/

/-- Every variable is read with the value of its field, in front of the address and nothing else. -/
def Carries (g : SipGateway) (params : BridgeRequest) (vars : List Entry) : Prop :=
  parse (g.bridge params vars)
    = some ((g.bridgeEntries params vars).map Entry.pair, g.endpoint params.destination)

structure Safe (g : SipGateway) (params : BridgeRequest) : Prop where
  parentId : Plain params.parentId
  display : Plain params.display
  id : ∀ id ∈ params.id, Plain id
  destination : '\'' ∉ params.destination
  name : '\'' ∉ params.name
  gateway : ∀ e ∈ g.variables, '\'' ∉ e.value

def valuesOf (key : String) (r : Parsed) : Option (List (List Char)) :=
  r.map fun (ps, _) => (ps.filter fun p => p.1 = key.toList).map Prod.snd

section Entries

variable {α β : Type} {P : β → Prop}

theorem forall_mem_toList_map {o : Option α} {f : α → β} :
    (∀ e ∈ (o.map f).toList, P e) ↔ ∀ x ∈ o, P (f x) := by
  cases o <;> simp

theorem forall_mem_ite_nil {p : Prop} [Decidable p] {l : List β} :
    (∀ e ∈ if p then l else [], P e) ↔ (p → ∀ e ∈ l, P e) := by
  split <;> simp [*]

end Entries

theorem clean_quoted (k : String) (v : List Char) : (quoted k v).Clean ↔ '\'' ∉ v := Iff.rfl

theorem clean_plain (k : String) (v : List Char) : (plain k v).Clean ↔ Plain v := Iff.rfl

theorem plain_printInt (n : Int) : Plain (printInt n) := by
  have hdigits (n : Nat) : ∀ c ∈ Nat.toDigits 10 n, c ≠ ',' ∧ c ≠ ']' ∧ c ≠ '\'' := by
    intro c hc
    have hdigit := Nat.isDigit_of_mem_toDigits (by decide) (by decide) hc
    refine ⟨?_, ?_, ?_⟩ <;> rintro rfl <;> exact absurd hdigit (by decide)
  have hplain (l : List Char) (h : ∀ c ∈ l, c ≠ ',' ∧ c ≠ ']' ∧ c ≠ '\'') : Plain l :=
    ⟨fun hm => (h _ hm).1 rfl, fun hm => (h _ hm).2.1 rfl,
      fun hm => (h _ (List.mem_of_mem_head? hm)).2.2 rfl⟩
  cases n with
  | ofNat n => exact hplain _ (hdigits n)
  | negSucc n => exact hplain _ (List.forall_mem_cons.mpr ⟨by decide, hdigits (n + 1)⟩)

theorem plain_printBool (b : Bool) : Plain (printBool b) := by
  cases b <;> decide

theorem plain_recordSession_iff (domainId : Int) (parentId : List Char) :
    Plain (recordSession domainId parentId) ↔ ',' ∉ parentId ∧ ']' ∉ parentId := by
  have hdomain := plain_printInt domainId
  have hbefore := (plain_append_iff (v := printInt domainId) (b := "&id=".toList) (a :=
    "wbt_record_session http_cache://http://$$\x7bcdr_url\x7d/sys/recordings?domain=".toList)
    (by decide) (by decide) (by decide)).mpr ⟨hdomain.1, hdomain.2.1⟩
  exact plain_append_iff hbefore (by simp) (by decide)

theorem variables_spec (g : SipGateway) : ∀ e ∈ g.variables, KeyOk e.key ∧ e.quoted = true := by
  have hquoted (k : String) (v : List Char) (hk : KeyOk k) :
      KeyOk (quoted k v).key ∧ (quoted k v).quoted = true := ⟨hk, rfl⟩
  unfold SipGateway.variables
  simp only [List.forall_mem_append, forall_mem_ite_nil, List.forall_mem_singleton]
  refine ⟨⟨⟨hquoted _ _ (by decide), ?_⟩, fun _ => hquoted _ _ (by decide)⟩,
    fun _ => hquoted _ _ (by decide)⟩
  split
  · simp only [List.forall_mem_cons]
    exact ⟨hquoted _ _ (by decide), hquoted _ _ (by decide), hquoted _ _ (by decide),
      List.forall_mem_nil _⟩
  · exact forall_mem_toList_map.mpr fun _ _ => hquoted _ _ (by decide)

section Bridge

variable {g : SipGateway} {params : BridgeRequest} {vars : List Entry}

theorem keyOk_fixed :
    ∀ k ∈ ["leg_progress_timeout", "bridge_answer_timeout", "wbt_parent_id",
      "origination_caller_id_number", "wbt_from_number", "wbt_from_name", "wbt_to_type",
      "ignore_display_updates", "wbt_to_number", "wbt_to_name", "effective_callee_id_name"],
      KeyOk k := by
  simp [KeyOk]

theorem keyOk_more :
    ∀ k ∈ ["sip_h_X-Webitel-Domain-Id", "sip_h_X-Webitel-Gateway-Id", "sip_route_uri",
      "sip_copy_custom_headers", "origination_uuid", "wbt_grantee_id"], KeyOk k := by
  simp [KeyOk]

theorem keyOk_recordings :
    ∀ k ∈ ["hangup_after_bridge", "recording_follow_transfer", "RECORD_MIN_SEC",
      "RECORD_BRIDGE_REQ", "media_bug_answer_req", "RECORD_STEREO", "execute_on_answer"],
      KeyOk k := by
  simp [KeyOk]

theorem bridgeEntries_keys (hvars : vars.Perm g.variables) :
    ∀ e ∈ g.bridgeEntries params vars, KeyOk e.key := by
  have hgateway : ∀ e ∈ vars, KeyOk e.key := fun e he =>
    (variables_spec g e (hvars.mem_iff.mp he)).1
  have hfixed := keyOk_fixed
  have hmore := keyOk_more
  have hrecordings := keyOk_recordings
  unfold SipGateway.bridgeEntries displayEntries nameEntries
  simp only [List.forall_mem_append, List.forall_mem_cons, forall_mem_ite_nil,
    forall_mem_toList_map, plain, quoted] at hfixed hmore hrecordings ⊢
  simp only [hfixed, hmore, hrecordings, List.not_mem_nil, false_implies, implies_true,
    and_self, true_and]
  exact hgateway

theorem bridgeEntries_clean_iff (hvars : vars.Perm g.variables) :
    (∀ e ∈ g.bridgeEntries params vars, e.Clean) ↔ Safe g params := by
  have hgateway : (∀ e ∈ vars, e.Clean) ↔ ∀ e ∈ g.variables, '\'' ∉ e.value := by
    refine forall_congr' fun e => ?_
    rw [hvars.mem_iff]
    refine imp_congr_right fun he => ?_
    rw [Entry.Clean, if_pos (variables_spec g e he).2]
  have hconst : Plain "dest".toList ∧ Plain "true".toList ∧ Plain "false".toList ∧ Plain "2".toList
      ∧ Plain "sip:$$\x7boutbound_sip_proxy\x7d".toList := by decide
  unfold SipGateway.bridgeEntries displayEntries nameEntries
  simp only [List.forall_mem_append, List.forall_mem_cons, forall_mem_ite_nil,
    forall_mem_toList_map, clean_plain, clean_quoted, plain_printInt, plain_printBool,
    plain_recordSession_iff, hgateway, hconst]
  constructor
  · rintro ⟨⟨⟨⟨⟨⟨⟨⟨⟨⟨-, -, hparent, -⟩, hdisplay, -⟩, -, -, hdest, -⟩, hname, -⟩, -⟩, hid⟩, -⟩, -⟩,
      -⟩, hvalues⟩
    exact ⟨hparent, hdisplay, hid, hdest, hname, hvalues⟩
  · rintro ⟨hparent, hdisplay, hid, hdest, hname, hvalues⟩
    simp only [hparent, hdisplay, hdest, hname, hparent.1, hparent.2.1, List.not_mem_nil,
      false_implies, implies_true, not_false_eq_true, and_self, true_and, and_true]
    exact ⟨hid, hvalues⟩

theorem carries_iff (hvars : vars.Perm g.variables) (params : BridgeRequest) :
    Carries g params vars ↔ Safe g params := by
  refine Iff.trans (parse_render_iff ?_ (bridgeEntries_keys hvars) _)
    (bridgeEntries_clean_iff hvars)
  simp [SipGateway.bridgeEntries]

theorem valuesOf_eq {params' : BridgeRequest} {k : String}
    (h : Carries g params vars) (h' : Carries g params' vars)
    (hsame : ((g.bridgeEntries params vars).map Entry.pair).filter (fun p => p.1 = k.toList)
      = ((g.bridgeEntries params' vars).map Entry.pair).filter fun p => p.1 = k.toList) :
    valuesOf k (parse (g.bridge params vars)) = valuesOf k (parse (g.bridge params' vars)) := by
  rw [h, h']
  exact congrArg (fun l => some (l.map Prod.snd)) hsame

/-- **Dial strings carry exactly the intended variables** exactly if no text contains what ends it:
neither a comma, a closing bracket nor a quote in front for the parent's id, the display number and
the id, no quote for the destination, the name and the values of the gateway. Then the name and the
display number change the variables that are built from them, and no others. -/
theorem bridge_carries_iff (hvars : vars.Perm g.variables) :
    (Carries g params vars ↔ Safe g params)
    ∧ (∀ name, Safe g params → Safe g { params with name } →
      ∀ k ∉ ["wbt_to_name", "effective_callee_id_name"],
        valuesOf k (parse (g.bridge params vars))
          = valuesOf k (parse (g.bridge { params with name } vars)))
    ∧ ∀ display, Safe g params → Safe g { params with display } →
      ∀ k ∉ ["origination_caller_id_number", "wbt_from_number", "wbt_from_name"],
        valuesOf k (parse (g.bridge params vars))
          = valuesOf k (parse (g.bridge { params with display } vars)) := by
  -- the variables that are built from the text are not among those asked for
  have hown {es : List Entry} {k : String} (h : ∀ e ∈ es, e.key ≠ k) :
      (es.map Entry.pair).filter (fun p => p.1 = k.toList) = [] := by
    rw [List.filter_eq_nil_iff, List.forall_mem_map]
    intro e he
    rw [decide_eq_true_eq]
    exact fun heq => h e he (String.toList_inj.mp heq)
  refine ⟨carries_iff hvars params, fun name h h' k hk => ?_, fun display h h' k hk => ?_⟩
  · have hnames (name : List Char) : ∀ e ∈ nameEntries name, e.key ≠ k := by
      simp only [List.mem_cons, not_or] at hk
      simp only [nameEntries, quoted, List.forall_mem_cons]
      exact ⟨Ne.symm hk.1, Ne.symm hk.2.1, List.forall_mem_nil _⟩
    refine valuesOf_eq ((carries_iff hvars _).mpr h) ((carries_iff hvars _).mpr h') ?_
    simp only [SipGateway.bridgeEntries, List.map_append, List.filter_append, hown (hnames _)]
  · have hdisplays (display : List Char) : ∀ e ∈ displayEntries display, e.key ≠ k := by
      simp only [List.mem_cons, not_or] at hk
      simp only [displayEntries, plain, List.forall_mem_cons]
      exact ⟨Ne.symm hk.1, Ne.symm hk.2.1, Ne.symm hk.2.2.1, List.forall_mem_nil _⟩
    refine valuesOf_eq ((carries_iff hvars _).mpr h) ((carries_iff hvars _).mpr h') ?_
    simp only [SipGateway.bridgeEntries, List.map_append, List.filter_append, hown (hdisplays _)]

end Bridge

def sampleGateway : SipGateway where
  id := 5
  register := false
  proxy := "10.0.0.1".toList
  hostName := some "sip.example".toList
  userName := none
  account := none
  password := none
  domainId := 1
  useBridgeAnswerTimeout := false
  sipCidType := []
  ignoreEarlyMedia := []

def sampleRequest (name : String) : BridgeRequest where
  id := none
  granteeId := none
  parentId := "p".toList
  name := name.toList
  destination := "100".toList
  display := "200".toList
  timeout := 30
  recordings := false
  recordMono := false
  recordAll := false

theorem sampleRequest_carried :
    Carries sampleGateway (sampleRequest "Ann") sampleGateway.variables :=
  (bridge_carries_iff (.refl _)).1.mpr
    ⟨by decide, by decide, nofun, by decide, by decide, by decide⟩

/-- A name with quotes sets the number that is dialled as well. -/
theorem name_sets_number :
    valuesOf "wbt_to_number" (parse (sampleGateway.bridge
        (sampleRequest "x',wbt_to_number='911") sampleGateway.variables))
      = some ["100".toList, "911".toList, "911".toList]
    ∧ ¬ Carries sampleGateway (sampleRequest "x',wbt_to_number='911") sampleGateway.variables := by
  refine ⟨by decide +kernel, fun h => ?_⟩
  exact ((carries_iff (.refl _) _).mp h).name (by decide)

end CallCenter.Model
