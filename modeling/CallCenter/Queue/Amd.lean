import CallCenter.Queue.Action

/-!
# Answering machine detection

A call of a queue with detection carries applications for the switch. `wbt_amd` is given the labels
that count as positive; `amd` is given its settings, and a `sleep` after it is to keep the call up
while it works. The settings are one object for all calls of the queue: writing them out fills in
the defaults and keeps the text for the next call.

`AiTags` falls back to one label where no tags are configured, and `IsHuman`, which reads the
switch's answer, does not. The time of the `sleep` is added up in 16 bits.
-/

namespace CallCenter.Queue

structure AmdSettings where
  enabled : Bool
  ai : Bool
  positiveTags : List (List Char)
  allowNotSure : Bool
  silenceNotSure : Bool
  maxWordLength : UInt16
  maxNumberOfWords : UInt16
  betweenWordsSilence : UInt16
  minWordLength : UInt16
  totalAnalysisTime : UInt16
  silenceThreshold : UInt16
  afterGreetingSilence : UInt16
  greeting : UInt16
  initialSilence : UInt16
  buildString : Option (List Char)

structure Application where
  appName : String
  args : List Char

structure AmdCallRequest where
  vars : String → Option (List Char)
  applications : List Application

def AmdCallRequest.setVar (r : AmdCallRequest) (k : String) (v : List Char) : AmdCallRequest :=
  { r with vars := fun k' => if k' = k then some v else r.vars k' }

def AmdCallRequest.append (r : AmdCallRequest) (apps : List Application) : AmdCallRequest :=
  { r with applications := r.applications ++ apps }

/-! ## The arguments -/

def orDefault (value default : UInt16) : UInt16 := if value = 0 then default else value

def printNat (n : Nat) : List Char := Nat.toDigits 10 n

def setting (name : String) (value : UInt16) : List Char :=
  name.toList ++ '=' :: printNat value.toNat

def AmdSettings.filled (amd : AmdSettings) : AmdSettings :=
  { amd with
    silenceThreshold := orDefault amd.silenceThreshold 256
    maxWordLength := orDefault amd.maxWordLength 5000
    maxNumberOfWords := orDefault amd.maxNumberOfWords 3
    betweenWordsSilence := orDefault amd.betweenWordsSilence 50
    minWordLength := orDefault amd.minWordLength 100
    totalAnalysisTime := orDefault amd.totalAnalysisTime 5000
    afterGreetingSilence := orDefault amd.afterGreetingSilence 800
    greeting := orDefault amd.greeting 1500
    initialSilence := orDefault amd.initialSilence 2500 }

def AmdSettings.values (amd : AmdSettings) : List (String × UInt16) :=
  [("silence_threshold", amd.silenceThreshold), ("maximum_word_length", amd.maxWordLength),
    ("maximum_number_of_words", amd.maxNumberOfWords),
    ("between_words_silence", amd.betweenWordsSilence), ("min_word_length", amd.minWordLength),
    ("total_analysis_time", amd.totalAnalysisTime),
    ("after_greeting_silence", amd.afterGreetingSilence), ("greeting", amd.greeting),
    ("initial_silence", amd.initialSilence)]
  ++ (if amd.allowNotSure && amd.silenceNotSure then [("silence_notsure", 1)] else [])

def AmdSettings.items (amd : AmdSettings) : List (List Char) :=
  amd.values.map fun value => setting value.1 value.2

def AmdSettings.toArgs (amd : AmdSettings) : AmdSettings × List Char :=
  match amd.buildString with
  | some text => (amd, text)
  | none =>
    let text := [' '].intercalate amd.filled.items
    ({ amd.filled with buildString := some text }, text)

def AmdSettings.aiTags (amd : AmdSettings) : List Char :=
  if amd.positiveTags = [] then "human".toList else [','].intercalate amd.positiveTags

/-! ## The request -/

def amdMachineApplication : List Char := "hangup::NORMAL_UNSPECIFIED".toList

/-- What `SetAmdCall` appends for settings that are enabled, with what it leaves in them. -/
def AmdSettings.applications (amdPlaybackFileUri : Option (List Char)) (amd : AmdSettings) :
    AmdSettings × List Application :=
  if amd.ai then (amd, [⟨"wbt_amd", amd.aiTags⟩, ⟨"park", []⟩])
  else
    let (amd, args) := amd.toArgs
    (amd, [⟨"wait_for_answer", []⟩, ⟨"amd", args⟩]
      ++ (amdPlaybackFileUri.map fun uri => ⟨"playback", uri⟩).toList
      ++ [⟨"sleep", printNat (amd.totalAnalysisTime + 100).toNat⟩])

/-- `SetAmdCall`: the settings and the request after it, and whether there is a detection. -/
def setAmdCall (amdPlaybackFileUri : Option (List Char)) (onHuman : List Char) (r : AmdCallRequest)
    (amd : AmdSettings) : AmdSettings × AmdCallRequest × Bool :=
  if amd.enabled then
    let r :=
      if amd.ai then
        (r.setVar "ignore_early_media" "false".toList).setVar "amd_on_positive" onHuman
      else
        ((r.setVar "amd_on_notsure"
          (if amd.allowNotSure then onHuman else amdMachineApplication)).setVar
            "amd_on_machine" amdMachineApplication).setVar "amd_on_human" onHuman
    let (amd, apps) := amd.applications amdPlaybackFileUri
    (amd, r.append apps, true)
  else (amd, r, false)

/-! ## The verdict -/

structure DetectedCall where
  aiResult : List Char
  aiError : List Char
  amdResult : String
  acceptAt : Int
  hangupAt : Int

def DetectedCall.answered (call : DetectedCall) : Bool := call.acceptAt > 0

def DetectedCall.hasAmdError (call : DetectedCall) : Bool :=
  call.aiError ≠ [] || call.aiResult = "undefined".toList

def DetectedCall.isHuman (call : DetectedCall) : Bool :=
  call.amdResult = "HUMAN" || call.amdResult = "NOTSURE"

/-- `IsHuman` of the queue; the second part says that it hangs the call up. -/
def isHuman (call : DetectedCall) (amd : Option AmdSettings) : Bool × Bool :=
  match amd with
  | none => (true, false)
  | some amd =>
    if !amd.enabled then (true, false)
    else if amd.ai then
      if call.hasAmdError then (call.answered, false)
      else if call.aiResult ∈ amd.positiveTags then
        if !call.answered && call.hangupAt = 0 then (false, true) else (true, false)
      else (false, false)
    else (call.isHuman, false)

/-- `hasProcessAmd`: the queue goes on waiting. -/
def hasProcessAmd (call : DetectedCall) (state : CallState) (amd : Option AmdSettings) : Bool :=
  (state = .accept && !call.hasAmdError && amd.any AmdSettings.enabled)
    || (state = .detectAmd && !(isHuman call amd).1)

/-! ## The verdict matches the request -/

/-- The labels that the switch is given: those of the application `wbt_amd`, between commas. -/
def positiveLabels (apps : List Application) : List (List Char) :=
  (apps.filter (·.appName = "wbt_amd")).flatMap fun app => app.args.splitOn ','

/-- The queue accepts the call if and only if the switch counts it as positive, and goes on to the
agents with each such call. -/
structure VerdictMatches (playback : Option (List Char)) (amd : AmdSettings)
    (call : DetectedCall) : Prop where
  accepts_iff : (isHuman call (some amd)).1 = true
    ↔ call.aiResult ∈ positiveLabels (amd.applications playback).2
  goesOn : call.aiResult ∈ positiveLabels (amd.applications playback).2 →
    hasProcessAmd call .detectAmd (some amd) = false

variable {amd : AmdSettings}

theorem positiveLabels_eq (playback : Option (List Char)) (hai : amd.ai = true)
    (htags : ∀ tag ∈ amd.positiveTags, ',' ∉ tag) :
    positiveLabels (amd.applications playback).2
      = if amd.positiveTags = [] then ["human".toList] else amd.positiveTags := by
  have happs : positiveLabels (amd.applications playback).2 = amd.aiTags.splitOn ',' := by
    unfold AmdSettings.applications
    rw [if_pos hai]
    exact List.append_nil _
  rw [happs]
  unfold AmdSettings.aiTags
  split
  · decide
  · rename_i hne
    exact List.splitOn_intercalate ',' htags hne

theorem isHuman_of_answered {call : DetectedCall} (henabled : amd.enabled = true)
    (hai : amd.ai = true) (hanswered : call.answered = true) (hclear : call.hasAmdError = false) :
    (isHuman call (some amd)).1 = decide (call.aiResult ∈ amd.positiveTags) := by
  by_cases hmem : call.aiResult ∈ amd.positiveTags
  · simp [isHuman, henabled, hai, hclear, hmem, hanswered]
  · simp [isHuman, henabled, hai, hclear, hmem]

/-- **The verdict matches the request** unless no tags are configured and the result is the label
that the switch was given instead. -/
theorem verdict_matches_iff (playback : Option (List Char)) (amd : AmdSettings)
    (call : DetectedCall) (henabled : amd.enabled = true) (hai : amd.ai = true)
    (htags : ∀ tag ∈ amd.positiveTags, ',' ∉ tag) (hanswered : call.answered = true)
    (hclear : call.hasAmdError = false) :
    VerdictMatches playback amd call
      ↔ amd.positiveTags ≠ [] ∨ call.aiResult ≠ "human".toList := by
  have hverdict := isHuman_of_answered henabled hai hanswered hclear
  have hlabels := positiveLabels_eq playback hai htags
  have hwaits : hasProcessAmd call .detectAmd (some amd) = !(isHuman call (some amd)).1 := by
    simp [hasProcessAmd]
  constructor
  · intro h
    by_contra hnot
    obtain ⟨hnil, hresult⟩ := not_or.mp hnot
    have haccepts := h.accepts_iff
    rw [hverdict, hlabels, if_pos (not_not.mp hnil),
      not_not.mp hnil, not_not.mp hresult] at haccepts
    simp at haccepts
  · intro h
    have hsame : call.aiResult ∈ positiveLabels (amd.applications playback).2
        ↔ call.aiResult ∈ amd.positiveTags := by
      rw [hlabels]
      split
      · rename_i hnil
        rw [hnil, List.mem_singleton]
        exact iff_of_false (h.resolve_left (not_not.mpr hnil)) List.not_mem_nil
      · rfl
    refine ⟨?_, fun hpositive => ?_⟩
    · rw [hverdict, hsame, decide_eq_true_iff]
    · rw [hwaits, hverdict, decide_eq_true (hsame.mp hpositive)]
      rfl

def aiSettings (tags : List (List Char)) : AmdSettings :=
  ⟨true, true, tags, false, false, 0, 0, 0, 0, 0, 0, 0, 0, 0, none⟩

def humanCall : DetectedCall := ⟨"human".toList, [], "", 5, 0⟩

theorem human_tag_matches : VerdictMatches none (aiSettings ["human".toList]) humanCall :=
  (verdict_matches_iff none _ humanCall rfl rfl (by decide) rfl (by decide)).mpr
    (.inl (List.cons_ne_nil _ _))

/-- Without tags the switch is told that `human` is positive, and a call it finds to be so is kept
from the agents. -/
theorem human_withheld :
    humanCall.aiResult ∈ positiveLabels ((aiSettings []).applications none).2
      ∧ (isHuman humanCall (some (aiSettings []))).1 = false
      ∧ hasProcessAmd humanCall .detectAmd (some (aiSettings [])) = true := by
  decide

/-! ## The call stays up -/

def analysisTime (args : List Char) : Option Nat :=
  ((args.splitOn ' ').find? fun item => item.takeWhile (· ≠ '=') = "total_analysis_time".toList).map
    fun item => Nat.ofDigitChars 10 (item.dropWhile (· ≠ '=')).tail 0

/-- Each `sleep` is at least 100 ms longer than the analysis of each `amd`. -/
def StaysUp (apps : List Application) : Prop :=
  ∀ detection ∈ apps, ∀ sleep ∈ apps, detection.appName = "amd" → sleep.appName = "sleep" →
    ∃ time, analysisTime detection.args = some time
      ∧ time + 100 ≤ Nat.ofDigitChars 10 sleep.args 0

def AmdSettings.afterCalls (playback : Option (List Char)) (amd : AmdSettings) :
    List (List Char × AmdCallRequest) → AmdSettings
  | [] => amd
  | (onHuman, r) :: calls => ((setAmdCall playback onHuman r amd).1).afterCalls playback calls

theorem not_mem_printNat {c : Char} (hc : c.isDigit = false) (n : Nat) : c ∉ printNat n := by
  intro hmem
  have hdigit := Nat.isDigit_of_mem_toDigits (by decide) (by decide) hmem
  rw [hc] at hdigit
  cases hdigit

/-- A name of a setting: none of the signs that separate. -/
def NameOk (name : String) : Prop := ' ' ∉ name.toList ∧ '=' ∉ name.toList

theorem setting_no_space {name : String} (hname : NameOk name) (value : UInt16) :
    ' ' ∉ setting name value := by
  unfold setting
  rw [List.mem_append, List.mem_cons]
  rintro (hmem | heq | hmem)
  · exact hname.1 hmem
  · cases heq
  · exact not_mem_printNat (by decide) _ hmem

theorem setting_span {name : String} (hname : NameOk name) (value : UInt16) :
    (setting name value).takeWhile (· ≠ '=') = name.toList
      ∧ (setting name value).dropWhile (· ≠ '=') = '=' :: printNat value.toNat := by
  have hall : ∀ c ∈ name.toList, decide (c ≠ '=') = true := by
    intro c hc
    exact decide_eq_true fun heq => hname.2 (heq ▸ hc)
  unfold setting
  rw [List.takeWhile_append_of_pos hall, List.dropWhile_append_of_pos hall]
  simp

theorem values_nameOk (amd : AmdSettings) : ∀ value ∈ amd.values, NameOk value.1 := by
  unfold AmdSettings.values
  split
  · simp [NameOk]
  · simp [NameOk]

theorem item_no_space (amd : AmdSettings) : ∀ item ∈ amd.items, ' ' ∉ item := by
  intro item hitem
  obtain ⟨value, hvalue, rfl⟩ := List.mem_map.mp hitem
  exact setting_no_space (values_nameOk amd value hvalue) value.2

theorem find_other_setting {name : String} (hname : NameOk name)
    (hne : name.toList ≠ "total_analysis_time".toList) (value : UInt16) (rest : List (List Char)) :
    (setting name value :: rest).find?
        (fun item => item.takeWhile (· ≠ '=') = "total_analysis_time".toList)
      = rest.find? fun item => item.takeWhile (· ≠ '=') = "total_analysis_time".toList := by
  refine List.find?_cons_of_neg ?_
  rw [(setting_span hname value).1, decide_eq_true_iff]
  exact hne

theorem analysisTime_items (amd : AmdSettings) :
    analysisTime ([' '].intercalate amd.items) = some amd.totalAnalysisTime.toNat := by
  have htime : NameOk "total_analysis_time" := by simp [NameOk]
  unfold analysisTime
  rw [List.splitOn_intercalate ' ' (item_no_space amd) (by simp [AmdSettings.items,
    AmdSettings.values])]
  simp only [AmdSettings.items, AmdSettings.values, List.cons_append, List.map_cons]
  iterate 5 rw [find_other_setting (by simp [NameOk]) (by simp)]
  rw [List.find?_cons_of_pos]
  · rw [Option.map_some, (setting_span htime _).2]
    exact congrArg some (Nat.ofDigitChars_toDigits (by decide) (by decide))
  · rw [(setting_span htime _).1]
    exact decide_eq_true rfl

/-- What holds between calls of settings for the detection by the switch itself: a text that was
kept has their time, and that is the time they were given, or the default. -/
structure Kept (time : UInt16) (amd : AmdSettings) : Prop where
  own : amd.ai = false
  text : ∀ args, amd.buildString = some args → analysisTime args = some time.toNat
    ∧ amd.totalAnalysisTime = time
  fresh : amd.buildString = none → orDefault amd.totalAnalysisTime 5000 = time

variable {time : UInt16}

theorem toArgs_kept (h : Kept time amd) :
    Kept time amd.toArgs.1 ∧ amd.toArgs.1.totalAnalysisTime = time
      ∧ analysisTime amd.toArgs.2 = some time.toNat := by
  unfold AmdSettings.toArgs
  cases htext : amd.buildString with
  | some args => exact ⟨h, (h.text args htext).2, (h.text args htext).1⟩
  | none =>
    have htime : amd.filled.totalAnalysisTime = time := h.fresh htext
    have hargs : analysisTime ([' '].intercalate amd.filled.items) = some time.toNat := by
      rw [analysisTime_items, htime]
    refine ⟨⟨h.own, fun args heq => ?_, nofun⟩, htime, hargs⟩
    cases heq
    exact ⟨hargs, htime⟩

theorem setAmdCall_kept (h : Kept time amd) (playback : Option (List Char)) (onHuman : List Char)
    (r : AmdCallRequest) :
    Kept time (setAmdCall playback onHuman r amd).1 := by
  unfold setAmdCall AmdSettings.applications
  split
  · split
    · exact h
    · exact (toArgs_kept h).1
  · exact h

theorem afterCalls_kept (playback : Option (List Char)) (calls : List (List Char × AmdCallRequest))
    (h : Kept time amd) :
    Kept time (amd.afterCalls playback calls) := by
  induction calls generalizing amd with
  | nil => exact h
  | cons call calls ih => exact ih (setAmdCall_kept h playback call.1 call.2)

theorem staysUp_iff (h : Kept time amd) (playback : Option (List Char)) :
    StaysUp (amd.applications playback).2 ↔ time.toNat + 100 ≤ (time + 100).toNat := by
  obtain ⟨-, htime, hargs⟩ := toArgs_kept h
  have hdigits : ∀ n, Nat.ofDigitChars 10 (printNat n) 0 = n :=
    fun n => Nat.ofDigitChars_toDigits (by decide) (by decide)
  have happs : (amd.applications playback).2 = [⟨"wait_for_answer", []⟩, ⟨"amd", amd.toArgs.2⟩]
      ++ (playback.map fun uri => ⟨"playback", uri⟩).toList
      ++ [⟨"sleep", printNat (time + 100).toNat⟩] := by
    unfold AmdSettings.applications
    rw [if_neg (by simp [h.own]), ← htime]
  have hamd : ∀ app ∈ (amd.applications playback).2, app.appName = "amd" →
      app.args = amd.toArgs.2 := by
    rw [happs]
    cases playback <;> simp
  have hsleep : ∀ app ∈ (amd.applications playback).2, app.appName = "sleep" →
      app.args = printNat (time + 100).toNat := by
    rw [happs]
    cases playback <;> simp
  constructor
  · intro hup
    obtain ⟨t, ht, hle⟩ := hup ⟨"amd", amd.toArgs.2⟩ (by simp [happs])
      ⟨"sleep", printNat (time + 100).toNat⟩ (by simp [happs]) rfl rfl
    rw [hargs] at ht
    rw [← Option.some.inj ht, hdigits] at hle
    exact hle
  · intro hle detection hd sleep hs hdname hsname
    rw [hamd detection hd hdname, hsleep sleep hs hsname, hdigits]
    exact ⟨_, hargs, hle⟩

/-- **A call stays up for the whole detection**, whatever calls were built before it, exactly if the
time leaves room for 100 ms in 16 bits. -/
theorem detected_call_stays_up_iff (playback : Option (List Char)) (amd : AmdSettings)
    (hfresh : amd.buildString = none) (hai : amd.ai = false)
    (calls : List (List Char × AmdCallRequest)) :
    StaysUp ((amd.afterCalls playback calls).applications playback).2
      ↔ amd.totalAnalysisTime.toNat ≤ 65435 := by
  have hkept : Kept (orDefault amd.totalAnalysisTime 5000) amd :=
    ⟨hai, fun args heq => absurd (hfresh.symm.trans heq) nofun, fun _ => rfl⟩
  rw [staysUp_iff (afterCalls_kept playback calls hkept), UInt16.toNat_add]
  have hbound := amd.totalAnalysisTime.toNat_lt
  unfold orDefault
  split
  · rename_i hzero
    rw [hzero]
    decide
  · simp only [UInt16.reduceToNat]
    omega

def longAnalysis (time : UInt16) : AmdSettings :=
  ⟨true, false, [], false, false, 0, 0, 0, 0, time, 0, 0, 0, 0, none⟩

theorem default_analysis_stays_up : StaysUp ((longAnalysis 0).applications none).2 :=
  (detected_call_stays_up_iff none (longAnalysis 0) rfl rfl []).mpr (by decide)

/-- An analysis of 65500 ms is followed by a sleep of 64 ms. -/
theorem long_analysis_cut_short :
    ((longAnalysis 65500).applications none).2[1]?.map (fun app => analysisTime app.args)
        = some (some 65500)
      ∧ ((longAnalysis 65500).applications none).2[2]?.map (fun app => app.args)
        = some (printNat 64) := by
  refine ⟨?_, by decide⟩
  exact congrArg some (analysisTime_items (longAnalysis 65500).filled)

end CallCenter.Queue
