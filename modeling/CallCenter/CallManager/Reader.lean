import CallCenter.CallManager.CallWorld

/-!
# The goroutine that reads the states of a call

The queue's goroutine is the only one that receives from `State()`, and it also calls `Invite` and
`Hangup`. If such a call comes to a send on the full state channel, nobody is left to make room: the
goroutine has blocked itself, for good.

What does send is a `Hangup` whose request the switch does not take: it hangs the call up by itself.
The proof follows the goroutine from the failed request to its send, and keeps one place of the
channel free for it on the way.
-/

namespace CallCenter.CallManager

open Queue (CallState)
open Lib

structure CallReader where
  world : World
  calling : Option Nat

inductive ReaderLabel where
  | receive
  | invite
  | hangup (cause : String)
  /-- Whatever else happens to the call, and steps of the goroutine's own call. -/
  | other (l : Label)

namespace CallReader

def pc (rd : CallReader) : Option Pc := rd.calling.bind fun i => rd.world.threads[i]?

def idle (rd : CallReader) : Bool := rd.calling = none || rd.pc = some .finished

/-- The goroutine is in its own send, and the channel is full. -/
def blocked (rd : CallReader) : Bool :=
  match rd.pc with
  | some (.send _) => decide (chStateSize ≤ rd.world.call.chState.length)
  | _ => false

def make (rd : CallReader) (l : Label) : Option CallReader :=
  if rd.idle then (step rd.world l).map fun w => ⟨w, some rd.world.threads.length⟩ else none

def step (rd : CallReader) : ReaderLabel → Option CallReader
  | .receive =>
    if rd.idle then (CallManager.step rd.world .receive).map fun w => ⟨w, rd.calling⟩ else none
  | .invite => rd.make .invite
  | .hangup cause => rd.make (.hangup cause)
  -- Nobody else receives.
  | .other .receive => none
  | .other l => (CallManager.step rd.world l).map fun w => ⟨w, rd.calling⟩

end CallReader

def readerStart (o : Origin) : CallReader := ⟨start o, none⟩

/-! ## What a step can do -/

inductive ReaderMove (rd : CallReader) : ReaderLabel → CallReader → Prop where
  | receive (hidle : rd.idle = true) (s : CallState) (rest : List CallState)
      (h : rd.world.call.chState = s :: rest) :
      ReaderMove rd .receive
        ⟨{ rd.world with call := { rd.world.call with chState := rest } }, rd.calling⟩
  | invite (hidle : rd.idle = true) :
      ReaderMove rd .invite ⟨rd.world.spawn .saveToCache, some rd.world.threads.length⟩
  | hangup (cause : String) (hidle : rd.idle = true) :
      ReaderMove rd (.hangup cause)
        ⟨rd.world.spawn (.hangup false cause), some rd.world.threads.length⟩
  /-- A goroutine starts, or the timer or the cache changes: the channel does not. -/
  | outside (l : Label) (w : World) (hchan : w.call.chState = rd.world.call.chState)
      (new : List Pc) (hthreads : w.threads = rd.world.threads ++ new) :
      ReaderMove rd (.other l) ⟨w, rd.calling⟩
  | advance (i : Nat) (r : Reply) (pc : Pc) (m : Move) (hpc : rd.world.threads[i]? = some pc)
      (hm : move rd.world.call rd.world.cached pc r = some m) :
      ReaderMove rd (.other (.advance i r)) ⟨rd.world.apply i m, rd.calling⟩

variable {rd rd' : CallReader}

theorem make_cases {l : Label} (pc : Pc) (hl : ∀ w', Outside rd.world l w' → w' = rd.world.spawn pc)
    (hadvance : ∀ i r, l ≠ .advance i r) (h : rd.make l = some rd') :
    rd.idle = true ∧ rd' = ⟨rd.world.spawn pc, some rd.world.threads.length⟩ := by
  unfold CallReader.make at h
  by_cases hidle : rd.idle = true
  · rw [if_pos hidle] at h
    obtain ⟨w, hw, rfl⟩ := Option.map_eq_some_iff.mp h
    rcases step_cases hw with hout | ⟨i, r, pc, m, rfl, -⟩
    · rw [hl w hout]
      exact ⟨hidle, rfl⟩
    · exact absurd rfl (hadvance i r)
  · rw [if_neg hidle] at h
    cases h

theorem readerMove_other {l : Label} {w : World} (hl : l ≠ .receive)
    (h : step rd.world l = some w) :
    ReaderMove rd (.other l) ⟨w, rd.calling⟩ := by
  rcases step_cases h with hout | ⟨i, r, pc, m, rfl, hpc, hm, rfl⟩
  · cases hout with
    | event e => exact .outside _ _ rfl [.getCall e] rfl
    | hangup cause => exact .outside _ _ rfl [.hangup false cause] rfl
    | hangupMany cause => exact .outside _ _ rfl [.hangupMany cause] rfl
    | invite => exact .outside _ _ rfl [.saveToCache] rfl
    | fire harmed => exact .outside _ _ rfl [.ringTimeout] rfl
    | evict => exact .outside _ _ rfl [] (List.append_nil _).symm
    | receive s rest hs => exact absurd rfl hl
  · exact .advance i r pc m hpc hm

theorem readerMove_cases {l : ReaderLabel} (h : rd.step l = some rd') :
    ReaderMove rd l rd' := by
  cases l with
  | receive =>
    simp only [CallReader.step] at h
    by_cases hidle : rd.idle = true
    · rw [if_pos hidle] at h
      obtain ⟨w, hw, rfl⟩ := Option.map_eq_some_iff.mp h
      rcases step_cases hw with hout | ⟨i, r, pc, m, hl, -⟩
      · cases hout with
        | receive s rest hs => exact .receive hidle s rest hs
      · cases hl
    · rw [if_neg hidle] at h
      cases h
  | invite =>
    obtain ⟨hidle, rfl⟩ := make_cases .saveToCache (fun w' h => by cases h; rfl)
      (fun _ _ hl => by cases hl) h
    exact .invite hidle
  | hangup cause =>
    obtain ⟨hidle, rfl⟩ := make_cases (.hangup false cause) (fun w' h => by cases h; rfl)
      (fun _ _ hl => by cases hl) h
    exact .hangup cause hidle
  | other l =>
    by_cases hl : l = .receive
    · subst hl
      cases h
    · have h' : (step rd.world l).map (fun w => (⟨w, rd.calling⟩ : CallReader)) = some rd' := by
        cases l <;> first | exact h | exact absurd rfl hl
      obtain ⟨w, hw, rfl⟩ := Option.map_eq_some_iff.mp h'
      exact readerMove_other hl hw

variable {pc : Pc} {r : Reply} {m : Move}

theorem move_chState {c : CallImpl} {cached : Bool} (h : move c cached pc r = some m) :
    m.call.chState = c.chState
      ∨ ∃ s, pc = .send s ∧ m.pc = .finished ∧ c.chState.length < chStateSize
        ∧ m.call.chState = c.chState ++ [s] := by
  cases move_cases h with
  | ringing t c' hc =>
    obtain ⟨heq, -⟩ := CallImpl.setRinging_spec hc
    exact .inl (by rw [heq])
  | progress t c' hc =>
    obtain ⟨heq, -⟩ := CallImpl.setProgress_spec hc
    exact .inl (by rw [heq])
  | send s hroom => exact .inr ⟨s, rfl, rfl, hroom, rfl⟩
  | _ => exact .inl rfl

/-! ## A goroutine that has blocked itself -/

theorem blocked_iff :
    rd.blocked = true ↔
      ∃ i s, rd.calling = some i ∧ rd.world.threads[i]? = some (.send s)
        ∧ chStateSize ≤ rd.world.call.chState.length := by
  unfold CallReader.blocked CallReader.pc
  constructor
  · intro h
    cases hcall : rd.calling with
    | none => simp [hcall] at h
    | some i =>
      grind
  all_goals grind

theorem blocked_step {l : ReaderLabel} (h : rd.blocked = true) (hstep : rd.step l = some rd') :
    rd'.blocked = true := by
  obtain ⟨i, s, hcall, hpc, hfull⟩ := blocked_iff.mp h
  have hbusy : rd.idle ≠ true := by
    simp [CallReader.idle, CallReader.pc, hcall, hpc]
  rw [blocked_iff]
  cases readerMove_cases hstep with
  | receive hidle => exact absurd hidle hbusy
  | invite hidle => exact absurd hidle hbusy
  | hangup cause hidle => exact absurd hidle hbusy
  | outside l w hchan new hthreads =>
    grind
  | advance j r pc m hj hm =>
    rcases move_chState hm with hchan | ⟨s', -, -, hroom, -⟩
    · have hij : i ≠ j := by
        rintro rfl
        rw [hpc] at hj
        cases hj
        -- Its own send needs a place.
        cases move_cases hm with
        | send s hroom => omega
      refine ⟨i, s, hcall, ?_, ?_⟩
      · show (rd.world.threads.set j m.pc ++ m.spawn)[i]? = _
        rw [getElem?_set_append hpc, if_neg hij]
      · show chStateSize ≤ m.call.chState.length
        rwa [hchan]
    · omega

/-- A goroutine that has blocked itself stays so, whatever the others do. -/
theorem blocked_run {labels : List ReaderLabel} (h : rd.blocked = true)
    (hrun : run CallReader.step rd labels = some rd') : rd'.blocked = true := by
  have hkeep : ∀ rd l rd', rd.blocked = true → True → CallReader.step rd l = some rd' →
      rd'.blocked = true := fun _ _ _ h _ hstep => blocked_step h hstep
  exact run_invariant hkeep labels h (along_of_forall (fun _ _ => trivial) labels rd) hrun

/-! ## A place for the goroutine -/

def Pc.hangsUpItself : Pc → Bool
  | .hangupFailed _ | .handle (.hangup _) | .assign _ | .send _ => true
  | _ => false

def Pc.inCall : Pc → Bool
  | .saveToCache | .inviteState | .hangup _ _ | .setCancel _ _ | .closeNew | .hangupCall _ _
  | .finished => true
  | pc => pc.hangsUpItself

def Pc.requests : Pc → Bool
  | .hangupCall _ _ => true
  | _ => false

def Pc.sends : Pc → Bool
  | .send _ => true
  | _ => false

/-- The switch refuses the goroutine's request only while the channel has room, and as long as the
goroutine hangs up by itself, the others leave it a place. -/
def KeepsPlace (rd : CallReader) : ReaderLabel → Prop
  | .other (.advance j r) =>
    (rd.calling = some j → rd.pc.any Pc.requests = true → r.ok = false →
      rd.world.call.chState.length < chStateSize)
    ∧ (rd.calling ≠ some j → rd.pc.any Pc.hangsUpItself = true →
      rd.world.threads[j]?.any Pc.sends = true →
        rd.world.call.chState.length + 1 < chStateSize)
  | _ => True

instance (rd : CallReader) (l : ReaderLabel) : Decidable (KeepsPlace rd l) := by
  unfold KeepsPlace
  split <;> infer_instance

/-- The goroutine's call goes on as such; it comes to hang up by itself through a request that
failed. -/
theorem move_inCall {c : CallImpl} {cached : Bool} (h : move c cached pc r = some m)
    (hin : pc.inCall = true) :
    m.pc.inCall = true
      ∧ (m.pc.hangsUpItself = true →
        pc.hangsUpItself = true ∨ pc.requests = true ∧ r.ok = false) := by
  cases move_cases h with
  | found e hcached => cases hin
  | ringing t c' hc => cases hin
  | accepting t hat => cases hin
  | active t => cases hin
  | bridge t id => cases hin
  | hold => cases hin
  | amd a => cases hin
  | dial => cases hin
  | dialError hok => cases hin
  | hangup e hat => exact ⟨rfl, fun _ => .inl rfl⟩
  | assign s => exact ⟨rfl, fun _ => .inl rfl⟩
  | hangupItself cause hnone => exact ⟨rfl, fun _ => .inl rfl⟩
  | hangupCallError timer cause hok => exact ⟨rfl, fun _ => .inr ⟨rfl, hok⟩⟩
  | _ => exact ⟨rfl, fun hno => by cases hno⟩

def Placed (rd : CallReader) : Prop :=
  ∀ i, rd.calling = some i → ∃ pc, rd.world.threads[i]? = some pc ∧ pc.inCall = true
    ∧ (pc.hangsUpItself = true → rd.world.call.chState.length < chStateSize)

theorem placed_start (o : Origin) : Placed (readerStart o) := by
  intro i hcall
  cases hcall

theorem placed_make (hin : pc.inCall = true) (hitself : pc.hangsUpItself = false) :
    Placed ⟨rd.world.spawn pc, some rd.world.threads.length⟩ := by
  intro i hcall
  cases hcall
  refine ⟨pc, ?_, hin, ?_⟩
  · exact List.getElem?_concat_length
  · intro hpc
    rw [hitself] at hpc
    cases hpc

theorem placed_advance {j : Nat} {pcj : Pc} (h : Placed rd)
    (hok : KeepsPlace rd (.other (.advance j r))) (hj : rd.world.threads[j]? = some pcj)
    (hm : move rd.world.call rd.world.cached pcj r = some m) :
    Placed ⟨rd.world.apply j m, rd.calling⟩ := by
  intro i hcall
  have hcall : rd.calling = some i := hcall
  obtain ⟨pc, hi, hin, hroom⟩ := h i hcall
  have hown : rd.pc = some pc := by
    rw [CallReader.pc, hcall, Option.bind_some, hi]
  have hthread : (rd.world.apply j m).threads[i]? = some (if i = j then m.pc else pc) :=
    getElem?_set_append hi m.pc m.spawn
  by_cases hij : i = j
  · -- The goroutine goes on in its call.
    subst hij
    rw [if_pos rfl] at hthread
    obtain rfl := Option.some.inj (hi.symm.trans hj)
    obtain ⟨hin', hitself⟩ := move_inCall hm hin
    refine ⟨m.pc, hthread, hin', ?_⟩
    intro hpc
    have hplace : rd.world.call.chState.length < chStateSize := by
      rcases hitself hpc with hbefore | ⟨hrequest, hfailed⟩
      · exact hroom hbefore
      · exact hok.1 hcall (by rw [hown]; exact hrequest) hfailed
    rcases move_chState hm with hchan | ⟨s, -, hdone, -, -⟩
    · show m.call.chState.length < chStateSize
      rwa [hchan]
    · rw [hdone] at hpc
      cases hpc
  · -- Another goroutine moves; if it sends, it leaves a place.
    rw [if_neg hij] at hthread
    refine ⟨pc, hthread, hin, ?_⟩
    intro hpc
    show m.call.chState.length < chStateSize
    rcases move_chState hm with hchan | ⟨s, rfl, -, -, hchan⟩
    · rw [hchan]
      exact hroom hpc
    · have hother : rd.calling ≠ some j := by
        rw [hcall]
        exact fun heq => hij (Option.some.inj heq)
      have hleft := hok.2 hother (by rw [hown]; exact hpc) (by rw [hj]; rfl)
      rw [hchan, List.length_append, List.length_singleton]
      exact hleft

theorem placed_step (rd : CallReader) (l : ReaderLabel) (rd' : CallReader) (h : Placed rd)
    (hok : KeepsPlace rd l) (hstep : rd.step l = some rd') : Placed rd' := by
  cases readerMove_cases hstep with
  | receive hidle s rest hs =>
    intro i hcall
    obtain ⟨pc, hi, hin, hroom⟩ := h i hcall
    grind
  | invite hidle => exact placed_make rfl rfl
  | hangup cause hidle => exact placed_make rfl rfl
  | outside l w hchan new hthreads =>
    intro i hcall
    obtain ⟨pc, hi, hin, hroom⟩ := h i hcall
    grind
  | advance j r pc m hj hm => exact placed_advance h hok hj hm

theorem not_blocked_of_placed (h : Placed rd) : rd.blocked = false := by
  rw [Bool.eq_false_iff, Ne, blocked_iff]
  rintro ⟨i, s, hcall, hpc, hfull⟩
  obtain ⟨pc, hi, -, hroom⟩ := h i hcall
  obtain rfl := Option.some.inj (hi.symm.trans hpc)
  exact absurd (hroom rfl) (Nat.not_lt.mpr hfull)

/-- **The goroutine that reads the states of a call does not block itself** in a call of its own,
in every run in which it keeps a place in the channel. -/
theorem reader_never_blocks_itself (o : Origin) (labels : List ReaderLabel) {rd : CallReader}
    (hplace : Along CallReader.step KeepsPlace (readerStart o) labels)
    (hrun : run CallReader.step (readerStart o) labels = some rd) : rd.blocked = false :=
  not_blocked_of_placed (run_invariant placed_step labels (placed_start o) hplace hrun)

/-- `n` hold events of a call arrive and are handled, by the threads from `i` on. -/
def holds (i n : Nat) : List ReaderLabel :=
  (List.range' i n).flatMap fun j => .other (.event .hold) :: (steps j 4 true).map .other

/-- The reader has left three states in the channel when its `Hangup` fails. -/
def hangupWithRoom : List ReaderLabel :=
  holds 0 3 ++ [.hangup ""] ++ (steps 3 6 false).map .other ++ [.receive]

theorem hangupWithRoom_not_blocked :
    ∃ rd, run CallReader.step (readerStart (.joined false 1000 500)) hangupWithRoom = some rd
      ∧ rd.world.call.hangupCh = 1 ∧ rd.blocked = false := by
  obtain ⟨rd, hrun⟩ := Option.isSome_iff_exists.mp
    (rfl : (run CallReader.step (readerStart (.joined false 1000 500))
      hangupWithRoom).isSome = true)
  have hclosed : (run CallReader.step (readerStart (.joined false 1000 500)) hangupWithRoom).map
      (fun rd => rd.world.call.hangupCh) = some 1 := rfl
  rw [hrun, Option.map_some, Option.some.injEq] at hclosed
  exact ⟨rd, hrun, hclosed, reader_never_blocks_itself _ hangupWithRoom (by decide) hrun⟩

/-- Five states wait for the reader when it hangs up and the switch refuses. -/
theorem hangup_blocks_reader :
    (run CallReader.step (readerStart (.joined false 1000 500))
      (holds 0 5 ++ [.hangup ""] ++ (steps 5 5 false).map .other)).map (·.blocked) = some true :=
  rfl

theorem blocked_reader_stays :
    ∃ rd rd', run CallReader.step (readerStart (.joined false 1000 500))
        (holds 0 5 ++ [.hangup ""] ++ (steps 5 5 false).map .other) = some rd
      ∧ run CallReader.step rd [.other (.event .hold)] = some rd' ∧ rd'.blocked = true := by
  have hrun : ((run CallReader.step (readerStart (.joined false 1000 500))
      (holds 0 5 ++ [.hangup ""] ++ (steps 5 5 false).map .other)).bind fun rd =>
        (run CallReader.step rd [.other (.event .hold)]).map fun _ => rd.blocked) = some true := rfl
  obtain ⟨rd, hrd, hrun⟩ := Option.bind_eq_some_iff.mp hrun
  obtain ⟨rd', hrd', hblocked⟩ := Option.map_eq_some_iff.mp hrun
  exact ⟨rd, rd', hrd, hrd', blocked_run hblocked hrd'⟩

end CallCenter.CallManager
