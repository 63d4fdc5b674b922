import CallCenter.Lib.Run
import CallCenter.Store.Attempts

/-!
# Prolonging the processing of an attempt

An agent who needs more time for an attempt in processing asks for it with `RenewalAttempt`. One
statement counts the request and moves the deadline (`RenewalProcessing`), and an event tells the
agent how many seconds and how many such requests are left.

The count is right after any requests. The seconds are a difference of two times that is made an
unsigned number of 32 bits: a request that finds the deadline passed, and does not move it beyond
the present, announces about 136 years.
-/

namespace CallCenter.Queue

open Lib Store

/-- The columns of an attempt that a renewal reads and writes, with the domain of its agent. -/
structure ProcessingRow where
  domainId : Int
  state : State
  availableProlongationQuant : Int
  timeout : Option Int

/-- What a queue, or the `queue_params` of an attempt, says about prolongations. -/
structure ProlongationParams where
  enabled : Option Bool
  repeatsNumber : Option Int
  renewalSec : Option Int
  timeSec : Option Int

structure AttemptData where
  prolongationEnabled : Bool
  prolongationRepeatsNumber : Int
  processingRenewalSec : Int
  prolongationTimeSec : Int

/-- `coalesce(cq.…, a.queue_params->>…, default)`. -/
def attemptData (queue params : ProlongationParams) : AttemptData where
  prolongationEnabled := (queue.enabled.or params.enabled).getD false
  prolongationRepeatsNumber := (queue.repeatsNumber.or params.repeatsNumber).getD 0
  processingRenewalSec := (queue.renewalSec.or params.renewalSec).getD 0
  prolongationTimeSec := (queue.timeSec.or params.timeSec).getD 0

/-- What `RenewalProcessing` returns. The autosave is not among the returned columns. -/
structure RenewalProcessing where
  timeout : Int
  timestamp : Int
  renewalSec : Int
  remainingProlongations : Int
  isProlongationEnabled : Bool
  prolongationSec : Int
  processingAutosave : Bool

def AttemptData.extends (ad : AttemptData) (row : ProcessingRow) : Bool :=
  (ad.prolongationEnabled
      && row.availableProlongationQuant + 1 ≤ ad.prolongationRepeatsNumber)
    || !ad.prolongationEnabled

/-- `RenewalProcessing`. It fails if there is no such attempt in processing, if the seconds do not
fit an `int`, and if the count does not fit its `smallint`. -/
def renewalProcessing (ad : AttemptData) (domainId now : Int) (renewal : UInt32)
    (row : ProcessingRow) : Option (ProcessingRow × RenewalProcessing) :=
  let quant := if ad.prolongationEnabled then
      min (row.availableProlongationQuant + 1) ad.prolongationRepeatsNumber
    else row.availableProlongationQuant
  let timeout := if ad.extends row then some (row.timeout.getD now + sec renewal.toNat)
    else row.timeout
  if row.domainId = domainId ∧ row.state = .processing ∧ renewal.toNat < 2 ^ 31
      ∧ quant < 2 ^ 15 then
    some ({ row with availableProlongationQuant := quant, timeout }, {
      timeout := timeout.getD 0
      timestamp := now
      renewalSec := ad.processingRenewalSec
      remainingProlongations :=
        if ad.prolongationEnabled then ad.prolongationRepeatsNumber - quant else 0
      isProlongationEnabled := ad.prolongationEnabled
      prolongationSec := ad.prolongationTimeSec
      processingAutosave := false })
  else none

def uint32 (x : Int) : Nat := (x % 2 ^ 32).toNat

/-- A processing event; `prolongation` is the number and the seconds of those that are left. -/
structure RenewalEvent where
  timeout : Int
  timestamp : Int
  sec : Nat
  renewalSec : Int
  prolongation : Option (Int × Int)
  autosave : Bool

/-- `NewRenewalProcessingEvent`, as `RenewalAttempt` calls it. -/
def newRenewalProcessingEvent (data : RenewalProcessing) : RenewalEvent where
  timeout := data.timeout
  timestamp := data.timestamp
  sec := uint32 ((data.timeout - data.timestamp).tdiv 1000)
  renewalSec := data.renewalSec
  prolongation := if data.isProlongationEnabled then
    some (data.remainingProlongations, data.prolongationSec) else none
  autosave := data.processingAutosave

/-! ## Many requests -/

/-- An attempt and the events, each with the row as it was stored. -/
structure RenewalWorld where
  row : ProcessingRow
  /-- The requests that found a prolongation left. -/
  granted : Nat
  /-- The requests after which the stored deadline was another one. -/
  extended : Nat
  published : List (RenewalEvent × ProcessingRow)

def RenewalWorld.start (row : ProcessingRow) : RenewalWorld := ⟨row, 0, 0, []⟩

structure RenewalRequest where
  domainId : Int
  now : Int
  renewal : UInt32

/-- `RenewalAttempt`. A request that fails changes nothing and publishes nothing. -/
def renewalAttempt (ad : AttemptData) (w : RenewalWorld) (r : RenewalRequest) :
    Option RenewalWorld :=
  match renewalProcessing ad r.domainId r.now r.renewal w.row with
  | none => some w
  | some (row, data) => some {
      row
      granted := w.granted + if ad.extends w.row then 1 else 0
      extended := w.extended + if row.timeout = w.row.timeout then 0 else 1
      published := w.published ++ [(newRenewalProcessingEvent data, row)] }

/-- The event says how many seconds are left until the stored deadline, and how many prolongations
are left as they are stored. -/
def RenewalTruthful (ad : AttemptData) (p : RenewalEvent × ProcessingRow) : Prop :=
  (∃ d, p.2.timeout = some d ∧ p.1.timeout = d ∧ p.1.timestamp ≤ d
    ∧ (p.1.sec : Int) = (d - p.1.timestamp) / 1000)
  ∧ p.1.prolongation = some
    (ad.prolongationRepeatsNumber - p.2.availableProlongationQuant, ad.prolongationTimeSec)

/-- The old deadline (the present if there is none) and the renewal as long as prolongations are
left, the old deadline afterwards: it has not passed, and it is not 2^32 seconds away. -/
def InTime (ad : AttemptData) (w : RenewalWorld) (r : RenewalRequest) : Prop :=
  ∃ d, (if w.row.availableProlongationQuant < ad.prolongationRepeatsNumber then
      some (w.row.timeout.getD r.now + sec r.renewal.toNat)
    else w.row.timeout) = some d
    ∧ r.now ≤ d ∧ d < r.now + sec (2 ^ 32)

section Renewals

variable {ad : AttemptData} {w w' : RenewalWorld} {r : RenewalRequest}

theorem uint32_seconds_iff {now d : Int} :
    (now ≤ d ∧ (uint32 ((d - now).tdiv 1000) : Int) = (d - now) / 1000)
      ↔ now ≤ d ∧ d < now + sec (2 ^ 32) := by
  refine and_congr_right fun hle => ?_
  rw [Int.tdiv_eq_ediv_of_nonneg (by omega)]
  unfold uint32 sec
  omega

theorem AttemptData.extends_iff {row : ProcessingRow} (henabled : ad.prolongationEnabled = true) :
    ad.extends row = true ↔ row.availableProlongationQuant < ad.prolongationRepeatsNumber := by
  simp only [AttemptData.extends, henabled, Bool.true_and, Bool.not_true, Bool.or_false,
    decide_eq_true_eq]
  exact Int.add_one_le_iff

theorem renewalAttempt_cases (henabled : ad.prolongationEnabled = true)
    (h : renewalAttempt ad w r = some w') :
    w' = w ∨ ∃ row e, w' = ⟨row, w.granted + (if ad.extends w.row then 1 else 0),
        w.extended + (if row.timeout = w.row.timeout then 0 else 1), w.published ++ [(e, row)]⟩
      ∧ row.availableProlongationQuant
        = min (w.row.availableProlongationQuant + 1) ad.prolongationRepeatsNumber
      ∧ row.timeout = (if ad.extends w.row then
        some (w.row.timeout.getD r.now + sec r.renewal.toNat) else w.row.timeout)
      ∧ (RenewalTruthful ad (e, row) ↔ InTime ad w r) := by
  unfold renewalAttempt renewalProcessing at h
  dsimp only at h
  split at h
  · exact .inl (Option.some.inj h).symm
  · next row data hdata =>
    obtain ⟨-, hdata⟩ := Option.ite_none_right_eq_some.mp hdata
    obtain ⟨rfl, rfl⟩ := Prod.mk.inj (Option.some.inj hdata)
    refine .inr ⟨_, _, (Option.some.inj h).symm, if_pos henabled, rfl, ?_⟩
    unfold RenewalTruthful InTime newRenewalProcessingEvent
    simp only [AttemptData.extends_iff henabled, henabled, if_true, and_true]
    constructor
    · rintro ⟨d, hd, -, hle, hsec⟩
      rw [hd] at hsec
      exact ⟨d, hd, uint32_seconds_iff.mp ⟨hle, hsec⟩⟩
    · rintro ⟨d, hd, hahead⟩
      obtain ⟨hle, hsec⟩ := uint32_seconds_iff.mpr hahead
      refine ⟨d, hd, by rw [hd]; rfl, hle, ?_⟩
      rw [hd]
      exact hsec

/-- As many prolongations are used as were granted, no more than there are. -/
def Counted (ad : AttemptData) (w : RenewalWorld) : Prop :=
  w.row.availableProlongationQuant = w.granted
    ∧ w.row.availableProlongationQuant ≤ ad.prolongationRepeatsNumber

theorem counted_step (henabled : ad.prolongationEnabled = true) (hw : Counted ad w)
    (h : renewalAttempt ad w r = some w') : Counted ad w' := by
  rcases renewalAttempt_cases henabled h with rfl | ⟨row, e, rfl, hquant, -⟩
  · exact hw
  · obtain ⟨hcount, hle⟩ := hw
    unfold Counted
    dsimp only
    rw [hquant]
    by_cases hlt : w.row.availableProlongationQuant < ad.prolongationRepeatsNumber
    · rw [if_pos ((ad.extends_iff henabled).mpr hlt)]
      omega
    · rw [if_neg (fun h => hlt ((ad.extends_iff henabled).mp h))]
      omega

/-- Only a request that is granted moves the deadline, and it does unless it is for no time. -/
theorem extended_step (henabled : ad.prolongationEnabled = true)
    (h : renewalAttempt ad w r = some w') :
    (w.extended ≤ w.granted → w'.extended ≤ w'.granted)
      ∧ (0 < r.renewal → w.extended = w.granted → w'.extended = w'.granted) := by
  rcases renewalAttempt_cases henabled h with rfl | ⟨row, e, rfl, -, htimeout, -⟩
  · exact ⟨id, fun _ => id⟩
  · dsimp only
    by_cases hgranted : ad.extends w.row = true
    · rw [if_pos hgranted]
      rw [if_pos hgranted] at htimeout
      refine ⟨fun hle => ?_, fun hrenewal heq => ?_⟩
      · split <;> omega
      · have hpositive : 0 < r.renewal.toNat := UInt32.lt_iff_toNat_lt.mp hrenewal
        have hmoved : row.timeout ≠ w.row.timeout := by
          rw [htimeout]
          cases w.row.timeout with
          | none => nofun
          | some d =>
            have hlater : d + sec r.renewal.toNat ≠ d := by unfold sec; omega
            exact fun heq => hlater (Option.some.inj heq)
        rw [if_neg hmoved, heq]
    · rw [if_neg hgranted] at htimeout
      rw [if_neg hgranted, if_pos htimeout]
      exact ⟨id, fun _ => id⟩

/-- **Prolongation is limited, and reported truthfully while the deadline is ahead.** After any
requests at any times for an attempt with `N` prolongations, of which none was used, the deadline
was moved at most `N` times; as many prolongations are left as `N` less those that were granted, and
each of these has moved the deadline if no request was for no time at all. If every request comes in
time, every event says the seconds until the deadline and the number that are stored. -/
theorem renewals_limited {row : ProcessingRow} {requests : List RenewalRequest}
    (henabled : ad.prolongationEnabled = true) (hrepeats : 0 ≤ ad.prolongationRepeatsNumber)
    (hnone : row.availableProlongationQuant = 0)
    (hrun : run (renewalAttempt ad) (.start row) requests = some w) :
    (w.extended ≤ w.granted ∧ w.granted ≤ ad.prolongationRepeatsNumber
      ∧ ((∀ r ∈ requests, 0 < r.renewal) → w.extended = w.granted)
      ∧ 0 ≤ ad.prolongationRepeatsNumber - w.row.availableProlongationQuant
      ∧ ad.prolongationRepeatsNumber - w.row.availableProlongationQuant
        = ad.prolongationRepeatsNumber - w.granted)
    ∧ (Along (renewalAttempt ad) (InTime ad) (.start row) requests →
      ∀ p ∈ w.published, RenewalTruthful ad p) := by
  constructor
  · have hstart : Counted ad (.start row) := ⟨hnone, hnone ▸ hrepeats⟩
    have hany : Along (renewalAttempt ad) (fun _ _ => True) (.start row) requests :=
      along_of_forall (fun _ _ => trivial) requests _
    obtain ⟨hcount, hle⟩ := run_invariant (fun _ _ _ hs _ h => counted_step henabled hs h) requests
      hstart hany hrun
    have hmoved : ∀ s r s', s.extended ≤ s.granted → True → renewalAttempt ad s r = some s' →
        s'.extended ≤ s'.granted := fun _ _ _ hs _ h => (extended_step henabled h).1 hs
    have hall : ∀ s r s', s.extended = s.granted → 0 < r.renewal →
        renewalAttempt ad s r = some s' → s'.extended = s'.granted :=
      fun _ _ _ hs hok h => (extended_step henabled h).2 hok hs
    refine ⟨run_invariant hmoved requests (le_refl 0) hany hrun, by omega, fun hpositive => ?_,
      by omega, by omega⟩
    exact run_invariant hall requests rfl (along_of_mem hpositive _) hrun
  · intro halong
    have hstep : ∀ s r s', (∀ p ∈ s.published, RenewalTruthful ad p) → InTime ad s r →
        renewalAttempt ad s r = some s' → ∀ p ∈ s'.published, RenewalTruthful ad p := by
      intro s r s' hs hok h p hp
      rcases renewalAttempt_cases henabled h with rfl | ⟨row, e, rfl, -, -, htruthful⟩
      · exact hs p hp
      · rcases List.mem_append.mp hp with hp | hp
        · exact hs p hp
        · rw [List.mem_singleton.mp hp]
          exact htruthful.mpr hok
    exact run_invariant hstep requests (List.forall_mem_nil _) halong hrun

end Renewals

def sampleRenewal : AttemptData := ⟨true, 1, 15, 30⟩

def sampleProcessing : ProcessingRow := ⟨1, .processing, 0, some 10000⟩

theorem renewal_in_time :
    ∃ w, run (renewalAttempt sampleRenewal) (.start sampleProcessing) [⟨1, 5000, 30⟩] = some w
      ∧ w.extended = 1 ∧ ∀ p ∈ w.published, RenewalTruthful sampleRenewal p := by
  obtain ⟨w, hw, hend⟩ := Option.map_eq_some_iff.mp
    (show (run (renewalAttempt sampleRenewal) (.start sampleProcessing) [⟨1, 5000, 30⟩]).map
      RenewalWorld.extended = some 1 from rfl)
  exact ⟨w, hw, hend, (renewals_limited rfl (by decide) rfl hw).2
    ⟨⟨40000, rfl, by decide, by decide⟩, fun _ _ => trivial⟩⟩

/-- A request for one second, at second 15: the deadline moves to second 11, and the event says that
4294967292 seconds are left. -/
theorem renewal_late :
    ∃ w, run (renewalAttempt sampleRenewal) (.start sampleProcessing) [⟨1, 15000, 1⟩] = some w
      ∧ w.published.map (fun p => (p.1.timestamp, p.1.sec, p.2.timeout))
        = [(15000, 4294967292, some 11000)]
      ∧ ¬ ∀ p ∈ w.published, RenewalTruthful sampleRenewal p := by
  refine ⟨_, rfl, rfl, fun h => ?_⟩
  obtain ⟨⟨d, hd, -, hle, -⟩, -⟩ := h _ List.mem_cons_self
  obtain rfl : 11000 = d := Option.some.inj hd
  exact absurd hle (by decide)

end CallCenter.Queue
