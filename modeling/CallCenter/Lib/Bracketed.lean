import Mathlib.Data.List.Basic

/-!
# Bracketed variables

A text that starts with variables in brackets, `[key=value,key='value']rest`. A value in single
quotes ends at the next quote, any other at the next comma or at the bracket that closes the list.
There is no escape character. Writing entries and reading them gives them back exactly if no value
contains what ends it; a value that does is read as another one, whatever follows.
-/

namespace CallCenter.Lib.Bracketed

structure Entry where
  key : String
  value : List Char
  quoted : Bool

def Entry.pair (e : Entry) : List Char × List Char := (e.key.toList, e.value)

def Entry.render (e : Entry) : List Char :=
  e.key.toList ++ '=' :: if e.quoted then '\'' :: e.value ++ ['\''] else e.value

/-- The entries, separated by commas, and the bracket that ends them. -/
def renderEntries : List Entry → List Char → List Char
  | [], rest => ']' :: rest
  | [e], rest => e.render ++ ']' :: rest
  | e :: es, rest => e.render ++ ',' :: renderEntries es rest

def render (es : List Entry) (rest : List Char) : List Char := '[' :: renderEntries es rest

inductive Reading where
  | key (k : List Char)
  | start (k : List Char)
  | plain (k v : List Char)
  | quoted (k v : List Char)
  | closed (k v : List Char)

/-- What is read of a text: the variables, and the rest behind the bracket. -/
abbrev Parsed := Option (List (List Char × List Char) × List Char)

def Parsed.cons (p : List Char × List Char) (r : Parsed) : Parsed :=
  r.map fun (ps, rest) => (p :: ps, rest)

def parseFrom : Reading → List Char → Parsed
  | _, [] => none
  | .key k, c :: t =>
    if c = '=' then parseFrom (.start k) t
    else if c = ',' ∨ c = ']' then none
    else parseFrom (.key (k ++ [c])) t
  | .start k, c :: t =>
    if c = '\'' then parseFrom (.quoted k []) t
    else if c = ',' then .cons (k, []) (parseFrom (.key []) t)
    else if c = ']' then some ([(k, [])], t)
    else parseFrom (.plain k [c]) t
  | .plain k v, c :: t =>
    if c = ',' then .cons (k, v) (parseFrom (.key []) t)
    else if c = ']' then some ([(k, v)], t)
    else parseFrom (.plain k (v ++ [c])) t
  | .quoted k v, c :: t =>
    if c = '\'' then parseFrom (.closed k v) t else parseFrom (.quoted k (v ++ [c])) t
  | .closed k v, c :: t =>
    if c = ',' then .cons (k, v) (parseFrom (.key []) t)
    else if c = ']' then some ([(k, v)], t)
    else none

def parse : List Char → Parsed
  | '[' :: t => parseFrom (.key []) t
  | _ => none

/-! ## Which entries are read back -/

def KeyOk (k : String) : Prop := ∀ c ∈ k.toList, c ≠ '=' ∧ c ≠ ',' ∧ c ≠ ']'

/-- A value without quotes contains nothing that ends it, and does not look like a quoted one. -/
def Plain (v : List Char) : Prop := ',' ∉ v ∧ ']' ∉ v ∧ v.head? ≠ some '\''

def Entry.Clean (e : Entry) : Prop := if e.quoted then '\'' ∉ e.value else Plain e.value

instance (v : List Char) : Decidable (Plain v) :=
  inferInstanceAs (Decidable (',' ∉ v ∧ ']' ∉ v ∧ v.head? ≠ some '\''))

instance (k : String) : Decidable (KeyOk k) :=
  List.decidableBAll _ k.toList

attribute [local simp] parseFrom

variable {k v x t : List Char} {c : Char}

theorem plain_append_iff {a b : List Char} (ha : Plain a) (hne : a ≠ []) (hb : Plain b) :
    Plain (a ++ v ++ b) ↔ ',' ∉ v ∧ ']' ∉ v := by
  unfold Plain at ha hb ⊢
  rw [List.append_assoc, List.head?_append_of_ne_nil a hne]
  simp [ha, hb]

theorem parseFrom_key (h : ∀ c ∈ x, c ≠ '=' ∧ c ≠ ',' ∧ c ≠ ']') :
    parseFrom (.key k) (x ++ '=' :: t) = parseFrom (.start (k ++ x)) t := by
  induction x generalizing k with
  | nil => simp
  | cons c x ih =>
    obtain ⟨heq, hcomma, hbracket⟩ := h c List.mem_cons_self
    rw [List.cons_append, parseFrom, if_neg heq, if_neg (by simp [hcomma, hbracket]),
      ih fun c hc => h c (List.mem_cons_of_mem _ hc), List.append_assoc]
    rfl

/-- What comes after a value that has ended. -/
def ended (k v : List Char) (c : Char) (t : List Char) : Parsed :=
  if c = ',' then .cons (k, v) (parseFrom (.key []) t) else some ([(k, v)], t)

theorem parseFrom_plain (hc : c = ',' ∨ c = ']') (hx : ',' ∉ x ∧ ']' ∉ x) :
    parseFrom (.plain k v) (x ++ c :: t) = ended k (v ++ x) c t := by
  induction x generalizing v with
  | nil => rcases hc with rfl | rfl <;> simp [ended]
  | cons d x ih =>
    simp only [List.mem_cons, not_or] at hx
    rw [List.cons_append, parseFrom, if_neg (Ne.symm hx.1.1), if_neg (Ne.symm hx.2.1),
      ih ⟨hx.1.2, hx.2.2⟩, List.append_assoc]
    rfl

theorem parseFrom_quoted (hx : '\'' ∉ x) :
    parseFrom (.quoted k v) (x ++ '\'' :: t) = parseFrom (.closed k (v ++ x)) t := by
  induction x generalizing v with
  | nil => simp
  | cons d x ih =>
    simp only [List.mem_cons, not_or] at hx
    rw [List.cons_append, parseFrom, if_neg (Ne.symm hx.1), ih hx.2, List.append_assoc]
    rfl

theorem parseFrom_start (hc : c = ',' ∨ c = ']') (hx : Plain x) :
    parseFrom (.start k) (x ++ c :: t) = ended k x c t := by
  cases x with
  | nil => rcases hc with rfl | rfl <;> simp [ended]
  | cons d x =>
    obtain ⟨hcomma, hbracket, hquote⟩ := hx
    simp only [List.mem_cons, not_or] at hcomma hbracket
    rw [List.cons_append, parseFrom, if_neg fun h => hquote (by rw [h]; rfl),
      if_neg (Ne.symm hcomma.1), if_neg (Ne.symm hbracket.1),
      parseFrom_plain hc ⟨hcomma.2, hbracket.2⟩]
    rfl

/-- The first value that is read is `v`. -/
def Reads (v : List Char) (r : Parsed) : Prop :=
  ∀ ps rest, r = some (ps, rest) → ps.head?.map Prod.snd = some v

theorem reads_ended : Reads v (ended k v c t) := by
  intro ps rest h
  unfold ended at h
  split at h
  · obtain ⟨⟨qs, r⟩, -, heq⟩ := Option.map_eq_some_iff.mp h
    obtain ⟨rfl, -⟩ := Prod.mk.inj heq
    rfl
  · obtain ⟨rfl, -⟩ := Prod.mk.inj (Option.some.inj h)
    rfl

theorem reads_closed : Reads v (parseFrom (.closed k v) t) := by
  cases t with
  | nil => exact fun _ _ h => nomatch h
  | cons c t =>
    rw [parseFrom]
    by_cases hcomma : c = ','
    · have h : Reads v (ended k v ',' t) := reads_ended
      rw [if_pos hcomma]
      exact h
    · rw [if_neg hcomma]
      by_cases hbracket : c = ']'
      · have h : Reads v (ended k v ']' t) := reads_ended
        rw [if_pos hbracket]
        exact h
      · rw [if_neg hbracket]
        exact fun _ _ h => nomatch h

theorem reads_quoted (h : '\'' ∉ v) :
    ∃ x, '\'' ∉ x ∧ Reads x (parseFrom (.quoted k v) t) := by
  induction t generalizing v with
  | nil => exact ⟨v, h, fun _ _ h => nomatch h⟩
  | cons c t ih =>
    rw [parseFrom]
    by_cases hc : c = '\''
    · rw [if_pos hc]
      exact ⟨v, h, reads_closed⟩
    · rw [if_neg hc]
      exact ih (by simp [h, Ne.symm hc])

theorem parseFrom_clean {e : Entry} (hkey : KeyOk e.key) (hc : c = ',' ∨ c = ']') (h : e.Clean) :
    parseFrom (.key []) (e.render ++ c :: t) = ended e.key.toList e.value c t := by
  unfold Entry.Clean at h
  unfold Entry.render
  rw [List.append_assoc, List.cons_append, parseFrom_key hkey, List.nil_append]
  cases hq : e.quoted with
  | false =>
    rw [hq, if_neg Bool.false_ne_true] at h
    rw [if_neg Bool.false_ne_true]
    exact parseFrom_start hc h
  | true =>
    rw [hq, if_pos rfl] at h
    rw [if_pos rfl, List.cons_append, List.cons_append, parseFrom, if_pos rfl, List.append_assoc,
      List.singleton_append, parseFrom_quoted h]
    rcases hc with rfl | rfl <;> simp [ended]

theorem reads_unclean {e : Entry} (hkey : KeyOk e.key) (h : ¬ e.Clean) :
    ∃ x, x ≠ e.value ∧ Reads x (parseFrom (.key []) (e.render ++ c :: t)) := by
  unfold Entry.Clean at h
  unfold Entry.render
  rw [List.append_assoc, List.cons_append, parseFrom_key hkey, List.nil_append]
  cases hq : e.quoted with
  | true =>
    rw [hq, if_pos rfl, not_not] at h
    rw [if_pos rfl, List.cons_append, List.cons_append, parseFrom, if_pos rfl]
    obtain ⟨x, hx, hreads⟩ := reads_quoted (v := []) (k := e.key.toList)
      (t := e.value ++ ['\''] ++ c :: t) List.not_mem_nil
    exact ⟨x, fun heq => hx (heq ▸ h), hreads⟩
  | false =>
    rw [hq, if_neg Bool.false_ne_true] at h
    rw [if_neg Bool.false_ne_true]
    cases hfirst : e.value with
    | nil => exact absurd (by simp [Plain, hfirst]) h
    | cons d w =>
      by_cases hd : d = '\''
      · -- it looks like a quoted value
        rw [List.cons_append, parseFrom, if_pos hd]
        obtain ⟨x, hx, hreads⟩ := reads_quoted (v := []) (k := e.key.toList) (t := w ++ c :: t)
          List.not_mem_nil
        exact ⟨x, fun heq => hx (by simp [heq, hd]), hreads⟩
      · -- it ends at the first comma or bracket
        have hends : ((d :: w).find? fun c => c = ',' ∨ c = ']').isSome := by
          rw [List.find?_isSome]
          by_contra hno
          refine h ?_
          rw [hfirst]
          refine ⟨fun hm => hno ⟨_, hm, by decide⟩, fun hm => hno ⟨_, hm, by decide⟩, ?_⟩
          simpa using hd
        obtain ⟨b, hb⟩ := Option.isSome_iff_exists.mp hends
        obtain ⟨hsep, x, y, heq, hbefore⟩ := List.find?_eq_some_iff_append.mp hb
        have hplain : Plain x := by
          refine ⟨fun hm => by simpa using hbefore _ hm, fun hm => by simpa using hbefore _ hm, ?_⟩
          cases x with
          | nil => exact nofun
          | cons d' x =>
            obtain ⟨rfl, -⟩ := List.cons.inj heq
            simpa using hd
        refine ⟨x, fun hx => ?_, ?_⟩
        · have hlen := congrArg List.length (heq.symm.trans hx.symm)
          simp at hlen
        · rw [heq, List.append_assoc, List.cons_append, parseFrom_start
            (by simpa using hsep) hplain]
          exact reads_ended

theorem parseFrom_renderEntries_iff {es : List Entry} (hne : es ≠ [])
    (hkeys : ∀ e ∈ es, KeyOk e.key) (rest : List Char) :
    parseFrom (.key []) (renderEntries es rest) = some (es.map Entry.pair, rest)
      ↔ ∀ e ∈ es, e.Clean := by
  -- an entry that is not clean is not read as itself, whatever follows it
  have hfirst {e : Entry} {c : Char} {t : List Char} {ps : List (List Char × List Char)}
      (hkey : KeyOk e.key)
      (h : parseFrom (.key []) (e.render ++ c :: t) = some (e.pair :: ps, rest)) : e.Clean := by
    by_contra hunclean
    obtain ⟨x, hx, hreads⟩ := reads_unclean hkey hunclean
    exact hx (Option.some.inj (hreads _ _ h)).symm
  induction es with
  | nil => exact absurd rfl hne
  | cons e es ih =>
    have hkey := hkeys e List.mem_cons_self
    rw [List.forall_mem_cons, List.map_cons]
    cases es with
    | nil =>
      rw [renderEntries, List.map_nil, and_iff_left (List.forall_mem_nil _)]
      refine ⟨fun h => hfirst hkey h, fun h => ?_⟩
      rw [parseFrom_clean hkey (.inr rfl) h]
      rfl
    | cons e' es =>
      have hrest := ih (List.cons_ne_nil _ _) fun e he => hkeys e (List.mem_cons_of_mem _ he)
      have hcons (hclean : e.Clean) :
          parseFrom (.key []) (renderEntries (e :: e' :: es) rest)
              = some (e.pair :: (e' :: es).map Entry.pair, rest)
            ↔ ∀ e ∈ e' :: es, e.Clean := by
        refine Iff.trans ?_ hrest
        rw [renderEntries, parseFrom_clean hkey (.inl rfl) hclean]
        · simp [ended, Parsed.cons, Entry.pair, Option.map_eq_some_iff]
        · exact nofun
      refine ⟨fun h => ?_, fun h => (hcons h.1).mpr h.2⟩
      have hclean : e.Clean := by
        rw [renderEntries] at h
        · exact hfirst hkey h
        · exact nofun
      exact ⟨hclean, (hcons hclean).mp h⟩

/-- **Reading gives back what was written** exactly if every value is clean. -/
theorem parse_render_iff {es : List Entry} (hne : es ≠ []) (hkeys : ∀ e ∈ es, KeyOk e.key)
    (rest : List Char) :
    parse (render es rest) = some (es.map Entry.pair, rest) ↔ ∀ e ∈ es, e.Clean :=
  parseFrom_renderEntries_iff hne hkeys rest

end CallCenter.Lib.Bracketed
