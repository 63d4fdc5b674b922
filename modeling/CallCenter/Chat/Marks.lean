import CallCenter.Chat.ChatWorld

/-!
# What the sessions say of the invites

Of a session only three things decide what the handlers of the replies do: the id of its
invite, and whether it was stopped or answered. Each method of the conversation changes these
marks of one session or of none, and the lookups find a session by them.
-/

namespace CallCenter.Chat

structure Mark where
  inviteId : String
  stopAt : Int
  answeredAt : Int

def Mark.fresh : Mark := ⟨"", 0, 0⟩

def ChatSession.mark (s : ChatSession) : Mark := ⟨s.inviteId, s.stopAt, s.answeredAt⟩

def Conversation.marks (c : Conversation) : List Mark := c.sessions.map ChatSession.mark

def Reply.markOf : Reply → Mark → Int
  | decline, m => m.stopAt
  | join, m => m.answeredAt

def Reply.setMark (r : Reply) (timestamp : Int) (m : Mark) : Mark :=
  match r with
  | decline => { m with stopAt := timestamp }
  | join => { m with answeredAt := timestamp }

@[simp] theorem Reply.setMark_inviteId (r : Reply) (t : Int) (m : Mark) :
    (r.setMark t m).inviteId = m.inviteId := by cases r <;> rfl

theorem Reply.markOf_setMark (r r' : Reply) (t : Int) (m : Mark) :
    r'.markOf (r.setMark t m) = if r' = r then t else r'.markOf m := by
  cases r <;> cases r' <;> rfl

namespace Conversation

variable {c : Conversation}

theorem marks_modifySession {f : ChatSession → ChatSession} {g : Mark → Mark}
    (h : ∀ s, (f s).mark = g s.mark) (i : Nat) :
    (c.modifySession i f).marks = c.marks.modify i g := by
  apply List.ext_getElem?
  intro j
  simp only [marks, modifySession, List.getElem?_map, List.getElem?_modify]
  by_cases hj : i = j
  · cases hs : c.sessions[j]? <;> simp [hj, h]
  · cases hs : c.sessions[j]? <;> simp [hj]

theorem marks_modifySession_same {f : ChatSession → ChatSession} (h : ∀ s, (f s).mark = s.mark)
    (i : Nat) : (c.modifySession i f).marks = c.marks := by
  rw [marks_modifySession (g := id) h i, List.modify_id]

theorem marks_setNewMessage (id : String) (now : Int) :
    (c.setNewMessage id now).marks = c.marks := by
  unfold setNewMessage
  dsimp only
  split
  · refine marks_modifySession_same (c := { c with lastMessageAt := now }) ?_ _
    exact fun _ => rfl
  · rfl

theorem marks_setClose (ts : Int) (cause : String) : (c.setClose ts cause).marks = c.marks := by
  refine marks_modifySession_same (c := { c with closeAt := ts, cause := cause }) ?_ 0
  exact fun _ => rfl

theorem marks_setStop (now : Int) : (c.setStop now).marks = c.marks := by
  unfold setStop
  split <;> rfl

theorem marks_stopSession (i : Nat) (ts : Int) :
    (c.stopSession i ts).marks = c.marks.modify i (Reply.decline.setMark ts) :=
  marks_modifySession (fun _ => rfl) i

theorem marks_setJoined (i : Nat) (id : String) (ts now : Int) :
    (c.setJoined (some i) id ts now).marks = c.marks.modify i (Reply.join.setMark ts) :=
  marks_modifySession (c := { c with lastMessageAt := now }) (fun _ => rfl) i

theorem marks_setInviteId (i : Nat) (id : String) (now : Int) :
    (c.setInviteId i id now).marks = c.marks.modify i fun m => { m with inviteId := id } :=
  marks_modifySession (fun _ => rfl) i

theorem marks_addSession : c.addSession.marks = c.marks ++ [.fresh] := by
  simp [marks, addSession, outboundChat, ChatSession.mark, Mark.fresh]

variable {id : String}

theorem getSessionByInviteId_some {i : Nat} (h : c.getSessionByInviteId id = some i) :
    ∃ m, c.marks[i]? = some m ∧ m.inviteId = id ∧ m.stopAt = 0 := by
  obtain ⟨hi, hp, -⟩ := List.findIdx?_eq_some_iff_getElem.mp h
  simp only [invitedBy, Bool.and_eq_true, decide_eq_true_eq] at hp
  exact ⟨c.sessions[i].mark, by simp [marks, hi], hp.1, hp.2⟩

theorem getSessionByInviteId_none (h : c.getSessionByInviteId id = none) {m : Mark}
    (hm : m ∈ c.marks) (hid : m.inviteId = id) : m.stopAt ≠ 0 := by
  obtain ⟨s, hs, rfl⟩ := List.mem_map.mp hm
  have hp := List.findIdx?_eq_none_iff.mp h s hs
  intro hstop
  have hyes : invitedBy id s = true := by
    simp only [invitedBy, Bool.and_eq_true, decide_eq_true_eq]
    exact ⟨hid, hstop⟩
  rw [hyes] at hp
  cases hp

theorem joinedSession_some {i : Nat} (h : c.joinedSession id = some i) :
    ∃ m, c.marks[i]? = some m ∧ m.inviteId = id := by
  obtain ⟨s, hs, hp⟩ := lastIdx?_some h
  simp only [invitedBy, Bool.and_eq_true, decide_eq_true_eq] at hp
  exact ⟨s.mark, by simp [marks, hs], hp.1⟩

theorem joinedSession_none (h : c.joinedSession id = none) {m : Mark} (hm : m ∈ c.marks)
    (hid : m.inviteId = id) : m.stopAt ≠ 0 := by
  obtain ⟨s, hs, rfl⟩ := List.mem_map.mp hm
  have hno := lastIdx?_none h s hs
  intro hstop
  have hyes : invitedBy id s = true := by
    simp only [invitedBy, Bool.and_eq_true, decide_eq_true_eq]
    exact ⟨hid, hstop⟩
  rw [hyes] at hno
  cases hno

end Conversation

theorem active_setStop {c : Conversation} {now : Int} (h : (c.setStop now).active = true) :
    c.active = true := by
  unfold Conversation.setStop at h
  split at h
  · exact decide_eq_true (by assumption)
  · exact h

theorem inviteFails_eq (w : ChatWorld) (t : Tick) :
    ∃ c r, w.inviteFails t = { w with conv := c, inviting := .returned r }
      ∧ c.marks = w.conv.marks ∧ c.state = w.conv.state ∧ r ≠ .ok
      ∧ (c.active = true → w.conv.active = true) := by
  unfold ChatWorld.inviteFails
  split
  · refine ⟨_, _, rfl, Conversation.marks_setStop _, ?_, nofun, active_setStop⟩
    unfold Conversation.setStop
    split <;> rfl
  · exact ⟨_, _, rfl, rfl, rfl, nofun, id⟩

/-! ## A list in which one mark has changed -/

variable {l : List Mark} {f : Mark → Mark} {i : Nat}

theorem getElem?_modify_some {j : Nat} {m' : Mark} (h : (l.modify i f)[j]? = some m') :
    ∃ m, l[j]? = some m ∧ (i = j ∧ m' = f m ∨ i ≠ j ∧ m' = m) := by
  rw [List.getElem?_modify] at h
  obtain ⟨m, hm, rfl⟩ := Option.map_eq_some_iff.mp h
  refine ⟨m, hm, ?_⟩
  by_cases hij : i = j
  · exact .inl ⟨hij, if_pos hij⟩
  · exact .inr ⟨hij, if_neg hij⟩

theorem getElem?_modify_of_ne {j : Nat} {m : Mark} (h : l[j]? = some m) (hij : i ≠ j) :
    (l.modify i f)[j]? = some m := by
  simp [h, hij]

theorem getElem?_modify_self {m : Mark} (h : l[i]? = some m) : (l.modify i f)[i]? = some (f m) := by
  simp [h]

end CallCenter.Chat
