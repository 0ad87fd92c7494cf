import TemplateTypes.Interpreter.Pipes
import Mathlib.Tactic.ByContra

/-!
# Pipe steps — what carries an exchange on

While the parent writes it does not read, so the child may have to wait for its output to be read
while the parent waits for its input to be taken.  Main statements: this is the only way in which an
exchange comes to a standstill before it is over (`isStill_iff`), and every exchange can be carried
on until it comes to a standstill (`exists_isStill`).
-/

namespace TemplateTypes

namespace Pipes

variable {room : Nat} {s s' : Pipes}

/-! ## 1. Steps -/

/-- What one side can do to carry an exchange on. -/
inductive Step (room : Nat) (s : Pipes) : Pipes → Prop
  | sends {n : Nat} : s.delivered = none → s.listens → 0 < n → n < s.unsent.length →
      s.unread.length + n ≤ room →
      Step room s { s with unsent := s.unsent.drop n, unread := s.unread ++ s.unsent.take n }
  | delivers : s.delivered = none → s.listens → s.unread.length + s.unsent.length ≤ room →
      Step room s
        { s with unsent := [], unread := s.unread ++ s.unsent, delivered := some true }
  | givesUp : s.delivered = none → s.listens = false →
      Step room s { s with delivered := some false }
  | reads {n : Nat} {rest : List Action} : s.ahead = .read n :: rest →
      ¬ (s.delivered = none ∧ s.isOpen ∧ s.unread = []) →
      Step room s { s with unread := s.unread.drop n, ahead := rest }
  | drains {rest : List Action} : s.ahead = .readAll :: rest → s.delivered = none → s.isOpen →
      s.unread ≠ [] → Step room s { s with unread := [] }
  | readsAll {rest : List Action} : s.ahead = .readAll :: rest →
      ¬ (s.delivered = none ∧ s.isOpen) → Step room s { s with unread := [], ahead := rest }
  | closes {rest : List Action} : s.ahead = .closeInput :: rest →
      Step room s { s with unread := [], isOpen := false, ahead := rest }
  | writes {stream : Stream} {bytes : Bytes} {rest : List Action} :
      s.ahead = .write stream bytes :: rest →
      (s.delivered = none → (s.written stream).length + bytes.length ≤ room) →
      Step room s { s.put stream bytes with ahead := rest }

theorem listens_iff : s.listens = true ↔ s.isOpen = true ∧ s.ahead ≠ [] := by
  simp [listens]

/-- As long as it is open what becomes of the source, some of it has not been written. -/
def IsPending (s : Pipes) : Prop :=
  s.delivered = none → s.unsent ≠ []

theorem send_eq_or_step (hs : s.IsPending) (bytes : Nat) :
    s.send room bytes = s ∨ Step room s (s.send room bytes) := by
  by_cases hd : s.delivered = none
  case neg => exact .inl (if_pos hd)
  rw [send, if_neg (not_not_intro hd)]
  by_cases hl : s.listens
  case neg =>
    rw [if_neg hl]
    exact .inr (.givesUp hd (by simpa using hl))
  rw [if_pos hl]
  have hpos := List.length_pos_iff.2 (hs hd)
  generalize hn : min bytes (room - s.unread.length) = n
  -- No room, then nothing is written; room for a part; room for all that is left.
  rcases Nat.eq_zero_or_pos n with rfl | hn0
  · left
    simp [hd.symm, hs hd]
  rcases Nat.lt_or_ge n s.unsent.length with hlt | hge
  · simp only [if_neg (Nat.not_le.2 hlt)]
    rw [show (none : Option Bool) = s.delivered from hd.symm]
    exact .inr (.sends hd hl hn0 hlt (by omega))
  · simp only [if_pos hge, List.drop_eq_nil_of_le hge, List.take_of_length_le hge]
    exact .inr (.delivers hd hl (by omega))

theorem act_eq_or_step (s : Pipes) : s.act room = s ∨ Step room s (s.act room) := by
  unfold act
  split
  · exact .inl rfl
  · rename_i h
    split
    · exact .inl rfl
    · rename_i hw
      exact .inr (.reads h hw)
  · rename_i h
    split
    · rename_i hw
      by_cases hu : s.unread = []
      · left
        rw [← hu]
      · exact .inr (.drains h hw.1 hw.2 hu)
    · rename_i hw
      exact .inr (.readsAll h hw)
  · rename_i h
    exact .inr (.closes h)
  · rename_i h
    split
    · exact .inl rfl
    · rename_i hw
      exact .inr (.writes h fun hd => Nat.not_lt.1 fun hlt => hw ⟨hd, hlt⟩)

/-- Nothing happens in a turn but steps. -/
theorem turn_eq_or_step (hs : s.IsPending) (t : Turn) :
    s.turn room t = s ∨ Step room s (s.turn room t) := by
  cases t with
  | parent bytes => exact send_eq_or_step hs bytes
  | child => exact act_eq_or_step s

/-- Every step is a turn of one of the sides. -/
theorem exists_turn_of_step (h : Step room s s') : ∃ t, s.turn room t = s' := by
  cases h with
  | @sends n hd hl hn0 hn hr =>
    refine ⟨.parent n, ?_⟩
    rw [turn, send, if_neg (not_not_intro hd), if_pos hl, Nat.min_eq_left (by omega)]
    simp only [if_neg (Nat.not_le.2 hn), hd]
  | delivers hd hl hr =>
    refine ⟨.parent s.unsent.length, ?_⟩
    rw [turn, send, if_neg (not_not_intro hd), if_pos hl, Nat.min_eq_left (by omega)]
    simp
  | givesUp hd hl =>
    refine ⟨.parent 0, ?_⟩
    rw [turn, send, if_neg (not_not_intro hd), if_neg (by simp [hl])]
  | reads h hw =>
    refine ⟨.child, ?_⟩
    simp only [turn, act, h]
    exact if_neg hw
  | drains h hd ho hu =>
    refine ⟨.child, ?_⟩
    simp only [turn, act, h]
    exact if_pos ⟨hd, ho⟩
  | readsAll h hw =>
    refine ⟨.child, ?_⟩
    simp only [turn, act, h]
    exact if_neg hw
  | closes h =>
    refine ⟨.child, ?_⟩
    simp only [turn, act, h]
  | writes h hw =>
    refine ⟨.child, ?_⟩
    simp only [turn, act, h]
    exact if_neg fun hn => Nat.not_lt.2 (hw hn.1) hn.2

theorem Step.isPending (h : Step room s s') (hs : s.IsPending) : s'.IsPending := by
  cases h with
  | sends hd hl hn0 hn hr => exact fun _ hnil => absurd (List.drop_eq_nil_iff.1 hnil) (by omega)
  | delivers hd hl hr => exact fun hn => absurd hn (by simp)
  | givesUp hd hl => exact fun hn => absurd hn (by simp)
  | _ => exact hs

theorem isPending_start (source : Bytes) (actions : List Action) :
    (start source actions).IsPending := by
  unfold IsPending start
  split
  · simp
  · rename_i h
    exact fun _ => h

/-- What every step keeps, an exchange keeps. -/
theorem after_induct {P : Pipes → Prop} (step : ∀ s s', s.IsPending → P s → Step room s s' → P s')
    (hs : s.IsPending) (hP : P s) (turns : List Turn) :
    (s.after room turns).IsPending ∧ P (s.after room turns) := by
  induction turns generalizing s with
  | nil => exact ⟨hs, hP⟩
  | cons t turns ih =>
    show IsPending ((s.turn room t).after room turns) ∧ P ((s.turn room t).after room turns)
    rcases turn_eq_or_step hs t with ht | ht
    · rw [ht]
      exact ih hs hP
    · exact ih (ht.isPending hs) (step _ _ hs hP ht)

theorem after_append (s : Pipes) (turns more : List Turn) :
    s.after room (turns ++ more) = (s.after room turns).after room more :=
  List.foldl_append

/-! ## 2. What a child writes -/

/-- What an action writes to a stream. -/
def actionOutput (stream : Stream) : Action → Bytes
  | .write into bytes => if into = stream then bytes else []
  | _ => []

def output (stream : Stream) (actions : List Action) : Bytes :=
  actions.flatMap (actionOutput stream)

@[simp] theorem output_nil (stream : Stream) : output stream [] = [] := rfl

@[simp] theorem output_cons (stream : Stream) (x : Action) (xs : List Action) :
    output stream (x :: xs) = actionOutput stream x ++ output stream xs := rfl

@[simp] theorem written_keep (s : Pipes) (unsent unread : Bytes) (delivered : Option Bool)
    (isOpen : Bool) (ahead : List Action) (stream : Stream) :
    ({ s with unsent, unread, delivered, isOpen, ahead } : Pipes).written stream =
      s.written stream := by
  cases stream <;> rfl

theorem written_put (s : Pipes) (into stream : Stream) (bytes : Bytes) (ahead : List Action) :
    ({ s.put into bytes with ahead := ahead } : Pipes).written stream =
      s.written stream ++ actionOutput stream (.write into bytes) := by
  cases into <;> cases stream <;> simp [put, written, actionOutput]

/-- What has been written and what is still to be written together stay the same. -/
theorem Step.written_append_output (h : Step room s s') (stream : Stream) :
    s'.written stream ++ output stream s'.ahead = s.written stream ++ output stream s.ahead := by
  cases h with
  | reads h _ | readsAll h _ | closes h => rw [h, written_keep, output_cons]; rfl
  | writes h _ => rw [h, written_put, output_cons, List.append_assoc]
  | _ => rw [written_keep]

/-! ## 3. Standstill -/

def IsStill (room : Nat) (s : Pipes) : Prop :=
  ∀ s', ¬ Step room s s'

def IsOver (s : Pipes) : Prop :=
  s.ahead = [] ∧ s.delivered ≠ none

/-- The parent waits for room in the pipe, and the child for somebody to read its output. -/
def IsStuck (room : Nat) (s : Pipes) : Prop :=
  s.delivered = none ∧ s.isOpen ∧ room ≤ s.unread.length ∧
    ∃ stream bytes rest, s.ahead = .write stream bytes :: rest ∧
      room < (s.written stream).length + bytes.length

theorem exists_step_of_settled (hd : s.delivered ≠ none) (ha : s.ahead ≠ []) :
    ∃ s', Step room s s' := by
  obtain ⟨x, rest, h⟩ := List.exists_cons_of_ne_nil ha
  cases x with
  | read n => exact ⟨_, .reads h fun hw => hd hw.1⟩
  | readAll => exact ⟨_, .readsAll h fun hw => hd hw.1⟩
  | closeInput => exact ⟨_, .closes h⟩
  | write stream bytes => exact ⟨_, .writes h fun hn => absurd hn hd⟩

/-- A pipe that is not full can be written to. -/
theorem exists_step_of_room (hs : s.IsPending) (hd : s.delivered = none) (hl : s.listens)
    (hr : s.unread.length < room) : ∃ s', Step room s s' := by
  have hpos := List.length_pos_iff.2 (hs hd)
  by_cases hfit : s.unread.length + s.unsent.length ≤ room
  · exact ⟨_, .delivers hd hl hfit⟩
  · exact ⟨_, .sends (n := room - s.unread.length) hd hl (by omega) (by omega) (by omega)⟩

theorem isStuck_of_isStill (hroom : 0 < room) (hs : s.IsPending) (h : IsStill room s)
    (hd : s.delivered = none) : IsStuck room s := by
  have hl : s.listens := by
    by_contra hl
    exact h _ (.givesUp hd (by simpa using hl))
  have hr : room ≤ s.unread.length := by
    by_contra hr
    obtain ⟨s', hstep⟩ := exists_step_of_room hs hd hl (Nat.not_le.1 hr)
    exact h s' hstep
  have hu : s.unread ≠ [] := List.length_pos_iff.1 (by omega)
  -- Of all that the child can be about to do, only a write can wait while there is input.
  obtain ⟨ho, ha⟩ := listens_iff.1 hl
  obtain ⟨x, rest, hx⟩ := List.exists_cons_of_ne_nil ha
  cases x with
  | read n => exact absurd (.reads hx fun hw => hu hw.2.2) (h _)
  | readAll => exact absurd (.drains hx hd ho hu) (h _)
  | closeInput => exact absurd (.closes hx) (h _)
  | write stream bytes =>
    refine ⟨hd, ho, hr, stream, bytes, rest, hx, ?_⟩
    by_contra hfit
    exact h _ (.writes hx fun _ => Nat.not_lt.1 hfit)

theorem IsOver.isStill (h : s.IsOver) : IsStill room s := by
  obtain ⟨ha, hd⟩ := h
  intro s' hstep
  cases hstep with
  | sends hn | delivers hn | givesUp hn => exact hd hn
  | reads hx | drains hx | readsAll hx | closes hx | writes hx => simp [ha] at hx

theorem IsStuck.isStill (hs : s.IsPending) (h : IsStuck room s) : IsStill room s := by
  obtain ⟨hd, ho, hr, stream, bytes, rest, ha, hfull⟩ := h
  have hpos := List.length_pos_iff.2 (hs hd)
  intro s' hstep
  cases hstep with
  | sends _ _ hn0 _ hfit => omega
  | delivers _ _ hfit => omega
  | givesUp _ hl => simp [listens_iff.2 ⟨ho, by simp [ha]⟩] at hl
  | reads hx | drains hx | readsAll hx | closes hx => simp [ha] at hx
  | writes hx hfit =>
    rw [ha, List.cons.injEq, Action.write.injEq] at hx
    obtain ⟨⟨rfl, rfl⟩, -⟩ := hx
    exact Nat.not_lt.2 (hfit hd) hfull

theorem isStill_iff (hroom : 0 < room) (hs : s.IsPending) :
    IsStill room s ↔ s.IsOver ∨ IsStuck room s := by
  constructor
  · intro h
    by_cases hd : s.delivered = none
    · exact .inr (isStuck_of_isStill hroom hs h hd)
    · refine .inl ⟨?_, hd⟩
      by_contra ha
      obtain ⟨s', hstep⟩ := exists_step_of_settled hd ha
      exact h s' hstep
  · rintro (h | h)
    · exact h.isStill
    · exact h.isStill hs

theorem IsStill.after_eq (h : IsStill room s) (hs : s.IsPending) (turns : List Turn) :
    s.after room turns = s := by
  induction turns with
  | nil => rfl
  | cons t turns ih =>
    rcases turn_eq_or_step hs t with ht | ht
    · exact (congrArg (fun s : Pipes => s.after room turns) ht).trans ih
    · exact absurd ht (h _)

/-- A byte has two ways to go, into the pipe and out of it. -/
def work (s : Pipes) : Nat :=
  2 * s.unsent.length + s.unread.length + s.ahead.length + if s.delivered = none then 1 else 0

theorem Step.work_lt (h : Step room s s') : s'.work < s.work := by
  cases h with
  | sends hd hl hn0 hn hr =>
    simp only [work, List.length_drop, List.length_append, List.length_take]
    omega
  | delivers hd hl hr =>
    simp only [work, hd, List.length_append, List.length_nil, if_true, reduceCtorEq, if_false]
    omega
  | givesUp hd hl => simp [work, hd]
  | reads h hw =>
    simp only [work, h, List.length_drop, List.length_cons]
    omega
  | drains h hd ho hu =>
    have := List.length_pos_iff.2 hu
    simp only [work, List.length_nil]
    omega
  | readsAll h hw =>
    simp only [work, h, List.length_nil, List.length_cons]
    omega
  | closes h =>
    simp only [work, h, List.length_nil, List.length_cons]
    omega
  | writes h hw =>
    simp only [work, put, h, List.length_cons]
    omega

/-- Every exchange can be carried on to a standstill. -/
theorem exists_isStill (room : Nat) (hs : s.IsPending) :
    ∃ turns, IsStill room (s.after room turns) := by
  -- Induction on the work that is left, which every step lowers.
  induction hw : s.work using Nat.strongRecOn generalizing s with
  | _ w ih =>
    by_cases h : IsStill room s
    · exact ⟨[], h⟩
    · obtain ⟨s', hstep⟩ : ∃ s', Step room s s' := by simpa [IsStill] using h
      obtain ⟨t, rfl⟩ := exists_turn_of_step hstep
      obtain ⟨turns, hturns⟩ := ih _ (hw ▸ hstep.work_lt) (hstep.isPending hs) rfl
      exact ⟨t :: turns, hturns⟩

end Pipes

end TemplateTypes
