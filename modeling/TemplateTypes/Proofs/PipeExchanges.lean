import TemplateTypes.Proofs.PipeSteps

/-!
# Pipe exchanges — how an exchange comes to its end

Whichever side goes on when, a child that ends has written what its actions write and ends as it
is meant to; only whether the source was delivered depends on the turns.  But not every child ends.
One that writes more than a pipe holds, before it has taken so much of the source that the pipe
holds the rest, waits for ever; one that finds room for its output until it takes its whole input
can always come to its end.
-/

namespace TemplateTypes

namespace Pipes

variable {room : Nat} {s s' : Pipes}

/-! ## 1. Children that can always come to their end -/

/-- There is room for all that the child writes before it takes the whole source. -/
def Fits (room : Nat) (s : Pipes) : Prop :=
  s.delivered = none → s.isOpen → ∀ stream,
    (s.written stream).length + (output stream (s.ahead.takeWhile (· ≠ .readAll))).length ≤ room

theorem Step.fits (h : Step room s s') (hf : Fits room s) : Fits room s' := by
  cases h with
  | sends | drains =>
    intro hd ho stream
    rw [written_keep]
    exact hf hd ho stream
  | delivers | givesUp => exact fun hn => absurd hn (by simp)
  | readsAll _ hw => exact fun hd ho => absurd ⟨hd, ho⟩ hw
  | closes => exact fun _ ho => absurd ho (by simp)
  | reads h _ =>
    intro hd ho stream
    have := hf hd ho stream
    rw [h, List.takeWhile_cons_of_pos (by simp), output_cons] at this
    rw [written_keep]
    exact this
  | @writes into bytes rest h hw =>
    intro hd ho stream
    have := hf hd ho stream
    rw [h, List.takeWhile_cons_of_pos (by simp), output_cons, List.length_append] at this
    -- The bytes are written now and no longer ahead, so the sum is the same.
    simp only [written_put, List.length_append]
    omega

theorem Fits.not_isStuck (hf : Fits room s) : ¬ IsStuck room s := by
  rintro ⟨hd, ho, -, stream, bytes, rest, ha, hfull⟩
  have := hf hd ho stream
  rw [ha, List.takeWhile_cons_of_pos (by simp), output_cons, List.length_append] at this
  simp only [actionOutput, if_true] at this
  omega

/-! ## 2. Children that wait for ever -/

/-- The bytes of the input that the actions take, one read after the other. -/
def taken : List Action → Nat
  | [] => 0
  | .read n :: xs => n + taken xs
  | _ :: xs => taken xs

@[simp] theorem taken_read_cons (n : Nat) (xs : List Action) :
    taken (.read n :: xs) = n + taken xs := rfl

@[simp] theorem taken_write_cons (stream : Stream) (bytes : Bytes) (xs : List Action) :
    taken (.write stream bytes :: xs) = taken xs := rfl

/-- While all that a child has taken and the pipe holds is less than the source, the child writes
more than there is room for. -/
structure Fills (room : Nat) (before rest : List Action) (s : Pipes) : Prop where
  unsettled : s.delivered = none
  isOpen : s.isOpen
  ahead : s.ahead = before ++ rest
  keeps : ∀ x ∈ before, x ≠ .readAll ∧ x ≠ .closeInput
  source : room + taken before < s.unsent.length + s.unread.length
  soFar : ∀ stream, (s.written stream).length ≤ room
  full : ∃ stream, room < (s.written stream).length + (output stream before).length

theorem Fills.exists_cons {before rest : List Action} (hf : Fills room before rest s) :
    ∃ x xs, before = x :: xs := by
  refine List.exists_cons_of_ne_nil ?_
  rintro rfl
  obtain ⟨stream, hfull⟩ := hf.full
  exact Nat.not_lt.2 (hf.soFar stream) hfull

theorem Step.fills {before rest : List Action} (h : Step room s s')
    (hf : Fills room before rest s) : ∃ before', Fills room before' rest s' := by
  obtain ⟨x, xs, rfl⟩ := hf.exists_cons
  obtain ⟨hd, ho, ha, hk, hs, hr, stream, hfull⟩ := hf
  obtain ⟨hx, hxs⟩ := List.forall_mem_cons.1 hk
  rw [output_cons, List.length_append] at hfull
  rw [List.cons_append] at ha
  cases h with
  | sends _ _ _ hn _ =>
    refine ⟨x :: xs, hd, ho, ha, hk, ?_, fun other => ?_, stream, ?_⟩
    · -- What the parent writes only moves into the pipe.
      simp only [List.length_drop, List.length_append, List.length_take]
      omega
    · rw [written_keep]
      exact hr other
    · rwa [written_keep, output_cons, List.length_append]
  | delivers _ _ hfit => omega
  | givesUp _ hl => simp [listens_iff.2 ⟨ho, by simp [ha]⟩] at hl
  | drains h | readsAll h =>
    rw [ha, List.cons.injEq] at h
    exact absurd h.1 hx.1
  | closes h =>
    rw [ha, List.cons.injEq] at h
    exact absurd h.1 hx.2
  | reads h _ =>
    rw [ha, List.cons.injEq] at h
    obtain ⟨rfl, rfl⟩ := h
    rw [taken_read_cons] at hs
    refine ⟨xs, hd, ho, rfl, hxs, ?_, fun other => ?_, stream, ?_⟩
    · simp only [List.length_drop]
      omega
    · rw [written_keep]
      exact hr other
    · rw [written_keep]
      simpa [actionOutput] using hfull
  | writes h hw =>
    rw [ha, List.cons.injEq] at h
    obtain ⟨rfl, rfl⟩ := h
    rw [taken_write_cons] at hs
    refine ⟨xs, hd, ho, rfl, hxs, hs, fun other => ?_, stream, ?_⟩
    · rw [written_put, List.length_append, actionOutput]
      split
      · rename_i heq
        rw [← heq]
        exact hw hd
      · exact hr other
    · rw [written_put, List.length_append]
      omega

/-! ## 3. Delivery -/

/-- The child takes its input up to the end before it does anything else. -/
def TakesAll (s : Pipes) : Prop :=
  s.delivered = some true ∨ s.delivered = none ∧ s.isOpen ∧ ∃ rest, s.ahead = .readAll :: rest

theorem Step.takesAll (h : Step room s s') (hs : s.TakesAll) : s'.TakesAll := by
  rcases hs with hd | ⟨hd, ho, rest, ha⟩
  · cases h with
    | sends hn | delivers hn | givesUp hn | drains _ hn => simp [hd] at hn
    | _ => exact .inl hd
  · cases h with
    | sends | drains => exact .inr ⟨hd, ho, rest, ha⟩
    | delivers => exact .inl rfl
    | givesUp _ hl => simp [listens_iff.2 ⟨ho, by simp [ha]⟩] at hl
    | readsAll _ hw => exact absurd ⟨hd, ho⟩ hw
    | reads h | closes h | writes h => simp [ha] at h

/-- The child leaves more of its input than the pipe holds. -/
def LeavesInput (room : Nat) (s : Pipes) : Prop :=
  s.delivered ≠ some true ∧ .readAll ∉ s.ahead ∧
    (s.delivered = none → s.isOpen → room + taken s.ahead < s.unsent.length + s.unread.length)

theorem Step.leavesInput (h : Step room s s') (hs : LeavesInput room s) : LeavesInput room s' := by
  obtain ⟨hd, hall, hsize⟩ := hs
  cases h with
  | sends hn _ _ hlt _ =>
    refine ⟨hd, hall, fun _ ho => ?_⟩
    have := hsize hn ho
    simp only [List.length_drop, List.length_append, List.length_take]
    omega
  | delivers hn hl hfit =>
    have := hsize hn (listens_iff.1 hl).1
    omega
  | givesUp => exact ⟨by simp, hall, fun hn => absurd hn (by simp)⟩
  | reads h _ =>
    rw [h, List.mem_cons, not_or] at hall
    refine ⟨hd, hall.2, fun hn ho => ?_⟩
    have := hsize hn ho
    rw [h, taken_read_cons] at this
    simp only [List.length_drop]
    omega
  | drains h | readsAll h => simp [h] at hall
  | closes h =>
    rw [h, List.mem_cons, not_or] at hall
    exact ⟨hd, hall.2, fun _ ho => absurd ho (by simp)⟩
  | writes h _ =>
    rw [h, List.mem_cons, not_or] at hall
    refine ⟨hd, hall.2, fun hn ho => ?_⟩
    have := hsize hn ho
    rwa [h, taken_write_cons] at this

theorem behaviour?_eq_some_iff {ending : Ending} {b : Behaviour} :
    s.behaviour? ending = some b ↔
      s.ahead = [] ∧ s.delivered = some b.delivered ∧ b.stdout = s.written .stdout ∧
        b.stderr = s.written .stderr ∧ b.ending = ending := by
  obtain ⟨delivered, stdout, stderr, ending'⟩ := b
  unfold behaviour?
  split
  · rename_i ha
    simp only [ha, true_and, Option.map_eq_some_iff, Behaviour.mk.injEq]
    constructor
    · rintro ⟨d, hd, rfl, rfl, rfl, rfl⟩
      exact ⟨hd, rfl, rfl, rfl⟩
    · rintro ⟨hd, rfl, rfl, rfl⟩
      exact ⟨delivered, hd, rfl, rfl, rfl, rfl⟩
  · rename_i ha
    simp [ha]

end Pipes

/-! ## 4. Children and their parents -/

namespace Child

open Pipes

variable {room : Nat} {turns : List Turn} {source : Text} {c : Child} {x : Exchange}

theorem isPending_after (c : Child) (room : Nat) (turns : List Turn) (source : Text) :
    (c.after room turns source).IsPending :=
  (Pipes.after_induct (P := fun _ => True) (fun _ _ _ _ _ => trivial) (isPending_start _ _) trivial
    turns).1

/-- What holds at the start and is kept by every step holds however far an exchange has come. -/
theorem after_induct (c : Child) (room : Nat) (turns : List Turn) (source : Text)
    {P : Pipes → Prop} (start : P (.start (Text.Utf8.encode source) c.actions))
    (step : ∀ s s', P s → Step room s s' → P s') : P (c.after room turns source) :=
  (Pipes.after_induct (fun s s' _ hs h => step s s' hs h) (isPending_start _ _) start turns).2

theorem after_append (turns more : List Turn) :
    c.after room (turns ++ more) source = (c.after room turns source).after room more :=
  Pipes.after_append _ _ _

theorem exists_meet_of_isOver (h : (c.after room turns source).IsOver) :
    ∃ x, c.meet room turns source = some x := by
  obtain ⟨ha, hd⟩ := h
  obtain ⟨d, hd⟩ := Option.ne_none_iff_exists'.1 hd
  refine Option.isSome_iff_exists.1 ?_
  rw [meet, behaviour?, if_pos ha, hd]
  rfl

/-- Only the delivery of the source depends on the turns. -/
theorem eq_ended_of_meet (h : c.meet room turns source = some x) :
    ∃ d, (c.after room turns source).delivered = some d ∧
      x = .ended ⟨d, output .stdout c.actions, output .stderr c.actions, c.ending⟩ := by
  obtain ⟨b, hb, rfl⟩ := Option.map_eq_some_iff.1 h
  obtain ⟨ha, hd, hout, herr, hending⟩ := behaviour?_eq_some_iff.1 hb
  have hwritten (stream : Stream) :
      (c.after room turns source).written stream = output stream c.actions := by
    have h := after_induct c room turns source
      (P := fun s => s.written stream ++ output stream s.ahead = output stream c.actions)
      (by cases stream <;> rfl) fun s s' hs hstep => (hstep.written_append_output stream).trans hs
    rwa [ha, output_nil, List.append_nil] at h
  refine ⟨b.delivered, hd, ?_⟩
  rw [← hwritten .stdout, ← hwritten .stderr, ← hout, ← herr, ← hending]

/-- Every exchange can be carried on until it is over, or until nobody can carry it on and it will
never be over. -/
theorem exists_isOver_or_isStuck (hroom : 0 < room) (source : Text) (c : Child)
    (turns : List Turn) :
    ∃ more, (c.after room (turns ++ more) source).IsOver ∨
      IsStuck room (c.after room (turns ++ more) source) ∧
        ∀ later, c.meet room (turns ++ more ++ later) source = none := by
  obtain ⟨more, hstill⟩ := exists_isStill room (isPending_after c room turns source)
  rw [← after_append] at hstill
  have hs := isPending_after c room (turns ++ more) source
  refine ⟨more, ((isStill_iff hroom hs).1 hstill).imp_right fun hstuck => ?_⟩
  refine ⟨hstuck, fun later => ?_⟩
  -- Nothing changes any more, and the child has not ended.
  rw [meet, after_append, hstill.after_eq hs later, behaviour?, if_neg, Option.map_none]
  obtain ⟨-, -, -, stream, bytes, rest, ha, -⟩ := hstuck
  simp [ha]

/-- Before the child takes its whole input it writes no more than a pipe holds. -/
def FitsInto (room : Nat) (c : Child) : Prop :=
  ∀ stream, (output stream (c.actions.takeWhile (· ≠ .readAll))).length ≤ room

theorem exists_meet (hroom : 0 < room) (hf : c.FitsInto room) (source : Text) (turns : List Turn) :
    ∃ more x, c.meet room (turns ++ more) source = some x := by
  obtain ⟨more, hover | ⟨hstuck, -⟩⟩ := exists_isOver_or_isStuck hroom source c turns
  · exact ⟨more, exists_meet_of_isOver hover⟩
  · have hstart : Fits room (.start (Text.Utf8.encode source) c.actions) := by
      intro _ _ stream
      have := hf stream
      cases stream <;> simpa [start, written] using this
    have hfits := after_induct c room (turns ++ more) source hstart
      fun s s' hs hstep => hstep.fits hs
    exact absurd hstuck hfits.not_isStuck

/-- Before the child has taken so much of the source that the pipe holds the rest, it writes more
than the other pipe holds. -/
def Overfills (room : Nat) (source : Text) (c : Child) : Prop :=
  ∃ before rest stream, c.actions = before ++ rest ∧
    (∀ x ∈ before, x ≠ .readAll ∧ x ≠ .closeInput) ∧
    room + taken before < (Text.Utf8.encode source).length ∧ room < (output stream before).length

theorem meet_eq_none (h : c.Overfills room source) (turns : List Turn) :
    c.meet room turns source = none := by
  obtain ⟨before, rest, stream, ha, hk, hs, hfull⟩ := h
  have hne : Text.Utf8.encode source ≠ [] := List.length_pos_iff.1 (by omega)
  have hstart : Fills room before rest (.start (Text.Utf8.encode source) c.actions) :=
    { unsettled := if_neg hne
      isOpen := rfl
      ahead := ha
      keeps := hk
      source := hs
      soFar := fun stream => by cases stream <;> exact Nat.zero_le _
      full := ⟨stream, by cases stream <;> simpa [start, written] using hfull⟩ }
  obtain ⟨before', hf⟩ := after_induct c room turns source
    (P := fun s => ∃ before, Fills room before rest s) ⟨before, hstart⟩
    fun s s' hs hstep => hs.elim fun _ hf => hstep.fills hf
  rw [meet, behaviour?, hf.unsettled]
  split <;> rfl

/-- The child writes its three bytes before it reads, and the pipes hold two. -/
example : (⟨[.write .stderr [0, 0, 0], .readAll], .exit 0⟩ : Child).meet 2
    [.parent 3, .child, .child, .parent 3, .child] "abc".toList = none := by
  decide +kernel

theorem eq_ended_of_readAll {rest : List Action} (ha : c.actions = .readAll :: rest)
    (h : c.meet room turns source = some x) :
    x = .ended ⟨true, output .stdout rest, output .stderr rest, c.ending⟩ := by
  obtain ⟨d, hd, rfl⟩ := eq_ended_of_meet h
  have hstart : TakesAll (.start (Text.Utf8.encode source) c.actions) := by
    by_cases hsource : Text.Utf8.encode source = []
    · exact .inl (if_pos hsource)
    · exact .inr ⟨if_neg hsource, rfl, rest, ha⟩
  have htakes := after_induct c room turns source hstart fun s s' hs hstep => hstep.takesAll hs
  rcases htakes with htrue | ⟨hn, -⟩
  · rw [htrue, Option.some.injEq] at hd
    rw [ha, ← hd]
    rfl
  · rw [hn] at hd
    cases hd

theorem eq_ended_of_leavesInput (hall : .readAll ∉ c.actions)
    (hsize : room + taken c.actions < (Text.Utf8.encode source).length)
    (h : c.meet room turns source = some x) :
    x = .ended ⟨false, output .stdout c.actions, output .stderr c.actions, c.ending⟩ := by
  obtain ⟨d, hd, rfl⟩ := eq_ended_of_meet h
  have hne : Text.Utf8.encode source ≠ [] := List.length_pos_iff.1 (by omega)
  have hstart : LeavesInput room (.start (Text.Utf8.encode source) c.actions) :=
    ⟨by simp [start, hne], hall, fun _ _ => hsize⟩
  obtain ⟨hleaves, -⟩ := after_induct c room turns source hstart
    fun s s' hs hstep => hstep.leavesInput hs
  cases d with
  | true => exact absurd hd hleaves
  | false => rfl

end Child

end TemplateTypes
