import Mathlib.Data.List.Chain
import TemplateTypes.Proofs.TerminatedLines

/-!
# Line ends — the one way to cut a text into lines

A text can be written as lines without breaks, each with a line end behind it, where only the last
line may go without one, and only if something stands on it.  As long as a carriage return never
stands for a line end of its own in front of a line feed, there is one such way, and it gives the
lines of the text.  Main statement: splitting a text undoes writing its lines down, whatever line
ends are used, and two texts keep their lines side by side if the first ends with a line.
-/

namespace TemplateTypes.Text

/-! ## 1. Texts as written lines -/

/-- The text is the lines one after the other.  Each has a line end behind it, never half of one;
the last line may go without, unless it is empty. -/
inductive IsWritten : List Text → Text → Prop
  | nil : IsWritten [] []
  | last {l : Text} (hl : OneLine l) (hne : l ≠ []) : IsWritten [l] l
  | line {l e t : Text} {ls : List Text} (hl : OneLine l) (he : IsLineEnd e)
      (hp : ¬FormsBreak e t) (h : IsWritten ls t) : IsWritten (l :: ls) (l ++ (e ++ t))

theorem IsWritten.lines_eq {t : Text} {ls : List Text} (h : IsWritten ls t) : lines t = ls := by
  induction h with
  | nil => rfl
  | last hl hne => exact lines_of_oneLine hl hne
  | line hl he hp _ ih =>
    apply lines_append_of_lines_eq hl
    rw [lines_lineEnd_append he hp, ih]

theorem IsWritten.cons {c : Char} {t : Text} {ls : List Text} (hc : isLineBreak c = false)
    (h : IsWritten ls t) : IsWritten (addToFirst c ls) (c :: t) := by
  have hcons : ∀ {l : Text}, OneLine l → OneLine (c :: l) :=
    fun hl => List.forall_mem_cons.2 ⟨hc, hl⟩
  cases h with
  | nil => exact .last (hcons oneLine_nil) (List.cons_ne_nil c [])
  | last hl hne => exact .last (hcons hl) (List.cons_ne_nil c _)
  | line hl he hp h => exact .line (hcons hl) he hp h

/-- Any text is written from its lines. -/
theorem isWritten_lines (t : Text) : IsWritten (lines t) t := by
  induction hn : t.length using Nat.strong_induction_on generalizing t with
  | h n ih =>
    subst hn
    cases t with
    | nil => exact .nil
    | cons c t =>
      have ht : IsWritten (lines t) t := ih t.length (Nat.lt_succ_self _) t rfl
      cases hb : isLineBreak c with
      | false =>
        rw [lines_cons_of_not_break hb]
        exact ht.cons hb
      | true =>
        have he : IsLineEnd [c] := .inr ⟨c, hb, rfl⟩
        by_cases hp : FormsBreak [c] t
        · -- The line end has two characters, so the rest of the text begins behind both.
          obtain ⟨hc, u, rfl⟩ := he.formsBreak_iff.1 hp
          cases hc
          have hu : IsWritten (lines u) u :=
            ih u.length (by simp only [List.length_cons]; omega) u rfl
          have hpair : IsWritten ([] :: lines u) ([] ++ (['\r', '\n'] ++ u)) :=
            .line oneLine_nil (.inl rfl) (by simp [FormsBreak]) hu
          rwa [← lines_pair_append] at hpair
        · have hone : IsWritten ([] :: lines t) ([] ++ ([c] ++ t)) := .line oneLine_nil he hp ht
          rwa [← lines_lineEnd_append he hp] at hone

theorem isWritten_iff {t : Text} {ls : List Text} : IsWritten ls t ↔ lines t = ls := by
  constructor
  · exact IsWritten.lines_eq
  · rintro rfl
    exact isWritten_lines t

/-! ## 2. Lines with their line ends -/

/-- A line and the line end behind it. -/
structure EndedLine where
  line : Text
  lineEnd : Text
  oneLine : OneLine line
  isLineEnd : IsLineEnd lineEnd

namespace EndedLine

def text (l : EndedLine) : Text := l.line ++ l.lineEnd

/-- A carriage return ends the one line and a line feed the next, on which nothing stands. -/
structure Joins (k l : EndedLine) : Prop where
  lineEnd_eq : k.lineEnd = ['\r']
  line_eq : l.line = []
  next_eq : l.lineEnd = ['\n']

instance (k l : EndedLine) : Decidable (k.Joins l) :=
  decidable_of_iff (k.lineEnd = ['\r'] ∧ l.line = [] ∧ l.lineEnd = ['\n'])
    ⟨fun h => ⟨h.1, h.2.1, h.2.2⟩, fun h => ⟨h.1, h.2, h.3⟩⟩

/-- A line on which something stands does not begin with its line end. -/
theorem joins_of_formsBreak {k l : EndedLine} {t : Text}
    (h : FormsBreak k.lineEnd (l.text ++ t)) : k.Joins l := by
  obtain ⟨hk, u, hu⟩ := k.isLineEnd.formsBreak_iff.1 h
  rw [text, List.append_assoc] at hu
  have hline : l.line = [] := by
    cases hl : l.line with
    | nil => rfl
    | cons c r =>
      rw [hl] at hu
      obtain ⟨rfl, -⟩ := List.cons.inj hu
      have hone : OneLine ('\n' :: r) := hl ▸ l.oneLine
      exact absurd List.mem_cons_self hone.lineFeed_notMem
  refine ⟨hk, hline, ?_⟩
  rw [hline, List.nil_append] at hu
  rcases l.isLineEnd with he | ⟨c, -, he⟩
  · rw [he] at hu
    exact absurd (List.cons.inj hu).1 (by decide)
  · rw [he] at hu
    rw [he, (List.cons.inj hu).1]

theorem isWritten_flatMap_text {ls : List EndedLine} (h : ls.IsChain fun k l => ¬k.Joins l) :
    IsWritten (ls.map line) (ls.flatMap text) := by
  induction ls with
  | nil => exact .nil
  | cons k ls ih =>
    have hp : ¬FormsBreak k.lineEnd (ls.flatMap text) := by
      cases ls with
      | nil => exact fun hp => by cases hp.2
      | cons l ls => exact fun hp => (List.isChain_cons_cons.1 h).1 (joins_of_formsBreak hp)
    rw [List.map_cons, List.flatMap_cons, text, List.append_assoc]
    exact .line k.oneLine k.isLineEnd hp (ih h.tail)

end EndedLine

/-! ## 3. Texts one after the other -/

/-- Nothing stands behind the last line end, if there is any text at all. -/
def EndsWithLine (t : Text) : Prop := ∀ c ∈ t.getLast?, isLineBreak c = true

instance (t : Text) : Decidable (EndsWithLine t) :=
  decidable_of_iff _ (Option.all_eq_true isLineBreak t.getLast?)

theorem EndsWithLine.of_append {s t : Text} (h : EndsWithLine (s ++ t)) : EndsWithLine t := by
  intro c hc
  apply h c
  rw [List.getLast?_append, Option.mem_def.1 hc]
  rfl

theorem IsWritten.append {s t : Text} {ls ks : List Text} (hs : IsWritten ls s)
    (ht : IsWritten ks t) (hends : EndsWithLine s) (hp : ¬FormsBreak s t) :
    IsWritten (ls ++ ks) (s ++ t) := by
  induction hs with
  | nil => exact ht
  | @last l hl hne =>
    -- The last character of the text would be a break on a line.
    have hlast := hends _ (Option.mem_def.2 (List.getLast?_eq_some_getLast hne))
    rw [hl _ (List.getLast_mem hne)] at hlast
    cases hlast
  | @line l e r ls hl he hpr _ ih =>
    rw [← List.append_assoc] at hends hp
    have hpr' : ¬FormsBreak r t := fun h => hp (h.append_left (l ++ e))
    have hpe : ¬FormsBreak e (r ++ t) := by
      cases r with
      | nil =>
        rw [List.append_nil] at hp
        exact fun h => hp (h.append_left l)
      | cons c r => exact hpr
    rw [List.cons_append, List.append_assoc, List.append_assoc]
    exact .line hl he hpe (ih hends.of_append hpr')

theorem lines_append {s t : Text} (hends : EndsWithLine s) (hp : ¬FormsBreak s t) :
    lines (s ++ t) = lines s ++ lines t :=
  ((isWritten_lines s).append (isWritten_lines t) hends hp).lines_eq

/-- A line feed ends the line that the text leaves open, or completes its last line end; where there
is neither, it ends an empty line. -/
theorem IsWritten.exists_lines_append_lineFeed {t : Text} {ls : List Text} (h : IsWritten ls t) :
    ∃ gap, (∀ l ∈ gap, l = []) ∧ lines (t ++ ['\n']) = ls ++ gap := by
  induction h with
  | nil => exact ⟨[[]], by simp, rfl⟩
  | last hl hne => exact ⟨[], by simp, lines_append_lineFeed hl []⟩
  | @line l e r ls hl he hp h ih =>
    obtain ⟨gap, hgap, hr⟩ := ih
    by_cases hpe : FormsBreak e (r ++ ['\n'])
    · -- The line feed belongs to a carriage return, so nothing stands between the two.
      obtain ⟨rfl, u, hu⟩ := he.formsBreak_iff.1 hpe
      cases r with
      | cons c r =>
        obtain ⟨rfl, -⟩ := List.cons.inj hu
        exact absurd (he.formsBreak_iff.2 ⟨rfl, r, rfl⟩) hp
      | nil =>
        have hls : ls = [] := h.lines_eq.symm
        refine ⟨[], by simp, ?_⟩
        rw [hls, List.append_assoc]
        exact lines_append_of_lines_eq hl (lines_pair_append [])
    · have hline : lines (e ++ (r ++ ['\n'])) = [] :: (ls ++ gap) := by
        rw [lines_lineEnd_append he hpe, hr]
      refine ⟨gap, hgap, ?_⟩
      rw [List.append_assoc, List.append_assoc]
      exact lines_append_of_lines_eq hl hline

/-- With a line feed between them two texts keep their lines, up to an empty one in the middle. -/
theorem exists_lines_append_lineFeed_append (s : Text) :
    ∃ gap, (∀ l ∈ gap, l = []) ∧
      ∀ t, lines (s ++ '\n' :: t) = lines s ++ gap ++ lines t := by
  obtain ⟨gap, hgap, hs⟩ := (isWritten_lines s).exists_lines_append_lineFeed
  have hends : EndsWithLine (s ++ ['\n']) := by
    intro c hc
    rw [List.getLast?_concat] at hc
    rw [← Option.some.inj hc]
    decide
  refine ⟨gap, hgap, fun t => ?_⟩
  have hp : ¬FormsBreak (s ++ ['\n']) t := by
    rintro ⟨hr, -⟩
    rw [List.getLast?_concat] at hr
    exact absurd (Option.some.inj hr) (by decide)
  rw [← hs, ← lines_append hends hp, List.append_assoc, List.singleton_append]

theorem filterMap_lines_append_lineFeed {β : Type} {f : Text → Option β} (hf : f [] = none)
    (s t : Text) :
    (lines (s ++ '\n' :: t)).filterMap f = (lines s).filterMap f ++ (lines t).filterMap f := by
  obtain ⟨gap, hgap, hlines⟩ := exists_lines_append_lineFeed_append s
  rw [hlines, List.filterMap_append, List.filterMap_append, filterMap_gap hf hgap, List.append_nil]

/-! ## 4. Splitting and writing -/

theorem lines_inverts_writing :
    (∀ t ls, IsWritten ls t ↔ ls = lines t) ∧
      (∀ ls : List EndedLine, ls.IsChain (fun k l => ¬k.Joins l) →
        lines (ls.flatMap EndedLine.text) = ls.map EndedLine.line) ∧
      ∀ s t, EndsWithLine s → ¬FormsBreak s t → lines (s ++ t) = lines s ++ lines t := by
  refine ⟨?_, ?_, ?_⟩
  · intro t ls
    rw [isWritten_iff, eq_comm]
  · intro ls h
    exact (EndedLine.isWritten_flatMap_text h).lines_eq
  · intro s t hends hp
    exact lines_append hends hp

/-- Line ends of one and of two characters, empty lines behind both, and a next text that begins
with a line feed. -/
theorem lines_inverts_writing_mixed :
    let ls : List EndedLine :=
      [⟨"é".toList, ['\r', '\n'], by decide, .inl rfl⟩,
        ⟨[], ['\n'], by decide, .inr ⟨_, by decide, rfl⟩⟩,
        ⟨"b ".toList, ['\r'], by decide, .inr ⟨_, by decide, rfl⟩⟩,
        ⟨[], ['\u2028'], by decide, .inr ⟨_, by decide, rfl⟩⟩]
    let s := "é\r\n\nb \r\u2028".toList
    let t := "\nc".toList
    ls.IsChain (fun k l => ¬k.Joins l) ∧ EndsWithLine s ∧ ¬FormsBreak s t ∧
      ls.flatMap EndedLine.text = s ∧ lines s = ["é".toList, [], "b ".toList, []] ∧
      lines (s ++ t) = lines s ++ [[], "c".toList] ∧
      IsWritten ["é".toList, [], "b ".toList, [], [], "c".toList] (s ++ t) := by
  intro ls s t
  obtain ⟨hwritten, hended, hnext⟩ := lines_inverts_writing
  have hchain : ls.IsChain fun k l => ¬k.Joins l := by decide
  have hends : EndsWithLine s := by decide
  have hp : ¬FormsBreak s t := by decide
  have hs : ls.flatMap EndedLine.text = s := by decide
  have hlines : lines s = ["é".toList, [], "b ".toList, []] := by
    rw [← hs, hended ls hchain]
    rfl
  have hboth : lines (s ++ t) = lines s ++ [[], "c".toList] := hnext s t hends hp
  exact ⟨hchain, hends, hp, hs, hlines, hboth, (hwritten _ _).2 (by rw [hboth, hlines]; rfl)⟩

end TemplateTypes.Text
