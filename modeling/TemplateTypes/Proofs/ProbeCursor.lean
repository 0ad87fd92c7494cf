import TemplateTypes.Probe
import TemplateTypes.Proofs.Cutting
import TemplateTypes.Proofs.TerminatedLines
import TemplateTypes.Proofs.Trimming

/-!
# Probe cursor — where the source of a probe ends

The cursor of a probe counts the lines that the source was put together from, and the characters of
the last of them.  No line of a stub brings a line feed, so the target line begins where the cursor
says, and the cursor stands at the end of the source unless the expression brings one.
-/

namespace TemplateTypes.Probe

/-! ## 1. The end of a text -/

/-- Behind the last character: one line more than there are line feeds, and the characters behind
the last of these. -/
def endOf (t : Text) : Cursor :=
  ⟨t.count '\n' + 1, (t.reverse.takeWhile (· ≠ '\n')).length⟩

/-- Nothing stands between the start of a line and the end of the text. -/
def EndsAtLineStart (t : Text) : Prop := ∀ c ∈ t.getLast?, c = '\n'

theorem endsAtLineStart_flatMap (ls : List Text) :
    EndsAtLineStart (ls.flatMap (· ++ ['\n'])) := by
  intro c hc
  rcases List.eq_nil_or_concat' ls with rfl | ⟨init, last, rfl⟩
  · cases hc
  · rw [List.flatMap_append, List.flatMap_singleton, ← List.append_assoc,
      List.getLast?_concat] at hc
    exact (Option.some.inj hc).symm

/-- What stands in front of a line only counts as lines. -/
theorem endOf_append {before : Text} (h : EndsAtLineStart before) (t : Text) :
    endOf (before ++ t) = ⟨before.count '\n' + (endOf t).line, (endOf t).column⟩ := by
  have hline : before.reverse.takeWhile (· ≠ '\n') = [] := by
    cases hb : before.reverse with
    | nil => rfl
    | cons c b =>
      have hc : before.getLast? = some c := by rw [← List.head?_reverse, hb, List.head?_cons]
      rw [List.takeWhile_cons_of_neg (by simp [h c hc])]
  have hcolumn : ((before ++ t).reverse.takeWhile (· ≠ '\n')).length =
      (t.reverse.takeWhile (· ≠ '\n')).length := by
    rw [List.reverse_append, List.takeWhile_append]
    split
    · -- No line feed stands in `t`, so its line goes back to where `before` ends.
      rename_i hall
      rw [hline, List.append_nil, hall]
    · rfl
  rw [endOf, hcolumn, List.count_append, endOf, Nat.add_assoc]

theorem endOf_eq_iff {t : Text} : endOf t = ⟨1, t.length⟩ ↔ '\n' ∉ t := by
  constructor
  · intro h
    have hcount : t.count '\n' + 1 = 1 := congrArg Cursor.line h
    exact List.count_eq_zero.1 (by omega)
  · intro h
    have hall : t.reverse.takeWhile (· ≠ '\n') = t.reverse :=
      List.takeWhile_eq_self_iff.2 (Text.forall_ne_of_notMem (by rwa [List.mem_reverse]))
    rw [endOf, hall, List.length_reverse, List.count_eq_zero_of_not_mem h]

/-! ## 2. The lines in front of the target line -/

theorem lineFeed_notMem_of_mem_context {stub l : Text} (h : l ∈ context stub) : '\n' ∉ l := by
  rcases List.mem_append.1 h with h | h
  · exact (Text.oneLine_of_mem_lines (List.mem_filter.1 h).1).lineFeed_notMem
  · obtain ⟨k, hk, rfl⟩ := List.mem_map.1 h
    have hcut : withoutComment k <:+: k :=
      (Text.isInfix_trim (Text.upTo '#' k)).trans (List.takeWhile_prefix _).isInfix
    have hline := Text.oneLine_of_mem_lines (List.mem_filter.1 hk).1
    exact (hline.mono hcut).lineFeed_notMem

theorem lineFeed_mem_targetLine_iff (expr : Text) (mode : Mode) :
    '\n' ∈ targetLine expr mode ↔ '\n' ∈ expr := by
  have ht : '\n' ∉ target := by decide
  have hm : '\n' ≠ trigger mode := by cases mode <;> decide
  simp [targetLine, ht, hm]

/-! ## 3. The cursor -/

/-- The cursor stands behind the target line as if that were one line; so it stands at the end of
the source exactly if the expression brings no line feed. -/
theorem cursor_ofStub_eq_endOf_iff (stub expr : Text) (mode : Mode) :
    (∃ before, (ofStub stub expr mode).source = before ++ targetLine expr mode ∧
      EndsAtLineStart before ∧
      (ofStub stub expr mode).cursor =
        ⟨before.count '\n' + 1, (targetLine expr mode).length⟩) ∧
      ((ofStub stub expr mode).cursor = endOf (ofStub stub expr mode).source ↔ '\n' ∉ expr) := by
  have hsource : (ofStub stub expr mode).source =
      (context stub).flatMap (· ++ ['\n']) ++ targetLine expr mode :=
    Text.join_append_singleton (context stub) (targetLine expr mode)
  have hstart := endsAtLineStart_flatMap (context stub)
  have hcount : ((context stub).flatMap (· ++ ['\n'])).count '\n' = (context stub).length :=
    Text.count_lineFeed_flatMap fun _ => lineFeed_notMem_of_mem_context
  have hcursor : (ofStub stub expr mode).cursor =
      ⟨(context stub).length + 1, (targetLine expr mode).length⟩ := rfl
  constructor
  · refine ⟨_, hsource, hstart, ?_⟩
    rw [hcursor, hcount]
  · -- Both cursors count the lines of the context, so what is left is the target line.
    have hshift : ∀ e : Cursor,
        (⟨(context stub).length + 1, (targetLine expr mode).length⟩ : Cursor) =
          ⟨(context stub).length + e.line, e.column⟩ ↔
            e = ⟨1, (targetLine expr mode).length⟩ := by
      rintro ⟨line, column⟩
      simp only [Cursor.mk.injEq]
      omega
    rw [hsource, hcursor, endOf_append hstart, hcount, hshift, endOf_eq_iff,
      lineFeed_mem_targetLine_iff]

/-- A call over two lines is counted as one line, and the line of the cursor is too short for it. -/
theorem cursor_ofStub_ne_endOf :
    let p := ofStub "f: int\n".toList "f(1,\n2)".toList .complete
    p.source = "f: int\n__typedjinja_target__ = f(1,\n2).".toList ∧ p.cursor = ⟨2, 32⟩ ∧
      endOf p.source = ⟨3, 3⟩ := by
  decide +kernel

end TemplateTypes.Probe
