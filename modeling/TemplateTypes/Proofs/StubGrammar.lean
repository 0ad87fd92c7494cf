import TemplateTypes.Proofs.CanonicalStubs

/-!
# Stub grammar — the lines that a stub is read from

A line of a stub that tells something is an identifier, perhaps blanks, a colon and a type, and
perhaps a comment behind a hash.  The reader takes the blanks, the type and the comment apart in its
own way, but what it gives only depends on the line.  Main statement: reading a single line gives
one entry if the line has this form, the entry that the form tells, and nothing otherwise.
-/

namespace TemplateTypes.Stub

/-! ## 1. Lines that tell something -/

/-- What can stand behind the colon, with the entry that it tells. -/
inductive TellsBody : Entry → Text → Prop
  | typed {type : Text} (hne : type ≠ []) (hh : '#' ∉ type) :
      TellsBody ⟨Text.trim type, none⟩ type
  | commented {type : Text} (hne : type ≠ []) (hh : '#' ∉ type) (comment : Text) :
      TellsBody
        ⟨Text.trim type, if Text.trim comment = [] then none else some (Text.trim comment)⟩
        (type ++ '#' :: comment)

/-- The line tells the entry of the name. -/
def TellsEntry (name : Text) (e : Entry) (line : Text) : Prop :=
  Text.isIdentifier name = true ∧
    ∃ w body, Text.AllBlank w ∧ TellsBody e body ∧ line = name ++ (w ++ ':' :: body)

theorem readBody_eq_some_iff {body : Text} {e : Entry} :
    readBody body = some e ↔ TellsBody e body := by
  rw [readBody_eq, Option.ite_none_left_eq_some, Option.some.injEq]
  constructor
  · rintro ⟨hne, rfl⟩
    rcases entryOf_cases body with ⟨hh, he⟩ | ⟨type, comment, rfl, hh, he⟩
    · rw [Text.upTo_of_notMem hh] at hne
      rw [he]
      exact .typed hne hh
    · rw [Text.upTo_append hh] at hne
      rw [he]
      exact .commented hne hh comment
  · intro h
    cases h with
    | typed hne hh =>
      rw [Text.upTo_of_notMem hh, entryOf, Text.cut?_eq_none_iff.2 hh]
      exact ⟨hne, rfl⟩
    | commented hne hh comment =>
      rw [Text.upTo_append hh]
      exact ⟨hne, entryOf_append hh comment⟩

theorem readLine_eq_some_iff {line name : Text} {e : Entry} :
    readLine line = some (name, e) ↔ TellsEntry name e line := by
  constructor
  · intro h
    obtain ⟨w, body, hn, hw, hline, hbody⟩ := readLine_eq_some h
    exact ⟨hn, w, body, hw, readBody_eq_some_iff.1 hbody, hline⟩
  · rintro ⟨hn, w, body, hw, hbody, rfl⟩
    rw [readLine_append_colon hn hw, readBody_eq_some_iff.2 hbody, Option.map_some]

/-! ## 2. A stub of one line -/

theorem filterMap_readLine_of_oneLine {line : Text} (h : Text.OneLine line) :
    (Text.lines line).filterMap readLine = (readLine line).toList := by
  by_cases hne : line = []
  · rw [hne]
    rfl
  · rw [Text.lines_of_oneLine h hne, List.filterMap_cons, List.filterMap_nil]
    cases readLine line <;> rfl

theorem entries_of_oneLine {line : Text} (h : Text.OneLine line) :
    (entries line).entries = (readLine line).toList := by
  rw [entries, filterMap_readLine_of_oneLine h]
  cases readLine line <;> rfl

theorem entries_iff_tellsEntry {line : Text} (h : Text.OneLine line) :
    (∀ name e, (entries line).entries = [(name, e)] ↔ TellsEntry name e line) ∧
      (∀ name e, lookup line name = some e ↔ TellsEntry name e line) ∧
      ((entries line).entries = [] ↔ ∀ name e, ¬TellsEntry name e line) := by
  rw [entries_of_oneLine h]
  refine ⟨?_, ?_, ?_⟩
  · intro name e
    rw [← readLine_eq_some_iff, Option.toList_eq_singleton_iff]
  · intro name e
    rw [← readLine_eq_some_iff, lookup, Dictionary.get?_eq_some_iff_mem, entries_of_oneLine h,
      Option.mem_toList]
  · simp only [← readLine_eq_some_iff, Option.toList_eq_nil_iff, Option.eq_none_iff_forall_ne_some,
      Prod.forall, ne_eq]

/-- A type of blanks alone behind an exotic blank, and a comment with a hash of its own; the same
line with a margin tells nothing. -/
theorem entries_iff_tellsEntry_blankType :
    let line := "x\u00a0:  # y: # z ".toList
    Text.OneLine line ∧ Text.OneLine (' ' :: line) ∧
      (entries line).entries = [("x".toList, ⟨[], some "y: # z".toList⟩)] ∧
      lookup line "x".toList = some ⟨[], some "y: # z".toList⟩ ∧
      (entries (' ' :: line)).entries = [] ∧ ∀ name e, ¬TellsEntry name e (' ' :: line) := by
  intro line
  have hline : Text.OneLine line := by decide
  have hmargin : Text.OneLine (' ' :: line) := by decide
  have hne : "  ".toList ≠ [] := by decide
  have hh : '#' ∉ "  ".toList := by decide
  have htells : TellsEntry "x".toList ⟨[], some "y: # z".toList⟩ line :=
    ⟨by decide, ['\u00a0'], _, by decide, .commented hne hh " y: # z ".toList, rfl⟩
  have hnone : (entries (' ' :: line)).entries = [] := by decide +kernel
  exact ⟨hline, hmargin, ((entries_iff_tellsEntry hline).1 _ _).2 htells,
    ((entries_iff_tellsEntry hline).2.1 _ _).2 htells, hnone,
    (entries_iff_tellsEntry hmargin).2.2.1 hnone⟩

end TemplateTypes.Stub
