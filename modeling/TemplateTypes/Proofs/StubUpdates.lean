import TemplateTypes.Stub.Reader
import TemplateTypes.Proofs.InsertionOrder
import TemplateTypes.Proofs.LineEnds

/-!
# Stub updates — a stub behind another one

Two stubs with a line feed between them are read as the first, updated by the second.  This needs no
care about how the first one ends: the line feed can end a line, complete a line end, or stand alone
on an empty line, which tells nothing.  Main statement: a name of both keeps its place and takes the
whole entry of the second, a new name comes last, and looking a name up asks the second stub first.
-/

namespace TemplateTypes.Stub

theorem entries_append_eq_insertAll (s t : Text) :
    entries (s ++ '\n' :: t) = (entries s).insertAll (entries t).entries := by
  have hempty : readLine [] = none := rfl
  have hpairs : entries (s ++ '\n' :: t) =
      (entries s).insertAll ((Text.lines t).filterMap readLine) := by
    rw [entries, Text.filterMap_lines_append_lineFeed hempty]
    exact Dictionary.insertAll_append _ _ _
  rw [hpairs, entries, entries, Dictionary.insertAll_entries_ofList]

theorem entries_append_lineFeed (s t : Text) :
    entries (s ++ '\n' :: t) = (entries s).insertAll (entries t).entries ∧
      (entries (s ++ '\n' :: t)).entries =
        (entries s).entries.map (fun e => (e.1, (lookup t e.1).getD e.2)) ++
          (entries t).entries.filter (fun e => (lookup s e.1).isNone) ∧
      ((entries (s ++ '\n' :: t)).entries.map Prod.fst).Nodup ∧
      ∀ name, lookup (s ++ '\n' :: t) name = (lookup t name).or (lookup s name) := by
  have hupdate := entries_append_eq_insertAll s t
  refine ⟨hupdate, ?_, (entries _).distinct, ?_⟩
  · rw [hupdate, Dictionary.entries_insertAll_entries]
    simp only [lookup, Dictionary.contains, Option.not_isSome]
  · intro name
    rw [lookup, hupdate, Dictionary.get?_insertAll, Dictionary.ofList_entries]
    rfl

/-- A carriage return is made up to a line end, a comment goes with its type, and a name that stands
first in the second stub comes last. -/
example :
    (entries ("x: int # a\ny: str\r".toList ++ '\n' :: "z: bool\nx: float".toList)).entries =
      [("x".toList, ⟨"float".toList, none⟩), ("y".toList, ⟨"str".toList, none⟩),
        ("z".toList, ⟨"bool".toList, none⟩)] := by
  decide +kernel

end TemplateTypes.Stub
