import TemplateTypes.Query
import TemplateTypes.Proofs.Identifiers
import TemplateTypes.Proofs.StubLines

/-!
# Stub look-up — what a stub says about the names of its template

Main statement: looking a declared identifier up in the stub of a template gives the type and the
docstring of the line that declares it last.  Reading the stub gives these entries in order and
nothing else, the two words that open an import line aside.
-/

namespace TemplateTypes

namespace Stub

/-! ## 1. The entry of a value -/

/-- The type before the first hash of a value and the comment behind it. -/
def entryOf (value : Text) : Entry :=
  match Text.cut? '#' value with
  | none => ⟨Text.trim value, none⟩
  | some (type, comment) =>
    ⟨Text.trim type, if Text.trim comment = [] then none else some (Text.trim comment)⟩

theorem entryOf_append {type : Text} (h : '#' ∉ type) (comment : Text) :
    entryOf (type ++ '#' :: comment) =
      ⟨Text.trim type, if Text.trim comment = [] then none else some (Text.trim comment)⟩ := by
  rw [entryOf, Text.cut?_append h]

/-- A body without a character before its hash is refused; every other one is an entry. -/
theorem readBody_eq (body : Text) :
    readBody body = if Text.upTo '#' body = [] then none else some (entryOf body) := by
  rw [readBody, entryOf]
  cases hc : Text.cut? '#' body with
  | none =>
    have hn : '#' ∉ body := Text.cut?_eq_none_iff.1 hc
    rw [Text.upTo_of_notMem hn, Text.fromFirst_of_notMem hn]
    rfl
  | some s =>
    obtain ⟨rfl, ha⟩ := Text.cut?_eq_some_iff.1 hc
    rw [Text.upTo_append ha, Text.fromFirst_append ha]
    rfl

theorem entryOf_blank_cons (value : Text) : entryOf (' ' :: value) = entryOf value := by
  have ht : ∀ type : Text, Text.trim (' ' :: type) = Text.trim type :=
    Text.trim_blanks_append (Text.allBlank_spaces 1)
  have hcut : Text.cut? '#' (' ' :: value) =
      (Text.cut? '#' value).map fun s => (' ' :: s.1, s.2) := rfl
  rw [entryOf, entryOf, hcut]
  cases Text.cut? '#' value with
  | none => simp only [Option.map_none, ht]
  | some s => simp only [Option.map_some, ht]

/-- The blank that the writer puts behind the colon makes room for an empty type. -/
theorem readBody_blank_cons (value : Text) : readBody (' ' :: value) = some (entryOf value) := by
  have hu : Text.upTo '#' (' ' :: value) = ' ' :: Text.upTo '#' value := rfl
  rw [readBody_eq, hu, if_neg (List.cons_ne_nil _ _), entryOf_blank_cons]

/-! ## 2. One line -/

theorem readLine_eq_some {line name : Text} {e : Entry} (h : readLine line = some (name, e)) :
    ∃ w body, Text.isIdentifier name = true ∧ Text.AllBlank w ∧
      line = name ++ (w ++ ':' :: body) ∧ readBody body = some e := by
  rw [readLine] at h
  split at h
  · cases h
  rename_i n t hc
  obtain ⟨rfl, hn⟩ := Text.cutIdentifier?_eq_some hc
  split at h
  · rename_i body hb
    obtain ⟨e', he, hp⟩ := Option.map_eq_some_iff.1 h
    cases hp
    obtain ⟨w, hw, ht⟩ := Text.exists_blanks_append_trimLeft t
    exact ⟨w, body, hn, hw, by rw [ht, hb], he⟩
  · cases h

theorem readLine_append_colon {name w : Text} (hn : Text.isIdentifier name = true)
    (hw : Text.AllBlank w) (body : Text) :
    readLine (name ++ (w ++ ':' :: body)) = (readBody body).map fun e => (name, e) := by
  have hl : Text.trimLeft (w ++ ':' :: body) = ':' :: body := by
    rw [Text.trimLeft_append_of_allBlank hw, Text.trimLeft_eq_self (by simp; decide)]
  rw [readLine, Text.cutIdentifier?_append_blanks hn hw (by decide)]
  simp only [hl]

theorem readLine_declarationLine_of_isIdentifier {name : Text}
    (h : Text.isIdentifier name = true) (value : Text) :
    readLine (declarationLine (name, value)) = some (name, entryOf value) := by
  have hw : Text.AllBlank [] := Text.allBlank_spaces 0
  rw [declarationLine_eq, ← List.nil_append (':' :: ' ' :: (name, value).2),
    readLine_append_colon h hw, readBody_blank_cons, Option.map_some]

/-- A trimmed name is read back whole or not at all. -/
theorem isIdentifier_of_readLine_declarationLine {name value : Text} {x : Text × Entry}
    (ht : Text.IsTrimmed name) (hc : ':' ∉ name)
    (h : readLine (declarationLine (name, value)) = some x) : Text.isIdentifier name = true := by
  obtain ⟨n, e⟩ := x
  obtain ⟨w, body, hn, hw, hl, -⟩ := readLine_eq_some h
  rw [declarationLine_eq, ← List.append_assoc] at hl
  have hcw : ':' ∉ n ++ w := by
    rw [List.mem_append, not_or]
    exact ⟨Text.colon_notMem_of_isIdentifier hn, fun h => by have := hw _ h; revert this; decide⟩
  -- Both sides are cut at the first colon, so the names agree up to blanks.
  have hcut := Text.cut?_append hc (' ' :: value)
  rw [hl, Text.cut?_append hcw, Option.some.injEq, Prod.mk.injEq] at hcut
  have htrim : Text.trim (n ++ w) = Text.trim name := by rw [hcut.1]
  rw [Text.trim_append_blanks hw, (Text.isTrimmed_of_isIdentifier hn).trim_eq, ht.trim_eq] at htrim
  rwa [← htrim]

theorem readLine_declarationLine {e : Text × Text} (h : IsNameText e.1) :
    readLine (declarationLine e) =
      if Text.isIdentifier e.1 = true then some (e.1, entryOf e.2) else none := by
  split
  · rename_i hn
    exact readLine_declarationLine_of_isIdentifier hn e.2
  · rename_i hn
    rw [Option.eq_none_iff_forall_ne_some]
    intro x hx
    exact hn (isIdentifier_of_readLine_declarationLine h.trimmed h.colon_notMem hx)

/-- The words that open an import line. -/
def importWords : List Text := ["import".toList, "from".toList]

theorem mem_importWords_of_readLine {line : Text} {x : Text × Entry}
    (hi : BlockLine.IsImport line) (h : readLine line = some x) : x.1 ∈ importWords := by
  -- The identifier at the front of the line ends at the blank, so it is the word itself.
  have key : ∀ word : Text, Text.isIdentifier word = true → word ++ [' '] <+: line →
      x.1 = word := by
    rintro word hw ⟨r, rfl⟩
    rw [readLine, List.append_assoc, Text.cutIdentifier?_append hw (by simp; decide)] at h
    split at h
    · cases h
    · rename_i n t hc
      cases hc
      split at h
      · obtain ⟨e, -, rfl⟩ := Option.map_eq_some_iff.1 h
        rfl
      · cases h
  rcases hi with hi | hi
  · rw [key "import".toList (by decide) hi]
    exact List.mem_cons_self
  · rw [key "from".toList (by decide) hi]
    exact List.mem_cons_of_mem _ List.mem_cons_self

/-! ## 3. The whole stub -/

/-- The identifiers among the entries, each with what its value says. -/
def identifierEntries (es : List (Text × Text)) : List (Text × Entry) :=
  (es.filter fun e => Text.isIdentifier e.1).map fun e => (e.1, entryOf e.2)

theorem map_fst_identifierEntries_sublist (es : List (Text × Text)) :
    ((identifierEntries es).map Prod.fst).Sublist (es.map Prod.fst) := by
  rw [identifierEntries, List.map_map]
  exact (List.filter_sublist (l := es)).map Prod.fst

theorem filterMap_readLine_entries (document : Text) :
    (TypesBlock.ofDocument document).annotations.entries.filterMap
        (fun e => readLine (declarationLine e)) =
      identifierEntries (TypesBlock.ofDocument document).annotations.entries := by
  rw [identifierEntries, ← List.filterMap_eq_map, List.filterMap_filter]
  apply List.filterMap_congr
  intro e he
  exact readLine_declarationLine (isNameText_of_mem_entries he)

theorem entries_ofBlock (document : Text) :
    entries (ofBlock (TypesBlock.ofDocument document)) =
      .ofList ((TypesBlock.ofDocument document).imports.filterMap readLine ++
        identifierEntries (TypesBlock.ofDocument document).annotations.entries) := by
  rw [entries, filterMap_lines_ofBlock readLine rfl, filterMap_readLine_entries]

theorem lookup_ofBlock_of_get? {document name value : Text} (hn : Text.isIdentifier name = true)
    (h : (TypesBlock.ofDocument document).annotations.get? name = some value) :
    lookup (ofBlock (TypesBlock.ofDocument document)) name = some (entryOf value) := by
  have hd := (TypesBlock.ofDocument document).annotations.distinct
  rw [Dictionary.get?_eq_some_iff_mem] at h
  have hm : (name, entryOf value) ∈
      identifierEntries (TypesBlock.ofDocument document).annotations.entries :=
    List.mem_map.2 ⟨(name, value), List.mem_filter.2 ⟨h, hn⟩, rfl⟩
  obtain ⟨before, after, hs⟩ := List.append_of_mem hm
  -- Import entries stand in front, and behind this entry its name does not come up again.
  have hnd := (map_fst_identifierEntries_sublist _).nodup hd
  rw [hs, List.map_append, List.map_cons, List.nodup_append, List.nodup_cons] at hnd
  rw [lookup, entries_ofBlock, hs, ← List.append_assoc]
  exact Dictionary.get?_ofList_append_cons hnd.2.1.1 _ _

/-- Import lines can only be read as entries of the words that open them. -/
theorem filter_entries_ofBlock (document : Text) :
    (entries (ofBlock (TypesBlock.ofDocument document))).entries.filter
        (fun e => decide (e.1 ∉ importWords)) =
      (identifierEntries (TypesBlock.ofDocument document).annotations.entries).filter
        fun e => decide (e.1 ∉ importWords) := by
  have hi : ((TypesBlock.ofDocument document).imports.filterMap readLine).filter
      (fun e => decide (e.1 ∉ importWords)) = [] := by
    rw [List.filter_eq_nil_iff]
    intro e he
    obtain ⟨line, hl, hr⟩ := List.mem_filterMap.1 he
    simpa using mem_importWords_of_readLine (isImportText_of_mem_imports hl).isImport hr
  rw [entries_ofBlock, Dictionary.entries_filter_ofList (fun n => decide (n ∉ importWords)),
    List.filter_append, hi, List.nil_append]
  apply Dictionary.entries_ofList_of_nodup
  have hs := map_fst_identifierEntries_sublist
    (TypesBlock.ofDocument document).annotations.entries
  exact ((List.filter_sublist.map Prod.fst).trans hs).nodup
    (TypesBlock.ofDocument document).annotations.distinct

/-- Type and docstring of a line come back from the value that was stored for it. -/
theorem entryOf_of_isDeclared {document name value type : Text} {doc? : Option Text}
    (h : IsDeclared document name value type doc?) (ht : '#' ∉ type) :
    entryOf value = ⟨type, doc?⟩ := by
  rw [h.value_eq]
  cases hd : doc? with
  | none =>
    rw [withDoc, entryOf, Text.cut?_eq_none_iff.2 ht]
    simp only [h.isType.trimmed.trim_eq]
  | some doc =>
    have hdoc : IsDocText doc := h.isDoc doc hd
    have hb : Text.AllBlank [' '] := Text.allBlank_spaces 1
    have hbb : Text.AllBlank [' ', ' '] := Text.allBlank_spaces 2
    -- The type holds no hash, so the first one is that of the separator.
    have hw : withDoc type (some doc) = (type ++ [' ', ' ']) ++ '#' :: ([' '] ++ doc) := by
      rw [withDoc_some]
      simp
    have hn : '#' ∉ type ++ [' ', ' '] := by simpa using ht
    rw [hw, entryOf_append hn, Text.trim_append_blanks hbb, h.isType.trimmed.trim_eq,
      Text.trim_blanks_append hb, hdoc.trimmed.trim_eq, if_neg hdoc.ne_nil]

/-! ## 4. The stub of a template -/

theorem lookup_ofBlock_ofDocument (document : Text) :
    (∀ name value, Text.isIdentifier name = true →
      (TypesBlock.ofDocument document).annotations.get? name = some value →
        lookup (ofBlock (TypesBlock.ofDocument document)) name = some (entryOf value)) ∧
    (∀ ls before name type engine, TypesBlock.ReadsAs document ls →
      LastDeclares ls before name type → Text.isIdentifier name = true → '#' ∉ type →
        ∃ doc?, (∀ doc, doc? = some doc ↔ Attached before doc) ∧
          Query.answer ⟨.hover, ofBlock (TypesBlock.ofDocument document), name⟩ engine =
            .entry (some ⟨type, doc?⟩)) ∧
    (entries (ofBlock (TypesBlock.ofDocument document))).entries.filter
        (fun e => decide (e.1 ∉ importWords)) =
      ((TypesBlock.ofDocument document).annotations.entries.filter
        fun e => Text.isIdentifier e.1 && decide (e.1 ∉ importWords)).map
          fun e => (e.1, entryOf e.2) := by
  refine ⟨fun _ _ => lookup_ofBlock_of_get?, ?_, ?_⟩
  · intro ls before name type engine hr hl hn ht
    have hlook := lookup_ofBlock_of_get? hn (get?_of_lastDeclares hr hl)
    rw [entryOf_of_isDeclared (isDeclared_of_lastDeclares hr hl) ht] at hlook
    exact ⟨_, fun doc => foldl_passOn_eq_some_iff, congrArg Answer.entry hlook⟩
  · rw [filter_entries_ofBlock, identifierEntries, List.filter_map, List.filter_filter]
    congr 1
    apply List.filter_congr
    intro e _
    exact Bool.and_comm _ _

theorem lookup_ofBlock_user :
    let d := TypesBlock.asDocument "import : x\n\"\"\" Who \"\"\"\nuser: User\n".toList
    let stub := ofBlock (TypesBlock.ofDocument d)
    let before : List BlockLine := [.importing "import : x".toList, .docstring "Who".toList]
    let ls := before ++ [.declaring "user".toList "User".toList]
    Text.isIdentifier "user".toList = true ∧ '#' ∉ "User".toList ∧
      (TypesBlock.ofDocument d).annotations.get? "user".toList = some "User  # Who".toList ∧
      TypesBlock.ReadsAs d ls ∧ LastDeclares ls before "user".toList "User".toList ∧
      lookup stub "user".toList = some ⟨"User".toList, some "Who".toList⟩ ∧
      Query.answer ⟨.hover, stub, "user".toList⟩ (.failing .exchange) =
        .entry (some ⟨"User".toList, some "Who".toList⟩) := by
  intro d stub before ls
  have hn : Text.isIdentifier "user".toList = true := by decide
  have ht : '#' ∉ "User".toList := by decide
  have hv : (TypesBlock.ofDocument d).annotations.get? "user".toList =
      some "User  # Who".toList := by
    decide +kernel
  have hr : TypesBlock.ReadsAs d ls := by
    rw [TypesBlock.readsAs_iff]
    exact ⟨"\nimport : x\n\"\"\" Who \"\"\"\nuser: User\n".toList, by decide +kernel,
      by decide +kernel⟩
  have hl : LastDeclares ls before "user".toList "User".toList := ⟨[], rfl, by simp⟩
  have ha : Attached before "Who".toList :=
    ⟨by decide, [.importing "import : x".toList], [], rfl, by simp⟩
  refine ⟨hn, ht, hv, hr, hl, ?_, ?_⟩
  · rw [(lookup_ofBlock_ofDocument d).1 _ _ hn hv]
    decide +kernel
  · obtain ⟨doc?, hdoc, hq⟩ :=
      (lookup_ofBlock_ofDocument d).2.1 ls before _ _ (.failing .exchange) hr hl hn ht
    rw [hq, (hdoc _).2 ha]

end Stub

end TemplateTypes
