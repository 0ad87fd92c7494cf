import TemplateTypes.Proofs.StubLookup

/-!
# Canonical stubs — reading a stub, writing what was read, reading it again

Any text can be read as a stub; what is read is a table of identifiers, each with a trimmed type
without a hash and perhaps a trimmed comment.  Such a table can be written as a stub without
imports, one line for each name.  Main statement: reading the written stub gives the same table, so
writing stubs in this form changes no answer about any name.
-/

namespace TemplateTypes.Stub

/-! ## 1. What a line is read as -/

/-- What reading a line can give. -/
structure IsRead (name : Text) (e : Entry) : Prop where
  isIdentifier : Text.isIdentifier name = true
  nameOneLine : Text.OneLine name
  hash_notMem : '#' ∉ e.type
  typeTrimmed : Text.IsTrimmed e.type
  typeOneLine : Text.OneLine e.type
  docTrimmed : ∀ doc ∈ e.doc, Text.IsTrimmed doc
  docOneLine : ∀ doc ∈ e.doc, Text.OneLine doc
  doc_ne_nil : ∀ doc ∈ e.doc, doc ≠ []

/-- The type of an entry is what is left of its value before the hash, and the comment what is left
behind it. -/
theorem entryOf_cases (value : Text) :
    ('#' ∉ value ∧ entryOf value = ⟨Text.trim value, none⟩) ∨
      ∃ type comment, value = type ++ '#' :: comment ∧ '#' ∉ type ∧
        entryOf value =
          ⟨Text.trim type, if Text.trim comment = [] then none else some (Text.trim comment)⟩ := by
  rw [entryOf]
  cases hc : Text.cut? '#' value with
  | none => exact .inl ⟨Text.cut?_eq_none_iff.1 hc, rfl⟩
  | some s =>
    obtain ⟨hs, hn⟩ := Text.cut?_eq_some_iff.1 hc
    exact .inr ⟨s.1, s.2, hs, hn, rfl⟩

theorem isRead_entryOf {name value : Text} (hn : Text.isIdentifier name = true)
    (hname : Text.OneLine name) (hvalue : Text.OneLine value) : IsRead name (entryOf value) := by
  rcases entryOf_cases value with ⟨hhash, he⟩ | ⟨type, comment, rfl, hhash, he⟩
  · rw [he]
    exact {
      isIdentifier := hn
      nameOneLine := hname
      hash_notMem := fun h => hhash (Text.mem_of_mem_trim h)
      typeTrimmed := Text.isTrimmed_trim value
      typeOneLine := hvalue.mono (Text.isInfix_trim value)
      docTrimmed := fun _ h => by cases h
      docOneLine := fun _ h => by cases h
      doc_ne_nil := fun _ h => by cases h }
  · have htype : Text.OneLine type := hvalue.mono (List.prefix_append _ _).isInfix
    have hcomment : Text.OneLine comment :=
      hvalue.mono ((List.suffix_cons _ _).trans (List.suffix_append _ _)).isInfix
    have hdoc : ∀ doc ∈ (entryOf (type ++ '#' :: comment)).doc,
        doc = Text.trim comment ∧ doc ≠ [] := by
      intro doc h
      rw [he, Option.mem_def, Option.ite_none_left_eq_some, Option.some.injEq] at h
      obtain ⟨hne, rfl⟩ := h
      exact ⟨rfl, hne⟩
    have ht : (entryOf (type ++ '#' :: comment)).type = Text.trim type := by rw [he]
    exact {
      isIdentifier := hn
      nameOneLine := hname
      hash_notMem := fun h => hhash (Text.mem_of_mem_trim (ht ▸ h))
      typeTrimmed := ht ▸ Text.isTrimmed_trim type
      typeOneLine := ht ▸ htype.mono (Text.isInfix_trim type)
      docTrimmed := fun doc h => (hdoc doc h).1 ▸ Text.isTrimmed_trim comment
      docOneLine := fun doc h => (hdoc doc h).1 ▸ hcomment.mono (Text.isInfix_trim comment)
      doc_ne_nil := fun doc h => (hdoc doc h).2 }

theorem isRead_of_readLine {line name : Text} {e : Entry} (hl : Text.OneLine line)
    (h : readLine line = some (name, e)) : IsRead name e := by
  obtain ⟨w, body, hn, -, rfl, hbody⟩ := readLine_eq_some h
  rw [readBody_eq, Option.ite_none_left_eq_some, Option.some.injEq] at hbody
  obtain ⟨-, rfl⟩ := hbody
  have hname : Text.OneLine name := hl.mono (List.prefix_append _ _).isInfix
  have hsuffix : body <:+ name ++ (w ++ ':' :: body) :=
    (List.suffix_cons _ _).trans ((List.suffix_append _ _).trans (List.suffix_append _ _))
  exact isRead_entryOf hn hname (hl.mono hsuffix.isInfix)

theorem isRead_of_mem_entries {stub : Text} {e : Text × Entry} (h : e ∈ (entries stub).entries) :
    IsRead e.1 e.2 := by
  obtain ⟨line, hline, hr⟩ := List.mem_filterMap.1 (Dictionary.mem_of_mem_entries_ofList h)
  exact isRead_of_readLine (Text.oneLine_of_mem_lines hline) hr

/-! ## 2. Writing an entry -/

/-- An entry as it stands behind the colon of a stub line. -/
def Entry.value (e : Entry) : Text :=
  withDoc e.type e.doc

namespace IsRead

variable {name : Text} {e : Entry}

theorem entryOf_value (h : IsRead name e) : entryOf e.value = e := by
  obtain ⟨type, doc?⟩ := e
  cases doc? with
  | none =>
    rw [Entry.value, withDoc, entryOf, Text.cut?_eq_none_iff.2 h.hash_notMem]
    simp only [h.typeTrimmed.trim_eq]
  | some doc =>
    -- The blanks of the separator fall to both sides of the hash, where trimming takes them away.
    have hspaces : Text.AllBlank [' ', ' '] := Text.allBlank_spaces 2
    have hhash : '#' ∉ type ++ [' ', ' '] := by
      rw [List.mem_append, not_or]
      exact ⟨h.hash_notMem, by decide⟩
    have hvalue : Entry.value ⟨type, some doc⟩ = (type ++ [' ', ' ']) ++ '#' :: (' ' :: doc) := by
      rw [Entry.value, withDoc_some, List.append_assoc]
      rfl
    have htype : Text.trim (type ++ [' ', ' ']) = type := by
      rw [Text.trim_append_blanks hspaces, h.typeTrimmed.trim_eq]
    have hdoc : Text.trim (' ' :: doc) = doc :=
      (Text.trim_blanks_append (Text.allBlank_spaces 1) doc).trans (h.docTrimmed doc rfl).trim_eq
    rw [hvalue, entryOf_append hhash, htype, hdoc, if_neg (h.doc_ne_nil doc rfl)]

theorem readLine_declarationLine (h : IsRead name e) :
    readLine (declarationLine (name, e.value)) = some (name, e) := by
  rw [readLine_declarationLine_of_isIdentifier h.isIdentifier, h.entryOf_value]

theorem oneLine_value (h : IsRead name e) : Text.OneLine e.value := by
  obtain ⟨type, doc?⟩ := e
  cases doc? with
  | none => exact h.typeOneLine
  | some doc =>
    have hseparator : Text.OneLine docSeparator := by decide
    exact (h.typeOneLine.append hseparator).append (h.docOneLine doc rfl)

theorem oneLine_declarationLine (h : IsRead name e) :
    Text.OneLine (declarationLine (name, e.value)) := by
  have hcolon : Text.OneLine [':', ' '] := by decide
  exact (h.nameOneLine.append hcolon).append h.oneLine_value

end IsRead

/-! ## 3. The whole stub -/

/-- The names of a stub, each with its entry written out. -/
def annotationsOf (stub : Text) : Annotations :=
  .ofList ((entries stub).entries.map fun e => (e.1, e.2.value))

/-- A stub with nothing but what is read from the given one. -/
def canonical (stub : Text) : Text :=
  render [] (annotationsOf stub)

/-- No two names become one, so the entries stay as many and in their order. -/
theorem entries_annotationsOf (stub : Text) :
    (annotationsOf stub).entries = (entries stub).entries.map fun e => (e.1, e.2.value) := by
  rw [annotationsOf, Dictionary.entries_ofList_map fun e : Text × Entry => e.2.value,
    Dictionary.ofList_entries]

theorem filterMap_readLine_annotationsOf (stub : Text) :
    (annotationsOf stub).entries.filterMap (fun e => readLine (declarationLine e)) =
      (entries stub).entries := by
  rw [entries_annotationsOf, List.filterMap_map]
  refine filterMap_eq_self fun e he => ?_
  exact (isRead_of_mem_entries he).readLine_declarationLine

theorem oneLine_of_mem_annotationsOf {stub : Text} {e : Text × Text}
    (h : e ∈ (annotationsOf stub).entries) : Text.OneLine (declarationLine e) := by
  rw [entries_annotationsOf, List.mem_map] at h
  obtain ⟨e, he, rfl⟩ := h
  exact (isRead_of_mem_entries he).oneLine_declarationLine

theorem entries_render_annotationsOf (stub : Text) :
    entries (render [] (annotationsOf stub)) = entries stub := by
  have hlines := filterMap_lines_render readLine rfl (List.forall_mem_nil _)
    fun e (h : e ∈ (annotationsOf stub).entries) => oneLine_of_mem_annotationsOf h
  rw [entries, hlines, List.filterMap_nil, List.nil_append, filterMap_readLine_annotationsOf,
    Dictionary.ofList_entries]

theorem entries_canonical (stub : Text) :
    (annotationsOf stub).entries =
        (entries stub).entries.map (fun e => (e.1, withDoc e.2.type e.2.doc)) ∧
      entries (canonical stub) = entries stub ∧
      (∀ name, lookup (canonical stub) name = lookup stub name) ∧
      canonical (canonical stub) = canonical stub := by
  have hentries : entries (canonical stub) = entries stub := entries_render_annotationsOf stub
  refine ⟨entries_annotationsOf stub, hentries, ?_, ?_⟩
  · intro name
    rw [lookup, hentries, lookup]
  · rw [canonical, annotationsOf, hentries, canonical, annotationsOf]

/-- A later line for a name, a type of blanks alone, and a comment with a hash of its own. -/
example : canonical "a:b#c\nx \t:  \n import os\ny: int#  # z \na : d\r\n".toList =
    "a: d\nx: \ny: int  # # z\n".toList := by
  decide +kernel

end TemplateTypes.Stub
