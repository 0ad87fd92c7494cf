import Mathlib.Data.List.Basic
import TemplateTypes.FileTree.Basic
import TemplateTypes.Proofs.Cutting
import TemplateTypes.Proofs.Pieces

/-!
# Path parts — a directory, a name, and the path they join to

A path that ends in a name is taken apart by `parent?` and `stem` and put together by `join`.  The
lemmas say what the parts have to do with the components of a path, by which paths are compared,
and with the steps of a walk along it: joining adds one component and one step, and the parent has
all the others, less the dots in front of the name.
-/

namespace TemplateTypes

open FileTree (steps endsInSlash)

/-! ## 1. The last piece -/

/-- A name that a directory can hold: one piece, and no dots that lead elsewhere. -/
structure IsPlain (name : Text) : Prop where
  ne_nil : name ≠ []
  slash_notMem : '/' ∉ name
  ne_dot : name ≠ ['.']
  ne_dots : name ≠ ['.', '.']

namespace Path

theorem component?_eq_none_iff {piece : Text} :
    component? piece = none ↔ piece = [] ∨ piece = ['.'] := by
  unfold component?
  split
  · simp_all
  · split <;> simp_all

theorem component?_of_isPlain {name : Text} (h : IsPlain name) :
    component? name = some (.name name) := by
  rw [component?, if_neg (not_or.2 ⟨h.ne_nil, h.ne_dot⟩), if_neg h.ne_dots]

theorem firstComponent?_of_isPlain {name : Text} (h : IsPlain name) (absolute : Bool) :
    firstComponent? name absolute = some (.name name) := by
  rw [firstComponent?, if_neg h.ne_nil, if_neg h.ne_dot, component?_of_isPlain h]

theorem isAbsolute_iff {p : Path} :
    isAbsolute p = true ↔ ∃ q qs, Text.pieces '/' p = [] :: q :: qs := by
  rw [isAbsolute, decide_eq_true_eq]
  cases p with
  | nil => simp [Text.pieces]
  | cons c p =>
    obtain ⟨q, qs, hq⟩ := Text.exists_pieces_eq_cons '/' p
    by_cases hc : c = '/'
    · subst hc
      simp [Text.pieces_cons_self, hq]
    · simp [Text.pieces_cons_of_ne hc hq, hc]

theorem isAbsolute_of_pieces_singleton {p : Path} {piece : Text}
    (h : Text.pieces '/' p = [piece]) : isAbsolute p = false := by
  rw [Bool.eq_false_iff, ne_eq, isAbsolute_iff]
  rintro ⟨q, qs, hq⟩
  simp [h] at hq

theorem isAbsolute_of_pieces {p : Path} {first name : Text} {rest : List Text}
    (h : Text.pieces '/' p = first :: (rest ++ [name])) :
    isAbsolute p = decide (first = []) := by
  obtain ⟨q, qs, hq⟩ : ∃ q qs, rest ++ [name] = q :: qs := List.exists_cons_of_ne_nil (by simp)
  rw [Bool.eq_iff_iff, isAbsolute_iff, decide_eq_true_eq, h, hq]
  simp

theorem isAbsolute_of_isPlain {name : Text} (h : IsPlain name) : isAbsolute name = false :=
  isAbsolute_of_pieces_singleton (Text.pieces_of_notMem h.slash_notMem)

/-- The components of a path one piece at a time. -/
theorem components_of_pieces {p : Path} {first : Text} {rest : List Text}
    (h : Text.pieces '/' p = first :: rest) :
    components p = (firstComponent? first (isAbsolute p)).toList ++ rest.filterMap component? := by
  rw [components, h]

theorem components_of_pieces_append {p d : Path} {before : List Text} {name : Text}
    (hp : Text.pieces '/' p = before ++ [name]) (hd : Text.pieces '/' d = before)
    (ha : isAbsolute p = isAbsolute d) (h : IsPlain name) :
    components p = components d ++ [.name name] := by
  obtain ⟨first, rest, hr⟩ := Text.exists_pieces_eq_cons '/' d
  rw [hr] at hd
  rw [← hd, List.cons_append] at hp
  rw [components_of_pieces hp, components_of_pieces hr, ha, List.filterMap_append,
    List.filterMap_cons_some (component?_of_isPlain h), List.filterMap_nil, List.append_assoc]

/-- The last piece of a path stands alone or behind the last slash. -/
theorem exists_last_piece (p : Path) :
    ∃ before last, Text.pieces '/' p = before ++ [last] ∧ '/' ∉ last ∧
      (p = last ∨ ∃ a, p = a ++ '/' :: last) := by
  by_cases h : '/' ∈ p
  · obtain ⟨b, a, hb, hn⟩ := List.eq_append_cons_of_mem (List.mem_reverse.2 h)
    have hp : p = a.reverse ++ '/' :: b.reverse := by
      rw [← List.reverse_reverse p, hb]
      simp
    rw [← List.mem_reverse] at hn
    refine ⟨Text.pieces '/' a.reverse, b.reverse, ?_, hn, .inr ⟨_, hp⟩⟩
    rw [hp, Text.pieces_append_cons, Text.pieces_of_notMem hn]
  · exact ⟨[], p, Text.pieces_of_notMem h, h, .inl rfl⟩

/-- A path that does not end in a slash ends in a piece. -/
theorem exists_last_piece_of_not_endsInSlash {p : Path} (hp : p ≠ []) (he : endsInSlash p = false) :
    ∃ before last, Text.pieces '/' p = before ++ [last] ∧ '/' ∉ last ∧ last ≠ [] := by
  obtain ⟨before, last, hpieces, hn, hl⟩ := exists_last_piece p
  refine ⟨before, last, hpieces, hn, ?_⟩
  rintro rfl
  rcases hl with rfl | ⟨a, rfl⟩
  · exact hp rfl
  · simp [endsInSlash] at he

/-! ## 2. Joining -/

theorem join_nil (name : Text) : join [] name = name := by
  rw [join, if_pos (.inl rfl), List.nil_append]

/-- The directory has the pieces in front of the name, and an empty one where it ends in a slash. -/
theorem exists_pieces_join {d : Path} {name : Text} (hd : d ≠ []) (h : IsPlain name) :
    ∃ before, before ≠ [] ∧ Text.pieces '/' (join d name) = before ++ [name] ∧
      (Text.pieces '/' d = before ∨ Text.pieces '/' d = before ++ [[]]) := by
  have hname : Text.pieces '/' name = [name] := Text.pieces_of_notMem h.slash_notMem
  have hne : ∀ t, Text.pieces '/' t ≠ [] := by
    intro t
    obtain ⟨p, ps, hp⟩ := Text.exists_pieces_eq_cons '/' t
    simp [hp]
  by_cases hs : d.getLast? = some '/'
  · obtain ⟨d', rfl⟩ := List.getLast?_eq_some_iff.1 hs
    refine ⟨Text.pieces '/' d', hne d', ?_, .inr ?_⟩
    · rw [join, if_pos (.inr hs), List.append_assoc, List.singleton_append,
        Text.pieces_append_cons, hname]
    · rw [Text.pieces_append_cons]
      rfl
  · refine ⟨Text.pieces '/' d, hne d, ?_, .inl rfl⟩
    rw [join, if_neg (not_or.2 ⟨hd, hs⟩), Text.pieces_append_cons, hname]

theorem isAbsolute_join (d : Path) {name : Text} (h : IsPlain name) :
    isAbsolute (join d name) = isAbsolute d := by
  cases d with
  | nil =>
    rw [join_nil, isAbsolute_of_isPlain h]
    rfl
  | cons c d =>
    unfold join
    split <;> rfl

theorem components_join (d : Path) {name : Text} (h : IsPlain name) :
    components (join d name) = components d ++ [.name name] := by
  by_cases hd : d = []
  · subst hd
    rw [join_nil, components_of_pieces (Text.pieces_of_notMem h.slash_notMem),
      firstComponent?_of_isPlain h]
    rfl
  · obtain ⟨before, hne, hj, hb⟩ := exists_pieces_join hd h
    rcases hb with hb | hb
    · exact components_of_pieces_append hj hb (isAbsolute_join d h) h
    · obtain ⟨first, rest, rfl⟩ := List.exists_cons_of_ne_nil hne
      rw [List.cons_append] at hj hb
      rw [components_of_pieces hj, components_of_pieces hb, isAbsolute_join d h,
        List.filterMap_append, List.filterMap_append,
        List.filterMap_cons_some (component?_of_isPlain h),
        List.filterMap_cons_none (component?_eq_none_iff.2 (.inl rfl)), List.filterMap_nil,
        List.append_nil, List.append_assoc]

theorem steps_join (d : Path) {name : Text} (h : IsPlain name) :
    steps (join d name) = steps d ++ [name] := by
  have hname : [name].filter (· ≠ []) = [name] := by simp [h.ne_nil]
  by_cases hd : d = []
  · subst hd
    rw [join_nil, steps, Text.pieces_of_notMem h.slash_notMem, hname]
    rfl
  · obtain ⟨before, -, hj, hb⟩ := exists_pieces_join hd h
    unfold steps
    rw [hj, List.filter_append, hname]
    rcases hb with hb | hb
    · rw [hb]
    · rw [hb, List.filter_append]
      simp

theorem join_ne_nil (d : Path) {name : Text} (h : IsPlain name) : join d name ≠ [] := by
  unfold join
  split <;> simp [h.ne_nil]

theorem endsInSlash_join (d : Path) {name : Text} (h : IsPlain name) :
    endsInSlash (join d name) = false := by
  rw [endsInSlash, decide_eq_false_iff_not]
  intro hs
  have hl : name.getLast? = some '/' := by
    obtain ⟨n, c, rfl⟩ := (List.eq_nil_or_concat' name).resolve_left h.ne_nil
    unfold join at hs
    split at hs <;> simpa [List.getLast?_append, List.getLast?_cons] using hs
  exact h.slash_notMem (List.mem_of_getLast? hl)

theorem exists_dropVoid_append (ps : List Text) :
    ∃ void, ps = dropVoid ps ++ void ∧ ∀ p ∈ void, component? p = none := by
  refine ⟨(ps.reverse.takeWhile fun p => (component? p).isNone).reverse, ?_, ?_⟩
  · rw [dropVoid, ← List.reverse_append, List.takeWhile_append_dropWhile, List.reverse_reverse]
  · intro p hp
    have := List.mem_takeWhile_imp (List.mem_reverse.1 hp)
    simpa using this

theorem dropVoid_append_singleton {ps : List Text} {name : Text} (h : IsPlain name) :
    dropVoid (ps ++ [name]) = ps ++ [name] := by
  rw [dropVoid, List.reverse_append, List.reverse_singleton, List.singleton_append,
    List.dropWhile_cons_of_neg (by simp [component?_of_isPlain h])]
  simp

/-- What a path in a directory has to do with that directory. -/
structure IsInside (p d : Path) (name : Text) : Prop where
  isAbsolute : isAbsolute p = isAbsolute d
  components : components p = components d ++ [.name name]
  steps : ∃ dots, (∀ piece ∈ dots, piece = ['.']) ∧ steps p = steps d ++ dots ++ [name]

theorem filterMap_dropVoid (ps : List Text) :
    (dropVoid ps).filterMap component? = ps.filterMap component? := by
  obtain ⟨void, hps, hv⟩ := exists_dropVoid_append ps
  conv_rhs => rw [hps, List.filterMap_append, List.filterMap_eq_nil_iff.2 hv, List.append_nil]

theorem exists_filter_dropVoid_append (ps : List Text) :
    ∃ dots, (∀ piece ∈ dots, piece = ['.']) ∧
      ps.filter (· ≠ []) = (dropVoid ps).filter (· ≠ []) ++ dots := by
  obtain ⟨void, hps, hv⟩ := exists_dropVoid_append ps
  refine ⟨void.filter (· ≠ []), ?_, ?_⟩
  · intro piece hp
    rw [List.mem_filter, decide_eq_true_eq] at hp
    exact (component?_eq_none_iff.1 (hv piece hp.1)).resolve_left hp.2
  · conv_lhs => rw [hps, List.filter_append]

/-- A path is inside the directory that has its pieces but the name, and maybe not the void ones
before the name. -/
theorem isInside_of_pieces {p d : Path} {first : Text} {rest rest' : List Text} {name : Text}
    (h : IsPlain name) (hp : Text.pieces '/' p = first :: (rest ++ [name]))
    (hd : Text.pieces '/' d = first :: rest') (ha : isAbsolute p = isAbsolute d)
    (hc : rest'.filterMap component? = rest.filterMap component?)
    (hs : ∃ dots, (∀ piece ∈ dots, piece = ['.']) ∧
      rest.filter (· ≠ []) = rest'.filter (· ≠ []) ++ dots) : IsInside p d name where
  isAbsolute := ha
  components := by
    rw [components_of_pieces hp, components_of_pieces hd, ha, List.filterMap_append,
      List.filterMap_cons_some (component?_of_isPlain h), List.filterMap_nil, hc,
      List.append_assoc]
  steps := by
    obtain ⟨dots, hdots, hs⟩ := hs
    have hname : [name].filter (· ≠ []) = [name] := by simp [h.ne_nil]
    refine ⟨dots, hdots, ?_⟩
    unfold FileTree.steps
    rw [hp, hd, ← List.singleton_append, ← List.singleton_append (l := rest'), List.filter_append,
      List.filter_append, List.filter_append, hname, hs]
    simp only [List.append_assoc]

/-- The path of kept pieces; where only the root is kept, its pieces are two empty ones. -/
def ofKept (kept : List Text) : Path :=
  if kept = [[]] then ['/'] else Text.join ['/'] kept

theorem pieces_ofKept {first : Text} {rest : List Text}
    (h : ∀ piece ∈ first :: rest, '/' ∉ piece) :
    ∃ rest', Text.pieces '/' (ofKept (first :: rest)) = first :: rest' ∧
      isAbsolute (ofKept (first :: rest)) = decide (first = []) ∧
      rest'.filterMap component? = rest.filterMap component? ∧
      rest'.filter (· ≠ []) = rest.filter (· ≠ []) := by
  unfold ofKept
  split
  · rename_i hroot
    rw [List.cons.injEq] at hroot
    obtain ⟨rfl, rfl⟩ := hroot
    exact ⟨[[]], rfl, rfl, rfl, rfl⟩
  · rename_i hroot
    have hd := Text.pieces_join (List.cons_ne_nil first rest) h
    refine ⟨rest, hd, ?_, rfl, rfl⟩
    rcases List.eq_nil_or_concat' rest with rfl | ⟨qs, q, rfl⟩
    · rw [isAbsolute_of_pieces_singleton hd, eq_comm, decide_eq_false_iff_not]
      rintro rfl
      exact hroot rfl
    · exact isAbsolute_of_pieces hd

theorem parent?_of_pieces {p : Path} {first : Text} {rest : List Text} {name : Text}
    (h : IsPlain name) (hp : Text.pieces '/' p = first :: (rest ++ [name])) :
    parent? p = some (ofKept (first :: dropVoid rest)) := by
  rw [parent?, hp]
  simp only [dropVoid_append_singleton h, ofKept]
  simp

theorem exists_parent? {p : Path} {before : List Text} {name : Text}
    (hp : Text.pieces '/' p = before ++ [name]) (h : IsPlain name) :
    ∃ d, parent? p = some d ∧ IsInside p d name := by
  cases before with
  | nil =>
    refine ⟨[], ?_, isAbsolute_of_pieces_singleton hp, ?_, [], by simp, ?_⟩
    · simp [parent?, hp, dropVoid, h.ne_nil]
    · rw [components_of_pieces hp, firstComponent?_of_isPlain h]
      rfl
    · simp [FileTree.steps, hp, Text.pieces, h.ne_nil]
  | cons first rest =>
    rw [List.cons_append] at hp
    obtain ⟨void, hrest, -⟩ := exists_dropVoid_append rest
    have hslash : ∀ piece ∈ first :: dropVoid rest, '/' ∉ piece := by
      intro piece hm
      apply Text.notMem_of_mem_pieces (t := p)
      rw [hp, hrest]
      rcases List.mem_cons.1 hm with rfl | hm
      · exact List.mem_cons_self
      · simp [hm]
    obtain ⟨rest', hd, ha, hc, hs⟩ := pieces_ofKept hslash
    have hvoid := exists_filter_dropVoid_append rest
    rw [← hs] at hvoid
    refine ⟨_, parent?_of_pieces h hp, isInside_of_pieces h hp hd ?_ ?_ hvoid⟩
    · rw [isAbsolute_of_pieces hp, ha]
    · rw [hc, filterMap_dropVoid]

/-! ## 4. Stems -/

theorem splitName_append {s e : Text} (hs : s ≠ []) (he : '.' ∉ e) :
    splitName (s ++ '.' :: e) = (s, some e) := by
  simp [splitName, Text.cutLast?_append he, hs]

/-- A name has no extension, or comes apart at a dot that is not its first character. -/
theorem splitName_cases (name : Text) :
    splitName name = (name, none) ∨
      ∃ s e, name = s ++ '.' :: e ∧ s ≠ [] ∧ splitName name = (s, some e) := by
  unfold splitName
  split
  · rename_i s e hcut
    obtain ⟨hname, -⟩ := Text.cutLast?_eq_some_iff.1 hcut
    split
    · exact .inl rfl
    · rename_i hs
      exact .inr ⟨s, e, hname, hs, rfl⟩
  · exact .inl rfl

theorem exists_append_of_splitName (name : Text) : ∃ r, name = (splitName name).1 ++ r := by
  rcases splitName_cases name with h | ⟨s, e, hname, -, h⟩
  · exact ⟨[], by rw [h, List.append_nil]⟩
  · exact ⟨'.' :: e, by rw [h, ← hname]⟩

theorem splitName_ne_nil {name : Text} (h : name ≠ []) : (splitName name).1 ≠ [] := by
  rcases splitName_cases name with hn | ⟨s, e, -, hs, hn⟩
  · rwa [hn]
  · rwa [hn]

/-- Another extension is no change exactly for a name that has it. -/
theorem splitName_append_eq_iff {name e : Text} (h : name ≠ []) (he : '.' ∉ e) :
    (splitName name).1 ++ '.' :: e = name ↔ (splitName name).2 = some e := by
  constructor
  · intro heq
    have hsplit := splitName_append (splitName_ne_nil h) he
    rw [heq] at hsplit
    rw [hsplit]
  · intro hsome
    rcases splitName_cases name with hn | ⟨s, e', hname, -, hn⟩
    · rw [hn] at hsome
      cases hsome
    · rw [hn, Option.some.injEq] at hsome
      rw [hn, ← hsome, ← hname]

/-- A stem with an extension behind it is a name again. -/
theorem isPlain_splitName_append {name e : Text} (h : IsPlain name) (hne : e ≠ []) (he : '/' ∉ e) :
    IsPlain ((splitName name).1 ++ '.' :: e) := by
  have hs := splitName_ne_nil h.ne_nil
  obtain ⟨r, hr⟩ := exists_append_of_splitName name
  have hslash : '/' ∉ (splitName name).1 := by
    intro hm
    apply h.slash_notMem
    rw [hr]
    exact List.mem_append_left r hm
  obtain ⟨a, s, hs⟩ := List.exists_cons_of_ne_nil hs
  obtain ⟨b, e', rfl⟩ := List.exists_cons_of_ne_nil hne
  rw [hs] at hslash ⊢
  exact {
    ne_nil := by simp
    slash_notMem := by
      rw [List.mem_append, not_or]
      refine ⟨hslash, ?_⟩
      rw [List.mem_cons, not_or]
      exact ⟨by decide, he⟩
    ne_dot := by simp
    ne_dots := by cases s <;> simp }

theorem fileName?_of_isInside {p d : Path} {name : Text} (h : IsInside p d name) :
    fileName? p = some name := by
  simp [fileName?, h.components]

theorem stem_of_isInside {p d : Path} {name : Text} (h : IsInside p d name) :
    stem p = (splitName name).1 := by
  rw [stem, fileName?_of_isInside h]

theorem extension?_of_isInside {p d : Path} {name : Text} (h : IsInside p d name) :
    extension? p = (splitName name).2 := by
  rw [extension?, fileName?_of_isInside h, Option.bind_some]

end Path

end TemplateTypes
