import Mathlib.Data.List.Induction
import TemplateTypes.TypesBlock
import TemplateTypes.Proofs.InsertionOrder

/-!
# Attachment — which docstring belongs to which declaration

Reading a block carries a waiting docstring along.  Said by places instead: a docstring belongs to
a declaration when no other docstring and no other declaration stands between the two.  The
invariant is that what waits in front of a line is exactly the docstring attached there.
-/

namespace TemplateTypes

namespace BlockLine

/-- The line leaves a waiting docstring alone. -/
def IsPassedOver : BlockLine → Prop
  | .docstring _ => False
  | .declaring _ _ => False
  | _ => True

/-- What waits behind a line, if `pending` waits in front of it. -/
def passOn (pending : Option Text) : BlockLine → Option Text
  | .docstring content => if content = [] then none else some content
  | .declaring _ _ => none
  | _ => pending

def declaredName? : BlockLine → Option Text
  | .declaring name _ => some name
  | _ => none

end BlockLine

/-- The nearest docstring before this place says something, and no declaration has taken it yet. -/
def Attached (before : List BlockLine) (doc : Text) : Prop :=
  doc ≠ [] ∧ ∃ earlier between, before = earlier ++ .docstring doc :: between ∧
    ∀ l ∈ between, l.IsPassedOver

/-- The last of the lines that declare `name` stands behind `before` and gives it `type`. -/
def LastDeclares (ls before : List BlockLine) (name type : Text) : Prop :=
  ∃ after, ls = before ++ .declaring name type :: after ∧ ∀ t, .declaring name t ∉ after

/-- The text kept for a type whose declaration stands behind `before`. -/
def IsStored (before : List BlockLine) (type value : Text) : Prop :=
  (∃ doc, Attached before doc ∧ value = type ++ "  # ".toList ++ doc) ∨
    ((∀ doc, ¬ Attached before doc) ∧ value = type)

/-! ## 1. What waits is what is attached -/

theorem not_attached_nil (doc : Text) : ¬ Attached [] doc := by
  rintro ⟨-, earlier, between, h, -⟩
  simp at h

/-- The step: a line is the attached docstring itself, or it is passed over. -/
theorem attached_append_singleton {ls : List BlockLine} {l : BlockLine} {doc : Text} :
    Attached (ls ++ [l]) doc ↔
      (l = .docstring doc ∧ doc ≠ []) ∨ (l.IsPassedOver ∧ Attached ls doc) := by
  constructor
  · rintro ⟨hd, earlier, between, h, hb⟩
    -- Nothing between means that the docstring is `l`; otherwise `l` is the last one between.
    rcases List.eq_nil_or_concat between with rfl | ⟨between, k, rfl⟩
    · obtain ⟨-, hl⟩ := List.append_inj' h rfl
      exact .inl ⟨List.head_eq_of_cons_eq hl, hd⟩
    · rw [List.concat_eq_append, ← List.cons_append, ← List.append_assoc] at h
      obtain ⟨hls, hl⟩ := List.append_inj' h rfl
      cases hl
      rw [List.concat_eq_append] at hb
      refine .inr ⟨hb l (by simp), hd, earlier, between, hls, fun m hm => hb m ?_⟩
      exact List.mem_append_left [l] hm
  · rintro (⟨rfl, hd⟩ | ⟨hl, hd, earlier, between, rfl, hb⟩)
    · exact ⟨hd, ls, [], rfl, by simp⟩
    · refine ⟨hd, earlier, between ++ [l], by simp, ?_⟩
      intro m hm
      rcases List.mem_append.1 hm with hm | hm
      · exact hb m hm
      · rwa [List.mem_singleton.1 hm]

theorem foldl_passOn_eq_some_iff {before : List BlockLine} {doc : Text} :
    before.foldl BlockLine.passOn none = some doc ↔ Attached before doc := by
  induction before using List.reverseRecOn with
  | nil => simp [not_attached_nil]
  | append_singleton before l ih =>
    rw [List.foldl_append, attached_append_singleton, ← ih]
    cases l with
    | docstring content =>
      -- An empty docstring takes away what waited, and is not attached itself.
      by_cases hc : content = []
      · subst hc
        simp [BlockLine.passOn, BlockLine.IsPassedOver, eq_comm]
      · simp only [List.foldl_cons, List.foldl_nil, BlockLine.passOn, if_neg hc,
          BlockLine.IsPassedOver, Option.some.injEq, BlockLine.docstring.injEq, false_and, or_false]
        constructor
        · rintro rfl
          exact ⟨rfl, hc⟩
        · rintro ⟨rfl, -⟩
          rfl
    | _ => simp [BlockLine.passOn, BlockLine.IsPassedOver]

theorem isStored_iff {before : List BlockLine} {type value : Text} :
    IsStored before type value ↔ value = withDoc type (before.foldl BlockLine.passOn none) := by
  have key := @foldl_passOn_eq_some_iff before
  rw [IsStored]
  cases hp : before.foldl BlockLine.passOn none with
  | none =>
    have hn : ∀ doc, ¬ Attached before doc := by
      intro doc hd
      rw [key.2 hd] at hp
      cases hp
    simp [withDoc, hn]
  | some doc =>
    have hd : Attached before doc := key.1 hp
    have hu : ∀ d, Attached before d → d = doc := by
      intro d h
      rw [key.2 h] at hp
      exact Option.some.inj hp
    constructor
    · rintro (⟨d, h, rfl⟩ | ⟨h, -⟩)
      · rw [hu d h]
        rfl
      · exact absurd hd (h doc)
    · rintro rfl
      exact .inl ⟨doc, hd, rfl⟩

/-! ## 2. Declarations by place -/

/-- What one line declares, if `pending` waits in front of it. -/
def BlockLine.declares (pending : Option Text) : BlockLine → List (Text × Text)
  | .declaring name type => [(name, withDoc type pending)]
  | _ => []

/-- The step from which everything about declarations follows. -/
theorem declarations_cons (pending : Option Text) (l : BlockLine) (ls : List BlockLine) :
    declarations pending (l :: ls) = l.declares pending ++ declarations (l.passOn pending) ls := by
  cases l <;> rfl

theorem declarations_append (pending : Option Text) (ks ls : List BlockLine) :
    declarations pending (ks ++ ls) =
      declarations pending ks ++ declarations (ks.foldl BlockLine.passOn pending) ls := by
  induction ks generalizing pending with
  | nil => rfl
  | cons k ks ih =>
    rw [List.cons_append, declarations_cons, declarations_cons, ih, List.append_assoc,
      List.foldl_cons]

theorem map_fst_declarations (pending : Option Text) (ls : List BlockLine) :
    (declarations pending ls).map Prod.fst = ls.filterMap BlockLine.declaredName? := by
  induction ls generalizing pending with
  | nil => rfl
  | cons l ls ih =>
    rw [declarations_cons, List.map_append, ih]
    cases l <;> rfl

theorem mem_filterMap_declaredName?_iff {ls : List BlockLine} {name : Text} :
    name ∈ ls.filterMap BlockLine.declaredName? ↔ ∃ type, .declaring name type ∈ ls := by
  rw [List.mem_filterMap]
  constructor
  · rintro ⟨l, hl, hn⟩
    cases l with
    | declaring n type =>
      cases hn
      exact ⟨type, hl⟩
    | _ => cases hn
  · rintro ⟨type, hl⟩
    exact ⟨_, hl, rfl⟩

/-- A cut through the declarations is a cut through the lines at the line that declares. -/
theorem declarations_eq_append_cons {pending : Option Text} {ls : List BlockLine}
    {ps qs : List (Text × Text)} {name value : Text}
    (h : declarations pending ls = ps ++ (name, value) :: qs) :
    ∃ before type after, ls = before ++ .declaring name type :: after ∧
      value = withDoc type (before.foldl BlockLine.passOn pending) ∧
      qs = declarations none after := by
  induction ls generalizing pending ps with
  | nil => simp [declarations] at h
  | cons l ls ih =>
    rw [declarations_cons] at h
    -- Only a line that declares uses up a declaration; any other stands in front of the cut.
    cases l with
    | declaring n t =>
      cases ps with
      | nil =>
        cases h
        exact ⟨[], t, ls, rfl, rfl, rfl⟩
      | cons p ps =>
        obtain ⟨before, type, after, rfl, hv, hq⟩ := ih (List.cons.inj h).2
        exact ⟨.declaring n t :: before, type, after, rfl, hv, hq⟩
    | _ =>
      obtain ⟨before, type, after, rfl, hv, hq⟩ := ih h
      exact ⟨_ :: before, type, after, rfl, hv, hq⟩

/-- The value of a name is decided by the line that declares it last. -/
theorem get?_ofList_declarations_iff {ls : List BlockLine} {name value : Text} :
    (Dictionary.ofList (declarations none ls)).get? name = some value ↔
      ∃ before type, LastDeclares ls before name type ∧ IsStored before type value := by
  rw [Dictionary.get?_ofList_eq_some_iff]
  constructor
  · rintro ⟨ps, qs, h, hn⟩
    obtain ⟨before, type, after, rfl, hv, rfl⟩ := declarations_eq_append_cons h
    rw [map_fst_declarations, mem_filterMap_declaredName?_iff, not_exists] at hn
    exact ⟨before, type, ⟨after, rfl, hn⟩, isStored_iff.2 hv⟩
  · rintro ⟨before, type, ⟨after, rfl, hn⟩, hv⟩
    rw [isStored_iff] at hv
    refine ⟨declarations none before, declarations none after, ?_, ?_⟩
    · rw [declarations_append, declarations, hv]
    · rwa [map_fst_declarations, mem_filterMap_declaredName?_iff, not_exists]

end TemplateTypes
