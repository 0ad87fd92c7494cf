import Mathlib.Data.List.Forall2
import Mathlib.Data.List.Nodup
import TemplateTypes.Reply

/-!
# Replies — which JSON values tell a completion or a parameter

A record is told by an object, where each field stands under its name once or not at all, or by a
list, where the fields stand in their order and the last ones may be missing.  A field that may be
missing is then empty.  Main statements: the readers of completions and of parameters accept
exactly the values that tell one, and read it as what it tells.
-/

namespace TemplateTypes

/-- All items are read, each as the result in the same place. -/
theorem mapM_eq_some_iff_forall₂ {α β : Type} {f : α → Option β} {xs : List α} {ys : List β} :
    xs.mapM f = some ys ↔ List.Forall₂ (fun x y => f x = some y) xs ys := by
  induction xs generalizing ys with
  | nil => simp [eq_comm]
  | cons x xs ih =>
    rw [List.mapM_cons, List.forall₂_cons_left_iff]
    simp only [Option.bind_eq_bind, Option.bind_eq_some_iff, Option.pure_def, Option.some.injEq, ih]
    constructor
    · rintro ⟨y, hy, zs, hzs, rfl⟩
      exact ⟨y, zs, hy, hzs, rfl⟩
    · rintro ⟨y, zs, hy, hzs, rfl⟩
      exact ⟨y, hy, zs, hzs, rfl⟩

namespace Json

/-! ## 1. Fields -/

/-- What an object holds under a name: the value of the only member of that name, or nothing where
there is no such member. -/
def HasMember (members : List (Option Text × Json)) (name : Text) : Option Json → Prop
  | none => ∀ m ∈ members, m.1 ≠ some name
  | some v => ∃ before after, members = before ++ (some name, v) :: after ∧
      (∀ m ∈ before, m.1 ≠ some name) ∧ ∀ m ∈ after, m.1 ≠ some name

theorem filter_name_eq_nil_iff {members : List (Option Text × Json)} {name : Text} :
    members.filter (fun m => decide (m.1 = some name)) = [] ↔ HasMember members name none := by
  simp [List.filter_eq_nil_iff, HasMember]

theorem filter_name_eq_singleton_iff {members : List (Option Text × Json)} {name : Text}
    {m : Option Text × Json} :
    members.filter (fun m => decide (m.1 = some name)) = [m] ↔
      m.1 = some name ∧ HasMember members name (some m.2) := by
  rw [List.filter_eq_cons_iff]
  simp only [filter_name_eq_nil_iff, decide_eq_true_eq]
  constructor
  · rintro ⟨before, after, rfl, hb, hm, ha⟩
    exact ⟨hm, before, after, by rw [← hm], by simpa using hb, ha⟩
  · rintro ⟨hm, before, after, rfl, hb, ha⟩
    exact ⟨before, after, by rw [← hm], by simpa using hb, hm, ha⟩

theorem member?_eq_some_iff {members : List (Option Text × Json)} {name : Text}
    {value : Option Json} : member? members name = some value ↔ HasMember members name value := by
  constructor
  · intro h
    unfold member? at h
    split at h
    · rename_i hnone
      cases h
      exact filter_name_eq_nil_iff.1 hnone
    · rename_i m hone
      cases h
      exact (filter_name_eq_singleton_iff.1 hone).2
    · cases h
  · intro h
    cases value with
    | none => rw [member?, filter_name_eq_nil_iff.2 h]
    | some v => rw [member?, (filter_name_eq_singleton_iff (m := (some name, v))).2 ⟨rfl, h⟩]

/-- The values that a JSON value has for the fields of a record. -/
inductive TellsFields (names : List Text) : Json → List (Option Json) → Prop
  | byName {members : List (Option Text × Json)} {values : List (Option Json)} :
      (∀ m ∈ members, m.1 ≠ none) → List.Forall₂ (HasMember members) names values →
        TellsFields names (.object members) values
  | byPlace {items : List Json} {missing : Nat} : items.length + missing = names.length →
      TellsFields names (.list items) (items.map some ++ List.replicate missing none)

theorem fields?_eq_some_iff {names : List Text} {j : Json} {values : List (Option Json)} :
    fields? names j = some values ↔ TellsFields names j values := by
  constructor
  · intro h
    cases j with
    | object members =>
      rw [fields?] at h
      split at h
      · rename_i hk
        rw [mapM_eq_some_iff_forall₂] at h
        simp only [member?_eq_some_iff] at h
        refine .byName (fun m hm hn => ?_) h
        have hs := List.all_eq_true.1 hk m hm
        rw [hn] at hs
        cases hs
      · cases h
    | list items =>
      rw [fields?] at h
      split at h
      · cases h
        exact .byPlace (by omega)
      · cases h
    | _ => cases h
  · rintro (⟨hk, hf⟩ | hl)
    · have hall : ∀ m ∈ _, Option.isSome (Prod.fst m) = true :=
        fun m hm => Option.isSome_iff_ne_none.2 (hk m hm)
      rw [fields?, if_pos (List.all_eq_true.2 hall), mapM_eq_some_iff_forall₂]
      simpa only [member?_eq_some_iff] using hf
    · rename_i items missing
      rw [fields?, if_pos (by omega), ← hl, Nat.add_sub_cancel_left]

/-! ## 2. Texts in fields -/

/-- A field that may be missing and is then empty. -/
def TellsText (value : Option Json) (t : Text) : Prop :=
  value = some (.text t) ∨ value = none ∧ t = []

/-- A field that may be missing or null and is then absent. -/
def TellsOptional (value : Option Json) (t : Option Text) : Prop :=
  value = some (.textOrNull t) ∨ value = none ∧ t = none

theorem required?_eq_some_iff {value : Option Json} {t : Text} :
    required? value = some t ↔ value = some (.text t) := by
  unfold required? text
  split <;> simp_all

theorem textOrEmpty?_eq_some_iff {value : Option Json} {t : Text} :
    textOrEmpty? value = some t ↔ TellsText value t := by
  unfold textOrEmpty? TellsText text
  split <;> simp_all [eq_comm]

theorem optional?_eq_some_iff {value : Option Json} {t : Option Text} :
    optional? value = some t ↔ TellsOptional value t := by
  unfold optional? TellsOptional
  cases t <;> split <;> simp_all [textOrNull, text]

/-- A list that tells the records one after the other. -/
def Lists {α : Type} (tells : Json → α → Prop) (j : Json) (rs : List α) : Prop :=
  ∃ items, j = .list items ∧ List.Forall₂ tells items rs

theorem listOf?_eq_some_iff {α : Type} {read : Json → Option α} {tells : Json → α → Prop}
    (h : ∀ j r, read j = some r ↔ tells j r) {j : Json} {rs : List α} :
    listOf? read j = some rs ↔ Lists tells j rs := by
  unfold listOf? Lists
  split
  · simp only [mapM_eq_some_iff_forall₂, h, Json.list.injEq, exists_eq_left']
  · rename_i hj
    constructor
    · intro hn
      cases hn
    · rintro ⟨items, rfl, -⟩
      exact absurd rfl (hj items)

end Json

/-! ## 3. Records -/

/-- The value tells the completion: name and kind are there, the docstring may be missing. -/
def Completion.IsToldBy (j : Json) (c : Completion) : Prop :=
  ∃ docstring, Json.TellsFields ["name".toList, "type".toList, "docstring".toList] j
      [some (.text c.name), some (.text c.kind), docstring] ∧
    Json.TellsText docstring c.docstring

/-- The value tells the parameter: the name is there, everything else may be missing, and the
default may be null. -/
def Parameter.IsToldBy (j : Json) (p : Parameter) : Prop :=
  ∃ kind default type docstring,
    Json.TellsFields
        ["name".toList, "kind".toList, "default".toList, "annotation".toList, "docstring".toList] j
        [some (.text p.name), kind, default, type, docstring] ∧
      Json.TellsText kind p.kind ∧ Json.TellsOptional default p.default ∧
        Json.TellsText type p.type ∧ Json.TellsText docstring p.docstring

theorem Completion.ofJson?_eq_some_iff (j : Json) (c : Completion) :
    ofJson? j = some c ↔ IsToldBy j c := by
  unfold ofJson? IsToldBy
  simp only [Option.bind_eq_some_iff, Json.fields?_eq_some_iff]
  constructor
  · rintro ⟨values, hf, hv⟩
    unfold ofFields? at hv
    split at hv
    · simp only [Option.bind_eq_some_iff, Option.map_eq_some_iff, Json.required?_eq_some_iff,
        Json.textOrEmpty?_eq_some_iff] at hv
      obtain ⟨name, rfl, kind, rfl, docstring, hd, rfl⟩ := hv
      exact ⟨_, hf, hd⟩
    · cases hv
  · rintro ⟨docstring, hf, hd⟩
    refine ⟨_, hf, ?_⟩
    rw [← Json.textOrEmpty?_eq_some_iff] at hd
    simp [ofFields?, Json.required?, Json.text, hd]

theorem Parameter.ofJson?_eq_some_iff (j : Json) (p : Parameter) :
    ofJson? j = some p ↔ IsToldBy j p := by
  unfold ofJson? IsToldBy
  simp only [Option.bind_eq_some_iff, Json.fields?_eq_some_iff]
  constructor
  · rintro ⟨values, hf, hv⟩
    unfold ofFields? at hv
    split at hv
    · simp only [Option.bind_eq_some_iff, Option.map_eq_some_iff, Json.required?_eq_some_iff,
        Json.textOrEmpty?_eq_some_iff, Json.optional?_eq_some_iff] at hv
      obtain ⟨name, rfl, kind, hk, default, hdef, type, ht, docstring, hd, rfl⟩ := hv
      exact ⟨_, _, _, _, hf, hk, hdef, ht, hd⟩
    · cases hv
  · rintro ⟨kind, default, type, docstring, hf, hk, hdef, ht, hd⟩
    refine ⟨_, hf, ?_⟩
    rw [← Json.textOrEmpty?_eq_some_iff] at hk ht hd
    rw [← Json.optional?_eq_some_iff] at hdef
    simp [ofFields?, Json.required?, Json.text, hk, hdef, ht, hd]

/-! ## 4. Written records are read back -/

namespace Json

theorem hasMember_of_mem {members : List (Text × Json)} {m : Text × Json}
    (h : (members.map Prod.fst).Nodup) (hm : m ∈ members) :
    HasMember (members.map fun m => (some m.1, m.2)) m.1 (some m.2) := by
  obtain ⟨before, after, rfl⟩ := List.append_of_mem hm
  rw [List.map_append, List.map_cons, List.nodup_middle, List.nodup_cons, List.mem_append,
    not_or] at h
  have hother : ∀ ms : List (Text × Json), m.1 ∉ ms.map Prod.fst →
      ∀ x ∈ ms.map fun m => (some m.1, m.2), x.1 ≠ some m.1 := by
    intro ms hn
    rw [List.forall_mem_map]
    intro x hx he
    exact hn (List.mem_map.2 ⟨x, hx, Option.some.inj he⟩)
  refine ⟨_, _, ?_, hother before h.1.1, hother after h.1.2⟩
  rw [List.map_append, List.map_cons]

/-- The order in which the members are asked for need not be the one in which they stand. -/
theorem fields?_record_of_subset (members asked : List (Text × Json))
    (h : (members.map Prod.fst).Nodup) (hasked : asked ⊆ members) :
    fields? (asked.map Prod.fst) (record members) = some (asked.map fun m => some m.2) := by
  rw [fields?_eq_some_iff]
  refine .byName ?_ ?_
  · rw [List.forall_mem_map]
    intro m _ hn
    cases hn
  · rw [List.forall₂_map_left_iff, List.forall₂_map_right_iff, List.forall₂_same]
    exact fun m hm => hasMember_of_mem h (hasked hm)

theorem fields?_record (members : List (Text × Json)) (h : (members.map Prod.fst).Nodup) :
    fields? (members.map Prod.fst) (record members) =
      some (members.map fun m => some m.2) :=
  fields?_record_of_subset members members h (List.Subset.refl members)

theorem listOf?_list_map {α : Type} {read : Json → Option α} {write : α → Json}
    (h : ∀ x, read (write x) = some x) (xs : List α) :
    listOf? read (.list (xs.map write)) = some xs := by
  rw [listOf?, mapM_eq_some_iff_forall₂, List.forall₂_map_left_iff, List.forall₂_same]
  exact fun x _ => h x

theorem optional?_textOrNull (t : Option Text) : optional? (some (textOrNull t)) = some t := by
  cases t <;> rfl

end Json

theorem Completion.ofJson?_toJson (c : Completion) : ofJson? c.toJson = some c := by
  have hf : Json.fields? fieldNames c.toJson =
      some [some (.text c.name), some (.text c.kind), some (.text c.docstring)] :=
    Json.fields?_record_of_subset
      [("docstring".toList, .text c.docstring), ("name".toList, .text c.name),
        ("type".toList, .text c.kind)]
      [("name".toList, .text c.name), ("type".toList, .text c.kind),
        ("docstring".toList, .text c.docstring)]
      (by simp only [List.map_cons, List.map_nil]; decide) (by simp)
  rw [ofJson?, hf]
  rfl

theorem Parameter.ofJson?_toJson (p : Parameter) : ofJson? p.toJson = some p := by
  have hf : Json.fields? fieldNames p.toJson =
      some [some (.text p.name), some (.text p.kind), some (.textOrNull p.default),
        some (.text p.type), some (.text p.docstring)] :=
    Json.fields?_record_of_subset
      [("annotation".toList, .text p.type), ("default".toList, .textOrNull p.default),
        ("docstring".toList, .text p.docstring), ("kind".toList, .text p.kind),
        ("name".toList, .text p.name)]
      [("name".toList, .text p.name), ("kind".toList, .text p.kind),
        ("default".toList, .textOrNull p.default), ("annotation".toList, .text p.type),
        ("docstring".toList, .text p.docstring)]
      (by simp only [List.map_cons, List.map_nil]; decide) (by simp)
  rw [ofJson?, hf, Option.bind_some, ofFields?, Json.optional?_textOrNull]
  rfl

end TemplateTypes
