import Mathlib.Data.List.Basic
import Mathlib.Data.List.Induction
import TemplateTypes.Dictionary

/-!
# Insertion order — the dictionary that a list of pairs leaves behind

Inserting pairs one after the other keeps every name once, where it stood first, and gives it the
value that stood last.  Names and values together are all there is to a dictionary.  Inserted into
a dictionary that is there, the pairs update the names of it and add the others behind them.
-/

namespace TemplateTypes

theorem filterMap_eq_self {α : Type} {f : α → Option α} {as : List α}
    (h : ∀ a ∈ as, f a = some a) : as.filterMap f = as := by
  rw [List.filterMap_eq_map_iff_forall_eq_some.2 h, List.map_id']

theorem putEntry_of_notMem {κ β : Type} [DecidableEq κ] {name : κ} {es : List (κ × β)}
    (h : name ∉ es.map Prod.fst) (value : β) : putEntry name value es = es ++ [(name, value)] := by
  induction es with
  | nil => rfl
  | cons e es ih =>
    rw [List.map_cons, List.mem_cons, not_or] at h
    rw [putEntry, if_neg (Ne.symm h.1), ih h.2, List.cons_append]

theorem filter_putEntry {κ β : Type} [DecidableEq κ] (p : κ → Bool) (name : κ) (value : β)
    (es : List (κ × β)) :
    (putEntry name value es).filter (fun e => p e.1) =
      if p name then putEntry name value (es.filter fun e => p e.1)
      else es.filter fun e => p e.1 := by
  induction es with
  | nil => cases hp : p name <;> simp [putEntry, hp]
  | cons e es ih =>
    by_cases he : e.1 = name
    · subst he
      cases hp : p e.1 <;> simp [putEntry, hp]
    · rw [putEntry, if_neg he, List.filter_cons, ih]
      cases hp : p name <;> cases hq : p e.1 <;> simp [putEntry, he, hq]

theorem map_putEntry {κ β γ : Type} [DecidableEq κ] (g : κ × β → γ) (name : κ) (value : β)
    (es : List (κ × β)) :
    (putEntry name value es).map (fun e => (e.1, g e)) =
      putEntry name (g (name, value)) (es.map fun e => (e.1, g e)) := by
  induction es with
  | nil => rfl
  | cons e es ih =>
    by_cases he : e.1 = name
    · subst he
      rw [putEntry, if_pos rfl, List.map_cons, List.map_cons, putEntry, if_pos rfl]
    · rw [putEntry, if_neg he, List.map_cons, List.map_cons, putEntry, if_neg he, ih]

namespace Dictionary

variable {κ β : Type} [DecidableEq κ]

theorem entries_insert (d : Dictionary κ β) (name : κ) (value : β) :
    (d.insert name value).entries = putEntry name value d.entries := rfl

theorem insertAll_append_singleton (d : Dictionary κ β) (ps : List (κ × β)) (p : κ × β) :
    d.insertAll (ps ++ [p]) = (d.insertAll ps).insert p.1 p.2 :=
  insertAll_append d ps [p]

theorem ofList_append_singleton (ps : List (κ × β)) (p : κ × β) :
    ofList (ps ++ [p]) = (ofList ps).insert p.1 p.2 :=
  insertAll_append_singleton empty ps p

/-! ## 1. Names: the first place counts -/

theorem names_ofList [BEq κ] [LawfulBEq κ] (ps : List (κ × β)) :
    (ofList ps).names = (ps.map Prod.fst).eraseDups := by
  induction ps using List.reverseRecOn with
  | nil => rfl
  | append_singleton ps p ih =>
    rw [ofList_append_singleton, names_insert, ih, List.map_append, List.eraseDups_append]
    -- A name that was there before keeps its place; a new one comes last on both sides.
    by_cases h : p.1 ∈ ps.map Prod.fst
    · rw [if_pos (List.mem_eraseDups.2 h)]
      simp [List.removeAll, h]
    · rw [if_neg (fun hm => h (List.mem_eraseDups.1 hm))]
      simp [List.removeAll, h, List.eraseDups_cons]

theorem entries_ofList_of_nodup {ps : List (κ × β)} (h : (ps.map Prod.fst).Nodup) :
    (ofList ps).entries = ps := by
  induction ps using List.reverseRecOn with
  | nil => rfl
  | append_singleton ps p ih =>
    rw [List.map_append, List.nodup_append] at h
    obtain ⟨hps, -, hp⟩ := h
    have hn : p.1 ∉ ps.map Prod.fst := fun hm => hp p.1 hm p.1 (by simp) rfl
    rw [ofList_append_singleton, entries_insert, ih hps, putEntry_of_notMem hn]

/-- Inserting the entries of a dictionary in their order makes it again. -/
theorem ofList_entries (d : Dictionary κ β) : ofList d.entries = d :=
  ext_entries (entries_ofList_of_nodup d.distinct)

/-- Leaving names out before or after the insertions is the same. -/
theorem entries_filter_ofList (p : κ → Bool) (ps : List (κ × β)) :
    (ofList ps).entries.filter (fun e => p e.1) =
      (ofList (ps.filter fun e => p e.1)).entries := by
  induction ps using List.reverseRecOn with
  | nil => rfl
  | append_singleton ps q ih =>
    rw [ofList_append_singleton, entries_insert, filter_putEntry, ih, List.filter_append]
    cases hq : p q.1 with
    | true => simp [hq, ofList_append_singleton, entries_insert]
    | false => simp [hq]

/-- Rewriting the values before or after the insertions is the same. -/
theorem entries_ofList_map {γ : Type} (g : κ × β → γ) (ps : List (κ × β)) :
    (ofList (ps.map fun p => (p.1, g p))).entries =
      (ofList ps).entries.map fun e => (e.1, g e) := by
  induction ps using List.reverseRecOn with
  | nil => rfl
  | append_singleton ps q ih =>
    rw [List.map_append, List.map_singleton, ofList_append_singleton, entries_insert, ih,
      ofList_append_singleton, entries_insert, map_putEntry]

/-! ## 2. Values: the last one counts -/

theorem get?_insertAll_of_notMem {n : κ} {ps : List (κ × β)} (h : n ∉ ps.map Prod.fst)
    (d : Dictionary κ β) : (d.insertAll ps).get? n = d.get? n := by
  induction ps generalizing d with
  | nil => rfl
  | cons p ps ih =>
    rw [List.map_cons, List.mem_cons, not_or] at h
    rw [insertAll_cons, ih h.2, get?_insert, if_neg h.1]

theorem get?_ofList_append_cons {n : κ} {qs : List (κ × β)} (h : n ∉ qs.map Prod.fst)
    (ps : List (κ × β)) (v : β) : (ofList (ps ++ (n, v) :: qs)).get? n = some v := by
  rw [ofList, insertAll_append, insertAll_cons, get?_insertAll_of_notMem h, get?_insert,
    if_pos rfl]

theorem get?_ofList_eq_some_iff {ps : List (κ × β)} {n : κ} {v : β} :
    (ofList ps).get? n = some v ↔
      ∃ before after, ps = before ++ (n, v) :: after ∧ n ∉ after.map Prod.fst := by
  constructor
  · intro h
    -- From the back: the first pair met that has the name is the one that decides.
    induction ps using List.reverseRecOn with
    | nil => cases h
    | append_singleton ps p ih =>
      rw [ofList_append_singleton, get?_insert] at h
      split at h
      · rename_i hn
        subst hn
        cases h
        exact ⟨ps, [], rfl, by simp⟩
      · rename_i hn
        obtain ⟨before, after, rfl, ha⟩ := ih h
        refine ⟨before, after ++ [p], by simp, ?_⟩
        rw [List.map_append, List.mem_append, not_or]
        exact ⟨ha, by simpa using hn⟩
  · rintro ⟨before, after, rfl, ha⟩
    exact get?_ofList_append_cons ha before v

/-! ## 3. Entries -/

theorem get?_eq_some_iff_mem {d : Dictionary κ β} {n : κ} {v : β} :
    d.get? n = some v ↔ (n, v) ∈ d.entries := by
  have key : ∀ es : List (κ × β), (es.map Prod.fst).Nodup →
      (es.lookup n = some v ↔ (n, v) ∈ es) := by
    intro es hes
    induction es with
    | nil => simp
    | cons e es ih =>
      rw [List.map_cons, List.nodup_cons] at hes
      rw [lookup_cons_eq_ite, List.mem_cons]
      by_cases he : n = e.1
      · subst he
        have hm : (e.1, v) ∉ es := fun hm => hes.1 (List.mem_map.2 ⟨_, hm, rfl⟩)
        simp [hm, Prod.ext_iff, eq_comm]
      · simp [ih hes.2, Prod.ext_iff, he]
  exact key d.entries d.distinct

theorem contains_iff {d : Dictionary κ β} {name : κ} :
    d.contains name = true ↔ name ∈ d.names := by
  rw [contains, Option.isSome_iff_exists, names, List.mem_map]
  simp only [get?_eq_some_iff_mem]
  constructor
  · rintro ⟨value, h⟩
    exact ⟨(name, value), h, rfl⟩
  · rintro ⟨⟨n, value⟩, h, rfl⟩
    exact ⟨value, h⟩

theorem mem_of_mem_entries_ofList {ps : List (κ × β)} {e : κ × β} (h : e ∈ (ofList ps).entries) :
    e ∈ ps := by
  obtain ⟨before, after, rfl, -⟩ := get?_ofList_eq_some_iff.1 (get?_eq_some_iff_mem.2 h)
  exact List.mem_append_right _ List.mem_cons_self

/-- The names in order, and the value of each: there is nothing else to know. -/
theorem entries_eq_filterMap (d : Dictionary κ β) :
    d.entries = d.names.filterMap fun n => (d.get? n).map (Prod.mk n) := by
  rw [names, List.filterMap_map]
  refine (filterMap_eq_self fun e he => ?_).symm
  rw [Function.comp_apply, get?_eq_some_iff_mem.2 he]
  rfl

theorem ext_names_get? {d e : Dictionary κ β} (hn : d.names = e.names)
    (hg : ∀ n v, d.get? n = some v ↔ e.get? n = some v) : d = e := by
  apply ext_entries
  have hget : ∀ n, d.get? n = e.get? n := fun n => Option.ext (hg n)
  rw [entries_eq_filterMap d, entries_eq_filterMap e, hn]
  simp only [hget]

/-! ## 4. Insertions into a dictionary that is there -/

/-- New names come behind the old ones, in their own order. -/
theorem names_insertAll (d : Dictionary κ β) (ps : List (κ × β)) :
    (d.insertAll ps).names = d.names ++ (ofList ps).names.filter fun n => !d.contains n := by
  induction ps using List.reverseRecOn with
  | nil => exact (List.append_nil _).symm
  | append_singleton ps p ih =>
    rw [insertAll_append_singleton, ofList_append_singleton, names_insert, names_insert, ih]
    cases hd : d.contains p.1 with
    | true =>
      -- An old name is left out of the new ones, wherever it stands there.
      rw [if_pos (List.mem_append_left _ (contains_iff.1 hd))]
      split
      · rfl
      · simp [hd]
    | false =>
      have hold : p.1 ∉ d.names := by
        rw [← contains_iff, hd]
        decide
      by_cases hp : p.1 ∈ (ofList ps).names
      · have hmem : p.1 ∈ (ofList ps).names.filter fun n => !d.contains n :=
          List.mem_filter.2 ⟨hp, by rw [hd]; rfl⟩
        rw [if_pos hp, if_pos (List.mem_append_right _ hmem)]
      · have hnew : p.1 ∉ d.names ++ (ofList ps).names.filter fun n => !d.contains n := by
          simp [hold, hp]
        rw [if_neg hp, if_neg hnew, List.filter_append, List.append_assoc]
        simp [hd]

/-- The value inserted last counts, and only without one the value that was there. -/
theorem get?_insertAll (d : Dictionary κ β) (ps : List (κ × β)) (n : κ) :
    (d.insertAll ps).get? n = ((ofList ps).get? n).or (d.get? n) := by
  induction ps using List.reverseRecOn with
  | nil => rfl
  | append_singleton ps p ih =>
    rw [insertAll_append_singleton, ofList_append_singleton, get?_insert, get?_insert, ih]
    split <;> rfl

/-- Pairs that are overwritten by later ones need not be inserted. -/
theorem insertAll_entries_ofList (d : Dictionary κ β) (ps : List (κ × β)) :
    d.insertAll (ofList ps).entries = d.insertAll ps := by
  apply ext_names_get?
  · rw [names_insertAll, names_insertAll, ofList_entries]
  · intro n v
    rw [get?_insertAll, get?_insertAll, ofList_entries]

/-- A name that is there keeps its place and takes the new value, if there is one. -/
theorem entries_insertAll_entries (d e : Dictionary κ β) :
    (d.insertAll e.entries).entries =
      d.entries.map (fun p => (p.1, (e.get? p.1).getD p.2)) ++
        e.entries.filter fun p => !d.contains p.1 := by
  have hget : ∀ n, (d.insertAll e.entries).get? n = (e.get? n).or (d.get? n) := by
    intro n
    rw [get?_insertAll, ofList_entries]
  have hd : d.names = d.entries.map Prod.fst := rfl
  have he : e.names = e.entries.map Prod.fst := rfl
  rw [entries_eq_filterMap, names_insertAll, ofList_entries, List.filterMap_append]
  congr 1
  · rw [hd, List.filterMap_map, List.filterMap_eq_map_iff_forall_eq_some]
    intro p hp
    rw [Function.comp_apply, hget, get?_eq_some_iff_mem.2 hp, Option.or_some]
    rfl
  · rw [he, List.filter_map, List.filterMap_map]
    refine filterMap_eq_self fun p hp => ?_
    have hmem : p ∈ e.entries := (List.mem_filter.1 hp).1
    rw [Function.comp_apply, hget, get?_eq_some_iff_mem.2 hmem]
    rfl

end Dictionary

end TemplateTypes
