import TemplateTypes.Text.Basic

/-!
# Dictionaries — tables that remember the order of first insertion

Each name stands once.  Inserting a name that is there already changes its value and leaves its
place; a new name goes to the end.  So the order of a dictionary is the order in which its names
were first inserted, and the value of a name is the one inserted last.
-/

namespace TemplateTypes

/-! ## 1. Entries -/

/-- Puts a value into a list of entries, in place where the name stands first. -/
def putEntry {κ β : Type} [DecidableEq κ] (name : κ) (value : β) : List (κ × β) → List (κ × β)
  | [] => [(name, value)]
  | e :: es => if e.1 = name then (name, value) :: es else e :: putEntry name value es

theorem names_putEntry {κ β : Type} [DecidableEq κ] (name : κ) (value : β) (es : List (κ × β)) :
    (putEntry name value es).map Prod.fst =
      if name ∈ es.map Prod.fst then es.map Prod.fst else es.map Prod.fst ++ [name] := by
  induction es with
  | nil => simp [putEntry]
  | cons e es ih =>
    by_cases h : e.1 = name
    · simp [putEntry, h]
    · simp only [putEntry, h, if_false, List.map_cons, ih, List.mem_cons, Ne.symm h, false_or]
      split <;> simp_all

structure Dictionary (κ β : Type) where
  entries : List (κ × β)
  distinct : (entries.map Prod.fst).Nodup
deriving DecidableEq

namespace Dictionary

variable {κ β : Type} [DecidableEq κ]

/-! ## 2. Operations -/

def empty : Dictionary κ β := ⟨[], by simp⟩

instance : Inhabited (Dictionary κ β) := ⟨empty⟩

def names (d : Dictionary κ β) : List κ := d.entries.map Prod.fst

def get? (d : Dictionary κ β) (name : κ) : Option β := d.entries.lookup name

def contains (d : Dictionary κ β) (name : κ) : Bool := (d.get? name).isSome

def size (d : Dictionary κ β) : Nat := d.entries.length

def isEmpty (d : Dictionary κ β) : Bool := d.entries.isEmpty

def insert (d : Dictionary κ β) (name : κ) (value : β) : Dictionary κ β where
  entries := putEntry name value d.entries
  distinct := by
    rw [names_putEntry]
    have := d.distinct
    split
    · exact this
    · rename_i h
      exact List.nodup_append.2 ⟨this, by simp, by rintro a ha b hb rfl; simp_all⟩

/-- Inserts, and also gives the value that the name had before. -/
def exchange (d : Dictionary κ β) (name : κ) (value : β) : Option β × Dictionary κ β :=
  (d.get? name, d.insert name value)

/-- Inserts the pairs one after the other. -/
def insertAll (d : Dictionary κ β) (pairs : List (κ × β)) : Dictionary κ β :=
  pairs.foldl (fun d p => d.insert p.1 p.2) d

def ofList (pairs : List (κ × β)) : Dictionary κ β :=
  empty.insertAll pairs

/-! ## 3. One equation per operation -/

omit [DecidableEq κ] in
theorem ext_entries {d e : Dictionary κ β} (h : d.entries = e.entries) : d = e := by
  cases d
  cases e
  simp_all

theorem names_insert (d : Dictionary κ β) (name : κ) (value : β) :
    (d.insert name value).names = if name ∈ d.names then d.names else d.names ++ [name] :=
  names_putEntry name value d.entries

theorem lookup_cons_eq_ite (e : κ × β) (es : List (κ × β)) (n : κ) :
    (e :: es).lookup n = if n = e.1 then some e.2 else es.lookup n := by
  obtain ⟨name, value⟩ := e
  rw [List.lookup_cons]
  by_cases h : n = name
  · simp [h]
  · have hb : (n == name) = false := by simpa using h
    simp only [hb, if_neg h]

theorem lookup_putEntry (name : κ) (value : β) (es : List (κ × β)) (n : κ) :
    (putEntry name value es).lookup n = if n = name then some value else es.lookup n := by
  induction es with
  | nil => rw [putEntry, lookup_cons_eq_ite]
  | cons e es ih =>
    by_cases he : e.1 = name
    · subst he
      rw [putEntry, if_pos rfl, lookup_cons_eq_ite, lookup_cons_eq_ite]
      split <;> rfl
    · rw [putEntry, if_neg he, lookup_cons_eq_ite, lookup_cons_eq_ite, ih]
      by_cases h : n = e.1
      · have hn : n ≠ name := by rwa [h]
        rw [if_pos h, if_pos h, if_neg hn]
      · rw [if_neg h, if_neg h]

theorem get?_insert (d : Dictionary κ β) (name : κ) (value : β) (n : κ) :
    (d.insert name value).get? n = if n = name then some value else d.get? n :=
  lookup_putEntry name value d.entries n

@[simp] theorem insertAll_nil (d : Dictionary κ β) : d.insertAll [] = d := rfl

@[simp] theorem insertAll_cons (d : Dictionary κ β) (p : κ × β) (ps : List (κ × β)) :
    d.insertAll (p :: ps) = (d.insert p.1 p.2).insertAll ps := rfl

theorem insertAll_append (d : Dictionary κ β) (ps qs : List (κ × β)) :
    d.insertAll (ps ++ qs) = (d.insertAll ps).insertAll qs := by
  simp [insertAll]

end Dictionary

/-- The names of a template with their types. -/
abbrev Annotations := Dictionary Text Text

end TemplateTypes
