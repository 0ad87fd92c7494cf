import TemplateTypes.Proofs.InsertionOrder

/-!
# Insertion histories — what a sequence of insertions gives and leaves

A history is the list of all pairs ever inserted, those that a dictionary was built from and those
inserted afterwards.  It tells everything: the names stand where they were first inserted, each with
the value inserted last, and an insertion gives the value that its name had last before it.
Main statement: the state, the answers and the equality of dictionaries are those of their
histories, and an insertion that only overwrites commutes with the insertion of any other name.
-/

namespace TemplateTypes

/-! ## 1. Reading a history -/

section History

variable {κ β : Type} [DecidableEq κ]

/-- The names in the order of their first insertions. -/
def firstNames (history : List (κ × β)) : List κ :=
  (history.map Prod.fst).eraseDups

/-- The value of the last insertion of a name. -/
def lastValue? (history : List (κ × β)) (name : κ) : Option β :=
  history.reverse.lookup name

theorem lastValue?_append_singleton (history : List (κ × β)) (p : κ × β) (name : κ) :
    lastValue? (history ++ [p]) name =
      if name = p.1 then some p.2 else lastValue? history name := by
  rw [lastValue?, List.reverse_append, List.reverse_singleton, List.singleton_append,
    Dictionary.lookup_cons_eq_ite, lastValue?]

theorem mem_firstNames_iff {history : List (κ × β)} {name : κ} :
    name ∈ firstNames history ↔ name ∈ history.map Prod.fst :=
  List.mem_eraseDups

theorem firstNames_eq_nil_iff {history : List (κ × β)} :
    firstNames history = [] ↔ history = [] := by
  rw [List.eq_nil_iff_forall_not_mem]
  simp only [mem_firstNames_iff, ← List.eq_nil_iff_forall_not_mem, List.map_eq_nil_iff]

end History

namespace Dictionary

variable {κ β : Type} [DecidableEq κ]

/-! ## 2. Running a history -/

/-- Inserts the pairs one after the other: what each insertion gave, and the dictionary at the
end. -/
def exchangeAll (d : Dictionary κ β) : List (κ × β) → List (Option β) × Dictionary κ β
  | [] => ([], d)
  | p :: ps =>
    let now := d.exchange p.1 p.2
    let later := now.2.exchangeAll ps
    (now.1 :: later.1, later.2)

theorem exchangeAll_cons (d : Dictionary κ β) (p : κ × β) (ps : List (κ × β)) :
    d.exchangeAll (p :: ps) =
      (d.get? p.1 :: ((d.insert p.1 p.2).exchangeAll ps).1,
        ((d.insert p.1 p.2).exchangeAll ps).2) := rfl

theorem exchangeAll_snd (d : Dictionary κ β) (ps : List (κ × β)) :
    (d.exchangeAll ps).2 = d.insertAll ps := by
  induction ps generalizing d with
  | nil => rfl
  | cons p ps ih => rw [exchangeAll_cons, insertAll_cons, ih]

theorem exchangeAll_ofList_snd (start steps : List (κ × β)) :
    ((ofList start).exchangeAll steps).2 = ofList (start ++ steps) := by
  rw [exchangeAll_snd, ofList, ofList, insertAll_append]

/-! ## 3. What a history leaves -/

theorem get?_ofList (history : List (κ × β)) (name : κ) :
    (ofList history).get? name = lastValue? history name := by
  induction history using List.reverseRecOn with
  | nil => rfl
  | append_singleton history p ih =>
    rw [ofList_append_singleton, get?_insert, ih, lastValue?_append_singleton]

theorem names_ofList_eq_firstNames (history : List (κ × β)) :
    (ofList history).names = firstNames history :=
  names_ofList history

theorem entries_ofList (history : List (κ × β)) :
    (ofList history).entries =
      (firstNames history).filterMap fun name => (lastValue? history name).map (Prod.mk name) := by
  rw [entries_eq_filterMap, names_ofList_eq_firstNames]
  simp only [get?_ofList]

/-- An insertion gives what the history before it tells of its name. -/
theorem getElem?_exchangeAll_ofList (start steps : List (κ × β)) (k : ℕ) :
    ((ofList start).exchangeAll steps).1[k]? =
      steps[k]?.map fun p => lastValue? (start ++ steps.take k) p.1 := by
  -- The pair inserted first belongs to the history of all later ones.
  induction steps generalizing start k with
  | nil => rfl
  | cons p ps ih =>
    rw [exchangeAll_cons, ← ofList_append_singleton]
    cases k with
    | zero =>
      rw [List.getElem?_cons_zero, List.getElem?_cons_zero, Option.map_some, List.take_zero,
        List.append_nil, get?_ofList]
    | succ k =>
      rw [List.getElem?_cons_succ, List.getElem?_cons_succ, ih, List.take_succ_cons,
        List.append_assoc, List.singleton_append]

theorem ofList_eq_ofList_iff {history other : List (κ × β)} :
    ofList history = ofList other ↔
      firstNames history = firstNames other ∧
        ∀ name, lastValue? history name = lastValue? other name := by
  simp only [← names_ofList_eq_firstNames, ← get?_ofList]
  constructor
  · intro h
    rw [h]
    exact ⟨rfl, fun _ => rfl⟩
  · rintro ⟨hn, hg⟩
    exact ext_names_get? hn fun name value => by rw [hg]

/-! ## 4. Queries -/

theorem size_ofList (history : List (κ × β)) :
    (ofList history).size = (firstNames history).length := by
  rw [← names_ofList_eq_firstNames, names, List.length_map, size]

theorem isEmpty_ofList_iff {history : List (κ × β)} :
    (ofList history).isEmpty = true ↔ history = [] := by
  have hnames : (ofList history).names = [] ↔ (ofList history).entries = [] := List.map_eq_nil_iff
  rw [isEmpty, List.isEmpty_iff, ← hnames, names_ofList_eq_firstNames, firstNames_eq_nil_iff]

/-! ## 5. Insertions that commute -/

theorem get?_insert_of_ne {d : Dictionary κ β} {name other : κ} (h : name ≠ other) (value : β) :
    (d.insert other value).get? name = d.get? name := by
  rw [get?_insert, if_neg h]

theorem names_insert_of_mem {d : Dictionary κ β} {name : κ} (h : name ∈ d.names) (value : β) :
    (d.insert name value).names = d.names := by
  rw [names_insert, if_pos h]

theorem mem_names_insert {d : Dictionary κ β} {name : κ} (h : name ∈ d.names) (other : κ)
    (value : β) : name ∈ (d.insert other value).names := by
  rw [names_insert]
  split
  · exact h
  · exact List.mem_append_left _ h

/-- A name that is there keeps its place, so it does not matter which name is inserted first. -/
theorem insert_comm {d : Dictionary κ β} {name other : κ} (hd : name ∈ d.names)
    (hne : name ≠ other) (value value' : β) :
    (d.insert name value).insert other value' = (d.insert other value').insert name value := by
  apply ext_names_get?
  · rw [names_insert_of_mem (mem_names_insert hd other value'), names_insert,
      names_insert_of_mem hd, names_insert]
  · intro n v
    rw [get?_insert, get?_insert, get?_insert, get?_insert]
    by_cases h : n = other
    · have hn : n ≠ name := fun h' => hne (h'.symm.trans h)
      rw [if_pos h, if_neg hn, if_pos h]
    · rw [if_neg h, if_neg h]

/-- The two insertions give what they give in the other order, and leave the same dictionary. -/
theorem exchangeAll_comm {d : Dictionary κ β} {name other : κ} (hd : name ∈ d.names)
    (hne : name ≠ other) (value value' : β) :
    ∃ previous previous' d',
      d.exchangeAll [(name, value), (other, value')] = ([previous, previous'], d') ∧
        d.exchangeAll [(other, value'), (name, value)] = ([previous', previous], d') := by
  have hrun : d.exchangeAll [(name, value), (other, value')] =
      ([d.get? name, (d.insert name value).get? other],
        (d.insert name value).insert other value') := rfl
  have hrun' : d.exchangeAll [(other, value'), (name, value)] =
      ([d.get? other, (d.insert other value').get? name],
        (d.insert other value').insert name value) := rfl
  rw [get?_insert_of_ne (Ne.symm hne)] at hrun
  rw [get?_insert_of_ne hne, ← insert_comm hd hne] at hrun'
  exact ⟨_, _, _, hrun, hrun'⟩

end Dictionary

/-! ## 6. Annotations -/

namespace Annotations

open Dictionary

theorem exchangeAll_refines_history (start steps : List (Text × Text)) :
    let history := start ++ steps
    let run := (ofList start : Annotations).exchangeAll steps
    (run.2.entries =
        (firstNames history).filterMap fun name => (lastValue? history name).map (Prod.mk name)) ∧
      run.2.names = firstNames history ∧ run.2.names.Nodup ∧
      (∀ k, run.1[k]? = steps[k]?.map fun p => lastValue? (start ++ steps.take k) p.1) ∧
      (∀ name, run.2.get? name = lastValue? history name) ∧
      (∀ name value, run.2.get? name = some value ↔ (name, value) ∈ run.2.entries) ∧
      (∀ name, run.2.contains name = true ↔ ∃ value, (name, value) ∈ history) ∧
      run.2.size = (firstNames history).length ∧ (run.2.isEmpty = true ↔ history = []) ∧
      (∀ start' steps', run.2 = ((ofList start' : Annotations).exchangeAll steps').2 ↔
        firstNames history = firstNames (start' ++ steps') ∧
          ∀ name, lastValue? history name = lastValue? (start' ++ steps') name) ∧
      ∀ name type other type', run.2.contains name = true → name ≠ other →
        ∃ previous previous' d,
          run.2.exchangeAll [(name, type), (other, type')] = ([previous, previous'], d) ∧
            run.2.exchangeAll [(other, type'), (name, type)] = ([previous', previous], d) := by
  intro history run
  have hstate : run.2 = ofList history := exchangeAll_ofList_snd start steps
  have hnames : run.2.names = firstNames history := by
    rw [hstate, names_ofList_eq_firstNames]
  refine ⟨?_, hnames, run.2.distinct, getElem?_exchangeAll_ofList start steps,
    ?_, ?_, ?_, ?_, ?_, ?_, ?_⟩
  · rw [hstate, entries_ofList]
  · intro name
    rw [hstate, get?_ofList]
  · exact fun name value => get?_eq_some_iff_mem
  · intro name
    rw [contains_iff, hnames, mem_firstNames_iff, List.mem_map]
    simp
  · rw [hstate, size_ofList]
  · rw [hstate, isEmpty_ofList_iff]
  · intro start' steps'
    rw [hstate, exchangeAll_ofList_snd, ofList_eq_ofList_iff]
  · intro name type other type' hc hne
    exact exchangeAll_comm (contains_iff.1 hc) hne type type'

/-- A name that was overwritten in its place, and then again before and behind a new name. -/
theorem exchangeAll_refines_history_overwritten :
    let d := ((ofList [(['x'], "int".toList), (['y'], "str".toList)] : Annotations).exchangeAll
      [(['x'], "float".toList)]).2
    d.contains ['x'] = true ∧ ['x'] ≠ ['z'] ∧
      d.entries = [(['x'], "float".toList), (['y'], "str".toList)] ∧
      d.exchangeAll [(['x'], "bool".toList), (['z'], "int".toList)] =
        ([some "float".toList, none],
          (d.exchangeAll [(['z'], "int".toList), (['x'], "bool".toList)]).2) := by
  intro d
  have hc : d.contains ['x'] = true := by decide
  have hne : ['x'] ≠ ['z'] := by decide
  obtain ⟨hentries, -, -, -, -, -, -, -, -, -, hcomm⟩ := exchangeAll_refines_history
    [(['x'], "int".toList), (['y'], "str".toList)] [(['x'], "float".toList)]
  obtain ⟨previous, previous', d', hrun, hrun'⟩ :=
    hcomm ['x'] "bool".toList ['z'] "int".toList hc hne
  refine ⟨hc, hne, ?_, ?_⟩
  · rw [hentries]
    decide
  · have hgiven : (d.exchangeAll [(['x'], "bool".toList), (['z'], "int".toList)]).1 =
        [some "float".toList, none] := by
      decide
    rw [hrun] at hgiven
    rw [hrun, hrun', ← hgiven]

end Annotations

end TemplateTypes
