import TemplateTypes.Proofs.JsonTokens

/-!
# JSON round trip — reading back what was printed

The machine that reads tokens takes the tokens of a value to the state in which that value has just
been finished, with the same containers open.  Main statement: every value, printed on one line, is
read back as it was (`parse?_compact`), and the line holds no control character.
-/

namespace TemplateTypes.Json

/-! ## 1. Running the machine -/

theorem run_nil (s : State) : s.run [] = some s := rfl

theorem run_cons (s : State) (k : Token) (ks : List Token) :
    s.run (k :: ks) = (s.step k).bind fun s' => s'.run ks := by
  rw [State.run, List.foldlM_cons]
  rfl

/-- The tokens take the machine from waiting for a value to having just finished it. -/
def Delivers (ks : List Token) (v : Json) : Prop :=
  ∀ st more, (State.value st).run (ks ++ more) = (State.give v st).run more

/-- The first token of a value is not the end of a list. -/
theorem exists_written_eq (v : Json) : ∃ k ks, written v = k :: ks ∧ k ≠ .closeList := by
  cases v with
  | null => exact ⟨_, _, rfl, by decide⟩
  | bool b => exact ⟨_, _, rfl, by simp⟩
  | number => exact ⟨_, _, rfl, by decide⟩
  | string s => exact ⟨_, _, rfl, by simp⟩
  | list items => exact ⟨_, _, by rw [written], by decide⟩
  | object members => exact ⟨_, _, by rw [written], by decide⟩

/-- A list that has just been opened waits for a value, unless it is closed at once. -/
theorem step_listStart {k : Token} (h : k ≠ .closeList) (st : List Frame) :
    (State.listStart st).step k = (State.value (.list [] :: st)).step k := by
  cases k with
  | closeList => exact absurd rfl h
  | _ => rfl

theorem run_listStart {v : Json} (h : Delivers (written v) v) (st : List Frame)
    (more : List Token) :
    (State.listStart st).run (written v ++ more) = (State.afterItem [v] st).run more := by
  obtain ⟨k, ks, hk, hne⟩ := exists_written_eq v
  rw [← show State.give v (.list [] :: st) = .afterItem [v] st from rfl, ← h, hk, List.cons_append,
    run_cons, run_cons, step_listStart hne]

/-! ## 2. Containers -/

theorem run_afterItem {vs : List Json} (h : ∀ v ∈ vs, Delivers (written v) v) (items : List Json)
    (st : List Frame) (more : List Token) :
    (State.afterItem items st).run (vs.flatMap (.comma :: written ·) ++ .closeList :: more) =
      (State.give (.list (items.reverse ++ vs)) st).run more := by
  induction vs generalizing items with
  | nil =>
    rw [List.append_nil]
    rfl
  | cons v vs ih =>
    rw [List.flatMap_cons, List.cons_append, List.cons_append, run_cons, List.append_assoc]
    show (State.value (.list items :: st)).run _ = _
    rw [h v List.mem_cons_self]
    show (State.afterItem (v :: items) st).run _ = _
    rw [ih (fun w hw => h w (List.mem_cons_of_mem v hw)), List.reverse_cons, List.append_assoc,
      List.singleton_append]

theorem delivers_list {items : List Json} (h : ∀ v ∈ items, Delivers (written v) v) :
    Delivers (written (.list items)) (.list items) := by
  intro st more
  rw [written, writtenItems_eq_map, List.cons_append, run_cons]
  show (State.listStart st).run _ = _
  cases items with
  | nil => rfl
  | cons v vs =>
    rw [List.map_cons, separated, List.flatMap_map, List.append_assoc, List.append_assoc,
      run_listStart (h v List.mem_cons_self), List.singleton_append,
      run_afterItem fun w hw => h w (List.mem_cons_of_mem v hw)]
    rfl

theorem run_memberName {m : Option Text × Json} (h : Delivers (written m.2) m.2)
    (members : List (Option Text × Json)) (st : List Frame) (more : List Token) :
    (State.memberName members st).run (writtenMember m ++ more) =
      (State.afterMember (m :: members) st).run more := by
  rw [writtenMember, List.cons_append, List.cons_append, run_cons]
  show (State.value (.object members m.1 :: st)).run _ = _
  rw [h]
  rfl

/-- An object that has just been opened takes a name just as one does behind a comma. -/
theorem run_objectStart (m : Option Text × Json) (st : List Frame) (more : List Token) :
    (State.objectStart st).run (writtenMember m ++ more) =
      (State.memberName [] st).run (writtenMember m ++ more) := by
  rw [writtenMember, List.cons_append, run_cons, run_cons]
  rfl

theorem run_afterMember {ms : List (Option Text × Json)}
    (h : ∀ m ∈ ms, Delivers (written m.2) m.2) (members : List (Option Text × Json))
    (st : List Frame) (more : List Token) :
    (State.afterMember members st).run
        (ms.flatMap (.comma :: writtenMember ·) ++ .closeObject :: more) =
      (State.give (.object (members.reverse ++ ms)) st).run more := by
  induction ms generalizing members with
  | nil =>
    rw [List.append_nil]
    rfl
  | cons m ms ih =>
    rw [List.flatMap_cons, List.cons_append, List.cons_append, run_cons, List.append_assoc]
    show (State.memberName members st).run _ = _
    rw [run_memberName (h m List.mem_cons_self),
      ih (fun w hw => h w (List.mem_cons_of_mem m hw)), List.reverse_cons, List.append_assoc,
      List.singleton_append]

theorem delivers_object {members : List (Option Text × Json)}
    (h : ∀ m ∈ members, Delivers (written m.2) m.2) :
    Delivers (written (.object members)) (.object members) := by
  intro st more
  rw [written, writtenMembers_eq_map, List.cons_append, run_cons]
  show (State.objectStart st).run _ = _
  cases members with
  | nil => rfl
  | cons m ms =>
    rw [List.map_cons, separated, List.flatMap_map, List.append_assoc, List.append_assoc,
      run_objectStart, run_memberName (h m List.mem_cons_self), List.singleton_append,
      run_afterMember fun w hw => h w (List.mem_cons_of_mem m hw)]
    rfl

theorem delivers_written (v : Json) : Delivers (written v) v := by
  induction v using inductionOn with
  | null => exact fun st more => rfl
  | bool b => exact fun st more => rfl
  | number => exact fun st more => rfl
  | string s => exact fun st more => rfl
  | list items ih => exact delivers_list ih
  | object members ih => exact delivers_object ih

/-! ## 3. Reading back -/

theorem ofTokens?_written (v : Json) : ofTokens? (written v) = some v := by
  have h := delivers_written v [] []
  rw [List.append_nil, run_nil] at h
  rw [ofTokens?, h]
  rfl

/-- A text that spells the tokens of a value is read as this value. -/
theorem Spells.parse? {t : Text} {v : Json} (h : Spells t (written v)) : parse? t = some v := by
  have ht := h [] endsNumber_nil
  rw [List.append_nil, tokens_nil, Option.map_some, List.append_nil] at ht
  rw [Json.parse?, ofElements?, ht, Option.bind_some, ofTokens?_written]

theorem parse?_compact (v : Json) : parse? (compact v) = some v :=
  (spells_compact v).parse?

/-- The line feed behind a printed value is passed over. -/
theorem parse?_compact_append_lineFeed (v : Json) : parse? (compact v ++ ['\n']) = some v := by
  have ht := spells_compact v [some '\n'] (endsNumber_cons (by decide) [])
  have hn : tokens [some '\n'] = some [] := by
    rw [← tokens_nil, ← List.append_nil [some '\n']]
    exact tokens_append_of_isSpace (by decide) []
  rw [hn, Option.map_some, List.append_nil] at ht
  rw [parse?, ofElements?, List.map_append, List.map_singleton, ht, Option.bind_some,
    ofTokens?_written]

/-! ## 4. One line -/

/-- Holds no control character below the space, so no line feed either. -/
def NoControl (t : Text) : Prop := ∀ c ∈ t, 0x20 ≤ c.toNat

instance (t : Text) : Decidable (NoControl t) := List.decidableBAll _ t

theorem NoControl.append {s t : Text} (hs : NoControl s) (ht : NoControl t) :
    NoControl (s ++ t) := by
  intro c hc
  rcases List.mem_append.1 hc with hc | hc
  · exact hs c hc
  · exact ht c hc

theorem NoControl.cons {c : Char} {t : Text} (hc : 0x20 ≤ c.toNat) (ht : NoControl t) :
    NoControl (c :: t) := by
  intro d hd
  rcases List.mem_cons.1 hd with rfl | hd
  · exact hc
  · exact ht d hd

theorem NoControl.lineFeed_notMem {t : Text} (h : NoControl t) : '\n' ∉ t := by
  intro hm
  exact absurd (h _ hm) (by decide)

theorem toNat_hexDigit {n : Nat} (h : n < 16) : 0x20 ≤ (hexDigit n).toNat := by
  have hall : ∀ n, n < 16 → 0x20 ≤ (hexDigit n).toNat := by decide
  exact hall n h

theorem noControl_escapeChar (c : Char) : NoControl (escapeChar c) := by
  unfold escapeChar
  repeat (split; · decide)
  split
  · have h1 := toNat_hexDigit (n := c.toNat / 16) (by omega)
    have h2 := toNat_hexDigit (n := c.toNat % 16) (by omega)
    simp [NoControl, h1, h2]
  · simpa [NoControl] using Nat.le_of_not_lt ‹_›

theorem noControl_quote (s : Option Text) : NoControl (quote s) := by
  cases s with
  | none => decide
  | some t =>
    have ht : NoControl (t.flatMap escapeChar) := by
      intro c hc
      obtain ⟨d, -, hd⟩ := List.mem_flatMap.1 hc
      exact noControl_escapeChar d c hd
    have hq : NoControl ['"'] := by decide
    exact (ht.append hq).cons (by decide)

theorem noControl_join {parts : List Text} (h : ∀ p ∈ parts, NoControl p) :
    NoControl (Text.join [','] parts) := by
  cases parts with
  | nil => exact fun c hc => absurd hc (by simp [Text.join])
  | cons p ps =>
    rw [Text.join_singleton_cons]
    refine (h p List.mem_cons_self).append fun c hc => ?_
    obtain ⟨q, hq, hc⟩ := List.mem_flatMap.1 hc
    exact (h q (List.mem_cons_of_mem p hq)).cons (by decide) c hc

theorem noControl_compact (v : Json) : NoControl (compact v) := by
  have hclose : ∀ c : Char, 0x20 ≤ c.toNat → NoControl [c] :=
    fun c hc => NoControl.cons hc (fun _ h => absurd h List.not_mem_nil)
  -- Only strings could bring a control in, and their escapes keep it out.
  induction v using inductionOn with
  | null => decide
  | bool b => cases b <;> decide
  | number => exact hclose '0' (by decide)
  | string s => exact noControl_quote s
  | list items ih =>
    rw [compact, compactItems_eq_map]
    have hj := noControl_join (List.forall_mem_map.2 ih)
    exact (hj.append (hclose ']' (by decide))).cons (by decide)
  | object members ih =>
    have hm : ∀ m ∈ members, NoControl (compactMember m) :=
      fun m hm => (noControl_quote m.1).append ((ih m hm).cons (by decide))
    rw [compact, compactMembers_eq_map]
    have hj := noControl_join (List.forall_mem_map.2 hm)
    exact (hj.append (hclose '}' (by decide))).cons (by decide)

end TemplateTypes.Json
