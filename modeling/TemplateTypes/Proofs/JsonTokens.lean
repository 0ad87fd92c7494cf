import TemplateTypes.Json.Printer
import TemplateTypes.Json.Reader
import TemplateTypes.Proofs.Pieces

/-!
# JSON tokens — what a printed value is read as

A printed value spells a fixed list of tokens, whatever stands behind it, as long as what follows
does not go on like a number.  Strings come back through their escapes, half of a surrogate pair
comes back as a string that is no text, and separators keep the tokens of neighbours apart.
-/

namespace TemplateTypes

namespace Json

/-! ## 1. Induction over values -/

@[elab_as_elim]
theorem inductionOn {P : Json → Prop} (v : Json) (null : P .null) (bool : ∀ b, P (.bool b))
    (number : P .number) (string : ∀ s, P (.string s))
    (list : ∀ items, (∀ v ∈ items, P v) → P (.list items))
    (object : ∀ members, (∀ m ∈ members, P m.2) → P (.object members)) : P v :=
  @Json.rec P (fun items => ∀ v ∈ items, P v) (fun members => ∀ m ∈ members, P m.2)
    (fun m => P m.2) null bool number string list object
    (List.forall_mem_nil _) (fun _ _ hv hvs => List.forall_mem_cons.2 ⟨hv, hvs⟩)
    (List.forall_mem_nil _) (fun _ _ hm hms => List.forall_mem_cons.2 ⟨hm, hms⟩)
    (fun _ _ hv => hv) v

theorem compactItems_eq_map (items : List Json) : compactItems items = items.map compact := by
  induction items with
  | nil => rfl
  | cons v vs ih => rw [compactItems, ih, List.map_cons]

def compactMember (m : Option Text × Json) : Text :=
  quote m.1 ++ ':' :: compact m.2

theorem compactMembers_eq_map (members : List (Option Text × Json)) :
    compactMembers members = members.map compactMember := by
  induction members with
  | nil => rfl
  | cons m ms ih => rw [compactMembers, ih, List.map_cons, compactMember]

/-! ## 2. Strings -/

theorem hexValue?_hexDigit {n : Nat} (h : n < 16) : hexValue? (hexDigit n) = some n := by
  have hall : ∀ n, n < 16 → hexValue? (hexDigit n) = some n := by decide
  exact hall n h

theorem ofUnit_toNat {c : Char} (h : c.toNat < 0x20) : Element.ofUnit c.toNat = .char c := by
  unfold Element.ofUnit
  rw [if_neg (by omega), if_neg (by omega), Char.ofNat_toNat]

theorem readElements_escapeChar_append (c : Char) (r : List (Option Char)) :
    readElements .plain ((escapeChar c).map some ++ r) =
      (readElements .plain r).map fun s => (.char c :: s.1, s.2) := by
  unfold escapeChar
  split
  · subst c
    rfl
  split
  · subst c
    rfl
  split
  · subst c
    rfl
  split
  · subst c
    rfl
  split
  · subst c
    rfl
  split
  · subst c
    rfl
  split
  · subst c
    rfl
  split
  · -- A control: four hexadecimal digits, the first two of them zero.
    rename_i hc
    have h0 : hexValue? '0' = some 0 := by decide
    have h1 : hexValue? (hexDigit (c.toNat / 16)) = some (c.toNat / 16) :=
      hexValue?_hexDigit (by omega)
    have h2 : hexValue? (hexDigit (c.toNat % 16)) = some (c.toNat % 16) :=
      hexValue?_hexDigit (by omega)
    have hv : 16 * (c.toNat / 16) + c.toNat % 16 = c.toNat := by omega
    simp [readElements, h0, h1, h2, hv, ofUnit_toNat hc]
  · rename_i hq hs _ _ _ _ _ hc
    simp [readElements, hq, hs, hc]

theorem readElements_flatMap_escapeChar_append (t : Text) (r : List (Option Char)) :
    readElements .plain ((t.flatMap escapeChar).map some ++ some '"' :: r) =
      some (t.map .char, r) := by
  induction t with
  | nil => rfl
  | cons c t ih =>
    rw [List.flatMap_cons, List.map_append, List.append_assoc, readElements_escapeChar_append, ih]
    rfl

theorem spell?_map_char (t : Text) : spell? (t.map .char) = some t := by
  induction t with
  | nil => rfl
  | cons c t ih => rw [List.map_cons, spell?, ih, Option.map_some]

/-- The characters of a printed string behind its opening quote. -/
theorem exists_quote_eq (s : Option Text) : ∃ body, quote s = '"' :: body ∧
    ∀ r, token? (some '"') (body.map some ++ r) = some (.string s, r) := by
  cases s with
  | none => exact ⟨"\\ud800\"".toList, rfl, fun r => rfl⟩
  | some t =>
    refine ⟨t.flatMap escapeChar ++ ['"'], rfl, fun r => ?_⟩
    rw [List.map_append, List.append_assoc, List.map_singleton, List.singleton_append]
    show (readElements .plain _).map _ = _
    rw [readElements_flatMap_escapeChar_append, Option.map_some, spell?_map_char]

/-! ## 3. Texts that spell tokens -/

/-- One token behind the white space, then the others. -/
theorem tokens_eq (t : List (Option Char)) :
    tokens t =
      match t.dropWhile isSpace with
      | [] => some []
      | c :: r => (token? c r).bind fun s => (tokens s.2).map (s.1 :: ·) := by
  rw [tokens]
  split
  · rename_i h
    rw [h]
  · rename_i c r h
    rw [h]
    split
    · rename_i hk
      simp only [hk, Option.bind_none]
    · rename_i hk
      simp only [hk, Option.bind_some]

theorem tokens_nil : tokens [] = some [] := by
  rw [tokens_eq]
  rfl

theorem tokens_cons_of_token? {c : Option Char} {t r : List (Option Char)} {k : Token}
    (hc : isSpace c = false) (hk : token? c t = some (k, r)) :
    tokens (c :: t) = (tokens r).map (k :: ·) := by
  rw [tokens_eq, List.dropWhile_cons_of_neg (by simp [hc])]
  simp only [hk, Option.bind_some]

theorem tokens_append_of_isSpace {w : List (Option Char)} (hw : ∀ c ∈ w, isSpace c = true)
    (t : List (Option Char)) : tokens (w ++ t) = tokens t := by
  rw [tokens_eq, List.dropWhile_append_of_pos hw, ← tokens_eq]

/-- What follows does not go on like a number. -/
def EndsNumber (r : List (Option Char)) : Prop :=
  ∀ c, r.head? = some (some c) → isNumberChar c = false

/-- The text is read as these tokens, whatever follows it. -/
def Spells (t : Text) (ks : List Token) : Prop :=
  ∀ r, EndsNumber r → tokens (t.map some ++ r) = (tokens r).map (ks ++ ·)

theorem endsNumber_nil : EndsNumber [] := by
  intro c hc
  cases hc

theorem endsNumber_cons {c : Char} (h : isNumberChar c = false) (r : List (Option Char)) :
    EndsNumber (some c :: r) := by
  intro d hd
  cases hd
  exact h

theorem cutNumber_of_endsNumber {r : List (Option Char)} (h : EndsNumber r) :
    cutNumber r = ([], r) := by
  cases r with
  | nil => rfl
  | cons x r =>
    cases x with
    | none => rfl
    | some c =>
      have hc := h c rfl
      simp [cutNumber, hc]

theorem spells_of_token? {c : Char} {t : Text} {k : Token} (hc : isSpace (some c) = false)
    (hk : ∀ r, token? (some c) (t.map some ++ r) = some (k, r)) : Spells (c :: t) [k] := by
  intro r _
  exact tokens_cons_of_token? hc (hk r)

/-- A token of one character separates what stands on its sides. -/
theorem Spells.cons {c : Char} {k : Token} {u : Text} {ls : List Token} (hu : Spells u ls)
    (hc : isSpace (some c) = false) (hk : ∀ r, token? (some c) r = some (k, r)) :
    Spells (c :: u) (k :: ls) := by
  intro r hr
  have h := tokens_cons_of_token? hc (hk (u.map some ++ r))
  rw [hu r hr, Option.map_map] at h
  exact h

theorem Spells.append_cons {t u : Text} {c : Char} {ks ls : List Token} (ht : Spells t ks)
    (hu : Spells (c :: u) ls) (hc : isNumberChar c = false) : Spells (t ++ c :: u) (ks ++ ls) := by
  intro r hr
  have h := ht ((c :: u).map some ++ r) (endsNumber_cons hc _)
  rw [hu r hr, Option.map_map] at h
  rw [List.map_append, List.append_assoc, h]
  congr 1
  funext ms
  simp

theorem spells_singleton {c : Char} {k : Token} (hc : isSpace (some c) = false)
    (hk : ∀ r, token? (some c) r = some (k, r)) : Spells [c] [k] :=
  spells_of_token? hc hk

theorem spells_number : Spells ['0'] [.number] := by
  intro r hr
  have hk : token? (some '0') r = some (.number, r) := by
    show (if isNumber ('0' :: (cutNumber r).1) then _ else _) = _
    rw [cutNumber_of_endsNumber hr]
    exact if_pos (by decide : isNumber ['0'] = true)
  exact tokens_cons_of_token? (by decide) hk

theorem spells_quote (s : Option Text) : Spells (quote s) [.string s] := by
  obtain ⟨body, hq, hk⟩ := exists_quote_eq s
  rw [hq]
  exact spells_of_token? (by decide) hk

/-! ## 4. Values -/

/-- The tokens of parts with a comma between neighbours. -/
def separated : List (List Token) → List Token
  | [] => []
  | ks :: rest => ks ++ rest.flatMap (.comma :: ·)

mutual

/-- The tokens that a value is written with. -/
def written : Json → List Token
  | .null => [.null]
  | .bool b => [.bool b]
  | .number => [.number]
  | .string s => [.string s]
  | .list items => .openList :: (separated (writtenItems items) ++ [.closeList])
  | .object members => .openObject :: (separated (writtenMembers members) ++ [.closeObject])

def writtenItems : List Json → List (List Token)
  | [] => []
  | v :: vs => written v :: writtenItems vs

def writtenMembers : List (Option Text × Json) → List (List Token)
  | [] => []
  | (name, v) :: ms => (.string name :: .colon :: written v) :: writtenMembers ms

end

theorem writtenItems_eq_map (items : List Json) : writtenItems items = items.map written := by
  induction items with
  | nil => rfl
  | cons v vs ih => rw [writtenItems, ih, List.map_cons]

def writtenMember (m : Option Text × Json) : List Token :=
  .string m.1 :: .colon :: written m.2

theorem writtenMembers_eq_map (members : List (Option Text × Json)) :
    writtenMembers members = members.map writtenMember := by
  induction members with
  | nil => rfl
  | cons m ms ih => rw [writtenMembers, ih, List.map_cons, writtenMember]

/-- Parts with commas between them, and a closing text behind them. -/
theorem spells_join_append {α : Type} {parts : List α} {text : α → Text} {ks : α → List Token}
    {c : Char} {closing : Text} {k : Token} (hp : ∀ x ∈ parts, Spells (text x) (ks x))
    (hn : isNumberChar c = false) (hclose : Spells (c :: closing) [k]) :
    Spells (Text.join [','] (parts.map text) ++ c :: closing)
      (separated (parts.map ks) ++ [k]) := by
  -- What stands behind a part begins with the comma of the next part or with the closing text.
  have hrest : ∀ rest : List α, (∀ x ∈ rest, Spells (text x) (ks x)) → ∃ d u,
      rest.flatMap (fun x => ',' :: text x) ++ c :: closing = d :: u ∧ isNumberChar d = false ∧
        Spells (d :: u) (rest.flatMap (fun x => .comma :: ks x) ++ [k]) := by
    intro rest
    induction rest with
    | nil => exact fun _ => ⟨c, closing, rfl, hn, hclose⟩
    | cons x rest ih =>
      intro h
      obtain ⟨d, u, hd, hdn, hdu⟩ := ih fun y hy => h y (List.mem_cons_of_mem x hy)
      have hx := (h x List.mem_cons_self).append_cons hdu hdn
      refine ⟨',', text x ++ d :: u, by rw [← hd]; simp, by decide, ?_⟩
      have hcomma := hx.cons (c := ',') (k := .comma) (by decide) (fun _ => rfl)
      simpa using hcomma
  cases parts with
  | nil => exact hclose
  | cons x rest =>
    obtain ⟨d, u, hd, hdn, hdu⟩ := hrest rest fun y hy => hp y (List.mem_cons_of_mem x hy)
    have hx := (hp x List.mem_cons_self).append_cons hdu hdn
    rw [← hd] at hx
    rw [List.map_cons, Text.join_singleton_cons, List.map_cons, separated]
    simpa [List.flatMap_map] using hx

theorem spells_compact (v : Json) : Spells (compact v) (written v) := by
  induction v using inductionOn with
  | null => exact spells_of_token? (by decide) (fun r => rfl)
  | bool b =>
    cases b with
    | true => exact spells_of_token? (by decide) (fun r => rfl)
    | false => exact spells_of_token? (by decide) (fun r => rfl)
  | number => exact spells_number
  | string s => exact spells_quote s
  | list items ih =>
    rw [compact, written, compactItems_eq_map, writtenItems_eq_map]
    have hclose : Spells [']'] [.closeList] := spells_singleton (by decide) (fun r => rfl)
    exact (spells_join_append ih (by decide) hclose).cons (by decide) (fun r => rfl)
  | object members ih =>
    have hm : ∀ m ∈ members, Spells (compactMember m) (writtenMember m) := by
      intro m hm
      have hv := (ih m hm).cons (c := ':') (k := .colon) (by decide) (fun r => rfl)
      exact (spells_quote m.1).append_cons hv (by decide)
    rw [compact, written, compactMembers_eq_map, writtenMembers_eq_map]
    have hclose : Spells ['}'] [.closeObject] := spells_singleton (by decide) (fun r => rfl)
    exact (spells_join_append hm (by decide) hclose).cons (by decide) (fun r => rfl)

end Json

end TemplateTypes
