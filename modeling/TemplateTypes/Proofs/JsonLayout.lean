import TemplateTypes.Proofs.JsonRoundTrip

/-!
# JSON layout — reading back what was printed on many lines

A value laid out on many lines spells the same tokens as on one line: between tokens there is only
white space more.  Main statement: it is read back as it was (`parse?_pretty_append_lineFeed`),
also where the last line is closed by a line feed.
-/

namespace TemplateTypes

/-- What stands behind every separator and in front of all parts belongs to the parts. -/
theorem Text.append_join_cons (d : Char) (w p : Text) (ps : List Text) :
    w ++ join (d :: w) (p :: ps) = join [d] ((p :: ps).map (w ++ ·)) := by
  rw [join_cons, List.map_cons, join_singleton_cons, List.flatMap_map, List.append_assoc]
  rfl

namespace Json

/-! ## 1. White space between tokens -/

def AllSpace (w : Text) : Prop := ∀ c ∈ w, isSpace (some c) = true

theorem allSpace_lineFeed_indent (level : ℕ) : AllSpace ('\n' :: indent level) := by
  intro c hc
  rcases List.mem_cons.1 hc with rfl | hc
  · decide
  · rw [(List.mem_replicate.1 hc).2]
    decide

theorem AllSpace.tokens_append {w : Text} (hw : AllSpace w) (r : List (Option Char)) :
    tokens (w.map some ++ r) = tokens r :=
  tokens_append_of_isSpace (List.forall_mem_map.2 hw) r

theorem AllSpace.spells {w : Text} (hw : AllSpace w) : Spells w [] := by
  intro r _
  rw [hw.tokens_append]
  exact Option.map_id'.symm

theorem Spells.space_append {w t : Text} {ks : List Token} (ht : Spells t ks) (hw : AllSpace w) :
    Spells (w ++ t) ks := by
  intro r hr
  rw [List.map_append, List.append_assoc, hw.tokens_append, ht r hr]

/-! ## 2. Containers -/

theorem prettyItems_eq_map (level : ℕ) (items : List Json) :
    prettyItems level items = items.map (prettyAt level) := by
  induction items with
  | nil => rfl
  | cons v vs ih => rw [prettyItems, ih, List.map_cons]

def prettyMember (level : ℕ) (m : Option Text × Json) : Text :=
  quote m.1 ++ ':' :: ' ' :: prettyAt level m.2

theorem prettyMembers_eq_map (level : ℕ) (members : List (Option Text × Json)) :
    prettyMembers level members = members.map (prettyMember level) := by
  induction members with
  | nil => rfl
  | cons m ms ih => rw [prettyMembers, ih, List.map_cons, prettyMember]

/-- A container with parts is one on a single line whose parts and closing character stand behind
line feeds. -/
theorem enclose_cons (opening closing : Char) (level : ℕ) (p : Text) (ps : List Text) :
    enclose opening closing level (p :: ps) =
      opening :: (Text.join [','] ((p :: ps).map (('\n' :: indent (level + 1)) ++ ·)) ++
        '\n' :: (indent level ++ [closing])) := by
  rw [← Text.append_join_cons, enclose, if_neg (by simp)]
  simp

theorem spells_enclose {α : Type} {parts : List α} {text : α → Text} {ks : α → List Token}
    {opening closing : Char} {k l : Token} (level : ℕ) (hp : ∀ x ∈ parts, Spells (text x) (ks x))
    (ho : isSpace (some opening) = false) (hk : ∀ r, token? (some opening) r = some (k, r))
    (hc : Spells [closing] [l]) :
    Spells (enclose opening closing level (parts.map text))
      (k :: (separated (parts.map ks) ++ [l])) := by
  cases parts with
  | nil => exact hc.cons ho hk
  | cons x rest =>
    have hclose : Spells ('\n' :: (indent level ++ [closing])) [l] :=
      hc.space_append (allSpace_lineFeed_indent level)
    have hparts : ∀ y ∈ x :: rest, Spells (('\n' :: indent (level + 1)) ++ text y) (ks y) :=
      fun y hy => (hp y hy).space_append (allSpace_lineFeed_indent (level + 1))
    rw [List.map_cons, enclose_cons, ← List.map_cons, List.map_map]
    exact (spells_join_append hparts (by decide) hclose).cons ho hk

/-! ## 3. Values -/

theorem spells_prettyAt (v : Json) (level : ℕ) : Spells (prettyAt level v) (written v) := by
  -- The parts of a container stand one level deeper, so the level varies along the induction.
  induction v using inductionOn generalizing level with
  | null => exact spells_compact .null
  | bool b => exact spells_compact (.bool b)
  | number => exact spells_number
  | string s => exact spells_quote s
  | list items ih =>
    rw [prettyAt, written, prettyItems_eq_map, writtenItems_eq_map]
    exact spells_enclose level (fun v hv => ih v hv (level + 1)) (by decide) (fun r => rfl)
      (spells_singleton (by decide) fun r => rfl)
  | object members ih =>
    have hm : ∀ m ∈ members, Spells (prettyMember (level + 1) m) (writtenMember m) := by
      intro m hm
      have hspace : AllSpace [' '] := by
        intro c hc
        rw [List.mem_singleton.1 hc]
        decide
      have hv := (ih m hm (level + 1)).space_append hspace
      have hcolon := hv.cons (c := ':') (k := .colon) (by decide) (fun r => rfl)
      exact (spells_quote m.1).append_cons hcolon (by decide)
    rw [prettyAt, written, prettyMembers_eq_map, writtenMembers_eq_map]
    exact spells_enclose level hm (by decide) (fun r => rfl)
      (spells_singleton (by decide) fun r => rfl)

theorem parse?_pretty_append_lineFeed (v : Json) : parse? (pretty v ++ ['\n']) = some v := by
  have hspace : Spells ['\n'] [] := (allSpace_lineFeed_indent 0).spells
  have h := (spells_prettyAt v 0).append_cons hspace (by decide)
  rw [List.append_nil] at h
  exact h.parse?

end Json

end TemplateTypes
