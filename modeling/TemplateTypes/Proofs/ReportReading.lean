import TemplateTypes.Proofs.InsertionOrder
import TemplateTypes.Proofs.JsonLayout
import TemplateTypes.Proofs.Replies
import TemplateTypes.Rendering

/-!
# Report reading — what the JSON report of a template tells

A report is an object with four lists, and its records are objects again.  Reading it by the names
of the members gives back everything that was written.  Main statement: the report tells the types
block and the macros of a template and nothing else, so two templates have the same report just in
case they have both in common; and the other format is decided by what the report tells.
-/

namespace TemplateTypes

/-! ## 1. Reading a report -/

namespace Json

/-- A string that is a text. -/
def text? (j : Json) : Option Text :=
  required? (some j)

theorem text?_text (t : Text) : text? (text t) = some t := rfl

end Json

/-- A declaration as a name and a value, and nothing of how it was found. -/
def Report.declarationOfFields? : List (Option Json) → Option (Text × Text)
  | [name, type] =>
    (Json.required? name).bind fun name => (Json.required? type).map fun type => (name, type)
  | _ => none

def Report.declarationOfJson? (j : Json) : Option (Text × Text) :=
  (j.fields? ["name".toList, "type".toList]).bind declarationOfFields?

def Report.signatureOfFields? : List (Option Json) → Option MacroSignature
  | [name, params, docstring] =>
    (Json.required? name).bind fun name =>
      (Json.required? params).bind fun params =>
        (Json.optional? docstring).map fun docstring => ⟨name, params, docstring⟩
  | _ => none

def Report.signatureOfJson? (j : Json) : Option MacroSignature :=
  (j.fields? ["name".toList, "params".toList, "docstring".toList]).bind signatureOfFields?

/-- What a report lists; the declarations stand in a list and no longer in a dictionary. -/
structure Listing where
  imports : List Text
  annotations : List (Text × Text)
  malformed : List Text
  macros : List MacroSignature
deriving DecidableEq

namespace Listing

def fieldNames : List Text :=
  ["imports".toList, "annotations".toList, "malformed".toList, "macros".toList]

def ofFields? : List (Option Json) → Option Listing
  | [some imports, some annotations, some malformed, some macros] =>
    (Json.listOf? Json.text? imports).bind fun imports =>
      (Json.listOf? Report.declarationOfJson? annotations).bind fun annotations =>
        (Json.listOf? Json.text? malformed).bind fun malformed =>
          (Json.listOf? Report.signatureOfJson? macros).map fun macros =>
            ⟨imports, annotations, malformed, macros⟩
  | _ => none

def ofJson? (j : Json) : Option Listing :=
  (j.fields? fieldNames).bind ofFields?

def ofText? (t : Text) : Option Listing :=
  (Json.parse? t).bind ofJson?

end Listing

namespace Report

def listing (r : Report) : Listing :=
  ⟨r.block.imports, r.block.annotations.entries, r.block.malformed, r.macros⟩

theorem declarationOfJson?_toJson (e : Text × Text) :
    declarationOfJson? (declarationToJson e) = some e := by
  have hf : Json.fields? ["name".toList, "type".toList] (declarationToJson e) =
      some [some (.text e.1), some (.text e.2)] :=
    Json.fields?_record [_, _] (by show ["name".toList, "type".toList].Nodup; decide)
  rw [declarationOfJson?, hf]
  rfl

theorem signatureOfJson?_toJson (m : MacroSignature) :
    signatureOfJson? (signatureToJson m) = some m := by
  have hf : Json.fields? ["name".toList, "params".toList, "docstring".toList]
      (signatureToJson m) =
        some [some (.text m.name), some (.text m.params), some (.textOrNull m.docstring)] :=
    Json.fields?_record [_, _, _]
      (by show ["name".toList, "params".toList, "docstring".toList].Nodup; decide)
  rw [signatureOfJson?, hf, Option.bind_some, signatureOfFields?, Json.optional?_textOrNull]
  rfl

theorem ofJson?_toJson (r : Report) : Listing.ofJson? r.toJson = some r.listing := by
  have hf : Json.fields? Listing.fieldNames r.toJson =
      some [some (.list (r.block.imports.map .text)),
        some (.list (r.block.annotations.entries.map declarationToJson)),
        some (.list (r.block.malformed.map .text)), some (.list (r.macros.map signatureToJson))] :=
    Json.fields?_record [_, _, _, _] (by show Listing.fieldNames.Nodup; decide)
  rw [Listing.ofJson?, hf, Option.bind_some, Listing.ofFields?,
    Json.listOf?_list_map Json.text?_text, Json.listOf?_list_map declarationOfJson?_toJson,
    Json.listOf?_list_map Json.text?_text, Json.listOf?_list_map signatureOfJson?_toJson]
  rfl

theorem ofText?_render (r : Report) : Listing.ofText? r.render = some r.listing := by
  rw [Listing.ofText?, render, Json.parse?_pretty_append_lineFeed]
  exact ofJson?_toJson r

theorem listing_injective : Function.Injective listing := by
  rintro ⟨⟨imports, annotations, malformed⟩, macros⟩
    ⟨⟨imports', annotations', malformed'⟩, macros'⟩ h
  simp only [listing, Listing.mk.injEq] at h
  obtain ⟨hi, ha, hm, hs⟩ := h
  rw [hi, Dictionary.ext_entries ha, hm, hs]

theorem render_injective : Function.Injective render := by
  intro r s h
  have hl := ofText?_render r
  rw [h, ofText?_render, Option.some.injEq] at hl
  exact (listing_injective hl).symm

end Report

/-! ## 2. The two formats -/

namespace Format

theorem render_json (document : Text) :
    render .json document = .ok (Report.ofDocument document).render := rfl

theorem render_stub (document : Text) :
    render .stub document =
      if (TypesBlock.ofDocument document).malformed = [] then
        .ok (Stub.ofBlock (TypesBlock.ofDocument document))
      else .error (.malformed (TypesBlock.ofDocument document).malformed) := by
  by_cases h : (TypesBlock.ofDocument document).malformed = []
  · simp only [render, Stub.ofDocument, if_pos h]
  · simp only [render, Stub.ofDocument, if_neg h]

theorem ofText?_render_json (document other : Text) :
    ∃ text text' listing, render .json document = .ok text ∧ render .json other = .ok text' ∧
      (text = text' ↔
        TypesBlock.ofDocument document = TypesBlock.ofDocument other ∧
          MacroSignature.ofDocument document = MacroSignature.ofDocument other) ∧
      Listing.ofText? text = some listing ∧
      listing.imports = (TypesBlock.ofDocument document).imports ∧
      listing.annotations = (TypesBlock.ofDocument document).annotations.entries ∧
      listing.malformed = (TypesBlock.ofDocument document).malformed ∧
      listing.macros = MacroSignature.ofDocument document ∧
      render .stub document =
        if listing.malformed = [] then
          .ok (Stub.render listing.imports (.ofList listing.annotations))
        else .error (.malformed listing.malformed) := by
  refine ⟨_, _, (Report.ofDocument document).listing, render_json document, render_json other, ?_,
    Report.ofText?_render _, rfl, rfl, rfl, rfl, ?_⟩
  · rw [Report.render_injective.eq_iff, Report.ofDocument, Report.ofDocument, Report.mk.injEq]
  · rw [render_stub, Stub.ofBlock, Report.listing, Dictionary.ofList_entries]
    rfl

/-- A docstring that is there and one that is not. -/
example : (Listing.ofText? (Report.ofDocument
      ("\x7b# @typedmacro f(a=\"\\\") -> str\n twice\n it #\x7d".toList ++
        "\x7b# @typedmacro g() #\x7d".toList)).render).map Listing.macros =
    some [⟨['f'], "a=\"\\\"".toList, some "twice it".toList⟩, ⟨['g'], [], none⟩] := by
  decide +kernel

end Format

end TemplateTypes
