import Vetting.Proofs.Command.Stopping
import Vetting.Proofs.Content.Ids

namespace Vetting

namespace EntryDocument

open Json (Members)

variable {contentType : ContentType} {document chosen : Members} {locale : Option String}

-- The object that holds the values of a document.
inductive Chosen (contentType : ContentType) (document : Members) : Members → Prop where
  | wrapped {inner : Members} (undeclared : "fields" ∉ contentType.fieldIds)
      (there : document.get? "fields" = some (.object inner)) : Chosen contentType document inner
  | flat (bare : "fields" ∈ contentType.fieldIds ∨
      ∀ inner, document.get? "fields" ≠ some (.object inner)) :
      Chosen contentType document document

-- What a value counts for under a locale, or without any.
inductive ReadsAs : Option String → Json → Json → Prop where
  | kept (value : Json) : ReadsAs none value value
  | shared {locale : Option String} {value : Json} (plain : ∀ members, value ≠ .object members) :
      ReadsAs locale value value
  | localized {locale : String} {members : Members} {value : Json}
      (there : members.get? locale = some value) : ReadsAs (some locale) (.object members) value
  | missing {locale : String} {members : Members} (absent : members.get? locale = none) :
      ReadsAs (some locale) (.object members) .null

theorem chosen_unwrap (contentType : ContentType) (document : Members) :
    Chosen contentType document (unwrap contentType document) := by
  unfold unwrap
  split
  · next undeclared there => exact .wrapped (ContentType.field?_eq_none_iff.mp undeclared) there
  · next other =>
    apply Chosen.flat
    by_contra h
    obtain ⟨undeclared, wraps⟩ := not_or.mp h
    obtain ⟨inner, there⟩ := not_forall_not.mp wraps
    exact other inner (ContentType.field?_eq_none_iff.mpr undeclared) there

theorem eq_unwrap (h : Chosen contentType document chosen) :
    chosen = unwrap contentType document := by
  cases h with
  | wrapped undeclared there =>
    simp only [unwrap, ContentType.field?_eq_none_iff.mpr undeclared, there]
  | flat bare =>
    unfold unwrap
    split
    · next undeclared there =>
      obtain declared | plain := bare
      · exact absurd declared (ContentType.field?_eq_none_iff.mp undeclared)
      · exact absurd there (plain _)
    · rfl

-- A value as it is read.
def valueFor (locale : Option String) (value : Json) : Json :=
  locale.elim value (localize · value)

theorem readsAs_valueFor (locale : Option String) (value : Json) :
    ReadsAs locale value (valueFor locale value) := by
  cases locale with
  | none => exact .kept value
  | some locale =>
    change ReadsAs (some locale) value (localize locale value)
    unfold localize
    split
    · next members =>
      cases there : Members.get? members locale with
      | none => exact .missing there
      | some value => exact .localized there
    · next plain => exact .shared plain

theorem values?_object (contentType : ContentType) (locale : Option String) (document : Members) :
    values? contentType locale (.object document) =
      some ((unwrap contentType document).map fun (id, value) => (id, valueFor locale value)) := by
  cases locale with
  | none => simp [values?, valueFor]
  | some locale => rfl

-- What some values are when they are taken from an object.
structure TakenFrom (chosen : Members) (locale : Option String) (values : Members) : Prop where
  keys : values.keys = chosen.keys
  reads : ∀ {key value}, chosen.get? key = some value →
    ∃ read, values.get? key = some read ∧ ReadsAs locale value read

theorem takenFrom_unwrap (contentType : ContentType) (locale : Option String)
    (document : Members) :
    ∃ values, values? contentType locale (.object document) = some values ∧
      TakenFrom (unwrap contentType document) locale values := by
  refine ⟨_, values?_object contentType locale document, ?_, ?_⟩
  · simp [Members.keys]
  · intro key value there
    refine ⟨valueFor locale value, ?_, readsAs_valueFor locale value⟩
    rw [Members.get?_map, there, Option.map_some]

-- A document that wraps an object has the values of the object.
theorem values?_wrapped {inner : Members} (undeclared : "fields" ∉ contentType.fieldIds)
    (there : document.get? "fields" = some (.object inner))
    (bare : ∀ members, inner.get? "fields" ≠ some (.object members)) :
    values? contentType locale (.object document) = values? contentType locale (.object inner) := by
  have outer : inner = unwrap contentType document := eq_unwrap (.wrapped undeclared there)
  have itself : inner = unwrap contentType inner := eq_unwrap (.flat (.inr bare))
  rw [values?_object, values?_object, ← outer, ← itself]

end EntryDocument

namespace Environment

-- Nothing is read of an entry's file but the values of its document.
theorem entry_congr {environment : Environment} {contentType : ContentType}
    {files other : EntryFiles} {document document' : Json}
    (same : files.contentType = other.contentType)
    (htype : environment.contentType files.contentType = .ok contentType)
    (hjson : environment.json files.entry = .ok document)
    (hjson' : environment.json other.entry = .ok document')
    (values : EntryDocument.values? contentType files.locale document =
      EntryDocument.values? contentType other.locale document') :
    environment.entry files = environment.entry other := by
  unfold entry
  simp only [← same, htype, hjson, hjson', values, bind, Except.bind]

end Environment

namespace EntryDocument

open Json (Members)

-- The values of a document have the keys of the object that holds them: the one under `fields`, if
-- there is one and no field of that name is declared, and else the document. Under a locale an
-- object counts for what it has there, or for null, and any other value for itself. So where no
-- field `fields` is declared, it makes no difference to validation whether an object, which wraps
-- none itself, is wrapped or stands by itself.
theorem values_taken_from_chosen (contentType : ContentType) (locale : Option String) :
    (∀ document, ∃ chosen, Chosen contentType document chosen) ∧
    (∀ document chosen, Chosen contentType document chosen →
      ∃ values, values? contentType locale (.object document) = some values ∧
        TakenFrom chosen locale values) ∧
    ∀ document inner, "fields" ∉ contentType.fieldIds →
      Members.get? document "fields" = some (.object inner) →
      (∀ members, Members.get? inner "fields" ≠ some (.object members)) →
      values? contentType locale (.object document) = values? contentType locale (.object inner) ∧
      ∀ environment options files flat format, files.locale = locale →
        environment.contentType files.contentType = .ok contentType →
        environment.json files.entry = .ok (.object document) →
        environment.json flat = .ok (.object inner) →
        Command.run environment options (.validate files format) =
          Command.run environment options (.validate { files with entry := flat } format) := by
  refine ⟨fun document => ⟨_, chosen_unwrap contentType document⟩, ?_, ?_⟩
  · intro document chosen holds
    obtain rfl := eq_unwrap holds
    exact takenFrom_unwrap contentType locale document
  · intro document inner undeclared there bare
    have same : values? contentType locale (.object document) =
        values? contentType locale (.object inner) := values?_wrapped undeclared there bare
    refine ⟨same, fun environment options files flat format hlocale htype hjson hjson' => ?_⟩
    subst hlocale
    have entry : environment.entry files = environment.entry { files with entry := flat } :=
      Environment.entry_congr rfl htype hjson hjson' same
    simp only [Command.run, Command.runValidate, entry]

-- What the title counts for is an object with the locale again; the slug is not given for it.
def localizedValues : Members :=
  [("slug", .object [("en", .string "draft")]),
    ("title", .object [("de", .object [("de", .string "Entwurf")])])]

def wrappedValues : Members :=
  [("fields", .object localizedValues), ("sys", .object [("id", .string "e1")])]

def localizedText : String :=
  "\x7b\"slug\":\x7b\"en\":\"draft\"\x7d," ++
  "\"title\":\x7b\"de\":\x7b\"de\":\"Entwurf\"\x7d\x7d\x7d"

def wrappedText : String :=
  "\x7b\"sys\":\x7b\"id\":\"e1\"\x7d,\"fields\":" ++ localizedText ++ "\x7d"

open Command (titleContentType titleContentTypeText json_titleContentType parse_titleContentType)

def wrappedEnvironment : Environment where
  read
    | "type" => some titleContentTypeText
    | "wrapped" => some wrappedText
    | "flat" => some localizedText
    | _ => none
  canAppend _ := false

def wrappedFiles : EntryFiles :=
  { contentType := "type", entry := "wrapped", locale := some "de" }

theorem contentType_wrappedEnvironment :
    wrappedEnvironment.contentType "type" = .ok titleContentType := by
  have text : wrappedEnvironment.text "type" = .ok titleContentTypeText := rfl
  obtain ⟨_, ⟨⟩, parsed⟩ := Outcome.bind_eq_ok.mp json_titleContentType
  have parsed := Outcome.mapError_eq_ok.mp parsed
  exact Environment.contentType_eq_ok (Environment.json_eq_ok text parsed) parse_titleContentType

theorem json_wrapped : wrappedEnvironment.json "wrapped" = .ok (.object wrappedValues) := by
  have text : wrappedEnvironment.text "wrapped" = .ok wrappedText := rfl
  have parsed : Json.parse wrappedText = .ok (.object wrappedValues) := by cbv
  exact Environment.json_eq_ok text parsed

theorem json_flat : wrappedEnvironment.json "flat" = .ok (.object localizedValues) := by
  have text : wrappedEnvironment.text "flat" = .ok localizedText := rfl
  have parsed : Json.parse localizedText = .ok (.object localizedValues) := by cbv
  exact Environment.json_eq_ok text parsed

theorem values_taken_from_chosen_localized :
    let values : Members := [("slug", .null), ("title", .object [("de", .string "Entwurf")])]
    "fields" ∉ titleContentType.fieldIds ∧
      Members.get? wrappedValues "fields" = some (.object localizedValues) ∧
      (∀ members, Members.get? localizedValues "fields" ≠ some (.object members)) ∧
      Chosen titleContentType wrappedValues localizedValues ∧
      values? titleContentType (some "de") (.object wrappedValues) = some values ∧
      TakenFrom localizedValues (some "de") values ∧
      values? titleContentType (some "de") (.object localizedValues) = some values ∧
      Command.run wrappedEnvironment {} (.validate wrappedFiles .json) =
        Command.run wrappedEnvironment {}
          (.validate { wrappedFiles with entry := "flat" } .json) := by
  intro values
  have undeclared : "fields" ∉ titleContentType.fieldIds := by decide
  have there : Members.get? wrappedValues "fields" = some (.object localizedValues) := rfl
  have absent : Members.get? localizedValues "fields" = none := rfl
  have bare : ∀ members, Members.get? localizedValues "fields" ≠ some (.object members) := by
    simp [absent]
  have holds : Chosen titleContentType wrappedValues localizedValues := .wrapped undeclared there
  have hvalues : values? titleContentType (some "de") (.object wrappedValues) = some values := rfl
  obtain ⟨-, taken, alike⟩ := values_taken_from_chosen titleContentType (some "de")
  obtain ⟨_, hread, hfrom⟩ := taken _ _ holds
  cases Option.some.inj (hread.symm.trans hvalues)
  obtain ⟨same, validated⟩ := alike _ _ undeclared there bare
  exact ⟨undeclared, there, bare, holds, hvalues, hfrom, same.symm.trans hvalues,
    validated wrappedEnvironment {} wrappedFiles "flat" .json rfl contentType_wrappedEnvironment
      json_wrapped json_flat⟩

end EntryDocument

end Vetting
