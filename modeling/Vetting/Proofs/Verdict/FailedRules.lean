import Vetting.Proofs.Content.Ids
import Vetting.Proofs.Verdict.Reading
import Vetting.Verdict.Markdown

namespace Vetting

-- A rule stands at a position of a field, and the check that was compiled from it, which stands at
-- the same position, does not pass the value of the field.
def Field.FailsAt (options : Options) (checklist : Checklist) (entry : Entry) (field : Field)
    (position : Nat) (rule : Rule) : Prop :=
  field.rules[position]? = some rule ∧
  ∃ checks check value, checklist.get? field.id = some checks ∧ checks[position]? = some check ∧
    rule.compile options = .ok check ∧ entry.value? field.id = some value ∧
    check.test value = .ok false

-- The verdict on a field: its positions are those where a rule fails, in increasing order.
structure Field.Marked (options : Options) (checklist : Checklist) (entry : Entry) (field : Field)
    (verdict : FieldVerdict) : Prop where
  fieldId : verdict.fieldId = field.id
  valid : verdict.valid = true ↔ verdict.failed = []
  increasing : verdict.failed.Pairwise (· < ·)
  exact_failed : ∀ position, position ∈ verdict.failed ↔
    ∃ rule, field.FailsAt options checklist entry position rule

-- The failed positions of the invalid fields, in the order of the content type.
def Verdict.failedPlaces (contentType : ContentType) (verdict : Verdict) : List (Field × Nat) :=
  (contentType.fields.zip verdict.fields).flatMap fun (field, result) =>
    if result.valid then [] else result.failed.map (field, ·)

-- A line gives the text of the rule that fails at a place, and not just the number of the place.
def NamesRule (options : Options) (checklist : Checklist) (entry : Entry) (place : Field × Nat)
    (line : String) : Prop :=
  ∃ rule, place.1.FailsAt options checklist entry place.2 rule ∧
    line = s!"- {place.1.id}: {rule.text}" ∧ rule.text ≠ s!"rule #{place.2}"

theorem Checklist.get?_of_compile {options : Options} {contentType : ContentType}
    {checklist : Checklist} {warnings : List Problem} (distinct : contentType.fieldIds.Nodup)
    (h : compile options contentType.fields = .ok (checklist, warnings)) {field : Field}
    (hf : field ∈ contentType.fields) :
    checklist.get? field.id = some (field.checks options) := by
  obtain ⟨hfields, _⟩ := compile_eq_ok h
  have found : contentType.fields.find? (·.id == field.id) = some field :=
    ContentType.field?_of_mem distinct hf
  unfold get?
  rw [hfields, List.find?_map]
  change ((contentType.fields.find? (·.id == field.id)).map _).map _ = _
  rw [found]
  rfl

section Marks

variable {options : Options} {checklist : Checklist} {entry : Entry} {field : Field}
  {verdict : FieldVerdict}

-- Rules, checks and answers stand position by position.
theorem Field.Sound.failsAt_iff (sound : field.Sound options)
    (known : checklist.get? field.id = some (field.checks options)) {value : Json}
    (hvalue : entry.value? field.id = some value) {answers : List Bool}
    (answered : List.Forall₂ (fun check passed => check.test value = .ok passed)
      (field.checks options) answers) {position : Nat} :
    answers[position]? = some false ↔
      ∃ rule, field.FailsAt options checklist entry position rule := by
  have compiled := sound.forall₂_rules
  constructor
  · intro h
    obtain ⟨hanswer, no⟩ := List.getElem?_eq_some_iff.mp h
    have hcheck : position < (field.checks options).length := answered.length_eq ▸ hanswer
    have hrule : position < field.rules.length := compiled.length_eq ▸ hcheck
    have test := answered.get hcheck hanswer
    rw [List.get_eq_getElem, List.get_eq_getElem, no] at test
    exact ⟨field.rules[position], List.getElem?_eq_getElem hrule, _,
      (field.checks options)[position], value, known, List.getElem?_eq_getElem hcheck,
      compiled.get hrule hcheck, hvalue, test⟩
  · rintro ⟨rule, _, checks, check, given, hchecks, hcheck, _, hgiven, test⟩
    obtain rfl : field.checks options = checks := Option.some.inj (known.symm.trans hchecks)
    obtain rfl : value = given := Option.some.inj (hvalue.symm.trans hgiven)
    obtain ⟨hlt, rfl⟩ := List.getElem?_eq_some_iff.mp hcheck
    have hanswer : position < answers.length := answered.length_eq ▸ hlt
    have answer := answered.get hlt hanswer
    rw [List.get_eq_getElem, List.get_eq_getElem, test] at answer
    rw [List.getElem?_eq_getElem hanswer, Except.ok.inj answer]

theorem Field.Judged.marked (sound : field.Sound options)
    (known : checklist.get? field.id = some (field.checks options))
    (judged : field.Judged options entry verdict) :
    field.Marked options checklist entry verdict := by
  obtain ⟨value, hvalue, hverdict⟩ := judged
  obtain ⟨answers, answered, rfl⟩ := FieldChecks.evaluate_eq_ok hverdict
  exact {
    fieldId := rfl
    valid := by rw [← positionsOfNo_isEmpty 0, List.isEmpty_iff]
    increasing := positionsOfNo_increasing 0 answers
    exact_failed := fun position =>
      mem_positionsOfNo.trans (sound.failsAt_iff known hvalue answered) }

end Marks

namespace Verdict

-- No rule is described by its number alone.
theorem text_ne_number (rule : Rule) (position : Nat) : rule.text ≠ s!"rule #{position}" := by
  intro h
  have second := congrArg (fun text => text.toList[1]?) h
  cases rule <;> simp [Rule.text, ToString.toString] at second

-- Where each position has its rule, the lines of a field name the rules.
theorem forall₂_failedRules {options : Options} {checklist : Checklist} {entry : Entry}
    {field : Field} {result : FieldVerdict} (marked : field.Marked options checklist entry result) :
    List.Forall₂ (NamesRule options checklist entry) (result.failed.map (field, ·))
      (failedRules field result) := by
  unfold failedRules
  rw [List.forall₂_map_left_iff, List.forall₂_map_right_iff, List.forall₂_same]
  intro position hp
  obtain ⟨rule, fails⟩ := (marked.exact_failed position).mp hp
  refine ⟨rule, fails, ?_, text_ne_number rule position⟩
  rw [fails.1, marked.fieldId]
  rfl

-- The lines of all fields name the rules at all failed places.
theorem forall₂_failures {options : Options} {checklist : Checklist} {entry : Entry}
    (distinct : entry.contentType.fieldIds.Nodup) {verdict : Verdict}
    (marked : List.Forall₂ (Field.Marked options checklist entry) entry.contentType.fields
      verdict.fields) :
    List.Forall₂ (NamesRule options checklist entry) (verdict.failedPlaces entry.contentType)
      (failures entry.contentType verdict) := by
  have known : ∀ field ∈ entry.contentType.fields,
      entry.contentType.field? field.id = some field :=
    fun field hf => ContentType.field?_of_mem distinct hf
  unfold failedPlaces failures failedFields
  generalize entry.contentType.fields = fields at marked known ⊢
  generalize verdict.fields = results at marked ⊢
  induction marked with
  | nil => exact .nil
  | @cons field result fields results hmarked rest ih =>
    obtain ⟨hfield, known⟩ := List.forall_mem_cons.mp known
    rw [← hmarked.fieldId] at hfield
    simp only [List.zip_cons_cons, List.flatMap_cons, List.filter_cons]
    cases hvalid : result.valid with
    | true =>
      -- A valid field has no failed place and no line.
      simpa using ih known
    | false =>
      simp only [Bool.not_false, if_true, List.flatMap_cons, hfield]
      exact List.rel_append (forall₂_failedRules hmarked) (ih known)

-- A verdict that is not valid has a failed place, and a valid one has none.
theorem failedPlaces_eq_nil_iff {options : Options} {checklist : Checklist} {entry : Entry}
    {results : List FieldVerdict}
    (marked : List.Forall₂ (Field.Marked options checklist entry) entry.contentType.fields
      results) :
    (ofFields results).failedPlaces entry.contentType = [] ↔ (ofFields results).valid = true := by
  simp only [failedPlaces, ofFields]
  generalize entry.contentType.fields = fields at marked ⊢
  induction marked with
  | nil => simp
  | @cons field result fields results hmarked _ ih =>
    rw [List.zip_cons_cons, List.flatMap_cons, List.append_eq_nil_iff, ih, List.all_cons,
      Bool.and_eq_true]
    refine and_congr_left' ?_
    cases hvalid : result.valid with
    | true => simp
    | false =>
      have some : result.failed ≠ [] := fun none => by simp [hmarked.valid.mpr none] at hvalid
      simp [some]

-- The part of failed rules is left out exactly if the verdict is valid.
theorem headed_failures {options : Options} {checklist : Checklist} {entry : Entry}
    {results : List FieldVerdict} (distinct : entry.contentType.fieldIds.Nodup)
    (marked : List.Forall₂ (Field.Marked options checklist entry) entry.contentType.fields
      results) :
    headed failedHeading (failures entry.contentType (.ofFields results)) =
      if (ofFields results).valid then []
      else failedHeading :: failures entry.contentType (.ofFields results) ++ [""] := by
  have lines : (failures entry.contentType (.ofFields results)).length =
      ((ofFields results).failedPlaces entry.contentType).length :=
    (forall₂_failures distinct marked).length_eq.symm
  have places := failedPlaces_eq_nil_iff marked
  rw [← List.length_eq_zero_iff, ← lines, List.length_eq_zero_iff] at places
  cases h : failures entry.contentType (.ofFields results) with
  | nil => simp [headed, places.mp h]
  | cons line rest =>
    have invalid : ¬(ofFields results).valid = true := fun valid => by simp [places.mpr valid] at h
    rw [if_neg invalid]
    rfl

-- Only a heading begins like the one of the failed rules.
theorem ne_failedHeading {line : String} (h : line.toList.head? ≠ some '#') :
    line ≠ failedHeading := by
  rintro rfl
  exact h rfl

theorem not_mem_ignoredLines (warnings : List Issue) : failedHeading ∉ ignoredLines warnings := by
  have listed : failedHeading ∉
      warnings.map fun warning => s!"- {warning.path}: {warning.message}" := by
    simp only [List.mem_map, not_exists, not_and]
    intro warning _
    exact ne_failedHeading (by simp [ToString.toString])
  unfold ignoredLines headed
  split
  · exact List.not_mem_nil
  · rw [List.cons_append, List.mem_cons, List.mem_append, List.mem_singleton]
    exact not_or_intro (by decide) (not_or_intro listed (by decide))

theorem not_mem_summaryLines (contentType : ContentType) (verdict : Verdict) :
    failedHeading ∉ summaryLines contentType verdict := by
  unfold summaryLines
  simp only [List.mem_append, List.mem_cons, List.mem_map, List.not_mem_nil, Option.mem_toList,
    Option.map_eq_some_iff, not_or, not_exists, not_and, not_false_eq_true, and_true, and_assoc]
  refine ⟨by decide, by decide, fun name _ => ?name, ?status, ?message, by decide, by decide,
    by decide, by decide, fun result _ => ?row, by decide⟩
  case name => exact ne_failedHeading (by simp [ToString.toString])
  case status => exact (ne_failedHeading (by simp [ToString.toString])).symm
  case message => exact (ne_failedHeading (by simp [ToString.toString])).symm
  case row => exact ne_failedHeading (by simp [tableRow, ToString.toString])

theorem not_mem_failures (contentType : ContentType) (verdict : Verdict) :
    failedHeading ∉ failures contentType verdict := by
  intro h
  obtain ⟨result, _, h⟩ := List.mem_flatMap.mp h
  split at h
  · obtain ⟨position, _, h⟩ := List.mem_map.mp h
    exact ne_failedHeading (by simp [ToString.toString]) h
  · cases h

-- The report on an entry that could be evaluated. It has a part of failed rules unless the verdict
-- is valid, and the part has one line for every failed position, which names the rule there. A line
-- is a text that the report is joined from: a line feed in an id, in the name of the content type
-- or in a pattern spreads it over several lines of what is written.
theorem markdown_failedRules {options : Options} {entry : Entry} {checklist : Checklist}
    {problems : List Problem} {verdict : Verdict} (distinct : entry.contentType.fieldIds.Nodup)
    (compiled : Checklist.compile options entry.contentType.fields = .ok (checklist, problems))
    (evaluated : checklist.evaluate entry = .ok verdict) (warnings : List Issue) :
    List.Forall₂ (Field.Marked options checklist entry) entry.contentType.fields verdict.fields ∧
    ∃ lines,
      verdict.markdown entry.contentType warnings = String.intercalate "\n"
        (summaryLines entry.contentType verdict ++
          (if verdict.valid then [] else failedHeading :: lines ++ [""]) ++
          ignoredLines warnings) ∧
      failedHeading ∉ summaryLines entry.contentType verdict ++ lines ++ ignoredLines warnings ∧
      List.Forall₂ (NamesRule options checklist entry) (verdict.failedPlaces entry.contentType)
        lines := by
  obtain ⟨sound, results, judged, rfl⟩ := Checklist.evaluate_eq_ok compiled evaluated
  have marked : List.Forall₂ (Field.Marked options checklist entry) entry.contentType.fields
      results := by
    refine List.Forall₂.imp ?_ ((List.forall₂_and_left _ _).mpr ⟨fun _ hf => hf, judged⟩)
    rintro field result ⟨hf, hjudged⟩
    exact hjudged.marked (sound field hf) (Checklist.get?_of_compile distinct compiled hf)
  refine ⟨marked, failures entry.contentType (.ofFields results), ?_, ?_,
    forall₂_failures distinct marked⟩
  · rw [markdown, markdownLines, headed_failures distinct marked]
  · simp only [List.mem_append, not_or]
    exact ⟨⟨not_mem_summaryLines _ _, not_mem_failures _ _⟩, not_mem_ignoredLines warnings⟩

-- The checks for the draft. Its title fails two of its four rules, and its age the only one.
def draftChecklist : Checklist :=
  ⟨Reading.draft.contentType.fields.map fun field => ⟨field.id, field.checks {}⟩⟩

set_option maxRecDepth 2000 in
theorem markdown_failedRules_draft :
    let verdict : Verdict := ⟨false, [⟨"title", false, 4, [0, 2]⟩, ⟨"age", false, 1, [0]⟩]⟩
    Reading.draft.contentType.fieldIds.Nodup ∧
    Checklist.compile {} Reading.draft.contentType.fields = .ok (draftChecklist, []) ∧
    draftChecklist.evaluate Reading.draft = .ok verdict ∧
    List.Forall₂ (Field.Marked {} draftChecklist Reading.draft) Reading.draft.contentType.fields
      verdict.fields ∧
    ∃ lines,
      verdict.markdown Reading.draft.contentType [] = String.intercalate "\n"
        (summaryLines Reading.draft.contentType verdict ++ (failedHeading :: lines ++ [""]) ++
          ignoredLines []) ∧
      failedHeading ∉ summaryLines Reading.draft.contentType verdict ++ lines ++ ignoredLines [] ∧
      List.Forall₂ (NamesRule {} draftChecklist Reading.draft)
        (verdict.failedPlaces Reading.draft.contentType) lines :=
  ⟨by decide, rfl, rfl, markdown_failedRules (by decide) rfl rfl []⟩

end Verdict
end Vetting
