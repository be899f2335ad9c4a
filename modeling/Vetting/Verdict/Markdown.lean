import Vetting.Rule.Declared
import Vetting.Verdict.Status

namespace Vetting.Verdict

def tableRow (contentType : ContentType) (verdict : FieldVerdict) : String :=
  let type := ((contentType.field? verdict.fieldId).map (·.type.name)).getD "-"
  let result := if verdict.valid then "ok" else "invalid"
  s!"| {verdict.fieldId} | {type} | {verdict.checked} | {result} |"

-- A line for each failed check of a field, with the text of its rule.
def failedRules (field : Field) (verdict : FieldVerdict) : List String :=
  verdict.failed.map fun index =>
    let rule := (field.rules[index]?.map Rule.text).getD s!"rule #{index}"
    s!"- {verdict.fieldId}: {rule}"

-- The lines of failed checks on the fields that the content type declares.
def failures (contentType : ContentType) (verdict : Verdict) : List String :=
  verdict.failedFields.flatMap fun failed =>
    match contentType.field? failed.fieldId with
    | some field => failedRules field failed
    | none => []

-- Some lines under a heading and before an empty line; nothing without lines.
def headed (heading : String) : List String → List String
  | [] => []
  | lines => heading :: lines ++ [""]

-- The status of an entry, and a table of its fields.
def summaryLines (contentType : ContentType) (verdict : Verdict) : List String :=
  let status := Status.ofVerdict verdict
  ["# Entry Validation Report", ""] ++
  (contentType.name.map fun name => s!"- content_type: {name}").toList ++
  [s!"- status: {status.note}", s!"- message: {status.message}", ""] ++
  ["## Fields", "| field | type | checked | result |", "| --- | --- | --- | --- |"] ++
  verdict.fields.map (tableRow contentType) ++ [""]

def failedHeading : String := "## Failed rules"

def ignoredLines (warnings : List Issue) : List String :=
  headed "## Ignored validations"
    (warnings.map fun warning => s!"- {warning.path}: {warning.message}")

def markdownLines (contentType : ContentType) (warnings : List Issue) (verdict : Verdict) :
    List String :=
  summaryLines contentType verdict ++ headed failedHeading (failures contentType verdict) ++
    ignoredLines warnings

def markdown (contentType : ContentType) (warnings : List Issue) (verdict : Verdict) : String :=
  String.intercalate "\n" (markdownLines contentType warnings verdict)

end Vetting.Verdict
