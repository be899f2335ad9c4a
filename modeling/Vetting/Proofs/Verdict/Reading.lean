import Vetting.Proofs.Json.Record
import Vetting.Proofs.Verdict.Evaluation

namespace Vetting

namespace Reading

-- One check as it is declared: the configuration under a key, or that a value is there at all.
inductive Demand where
  | declared (key : String) (config : Json)
  | notNull
deriving Inhabited

-- The keys that count on a type of field, in the order of the checks.
def checkedKeys : FieldType → List String
  | .symbol | .text => ["unique", "size", "prohibitRegexp"]
  | .integer | .float => ["range"]
  | _ => []

-- Declaration by declaration, the keys that are there, and last the demand of a required field.
def demands (field : Field) : List Demand :=
  (field.validations.flatMap fun declaration =>
    (checkedKeys field.type).filterMap fun key => (declaration.get? key).map (.declared key)) ++
    if field.required then [.notNull] else []

-- The number under a key, or at a place of a list.
def number? (config : Json) (key : String) (place : Nat) : Option Double :=
  match config.part? key place with
  | some (.number n) => some n.toDouble
  | _ => none

-- A declared bound. One of zero may count as absent.
def bound? (options : Options) (config : Json) (key : String) (place : Nat) : Option Double :=
  (number? config key place).filter fun bound => !(options.zeroBoundIsAbsent && bound.isZero)

def within (options : Options) (config : Json) (value : Double) : Bool :=
  (bound? options config "min" 0).all (fun min => decide (min ≤ value)) &&
    (bound? options config "max" 1).all fun max => decide (value ≤ max)

def text? (config : Json) (key : String) (place : Nat) : Option String :=
  (config.part? key place).bind Json.string?

-- Whether a declared pattern matches somewhere in a text.
def finds? (config : Json) (text : String) : Option Bool := do
  let pattern ← text? config "pattern" 0
  let compiled ← (Pattern.compile ⟨pattern, text? config "flags" 1⟩).toOption
  (compiled.isMatch text).toOption

-- Whether a value meets a demand; none where the demand says nothing of such a value.
def answer? (options : Options) (value : Json) : Demand → Option Bool
  | .notNull =>
    match value with
    | .null => some false
    | _ => some true
  | .declared "unique" _ => some true
  | .declared "size" config =>
    match value with
    | .null => some true
    | .string text => some (within options config (.ofInt (Text.utf16Length text)))
    | .array items => some (within options config (.ofInt items.length))
    | _ => none
  | .declared "prohibitRegexp" config =>
    match value with
    | .null => some true
    | .string text => (finds? config text).map (!·)
    | _ => none
  | .declared "range" config =>
    match value with
    | .null => some (!options.nullRangeIsZero || within options config (.zero false))
    | .number n => some (within options config n.toDouble)
    | _ => none
  | .declared _ _ => none

-- The verdict on a value of a field: how many demands there are, and which are not met.
def field? (options : Options) (field : Field) (value : Json) : Option FieldVerdict := do
  let answers ← (demands field).mapM (answer? options value)
  let failed := (answers.zipIdx.filter fun (met, _) => !met).map (·.2)
  return { fieldId := field.id, valid := answers.all id, checked := answers.length, failed }

-- The verdict on an entry, field by field as its content type has them.
def verdict? (options : Options) (entry : Entry) : Option Verdict := do
  let fields ← entry.contentType.fields.mapM fun field => do
    field? options field (← entry.value? field.id)
  return { valid := fields.all (·.valid), fields }

theorem number_of_bounds {config : Json} {bounds : Bounds} (h : Bounds.ofJson config = .ok bounds) :
    bounds.min = number? config "min" 0 ∧ bounds.max = number? config "max" 1 := by
  obtain ⟨record, hbuild, holds⟩ := Json.RecordShape.read_eq_ok h
  obtain ⟨min, hmin, hbuild⟩ := Outcome.bind_eq_ok.mp hbuild
  obtain ⟨max, hmax, hbuild⟩ := Outcome.bind_eq_ok.mp hbuild
  cases hbuild
  have bound {key : String} {place : Nat} {value : Option Double}
      (h : (Bounds.boundSlot key).Holds (config.part? key place) value) :
      value = number? config key place := by
    unfold Json.Slot.Holds at h
    unfold number?
    cases hp : config.part? key place with
    | none => rw [hp] at h; exact (Option.some.inj h).symm
    | some given =>
      rw [hp] at h
      cases given with
      | null => exact (Except.ok.inj h).symm
      | number n => exact (Except.ok.inj h).symm
      | _ => cases h
  exact ⟨bound (holds hmin), bound (holds hmax)⟩

theorem contains_of_bounds (options : Options) {config : Json} {bounds : Bounds}
    (h : Bounds.ofJson config = .ok bounds) (value : Double) :
    (options.bounds bounds).contains value = within options config value := by
  obtain ⟨hmin, hmax⟩ := number_of_bounds h
  unfold Options.bounds Bounds.withoutZero Bounds.contains within bound?
  rw [← hmin, ← hmax]
  cases options.zeroBoundIsAbsent <;> simp

theorem text_of_required {config : Json} {key : String} {place : Nat} {text : String}
    (h : (⟨key, Json.asString, none⟩ : Json.Slot String).Holds (config.part? key place) text) :
    text? config key place = some text := by
  unfold Json.Slot.Holds at h
  unfold text?
  cases hp : config.part? key place with
  | none => rw [hp] at h; cases h
  | some given =>
    rw [hp] at h
    cases given with
    | string s => exact congrArg some (Except.ok.inj h)
    | _ => cases h

theorem text_of_source {config : Json} {source : PatternSource}
    (h : PatternSource.ofJson config = .ok source) :
    text? config "pattern" 0 = some source.pattern ∧ text? config "flags" 1 = source.flags := by
  obtain ⟨record, hbuild, holds⟩ := Json.RecordShape.read_eq_ok h
  obtain ⟨pattern, hpattern, hbuild⟩ := Outcome.bind_eq_ok.mp hbuild
  obtain ⟨flags, hflags, hbuild⟩ := Outcome.bind_eq_ok.mp hbuild
  cases hbuild
  refine ⟨text_of_required (holds hpattern), ?_⟩
  have hflags := holds hflags
  unfold Json.Slot.Holds at hflags
  unfold text?
  cases hp : config.part? "flags" 1 with
  | none =>
    have absent : config.part? PatternSource.flagsSlot.key 1 = none := hp
    rw [absent] at hflags
    exact Option.some.inj hflags
  | some given =>
    have present : config.part? PatternSource.flagsSlot.key 1 = some given := hp
    rw [present] at hflags
    cases given with
    | null => exact Except.ok.inj hflags
    | string text => exact Except.ok.inj hflags
    | _ => cases hflags

-- The key in the declaration that an origin of a check comes from.
def demandOf : Field.Origin → Demand
  | .declared kind config => .declared kind.key config
  | .required => .notNull

theorem checkedKeys_eq (type : FieldType) :
    checkedKeys type = (RuleKind.checkedOn type).map RuleKind.key := by
  cases type <;> rfl

theorem demands_eq (field : Field) : demands field = field.origins.map demandOf := by
  unfold demands Field.origins Field.configured
  rw [List.map_append, List.map_flatMap]
  congr 1
  · congr 1
    funext declaration
    simp only [checkedKeys_eq, List.filterMap_map, List.map_filterMap, Option.map_map,
      Function.comp_def, demandOf]
  · cases field.required <;> rfl

-- A rule that is checked on a value answers the demand that it was read from.
theorem answer_of_declared {options : Options} {value : Json} {kind : RuleKind} {config : Json}
    {rule : Rule} {check : Check} {passed : Bool} (hrule : Rule.ofConfig kind config = .ok rule)
    (hcheck : rule.compile options = .ok check) (htest : check.test value = .ok passed) :
    answer? options value (.declared kind.key config) = some passed := by
  cases kind with
  | unique =>
    cases hrule
    cases hcheck
    cases htest
    rfl
  | size =>
    obtain ⟨bounds, hbounds, rfl⟩ := Outcome.map_eq_ok.mp hrule
    cases hcheck
    have contains := contains_of_bounds options hbounds
    cases value with
    | null => cases htest; rfl
    | string text => cases htest; exact congrArg some (contains _).symm
    | array items => cases htest; exact congrArg some (contains _).symm
    | _ => cases htest
  | prohibitRegexp =>
    obtain ⟨source, hsource, rfl⟩ := Outcome.map_eq_ok.mp hrule
    obtain ⟨pattern, hpattern, rfl⟩ := Outcome.map_eq_ok.mp hcheck
    cases value with
    | null => cases htest; rfl
    | string text =>
      obtain ⟨htext, hflags⟩ := text_of_source hsource
      change (finds? config text).map (!·) = some passed
      simp only [Check.test] at htest
      split at htest
      · rename_i found hfound
        cases htest
        simp [finds?, htext, hflags, hpattern, hfound, Except.toOption]
      · cases htest
    | _ => cases htest
  | range =>
    obtain ⟨bounds, hbounds, rfl⟩ := Outcome.map_eq_ok.mp hrule
    cases hcheck
    have contains := contains_of_bounds options hbounds
    cases value with
    | null =>
      cases htest
      exact congrArg (fun b => some (!options.nullRangeIsZero || b)) (contains _).symm
    | number n => cases htest; exact congrArg some (contains _).symm
    | _ => cases htest

theorem answer_of_origin {options : Options} {value : Json} {origin : Field.Origin} {rule : Rule}
    {check : Check} {passed : Bool} (hrule : origin.Reads rule)
    (hcheck : rule.compile options = .ok check) (htest : check.test value = .ok passed) :
    answer? options value (demandOf origin) = some passed := by
  cases origin with
  | declared kind config => exact answer_of_declared hrule hcheck htest
  | required =>
    cases hrule
    cases hcheck
    cases value <;> cases htest <;> rfl

theorem field_of_judged {options : Options} {entry : Entry} {field : Field}
    {verdict : FieldVerdict} (sound : field.Sound options)
    (judged : field.Judged options entry verdict) :
    (do field? options field (← entry.value? field.id)) = some verdict := by
  obtain ⟨value, hvalue, hverdict⟩ := judged
  obtain ⟨answers, hanswers, rfl⟩ := FieldChecks.evaluate_eq_ok hverdict
  have answered : (demands field).mapM (answer? options value) = some answers := by
    apply Outcome.mapM_eq_some
    rw [demands_eq, List.forall₂_map_left_iff]
    exact Outcome.forall₂_trans (fun _ _ _ ⟨_, hrule, hcheck⟩ htest =>
      answer_of_origin hrule hcheck htest) sound.forall₂_checks hanswers
  rw [hvalue]
  simp [field?, answered, positionsOfNo]

end Reading

-- An evaluation that gives a verdict gives the one that is read off the declarations.
theorem Entry.evaluate_eq_reading {options : Options} {entry : Entry} {verdict : Verdict}
    (h : entry.evaluate options = .ok verdict) :
    Reading.verdict? options entry = some verdict := by
  obtain ⟨sound, verdicts, judged, rfl⟩ := evaluate_eq_ok h
  have read : List.Forall₂ (fun field verdict =>
      (do Reading.field? options field (← entry.value? field.id)) = some verdict)
      entry.contentType.fields verdicts := by
    refine List.Forall₂.imp ?_ ((List.forall₂_and_left _ _).mpr ⟨sound, judged⟩)
    rintro field verdict ⟨hsound, hjudged⟩
    exact Reading.field_of_judged hsound hjudged
  unfold Reading.verdict?
  rw [Outcome.mapM_eq_some read]
  rfl

-- An entry whose title is too short and begins as it must not, and whose age is not set.
def Reading.draft : Entry :=
  let title : Field := {
    id := "title"
    type := .text
    required := true
    validations := [
      ⟨[("size", .ofPairs [("min", .ofNat 5), ("max", .ofNat 10)])]⟩,
      ⟨[("prohibitRegexp", .ofPairs [("pattern", .string "^b")]), ("unique", .bool true)]⟩] }
  let age : Field := {
    id := "age"
    type := .integer
    validations := [⟨[("range", .ofPairs [("min", .ofNat 18)])]⟩] }
  .ofValues { fields := [title, age] } [("title", .string "bad")]

set_option maxRecDepth 2000 in
theorem evaluate_eq_reading_draft :
    let verdict : Verdict := ⟨false, [⟨"title", false, 4, [0, 2]⟩, ⟨"age", false, 1, [0]⟩]⟩
    Reading.draft.evaluate {} = .ok verdict ∧ Reading.verdict? {} Reading.draft = some verdict :=
  ⟨rfl, Entry.evaluate_eq_reading rfl⟩

end Vetting
