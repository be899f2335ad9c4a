import Vetting.Proofs.Json.Record
import Vetting.Proofs.Rule.Attribution

namespace Vetting

namespace Json

def IsNumber (value : Json) : Prop := ∃ number, value = .number number

def IsText (value : Json) : Prop := ∃ text, value = .string text

-- Null stands for an absent value.
def IsNullOr (sort : Json → Prop) (value : Json) : Prop := value = .null ∨ sort value

-- What an object holds under a key, if anything, is of a sort.
def Members.Under (members : Members) (key : String) (sort : Json → Prop) : Prop :=
  ∀ value, (key, value) ∈ members → sort value

theorem Members.under_congr {members : Members} {key : String} {sort sort' : Json → Prop}
    (h : ∀ value, sort value ↔ sort' value) : members.Under key sort ↔ members.Under key sort' :=
  forall₂_congr fun value _ => h value

theorem readable_optionalDouble_iff {value : Json} :
    Readable (asOptional asDouble) value ↔ IsNullOr IsNumber value := by
  unfold Readable IsNullOr IsNumber
  cases value <;> simp [asOptional, asDouble]

theorem readable_text_iff {value : Json} : Readable asString value ↔ IsText value := by
  unfold Readable IsText
  cases value <;> simp [asString]

theorem readable_optionalText_iff {value : Json} :
    Readable (asOptional asString) value ↔ IsNullOr IsText value := by
  unfold Readable IsNullOr IsText
  cases value <;> simp [asOptional, asString]

-- An object suits a shape key by key.
theorem RecordShape.suits_iff_under {shape : RecordShape}
    (distinct : (shape.checks.map (·.1)).Nodup) {members : Members} :
    shape.Suits members ↔ ∀ check ∈ shape.checks, members.Under check.1 (Readable check.2) := by
  unfold Suits Members.Under
  constructor
  · intro h check hcheck value member
    exact (Members.forall_lookup_iff distinct).mp (h _ member) check hcheck rfl
  · rintro h ⟨key, value⟩ member
    rw [Members.forall_lookup_iff distinct]
    rintro check hcheck rfl
    exact h check hcheck value member

namespace Slot

variable {α : Type}

-- Whether a field can be read from the members of an object.
def FitsMembers (slot : Slot α) (members : Members) : Prop :=
  (members.contains slot.key = true ∨ slot.absent.isSome = true) ∧
    members.Under slot.key (Readable slot.read)

-- Whether it can be read from an element of an array, which may be left out.
def FitsElement (slot : Slot α) : Option Json → Prop
  | some given => Readable slot.read given
  | none => slot.absent.isSome = true

theorem given_of_get_named {slot : Slot α} {members : Members} {place : Nat} {value : α}
    (h : (Record.named members).get place slot = .ok value) :
    members.contains slot.key = true ∨ slot.absent.isSome = true := by
  cases ha : slot.absent with
  | some default => exact .inr rfl
  | none => exact .inl (Record.contains_of_get_named h ha)

theorem exists_get_listed_iff {slot : Slot α} {shape : RecordShape} {items : List Json}
    {place : Nat} :
    (∃ value, (Record.listed shape items).get place slot = .ok value) ↔
      slot.FitsElement items[place]? := by
  unfold FitsElement Readable
  cases h : items[place]? with
  | some given => simp [Record.get, h]
  | none => cases ha : slot.absent <;> simp [Record.get, h, ha]

end Slot

theorem readable_record_iff {α : Type} {shape : RecordShape} {build : Record → Shaped α}
    {P : Members → Prop} {Q : List Json → Prop}
    (hobject : ∀ members, Readable (shape.read build) (.object members) ↔ P members)
    (harray : ∀ items, Readable (shape.read build) (.array items) ↔ Q items) {value : Json} :
    Readable (shape.read build) value ↔
      (∃ members, value = .object members ∧ P members) ∨
        ∃ items, value = .array items ∧ Q items := by
  constructor
  · intro h
    rcases exists_of_readable h with ⟨members, rfl⟩ | ⟨items, rfl⟩
    · exact .inl ⟨members, rfl, (hobject members).mp h⟩
    · exact .inr ⟨items, rfl, (harray items).mp h⟩
  · rintro (⟨members, rfl, fits⟩ | ⟨items, rfl, fits⟩)
    · exact (hobject members).mpr fits
    · exact (harray items).mpr fits

-- A record that is made of two fields.
structure IsPair {α β γ : Type} (shape : RecordShape) (build : Record → Shaped γ) (first : Slot α)
    (second : Slot β) : Prop where
  checks : shape.checks = [first.check, second.check]
  distinct : first.key ≠ second.key
  build : ∀ record, (∃ result, build record = .ok result) ↔
    (∃ a, record.get 0 first = .ok a) ∧ ∃ b, record.get 1 second = .ok b

namespace IsPair

variable {α β γ : Type} {shape : RecordShape} {build : Record → Shaped γ} {first : Slot α}
  {second : Slot β}

theorem readable_object_iff (pair : IsPair shape build first second) {members : Members} :
    Readable (shape.read build) (.object members) ↔
      first.FitsMembers members ∧ second.FitsMembers members := by
  have hsuits : shape.Suits members ↔ members.Under first.key (Readable first.read) ∧
      members.Under second.key (Readable second.read) := by
    rw [RecordShape.suits_iff_under (by simpa [pair.checks, Slot.check] using pair.distinct)]
    simp only [pair.checks, List.forall_mem_cons, List.not_mem_nil, IsEmpty.forall_iff,
      implies_true, and_true]
    exact and_congr (Members.under_congr fun _ => readable_check_iff)
      (Members.under_congr fun _ => readable_check_iff)
  have known : shape.checks.lookup first.key = some first.check.2 := by
    simp [pair.checks, Slot.check]
  have known' : shape.checks.lookup second.key = some second.check.2 := by
    have differs : (second.key == first.key) = false := by simpa using pair.distinct.symm
    simp [pair.checks, Slot.check, List.lookup_cons, differs]
  rw [Json.readable_object_iff, pair.build]
  constructor
  · rintro ⟨suits, ⟨a, ha⟩, b, hb⟩
    obtain ⟨under, under'⟩ := hsuits.mp suits
    exact ⟨⟨Slot.given_of_get_named ha, under⟩, Slot.given_of_get_named hb, under'⟩
  · rintro ⟨⟨given, under⟩, given', under'⟩
    have suits := hsuits.mpr ⟨under, under'⟩
    exact ⟨suits, suits.get first known given 0, suits.get second known' given' 1⟩

theorem readable_array_iff (pair : IsPair shape build first second) {items : List Json} :
    Readable (shape.read build) (.array items) ↔
      items.length ≤ 2 ∧ first.FitsElement items[0]? ∧ second.FitsElement items[1]? := by
  rw [Json.readable_array_iff, pair.build, Slot.exists_get_listed_iff, Slot.exists_get_listed_iff,
    pair.checks, and_comm]
  rfl

end IsPair

theorem exists_bind_pair_iff {ε α β γ : Type} {x : Except ε α} {y : Except ε β} {f : α → β → γ} :
    (∃ result, (do return f (← x) (← y)) = Except.ok result) ↔
      (∃ a, x = .ok a) ∧ ∃ b, y = .ok b := by
  cases x <;> cases y <;> simp [bind, Except.bind, pure, Except.pure]

end Json

theorem Bounds.isPair : Json.IsPair shape ofRecord minSlot maxSlot where
  checks := rfl
  distinct := by decide
  build _ := Json.exists_bind_pair_iff

theorem PatternSource.isPair : Json.IsPair shape ofRecord patternSlot flagsSlot where
  checks := rfl
  distinct := by decide
  build _ := Json.exists_bind_pair_iff

namespace RuleKind

open Json (IsNullOr IsNumber IsText Readable)

-- What a configuration should look like: a bound may be absent or null, and so may flags, but a
-- pattern is needed.
def FitsMembers (kind : RuleKind) (members : Json.Members) : Prop :=
  match kind with
  | unique => True
  | size | range =>
    members.Under "min" (IsNullOr IsNumber) ∧ members.Under "max" (IsNullOr IsNumber)
  | prohibitRegexp =>
    members.contains "pattern" = true ∧ members.Under "pattern" IsText ∧
      members.Under "flags" (IsNullOr IsText)

-- The same without the keys.
def FitsItems (kind : RuleKind) (items : List Json) : Prop :=
  match kind with
  | unique => True
  | size | range => items.length ≤ 2 ∧ ∀ item ∈ items, IsNullOr IsNumber item
  | prohibitRegexp =>
    ∃ pattern flags, items = pattern :: flags ∧ IsText pattern ∧ flags.length ≤ 1 ∧
      ∀ item ∈ flags, IsNullOr IsText item

theorem readable_bounds_object_iff {members : Json.Members} :
    Readable Bounds.ofJson (.object members) ↔ size.FitsMembers members := by
  have hbound (key : String) : (Bounds.boundSlot key).FitsMembers members ↔
      members.Under key (IsNullOr IsNumber) :=
    (and_iff_right (.inr rfl)).trans
      (Json.Members.under_congr fun _ => Json.readable_optionalDouble_iff)
  exact Bounds.isPair.readable_object_iff.trans (and_congr (hbound "min") (hbound "max"))

theorem readable_bounds_array_iff {items : List Json} :
    Readable Bounds.ofJson (.array items) ↔ size.FitsItems items := by
  refine Bounds.isPair.readable_array_iff.trans (and_congr_right fun short => ?_)
  have hbound (key : String) (given : Json) :
      (Bounds.boundSlot key).FitsElement (some given) ↔ IsNullOr IsNumber given :=
    Json.readable_optionalDouble_iff
  have habsent (key : String) : (Bounds.boundSlot key).FitsElement none := rfl
  match items with
  | [] => simp [Bounds.minSlot, Bounds.maxSlot, habsent]
  | [min] => simp [Bounds.minSlot, Bounds.maxSlot, hbound, habsent]
  | [min, max] => simp [Bounds.minSlot, Bounds.maxSlot, hbound]
  | _ :: _ :: _ :: rest => simp at short

theorem readable_pattern_object_iff {members : Json.Members} :
    Readable PatternSource.ofJson (.object members) ↔ prohibitRegexp.FitsMembers members := by
  have hpattern : PatternSource.patternSlot.FitsMembers members ↔
      members.contains "pattern" = true ∧ members.Under "pattern" IsText :=
    and_congr (or_iff_left nofun) (Json.Members.under_congr fun _ => Json.readable_text_iff)
  have hflags : PatternSource.flagsSlot.FitsMembers members ↔
      members.Under "flags" (IsNullOr IsText) :=
    (and_iff_right (.inr rfl)).trans
      (Json.Members.under_congr fun _ => Json.readable_optionalText_iff)
  exact PatternSource.isPair.readable_object_iff.trans
    ((and_congr hpattern hflags).trans and_assoc)

theorem readable_pattern_array_iff {items : List Json} :
    Readable PatternSource.ofJson (.array items) ↔ prohibitRegexp.FitsItems items := by
  have hpattern (given : Json) :
      PatternSource.patternSlot.FitsElement (some given) ↔ IsText given :=
    Json.readable_text_iff
  have hflags (given : Json) :
      PatternSource.flagsSlot.FitsElement (some given) ↔ IsNullOr IsText given :=
    Json.readable_optionalText_iff
  have hneeded : ¬PatternSource.patternSlot.FitsElement none := nofun
  have habsent : PatternSource.flagsSlot.FitsElement none := rfl
  refine PatternSource.isPair.readable_array_iff.trans ?_
  unfold FitsItems
  match items with
  | [] => simp [hneeded]
  | [pattern] => simp [hpattern, habsent]
  | [pattern, flags] => simp [hpattern, hflags]
  | _ :: _ :: _ :: rest => simp

-- A configuration is read if it looks as it should, as an object or as an array.
def Describes (kind : RuleKind) (config : Json) : Prop :=
  (∃ members, config = .object members ∧ kind.FitsMembers members) ∨
    ∃ items, config = .array items ∧ kind.FitsItems items

theorem exists_ofConfig_iff {kind : RuleKind} (configured : kind ≠ unique) {config : Json} :
    (∃ rule, Rule.ofConfig kind config = .ok rule) ↔ kind.Describes config := by
  have hbounds : Readable Bounds.ofJson config ↔ size.Describes config :=
    Json.readable_record_iff (fun _ => readable_bounds_object_iff)
      (fun _ => readable_bounds_array_iff)
  have hpattern : Readable PatternSource.ofJson config ↔ prohibitRegexp.Describes config :=
    Json.readable_record_iff (fun _ => readable_pattern_object_iff)
      (fun _ => readable_pattern_array_iff)
  cases kind with
  | unique => contradiction
  | size => exact Json.readable_map_iff.trans hbounds
  | prohibitRegexp => exact Json.readable_map_iff.trans hpattern
  | range => exact Json.readable_map_iff.trans hbounds

end RuleKind

theorem Findings.mem_results {α : Type} {findings : Findings α} {result : α} :
    result ∈ results findings ↔ .ok result ∈ findings := by
  unfold results
  rw [List.mem_filterMap]
  constructor
  · rintro ⟨finding, member, h⟩
    cases finding with
    | ok found => exact Option.some.inj h ▸ member
    | error problem => cases h
  · exact fun member => ⟨_, member, rfl⟩

theorem filter_eq_singleton {α β : Type} [BEq β] [LawfulBEq β] {f : α → β} {elements : List α}
    (apart : elements.Pairwise (f · ≠ f ·)) {element : α} (member : element ∈ elements) :
    elements.filter (f · == f element) = [element] := by
  obtain ⟨before, after, rfl⟩ := List.append_of_mem member
  obtain ⟨-, later, earlier⟩ := List.pairwise_append.mp apart
  have hbefore : before.filter (f · == f element) = [] := by
    rw [List.filter_eq_nil_iff]
    intro other hother same
    exact earlier other hother element List.mem_cons_self (eq_of_beq same)
  have hafter : after.filter (f · == f element) = [] := by
    rw [List.filter_eq_nil_iff]
    intro other hother same
    exact List.rel_of_pairwise_cons later hother (eq_of_beq same).symm
  rw [List.filter_append, List.filter_cons, if_pos (beq_self_eq_true _), hbefore, hafter]
  rfl

namespace Field

theorem path_ne_requiredPath (field : Field) (index : Nat) (kind : RuleKind) :
    Site.path ⟨field, index, kind⟩ ≠ field.requiredPath := by
  intro same
  have hrequired : field.requiredPath.toList =
      ("/fields/".toList ++ field.id.toList) ++ '/' :: "required".toList := by
    simp only [requiredPath, String.toList_append, List.append_assoc]
    rfl
  have same := congrArg String.toList same
  rw [Site.toList_path, hrequired] at same
  obtain ⟨-, hkey⟩ := eq_of_append_mark kind.slash_not_mem_key (by decide) same
  cases kind <;> exact absurd hkey (by decide)

-- Where the rules of a field come from: from the configurations that were read, and from its being
-- required.
theorem mem_declaredRules {field : Field} {declared : DeclaredRule} :
    declared ∈ field.declaredRules ↔
      (∃ index declaration kind config, field.validations[index]? = some declaration ∧
        (kind, config) ∈ field.configured declaration ∧
        Rule.ofConfig kind config = .ok declared.rule ∧
        declared.path = Site.path ⟨field, index, kind⟩) ∨
      field.required = true ∧ declared = ⟨field.requiredPath, .required⟩ := by
  have hread (index : Nat) (kind : RuleKind) (config : Json) :
      field.readRule s!"{field.declarationPath index}/{kind.key}" kind config = .ok declared ↔
        Rule.ofConfig kind config = .ok declared.rule ∧
          declared.path = Site.path ⟨field, index, kind⟩ := by
    unfold readRule
    cases declared
    cases Rule.ofConfig kind config with
    | ok rule =>
      simp only [Except.ok.injEq, DeclaredRule.mk.injEq]
      exact and_comm.trans (and_congr_right fun _ => eq_comm)
    | error error => simp
  have hdeclaration (index : Nat) (declaration : Declaration) :
      declared ∈ Findings.results (field.readDeclaration index declaration) ↔
        ∃ kind config, (kind, config) ∈ field.configured declaration ∧
          Rule.ofConfig kind config = .ok declared.rule ∧
          declared.path = Site.path ⟨field, index, kind⟩ := by
    rw [results_readDeclaration, Findings.mem_results]
    simp only [List.mem_map, Prod.exists, hread]
  have hshared : declared ∈ (field.sharedRules.map fun rule => ⟨field.requiredPath, rule⟩) ↔
      field.required = true ∧ declared = ⟨field.requiredPath, .required⟩ := by
    unfold sharedRules
    cases field.required <;> simp
  rw [declaredRules, readDeclarations, Findings.results_append, Findings.results_oks,
    List.mem_append, hshared, Findings.results, List.filterMap_flatMap, List.mem_flatMap]
  apply or_congr_left
  simp only [Prod.exists, List.mk_mem_zipIdx_iff_getElem?]
  constructor
  · rintro ⟨declaration, index, declared, h⟩
    obtain ⟨kind, config, h⟩ := (hdeclaration index declaration).mp h
    exact ⟨index, declaration, kind, config, declared, h⟩
  · rintro ⟨index, declaration, kind, config, declared, h⟩
    exact ⟨declaration, index, declared, (hdeclaration index declaration).mpr ⟨kind, config, h⟩⟩

variable {field : Field} {index : Nat} {declaration : Declaration} {kind : RuleKind} {config : Json}

-- The rule at the path of a configuration is the one that the configuration was read as.
theorem mem_declaredRules_iff_read (declared : field.validations[index]? = some declaration)
    (configured : (kind, config) ∈ field.configured declaration) {rule : Rule} :
    ⟨Site.path ⟨field, index, kind⟩, rule⟩ ∈ field.declaredRules ↔
      Rule.ofConfig kind config = .ok rule := by
  rw [mem_declaredRules]
  constructor
  · rintro (⟨index', declaration', kind', config', declared', configured', read, same⟩ | ⟨-, same⟩)
    · obtain ⟨-, rfl, rfl⟩ := Site.eq_of_path same
      obtain rfl := Option.some.inj (declared.symm.trans declared')
      rwa [config_unique configured configured']
    · exact absurd (congrArg DeclaredRule.path same) (path_ne_requiredPath field index kind)
  · intro read
    exact .inl ⟨index, declaration, kind, config, declared, configured, read, rfl⟩

theorem errors_report_problems (describe : Pattern.SyntaxFault → String) (options : Options)
    (field : Field) :
    (Problem.reportWith describe (field.problems options)).errors =
      field.expectedErrors describe := by
  rw [Problem.reportWith, Report.errors_ofIssues]
  exact field.errors_problems describe options

theorem compile_eq_error {describe : Pattern.SyntaxFault → String} {options : Options}
    (h : field.expectedErrors describe ≠ []) :
    field.compile options = .error (field.problems options) := by
  have unsound : (field.problems options).any Problem.isError = true := by
    rw [ne_eq, ← field.sound_iff describe options] at h
    simpa [Sound] using h
  exact if_pos unsound

-- A configuration that is not read is reported once.
theorem filter_errors_of_unread (declared : field.validations[index]? = some declaration)
    (configured : (kind, config) ∈ field.configured declaration) {error : Json.ShapeError}
    (unread : Rule.ofConfig kind config = .error error)
    (describe : Pattern.SyntaxFault → String) :
    (field.expectedErrors describe).filter (·.path == Site.path ⟨field, index, kind⟩) =
      [field.issueAt index kind.key .error "malformed_validation"
        s!"invalid {kind.key} configuration: {error.message}" kind.hint] := by
  have member : field.issueAt index kind.key .error "malformed_validation"
      s!"invalid {kind.key} configuration: {error.message}" kind.hint ∈
        field.expectedErrors describe := by
    apply List.mem_append_left
    have numbered := List.mk_mem_zipIdx_iff_getElem?.mpr declared
    refine List.mem_flatMap.mpr ⟨(declaration, index), numbered, ?_⟩
    exact List.mem_filterMap.mpr ⟨(kind, config), configured, by simp only [unread]⟩
  exact filter_eq_singleton (field.pairwise_expectedErrors describe) member

theorem code_ne_malformed_of_read (declared : field.validations[index]? = some declaration)
    (configured : (kind, config) ∈ field.configured declaration) {rule : Rule}
    (read : Rule.ofConfig kind config = .ok rule) {describe : Pattern.SyntaxFault → String}
    {issue : Issue} (h : issue ∈ field.expectedErrors describe)
    (there : issue.path = Site.path ⟨field, index, kind⟩) :
    issue.code ≠ "malformed_validation" := by
  obtain ⟨index', kind', -, hpath, declaration', config', declared', configured', fault⟩ :=
    causes_of_expectedErrors h
  obtain ⟨-, rfl, rfl⟩ := Site.eq_of_path (there.symm.trans hpath)
  obtain rfl := Option.some.inj (declared.symm.trans declared')
  obtain rfl := config_unique configured configured'
  intro malformed
  rw [malformed, RuleKind.fault?, read] at fault
  cases rule with
  | prohibitRegexp source =>
    dsimp only at fault
    split at fault
    · cases fault
    · exact absurd (Option.some.inj fault) (by decide)
    · exact absurd (Option.some.inj fault) (by decide)
  | _ => cases fault

-- A configuration makes a rule if it is an object that looks as it should, or an array that does.
-- If it is neither, then compiling the field fails, with one error at the path of the
-- configuration, which calls it malformed.
theorem exists_declaredRule_iff_describes (declared : field.validations[index]? = some declaration)
    (known : kind ∈ RuleKind.ofFieldType field.type)
    (present : declaration.get? kind.key = some config) (configurable : kind ≠ .unique)
    (options : Options) (describe : Pattern.SyntaxFault → String) :
    let path := Site.path ⟨field, index, kind⟩
    ((∃ rule, ⟨path, rule⟩ ∈ field.declaredRules) ↔ kind.Describes config) ∧
    (¬kind.Describes config → ∃ problems issue, field.compile options = .error problems ∧
      (Problem.reportWith describe problems).errors.filter (·.path == path) = [issue] ∧
      issue.code = "malformed_validation" ∧ issue.hint = some kind.hint) ∧
    (kind.Describes config →
      ∀ issue ∈ (Problem.reportWith describe (field.problems options)).errors,
        issue.path = path → issue.code ≠ "malformed_validation") ∧
    ((∀ items, config ≠ .array items) →
      ((∃ rule, ⟨path, rule⟩ ∈ field.declaredRules) ↔
        ∃ members, config = .object members ∧ kind.FitsMembers members)) := by
  intro path
  have configured : (kind, config) ∈ field.configured declaration := mem_configured known present
  have hread : (∃ rule, Rule.ofConfig kind config = .ok rule) ↔ kind.Describes config :=
    RuleKind.exists_ofConfig_iff configurable
  have hrule : (∃ rule, ⟨path, rule⟩ ∈ field.declaredRules) ↔ kind.Describes config :=
    (exists_congr fun _ => mem_declaredRules_iff_read declared configured).trans hread
  refine ⟨hrule, fun strange => ?_, fun describes issue h there => ?_, fun notArray => ?_⟩
  · cases unread : Rule.ofConfig kind config with
    | ok rule => exact absurd (hread.mp ⟨rule, unread⟩) strange
    | error error =>
      have once := filter_errors_of_unread declared configured unread describe
      have failed : field.compile options = .error (field.problems options) := by
        apply compile_eq_error
        intro none
        rw [none] at once
        cases once
      rw [← errors_report_problems describe options] at once
      exact ⟨_, _, failed, once, rfl, rfl⟩
  · obtain ⟨rule, read⟩ := hread.mpr describes
    rw [errors_report_problems] at h
    exact code_ne_malformed_of_read declared configured read h there
  · rw [hrule]
    exact or_iff_left fun ⟨items, array, _⟩ => notArray items array

-- Sizes and a pattern that are given as arrays, and a size that is given as a text.
def configuredTitle : Field where
  id := "title"
  type := .text
  validations := [
    ⟨[("prohibitRegexp", .array [.string "a"]), ("size", .array [.ofInt 1, .ofInt 2])]⟩,
    ⟨[("size", .string "long")]⟩]

theorem not_describes_text : ¬RuleKind.size.Describes (.string "long") := by
  rintro (⟨members, h, -⟩ | ⟨items, h, -⟩) <;> cases h

theorem exists_declaredRule_iff_describes_malformed :
    let path := "/fields/title/validations/1/size"
    (¬∃ rule, ⟨path, rule⟩ ∈ configuredTitle.declaredRules) ∧
    ∃ problems issue, configuredTitle.compile {} = .error problems ∧
      (Problem.reportWith Pattern.SyntaxFault.message problems).errors.filter (·.path == path) =
        [issue] ∧
      issue.code = "malformed_validation" := by
  have declared : configuredTitle.validations[1]? = some ⟨[("size", .string "long")]⟩ := rfl
  have known : RuleKind.size ∈ RuleKind.ofFieldType configuredTitle.type := by decide
  obtain ⟨rules, malformed, -⟩ :=
    exists_declaredRule_iff_describes declared known rfl (by decide) {} Pattern.SyntaxFault.message
  obtain ⟨problems, issue, failed, once, code, -⟩ := malformed not_describes_text
  exact ⟨fun rule => not_describes_text (rules.mp rule), problems, issue, failed, once, code⟩

-- An array of two numbers is read as a size, though it is no object.
theorem array_read_as_size :
    ¬∀ (field : Field) (index : Nat) (declaration : Declaration) (kind : RuleKind) (config : Json),
      field.validations[index]? = some declaration → kind ∈ RuleKind.ofFieldType field.type →
      declaration.get? kind.key = some config → kind ≠ .unique →
      ((∃ rule, ⟨Site.path ⟨field, index, kind⟩, rule⟩ ∈ field.declaredRules) ↔
        ∃ members, config = .object members ∧ kind.FitsMembers members) := by
  intro h
  let listed : Declaration :=
    ⟨[("prohibitRegexp", .array [.string "a"]), ("size", .array [.ofInt 1, .ofInt 2])]⟩
  have declared : configuredTitle.validations[0]? = some listed := rfl
  have configured : (RuleKind.size, .array [.ofInt 1, .ofInt 2]) ∈
      configuredTitle.configured listed := mem_configured (by decide) rfl
  have there := (mem_declaredRules_iff_read declared configured).mpr rfl
  have rules := h configuredTitle 0 _ .size _ declared (by decide) rfl (by decide)
  obtain ⟨members, array, -⟩ := rules.mp ⟨_, there⟩
  cases array

end Field

end Vetting
