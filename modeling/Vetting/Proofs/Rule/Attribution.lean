import Mathlib.Data.List.Nodup
import Vetting.Proofs.Rule.Diagnosis

namespace Vetting

-- A text is cut in one way only at a mark that does not come again.
theorem eq_of_append_mark {α : Type} {mark : α} {as bs as' bs' : List α} (last : mark ∉ bs)
    (last' : mark ∉ bs') (same : as ++ mark :: bs = as' ++ mark :: bs') : as = as' ∧ bs = bs' := by
  rcases List.append_eq_append_iff.mp same with ⟨more, rfl, rest⟩ | ⟨more, rfl, rest⟩
  all_goals
    cases more with
    | nil => exact ⟨by simp, by simpa [eq_comm] using rest⟩
    | cons first more =>
      obtain ⟨rfl, rfl⟩ := List.cons.inj rest
      simp at last last'

section Digits

theorem toList_toString (n : Nat) : (toString n).toList = Nat.toDigits 10 n := Nat.toList_repr

theorem slash_not_mem_digits (n : Nat) : '/' ∉ (toString n).toList := by
  rw [toList_toString]
  intro member
  exact absurd (Nat.isDigit_of_mem_toDigits (by decide) (by decide) member) (by decide)

theorem eq_of_digits {m n : Nat} (same : (toString m).toList = (toString n).toList) : m = n := by
  rw [toList_toString, toList_toString] at same
  rw [← Nat.ofDigitChars_ten_toDigits (n := m), same, Nat.ofDigitChars_ten_toDigits]

end Digits

namespace RuleKind

theorem key_injective : Function.Injective key := by
  intro kind kind' same
  cases kind <;> cases kind' <;> first | rfl | exact absurd same (by decide)

theorem slash_not_mem_key (kind : RuleKind) : '/' ∉ kind.key.toList := by
  cases kind <;> decide

theorem nodup_checkedOn (type : FieldType) : (checkedOn type).Nodup := by
  cases type with
  | other name => exact .nil
  | _ => decide

-- The code of the error that a configuration of a kind is reported with, if it is at fault.
def fault? (kind : RuleKind) (config : Json) : Option String :=
  match Rule.ofConfig kind config with
  | .error _ => some "malformed_validation"
  | .ok (.prohibitRegexp source) =>
    match Pattern.compile source with
    | .ok _ => none
    | .error (.flags _) => some "invalid_flags"
    | .error (.pattern _) => some "invalid_pattern"
  | .ok _ => none

end RuleKind

-- Where a configuration stands: in a declaration of a field, under the key of a kind.
structure Site where
  field : Field
  index : Nat
  kind : RuleKind

namespace Site

def path (site : Site) : String :=
  s!"/fields/{site.field.id}/validations/{site.index}/{site.kind.key}"

-- An id stands in a path as it is, and may hold slashes of its own. But a path is read from its
-- end, where the kind and the index have none.
theorem toList_path (site : Site) : site.path.toList =
    ("/fields/".toList ++ site.field.id.toList ++ "/validations".toList ++
      '/' :: (toString site.index).toList) ++ '/' :: site.kind.key.toList := by
  simp only [path, String.toList_append, List.append_assoc]
  rfl

-- A path says which kind of which declaration it is about, and the id of the field.
theorem eq_of_path {site other : Site} (same : site.path = other.path) :
    site.field.id = other.field.id ∧ site.index = other.index ∧ site.kind = other.kind := by
  have same := congrArg String.toList same
  rw [toList_path, toList_path] at same
  obtain ⟨same, kind⟩ :=
    eq_of_append_mark site.kind.slash_not_mem_key other.kind.slash_not_mem_key same
  obtain ⟨same, index⟩ :=
    eq_of_append_mark (slash_not_mem_digits _) (slash_not_mem_digits _) same
  have id := List.append_cancel_left (List.append_cancel_right same)
  exact ⟨String.toList_injective id, eq_of_digits index,
    RuleKind.key_injective (String.toList_injective kind)⟩

-- Whether a site is one of some fields.
def Within (site : Site) (fields : List Field) : Prop := site.field ∈ fields

-- Under distinct ids a path leads to one site.
theorem Within.eq_of_path {fields : List Field} (distinct : (fields.map (·.id)).Nodup)
    {site other : Site} (within : site.Within fields) (within' : other.Within fields)
    (same : site.path = other.path) : site = other := by
  obtain ⟨id, index, kind⟩ := Site.eq_of_path same
  have field := List.inj_on_of_nodup_map distinct within within' id
  cases site
  cases other
  congr

-- Whether an error comes from the configuration at a site.
def Causes (site : Site) (issue : Issue) : Prop :=
  issue.severity = .error ∧ issue.path = site.path ∧
    ∃ declaration config, site.field.validations[site.index]? = some declaration ∧
      (site.kind, config) ∈ site.field.configured declaration ∧
      site.kind.fault? config = some issue.code

end Site

namespace Field

variable {field : Field} {issues : Declaration → Nat → List Issue} {code : String → Prop}

theorem pairwise_configured (field : Field) (declaration : Declaration) :
    (field.configured declaration).Pairwise fun a b => a.1 ≠ b.1 := by
  refine List.Pairwise.filterMap _ ?_ (RuleKind.nodup_checkedOn field.type)
  intro kind kind' other a ha b hb
  obtain ⟨_, -, rfl⟩ := Option.map_eq_some_iff.mp ha
  obtain ⟨_, -, rfl⟩ := Option.map_eq_some_iff.mp hb
  exact other

theorem config_unique {declaration : Declaration} {kind : RuleKind} {config config' : Json}
    (h : (kind, config) ∈ field.configured declaration)
    (h' : (kind, config') ∈ field.configured declaration) : config = config' := by
  have found {config : Json} (h : (kind, config) ∈ field.configured declaration) :
      declaration.get? kind.key = some config := by
    obtain ⟨_, -, h⟩ := List.mem_filterMap.mp h
    obtain ⟨_, value, same⟩ := Option.map_eq_some_iff.mp h
    cases same
    exact value
  exact Option.some.inj ((found h).symm.trans (found h'))

-- An error about a configuration, at its path and with its code.
structure Blames (field : Field) (index : Nat) (configuration : RuleKind × Json) (issue : Issue) :
    Prop where
  severity : issue.severity = .error
  path : issue.path = Site.path ⟨field, index, configuration.1⟩
  fault : configuration.1.fault? configuration.2 = some issue.code

-- Whether issues are made configuration by configuration, with codes of some sort.
def BlamesEach (field : Field) (issues : Declaration → Nat → List Issue) (code : String → Prop) :
    Prop :=
  ∀ declaration index, ∃ blame : RuleKind × Json → Option Issue,
    issues declaration index = (field.configured declaration).filterMap blame ∧
    ∀ configuration issue, blame configuration = some issue →
      field.Blames index configuration issue ∧ code issue.code

theorem blamesEach_malformed (field : Field) :
    field.BlamesEach field.malformed (· = "malformed_validation") := by
  refine fun declaration index => ⟨_, rfl, ?_⟩
  rintro ⟨kind, config⟩ issue h
  dsimp only at h
  split at h
  · cases h
  · next error read =>
    cases h
    exact ⟨⟨rfl, rfl, by rw [RuleKind.fault?, read]; rfl⟩, rfl⟩

theorem blamesEach_uncompiled (describe : Pattern.SyntaxFault → String) (field : Field) :
    field.BlamesEach (field.uncompiled describe) (· ≠ "malformed_validation") := by
  have other : "invalid_flags" ≠ "malformed_validation" := by decide
  have other' : "invalid_pattern" ≠ "malformed_validation" := by decide
  refine fun declaration index => ⟨_, rfl, ?_⟩
  rintro ⟨kind, config⟩ issue h
  dsimp only at h
  split at h
  · next source read =>
    split at h
    · cases h
    · next error compiled =>
      cases h
      refine ⟨⟨rfl, rfl, ?_⟩, other⟩
      simp only [RuleKind.fault?, read, compiled]
      rfl
    · next fault compiled =>
      cases h
      refine ⟨⟨rfl, rfl, ?_⟩, other'⟩
      simp only [RuleKind.fault?, read, compiled]
      rfl
  · cases h

theorem BlamesEach.of_mem (blames : field.BlamesEach issues code) {declaration : Declaration}
    {index : Nat} {issue : Issue} (h : issue ∈ issues declaration index) :
    ∃ configuration ∈ field.configured declaration,
      field.Blames index configuration issue ∧ code issue.code := by
  obtain ⟨blame, made, blamed⟩ := blames declaration index
  rw [made] at h
  obtain ⟨configuration, configured, h⟩ := List.mem_filterMap.mp h
  exact ⟨configuration, configured, blamed configuration issue h⟩

theorem BlamesEach.causes (blames : field.BlamesEach issues code) {issue : Issue}
    (h : issue ∈ field.eachDeclaration issues) :
    ∃ index kind, Site.Causes ⟨field, index, kind⟩ issue ∧ code issue.code := by
  obtain ⟨⟨declaration, index⟩, declared, h⟩ := List.mem_flatMap.mp h
  obtain ⟨⟨kind, config⟩, configured, ⟨severity, path, fault⟩, sort⟩ := blames.of_mem h
  have declared := List.mk_mem_zipIdx_iff_getElem?.mp declared
  exact ⟨index, kind, ⟨severity, path, declaration, config, declared, configured, fault⟩, sort⟩

-- Such issues stand at different paths: two in one declaration are about different kinds.
theorem BlamesEach.pairwise (blames : field.BlamesEach issues code) :
    (field.eachDeclaration issues).Pairwise (·.path ≠ ·.path) := by
  refine List.pairwise_flatMap.mpr ⟨?_, ?_⟩
  · rintro ⟨declaration, index⟩ -
    obtain ⟨blame, made, blamed⟩ := blames declaration index
    dsimp only
    rw [made]
    refine List.Pairwise.filterMap blame ?_ (field.pairwise_configured declaration)
    intro a b other issue ha issue' hb same
    rw [(blamed a issue ha).1.path, (blamed b issue' hb).1.path] at same
    exact other (Site.eq_of_path same).2.2
  · have indexes : (field.validations.zipIdx.map (·.2)).Nodup := by
      rw [List.zipIdx_map_snd]
      exact List.nodup_range'
    refine (List.pairwise_map.mp indexes).imp ?_
    rintro ⟨declaration, index⟩ ⟨declaration', index'⟩ other issue ha issue' hb same
    obtain ⟨_, -, blamed, -⟩ := blames.of_mem ha
    obtain ⟨_, -, blamed', -⟩ := blames.of_mem hb
    rw [blamed.path, blamed'.path] at same
    exact other (Site.eq_of_path same).2.1

theorem causes_of_expectedErrors {describe : Pattern.SyntaxFault → String} {issue : Issue}
    (h : issue ∈ field.expectedErrors describe) :
    ∃ index kind, Site.Causes ⟨field, index, kind⟩ issue := by
  rcases List.mem_append.mp h with h | h
  · obtain ⟨index, kind, causes, -⟩ := field.blamesEach_malformed.causes h
    exact ⟨index, kind, causes⟩
  · obtain ⟨index, kind, causes, -⟩ := (blamesEach_uncompiled describe field).causes h
    exact ⟨index, kind, causes⟩

-- A configuration that is malformed is not compiled, so it is reported once.
theorem pairwise_expectedErrors (describe : Pattern.SyntaxFault → String) (field : Field) :
    (field.expectedErrors describe).Pairwise (·.path ≠ ·.path) := by
  have uncompiled := blamesEach_uncompiled describe field
  refine List.pairwise_append.mpr
    ⟨field.blamesEach_malformed.pairwise, uncompiled.pairwise, ?_⟩
  intro issue h issue' h' same
  obtain ⟨index, kind, causes, malformed⟩ := field.blamesEach_malformed.causes h
  obtain ⟨index', kind', causes', compiled⟩ := uncompiled.causes h'
  obtain ⟨-, path, declaration, config, declared, configured, fault⟩ := causes
  obtain ⟨-, path', declaration', config', declared', configured', fault'⟩ := causes'
  obtain ⟨-, rfl, rfl⟩ := Site.eq_of_path (path.symm.trans (same.trans path'))
  obtain rfl := Option.some.inj (declared.symm.trans declared')
  obtain rfl := config_unique configured configured'
  exact compiled ((Option.some.inj (fault.symm.trans fault')).symm.trans malformed)

end Field

namespace Checklist

variable {options : Options} {fields : List Field}

theorem pairwise_errors (describe : Pattern.SyntaxFault → String)
    (distinct : (fields.map (·.id)).Nodup) :
    (reported describe options fields).errors.Pairwise (·.path ≠ ·.path) := by
  rw [errors_reported]
  refine List.pairwise_flatMap.mpr ⟨fun field _ => field.pairwise_expectedErrors describe, ?_⟩
  refine (List.pairwise_map.mp distinct).imp ?_
  intro field field' other issue h issue' h' same
  obtain ⟨index, kind, -, path, -⟩ := Field.causes_of_expectedErrors h
  obtain ⟨index', kind', -, path', -⟩ := Field.causes_of_expectedErrors h'
  exact other (Site.eq_of_path (path.symm.trans (same.trans path'))).1

-- Where compiling fails, its errors stand at different paths, and the path of each leads to the one
-- configuration that it comes from. No configuration is reported twice. All this does not depend on
-- the words in which patterns are refused.
theorem errors_attributed (distinct : (fields.map (·.id)).Nodup) {problems : List Problem}
    (failed : compile options fields = .error problems)
    (describe : Pattern.SyntaxFault → String) :
    let report := Problem.reportWith describe problems
    report.errors ≠ [] ∧
    (report.errors.map (·.path)).Nodup ∧
    (∀ issue ∈ report.errors, ∃ site : Site, site.Within fields ∧
      site.Causes issue ∧
      ∀ other : Site, other.Within fields → other.path = issue.path → other = site) ∧
    ∀ site : Site, (report.errors.filter (·.path == site.path)).length ≤ 1 := by
  have told : reported describe options fields = Problem.reportWith describe problems := by
    rw [reported, failed]
  rw [← told]
  have apart : ((reported describe options fields).errors.map (·.path)).Nodup :=
    List.pairwise_map.mpr (pairwise_errors describe distinct)
  refine ⟨fun none => ?_, apart, fun issue h => ?_, fun site => ?_⟩
  · obtain ⟨compiled, h⟩ := (exists_compile_iff_errors describe options fields).mpr none
    rw [failed] at h
    cases h
  · rw [errors_reported] at h
    obtain ⟨field, within, h⟩ := List.mem_flatMap.mp h
    obtain ⟨index, kind, causes⟩ := Field.causes_of_expectedErrors h
    refine ⟨⟨field, index, kind⟩, within, causes, fun other within' same => ?_⟩
    exact within'.eq_of_path distinct within (same.trans causes.2.1)
  · have once := List.nodup_iff_count_le_one.mp apart site.path
    rwa [List.count_eq_length_filter, List.filter_map, List.length_map] at once

-- The id of the second field reads like the path of a configuration of the first.
def slashedFields : List Field :=
  [{ id := "a"
     type := .text
     validations := [⟨[
       ("prohibitRegexp", .ofPairs [("flags", .string "q"), ("pattern", .string "a")]),
       ("size", .null)]⟩] },
    { id := "a/validations/0/size"
      type := .integer
      validations := [⟨[("range", .null)]⟩, ⟨[("range", .null)]⟩] }]

theorem errors_attributed_slashed :
    (slashedFields.map (·.id)).Nodup ∧
    ∃ problems, compile {} slashedFields = .error problems ∧
      let report := Problem.reportWith Pattern.SyntaxFault.message problems
      report.errors.map (·.path) =
        ["/fields/a/validations/0/size", "/fields/a/validations/0/prohibitRegexp",
          "/fields/a/validations/0/size/validations/0/range",
          "/fields/a/validations/0/size/validations/1/range"] ∧
      ∀ issue ∈ report.errors, ∃ site : Site, site.Within slashedFields ∧
        site.Causes issue ∧
        ∀ other : Site, other.Within slashedFields → other.path = issue.path → other = site := by
  have distinct : (slashedFields.map (·.id)).Nodup := by decide
  have paths : (reported Pattern.SyntaxFault.message {} slashedFields).errors.map (·.path) =
      ["/fields/a/validations/0/size", "/fields/a/validations/0/prohibitRegexp",
        "/fields/a/validations/0/size/validations/0/range",
        "/fields/a/validations/0/size/validations/1/range"] := by decide +kernel
  rw [reported] at paths
  cases failed : compile {} slashedFields with
  | ok compiled =>
    have none := (exists_compile_iff_errors Pattern.SyntaxFault.message {} slashedFields).mp
      ⟨compiled, failed⟩
    rw [failed] at paths
    rw [reported, failed] at none
    rw [none] at paths
    cases paths
  | error problems =>
    rw [failed] at paths
    obtain ⟨-, -, attributed, -⟩ :=
      errors_attributed distinct failed Pattern.SyntaxFault.message
    exact ⟨distinct, problems, rfl, paths, attributed⟩

end Checklist

end Vetting
