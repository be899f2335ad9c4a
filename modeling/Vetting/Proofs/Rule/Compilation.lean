import Vetting.Proofs.Outcome
import Vetting.Rule.Checklist

namespace Vetting

namespace Findings

variable {α β : Type}

@[simp] theorem results_append (a b : Findings α) :
    results (a ++ b) = results a ++ results b := List.filterMap_append

@[simp] theorem problems_append (a b : Findings α) :
    problems (a ++ b) = problems a ++ problems b := List.filterMap_append

@[simp] theorem results_errors (keys : List β) (f : β → Problem) :
    results (keys.map fun key => (.error (f key) : Except Problem α)) = [] := by
  simp [results]

@[simp] theorem results_oks (xs : List β) (f : β → α) :
    results (xs.map fun x => (.ok (f x) : Except Problem α)) = xs.map f := by
  induction xs with
  | nil => rfl
  | cons x xs ih => simp [results]

-- Where every failure of a reader is an error, a list without errors was read element by element.
theorem forall₂_results (xs : List β) {f : β → Except Problem α}
    (fatal : ∀ x problem, f x = .error problem → problem.isError = true)
    (clean : ∀ problem ∈ problems (xs.map f), problem.isError = false) :
    List.Forall₂ (fun x y => f x = .ok y) xs (results (xs.map f)) := by
  induction xs with
  | nil => exact .nil
  | cons x xs ih =>
    cases hx : f x with
    | error problem =>
      have harmless := clean problem (by simp [problems, hx])
      rw [fatal x problem hx] at harmless
      contradiction
    | ok y =>
      have rest : ∀ problem ∈ problems (xs.map f), problem.isError = false := fun problem hp =>
        clean problem (by simpa [problems, hx] using hp)
      have read : results ((x :: xs).map f) = y :: results (xs.map f) := by simp [results, hx]
      rw [read]
      exact .cons hx (ih rest)

end Findings

theorem Problem.isError_ofCompileError (fieldId path : String) (error : Pattern.CompileError) :
    (Problem.ofCompileError fieldId path error).isError = true := by
  cases error <;> rfl

-- The kinds that are checked on each type of field, in the order of the checks.
def RuleKind.checkedOn : FieldType → List RuleKind
  | .symbol | .text => [.unique, .size, .prohibitRegexp]
  | .integer | .float => [.range]
  | _ => []

theorem RuleKind.ofFieldType_eq (type : FieldType) : ofFieldType type = checkedOn type := by
  cases type <;> rfl

namespace Field

theorem isError_of_readRule {field : Field} {path : String} {kind : RuleKind} {config : Json}
    {problem : Problem} (h : field.readRule path kind config = .error problem) :
    problem.isError = true := by
  unfold readRule at h
  split at h
  · cases h
  · cases h; rfl

theorem readRule_eq_ok {field : Field} {path : String} {kind : RuleKind} {config : Json}
    {declared : DeclaredRule} (h : field.readRule path kind config = .ok declared) :
    Rule.ofConfig kind config = .ok declared.rule := by
  unfold readRule at h
  split at h
  · rename_i rule hrule
    cases h
    exact hrule
  · cases h

-- The configurations of the checked kinds that one declaration carries.
def configured (field : Field) (declaration : Declaration) : List (RuleKind × Json) :=
  (RuleKind.checkedOn field.type).filterMap fun kind =>
    (declaration.get? kind.key).map (kind, ·)

theorem mem_configured {field : Field} {declaration : Declaration} {kind : RuleKind} {config : Json}
    (known : kind ∈ RuleKind.ofFieldType field.type)
    (present : declaration.get? kind.key = some config) :
    (kind, config) ∈ field.configured declaration := by
  rw [RuleKind.ofFieldType_eq] at known
  exact List.mem_filterMap.mpr ⟨kind, known, by rw [present, Option.map_some]⟩

theorem results_readDeclaration (field : Field) (index : Nat) (declaration : Declaration) :
    Findings.results (field.readDeclaration index declaration) =
      Findings.results ((field.configured declaration).map fun (kind, config) =>
        field.readRule s!"{field.declarationPath index}/{kind.key}" kind config) := by
  simp only [readDeclaration, RuleKind.ofFieldType_eq, Findings.results_append,
    Findings.results_errors, List.append_nil, configured, List.map_filterMap, Option.map_map,
    Function.comp_def]

-- What a check was made from.
inductive Origin where
  | declared (kind : RuleKind) (config : Json)
  | required

-- The origins of a field's checks, in order.
def origins (field : Field) : List Origin :=
  (field.validations.flatMap fun declaration =>
    (field.configured declaration).map fun (kind, config) => .declared kind config) ++
    if field.required then [.required] else []

-- The rule that an origin stands for.
def Origin.Reads : Origin → Rule → Prop
  | .declared kind config, rule => Rule.ofConfig kind config = .ok rule
  | .required, rule => rule = .required

-- Every problem of the field is a warning.
def Sound (options : Options) (field : Field) : Prop :=
  ∀ problem ∈ field.problems options, problem.isError = false

theorem forall₂_configured {field : Field} {index : Nat} {declaration : Declaration}
    (clean : ∀ problem ∈ Findings.problems (field.readDeclaration index declaration),
      problem.isError = false) :
    List.Forall₂ (fun origin declared => Origin.Reads origin declared.rule)
      ((field.configured declaration).map fun (kind, config) => .declared kind config)
      (Findings.results (field.readDeclaration index declaration)) := by
  rw [results_readDeclaration, List.forall₂_map_left_iff]
  have read := Findings.forall₂_results (field.configured declaration)
    (f := fun (kind, config) =>
      field.readRule s!"{field.declarationPath index}/{kind.key}" kind config)
    (fun _ _ h => isError_of_readRule h) ?_
  · exact read.imp fun _ _ h => readRule_eq_ok h
  · intro problem hp
    apply clean problem
    simp only [readDeclaration, RuleKind.ofFieldType_eq, Findings.problems_append, List.mem_append]
    left
    simpa only [configured, List.map_filterMap, Option.map_map, Function.comp_def] using hp

theorem forall₂_declaredRules {field : Field}
    (clean : ∀ problem ∈ field.declarationProblems, problem.isError = false) :
    List.Forall₂ (fun origin declared => Origin.Reads origin declared.rule)
      field.origins field.declaredRules := by
  unfold declarationProblems readDeclarations at clean
  unfold origins declaredRules readDeclarations
  rw [Findings.results_append, Findings.results_oks]
  rw [Findings.problems_append] at clean
  apply List.rel_append
  · have clean := fun problem hp => clean problem (List.mem_append_left _ hp)
    generalize field.validations = validations at clean ⊢
    generalize 0 = start at clean ⊢
    induction validations generalizing start with
    | nil => exact .nil
    | cons declaration rest ih =>
      simp only [List.zipIdx_cons, List.flatMap_cons, Findings.results_append,
        Findings.problems_append, List.mem_append] at clean ⊢
      exact List.rel_append (forall₂_configured fun problem hp => clean problem (.inl hp))
        (ih (start + 1) fun problem hp => clean problem (.inr hp))
  · unfold sharedRules
    cases field.required with
    | true => exact .cons rfl .nil
    | false => exact .nil

-- The checks of a field without errors, each with the declared rule that it was made from.
theorem Sound.forall₂_compiled {options : Options} {field : Field} (sound : field.Sound options) :
    List.Forall₂ (fun declared check => declared.rule.compile options = .ok check)
      field.declaredRules (field.checks options) := by
  have compiled : List.Forall₂ (fun declared check => declared.compile options field.id = .ok check)
      field.declaredRules (field.checks options) := by
    apply Findings.forall₂_results
    · intro rule problem h
      unfold DeclaredRule.compile at h
      cases hr : rule.rule.compile options with
      | error error =>
        rw [hr] at h
        cases h
        exact Problem.isError_ofCompileError ..
      | ok check =>
        rw [hr] at h
        cases h
    · intro problem hp
      exact sound problem (List.mem_append_right _ hp)
  exact compiled.imp fun _ _ h => Outcome.mapError_eq_ok.mp h

theorem Sound.forall₂_rules {options : Options} {field : Field} (sound : field.Sound options) :
    List.Forall₂ (fun rule check => rule.compile options = .ok check) field.rules
      (field.checks options) := by
  unfold rules
  rw [List.forall₂_map_left_iff]
  exact sound.forall₂_compiled

-- The checks of a field without errors, each with the origin that it was made from.
theorem Sound.forall₂_checks {options : Options} {field : Field} (sound : field.Sound options) :
    List.Forall₂ (fun origin check => ∃ rule, Origin.Reads origin rule ∧
      rule.compile options = .ok check) field.origins (field.checks options) := by
  have declared := forall₂_declaredRules fun problem hp =>
    sound problem (List.mem_append_left _ hp)
  exact Outcome.forall₂_trans (fun _ rule _ hread hcompile => ⟨rule.rule, hread, hcompile⟩)
    declared sound.forall₂_compiled

end Field

namespace Checklist

-- What compiling a list of fields yields, and when it does.
theorem compile_eq_ok {options : Options} {fields : List Field} {checklist : Checklist}
    {warnings : List Problem} (h : compile options fields = .ok (checklist, warnings)) :
    checklist.fields = (fields.map fun field => ⟨field.id, field.checks options⟩) ∧
      ∀ field ∈ fields, field.Sound options := by
  simp only [compile] at h
  split at h
  · cases h
  · rename_i clean
    cases h
    refine ⟨rfl, ?_⟩
    intro field hf problem hp
    simp only [List.any_eq_true, List.mem_flatMap, not_exists, not_and] at clean
    exact Bool.eq_false_iff.mpr (clean problem ⟨field, hf, hp⟩)

end Checklist

end Vetting
