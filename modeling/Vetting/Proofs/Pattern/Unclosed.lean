import Vetting.Proofs.Pattern.Passage

namespace Vetting.Pattern

open Dialect (Nesting mode)

namespace Parser

-- A text that ends in a class if it is read on in some classes.
structure Unclosed (depth : Nat) (cs : List Char) : Prop where
  native : Native depth cs
  inside : 0 < (Nesting.through ⟨depth, false⟩ cs).depth

theorem Passes.unclosed {depth depth' : Nat} {cs rest : List Char}
    (h : Passes depth cs depth' rest) (unclosed : Unclosed depth cs) : Unclosed depth' rest := by
  refine ⟨h.native unclosed.native, ?_⟩
  obtain ⟨text, rfl, through⟩ := h
  have inside := unclosed.inside
  rwa [Nesting.through_append, through] at inside

section Steps

variable {state next : State} {cs : List Char}

-- A run with enough fuel does not get to the end of such a text.
theorem run_unclosed {fuel : Nat} (unclosed : Unclosed 0 cs) (enough : cs.length < fuel) :
    run fuel state cs ≠ .ok next := by
  intro h
  induction fuel generalizing state cs with
  | zero => cases enough
  | succ fuel ih =>
    obtain ⟨rfl, -⟩ | ⟨c, tail, later, rest, rfl, -, advanced, h⟩ := run_cases unclosed.native h
    · cases unclosed.inside
    · have shorter := advanced.shorter
      exact ih (advanced.passes.unclosed unclosed) (by omega) h

theorem parse_unclosed (unclosed : Unclosed 0 cs) (ignoreCase : Bool) :
    ∃ fault, parse (mode ignoreCase ++ cs) = .error fault := by
  cases h : parse (mode ignoreCase ++ cs) with
  | error fault => exact ⟨fault, rfl⟩
  | ok tree =>
    obtain ⟨fuel, final, last, enough, ran, -⟩ := run_of_parse h
    exact absurd ran (run_unclosed unclosed enough)

end Steps

end Parser

open EcmaScript (Cursor HasForeignGroup)
open Dialect (HasEmptyClass body spell)

-- A pattern that ends in a class is refused as a pattern, whatever its flags are.
theorem compile_unclosed {source : PatternSource} {flags : Flags}
    (accepted : Flags.parse source.flagText = .ok flags)
    (inside : (Cursor.after source.pattern.toList).isInside = true)
    (native : ¬ HasForeignGroup source.pattern.toList) :
    ∃ fault, compile source = .error (.pattern fault) := by
  have written := Dialect.native_body flags native
  have deep : (Nesting.after (body flags source.pattern.toList)).depth ≠ 0 := by
    rw [Dialect.after_body, Ne, Dialect.depth_nestingAt_eq_zero, inside]
    decide
  obtain ⟨fault, refused⟩ :=
    Parser.parse_unclosed ⟨written, Nat.pos_of_ne_zero deep⟩ flags.ignoreCase
  refine ⟨fault, ?_⟩
  rw [compile, accepted]
  dsimp only
  rw [Program.parse, Dialect.toList_spell, refused]
  rfl

-- The spelling of a pattern is in a class where the pattern is.
theorem spell_keeps_classes (pattern : String) :
    (∀ flags : Flags,
      ((Nesting.after (spell flags pattern).toList).depth = 0 ↔
        (Cursor.after pattern.toList).isInside = false) ∧
      ¬ HasEmptyClass (spell flags pattern).toList ∧
      (Cursor.after pattern.toList = .inside →
        Nesting.after (spell flags (pattern ++ "]")).toList = ⟨0, false⟩ ∧
        ∀ rest, (spell flags (pattern ++ "]" ++ rest)).toList =
          (spell flags (pattern ++ "]")).toList ++ body flags rest.toList)) ∧
    ∀ flagText, (∃ flags, Flags.parse (flagText.getD "") = .ok flags) →
      (Cursor.after pattern.toList).isInside = true → ¬ HasForeignGroup pattern.toList →
        ∃ fault, compile ⟨pattern, flagText⟩ = .error (.pattern fault) := by
  refine ⟨fun flags => ⟨?_, Dialect.not_hasEmptyClass flags pattern, fun inside => ?_⟩, ?_⟩
  · rw [Dialect.after_spell]
    exact Dialect.depth_nestingAt_eq_zero _
  · exact ⟨Dialect.after_closed flags inside, Dialect.toList_spell_closed flags inside⟩
  · rintro flagText ⟨flags, accepted⟩ inside native
    exact compile_unclosed accepted inside native

-- `(?:x)[^\b` under `i` and `m`: the class is still open, and the group is no foreign one.
theorem spell_keeps_classes_open :
    ¬ HasForeignGroup "(?:x)[^\\b".toList ∧
      ∃ fault, compile ⟨"(?:x)[^\\b", some "im"⟩ = .error (.pattern fault) := by
  have native : ¬ HasForeignGroup "(?:x)[^\\b".toList := by
    rintro ⟨before, mark, after, text, -, foreign⟩
    cases before with
    | nil =>
      have third : "(?:x)[^\\b".toList[2]? = some mark := by rw [text]; rfl
      obtain rfl : ':' = mark := Option.some.inj third
      exact absurd foreign (by decide)
    | cons c before =>
      have later : '(' ∈ "(?:x)[^\\b".toList.tail := by simp [text]
      exact absurd later (by decide)
  exact ⟨native, (spell_keeps_classes _).2 (some "im") ⟨_, rfl⟩ (by decide) native⟩

-- The engine sees no bracket in a comment, which for ECMAScript is none.
example : (Cursor.after "(?#[)".toList).isInside = true ∧
    (compile ⟨"(?#[)", none⟩).isOk = true := by decide +kernel

end Vetting.Pattern
