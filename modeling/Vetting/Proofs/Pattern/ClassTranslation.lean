import Vetting.Proofs.Pattern.ClassTokens

namespace Vetting.Pattern

open EcmaScript (ClassAtom IsClass classMem classSource dashesAlike)

namespace Parser

-- The tree of a single class.
theorem parse_class (t : ClassText) : parse t.text = .ok (.char t.set) := by
  have reads : readClass false (t.body ++ [']']) = .ok (.char t.set, []) := t.reads []
  have first : step (.start t.text) '[' (t.body ++ [']']) =
      .ok ((State.start t.text).push (.char t.set), []) := by
    show (readClass false (t.body ++ [']']) >>= _) = _
    rw [reads]
    rfl
  have steps : run (t.text.length + 1) (.start t.text) t.text =
      .ok ((State.start t.text).push (.char t.set)) := by
    show run (t.text.length + 1) _ ('[' :: (t.body ++ [']'])) = _
    rw [run, skipAllComments_cons (by decide)]
    show (step _ '[' (t.body ++ [']']) >>= _) = _
    rw [first]
    rfl
  rw [parse, steps]
  rfl

end Parser

-- A source without flags that is spelled as a single class.
theorem compile_class {source : String} {flags : Option String} (flagless : flags.getD "" = "")
    (t : Parser.ClassText) (spelled : Dialect.body {} source.toList = t.text) :
    ∃ pattern, compile ⟨source, flags⟩ = .ok pattern ∧
      ∀ c, pattern.isMatch (String.singleton c) = .ok (t.set.mem c) := by
  have program : Program.parse (Dialect.spell {} source) = .ok (.linear (.char t.set)) := by
    have text : (Dialect.spell {} source).toList = t.text := by
      rw [Dialect.spell, String.toList_ofList]
      exact spelled
    rw [Program.parse, text, Parser.parse_class]
    rfl
  have unset : Flags.parse (PatternSource.flagText ⟨source, flags⟩) = .ok {} := by
    rw [PatternSource.flagText, flagless]
    rfl
  refine ⟨⟨⟨source, flags⟩, .linear (.char t.set)⟩, ?_, fun c => ?_⟩
  · rw [compile, unset]
    simp only [program]
  · have plain : (Syntax.char t.set).IsPlain := trivial
    refine congrArg Except.ok (Bool.eq_iff_iff.mpr ?_)
    rw [Program.search_eq_ok plain rfl rfl, String.toList_singleton]
    constructor
    · rintro ⟨start, stop, -, member, -⟩
      cases start with
      | zero => exact member
      | succ start => cases member
    · intro member
      exact ⟨0, 1, Nat.zero_le _, member, rfl⟩

-- An empty class is spelled out, since its brackets would not stand alone in the dialect.
def Parser.ClassText.empty (negated : Bool) : Parser.ClassText :=
  if negated then .anything
  else ⟨"^\\s\\S".toList, .complement Parser.ClassText.anything.set, fun _ => rfl⟩

theorem body_empty (negated : Bool) :
    Dialect.body {} (classSource negated []).toList = (Parser.ClassText.empty negated).text := by
  cases negated <;> rfl

theorem mem_empty (negated : Bool) (c : Char) :
    (Parser.ClassText.empty negated).set.mem c = classMem negated [] c := by
  cases negated with
  | true => exact Parser.ClassText.mem_anything c
  | false =>
    rw [Parser.ClassText.empty, if_neg Bool.false_ne_true, CharSet.mem,
      Parser.ClassText.mem_anything]
    rfl

-- A body that the engine reads, as it is spelled, the way ECMAScript reads it.
structure ReadAlike (body : List ClassAtom) : Prop where
  known : ∀ a ∈ body, a ≠ .capitalB
  alike : dashesAlike .opening body = true

instance (body : List ClassAtom) : Decidable (ReadAlike body) :=
  decidable_of_iff ((∀ a ∈ body, a ≠ .capitalB) ∧ dashesAlike .opening body = true)
    ⟨fun ⟨known, alike⟩ => ⟨known, alike⟩, fun ⟨known, alike⟩ => ⟨known, alike⟩⟩

-- Classes keep their set in translation.
theorem isMatch_class {negated : Bool} {body : List ClassAtom} (valid : IsClass negated body)
    (alike : ReadAlike body) {flags : Option String} (flagless : flags.getD "" = "") :
    ∃ pattern, compile ⟨classSource negated body, flags⟩ = .ok pattern ∧
      ∀ c, pattern.isMatch (String.singleton c) = .ok (classMem negated body c) := by
  have spelled : ∃ t : Parser.ClassText,
      Dialect.body {} (classSource negated body).toList = t.text ∧
        ∀ c, t.set.mem c = classMem negated body c := by
    by_cases nonempty : body = []
    · subst nonempty
      exact ⟨.empty negated, body_empty negated, mem_empty negated⟩
    · obtain ⟨t, text, mem⟩ :=
        Parser.readClass_body valid nonempty alike.known alike.alike
      refine ⟨t, ?_, mem⟩
      rw [Dialect.body_class {} valid nonempty, Parser.ClassText.text, text]
  obtain ⟨t, text, mem⟩ := spelled
  obtain ⟨pattern, compiled, matched⟩ := compile_class flagless t text
  refine ⟨pattern, compiled, fun c => ?_⟩
  rw [matched, mem]

-- A character that may stand for itself in a class.
def EcmaScript.ClassAtom.plain (c : Char) (h : c ∉ ['\\', ']', '-'] := by decide) : ClassAtom :=
  .literal c h

def EcmaScript.ClassAtom.digit : ClassAtom := .shorthand .digit false

-- The body of `[^\d-.\]+-/\cJ\0(?#-]`. In a class no comment begins.
def mixedBody : List ClassAtom :=
  [.digit, .dash, .plain '.', .escaped ']' (by decide), .plain '+', .dash, .plain '/',
    .control 'J' (by decide), .null, .plain '(', .plain '?', .plain '#', .dash]

theorem isMatch_class_mixedBody :
    ∃ pattern, compile ⟨"[^\\d-.\\]+-/\\cJ\\0(?#-]", some ""⟩ = .ok pattern ∧
      pattern.isMatch "," = .ok false ∧ pattern.isMatch "(" = .ok false ∧
      pattern.isMatch "a" = .ok true := by
  have valid : IsClass true mixedBody := by decide
  have alike : ReadAlike mixedBody := by decide
  have flagless : (some "").getD "" = "" := rfl
  obtain ⟨pattern, compiled, matched⟩ := isMatch_class valid alike flagless
  have source : classSource true mixedBody = "[^\\d-.\\]+-/\\cJ\\0(?#-]" := by decide +kernel
  rw [source] at compiled
  exact ⟨pattern, compiled, matched ',', matched '(', matched 'a'⟩

-- Whether a class, compiled without flags, answers wrongly for a character.
def Misread (body : List ClassAtom) (c : Char) : Prop :=
  IsClass false body ∧
    (·.isMatch (String.singleton c)) <$> compile ⟨classSource false body, some ""⟩ =
      .ok (.ok !classMem false body c)

instance (body : List ClassAtom) (c : Char) : Decidable (Misread body c) :=
  inferInstanceAs (Decidable (_ ∧ _))

-- What the engine reads in its own way: `--` as a difference, a dash between a character and a
-- shorthand as a range, a dash in front of a character as one end of a range or not, and the
-- spelling of `\B` by its characters.
theorem misread_classes :
    Misread [.plain '+', .dash, .dash] ',' ∧
      Misread [.plain 'a', .dash, .plain 'c', .dash, .dash] '-' ∧
      Misread [.plain 'a', .dash, .plain 'c', .dash, .dash, .dash] '-' ∧
      Misread [.plain 'a', .dash, .plain 'c', .dash, .dash, .plain 'e'] 'A' ∧
      Misread [.plain 'a', .dash, .plain 'c', .dash, .dash, .digit] '5' ∧
      Misread [.dash, .dash, .plain 'a'] 'A' ∧
      Misread [.plain '+', .dash, .digit] ',' ∧
      Misread [.digit, .dash, .dash, .plain 'a'] 'A' ∧
      Misread [.digit, .dash, .plain 'a', .dash, .plain 'z'] 'b' ∧
      Misread [.digit, .dash, .plain 'a', .dash, .dash, .plain 'z'] 'A' ∧
      Misread [.digit, .dash, .plain 'a', .dash, .dash, .dash] '-' ∧
      Misread [.digit, .dash, .plain 'a', .dash, .dash, .digit] '5' ∧
      Misread [.digit, .dash, .digit, .dash, .dash, .dash, .plain 'a'] 'a' ∧
      Misread [.digit, .dash, .digit, .dash, .dash, .shorthand .word false] '/' ∧
      Misread [.capitalB] '(' := by
  decide +kernel

end Vetting.Pattern
