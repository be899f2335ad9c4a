import Vetting.Proofs.Pattern.Translation
import Vetting.Proofs.Text.Folding

open Vetting.Pattern.EcmaScript (Shorthand)
open Vetting.Pattern.Parser (ClassText)

namespace Vetting.Pattern

namespace CharSet

-- A set whose characters share their case with no others, as far as ranges show it.
def isUncased : CharSet → Bool
  | empty => true
  | single c => Text.isUncasedRange c c
  | range first last => Text.isUncasedRange first last
  | union a b => a.isUncased && b.isUncased
  | _ => false

theorem mem_caseVariants_iff {a : CharSet} (uncased : a.isUncased = true) {d : Char}
    (hd : a.mem d = true) (c : Char) : d ∈ Text.caseVariants c ↔ d = c := by
  induction a with
  | empty => cases hd
  | single e =>
    obtain rfl : d = e := by simpa [mem] using hd
    exact Text.mem_caseVariants_of_isUncasedRange uncased (Char.le_refl d) (Char.le_refl d) c
  | range first last =>
    simp only [mem, Bool.and_eq_true, decide_eq_true_eq] at hd
    exact Text.mem_caseVariants_of_isUncasedRange uncased hd.1 hd.2 c
  | union a b iha ihb =>
    simp only [isUncased, Bool.and_eq_true] at uncased
    simp only [mem, Bool.or_eq_true] at hd
    exact hd.elim (iha uncased.1) (ihb uncased.2)
  | _ => cases uncased

-- Such a set is closed under case.
theorem mem_caseless_of_isUncased {a : CharSet} (uncased : a.isUncased = true) (c : Char) :
    (caseless a).mem c = a.mem c := by
  rw [Bool.eq_iff_iff, mem, List.any_eq_true]
  constructor
  · rintro ⟨d, variant, hd⟩
    rwa [← (mem_caseVariants_iff uncased hd c).mp variant]
  · exact fun hc => ⟨c, (mem_caseVariants_iff uncased hc c).mpr rfl, hc⟩

end CharSet

namespace EcmaScript

-- The members of a shorthand when case is ignored or not: the strays count as word characters.
def Shorthand.memUnder (ignoreCase : Bool) (s : Shorthand) (c : Char) : Bool :=
  s.mem c || (ignoreCase && s == .word && Text.strays.contains c)

-- Whether there is such a word character on exactly one side of a place.
def AtBoundaryUnder (ignoreCase : Bool) (text : List Char) (place : Nat) : Prop :=
  ((before? text place).any (Shorthand.word.memUnder ignoreCase) !=
    text[place]?.any (Shorthand.word.memUnder ignoreCase)) = true

theorem isWord_iff (c : Char) :
    isWord c = true ↔ (0x61 ≤ c.toNat ∧ c.toNat ≤ 0x7A) ∨ (0x41 ≤ c.toNat ∧ c.toNat ≤ 0x5A) ∨
      (0x30 ≤ c.toNat ∧ c.toNat ≤ 0x39) ∨ c.toNat = 0x5F := by
  have underscore : c = '_' ↔ c.toNat = 0x5F := Char.toNat_inj.symm
  simp only [isWord, isDigit, Bool.or_eq_true, Bool.and_eq_true, decide_eq_true_eq, beq_iff_eq,
    underscore, or_assoc]
  rfl

end EcmaScript

namespace CharSet

theorem mem_unionAll_word :
    (unionAll (Shorthand.sets .word)).mem = EcmaScript.isWord := by
  funext d
  rw [mem_unionAll, Shorthand.mem_sets]
  rfl

-- Only a stray can fold onto a word character without being one.
theorem mem_caseless_word (c : Char) :
    (caseless (unionAll (Shorthand.sets .word))).mem c = Shorthand.word.memUnder true c := by
  have members : Shorthand.word.memUnder true c = true ↔
      EcmaScript.isWord c = true ∨ c ∈ Text.strays := by
    simp [Shorthand.memUnder, Shorthand.mem]
  rw [Bool.eq_iff_iff, members, mem, mem_unionAll_word, List.any_eq_true]
  constructor
  · rintro ⟨d, variant, word⟩
    have folded : EcmaScript.isWord (Text.fold c) = true := by
      obtain rfl | ⟨row, hrow, folds⟩ := Text.mem_caseVariants variant
      · exact word
      · rw [EcmaScript.isWord_iff] at word
        exact (EcmaScript.isWord_iff _).mpr (.inl (folds.letters hrow (by omega)).2)
    obtain ⟨same, -⟩ | ⟨row, hrow, folds⟩ := Text.fold_cases c
    · exact .inl (same ▸ folded)
    · rw [EcmaScript.isWord_iff] at folded
      obtain ⟨capital | stray, -⟩ := folds.letters hrow (by omega)
      · exact .inl ((EcmaScript.isWord_iff c).mpr (.inr (.inl capital)))
      · exact .inr (Text.mem_strays_of_toNat stray)
  · intro h
    refine ⟨Text.fold c, List.mem_cons_self, ?_⟩
    obtain word | stray := h
    · obtain ⟨same, -⟩ | ⟨row, hrow, folds⟩ := Text.fold_cases c
      · rwa [same]
      · rw [EcmaScript.isWord_iff] at word
        exact (EcmaScript.isWord_iff _).mpr (.inl (folds.letters hrow (by omega)).2)
    · obtain rfl | rfl := List.mem_pair.mp stray <;> decide +kernel

theorem mem_withCase_sets (ignoreCase : Bool) (s : Shorthand) (c : Char) :
    ((unionAll s.sets).withCase ignoreCase).mem c = s.memUnder ignoreCase c := by
  have plain : (unionAll s.sets).mem c = s.mem c := by rw [mem_unionAll, s.mem_sets]
  cases ignoreCase with
  | false => simp [withCase, Shorthand.memUnder, plain]
  | true =>
    have uncased (h : (unionAll s.sets).isUncased = true) (other : s ≠ .word) :
        (caseless (unionAll s.sets)).mem c = s.memUnder true c := by
      rw [mem_caseless_of_isUncased h, plain]
      simp [Shorthand.memUnder, other]
    cases s with
    | digit => exact uncased (by decide +kernel) (by decide)
    | word => exact mem_caseless_word c
    | space => exact uncased (by decide +kernel) (by decide)

end CharSet

-- The tree of a word boundary, with the set of its word characters.
def Syntax.boundary (word : CharSet) : Syntax :=
  .scope (.alt (.seq (.look true true (.char word)) (.look false false (.char word)))
    (.seq (.look true false (.char word)) (.look false true (.char word))))

namespace Parser

theorem parse_shorthand (ignoreCase : Bool) (s : Shorthand) (negated : Bool) :
    parse (Dialect.mode ignoreCase ++ (ClassText.shorthand s negated).text) =
      .ok (.char (((CharSet.unionAll s.sets).withCase ignoreCase).negatedIf negated)) := by
  cases ignoreCase <;> cases s <;> cases negated <;> rfl

theorem parse_boundary (ignoreCase : Bool) :
    parse (Dialect.mode ignoreCase ++ Dialect.boundary) =
      .ok (.boundary ((CharSet.unionAll (Shorthand.sets .word)).withCase ignoreCase)) := by
  cases ignoreCase <;> rfl

end Parser

-- A word boundary has a word character on exactly one side.
theorem Syntax.spans_boundary (word : CharSet) (text : List Char) (start stop : Nat) :
    (boundary word).Spans text start stop ↔
      ((before? text start).any word.mem != text[start]?.any word.mem) = true ∧ start = stop := by
  have looks (negative negative' : Bool) :
      (seq (look true negative (.char word)) (look false negative' (.char word))).Spans
          text start stop ↔
        ((before? text start).any word.mem = !negative ∧
          text[start]?.any word.mem = !negative') ∧ start = stop := by
    change (∃ next, Spans _ _ _ _ ∧ Spans _ _ _ _) ↔ _
    simp only [spans_look_char, if_true, Bool.false_eq_true, if_false]
    constructor
    · rintro ⟨_, ⟨first, rfl⟩, second, rfl⟩
      exact ⟨⟨first, second⟩, rfl⟩
    · rintro ⟨⟨first, second⟩, rfl⟩
      exact ⟨_, ⟨first, rfl⟩, second, rfl⟩
  change _ ∨ _ ↔ _
  rw [looks, looks, ← or_and_right]
  cases (before? text start).any word.mem <;> cases text[start]?.any word.mem <;> simp

-- What a source compiles to, from the tree of its text.
theorem compile_of_parse {pattern : String} {flags : Option String} {read : Flags} {tree : Syntax}
    {program : Program} (accepted : Flags.parse (flags.getD "") = .ok read)
    (htree : Parser.parse (Dialect.mode read.ignoreCase ++ Dialect.body read pattern.toList) =
      .ok tree)
    (hprogram : Program.ofSyntax tree = .ok program) :
    compile ⟨pattern, flags⟩ = .ok ⟨⟨pattern, flags⟩, program⟩ := by
  have hprogram : Program.parse (Dialect.spell read pattern) = .ok program := by
    rw [Program.parse, Dialect.toList_spell]
    exact Outcome.bind_eq_ok.mpr ⟨tree, htree, hprogram⟩
  unfold compile PatternSource.flagText
  rw [accepted]
  dsimp only
  rw [hprogram]

-- A single character is matched exactly by the sets that it is in.
theorem isMatch_char (source : PatternSource) (set : CharSet) (c : Char) :
    isMatch ⟨source, .linear (.char set)⟩ (String.ofList [c]) = .ok (set.mem c) := by
  have plain : (Syntax.char set).IsPlain := trivial
  have answers {found : Bool}
      (h : isMatch ⟨source, .linear (.char set)⟩ (String.ofList [c]) = .ok found) :
      found = set.mem c := by
    rw [Bool.eq_iff_iff, Program.search_eq_ok plain rfl h, String.toList_ofList]
    constructor
    · rintro ⟨start, stop, -, h, -⟩
      obtain ⟨d, hd, member⟩ := Option.any_eq_true _ _ |>.mp h
      obtain rfl : d = c := List.mem_singleton.mp (List.mem_of_getElem? hd)
      exact member
    · exact fun member => ⟨0, 1, Nat.zero_le _, member, rfl⟩
  exact congrArg Except.ok (answers rfl)

-- The shorthands and the word boundary on their own, under any flags that are accepted. Each
-- shorthand has an answer on every character, and each answer of the boundary is right, by a set of
-- word characters that has the strays in it exactly under flag `i`.
theorem isMatch_escapes {flags : Option String} {read : Flags}
    (accepted : Flags.parse (flags.getD "") = .ok read) :
    (∀ (s : Shorthand) (negated : Bool), ∃ pattern,
      compile ⟨String.ofList ['\\', s.letter negated], flags⟩ = .ok pattern ∧
      ∀ c, pattern.isMatch (String.ofList [c]) =
        .ok (s.memUnder read.ignoreCase c != negated)) ∧
    ∃ pattern, compile ⟨"\\b", flags⟩ = .ok pattern ∧
      ∀ text found, pattern.isMatch text = .ok found →
        (found = true ↔ ∃ place ≤ text.toList.length,
          EcmaScript.AtBoundaryUnder read.ignoreCase text.toList place) := by
  constructor
  · intro s negated
    have spelled : Dialect.body read ['\\', s.letter negated] =
        (ClassText.shorthand s negated).text :=
      (Dialect.spells_atom read (.class s negated)).body
    have tree := Parser.parse_shorthand read.ignoreCase s negated
    rw [← spelled, ← String.toList_ofList (l := ['\\', s.letter negated])] at tree
    refine ⟨_, compile_of_parse accepted tree rfl, fun c => ?_⟩
    rw [isMatch_char, CharSet.mem_negatedIf, CharSet.mem_withCase_sets]
  · have words : ((CharSet.unionAll (Shorthand.sets .word)).withCase read.ignoreCase).mem =
        Shorthand.word.memUnder read.ignoreCase :=
      funext (CharSet.mem_withCase_sets read.ignoreCase .word)
    refine ⟨_, compile_of_parse accepted (Parser.parse_boundary read.ignoreCase) rfl, ?_⟩
    intro text found hfound
    have plain : (Syntax.boundary ((CharSet.unionAll (Shorthand.sets .word)).withCase
        read.ignoreCase)).IsPlain := by
      simp [Syntax.boundary, Syntax.IsPlain, Syntax.isFixedLength]
    rw [Program.search_eq_ok plain rfl hfound]
    simp only [Syntax.spans_boundary, words, EcmaScript.AtBoundaryUnder]
    constructor
    · rintro ⟨start, _, hstart, apart, rfl⟩
      exact ⟨start, hstart, apart⟩
    · rintro ⟨place, hplace, apart⟩
      exact ⟨place, place, hplace, apart, rfl⟩

theorem isMatch_escapes_global :
    Flags.parse ((some "gi").getD "") = .ok { ignoreCase := true } ∧
    (∃ pattern, compile ⟨String.ofList ['\\', 'W'], some "gi"⟩ = .ok pattern ∧
      pattern.isMatch (String.ofList ['k']) = .ok false ∧
      pattern.isMatch (String.ofList ['é']) = .ok true) ∧
    ∃ pattern, compile ⟨"\\b", some "gi"⟩ = .ok pattern ∧ pattern.isMatch "é!k" = .ok true ∧
      ∃ place ≤ "é!k".toList.length, EcmaScript.AtBoundaryUnder true "é!k".toList place := by
  have accepted : Flags.parse ((some "gi").getD "") = .ok { ignoreCase := true } := by
    decide +kernel
  have answer : (·.isMatch "é!k") <$> compile ⟨"\\b", some "gi"⟩ = .ok (.ok true) := by
    decide +kernel
  obtain ⟨shorthands, boundary, hboundary, answers⟩ := isMatch_escapes accepted
  obtain ⟨noWord, hnoWord, members⟩ := shorthands .word true
  obtain ⟨_, same, hmatch⟩ := Outcome.map_eq_ok.mp answer
  cases hboundary.symm.trans same
  refine ⟨accepted, ⟨noWord, hnoWord, ?_, ?_⟩, boundary, hboundary, hmatch,
    (answers _ _ hmatch).mp rfl⟩
  · exact (members 'k').trans (congrArg Except.ok (by decide +kernel))
  · exact (members 'é').trans (congrArg Except.ok (by decide +kernel))

-- Under flag `i` the strays are taken for word characters, which they are not in ECMAScript.
theorem misread_strays :
    Text.strays = ['\u017f', '\u212a'] ∧
    ∀ c ∈ Text.strays, EcmaScript.isWord c = false ∧
      (∀ place, ¬EcmaScript.AtBoundary [c] place) ∧
      (·.isMatch (String.ofList [c])) <$> compile ⟨"\\w", some "i"⟩ = .ok (.ok true) ∧
      (·.isMatch (String.ofList [c])) <$> compile ⟨"\\W", some "i"⟩ = .ok (.ok false) ∧
      (·.isMatch (String.ofList [c])) <$> compile ⟨"\\b", some "i"⟩ = .ok (.ok true) := by
  refine ⟨rfl, fun c hc => ?_⟩
  have noWord : EcmaScript.isWord c = false := by
    obtain rfl | rfl := List.mem_pair.mp hc <;> decide +kernel
  refine ⟨noWord, fun place => ?_, ?_⟩
  · obtain _ | _ | place := place <;> simp [EcmaScript.AtBoundary, before?, noWord]
  · obtain rfl | rfl := List.mem_pair.mp hc <;> decide +kernel

end Vetting.Pattern
