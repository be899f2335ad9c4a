import Vetting.Proofs.Pattern.Search
import Vetting.Proofs.Pattern.Shorthands
import Vetting.Proofs.Pattern.Trees

open Vetting.Pattern.Parser (Piece ClassText)

namespace Vetting.Pattern

namespace Flags

-- The letters read so far and those to come decide what the flags say.
theorem readFrom_eq_ok {flags result : Flags} {seen letters : List Char}
    (h : readFrom flags seen letters = .ok result) :
    result = { ignoreCase := flags.ignoreCase || decide ('i' ∈ letters)
               multiLine := flags.multiLine || decide ('m' ∈ letters)
               dotAll := flags.dotAll || decide ('s' ∈ letters) } := by
  induction letters generalizing flags seen with
  | nil =>
    cases h
    simp
  | cons c rest ih =>
    rw [readFrom] at h
    split at h
    · cases h
    · split at h
      · next next hnext =>
        rw [ih h]
        unfold add? at hnext
        split at hnext <;> cases hnext <;> simp [List.mem_cons, *]
      · cases h

theorem parse_eq_ok {text : String} {flags : Flags} (h : parse text = .ok flags) :
    flags = { ignoreCase := 'i' ∈ text.toList
              multiLine := 'm' ∈ text.toList
              dotAll := 's' ∈ text.toList } := by
  rw [readFrom_eq_ok h]
  simp

end Flags

namespace Dialect

-- The prefix of a pattern whose case is ignored.
def mode (ignoreCase : Bool) : List Char := if ignoreCase then "(?i)".toList else []

theorem toList_spell (flags : Flags) (pattern : String) :
    (spell flags pattern).toList = mode flags.ignoreCase ++ body flags pattern.toList :=
  String.toList_ofList

-- A group of two branches.
def choice (first second : List Piece) : Regex Piece .term :=
  .group (.either (.sequence first) (.only (.sequence second))) .once

-- The part of the dialect that stands for an atom.
def translate (flags : Flags) : EcmaScript.Atom → Regex Piece .term
  | .literal c plain => .atom (.char c plain)
  | .dot => .atom (.class (if flags.dotAll then .anything else .lineTerminator true))
  | .class s negated => .atom (.class (.shorthand s negated))
  | .caret =>
    if flags.multiLine then
      choice [.textStart true] [.look true false (.lineTerminator false)]
    else .atom (.textStart false)
  | .dollar =>
    if flags.multiLine then
      choice [.textEnd true] [.look false false (.lineTerminator false)]
    else .atom (.textEnd false)
  | .boundary negated =>
    let word := ClassText.shorthand .word false
    choice [.look true (!negated) word, .look false false word]
      [.look true negated word, .look false true word]

theorem scan_append (flags : Flags) (state : Scan) (cs ds : List Char) :
    scan flags state (cs ++ ds) =
      ((scan flags (scan flags state cs).1 ds).1,
        (scan flags state cs).2 ++ (scan flags (scan flags state cs).1 ds).2) := by
  induction cs generalizing state with
  | nil => rfl
  | cons c cs ih => simp only [List.cons_append, scan, ih, List.append_assoc]

-- Whether a text outside a class is spelled as another, and leaves nothing pending.
def Spells (flags : Flags) (cs spelled : List Char) : Prop :=
  scan flags (.ready .outside) cs = (.ready .outside, spelled)

theorem Spells.append {flags : Flags} {cs ds spelled spelled' : List Char}
    (h : Spells flags cs spelled) (h' : Spells flags ds spelled') :
    Spells flags (cs ++ ds) (spelled ++ spelled') := by
  rw [Spells, scan_append, h, h']

theorem begin_plain {c : Char} (plain : c ∉ EcmaScript.syntaxCharacters) (flags : Flags) :
    begin flags .outside c = (.ready .outside, [c]) := by
  have other : ∀ d ∈ EcmaScript.syntaxCharacters, c ≠ d := fun d hd same => plain (same ▸ hd)
  simp only [begin]
  split
  · exact absurd rfl (other '\\' (by decide))
  · exact absurd rfl (other '[' (by decide))
  · exact absurd rfl (other '.' (by decide))
  · exact absurd rfl (other '^' (by decide))
  · exact absurd rfl (other '$' (by decide))
  · rfl

theorem spells_atom (flags : Flags) (a : EcmaScript.Atom) :
    Spells flags a.text ((translate flags a).text Piece.text) := by
  cases a with
  | literal c plain =>
    simp only [EcmaScript.Atom.text, Spells, scan, step, begin_plain plain]
    rfl
  | dot =>
    obtain ⟨ignoreCase, multiLine, dotAll⟩ := flags
    cases dotAll <;> rfl
  | «class» s negated => cases s <;> cases negated <;> rfl
  | caret =>
    obtain ⟨ignoreCase, multiLine, dotAll⟩ := flags
    cases multiLine <;> rfl
  | dollar =>
    obtain ⟨ignoreCase, multiLine, dotAll⟩ := flags
    cases multiLine <;> rfl
  | boundary negated => cases negated <;> rfl

theorem spells_regex (flags : Flags) {level : Level} (r : Regex EcmaScript.Atom level) :
    Spells flags (r.text EcmaScript.Atom.text) ((r.subst (translate flags)).text Piece.text) := by
  induction r with
  | atom a => exact spells_atom flags a
  | group body q ih =>
    have opening : Spells flags "(?:".toList "(?:".toList := rfl
    have closing : Spells flags (')' :: q.text) (')' :: q.text) := by cases q <;> rfl
    exact (opening.append ih).append closing
  | empty => rfl
  | more first rest ihf ihr => exact ihf.append ihr
  | only branch ih => exact ih
  | either branch rest ihb ihr =>
    have bar : Spells flags ['|'] ['|'] := rfl
    exact ihb.append (bar.append ihr)

theorem Spells.body {flags : Flags} {cs spelled : List Char} (h : Spells flags cs spelled) :
    body flags cs = spelled := by
  rw [Dialect.body, h]
  exact List.append_nil _

theorem body_regex (flags : Flags) (r : EcmaScript.Tree) :
    body flags (r.text EcmaScript.Atom.text) = (r.subst (translate flags)).text Piece.text :=
  (spells_regex flags r).body

section Spans

variable {text : List Char}

theorem spans_choice (first second : List Piece) (start stop : Nat) :
    (choice first second).Spans (fun p => p.tree.Spans text) start stop ↔
      (Regex.sequence first).Spans (fun p => p.tree.Spans text) start stop ∨
        (Regex.sequence second).Spans (fun p => p.tree.Spans text) start stop :=
  Iff.rfl

theorem spans_look (behind negative : Bool) (t : ClassText) (start stop : Nat) :
    (Piece.look behind negative t).tree.Spans text start stop ↔
      ((if behind then before? text start else text[start]?).any t.set.mem = !negative) ∧
        start = stop :=
  Syntax.spans_look_char behind negative t.set start stop

theorem spans_class (t : ClassText) (start stop : Nat) :
    (Piece.class t).tree.Spans text start stop ↔
      (∃ c, text[start]? = some c ∧ t.set.mem c = true) ∧ stop = start + 1 := by
  rw [Piece.tree, Syntax.Spans, Option.any_eq_true]

-- A group that holds a place if one of two conditions holds there.
theorem spans_choice_of_conditions {first second : List Piece} {p q : Nat → Prop}
    (hfirst : ∀ start stop, (Regex.sequence first).Spans (fun p => p.tree.Spans text) start stop ↔
      p start ∧ start = stop)
    (hsecond : ∀ start stop, (Regex.sequence second).Spans (fun p => p.tree.Spans text) start stop ↔
      q start ∧ start = stop) (start stop : Nat) :
    (choice first second).Spans (fun p => p.tree.Spans text) start stop ↔
      (p start ∨ q start) ∧ start = stop := by
  rw [spans_choice, hfirst, hsecond, or_and_right]

theorem spans_single {p : Piece} (start stop : Nat) :
    (Regex.sequence [p]).Spans (fun p => p.tree.Spans text) start stop ↔
      p.tree.Spans text start stop := by
  simp [Regex.sequence, Regex.Spans]

-- Two lookarounds at one place.
theorem spans_looks (behind negative behind' negative' : Bool) (t : ClassText) (start stop : Nat) :
    (Regex.sequence [Piece.look behind negative t, Piece.look behind' negative' t]).Spans
        (fun p => p.tree.Spans text) start stop ↔
      ((if behind then before? text start else text[start]?).any t.set.mem = !negative ∧
        (if behind' then before? text start else text[start]?).any t.set.mem = !negative') ∧
        start = stop := by
  simp only [Regex.sequence, Regex.Spans, spans_look]
  constructor
  · rintro ⟨_, ⟨first, rfl⟩, _, ⟨second, rfl⟩, rfl⟩
    exact ⟨⟨first, second⟩, rfl⟩
  · rintro ⟨⟨first, second⟩, rfl⟩
    exact ⟨_, ⟨first, rfl⟩, _, ⟨second, rfl⟩, rfl⟩

-- Each atom is translated to a part with the same spans.
theorem spans_translate (flags : Flags) (a : EcmaScript.Atom) (start stop : Nat) :
    (translate flags a).Spans (fun p => p.tree.Spans text) start stop ↔
      a.Spans ⟨flags.multiLine, flags.dotAll⟩ text start stop := by
  have lines : (ClassText.lineTerminator false).set.mem = EcmaScript.isLineTerminator := by
    funext c
    rw [ClassText.mem_lineTerminator, Bool.bne_false]
  have words : (ClassText.shorthand .word false).set.mem = EcmaScript.isWord := by
    funext c
    rw [ClassText.mem_shorthand, Bool.bne_false]
    rfl
  cases a with
  | literal c plain =>
    simp only [translate, Regex.Spans, Piece.tree, Syntax.Spans, EcmaScript.Atom.Spans,
      Option.any_eq_true, CharSet.mem, beq_iff_eq, exists_eq_right]
  | dot =>
    refine (spans_class _ start stop).trans ?_
    simp only [EcmaScript.Atom.Spans]
    cases flags.dotAll with
    | false => simp [ClassText.mem_lineTerminator]
    | true => simp [ClassText.mem_anything]
  | «class» s negated =>
    refine (spans_class _ start stop).trans ?_
    simp only [EcmaScript.Atom.Spans, ClassText.mem_shorthand]
    cases negated <;> simp
  | caret =>
    simp only [translate, EcmaScript.Atom.Spans]
    cases flags.multiLine with
    | false => simp [Regex.Spans, Piece.tree, Syntax.Spans, Assertion.Holds]
    | true =>
      refine (spans_choice_of_conditions (fun _ _ => spans_single _ _)
        (fun _ _ => (spans_single _ _).trans (spans_look ..)) start stop).trans ?_
      simp [lines, Assertion.Holds]
  | dollar =>
    simp only [translate, EcmaScript.Atom.Spans]
    cases flags.multiLine with
    | false => simp [Regex.Spans, Piece.tree, Syntax.Spans, Assertion.Holds]
    | true =>
      refine (spans_choice_of_conditions (fun _ _ => spans_single _ _)
        (fun _ _ => (spans_single _ _).trans (spans_look ..)) start stop).trans ?_
      simp [lines, Assertion.Holds]
  | boundary negated =>
    refine (spans_choice_of_conditions (fun _ _ => spans_looks ..) (fun _ _ => spans_looks ..)
      start stop).trans ?_
    simp only [words, EcmaScript.Atom.Spans, EcmaScript.AtBoundary, if_true, Bool.false_eq_true,
      if_false]
    cases (before? text start).any EcmaScript.isWord <;>
      cases text[start]?.any EcmaScript.isWord <;> cases negated <;> simp

theorem spans_regex (flags : Flags) {level : Level} (r : Regex EcmaScript.Atom level)
    (start stop : Nat) :
    (r.subst (translate flags)).Spans (fun p => p.tree.Spans text) start stop ↔
      r.Spans (EcmaScript.Atom.Spans ⟨flags.multiLine, flags.dotAll⟩ text) start stop :=
  Regex.spans_subst (spans_translate flags) r start stop

end Spans

end Dialect

-- The program of a pattern is the program of a tree with the spans of the pattern.
theorem compile_eq_ok {r : EcmaScript.Tree} {flags : Option String}
    (caseful : 'i' ∉ (flags.getD "").toList) {pattern : Vetting.Pattern}
    (h : compile ⟨EcmaScript.source r, flags⟩ = .ok pattern) :
    ∃ tree, tree.IsPlain ∧ Program.ofSyntax tree = .ok pattern.program ∧
      ∀ text start stop, tree.Spans text start stop ↔
        r.Spans (EcmaScript.Atom.Spans (.ofFlags (flags.getD "")) text) start stop := by
  unfold compile at h
  split at h
  · cases h
  · next read hflags =>
    have hflags := Flags.parse_eq_ok hflags
    have unfolded : read.ignoreCase = false := by
      rw [hflags]
      exact decide_eq_false caseful
    have mode : EcmaScript.Mode.ofFlags (flags.getD "") = ⟨read.multiLine, read.dotAll⟩ := by
      rw [hflags]
      rfl
    split at h
    · cases h
    · next program hprogram =>
      cases h
      obtain ⟨tree, htree, hprogram⟩ := Outcome.bind_eq_ok.mp hprogram
      rw [Dialect.toList_spell, unfolded, EcmaScript.source, String.toList_ofList,
        Dialect.body_regex] at htree
      have htree := Parser.parse_eq_ok htree
      refine ⟨tree, ?_, hprogram, fun text start stop => ?_⟩
      · rw [htree]
        exact Syntax.isPlain_ofBranches (Regex.isPlain_trees _)
      · rw [htree, mode, ← Dialect.spans_regex]
        have spans := Regex.spans_trees text (r.subst (Dialect.translate read)) start stop
        exact spans

-- Unless the search is given up, a compiled pattern finds a match exactly if the pattern matches a
-- span of the text under its flags.
theorem isMatch_iff_matches (r : EcmaScript.Tree) (flags : Option String)
    (caseful : 'i' ∉ (flags.getD "").toList) {pattern : Vetting.Pattern}
    (hcompile : compile ⟨EcmaScript.source r, flags⟩ = .ok pattern) (text : String) {found : Bool}
    (hmatch : pattern.isMatch text = .ok found) :
    found = true ↔ EcmaScript.Matches (.ofFlags (flags.getD "")) r text.toList := by
  obtain ⟨tree, plain, hprogram, spans⟩ := compile_eq_ok caseful hcompile
  rw [Program.search_eq_ok plain hprogram hmatch]
  constructor
  · rintro ⟨start, stop, hstart, h⟩
    exact ⟨start, stop, h.le, h.le_length hstart, (spans text.toList start stop).mp h⟩
  · rintro ⟨start, stop, hle, hstop, h⟩
    exact ⟨start, stop, Nat.le_trans hle hstop, (spans text.toList start stop).mpr h⟩

-- The pattern `(?:^|\W)+\b`.
def wordStart : EcmaScript.Tree :=
  .only (.more (.group (.either (.sequence [.caret]) (.only (.sequence [.class .word true]))) .plus)
    (.sequence [.boundary false]))

theorem isMatch_iff_matches_wordStart :
    ∃ pattern, compile ⟨EcmaScript.source wordStart, some "gm"⟩ = .ok pattern ∧
      pattern.isMatch "-\u2028a" = .ok true ∧
      EcmaScript.Matches (.ofFlags "gm") wordStart "-\u2028a".toList := by
  have answer : (·.isMatch "-\u2028a") <$> compile ⟨EcmaScript.source wordStart, some "gm"⟩ =
      .ok (.ok true) := by decide +kernel
  obtain ⟨pattern, hcompile, hmatch⟩ := Outcome.map_eq_ok.mp answer
  have caseful : 'i' ∉ ((some "gm").getD "").toList := by decide
  exact ⟨pattern, hcompile, hmatch,
    (isMatch_iff_matches wordStart (some "gm") caseful hcompile "-\u2028a" hmatch).mp rfl⟩

end Vetting.Pattern
