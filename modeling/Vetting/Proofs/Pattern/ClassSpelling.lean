import Vetting.Proofs.Pattern.ClassReading
import Vetting.Proofs.Pattern.Translation

namespace Vetting.Pattern.Dialect

open EcmaScript

-- What an atom is spelled as, behind a shorthand or elsewhere.
def atomText (behind : Bool) : ClassAtom → List Char
  | .literal c _ => if c ∈ ['[', '&', '~'] then ['\\', c] else [c]
  | .dash => if behind then ['\\', '-'] else ['-']
  | .shorthand s negated => shorthand .inside negated (shorthandBody s)
  | .backspace => "\\x08".toList
  | .capitalB => noBoundary
  | .control letter _ => controlCharacter letter
  | .null => "\\x00".toList
  | .escaped c _ => if c = '/' then ['/'] else ['\\', c]

def bodyText (behind : Bool) : List ClassAtom → List Char
  | [] => []
  | a :: rest => atomText behind a ++ bodyText (a.kind == .several) rest

-- The state between an atom and the next.
def afterAtom : ClassAtom → Scan
  | .shorthand _ _ => .afterShorthand
  | .null => .zero .inside
  | _ => .ready .inside

-- Whether an atom, or the end of the class, may begin with a character in some state.
def Admits (c : Char) : Scan → Prop
  | .ready place => place = .inside
  | .opened => c ≠ '^' ∧ c ≠ ']'
  | .openedNegated => c ≠ ']'
  | .zero place => place = .inside ∧ c.isDigit = false
  | .afterShorthand => c ≠ '-'
  | .escaped _ | .control _ => False

variable {flags : Flags} {state : Scan} {c : Char}

-- What is pending is written first, and then the atom begins as it does anywhere in a class.
theorem step_of_admits (h : Admits c state) :
    step flags state c =
      ((begin flags .inside c).1, pendingText state ++ (begin flags .inside c).2) := by
  cases state with
  | ready place =>
    obtain rfl : place = .inside := h
    rfl
  | opened =>
    obtain ⟨caret, bracket⟩ := h
    rw [step]
    · rfl
    · exact caret
    · exact bracket
  | openedNegated =>
    rw [step]
    · rfl
    · exact h
  | zero place =>
    obtain ⟨rfl, digit⟩ := h
    simp [step, digit, pendingThen]
  | afterShorthand =>
    simp only [step, beq_iff_eq]
    rw [if_neg h]
    rfl
  | escaped place => cases h
  | control place => cases h

theorem scan_of_admits (h : Admits c state) (cs : List Char) :
    scan flags state (c :: cs) = ((scan flags (.ready .inside) (c :: cs)).1,
      pendingText state ++ (scan flags (.ready .inside) (c :: cs)).2) := by
  have inside : Admits c (.ready .inside) := rfl
  simp only [scan, step_of_admits h, step_of_admits inside, List.append_assoc]
  rfl

theorem begin_literal (plain : c ∉ ['\\', ']', '-']) :
    begin flags .inside c =
      (.ready .inside, if c ∈ ['[', '&', '~'] then ['\\', c] else [c]) := by
  simp only [begin]
  split <;> simp_all

theorem escape_escaped (plain : c.isAlphanum = false) :
    escape .inside c = (.ready .inside, if c = '/' then ['/'] else ['\\', c]) := by
  unfold escape
  split <;> first | rfl | exact absurd plain (by decide) | simp_all

-- Away from a shorthand, an atom is spelled on its own.
theorem scan_atom (flags : Flags) (a : ClassAtom) :
    (scan flags (.ready .inside) a.text).1 = afterAtom a ∧
      (scan flags (.ready .inside) a.text).2 ++ pendingText (afterAtom a) = atomText false a := by
  cases a with
  | literal c plain =>
    simp only [ClassAtom.text, scan, step, begin_literal plain, List.append_nil]
    exact ⟨rfl, List.append_nil _⟩
  | dash => exact ⟨rfl, rfl⟩
  | shorthand s negated => cases s <;> cases negated <;> exact ⟨rfl, rfl⟩
  | control letter named =>
    have named : step flags (.control .inside) letter =
        (.ready .inside, controlCharacter letter) := if_pos named
    have opened : scan flags (.ready .inside) ['\\', 'c', letter] =
        scan flags (.control .inside) [letter] := rfl
    simp only [ClassAtom.text, opened, scan, named, List.append_nil]
    exact ⟨rfl, List.append_nil _⟩
  | escaped c plain =>
    have escaped : step flags (.escaped .inside) c =
        (.ready .inside, if c = '/' then ['/'] else ['\\', c]) := escape_escaped plain
    have opened : scan flags (.ready .inside) ['\\', c] =
        scan flags (.escaped .inside) [c] := rfl
    simp only [ClassAtom.text, opened, scan, escaped, List.append_nil]
    exact ⟨rfl, List.append_nil _⟩
  | _ => exact ⟨rfl, rfl⟩

-- How the text of an atom begins.
theorem text_eq_cons (a : ClassAtom) :
    ∃ c cs, a.text = c :: cs ∧ c ≠ ']' ∧ (c = '-' → a = .dash) ∧
      (c ∉ ['\\', '-'] → ∃ plain, a = .literal c plain) := by
  cases a with
  | literal c plain =>
    have other (d : Char) (hd : d ∈ ['\\', ']', '-']) : c ≠ d := fun same => plain (same ▸ hd)
    exact ⟨c, [], rfl, other ']' (by decide), fun same => absurd same (other '-' (by decide)),
      fun _ => ⟨plain, rfl⟩⟩
  | dash => exact ⟨'-', [], rfl, by decide, fun _ => rfl, fun other => absurd (by decide) other⟩
  | _ => exact ⟨'\\', _, rfl, by decide, nofun, fun other => absurd (by decide) other⟩

-- Whether a body may come next in some state.
def AdmitsBody (body : List ClassAtom) : Scan → Prop
  | .ready place => place = .inside
  | .opened => body ≠ [] ∧ opensWithCaret body = false
  | .openedNegated => body ≠ []
  | .zero place =>
    place = .inside ∧ ∀ c plain rest, body = .literal c plain :: rest → c.isDigit = false
  | .afterShorthand => True
  | .escaped _ | .control _ => False

theorem admits_of_admitsBody {a : ClassAtom} {rest : List ClassAtom} {cs : List Char}
    (h : AdmitsBody (a :: rest) state) (escaped : state = .afterShorthand → a ≠ .dash)
    (text : a.text = c :: cs) : Admits c state := by
  obtain ⟨d, ds, same, bracket, dash, literal⟩ := text_eq_cons a
  obtain ⟨rfl, rfl⟩ := List.cons.inj (text.symm.trans same)
  cases state with
  | ready place => exact h
  | opened =>
    refine ⟨fun caret => ?_, bracket⟩
    obtain ⟨plain, rfl⟩ := literal (by rw [caret]; decide)
    subst caret
    cases h.2
  | openedNegated => exact bracket
  | zero place =>
    refine ⟨h.1, ?_⟩
    by_cases other : c ∈ ['\\', '-']
    · simp only [List.mem_cons, List.not_mem_nil, or_false] at other
      rcases other with rfl | rfl <;> rfl
    · obtain ⟨plain, rfl⟩ := literal other
      exact h.2 c plain rest rfl
  | afterShorthand => exact fun same => escaped rfl (dash same)
  | escaped place => exact h
  | control place => exact h

theorem admitsBody_afterAtom {a : ClassAtom} {rest : List ClassAtom}
    (apart : nullsApart (a :: rest) = true) : AdmitsBody rest (afterAtom a) := by
  cases a with
  | null =>
    refine ⟨rfl, fun c plain others same => ?_⟩
    rw [same, nullsApart, Bool.and_eq_true] at apart
    simpa using apart.1
  | shorthand s negated => trivial
  | _ => rfl

theorem nullsApart_tail {a : ClassAtom} {rest : List ClassAtom}
    (apart : nullsApart (a :: rest) = true) : nullsApart rest = true := by
  rw [nullsApart.eq_def] at apart
  split at apart
  · next same =>
    cases same
    exact ((Bool.and_eq_true ..).mp apart).2
  · next same =>
    cases same
    exact apart
  · next same => cases same

theorem afterAtom_eq (a : ClassAtom) : (afterAtom a == .afterShorthand) = (a.kind == .several) := by
  cases a <;> rfl

theorem scan_body {body : List ClassAtom} (apart : nullsApart body = true)
    (h : AdmitsBody body state) :
    (scan flags state (body.flatMap ClassAtom.text ++ [']'])) =
      (.ready .outside,
        pendingText state ++ bodyText (state == .afterShorthand) body ++ [']']) := by
  induction body generalizing state with
  | nil =>
    have closing : Admits ']' state := by
      cases state <;> simp_all [Admits, AdmitsBody]
    rw [List.flatMap_nil, List.nil_append, scan_of_admits closing, bodyText, List.append_nil]
    rfl
  | cons a rest ih =>
    have later := ih (nullsApart_tail apart) (admitsBody_afterAtom apart)
    rw [List.flatMap_cons, List.append_assoc, scan_append, bodyText]
    by_cases escaped : state = .afterShorthand ∧ a = .dash
    · obtain ⟨rfl, rfl⟩ := escaped
      have dash : scan flags .afterShorthand ClassAtom.dash.text =
          (afterAtom .dash, ['\\', '-']) := rfl
      rw [dash, later]
      rfl
    · obtain ⟨c, cs, text, -⟩ := text_eq_cons a
      have first := admits_of_admitsBody h (fun same dash => escaped ⟨same, dash⟩) text
      obtain ⟨final, spelled⟩ := scan_atom flags a
      have read : scan flags state a.text =
          (afterAtom a, pendingText state ++ (scan flags (.ready .inside) a.text).2) := by
        rw [← final, text]
        exact scan_of_admits first cs
      have alone : atomText (state == .afterShorthand) a = atomText false a := by
        cases a with
        | dash => rw [beq_false_of_ne fun same => escaped ⟨same, rfl⟩]
        | _ => rfl
      rw [read, later, alone, ← spelled, afterAtom_eq]
      simp only [List.append_assoc]

-- A class that is not empty is spelled atom by atom, between the same brackets.
theorem body_class (flags : Flags) {negated : Bool} {body : List ClassAtom}
    (valid : IsClass negated body) (nonempty : body ≠ []) :
    Dialect.body flags (classSource negated body).toList =
      '[' :: (Parser.ClassText.opening negated ++ bodyText false body) ++ [']'] := by
  rw [classSource, String.toList_ofList, Dialect.body]
  cases negated with
  | true =>
    have opened : AdmitsBody body .openedNegated := nonempty
    have read : scan flags (.ready .outside)
        ('[' :: (if true then ['^'] else []) ++ body.flatMap ClassAtom.text ++ [']']) =
        scan flags .openedNegated (body.flatMap ClassAtom.text ++ [']']) := rfl
    rw [read, scan_body valid.apart opened]
    exact List.append_nil _
  | false =>
    have opened : AdmitsBody body .opened := ⟨nonempty, valid.caret rfl⟩
    have read : scan flags (.ready .outside)
        ('[' :: (if false then ['^'] else []) ++ body.flatMap ClassAtom.text ++ [']']) =
        scan flags .opened (body.flatMap ClassAtom.text ++ [']']) := rfl
    rw [read, scan_body valid.apart opened]
    exact List.append_nil _

end Vetting.Pattern.Dialect
