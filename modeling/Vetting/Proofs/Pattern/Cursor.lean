import Vetting.Proofs.Pattern.Translation

namespace Vetting.Pattern

namespace EcmaScript

inductive Cursor where
  | outside
  | inside
  -- Behind the backslash of an escape.
  | escape (insideClass : Bool)
deriving DecidableEq, Repr

namespace Cursor

-- A backslash takes the next character. In a class an opening bracket is a literal, and the class
-- may be closed as soon as it is open.
def step : Cursor → Char → Cursor
  | outside, '\\' => escape false
  | outside, '[' => inside
  | outside, _ => outside
  | inside, '\\' => escape true
  | inside, ']' => outside
  | inside, _ => inside
  | escape insideClass, _ => if insideClass then inside else outside

-- Where a pattern stands at its end.
def after (pattern : List Char) : Cursor := pattern.foldl step outside

def isInside : Cursor → Bool
  | outside => false
  | inside => true
  | escape insideClass => insideClass

theorem after_append (p q : List Char) : after (p ++ q) = q.foldl step (after p) :=
  List.foldl_append

-- An escape outside a class begins with a backslash there.
theorem eq_of_step_eq_escape {cursor : Cursor} {c : Char} (h : cursor.step c = escape false) :
    cursor = outside ∧ c = '\\' := by
  unfold step at h
  split at h
  case h_1 => exact ⟨rfl, rfl⟩
  case h_7 => split at h <;> cases h
  all_goals cases h

end Cursor

-- Whether a pattern ends in an escape of one character outside a class.
def EndsInEscape (letter : Char) (pattern : List Char) : Prop :=
  ∃ before, pattern = before ++ ['\\', letter] ∧ Cursor.after before = .outside

-- Whether a pattern ends outside a class and between two tokens if another pattern follows. A digit
-- may still belong to `\0`, and a letter to `\c`.
structure CompleteBefore (p q : List Char) : Prop where
  outside : Cursor.after p = .outside
  null : EndsInEscape '0' p → ∀ c ∈ q.head?, c.isDigit = false
  control : EndsInEscape 'c' p → ∀ c ∈ q.head?, c.isAlpha = false

-- Whether a pattern has a group outside classes that ECMAScript does not know: a comment, or modes.
def HasForeignGroup (pattern : List Char) : Prop :=
  ∃ before mark after, pattern = before ++ '(' :: '?' :: mark :: after ∧
    Cursor.after before = .outside ∧ (mark = '#' ∨ mark.isAlpha = true ∨ mark = '-')

end EcmaScript

open EcmaScript (Cursor)

namespace Dialect

def Place.cursor : Place → Cursor
  | .outside => .outside
  | .inside => .inside

-- Where the pattern stands when the scan is in some state.
def Scan.cursor : Scan → Cursor
  | .ready place | .zero place | .control place => place.cursor
  | .opened | .openedNegated | .afterShorthand => .inside
  | .escaped place => .escape (place == .inside)

theorem cursor_begin (flags : Flags) (place : Place) (c : Char) :
    (begin flags place c).1.cursor = place.cursor.step c := by
  cases place <;> simp only [begin] <;> split <;>
    simp_all [Place.cursor, Cursor.step, Scan.cursor]

theorem cursor_escape (place : Place) (c : Char) : (escape place c).1.cursor = place.cursor := by
  unfold escape
  split <;> cases place <;> rfl

theorem cursor_letter {c : Char} (letter : c.isAlpha = true) (place : Place) :
    place.cursor.step c = place.cursor := by
  have other (d : Char) (hd : d.isAlpha = false) : c ≠ d := by
    rintro rfl
    exact absurd letter (by simp [hd])
  have backslash := other '\\' rfl
  have opening := other '[' rfl
  have closing := other ']' rfl
  cases place <;> simp [Place.cursor, Cursor.step, *]

theorem cursor_step (flags : Flags) (state : Scan) (c : Char) :
    (step flags state c).1.cursor = state.cursor.step c := by
  have inside : (begin flags .inside c).1.cursor = Cursor.inside.step c :=
    cursor_begin flags .inside c
  cases state with
  | ready place => exact cursor_begin flags place c
  | opened =>
    simp only [step]
    split
    · rfl
    · rfl
    · exact inside
  | openedNegated =>
    simp only [step]
    split
    · rfl
    · exact inside
  | escaped place =>
    refine (cursor_escape place c).trans ?_
    cases place <;> rfl
  | zero place => exact cursor_begin flags place c
  | control place =>
    simp only [step]
    split
    · next letter => exact (cursor_letter letter place).symm
    · exact cursor_begin flags place c
  | afterShorthand =>
    simp only [step]
    split
    · next dash =>
      obtain rfl := beq_iff_eq.mp dash
      rfl
    · exact inside

-- The scan stands where the pattern does.
theorem cursor_scan (flags : Flags) (state : Scan) (cs : List Char) :
    (scan flags state cs).1.cursor = cs.foldl Cursor.step state.cursor := by
  induction cs generalizing state with
  | nil => rfl
  | cons c cs ih =>
    rw [List.foldl_cons, ← cursor_step flags]
    exact ih (step flags state c).1

-- What the characters are written as in the end, if nothing follows them.
def finish (flags : Flags) (state : Scan) (cs : List Char) : List Char :=
  (scan flags state cs).2 ++ pendingText (scan flags state cs).1

theorem body_eq_finish (flags : Flags) (pattern : List Char) :
    body flags pattern = finish flags (.ready .outside) pattern :=
  rfl

theorem finish_cons (flags : Flags) (state : Scan) (c : Char) (cs : List Char) :
    finish flags state (c :: cs) =
      (step flags state c).2 ++ finish flags (step flags state c).1 cs :=
  List.append_assoc ..

theorem finish_append (flags : Flags) (state : Scan) (cs ds : List Char) :
    finish flags state (cs ++ ds) =
      (scan flags state cs).2 ++ finish flags (scan flags state cs).1 ds := by
  rw [finish, scan_append]
  exact List.append_assoc ..

-- The letter of an escape outside a class that the next character may still belong to.
def Scan.unfinished? : Scan → Option Char
  | .zero .outside => some '0'
  | .control .outside => some 'c'
  | _ => none

-- Whether a character belongs to such an escape.
def continues : Char → Char → Bool
  | '0', c => c.isDigit
  | 'c', c => c.isAlpha
  | _, _ => false

theorem unfinished?_begin (flags : Flags) (place : Place) (c : Char) :
    (begin flags place c).1.unfinished? = none := by
  cases place <;> simp only [begin] <;> split <;> rfl

theorem eq_of_unfinished? {flags : Flags} {state : Scan} {c letter : Char}
    (h : (step flags state c).1.unfinished? = some letter) :
    state = .escaped .outside ∧ c = letter := by
  have begun (place : Place) : (begin flags place c).1.unfinished? ≠ some letter := by
    simp [unfinished?_begin]
  cases state with
  | ready place => exact absurd h (begun place)
  | zero place => exact absurd h (begun place)
  | escaped place =>
    change (escape place c).1.unfinished? = some letter at h
    unfold escape at h
    split at h <;> cases place <;> cases h <;> exact ⟨rfl, rfl⟩
  | control place =>
    simp only [step] at h
    split at h
    · cases h
    · exact absurd h (begun place)
  | _ =>
    simp only [step] at h
    split at h <;> first | cases h | exact absurd h (begun .inside)

-- A character that does not belong to what is pending begins a token of its own.
theorem finish_of_apart (flags : Flags) {state : Scan} (outside : state.cursor = .outside)
    {q : List Char}
    (apart : ∀ letter ∈ state.unfinished?, ∀ c ∈ q.head?, continues letter c = false) :
    finish flags state q = pendingText state ++ body flags q := by
  cases q with
  | nil =>
    rw [body_eq_finish]
    exact (List.append_nil _).symm
  | cons c rest =>
    rw [body_eq_finish, finish_cons, finish_cons, ← List.append_assoc]
    cases state with
    | ready place =>
      cases place with
      | inside => cases outside
      | outside => rfl
    | zero place =>
      cases place with
      | inside => cases outside
      | outside =>
        have other : c.isDigit = false := apart '0' rfl c rfl
        simp only [step, other]
        rfl
    | control place =>
      cases place with
      | inside => cases outside
      | outside =>
        have other : c.isAlpha = false := apart 'c' rfl c rfl
        simp only [step, other]
        rfl
    | escaped place => cases outside
    | opened => cases outside
    | openedNegated => cases outside
    | afterShorthand => cases outside

open EcmaScript (EndsInEscape CompleteBefore)

theorem endsInEscape_of_unfinished? {flags : Flags} {p : List Char} {letter : Char}
    (h : (scan flags (.ready .outside) p).1.unfinished? = some letter) :
    EndsInEscape letter p := by
  obtain rfl | ⟨init, last, rfl⟩ := p.eq_nil_or_concat
  · cases h
  rw [List.concat_eq_append, scan_append] at h
  obtain ⟨escaped, rfl⟩ := eq_of_unfinished? h
  have stands : Cursor.after init = .escape false := by
    have := cursor_scan flags (.ready .outside) init
    rw [escaped] at this
    exact this.symm
  obtain rfl | ⟨before, c, rfl⟩ := init.eq_nil_or_concat
  · cases stands
  rw [List.concat_eq_append, Cursor.after_append] at stands
  obtain ⟨outside, rfl⟩ := Cursor.eq_of_step_eq_escape stands
  exact ⟨before, by simp, outside⟩

theorem body_append (flags : Flags) {p q : List Char} (complete : CompleteBefore p q) :
    body flags (p ++ q) = body flags p ++ body flags q := by
  have stands : (scan flags (.ready .outside) p).1.cursor = .outside :=
    (cursor_scan flags _ p).trans complete.outside
  have apart : ∀ letter ∈ (scan flags (.ready .outside) p).1.unfinished?,
      ∀ c ∈ q.head?, continues letter c = false := by
    intro letter pending c first
    have ends := endsInEscape_of_unfinished? pending
    unfold continues
    split
    · exact complete.null ends c first
    · exact complete.control ends c first
    · rfl
  rw [body_eq_finish, finish_append, finish_of_apart flags stands apart, ← List.append_assoc]
  rfl

-- Patterns are spelled part by part: cut outside a class and between two tokens, a pattern is
-- spelled as its first part, and then its second as if nothing came before.
theorem spell_append (flags : Flags) {p q : String} (complete : CompleteBefore p.toList q.toList) :
    body flags (p ++ q).toList = body flags p.toList ++ body flags q.toList ∧
      spell flags (p ++ q) = spell flags p ++ String.ofList (body flags q.toList) := by
  have parts : body flags (p ++ q).toList = body flags p.toList ++ body flags q.toList := by
    rw [String.toList_append, body_append flags complete]
  refine ⟨parts, ?_⟩
  rw [spell, parts, ← List.append_assoc, String.ofList_append]
  rfl

-- `[^]\0` and then `\d`: the class is closed, and no digit follows the null.
theorem spell_append_null :
    CompleteBefore "[^]\\0".toList "\\d".toList ∧
      spell {} "[^]\\0\\d" = spell {} "[^]\\0" ++ "[0-9]" := by
  have complete : CompleteBefore "[^]\\0".toList "\\d".toList := by
    refine ⟨by decide, fun _ c first => ?_, fun _ c first => ?_⟩ <;>
    · cases first
      decide
  exact ⟨complete, (spell_append {} complete).2⟩

-- Before a digit, `\0` is not complete, and is spelled in another way.
example : spell {} "\\0" = "\\x00" ∧ spell {} "\\01" = "\\01" := by decide

end Dialect

end Vetting.Pattern
