import Vetting.Proofs.Pattern.Cursor

namespace Vetting.Pattern.Dialect

open EcmaScript (Cursor CompleteBefore)

-- How many classes are open at a place of a text in the dialect, and whether a backslash came last.
structure Nesting where
  depth : Nat := 0
  escaped : Bool := false
deriving DecidableEq, Repr

namespace Nesting

-- A backslash takes the next character. An opening bracket opens a class, also in another class,
-- and a closing one closes the innermost; outside classes it is a literal.
def step (nesting : Nesting) (c : Char) : Nesting :=
  if nesting.escaped then { nesting with escaped := false }
  else
    match c with
    | '\\' => { nesting with escaped := true }
    | '[' => { nesting with depth := nesting.depth + 1 }
    | ']' => { nesting with depth := nesting.depth - 1 }
    | _ => nesting

def through (nesting : Nesting) (text : List Char) : Nesting := text.foldl step nesting

-- How a text is nested at its end.
def after (text : List Char) : Nesting := through {} text

theorem through_append (nesting : Nesting) (cs ds : List Char) :
    nesting.through (cs ++ ds) = (nesting.through cs).through ds :=
  List.foldl_append

theorem step_plain {depth : Nat} {c : Char} (backslash : c ≠ '\\') (opening : c ≠ '[')
    (closing : c = ']' → depth = 0) : step ⟨depth, false⟩ c = ⟨depth, false⟩ := by
  by_cases literal : c = ']'
  · subst literal
    rw [closing rfl]
    rfl
  · simp [step, *]

end Nesting

def Place.depth : Place → Nat
  | .outside => 0
  | .inside => 1

theorem Place.depth_le (place : Place) : place.depth ≤ 1 := by
  cases place <;> decide

-- How deep the text is that was written when the scan is in some state. A class is written as soon
-- as something follows its bracket.
def Scan.depth : Scan → Nat
  | .ready place | .escaped place | .zero place | .control place => place.depth
  | .opened | .openedNegated => 0
  | .afterShorthand => 1

theorem through_begin (flags : Flags) (place : Place) (c : Char) :
    Nesting.through ⟨place.depth, false⟩ (begin flags place c).2 =
      ⟨(begin flags place c).1.depth, false⟩ := by
  cases place with
  | inside =>
    simp only [begin]
    split
    case h_6 => exact Nesting.step_plain ‹_› ‹_› fun closing => absurd closing ‹_›
    all_goals rfl
  | outside =>
    obtain ⟨ignoreCase, multiLine, dotAll⟩ := flags
    simp only [begin]
    split
    case h_3 => cases dotAll <;> rfl
    case h_6 => exact Nesting.step_plain ‹_› ‹_› fun _ => rfl
    case h_1 | h_2 => rfl
    all_goals cases multiLine <;> rfl

theorem through_control (place : Place) (c : Char) :
    Nesting.through ⟨place.depth, false⟩ (controlCharacter c) = ⟨place.depth, false⟩ := by
  have digits : ∀ n < 32, Nesting.through ⟨0, false⟩ (hexDigits n) = ⟨0, false⟩ ∧
      Nesting.through ⟨1, false⟩ (hexDigits n) = ⟨1, false⟩ := by decide
  obtain ⟨outside, inside⟩ := digits (c.toNat % 32) (Nat.mod_lt _ (by decide))
  cases place with
  | outside => exact outside
  | inside => exact inside

theorem through_escape (place : Place) (c : Char) :
    Nesting.through ⟨place.depth, false⟩ (escape place c).2 =
      ⟨(escape place c).1.depth, false⟩ := by
  unfold escape
  split
  case h_12 => cases place <;> rfl
  all_goals cases place <;> decide +kernel

-- What a step writes leads from the depth before it to the depth after it.
theorem through_step (flags : Flags) (state : Scan) (c : Char) :
    Nesting.through ⟨state.depth, false⟩ (step flags state c).2 =
      ⟨(step flags state c).1.depth, false⟩ := by
  cases state with
  | ready place => exact through_begin flags place c
  | opened =>
    simp only [step]
    split
    · rfl
    · rfl
    · exact through_begin flags .inside c
  | openedNegated =>
    simp only [step]
    split
    · rfl
    · exact through_begin flags .inside c
  | escaped place => exact through_escape place c
  | zero place =>
    have begun := through_begin flags place c
    simp only [step]
    split <;> cases place <;> exact begun
  | control place =>
    have begun := through_begin flags place c
    simp only [step]
    split
    · exact through_control place c
    · cases place <;> exact begun
  | afterShorthand =>
    simp only [step]
    split
    · rfl
    · exact through_begin flags .inside c

theorem through_scan (flags : Flags) (state : Scan) (cs : List Char) :
    Nesting.through ⟨state.depth, false⟩ (scan flags state cs).2 =
      ⟨(scan flags state cs).1.depth, false⟩ := by
  induction cs generalizing state with
  | nil => rfl
  | cons c cs ih =>
    refine (Nesting.through_append _ (step flags state c).2 _).trans ?_
    rw [through_step]
    exact ih (step flags state c).1

-- How a text is nested whose pattern stands somewhere.
def nestingAt : Cursor → Nesting
  | .outside => ⟨0, false⟩
  | .inside => ⟨1, false⟩
  | .escape insideClass => ⟨if insideClass then 1 else 0, true⟩

theorem through_pendingText (state : Scan) :
    Nesting.through ⟨state.depth, false⟩ (pendingText state) = nestingAt state.cursor := by
  rcases state with place | _ | _ | place | place | place | _ <;> first | rfl | cases place <;> rfl

theorem after_body (flags : Flags) (pattern : List Char) :
    Nesting.after (body flags pattern) = nestingAt (Cursor.after pattern) := by
  have final := cursor_scan flags (.ready .outside) pattern
  have written := through_scan flags (.ready .outside) pattern
  rw [body_eq_finish, finish, Nesting.after, Nesting.through_append]
  refine (congrArg (Nesting.through · _) written).trans ?_
  rw [through_pendingText, final]
  rfl

theorem after_spell (flags : Flags) (pattern : String) :
    Nesting.after (spell flags pattern).toList = nestingAt (Cursor.after pattern.toList) := by
  rw [← after_body flags, toList_spell]
  cases flags.ignoreCase <;> rfl

theorem depth_nestingAt_eq_zero (cursor : Cursor) :
    (nestingAt cursor).depth = 0 ↔ cursor.isInside = false := by
  rcases cursor with _ | _ | insideClass
  · decide
  · decide
  · cases insideClass <;> decide

section Heads

variable {flags : Flags}

-- What the spelling of a token may begin with, unless the token is passed on as it is.
def Place.initials : Place → List Char
  | .outside => ['\\', '[', '(', '/']
  | .inside => ['\\', '[', '(', '/', '0', 'A']

-- What is pending comes first, however the token goes on.
theorem head?_finish (state : Scan) (unescaped : ∀ place, state ≠ .escaped place) {d : Char}
    (pending : (pendingText state).head? = some d) (cs : List Char) :
    (finish flags state cs).head? = some d := by
  have negated (cs : List Char) : (finish flags .openedNegated cs).head? = some '[' := by
    cases cs with
    | nil => rfl
    | cons c cs =>
      simp only [finish_cons, step]
      split <;> rfl
  cases cs with
  | nil => exact pending
  | cons c cs =>
    cases state with
    | ready place => cases pending
    | afterShorthand => cases pending
    | escaped place => exact absurd rfl (unescaped place)
    | openedNegated => exact (negated (c :: cs)).trans pending
    | opened =>
      cases pending
      simp only [finish_cons, step]
      split
      · exact negated cs
      · rfl
      · rfl
    | zero place =>
      cases pending
      simp only [finish_cons, step]
      split <;> rfl
    | control place =>
      cases pending
      simp only [finish_cons, step]
      split <;> rfl

theorem head?_finish_escaped (place : Place) (cs : List Char) :
    ∃ d ∈ place.initials, (finish flags (.escaped place) cs).head? = some d := by
  have backslash : '\\' ∈ place.initials := by cases place <;> decide
  cases cs with
  | nil => exact ⟨'\\', backslash, rfl⟩
  | cons c cs =>
    simp only [finish_cons, step, escape]
    split
    case h_9 => exact ⟨'\\', backslash, head?_finish (.zero place) (by simp) rfl cs⟩
    case h_10 => exact ⟨'\\', backslash, head?_finish (.control place) (by simp) rfl cs⟩
    all_goals cases place <;> exact ⟨_, by decide, rfl⟩

-- A character is passed on as it is, or its spelling begins as that of a token may.
theorem begin_cases (flags : Flags) (place : Place) (c : Char) (cs : List Char) :
    (begin flags place c).2 = [c] ∨
      ∃ d ∈ place.initials, (finish flags (.ready place) (c :: cs)).head? = some d := by
  cases place with
  | inside =>
    simp only [finish_cons, step, begin]
    split
    case h_1 => exact .inr (head?_finish_escaped .inside cs)
    case h_2 | h_6 => exact .inl rfl
    all_goals exact .inr ⟨'\\', by decide, rfl⟩
  | outside =>
    simp only [finish_cons, step, begin]
    split
    case h_1 => exact .inr (head?_finish_escaped .outside cs)
    case h_2 => exact .inr ⟨'[', by decide, head?_finish .opened (by simp) rfl cs⟩
    case h_3 => exact .inr ⟨'[', by decide, by cases flags.dotAll <;> rfl⟩
    case h_6 => exact .inl rfl
    all_goals
      cases flags.multiLine with
      | false => exact .inl rfl
      | true => exact .inr ⟨'(', by decide, rfl⟩

-- Any other character at the head of a spelling is one of the pattern.
theorem eq_cons_of_finish (place : Place) {cs rest : List Char} {d : Char}
    (other : d ∉ place.initials)
    (h : finish flags (.ready place) cs = d :: rest) :
    ∃ cs', cs = d :: cs' ∧ rest = finish flags (begin flags place d).1 cs' := by
  cases cs with
  | nil => cases h
  | cons c cs =>
    rcases begin_cases flags place c cs with kept | ⟨initial, hinitial, first⟩
    · have written : c :: finish flags (begin flags place c).1 cs = d :: rest := by
        rw [← h, finish_cons, step, kept]
        rfl
      obtain ⟨rfl, rfl⟩ := List.cons.inj written
      exact ⟨cs, rfl, rfl⟩
    · rw [h] at first
      cases first
      exact absurd hinitial other

end Heads

-- Whether a character behind `(?` makes a group that ECMAScript does not know.
def isForeign (mark : Char) : Bool := mark == '#' || mark.isAlpha || mark == '-'

-- What may follow a character that no backslash takes. No class is empty, and no parenthesis is
-- closed in a nested class. Outside classes, one may open a foreign group only if there are such.
def mayPrecede (foreign : Bool) (depth : Nat) : Char → List Char → Bool
  | '[', ']' :: _ => false
  | '[', '^' :: ']' :: _ => false
  | '(', '?' :: mark :: _ => !isForeign mark || depth != 0 || foreign
  | ')', _ => decide (depth ≤ 1)
  | _, _ => true

-- Whether that holds all through a text.
def proper (foreign : Bool) : Nesting → List Char → Bool
  | _, [] => true
  | nesting, c :: rest =>
    (nesting.escaped || mayPrecede foreign nesting.depth c rest) &&
      proper foreign (nesting.step c) rest

section Proper

variable {flags : Flags} {foreign : Bool}

theorem proper_plain {depth : Nat} {c : Char} {rest : List Char} (shallow : depth ≤ 1)
    (backslash : c ≠ '\\') (opening : c ≠ '[') (closing : c = ']' → depth = 0)
    (grouped : depth = 0 → ∀ mark after, c :: rest = '(' :: '?' :: mark :: after →
      isForeign mark = true → foreign = true)
    (h : proper foreign ⟨depth, false⟩ rest = true) :
    proper foreign ⟨depth, false⟩ (c :: rest) = true := by
  have admitted : mayPrecede foreign depth c rest = true := by
    unfold mayPrecede
    split
    · exact absurd rfl opening
    · exact absurd rfl opening
    · next mark after =>
      by_cases outside : depth = 0
      · cases native : isForeign mark with
        | false => rfl
        | true => simp [grouped outside mark after rfl native]
      · simp [outside]
    · exact decide_eq_true shallow
    · rfl
  rw [proper, admitted, Nesting.step_plain backslash opening closing, h]
  rfl

-- A foreign group outside a class, in the rest of a pattern.
def HasForeign (cursor : Cursor) (cs : List Char) : Prop :=
  ∃ before mark after, cs = before ++ '(' :: '?' :: mark :: after ∧
    before.foldl Cursor.step cursor = .outside ∧ isForeign mark = true

theorem hasForeign_outside_iff (pattern : List Char) :
    HasForeign .outside pattern ↔ EcmaScript.HasForeignGroup pattern := by
  simp only [HasForeign, EcmaScript.HasForeignGroup, isForeign, Bool.or_eq_true, beq_iff_eq,
    or_assoc]
  rfl

-- A foreign group in the spelling is one in the pattern.
theorem hasForeign_of_finish {cs after : List Char} {c mark : Char}
    (h : c :: finish flags (.ready .outside) cs = '(' :: '?' :: mark :: after)
    (foreign : isForeign mark = true) : HasForeign .outside (c :: cs) := by
  obtain ⟨rfl, question⟩ := List.cons.inj h
  obtain ⟨cs, rfl, later⟩ := eq_cons_of_finish _ (by decide) question
  have other : mark ∉ Place.outside.initials := by
    intro initial
    have native : Place.outside.initials.all (isForeign · == false) = true := by decide
    have known := eq_of_beq (List.all_eq_true.mp native mark initial)
    exact absurd foreign (by simp [known])
  obtain ⟨cs, rfl, -⟩ := eq_cons_of_finish .outside other later.symm
  exact ⟨[], mark, cs, rfl, rfl, foreign⟩

theorem proper_begin (place : Place) (c : Char) (cs : List Char)
    (foreignOf : HasForeign place.cursor (c :: cs) → foreign = true)
    (later : proper foreign ⟨(begin flags place c).1.depth, false⟩
      (finish flags (begin flags place c).1 cs) = true) :
    proper foreign ⟨place.depth, false⟩
      ((begin flags place c).2 ++ finish flags (begin flags place c).1 cs) = true := by
  revert later
  cases place with
  | inside =>
    simp only [begin]
    split
    case h_6 =>
      exact proper_plain (Nat.le_refl 1) ‹_› ‹_› (fun closing => absurd closing ‹_›)
        fun outside => absurd outside Nat.one_ne_zero
    all_goals exact id
  | outside =>
    simp only [begin]
    split
    case h_3 => cases flags.dotAll <;> exact id
    case h_6 =>
      exact proper_plain (Nat.zero_le 1) ‹_› ‹_› (fun _ => rfl) fun _ mark after h hmark =>
        foreignOf (hasForeign_of_finish h hmark)
    case h_1 | h_2 => exact id
    all_goals
      cases flags.multiLine with
      | true => exact id
      | false =>
        refine proper_plain (by decide) (by decide) (by decide) (fun _ => rfl)
          fun _ mark after h => ?_
        cases h

set_option maxRecDepth 2000 in
theorem proper_escape (place : Place) (c : Char) (rest : List Char)
    (later : proper foreign ⟨(escape place c).1.depth, false⟩ rest = true) :
    proper foreign ⟨place.depth, false⟩ ((escape place c).2 ++ rest) = true := by
  revert later
  unfold escape
  split <;> cases place <;> exact id

theorem proper_control (place : Place) (c : Char) {rest : List Char}
    (later : proper foreign ⟨place.depth, false⟩ rest = true) :
    proper foreign ⟨place.depth, false⟩ (controlCharacter c ++ rest) = true := by
  have digits : ∀ n < 32, (hexDigits n).all Char.isAlphanum = true := by decide
  have unmarked (text : List Char) (plain : text.all Char.isAlphanum = true) :
      proper foreign ⟨place.depth, false⟩ (text ++ rest) = true := by
    induction text with
    | nil => exact later
    | cons d text ih =>
      obtain ⟨first, plain⟩ := (Bool.and_eq_true ..).mp plain
      have other (mark : Char) (hmark : mark.isAlphanum = false) : d ≠ mark := by
        rintro rfl
        exact absurd first (by simp [hmark])
      exact proper_plain place.depth_le (other '\\' rfl) (other '[' rfl)
        (fun same => absurd same (other ']' rfl))
        (fun _ _ _ same => absurd (List.cons.inj same).1 (other '(' rfl)) (ih plain)
  have read := unmarked _ (digits (c.toNat % 32) (Nat.mod_lt _ (by decide)))
  cases place <;> exact read

theorem eq_of_begin (flags : Flags) (place : Place) (c : Char) (cs : List Char) {d : Char}
    {rest : List Char} (other : d ∉ place.initials)
    (h : (begin flags place c).2 ++ finish flags (begin flags place c).1 cs = d :: rest) :
    c = d := by
  obtain ⟨_, same, -⟩ := eq_cons_of_finish _ other ((finish_cons ..).trans h)
  exact (List.cons.inj same).1

-- A class that is not closed at once is not empty as it is written.
theorem proper_opening {text : List Char} (closing : ∀ rest, text ≠ ']' :: rest)
    (caret : ∀ rest, text ≠ '^' :: ']' :: rest) (h : proper foreign ⟨1, false⟩ text = true) :
    proper foreign ⟨0, false⟩ ('[' :: text) = true := by
  have admitted : mayPrecede foreign 0 '[' text = true := by
    unfold mayPrecede
    split
    · exact absurd rfl (closing _)
    · exact absurd rfl (caret _)
    · contradiction
    · contradiction
    · rfl
  rw [proper, admitted]
  exact h

theorem proper_step (state : Scan) (c : Char) (cs : List Char)
    (foreignOf : HasForeign state.cursor (c :: cs) → foreign = true)
    (later : proper foreign ⟨(step flags state c).1.depth, false⟩
      (finish flags (step flags state c).1 cs) = true) :
    proper foreign ⟨state.depth, false⟩ (finish flags state (c :: cs)) = true := by
  rw [finish_cons]
  revert later
  cases state with
  | ready place => exact proper_begin place c cs foreignOf
  | opened =>
    simp only [step]
    split
    · exact id
    · exact id
    · next caret closing =>
      intro later
      exact proper_opening
        (fun _ first => closing (eq_of_begin flags .inside c cs (by decide) first))
        (fun _ first => caret (eq_of_begin flags .inside c cs (by decide) first))
        (proper_begin .inside c cs foreignOf later)
  | openedNegated =>
    simp only [step]
    split
    · exact id
    · next closing =>
      intro later
      have other : '^' ≠ ']' := by decide
      refine proper_opening (fun _ first => other (List.cons.inj first).1) (fun _ first => ?_)
        (proper_begin .inside c cs foreignOf later)
      exact closing (eq_of_begin flags .inside c cs (by decide) (List.cons.inj first).2)
  | escaped place => exact proper_escape place c _
  | zero place =>
    intro later
    have begun := proper_begin place c cs foreignOf later
    simp only [step]
    split <;> cases place <;> exact begun
  | control place =>
    simp only [step]
    split
    · exact proper_control place c
    · intro later
      have begun := proper_begin place c cs foreignOf later
      cases place <;> exact begun
  | afterShorthand =>
    simp only [step]
    split
    · exact id
    · exact proper_begin .inside c cs foreignOf

theorem proper_pendingText (state : Scan) :
    proper foreign ⟨state.depth, false⟩ (pendingText state) = true := by
  cases state <;> rfl

theorem proper_finish (state : Scan) (cs : List Char)
    (foreignOf : HasForeign state.cursor cs → foreign = true) :
    proper foreign ⟨state.depth, false⟩ (finish flags state cs) = true := by
  induction cs generalizing state with
  | nil => exact proper_pendingText state
  | cons c cs ih =>
    refine proper_step state c cs foreignOf (ih _ fun ⟨before, mark, after, text, outside, h⟩ => ?_)
    rw [cursor_step] at outside
    exact foreignOf ⟨c :: before, mark, after, congrArg (c :: ·) text, outside, h⟩

theorem proper_body (pattern : List Char)
    (foreignOf : EcmaScript.HasForeignGroup pattern → foreign = true) :
    proper foreign {} (body flags pattern) = true :=
  proper_finish (.ready .outside) _ fun h => foreignOf ((hasForeign_outside_iff _).mp h)

-- What holds all through a text holds from any of its places on.
theorem proper_suffix {nesting : Nesting} {text rest : List Char}
    (h : proper foreign nesting (text ++ rest) = true) :
    proper foreign (nesting.through text) rest = true := by
  induction text generalizing nesting with
  | nil => exact h
  | cons c text ih => exact ih ((Bool.and_eq_true ..).mp h).2

end Proper

-- Whether a text closes a class as soon as it is open.
def HasEmptyClass (text : List Char) : Prop :=
  ∃ before opening after, text = before ++ opening ++ ']' :: after ∧
    (opening = ['['] ∨ opening = ['[', '^']) ∧ (Nesting.after before).escaped = false

theorem not_hasEmptyClass (flags : Flags) (pattern : String) :
    ¬ HasEmptyClass (spell flags pattern).toList := by
  rintro ⟨before, opening, after, text, bracket, unescaped⟩
  have written : proper true {} (spell flags pattern).toList = true := by
    have written : proper true {} (body flags pattern.toList) = true :=
      proper_body pattern.toList fun _ => rfl
    rw [toList_spell]
    cases flags.ignoreCase <;> exact written
  rw [text, List.append_assoc] at written
  have admitted := proper_suffix written
  rcases bracket with rfl | rfl
  all_goals
    have opened := ((Bool.and_eq_true ..).mp admitted).1
    rw [Bool.or_eq_true] at opened
    rcases opened with escaped | refused
    · exact absurd (escaped.symm.trans unescaped) (by decide)
    · cases refused

section Closing

variable {pattern : String}

theorem completeBefore_closed (inside : Cursor.after pattern.toList = .inside) (rest : List Char) :
    CompleteBefore (pattern ++ "]").toList rest := by
  have last (letter : Char) (other : letter ≠ ']') :
      ¬ EcmaScript.EndsInEscape letter (pattern ++ "]").toList := by
    rintro ⟨before, text, -⟩
    have ends := congrArg List.getLast? text
    rw [String.toList_append, List.getLast?_append, List.getLast?_append] at ends
    exact other (Option.some.inj ends).symm
  refine ⟨?_, fun ends => absurd ends (last '0' (by decide)),
    fun ends => absurd ends (last 'c' (by decide))⟩
  rw [String.toList_append, Cursor.after_append, inside]
  rfl

-- A bracket that closes the class of a pattern closes all classes of its spelling.
theorem after_closed (flags : Flags) (inside : Cursor.after pattern.toList = .inside) :
    Nesting.after (spell flags (pattern ++ "]")).toList = ⟨0, false⟩ := by
  rw [after_spell, (completeBefore_closed inside []).outside]
  rfl

-- What follows the class is not drawn into it.
theorem toList_spell_closed (flags : Flags) (inside : Cursor.after pattern.toList = .inside)
    (rest : String) :
    (spell flags (pattern ++ "]" ++ rest)).toList =
      (spell flags (pattern ++ "]")).toList ++ body flags rest.toList := by
  have parts := body_append flags (completeBefore_closed inside rest.toList)
  rw [← String.toList_append] at parts
  simp only [toList_spell, parts, List.append_assoc]

end Closing

end Vetting.Pattern.Dialect
