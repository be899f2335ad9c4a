import Mathlib.Data.List.TakeWhile
import Vetting.Pattern.Basic
import Vetting.Proofs.Outcome
import Vetting.Proofs.Pattern.Nesting

namespace Vetting.Pattern

open Dialect (Nesting mode proper)

namespace Parser

-- The characters that a reading of brackets looks at.
def isBracket (c : Char) : Bool := c == '\\' || c == '[' || c == ']'

theorem isBracket_eq_false {c : Char} : isBracket c = false ↔ c ≠ '\\' ∧ c ≠ '[' ∧ c ≠ ']' := by
  simp [isBracket, and_assoc]

theorem eq_of_isBracket {c : Char} (bracket : isBracket c = true) :
    c = '\\' ∨ c = '[' ∨ c = ']' := by
  simpa [isBracket, or_assoc] using bracket

-- Reading on from a place in some classes to one in others. No backslash comes last.
def Passes (depth : Nat) (cs : List Char) (depth' : Nat) (rest : List Char) : Prop :=
  ∃ text, cs = text ++ rest ∧ Nesting.through ⟨depth, false⟩ text = ⟨depth', false⟩

-- The same with at least one character taken.
structure Advances (depth : Nat) (cs : List Char) (depth' : Nat) (rest : List Char) : Prop where
  passes : Passes depth cs depth' rest
  shorter : rest.length < cs.length

-- A text with no foreign group outside its classes, if it is read on in some classes.
def Native (depth : Nat) (cs : List Char) : Prop := proper false ⟨depth, false⟩ cs = true

section Passes

variable {depth depth' depth'' : Nat} {c : Char} {cs rest rest' : List Char}

theorem Passes.refl (depth : Nat) (cs : List Char) : Passes depth cs depth cs := ⟨[], rfl, rfl⟩

theorem Passes.trans (h : Passes depth cs depth' rest) (h' : Passes depth' rest depth'' rest') :
    Passes depth cs depth'' rest' := by
  obtain ⟨text, rfl, through⟩ := h
  obtain ⟨text', rfl, through'⟩ := h'
  refine ⟨text ++ text', (List.append_assoc ..).symm, ?_⟩
  rw [Nesting.through_append, through, through']

theorem Passes.length_le (h : Passes depth cs depth' rest) : rest.length ≤ cs.length := by
  obtain ⟨text, rfl, -⟩ := h
  rw [List.length_append]
  exact Nat.le_add_left ..

theorem Advances.trans (h : Advances depth cs depth' rest) (h' : Passes depth' rest depth'' rest') :
    Advances depth cs depth'' rest' :=
  ⟨h.passes.trans h', Nat.lt_of_le_of_lt h'.length_le h.shorter⟩

-- One character more.
theorem Passes.advances (h : Passes depth (c :: rest) depth' rest) :
    Advances depth (c :: rest) depth' rest :=
  ⟨h, Nat.lt_succ_self _⟩

theorem Passes.native (h : Passes depth cs depth' rest) (native : Native depth cs) :
    Native depth' rest := by
  obtain ⟨text, rfl, through⟩ := h
  have later := Dialect.proper_suffix native
  rwa [through] at later

theorem passes_plain (depth : Nat) (text : List Char) (plain : text.any isBracket = false)
    (rest : List Char) : Passes depth (text ++ rest) depth rest := by
  refine ⟨text, rfl, ?_⟩
  induction text with
  | nil => rfl
  | cons c text ih =>
    obtain ⟨first, plain⟩ := (Bool.or_eq_false_iff ..).mp plain
    obtain ⟨backslash, opening, closing⟩ := isBracket_eq_false.mp first
    rw [Nesting.through, List.foldl_cons,
      Nesting.step_plain backslash opening fun same => absurd same closing]
    exact ih plain

theorem passes_cons (depth : Nat) (plain : isBracket c = false) (rest : List Char) :
    Passes depth (c :: rest) depth rest :=
  passes_plain depth [c] (by rw [List.any_cons, plain]; rfl) rest

-- Characters of a kind that brackets are not of.
theorem plain_of_all {p : Char → Bool} (kind : ∀ c, isBracket c = true → p c = false)
    {text : List Char} (h : ∀ c ∈ text, p c = true) : text.any isBracket = false := by
  rw [List.any_eq_false]
  intro c hc bracket
  exact absurd (h c hc) (by simp [kind c bracket])

theorem passes_dropWhile (depth : Nat) {p : Char → Bool}
    (kind : ∀ c, isBracket c = true → p c = false) (cs : List Char) :
    Passes depth cs depth (cs.dropWhile p) := by
  have plain := plain_of_all kind fun c (hc : c ∈ cs.takeWhile p) => List.mem_takeWhile_imp hc
  have passed := passes_plain depth _ plain (cs.dropWhile p)
  rwa [List.takeWhile_append_dropWhile] at passed

theorem advances_escape (depth : Nat) (c : Char) (rest : List Char) :
    Advances depth ('\\' :: c :: rest) depth rest :=
  ⟨⟨['\\', c], rfl, rfl⟩, Nat.lt_succ_of_lt (Nat.lt_succ_self _)⟩

-- Outside classes a closing bracket is a character like others.
theorem passes_outside (backslash : c ≠ '\\') (opening : c ≠ '[') (rest : List Char) :
    Passes 0 (c :: rest) 0 rest :=
  ⟨[c], rfl, Nesting.step_plain backslash opening fun _ => rfl⟩

end Passes

section Readers

variable {depth count : Nat} {c : Char} {cs rest : List Char}

theorem not_isHexDigit (c : Char) (bracket : isBracket c = true) : Text.isHexDigit c = false := by
  rcases eq_of_isBracket bracket with rfl | rfl | rfl <;> rfl

theorem not_isDigit (c : Char) (bracket : isBracket c = true) : c.isDigit = false := by
  rcases eq_of_isBracket bracket with rfl | rfl | rfl <;> rfl

theorem not_isNameChar (c : Char) (bracket : isBracket c = true) : isNameChar c = false := by
  rcases eq_of_isBracket bracket with rfl | rfl | rfl <;> decide +kernel

theorem passes_readCount? {n : Nat} (h : readCount? cs = some (n, rest)) :
    Passes depth cs depth rest := by
  obtain ⟨value, -, h⟩ := Option.bind_eq_some_iff.mp h
  split at h
  · cases h
    exact passes_dropWhile depth not_isDigit cs
  · cases h

-- The upper count of a quantifier in braces, behind the lower one.
def readUpper? (min : Nat) : List Char → Option (Nat × Option Nat × List Char)
  | '\x7d' :: rest => some (min, some min, rest)
  | ',' :: rest =>
    let (max, rest) :=
      match readCount? rest with
      | some (max, rest) => (some max, rest)
      | none => (none, rest)
    match rest with
    | '\x7d' :: rest => some (min, max, rest)
    | _ => none
  | _ => none

-- The lower count, which is zero if it is left out.
def readLower? (cs : List Char) : Option (Nat × List Char) :=
  match cs with
  | ',' :: _ => some (0, cs)
  | _ => readCount? cs

theorem readBraces?_eq (cs : List Char) :
    readBraces? cs = (readLower? cs).bind fun (min, rest) => readUpper? min rest := by
  unfold readBraces?
  split
  · rfl
  · next other =>
    have counted : readLower? cs = readCount? cs := by
      rw [readLower?]
      exact other
    rw [counted]
    rfl

theorem passes_readLower? {min : Nat} (h : readLower? cs = some (min, rest)) :
    Passes depth cs depth rest := by
  unfold readLower? at h
  split at h
  · cases h
    exact .refl depth _
  · exact passes_readCount? h

theorem passes_readUpper? {least min : Nat} {max : Option Nat}
    (h : readUpper? least cs = some (min, max, rest)) : Passes depth cs depth rest := by
  unfold readUpper? at h
  split at h
  · cases h
    exact passes_cons depth (by decide) _
  · next tail =>
    refine (passes_cons depth (by decide) tail).trans ?_
    split at h
    next most last found =>
    have counted : Passes depth tail depth last := by
      split at found
      · next counted =>
        cases found
        exact passes_readCount? counted
      · cases found
        exact .refl depth _
    refine counted.trans ?_
    split at h
    · cases h
      exact passes_cons depth (by decide) _
    · cases h
  · cases h

theorem passes_readBraces? {min : Nat} {max : Option Nat}
    (h : readBraces? cs = some (min, max, rest)) : Passes depth cs depth rest := by
  rw [readBraces?_eq] at h
  obtain ⟨⟨least, later⟩, lower, upper⟩ := Option.bind_eq_some_iff.mp h
  exact (passes_readLower? lower).trans (passes_readUpper? upper)

theorem advances_readQuantifier? (depth : Nat) {min : Nat} {max : Option Nat}
    (h : readQuantifier? cs = some (min, max, rest)) : Advances depth cs depth rest := by
  unfold readQuantifier? at h
  split at h
  case h_4 => exact (passes_cons depth (by decide) _).advances.trans (passes_readBraces? h)
  case h_5 => cases h
  all_goals
    cases h
    exact (passes_cons depth (by decide) _).advances

theorem passes_readHex {d : Char} (h : readHex count cs = .ok (d, rest)) :
    Passes depth cs depth rest := by
  unfold readHex at h
  split at h
  · next digits =>
    obtain ⟨d', -, h⟩ := Outcome.bind_eq_ok.mp h
    cases h
    have plain := plain_of_all not_isHexDigit
      (List.all_eq_true.mp ((Bool.and_eq_true ..).mp digits).2)
    have passed := passes_plain depth _ plain (cs.drop count)
    rwa [List.take_append_drop] at passed
  · split at h
    · next tail _ =>
      have digits := passes_dropWhile depth not_isHexDigit tail
      refine ((passes_cons depth (by decide) tail).trans digits).trans ?_
      dsimp only at h
      split at h
      · cases h
      · split at h
        · next closing =>
          obtain ⟨d', -, h⟩ := Outcome.bind_eq_ok.mp h
          cases h
          rw [closing]
          exact passes_cons depth (by decide) _
        · cases h
    · cases h

theorem eq_of_cutAt? {mark name front back : List Char}
    (h : Property.cutAt? mark name = some (front, back)) : name = front ++ mark ++ back := by
  induction name generalizing front with
  | nil => cases h
  | cons c name ih =>
    rw [Property.cutAt?] at h
    split at h
    · next starts =>
      cases h
      obtain ⟨rest, joined⟩ := List.isPrefixOf_iff_prefix.mp starts
      rw [← joined, List.drop_left, List.nil_append]
    · obtain ⟨⟨front', back'⟩, cut, h⟩ := Option.map_eq_some_iff.mp h
      cases h
      rw [ih cut, List.cons_append, List.cons_append]

theorem eq_of_cut? {name front back : List Char} (h : Property.cut? name = some (front, back)) :
    ∃ mark : List Char, mark.any isBracket = false ∧ name = front ++ mark ++ back := by
  unfold Property.cut? at h
  rw [Option.orElse_eq_some, Option.orElse_eq_some] at h
  rcases h with h | ⟨-, h | ⟨-, h⟩⟩
  all_goals exact ⟨_, rfl, eq_of_cutAt? h⟩

-- A bracket counts in a name, and no name has one.
theorem plain_of_symbol? {name : List Char} {symbol : String}
    (h : Property.symbol? name = some symbol) : name.any isBracket = false := by
  rw [List.any_eq_false]
  intro c hc bracket
  unfold Property.symbol? at h
  dsimp only at h
  split at h
  · next named =>
    have counts : Property.counts c = true := by
      rcases eq_of_isBracket bracket with rfl | rfl | rfl <;> rfl
    have letter := List.all_eq_true.mp named c (List.mem_filter.mpr ⟨hc, counts⟩)
    rcases eq_of_isBracket bracket with rfl | rfl | rfl <;> cases letter
  · cases h

theorem plain_of_ofName? {name : List Char} {s : CharSet} (h : Property.ofName? name = some s) :
    name.any isBracket = false := by
  unfold Property.ofName? at h
  split at h
  · next property value cut =>
    obtain ⟨_, named, h⟩ := Option.bind_eq_some_iff.mp h
    obtain ⟨_, valued, -⟩ := Option.bind_eq_some_iff.mp h
    obtain ⟨mark, plain, rfl⟩ := eq_of_cut? cut
    rw [List.any_append, List.any_append, plain_of_symbol? named, plain, plain_of_symbol? valued]
    rfl
  · obtain ⟨_, named, -⟩ := Option.bind_eq_some_iff.mp h
    exact plain_of_symbol? named

theorem passes_readProperty {ignoreCase negated : Bool} {s : CharSet}
    (h : readProperty ignoreCase negated cs = .ok (s, rest)) : Passes depth cs depth rest := by
  obtain ⟨⟨name, later⟩, named, h⟩ := Outcome.bind_eq_ok.mp h
  dsimp only at h
  split at h
  · next known =>
    cases h
    have plain := plain_of_ofName? known
    unfold readPropertyName at named
    split at named
    · cases named
    · next tail =>
      refine (passes_cons depth (by decide) tail).trans ?_
      split at named
      · next closing after text =>
        cases named
        have passed := passes_plain depth _ plain (tail.dropWhile (· != '\x7d'))
        have brace := List.head?_dropWhile_not (· != '\x7d') tail
        rw [List.takeWhile_append_dropWhile, text] at passed
        rw [text] at brace
        obtain rfl : closing = '\x7d' := by simpa using brace
        exact passed.trans (passes_cons depth (by decide) _)
      · cases named
    · next c tail _ =>
      cases named
      exact passes_plain depth [c] plain _
  · cases h

theorem passes_readEscape {ignoreCase : Bool} {e : Escape}
    (h : readEscape ignoreCase c cs = .ok (e, rest)) : Passes depth cs depth rest := by
  unfold readEscape at h
  split at h
  · cases h
    exact .refl depth _
  · cases h
    exact .refl depth _
  · split at h
    case h_6 =>
      split at h
      · cases h
      · cases h
        exact .refl depth _
    all_goals
      obtain ⟨⟨read, later⟩, found, h⟩ := Outcome.bind_eq_ok.mp h
      cases h
      first | exact passes_readHex found | exact passes_readProperty found

theorem passes_readName {name : String} (h : readName cs = .ok (name, rest)) :
    Passes depth cs depth rest := by
  unfold readName at h
  split at h
  · next tail =>
    have name := passes_dropWhile depth not_isNameChar tail
    refine ((passes_cons depth (by decide) tail).trans name).trans ?_
    dsimp only at h
    split at h
    · next closing =>
      split at h
      · cases h
      · cases h
        rw [closing]
        exact passes_cons depth (by decide) _
    · cases h
  · cases h

theorem eq_of_readNumbered {state next : State} (h : readNumbered state cs = .ok (next, rest)) :
    rest = cs.dropWhile Char.isDigit := by
  unfold readNumbered at h
  split at h
  · split at h
    · obtain ⟨_, -, h⟩ := Outcome.bind_eq_ok.mp h
      cases h
      rfl
    · cases h
  · cases h

theorem passes_readNamed {state next : State} (h : readNamed state cs = .ok (next, rest)) :
    Passes depth cs depth rest := by
  obtain ⟨⟨name, later⟩, named, h⟩ := Outcome.bind_eq_ok.mp h
  refine (passes_readName named).trans ?_
  dsimp only at h
  split at h
  · obtain ⟨_, -, h⟩ := Outcome.bind_eq_ok.mp h
    cases h
    exact .refl depth _
  · split at h
    · split at h
      · obtain ⟨_, -, h⟩ := Outcome.bind_eq_ok.mp h
        cases h
        exact .refl depth _
      · cases h
    · cases h

theorem advances_readAtomEscape {state next : State}
    (h : readAtomEscape state cs = .ok (next, rest)) : Advances depth ('\\' :: cs) depth rest := by
  unfold readAtomEscape at h
  split at h
  case h_1 => cases h
  case h_2 => exact (advances_escape depth _ _).trans (passes_readNamed h)
  case h_9 =>
    split at h
    · next c tail _ _ _ _ _ _ _ digit =>
      rw [eq_of_readNumbered h, List.dropWhile_cons_of_pos digit]
      exact (advances_escape depth c tail).trans (passes_dropWhile depth not_isDigit tail)
    · obtain ⟨⟨e, later⟩, found, h⟩ := Outcome.bind_eq_ok.mp h
      refine (advances_escape depth _ _).trans ((passes_readEscape found).trans ?_)
      cases e <;> cases h <;> exact .refl depth _
  all_goals
    cases h
    exact advances_escape depth _ _

theorem passes_readModes {modes modes' : Modes} {off fresh grouped : Bool}
    (h : readModes modes off fresh cs = .ok (modes', grouped, rest)) :
    Passes depth cs depth rest := by
  fun_induction readModes modes off fresh cs
  case case3 | case5 =>
    cases h
    exact passes_cons depth (by decide) _
  case case7 | case8 | case9 | case10 | case11 | case13 =>
    next later => exact (passes_cons depth (by decide) _).trans (later h)
  all_goals cases h

end Readers

-- Outside classes there are no comments.
theorem skipAllComments_of_native {cs : List Char} (native : Native 0 cs) :
    skipAllComments cs = .ok cs := by
  unfold skipAllComments
  unfold skipComments
  split
  · exact absurd ((Bool.and_eq_true ..).mp native).1 Bool.false_ne_true
  · rfl

section Classes

variable {ignoreCase : Bool} {depth level fuel : Nat} {cs rest : List Char}

theorem passes_classEscape {tokens : List Class.Token}
    (h : classEscape ignoreCase cs = .ok (tokens, rest)) :
    Passes depth ('\\' :: cs) depth rest := by
  unfold classEscape at h
  split at h
  · cases h
  · cases h
    exact (advances_escape depth _ _).passes
  · cases h
    exact (advances_escape depth _ _).passes
  · split at h
    · cases h
    · split at h
      · cases h
        exact (advances_escape depth _ _).passes
      · obtain ⟨⟨e, later⟩, found, h⟩ := Outcome.bind_eq_ok.mp h
        refine (advances_escape depth _ _).passes.trans ((passes_readEscape found).trans ?_)
        cases e <;> cases h <;> exact .refl depth _

theorem passes_classTokens {tokens : List Class.Token} (nested : depth ≤ level + 1)
    (h : classTokens ignoreCase fuel level cs = .ok (tokens, rest)) : Passes depth cs 0 rest := by
  fun_induction classTokens ignoreCase fuel level cs generalizing depth tokens with
  | case1 | case2 => cases h
  | case3 fuel level tail ih =>
    obtain ⟨⟨read, next⟩, escaped, h⟩ := Outcome.bind_eq_ok.mp h
    obtain ⟨⟨more, last⟩, found, h⟩ := Outcome.bind_eq_ok.mp h
    cases h
    exact (passes_classEscape escaped).trans (ih _ nested found)
  | case4 fuel level tail ih =>
    obtain ⟨⟨more, last⟩, found, h⟩ := Outcome.bind_eq_ok.mp h
    cases h
    have first : Passes depth ('[' :: tail) (depth + 1) tail := ⟨['['], rfl, rfl⟩
    exact first.trans (ih (Nat.succ_le_succ nested) found)
  | case5 fuel tail =>
    have first : Passes depth (']' :: tail) (depth - 1) tail := ⟨[']'], rfl, rfl⟩
    have closed : depth - 1 = 0 := by omega
    cases h
    rwa [closed] at first
  | case6 fuel level tail inner ih =>
    obtain ⟨⟨more, last⟩, found, h⟩ := Outcome.bind_eq_ok.mp h
    cases h
    have first : Passes depth (']' :: tail) (depth - 1) tail := ⟨[']'], rfl, rfl⟩
    exact first.trans (ih (by omega) found)
  | case7 fuel level c tail backslash opening closing ih =>
    obtain ⟨⟨more, last⟩, found, h⟩ := Outcome.bind_eq_ok.mp h
    cases h
    have plain : isBracket c = false := isBracket_eq_false.mpr ⟨backslash, opening, closing⟩
    exact (passes_cons depth plain tail).trans (ih nested found)

-- A bracket or a caret that opens a class leaves it open or closes it.
theorem passes_classOpening (cs : List Char) :
    ∃ depth ≤ 1, Passes 1 cs depth (classOpening cs).2 := by
  unfold classOpening
  split
  · exact ⟨0, by decide, ['^', ']'], rfl, rfl⟩
  · exact ⟨1, by decide, ['^'], rfl, rfl⟩
  · exact ⟨0, by decide, [']'], rfl, rfl⟩
  · exact ⟨1, by decide, .refl 1 _⟩

theorem passes_readClass {a : Syntax} (h : readClass ignoreCase cs = .ok (a, rest)) :
    Passes 1 cs 0 rest := by
  obtain ⟨depth, shallow, opened⟩ := passes_classOpening cs
  obtain ⟨⟨tokens, later⟩, found, h⟩ := Outcome.bind_eq_ok.mp h
  obtain ⟨⟨s, stray⟩, -, h⟩ := Outcome.bind_eq_ok.mp h
  have tail := passes_classTokens shallow found
  dsimp only at h
  split at h
  · cases h
    exact opened.trans tail
  · obtain ⟨items, -, h⟩ := Outcome.bind_eq_ok.mp h
    cases h
    exact opened.trans tail

end Classes

section Steps

variable {state next : State} {c : Char} {cs rest : List Char}

theorem passes_readGroup (native : Native 0 cs) (h : readGroup state cs = .ok (next, rest)) :
    Passes 0 cs 0 rest := by
  obtain ⟨_, -, h⟩ := Outcome.bind_eq_ok.mp h
  obtain ⟨text, skipped, h⟩ := Outcome.bind_eq_ok.mp h
  rw [skipAllComments_of_native native] at skipped
  cases skipped
  have question (tail : List Char) : Passes 0 ('?' :: tail) 0 tail :=
    passes_cons 0 (by decide) tail
  split at h
  case h_1 | h_2 | h_7 =>
    cases h
    exact passes_plain 0 [_, _] (by decide) _
  case h_3 | h_4 =>
    cases h
    exact passes_plain 0 [_, _, _] (by decide) _
  case h_5 =>
    obtain ⟨⟨name, later⟩, named, h⟩ := Outcome.bind_eq_ok.mp h
    cases h
    exact (question _).trans (passes_readName named)
  case h_6 =>
    obtain ⟨⟨name, later⟩, named, h⟩ := Outcome.bind_eq_ok.mp h
    cases h
    exact ((question _).trans (passes_cons 0 (by decide) _)).trans (passes_readName named)
  case h_8 =>
    obtain ⟨⟨modes, grouped, later⟩, read, h⟩ := Outcome.bind_eq_ok.mp h
    refine (question _).trans ((passes_readModes read).trans ?_)
    dsimp only at h
    split at h <;> cases h <;> exact .refl 0 _
  case h_9 =>
    cases h
    exact .refl 0 _

theorem advances_readAtom (native : Native 0 (c :: cs))
    (h : readAtom state c cs = .ok (next, rest)) : Advances 0 (c :: cs) 0 rest := by
  unfold readAtom at h
  split at h
  case h_4 =>
    have opened : Passes 0 ('(' :: cs) 0 cs := passes_cons 0 (by decide) cs
    exact opened.advances.trans (passes_readGroup (opened.native native) h)
  case h_5 =>
    obtain ⟨_, -, h⟩ := Outcome.bind_eq_ok.mp h
    cases h
    exact (passes_cons 0 (by decide) _).advances
  case h_7 => exact advances_readAtomEscape h
  case h_8 =>
    obtain ⟨⟨a, later⟩, read, h⟩ := Outcome.bind_eq_ok.mp h
    cases h
    have opened : Passes 0 ('[' :: cs) 1 cs := ⟨['['], rfl, rfl⟩
    exact opened.advances.trans (passes_readClass read)
  case h_12 =>
    cases h
    exact (passes_outside ‹_› ‹_› _).advances
  case h_9 | h_10 | h_11 => cases h
  all_goals
    cases h
    exact (passes_cons 0 (by decide) _).advances

theorem passes_readQuantifierSuffix {lazy possessive : Bool} (native : Native 0 cs)
    (h : readQuantifierSuffix cs = .ok (lazy, possessive, rest)) : Passes 0 cs 0 rest := by
  obtain ⟨text, skipped, h⟩ := Outcome.bind_eq_ok.mp h
  rw [skipAllComments_of_native native] at skipped
  cases skipped
  split at h
  next first tail hfirst =>
  have passed : Passes 0 cs 0 tail := by
    split at hfirst
    · cases hfirst
      exact passes_cons 0 (by decide) _
    · cases hfirst
      exact .refl 0 _
  refine passed.trans ?_
  split at h
  · cases h
    exact passes_cons 0 (by decide) _
  · cases h
    exact .refl 0 _

theorem advances_step (native : Native 0 (c :: cs)) (h : step state c cs = .ok (next, rest)) :
    Advances 0 (c :: cs) 0 rest := by
  unfold step at h
  split at h
  · next quantified =>
    obtain ⟨⟨lazy, possessive, later⟩, suffixed, h⟩ := Outcome.bind_eq_ok.mp h
    obtain ⟨_, -, h⟩ := Outcome.bind_eq_ok.mp h
    cases h
    have counted := advances_readQuantifier? 0 quantified
    exact counted.trans
      (passes_readQuantifierSuffix (counted.passes.native native) suffixed)
  · exact advances_readAtom native h

-- A run is at the end of the text, or takes one step and goes on from there.
theorem run_cases {fuel : Nat} {final : State} (native : Native 0 cs)
    (h : run (fuel + 1) state cs = .ok final) :
    (cs = [] ∧ final = state) ∨
      ∃ c tail next rest, cs = c :: tail ∧ step state c tail = .ok (next, rest) ∧
        Advances 0 cs 0 rest ∧ run fuel next rest = .ok final := by
  obtain ⟨text, skipped, h⟩ := Outcome.bind_eq_ok.mp h
  rw [skipAllComments_of_native native] at skipped
  cases skipped
  cases cs with
  | nil =>
    cases h
    exact .inl ⟨rfl, rfl⟩
  | cons c tail =>
    obtain ⟨⟨next, rest⟩, stepped, h⟩ := Outcome.bind_eq_ok.mp h
    exact .inr ⟨c, tail, next, rest, rfl, stepped, advances_step native stepped, h⟩

-- The state in which a pattern is begun, behind the prefix if its case is ignored.
def State.begun (ignoreCase : Bool) (cs : List Char) : State :=
  let first := start (mode ignoreCase ++ cs)
  if ignoreCase then { first.push .empty with modes := { ignoreCase } } else first

-- A tree that is parsed is what a run with fuel enough ends with.
theorem run_of_parse {ignoreCase : Bool} {tree : Syntax}
    (h : parse (mode ignoreCase ++ cs) = .ok tree) :
    ∃ fuel final last, cs.length < fuel ∧ run fuel (.begun ignoreCase cs) cs = .ok final ∧
      final.contents = .ok (last, tree) := by
  obtain ⟨final, ran, h⟩ := Outcome.bind_eq_ok.mp h
  have contents : ∃ last, final.contents = .ok (last, tree) := by
    split at h
    · cases h
    · obtain ⟨⟨last, a⟩, found, h⟩ := Outcome.bind_eq_ok.mp h
      cases h
      exact ⟨last, found⟩
  obtain ⟨last, found⟩ := contents
  cases ignoreCase with
  | false => exact ⟨cs.length + 1, final, last, Nat.lt_succ_self _, ran, found⟩
  | true => exact ⟨cs.length + 4, final, last, by omega, ran, found⟩

end Steps

end Parser

-- The spelling of a pattern has no foreign groups if the pattern has none.
theorem Dialect.native_body (flags : Flags) {pattern : List Char}
    (native : ¬ EcmaScript.HasForeignGroup pattern) : Parser.Native 0 (body flags pattern) :=
  proper_body pattern fun foreign => absurd foreign native

end Vetting.Pattern
