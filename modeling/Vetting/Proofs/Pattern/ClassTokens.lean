import Mathlib.Tactic.IntervalCases
import Vetting.Proofs.Pattern.ClassOpening
import Vetting.Proofs.Pattern.ClassSpelling

namespace Vetting.Pattern

namespace Parser

open Pattern.Class (Token)
open Dialect (atomText bodyText)
open EcmaScript (ClassAtom IsClass Shorthand dashesAlike)

-- Whether a text is read as some tokens, in front of another text.
def Tokenizes (text : List Char) (tokens : List Token) (tail : List Char) : Prop :=
  ∃ steps, steps ≤ text.length ∧ ∀ fuel depth more rest,
    classTokens false fuel depth tail = .ok (more, rest) →
      classTokens false (fuel + steps) depth (text ++ tail) = .ok (tokens ++ more, rest)

variable {text text' tail : List Char} {tokens tokens' : List Token}

theorem Tokenizes.nil : Tokenizes [] [] tail := ⟨0, Nat.le_refl 0, fun _ _ _ _ h => h⟩

theorem Tokenizes.prepend (later : Tokenizes text' tokens' tail)
    (first : Tokenizes text tokens (text' ++ tail)) :
    Tokenizes (text ++ text') (tokens ++ tokens') tail := by
  obtain ⟨steps, hsteps, h⟩ := first
  obtain ⟨steps', hsteps', h'⟩ := later
  refine ⟨steps' + steps, by rw [List.length_append]; omega, fun fuel depth more rest hmore => ?_⟩
  rw [List.append_assoc, List.append_assoc, ← Nat.add_assoc]
  exact h _ _ _ _ (h' _ _ _ _ hmore)

theorem tokenizes_raw {c : Char} (plain : c ∉ ['\\', '[', ']']) :
    Tokenizes [c] [.raw c] tail := by
  simp only [List.mem_cons, List.not_mem_nil, or_false, not_or] at plain
  obtain ⟨backslash, opening, closing⟩ := plain
  refine ⟨1, Nat.le_refl 1, fun fuel depth more rest h => ?_⟩
  rw [List.singleton_append, classTokens]
  · simp only [bind, Except.bind, h]
    rfl
  · exact backslash
  · exact opening
  · exact closing

theorem tokenizes_escape {cs : List Char}
    (h : classEscape false (cs ++ tail) = .ok (tokens, tail)) :
    Tokenizes ('\\' :: cs) tokens tail := by
  refine ⟨1, by simp, fun fuel depth more rest hmore => ?_⟩
  rw [List.cons_append, classTokens]
  simp only [bind, Except.bind, h, hmore]
  rfl

-- A nested class.
theorem tokenizes_nested (h : Tokenizes text tokens (']' :: tail)) :
    Tokenizes ('[' :: text ++ [']']) (.raw '[' :: tokens ++ [.raw ']']) tail := by
  obtain ⟨steps, hsteps, h⟩ := h
  refine ⟨1 + steps + 1, by simp; omega, fun fuel depth more rest hmore => ?_⟩
  have closed : classTokens false (fuel + 1) (depth + 1) (']' :: tail) =
      .ok (.raw ']' :: more, rest) := by
    rw [classTokens, if_neg (Nat.succ_ne_zero depth)]
    simp only [bind, Except.bind, Nat.add_sub_cancel, hmore]
    rfl
  have inner := h _ _ _ _ closed
  have opened : '[' :: text ++ [']'] ++ tail = '[' :: (text ++ ']' :: tail) := by simp
  have fuels : fuel + (1 + steps + 1) = fuel + 1 + steps + 1 := by omega
  rw [opened, fuels, classTokens]
  simp only [bind, Except.bind, inner]
  simp [pure, Except.pure]

-- A character that is no letter and no digit is escaped by a backslash.
theorem classEscape_escaped {c : Char} (h : c.isAlphanum = false) :
    classEscape false (c :: tail) = .ok ([.literal c], tail) := by
  have other (d : Char) (hd : d.isAlphanum = true) : c ≠ d := by
    rintro rfl
    rw [hd] at h
    cases h
  obtain ⟨notAlpha, notDigit⟩ : c.isAlpha = false ∧ c.isDigit = false := by
    rwa [Char.isAlphanum, Bool.or_eq_false_iff] at h
  have shorthand : shorthand? c = none := by
    unfold shorthand?
    split <;> first | rfl | exact absurd h (by decide)
  have control : control? c = none := by
    unfold control?
    split <;> first | rfl | exact absurd h (by decide)
  have read : readEscape false c tail = .ok (.char c, tail) := by
    rw [readEscape, shorthand, control]
    · simp [notAlpha]
    · exact other 'x' (by decide)
    · exact other 'u' (by decide)
    · exact other 'U' (by decide)
    · exact other 'p' (by decide)
    · exact other 'P' (by decide)
  have named : (c == 'A' || c == 'z' || c == 'k') = false := by
    simp [other 'A' (by decide), other 'z' (by decide), other 'k' (by decide)]
  rw [classEscape]
  · simp [notDigit, named, read, bind, Except.bind, pure, Except.pure]
  · exact other 'h' (by decide)
  · exact other 'H' (by decide)

theorem tokenizes_escaped {c : Char} (h : c.isAlphanum = false) :
    Tokenizes ['\\', c] [.literal c] tail :=
  tokenizes_escape (classEscape_escaped h)

theorem tokenizes_control {n : Nat} (h : n < 32) :
    Tokenizes ('\\' :: 'x' :: Dialect.hexDigits n) [.literal (Char.ofNat n)] tail := by
  refine tokenizes_escape ?_
  interval_cases n <;> rfl

theorem tokenizes_raws {cs : List Char} (plain : cs.all (· ∉ ['\\', '[', ']']) = true) :
    Tokenizes cs (cs.map .raw) tail := by
  induction cs with
  | nil => exact .nil
  | cons c cs ih =>
    rw [List.all_cons, Bool.and_eq_true, decide_eq_true_eq] at plain
    have first {tail : List Char} : Tokenizes [c] [.raw c] tail := tokenizes_raw plain.1
    exact (ih plain.2).prepend first

-- A text in parts that are single tokens.
theorem tokenizes_parts {parts : List (String × Token)}
    (h : ∀ p ∈ parts, ∀ tail, Tokenizes p.1.toList [p.2] tail) :
    Tokenizes (parts.flatMap (·.1.toList)) (parts.map (·.2)) tail := by
  induction parts with
  | nil => exact .nil
  | cons p parts ih => exact (ih fun q hq => h q (.tail p hq)).prepend (h p (.head parts) _)

-- The parts of the body that `\s` is spelled with.
def spaceParts : List (String × Token) :=
  [("\\t", .literal '\t'), ("\\n", .literal '\n'), ("\\x0B", .literal '\x0b'),
    ("\\x0C", .literal '\x0c'), ("\\r", .literal '\r'), (" ", .raw ' '),
    ("\\xA0", .literal '\u00a0'), ("\\x\x7b1680\x7d", .literal '\u1680'),
    ("\\x\x7b2000\x7d", .literal '\u2000'), ("-", .raw '-'),
    ("\\x\x7b200A\x7d", .literal '\u200a'), ("\\x\x7b2028\x7d", .literal '\u2028'),
    ("\\x\x7b2029\x7d", .literal '\u2029'), ("\\x\x7b202F\x7d", .literal '\u202f'),
    ("\\x\x7b205F\x7d", .literal '\u205f'), ("\\x\x7b3000\x7d", .literal '\u3000'),
    ("\\x\x7bFEFF\x7d", .literal '\ufeff')]

theorem tokenizes_spaces : Tokenizes Dialect.spaces (Class.shorthandBody .space) tail := by
  have escape (name : String) {c : Char}
      (h : ∀ tail, classEscape false (name.toList ++ tail) = .ok ([.literal c], tail)) (tail) :
      Tokenizes ('\\' :: name.toList) [.literal c] tail := tokenizes_escape (h tail)
  have raw (c : Char) (h : c ∉ ['\\', '[', ']']) (tail) : Tokenizes [c] [.raw c] tail :=
    tokenizes_raw h
  have parts : ∀ p ∈ spaceParts, ∀ tail, Tokenizes p.1.toList [p.2] tail := by
    simp only [spaceParts, List.forall_mem_cons]
    exact ⟨escape "t" fun _ => rfl, escape "n" fun _ => rfl, escape "x0B" fun _ => rfl,
      escape "x0C" fun _ => rfl, escape "r" fun _ => rfl, raw ' ' (by decide),
      escape "xA0" fun _ => rfl, escape "x\x7b1680\x7d" fun _ => rfl,
      escape "x\x7b2000\x7d" fun _ => rfl, raw '-' (by decide), escape "x\x7b200A\x7d" fun _ => rfl,
      escape "x\x7b2028\x7d" fun _ => rfl, escape "x\x7b2029\x7d" fun _ => rfl,
      escape "x\x7b202F\x7d" fun _ => rfl, escape "x\x7b205F\x7d" fun _ => rfl,
      escape "x\x7b3000\x7d" fun _ => rfl, escape "x\x7bFEFF\x7d" fun _ => rfl, nofun⟩
  exact tokenizes_parts parts

theorem tokenizes_shorthandBody (s : Shorthand) :
    Tokenizes (Dialect.shorthandBody s) (Class.shorthandBody s) tail := by
  cases s with
  | digit => exact tokenizes_raws (by decide)
  | word => exact tokenizes_raws (by decide)
  | space => exact tokenizes_spaces

theorem tokenizes_shorthand (s : Shorthand) (negated : Bool) :
    Tokenizes (Dialect.shorthand .inside negated (Dialect.shorthandBody s))
      (Class.atomTokens false (.shorthand s negated)) tail := by
  cases negated with
  | false => exact tokenizes_shorthandBody s
  | true =>
    have caret {tail : List Char} : Tokenizes ['^'] [.raw '^'] tail := tokenizes_raw (by decide)
    exact tokenizes_nested ((tokenizes_shorthandBody s).prepend caret)

theorem tokenizes_atom (behind : Bool) {a : ClassAtom} (known : a ≠ .capitalB) :
    Tokenizes (atomText behind a) (Class.atomTokens behind a) tail := by
  cases a with
  | literal c plain =>
    by_cases special : c ∈ ['[', '&', '~']
    · have text : atomText behind (.literal c plain) = ['\\', c] := if_pos special
      have tokens : Class.atomTokens behind (.literal c plain) = [.literal c] :=
        congrArg ([·]) (if_pos special)
      rw [text, tokens]
      refine tokenizes_escaped ?_
      simp only [List.mem_cons, List.not_mem_nil, or_false] at special
      rcases special with rfl | rfl | rfl <;> decide
    · have text : atomText behind (.literal c plain) = [c] := if_neg special
      have tokens : Class.atomTokens behind (.literal c plain) = [.raw c] :=
        congrArg ([·]) (if_neg special)
      rw [text, tokens]
      have raw : c ∉ ['\\', '[', ']'] := by
        simp only [List.mem_cons, List.not_mem_nil, or_false, not_or] at plain special ⊢
        exact ⟨plain.1, special.1, plain.2.1⟩
      exact tokenizes_raw raw
  | dash =>
    cases behind with
    | true => exact tokenizes_escaped (by decide)
    | false => exact tokenizes_raw (by decide)
  | shorthand s negated => exact tokenizes_shorthand s negated
  | backspace => exact tokenizes_escape rfl
  | capitalB => exact absurd rfl known
  | control letter named => exact tokenizes_control (Nat.mod_lt _ (by decide))
  | null => exact tokenizes_escape rfl
  | escaped c plain =>
    by_cases slash : c = '/'
    · subst slash
      exact tokenizes_raw (by decide)
    · have text : atomText behind (.escaped c plain) = ['\\', c] := if_neg slash
      have tokens : Class.atomTokens behind (.escaped c plain) = [.literal c] :=
        congrArg ([·]) (if_neg slash)
      rw [text, tokens]
      exact tokenizes_escaped plain

-- How an atom begins as it is spelled. Only a caret itself begins with a caret.
theorem atomText_eq_cons (behind : Bool) (a : ClassAtom) :
    ∃ c cs, atomText behind a = c :: cs ∧ c ≠ ']' ∧
      (c = '^' → ∃ plain, a = .literal c plain) := by
  cases a with
  | literal c plain =>
    by_cases special : c ∈ ['[', '&', '~']
    · exact ⟨'\\', [c], if_pos special, by decide, fun h => absurd h (by decide)⟩
    · exact ⟨c, [], if_neg special, fun same => absurd (by simp [same]) plain,
        fun _ => ⟨plain, rfl⟩⟩
  | dash =>
    cases behind with
    | true => exact ⟨'\\', ['-'], rfl, by decide, fun h => absurd h (by decide)⟩
    | false => exact ⟨'-', [], rfl, by decide, fun h => absurd h (by decide)⟩
  | shorthand s negated =>
    cases s <;> cases negated <;>
      exact ⟨_, _, rfl, by decide, fun h => absurd h (by decide)⟩
  | escaped c plain =>
    by_cases slash : c = '/'
    · exact ⟨'/', [], if_pos slash, by decide, fun h => absurd h (by decide)⟩
    · exact ⟨'\\', [c], if_neg slash, by decide, fun h => absurd h (by decide)⟩
  | _ => exact ⟨_, _, rfl, by decide, fun h => absurd h (by decide)⟩

theorem tokenizes_body {body : List ClassAtom} (known : ∀ a ∈ body, a ≠ .capitalB)
    (behind : Bool) (tail : List Char) :
    Tokenizes (bodyText behind body) (Class.bodyTokens behind body) (']' :: tail) := by
  induction body generalizing behind with
  | nil => exact .nil
  | cons a rest ih =>
    have later := ih (fun b hb => known b (.tail a hb)) (a.kind == .several)
    exact later.prepend (tokenizes_atom behind (known a (.head rest)))

theorem classTokens_body {body : List ClassAtom} (known : ∀ a ∈ body, a ≠ .capitalB)
    (tail : List Char) :
    classTokens false ((bodyText false body ++ ']' :: tail).length + 1) 0
        (bodyText false body ++ ']' :: tail) =
      .ok (Class.bodyTokens false body ++ [.raw ']'], tail) := by
  obtain ⟨steps, hsteps, h⟩ := tokenizes_body known false tail
  have closed (fuel : Nat) :
      classTokens false (fuel + 1) 0 (']' :: tail) = .ok ([.raw ']'], tail) := by
    rw [classTokens, if_pos rfl]
    rfl
  have fuel : (bodyText false body ++ ']' :: tail).length + 1 =
      (bodyText false body).length - steps + tail.length + 1 + 1 + steps := by
    rw [List.length_append, List.length_cons]
    omega
  rw [fuel]
  exact h _ _ _ _ (closed _)

-- The text of a class that the engine reads as ECMAScript does.
theorem readClass_body {negated : Bool} {body : List ClassAtom} (valid : IsClass negated body)
    (nonempty : body ≠ []) (known : ∀ a ∈ body, a ≠ .capitalB)
    (alike : dashesAlike .opening body = true) :
    ∃ t : ClassText, t.body = ClassText.opening negated ++ bodyText false body ∧
      ∀ c, t.set.mem c = EcmaScript.classMem negated body c := by
  obtain ⟨set, hread, mem⟩ := Class.read_body valid nonempty known alike
  refine ⟨⟨ClassText.opening negated ++ bodyText false body, set, fun rest => ?_⟩, rfl, mem⟩
  have opened : classOpening (ClassText.opening negated ++ bodyText false body ++ ']' :: rest) =
      (if negated then [.raw '^'] else [], bodyText false body ++ ']' :: rest) := by
    cases body with
    | nil => exact absurd rfl nonempty
    | cons a others =>
      obtain ⟨c, cs, text, bracket, literal⟩ := atomText_eq_cons false a
      rw [bodyText, text]
      cases negated with
      | true =>
        simp only [ClassText.opening, if_true, List.cons_append, List.nil_append]
        rw [classOpening]
        exact fun suffix same => bracket (List.cons.inj same).1
      | false =>
        have caret : c ≠ '^' := by
          rintro rfl
          obtain ⟨plain, rfl⟩ := literal rfl
          cases valid.caret rfl
        simp only [ClassText.opening, Bool.false_eq_true, if_false, List.cons_append,
          List.nil_append]
        rw [classOpening]
        · exact fun suffix same => caret (List.cons.inj same).1
        · exact fun suffix same => caret (List.cons.inj same).1
        · exact fun suffix same => bracket (List.cons.inj same).1
  rw [readClass, opened]
  simp only [bind, Except.bind, classTokens_body known, hread]
  rfl

end Parser

end Vetting.Pattern
