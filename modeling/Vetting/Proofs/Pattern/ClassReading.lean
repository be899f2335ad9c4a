import Vetting.Proofs.Pattern.ClassBody
import Vetting.Proofs.Pattern.ClassMembers
import Vetting.Proofs.Pattern.Shorthands

namespace Vetting.Pattern

open EcmaScript (ClassAtom Shorthand)

-- What an atom is to a dash beside it.
inductive EcmaScript.Kind where
  | single
  | dash
  | several
deriving DecidableEq

def EcmaScript.ClassAtom.kind : ClassAtom → EcmaScript.Kind
  | dash => .dash
  | shorthand _ _ => .several
  | _ => .single

namespace Class

-- The tokens of the positive body of a shorthand.
def shorthandBody : Shorthand → List Token
  | .digit => [.raw '0', .raw '-', .raw '9']
  | .word =>
    [.raw 'A', .raw '-', .raw 'Z', .raw 'a', .raw '-', .raw 'z', .raw '0', .raw '-', .raw '9',
      .raw '_']
  | .space =>
    [.literal '\t', .literal '\n', .literal '\x0b', .literal '\x0c', .literal '\r', .raw ' ',
      .literal '\u00a0', .literal '\u1680', .literal '\u2000', .raw '-', .literal '\u200a',
      .literal '\u2028', .literal '\u2029', .literal '\u202f', .literal '\u205f', .literal '\u3000',
      .literal '\ufeff']

-- The tokens that an atom is spelled as, behind a shorthand or elsewhere.
def atomTokens (behind : Bool) : ClassAtom → List Token
  | .literal c _ => [if c ∈ ['[', '&', '~'] then .literal c else .raw c]
  | .dash => [if behind then .literal '-' else .raw '-']
  | .shorthand s negated =>
    if negated then .raw '[' :: .raw '^' :: shorthandBody s ++ [.raw ']'] else shorthandBody s
  | .backspace => [.literal '\x08']
  | .capitalB => Dialect.noBoundary.map .raw
  | .control letter _ => [.literal (Char.ofNat (letter.toNat % 32))]
  | .null => [.literal '\x00']
  | .escaped c _ => [if c = '/' then .raw '/' else .literal c]

def bodyTokens (behind : Bool) : List ClassAtom → List Token
  | [] => []
  | a :: rest => atomTokens behind a ++ bodyTokens (a.kind == .several) rest

section Atoms

theorem members_literals (cs : List Char) {tail : List Token} (alone : Alone tail) :
    Members (cs.map .literal) (cs.map .single) tail := by
  induction cs with
  | nil => exact .nil tail
  | cons c cs ih =>
    refine ih.prepend (members_alone (plain_literal c) ?_)
    cases cs with
    | nil => exact alone
    | cons d cs => exact (plain_literal d).alone _

theorem members_shorthandBody (s : Shorthand) {tail : List Token} (alone : Alone tail) :
    Members (shorthandBody s) s.sets tail := by
  have range (c d : Char) (hc : c ∉ ['[', ']', '&', '~', '-']) (hd : d ∉ ['[', ']', '&', '~', '-'])
      (hle : c ≤ d) (tail : List Token) : Members [.raw c, .raw '-', .raw d] [.range c d] tail :=
    members_range (plain_raw hc) (plain_raw hd) rfl rfl hle tail
  cases s with
  | digit => exact range '0' '9' (by decide) (by decide) (by decide) tail
  | word =>
    have last : Members [.raw '_'] [.single '_'] tail := members_alone (plain_raw (by decide)) alone
    have digits := last.prepend (range '0' '9' (by decide) (by decide) (by decide) _)
    have smalls := digits.prepend (range 'a' 'z' (by decide) (by decide) (by decide) _)
    exact smalls.prepend (range 'A' 'Z' (by decide) (by decide) (by decide) _)
  | space =>
    have blanks (tail : List Token) :
        Members [.literal '\u2000', .raw '-', .literal '\u200a'] [.range '\u2000' '\u200a'] tail :=
      members_range (plain_literal _) (plain_literal _) rfl rfl (by decide) tail
    have space : Plain (.raw ' ') := plain_raw (by decide)
    have next (c : Char) (tail : List Token) : Alone (.literal c :: tail) :=
      (plain_literal c).alone tail
    have late := members_literals
      ['\u2028', '\u2029', '\u202f', '\u205f', '\u3000', '\ufeff'] alone
    have wide :=
      (late.prepend (blanks _)).prepend (members_literals ['\u00a0', '\u1680'] (next _ _))
    exact (wide.prepend (members_alone space (next _ _))).prepend
      (members_literals ['\t', '\n', '\x0b', '\x0c', '\r'] (space.alone _))

-- The sets that a shorthand adds to a class.
def shorthandSets (s : Shorthand) (negated : Bool) : List CharSet :=
  if negated then [.complement (.unionAll s.sets)] else s.sets

theorem mem_shorthandSets (s : Shorthand) (negated : Bool) (c : Char) :
    (shorthandSets s negated).any (·.mem c) = (ClassAtom.shorthand s negated).mem c := by
  cases negated with
  | false => exact (s.mem_sets c).trans (Bool.bne_false _).symm
  | true =>
    simp only [shorthandSets, if_true, List.any_cons, List.any_nil, Bool.or_false, CharSet.mem,
      CharSet.mem_unionAll, s.mem_sets, ClassAtom.mem, Bool.bne_true]

theorem members_shorthand (behind : Bool) (s : Shorthand) (negated : Bool) {tail : List Token}
    (alone : Alone tail) :
    Members (atomTokens behind (.shorthand s negated)) (shorthandSets s negated) tail := by
  cases negated with
  | false => exact members_shorthandBody s alone
  | true =>
    refine members_negated (fun tail => ?_) (members_shorthandBody s (alone_cons (by decide) tail))
    cases s <;> rfl

-- An atom for a single character is a single token for it, but for `\B`.
theorem atomTokens_of_single {a : ClassAtom} (single : a.kind = .single) (known : a ≠ .capitalB) :
    ∃ token c, (∀ behind, atomTokens behind a = [token]) ∧ Plain token ∧ token.char? = some c ∧
      token.toSet = .single c ∧ a.char? = some c ∧ ∀ d, a.mem d = (d == c) := by
  have mem (c : Char) : ∀ d, (some c == some d) = (d == c) := fun d => BEq.comm (a := c)
  cases a with
  | literal c plain =>
    by_cases special : c ∈ ['[', '&', '~']
    · exact ⟨.literal c, c, fun _ => congrArg ([·]) (if_pos special), plain_literal c, rfl, rfl,
        rfl, mem c⟩
    · refine ⟨.raw c, c, fun _ => congrArg ([·]) (if_neg special), plain_raw ?_, rfl, rfl, rfl,
        mem c⟩
      simp only [List.mem_cons, List.not_mem_nil, or_false, not_or] at special plain ⊢
      exact ⟨special.1, plain.2.1, special.2.1, special.2.2, plain.2.2⟩
  | dash => cases single
  | shorthand s negated => cases single
  | backspace => exact ⟨_, _, fun _ => rfl, plain_literal _, rfl, rfl, rfl, mem _⟩
  | capitalB => exact absurd rfl known
  | control letter named => exact ⟨_, _, fun _ => rfl, plain_literal _, rfl, rfl, rfl, mem _⟩
  | null => exact ⟨_, _, fun _ => rfl, plain_literal _, rfl, rfl, rfl, mem _⟩
  | escaped c plain =>
    by_cases slash : c = '/'
    · exact ⟨.raw '/', c, fun _ => congrArg ([·]) (if_pos slash), plain_raw (by decide),
        congrArg some slash.symm, congrArg CharSet.single slash.symm, rfl, mem c⟩
    · exact ⟨.literal c, c, fun _ => congrArg ([·]) (if_neg slash), plain_literal c, rfl, rfl, rfl,
        mem c⟩

-- How the tokens of an atom begin. Only a dash that is not right behind a shorthand begins with a
-- raw dash, and only a literal caret with a raw caret.
theorem atomTokens_eq_cons (behind : Bool) (a : ClassAtom) :
    ∃ token rest, atomTokens behind a = token :: rest ∧ token ≠ .raw ']' ∧
      (token = .raw '-' → behind = false ∧ a = .dash) ∧
      (token = .raw '^' → ∃ plain, a = .literal '^' plain) := by
  cases a with
  | literal c plain =>
    by_cases special : c ∈ ['[', '&', '~']
    · exact ⟨.literal c, [], congrArg ([·]) (if_pos special), nofun, nofun, nofun⟩
    · refine ⟨.raw c, [], congrArg ([·]) (if_neg special), ?_, ?_, ?_⟩
      · rintro ⟨⟩
        exact plain (by decide)
      · rintro ⟨⟩
        exact absurd (by decide) plain
      · rintro ⟨⟩
        exact ⟨plain, rfl⟩
  | dash =>
    cases behind with
    | true => exact ⟨.literal '-', [], rfl, nofun, nofun, nofun⟩
    | false => exact ⟨.raw '-', [], rfl, by decide, fun _ => ⟨rfl, rfl⟩, nofun⟩
  | shorthand s negated =>
    cases negated with
    | true => exact ⟨.raw '[', _, rfl, by decide, nofun, nofun⟩
    | false => cases s <;> exact ⟨_, _, rfl, by decide, nofun, nofun⟩
  | capitalB => exact ⟨.raw '(', _, rfl, by decide, nofun, nofun⟩
  | escaped c plain =>
    by_cases slash : c = '/'
    · exact ⟨.raw '/', [], congrArg ([·]) (if_pos slash), by decide, nofun, nofun⟩
    · exact ⟨.literal c, [], congrArg ([·]) (if_neg slash), nofun, nofun, nofun⟩
  | _ => exact ⟨_, [], rfl, nofun, nofun, nofun⟩

end Atoms

end Class

end Vetting.Pattern
