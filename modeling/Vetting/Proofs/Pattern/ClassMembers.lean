import Vetting.Pattern.Parser
import Vetting.Proofs.Pattern.EcmaScript

namespace Vetting.Pattern.Class

-- Tokens before which a token stands alone, since no range can follow.
def Alone (tail : List Token) : Prop := ∀ token, readMember token tail = .ok (token.toSet, tail)

theorem alone_cons {token : Token} (h : token ≠ .raw '-') (tail : List Token) :
    Alone (token :: tail) := by
  intro first
  unfold readMember
  split <;> simp_all

theorem alone_last (tail : List Token) : Alone (.raw '-' :: .raw ']' :: tail) := fun _ => rfl

-- Tokens that are never brackets and are no half of an operator.
def Plain (token : Token) : Prop := ∀ c ∈ ['[', ']', '&', '~', '-'], token ≠ .raw c

theorem plain_literal (c : Char) : Plain (.literal c) := nofun

theorem plain_raw {c : Char} (h : c ∉ ['[', ']', '&', '~', '-']) : Plain (.raw c) := by
  intro d hd same
  cases same
  exact h hd

theorem Plain.alone {token : Token} (h : Plain token) (tail : List Token) : Alone (token :: tail) :=
  alone_cons (h '-' (by decide)) tail

variable {ignoreCase : Bool} {fuel : Nat} {level : Level} {outer : List Level}

theorem readLevels_plain {token : Token} (plain : Plain token) (tail : List Token) :
    readLevels ignoreCase (fuel + 1) level outer (token :: tail) = (do
      let (s, rest) ← readMember token tail
      readLevels ignoreCase fuel (level.add s) outer rest) := by
  rw [readLevels]
  · exact plain '[' (by decide)
  · exact plain ']' (by decide)
  · exact fun _ same _ => plain '&' (by decide) same
  · exact fun _ same _ => plain '-' (by decide) same
  · exact fun _ same _ => plain '~' (by decide) same

-- A dash that does not begin an operator is read like any other member.
theorem readLevels_dash {token : Token} (h : token ≠ .raw '-') (tail : List Token) :
    readLevels ignoreCase (fuel + 1) level outer (.raw '-' :: token :: tail) =
      readLevels ignoreCase fuel (level.add (.single '-')) outer (token :: tail) := by
  rw [readLevels]
  · rw [alone_cons h tail]
    rfl
  all_goals simp [h]

-- Whether some tokens add some sets to the innermost level, in front of others.
def Members (tokens : List Token) (sets : List CharSet) (tail : List Token) : Prop :=
  ∃ steps, steps ≤ tokens.length ∧ ∀ fuel level outer,
    readLevels false (fuel + steps) level outer (tokens ++ tail) =
      readLevels false fuel (sets.foldl Level.add level) outer tail

theorem foldl_add (sets : List CharSet) (level : Level) :
    sets.foldl Level.add level = { level with members := sets.foldl .union level.members } := by
  induction sets generalizing level with
  | nil => rfl
  | cons set sets ih => rw [List.foldl_cons, ih, List.foldl_cons, Level.add]

theorem Members.nil (tail : List Token) : Members [] [] tail := ⟨0, Nat.le_refl 0, fun _ _ _ => rfl⟩

theorem Members.prepend {tokens tokens' tail : List Token} {sets sets' : List CharSet}
    (later : Members tokens' sets' tail) (first : Members tokens sets (tokens' ++ tail)) :
    Members (tokens ++ tokens') (sets ++ sets') tail := by
  obtain ⟨steps, hsteps, h⟩ := first
  obtain ⟨steps', hsteps', h'⟩ := later
  refine ⟨steps' + steps, by rw [List.length_append]; omega, fun fuel level outer => ?_⟩
  rw [List.append_assoc, ← Nat.add_assoc, h, h', List.foldl_append]

theorem members_alone {token : Token} (plain : Plain token) {tail : List Token}
    (alone : Alone tail) : Members [token] [token.toSet] tail := by
  refine ⟨1, Nat.le_refl 1, fun fuel level outer => ?_⟩
  rw [List.cons_append, readLevels_plain plain, List.nil_append, alone token]
  rfl

theorem members_dash {token : Token} (h : token ≠ .raw '-') (tail : List Token) :
    Members [.raw '-'] [.single '-'] (token :: tail) :=
  ⟨1, Nat.le_refl 1, fun _ _ _ => readLevels_dash h tail⟩

theorem members_range {first last : Token} (plain : Plain first) (plain' : Plain last) {c d : Char}
    (hfirst : first.char? = some c) (hlast : last.char? = some d) (hle : c ≤ d)
    (tail : List Token) : Members [first, .raw '-', last] [.range c d] tail := by
  have read : readMember first (.raw '-' :: last :: tail) = .ok (.range c d, tail) := by
    rw [readMember]
    · rw [hfirst, hlast]
      exact if_pos hle
    · exact plain' ']' (by decide)
    · exact plain' '-' (by decide)
  refine ⟨1, by simp, fun fuel level outer => ?_⟩
  rw [List.cons_append, readLevels_plain plain]
  exact congrArg (· >>= _) read

-- A negated class inside another.
theorem members_negated {tokens : List Token} {sets : List CharSet} {tail : List Token}
    (first : ∀ tail,
      openLevel (.raw '^' :: (tokens ++ tail)) = (⟨true, none, .empty⟩, tokens ++ tail))
    (h : Members tokens sets (.raw ']' :: tail)) :
    Members (.raw '[' :: .raw '^' :: tokens ++ [.raw ']'])
      [.complement (sets.foldl .union .empty)] tail := by
  obtain ⟨steps, hsteps, h⟩ := h
  refine ⟨1 + steps + 1, by simp; omega, fun fuel level outer => ?_⟩
  have opened : readLevels false (fuel + (1 + steps + 1)) level outer
      (.raw '[' :: .raw '^' :: tokens ++ [.raw ']'] ++ tail) =
      readLevels false (fuel + 1 + steps) ⟨true, none, .empty⟩ (level :: outer)
        (tokens ++ .raw ']' :: tail) := by
    rw [← Nat.add_assoc, ← Nat.add_assoc, List.append_assoc, List.cons_append, List.cons_append,
      readLevels, first]
    rfl
  rw [opened, h, readLevels, foldl_add]
  rfl

end Vetting.Pattern.Class
