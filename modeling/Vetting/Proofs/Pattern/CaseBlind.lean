import Vetting.Pattern.Basic
import Vetting.Proofs.Outcome
import Vetting.Proofs.Text.Folding

namespace Vetting.Pattern

-- Two texts that differ at most in the case of ASCII letters.
def CaseAlike (cs ds : List Char) : Prop := cs.map Char.toLower = ds.map Char.toLower

instance (cs ds : List Char) : Decidable (CaseAlike cs ds) := inferInstanceAs (Decidable (_ = _))

theorem CaseAlike.length_eq {cs ds : List Char} (alike : CaseAlike cs ds) :
    cs.length = ds.length := by
  simpa using congrArg List.length alike

-- A set that has all or none of the cases of a letter.
def CharSet.IsBlind (a : CharSet) : Prop := ∀ c, a.mem c.toLower = a.mem c

-- A tree whose sets are all blind.
def Syntax.IsBlind : Syntax → Prop
  | empty | assertion _ | backreference _ => True
  | char set => set.IsBlind
  | seq a b | alt a b => a.IsBlind ∧ b.IsBlind
  | scope a | capture _ a | repetition a _ _ _ | look _ _ a | atomic a => a.IsBlind

namespace Plan

variable {α β : Type}

-- Whether all parts that are left to the linear engine have a property.
def All (holds : α → Prop) : Plan α → Prop
  | direct part => holds part
  | seq a b | alt a b => a.All holds ∧ b.All holds
  | capture _ a | loop a _ _ _ _ | look _ a | refuse _ a | atomic a => a.All holds
  | backreference _ => True

-- Whether something is compared with what a group took.
def refersBack : Plan α → Bool
  | direct _ => false
  | seq a b | alt a b => a.refersBack || b.refersBack
  | capture _ a | loop a _ _ _ _ | look _ a | refuse _ a | atomic a => a.refersBack
  | backreference _ => true

theorem map_congr {f g : α → β} {holds : α → Prop} (same : ∀ part, holds part → f part = g part)
    {p : Plan α} (h : p.All holds) : p.map f = p.map g := by
  induction p with
  | direct part => exact congrArg direct (same part h)
  | seq a b iha ihb => rw [map, map, iha h.1, ihb h.2]
  | alt a b iha ihb => rw [map, map, iha h.1, ihb h.2]
  | capture index a ih => rw [map, map, ih h]
  | loop a min max greedy guarded ih => rw [map, map, ih h]
  | look back a ih => rw [map, map, ih h]
  | refuse back a ih => rw [map, map, ih h]
  | atomic a ih => rw [map, map, ih h]
  | backreference index => rfl

theorem refersBack_map (f : α → β) (p : Plan α) : (p.map f).refersBack = p.refersBack := by
  induction p with
  | seq a b iha ihb => rw [map, refersBack, iha, ihb, refersBack]
  | alt a b iha ihb => rw [map, refersBack, iha, ihb, refersBack]
  | direct part => rfl
  | backreference index => rfl
  | _ => assumption

end Plan

namespace Program

-- A linear program has no backreferences.
def refersBack : Program → Bool
  | linear _ => false
  | backtracking plan => plan.refersBack

def IsBlind : Program → Prop
  | linear tree => tree.IsBlind
  | backtracking plan => plan.All Syntax.IsBlind

end Program

section Planning

open Syntax (Planning Planned)

theorem Syntax.all_directly {a : Syntax} (blind : a.IsBlind) {p : Plan Syntax}
    (h : a.directly = .ok p) : p.All IsBlind := by
  unfold directly at h
  split at h
  · cases h
    exact blind
  · cases h

theorem Syntax.all_lookAt {negative : Bool} {back : Nat} {p : Plan Syntax} (h : p.All IsBlind) :
    (lookAt negative back p).All IsBlind := by
  cases negative <;> exact h

theorem Syntax.all_lookFixed {negative : Bool} {a : Syntax} {planned : Planned}
    (inner : ∀ p, planned = .ok p → p.All IsBlind) {p : Plan Syntax}
    (h : lookFixed negative a planned = .ok p) : p.All IsBlind := by
  unfold lookFixed at h
  split at h
  · obtain ⟨q, hq, h⟩ := Outcome.bind_eq_ok.mp h
    cases h
    exact all_lookAt (inner q hq)
  · cases h

-- A plan leaves parts of the tree to the linear engine.
theorem Syntax.all_plan {referenced : List Nat} {planning : Planning} {a : Syntax}
    (blind : a.IsBlind) {p : Plan Syntax} (h : a.plan referenced planning = .ok p) :
    p.All IsBlind := by
  fun_induction Syntax.plan referenced planning a generalizing p
  case case1 | case4 | case5 | case6 => exact all_directly blind h
  case case2 ih | case10 ih | case14 ih => exact ih blind h
  case case3 negative _ _ _ iha behind whole =>
    obtain ⟨first, hfirst, h⟩ := Outcome.bind_eq_ok.mp h
    have left := all_lookFixed (fun _ => iha blind.1) hfirst
    dsimp only at h
    split at h <;> split at h
    all_goals
      obtain ⟨others, hothers, h⟩ := Outcome.bind_eq_ok.mp h
      cases h
      first
      | exact ⟨left, behind blind.2 hothers⟩
      | exact ⟨left, all_lookFixed (fun _ => whole blind.2) hothers⟩
  case case7 ih =>
    obtain ⟨first, hfirst, h⟩ := Outcome.bind_eq_ok.mp h
    obtain ⟨rest, hrest, h⟩ := Outcome.bind_eq_ok.mp h
    cases h
    exact ⟨all_directly blind.1 hfirst, ih blind.2 hrest⟩
  case case8 ihb iha | case9 iha ihb =>
    obtain ⟨first, hfirst, h⟩ := Outcome.bind_eq_ok.mp h
    obtain ⟨rest, hrest, h⟩ := Outcome.bind_eq_ok.mp h
    cases h
    exact ⟨iha blind.1 hfirst, ihb blind.2 hrest⟩
  case case11 ih | case12 ih | case13 ih | case16 ih =>
    obtain ⟨inner, hinner, h⟩ := Outcome.bind_eq_ok.mp h
    have kept := ih blind hinner
    cases h
    first | exact kept | exact all_lookAt kept | (split <;> exact kept)
  case case15 ih => exact all_lookFixed (fun _ => ih blind) h
  case case17 =>
    cases h
    trivial

-- The program of a tree cannot tell more than the tree.
theorem Program.isBlind_ofSyntax {tree : Syntax} (blind : tree.IsBlind) {program : Program}
    (h : Program.ofSyntax tree = .ok program) : program.IsBlind := by
  unfold ofSyntax at h
  dsimp only at h
  split at h
  · obtain ⟨p, hp, rfl⟩ := Outcome.map_eq_ok.mp h
    exact Syntax.all_plan blind hp
  · split at h
    · cases h
      exact blind
    · cases h

end Planning

section Moves

variable {cs ds : List Char}

-- A mask of characters with a property that is blind does not change with case.
theorem maskOf_toLower {p : Char → Bool} (blind : ∀ c, p c.toLower = p c) (cs : List Char) :
    Moves.maskOf p (cs.map Char.toLower) = Moves.maskOf p cs := by
  induction cs with
  | nil => rfl
  | cons c cs ih => rw [List.map_cons, Moves.maskOf, ih, blind, Moves.maskOf]

theorem CaseAlike.maskOf (alike : CaseAlike cs ds) {p : Char → Bool}
    (blind : ∀ c, p c.toLower = p c) : Moves.maskOf p cs = Moves.maskOf p ds := by
  rw [← maskOf_toLower blind, alike, maskOf_toLower blind]

theorem CaseAlike.assertionMask (alike : CaseAlike cs ds) (a : Assertion) :
    Moves.assertionMask cs a = Moves.assertionMask ds a := by
  have lines : Moves.maskOf (· == '\n') cs = Moves.maskOf (· == '\n') ds :=
    alike.maskOf (Text.apply_toLower (f := (· == '\n')) (by decide))
  have words : Moves.maskOf Text.isWord cs = Moves.maskOf Text.isWord ds :=
    alike.maskOf (Text.apply_toLower (by decide +kernel))
  have length := alike.length_eq
  cases a <;> simp only [Moves.assertionMask, lines, words, length]

theorem CaseAlike.ofSyntax (alike : CaseAlike cs ds) {a : Syntax} (blind : a.IsBlind) :
    Moves.ofSyntax cs a = Moves.ofSyntax ds a := by
  induction a with
  | empty => rw [Moves.ofSyntax, Moves.ofSyntax, alike.length_eq]
  | char set => rw [Moves.ofSyntax, Moves.ofSyntax, alike.maskOf blind]
  | assertion a => rw [Moves.ofSyntax, Moves.ofSyntax, alike.assertionMask]
  | seq a b iha ihb => rw [Moves.ofSyntax, Moves.ofSyntax, iha blind.1, ihb blind.2]
  | alt a b iha ihb => rw [Moves.ofSyntax, Moves.ofSyntax, iha blind.1, ihb blind.2]
  | scope a ih => exact ih blind
  | capture index a ih => exact ih blind
  | repetition a min max greedy ih =>
    rw [Moves.ofSyntax, Moves.ofSyntax, ih blind, alike.length_eq]
  | look behind negative a ih => rfl
  | atomic a ih => rfl
  | backreference index => rfl

end Moves

section Machine

variable {text text' : Array Char}

-- Without backreferences a run looks at the text only through its moves.
theorem Machine.run_congr (size : text.size = text'.size) {p : Plan Moves}
    (h : p.refersBack = false) : run text p = run text' p := by
  induction p with
  | direct part => rfl
  | seq a b iha ihb =>
    obtain ⟨ha, hb⟩ := (Bool.or_eq_false_iff ..).mp h
    funext next spot returns
    rw [run, run, iha ha, ihb hb]
  | alt a b iha ihb =>
    obtain ⟨ha, hb⟩ := (Bool.or_eq_false_iff ..).mp h
    funext next spot returns
    rw [run, run, iha ha, ihb hb]
  | capture index a ih =>
    funext next spot returns
    rw [run, run, ih h]
  | loop a min max greedy guarded ih =>
    funext next spot returns
    simp only [run, ih h, size]
  | look back a ih =>
    funext next spot returns
    simp only [run, ih h]
  | refuse back a ih =>
    funext next spot returns
    simp only [run, ih h]
  | atomic a ih =>
    funext next spot returns
    simp only [run, ih h]
  | backreference index => cases h

theorem Machine.searchFrom_congr (size : text.size = text'.size) {p : Plan Moves}
    (h : p.refersBack = false) (left place returns : Nat) :
    searchFrom text p left place returns = searchFrom text' p left place returns := by
  induction left generalizing place returns with
  | zero => rw [searchFrom, searchFrom, run_congr size h]
  | succ left ih =>
    rw [searchFrom, searchFrom, run_congr size h]
    congr 1
    funext returns
    exact ih (place + 1) returns

end Machine

-- Texts that differ only in case are searched alike, up to the error of a search that is given up.
theorem Program.search_congr {program : Program} (blind : program.IsBlind)
    (free : program.refersBack = false) {text text' : String}
    (alike : CaseAlike text.toList text'.toList) : program.search text = program.search text' := by
  cases program with
  | linear tree =>
    simp only [search, alike.ofSyntax blind, alike.length_eq]
  | backtracking plan =>
    have moves : plan.map (Moves.ofSyntax text.toList) = plan.map (Moves.ofSyntax text'.toList) :=
      Plan.map_congr (fun _ => alike.ofSyntax) blind
    have size : text.toList.toArray.size = text'.toList.toArray.size := by
      simpa using alike.length_eq
    have same : Machine.search text.toList.toArray (plan.map (Moves.ofSyntax text.toList)) =
        Machine.search text'.toList.toArray (plan.map (Moves.ofSyntax text'.toList)) := by
      unfold Machine.search
      rw [moves, size]
      exact Machine.searchFrom_congr size (by rw [Plan.refersBack_map]; exact free) _ 0 0
    simp only [search, same]

end Vetting.Pattern
