import Vetting.Pattern.Basic
import Vetting.Proofs.Pattern.Backtracking

namespace Vetting.Pattern

namespace Syntax

theorem references_of_isPlain {a : Syntax} (plain : a.IsPlain) : a.references = [] := by
  induction a with
  | empty => rfl
  | char set => rfl
  | assertion a => rfl
  | seq a b iha ihb => rw [references, iha plain.1, ihb plain.2, List.append_nil]
  | alt a b iha ihb => rw [references, iha plain.1, ihb plain.2, List.append_nil]
  | scope a ih => exact ih plain
  | capture index a ih => exact ih plain
  | repetition a min max greedy ih => exact ih plain.1
  | look behind negative a ih => exact ih plain.1
  | atomic a => exact plain.elim
  | backreference index => exact plain.elim

theorem Planning.strict_of_strictItems {planning : Planning} (h : planning.strictItems = true) :
    planning.strict = true := by
  cases planning with
  | items strict leading => rfl
  | _ => exact h

theorem Planning.whole_ne_behind {strict : Bool} (negative : Bool) :
    whole strict ≠ behind negative := nofun

theorem Planning.items_ne_behind {strict leading : Bool} (negative : Bool) :
    items strict leading ≠ behind negative := nofun

theorem Planning.branches_ne_behind {strict : Bool} (negative : Bool) :
    branches strict ≠ behind negative := nofun

-- A part that is left to the linear engine has one end only, unless it need not be strict.
theorem Planning.isDirect_cases {planning : Planning} {referenced : List Nat} {a : Syntax}
    (h : planning.isDirect referenced a = true) :
    a.needsBacktracking referenced = false ∧
      (planning.strictItems = true → a.isFixedLength = true) := by
  simp only [isDirect, Bool.and_eq_true, Bool.not_eq_true'] at h
  refine ⟨h.1, fun hstrict => ?_⟩
  cases planning with
  | whole strict =>
    obtain rfl : strict = true := hstrict
    cases h.2
  | items strict leading =>
    obtain rfl : strict = true := hstrict
    simpa using h.2
  | branches strict =>
    obtain rfl : strict = true := hstrict
    cases h.2
  | behind negative => cases h.2

theorem directly_eq_ok {a : Syntax} {p : Plan Syntax} (h : a.directly = .ok p) : p = .direct a := by
  unfold directly at h
  split at h
  · exact (Except.ok.inj h).symm
  · cases h

theorem lookFixed_eq_ok {negative : Bool} {a : Syntax} {planned : Planned} {p : Plan Syntax}
    (h : lookFixed negative a planned = .ok p) :
    ∃ inner, planned = .ok inner ∧ p = lookAt negative a.minLength inner := by
  unfold lookFixed at h
  split at h
  · obtain ⟨inner, hinner, h⟩ := Outcome.bind_eq_ok.mp h
    exact ⟨inner, hinner, (Except.ok.inj h).symm⟩
  · cases h

end Syntax

namespace Machine

open Syntax (Planning)

variable {text : List Char}

theorem explores_linear {strict : Bool} {a : Syntax} (plain : a.IsPlain) (referenced : List Nat)
    (linear : a.needsBacktracking referenced = false)
    (fixed : strict = true → a.isFixedLength = true) :
    Explores strict text.length (run text.toArray (.direct (Moves.ofSyntax text a)))
      (a.Spans text) := by
  refine explores_direct (Moves.lists_spans text plain linear)
    fun hstrict start stop other h h' => ?_
  rw [h.length (fixed hstrict), h'.length (fixed hstrict)]

theorem explores_assertion (strict : Bool) (a : Assertion) :
    Explores strict text.length (run text.toArray (.direct (Moves.ofSyntax text (.assertion a))))
      ((Syntax.assertion a).Spans text) :=
  explores_direct (Moves.lists_assertion text a) fun _ _ _ _ h h' => h.2.symm.trans h'.2

-- A lookbehind of fixed length starts that far back.
theorem exists_spans_behind {a : Syntax} (fixed : a.isFixedLength = true) (place : Nat) :
    (a.minLength ≤ place ∧ ∃ other, a.Spans text (place - a.minLength) other) ↔
      ∃ other, a.Spans text other place := by
  constructor
  · rintro ⟨hle, other, h⟩
    have := h.length fixed
    obtain rfl : other = place := by omega
    exact ⟨_, h⟩
  · rintro ⟨other, h⟩
    have := h.length fixed
    obtain rfl : other = place - a.minLength := by omega
    exact ⟨by omega, place, h⟩

theorem explores_look {negative : Bool} {a : Syntax} {p : Plan Syntax} (back : Nat)
    (h : Explores false text.length (run text.toArray (p.map (Moves.ofSyntax text)))
      (a.Spans text)) :
    Explores true text.length
      (run text.toArray ((Syntax.lookAt negative back p).map (Moves.ofSyntax text)))
      (fun start stop => ((back ≤ start ∧ ∃ other, a.Spans text (start - back) other) ↔
        negative = false) ∧ start = stop) := by
  cases negative with
  | false => exact (h.look back).congr fun start stop => and_congr_left' (iff_true_right rfl).symm
  | true =>
    have other : ¬true = false := by decide
    exact (h.refuse back).congr fun start stop => and_congr_left' (iff_false_right other).symm

theorem explores_loop {strict : Bool} {a : Syntax} {part : Plan Moves} {min : Nat}
    {max : Option Nat} (greedy : Bool) (sound : ∀ most, max = some most → min ≤ most)
    (h : Explores true text.length (run text.toArray part) (a.Spans text)) :
    Explores strict text.length
      (run text.toArray (.loop part min max greedy (max.isNone && a.minLength == 0)))
      ((Syntax.repetition a min max greedy).Spans text) := by
  intro next holds start hstart _ settles marks returns
  have leaves (stop : Nat) : Leaves (a.Spans text) min max 0 start stop ↔
      (Syntax.repetition a min max greedy).Spans text start stop := by
    simp only [Leaves, Syntax.Spans, Nat.zero_add]
  have settled := settles_rounds greedy (max.isNone && a.minLength == 0) h
    (fun start stop h => h.le_length) (fun start stop h => h.le)
    (fun unbounded unguarded start stop h => by
      rw [unbounded] at unguarded
      have : a.minLength ≠ 0 := by simpa using unguarded
      have := h.minLength_le
      omega)
    (fun guarded => by
      rw [Bool.and_eq_true, Option.isNone_iff_eq_none] at guarded
      exact guarded.1)
    sound (roundLimit text.toArray.size min max) 0 none hstart
    (fun stop hstop => settles stop ((leaves stop).mp hstop))
    (by
      cases max with
      | some most => exact ⟨Nat.zero_le _, by simp only [roundLimit]; omega⟩
      | none => exact .inl (by simp only [roundLimit, List.size_toArray]; omega))
  refine (settled marks returns).congr ?_
  simp only [leaves]
  refine and_iff_right fun stuck => ?_
  cases stuck.2.2

theorem explores_of_isDirect {a : Syntax} (plain : a.IsPlain) {planning : Planning}
    (direct : planning.isDirect [] a = true) {p : Plan Syntax} (hp : a.directly = .ok p) :
    Explores planning.strictItems text.length (run text.toArray (p.map (Moves.ofSyntax text)))
      (a.Spans text) := by
  obtain ⟨linear, fixed⟩ := Planning.isDirect_cases direct
  rw [Syntax.directly_eq_ok hp]
  exact explores_linear plain [] linear fixed

-- The plan of a plain tree looks for all its spans, as far as it is planned to.
theorem explores_plan {a : Syntax} (plain : a.IsPlain) {planning : Planning}
    {p : Plan Syntax} (hp : a.plan [] planning = .ok p)
    (notBehind : ∀ negative, planning ≠ .behind negative) :
    Explores planning.strictItems text.length (run text.toArray (p.map (Moves.ofSyntax text)))
      (a.Spans text) := by
  induction a generalizing planning p with
  | empty =>
    rw [Syntax.plan] at hp
    rw [Syntax.directly_eq_ok ((ite_self _).symm.trans hp)]
    exact explores_linear plain [] rfl fun _ => rfl
  | char set =>
    rw [Syntax.plan] at hp
    rw [Syntax.directly_eq_ok ((ite_self _).symm.trans hp)]
    exact explores_linear plain [] rfl fun _ => rfl
  | assertion a =>
    rw [Syntax.plan] at hp
    rw [Syntax.directly_eq_ok ((ite_self _).symm.trans hp)]
    exact explores_assertion _ a
  | seq a b iha ihb =>
    rw [Syntax.plan] at hp
    split at hp
    · next direct => exact explores_of_isDirect plain direct hp
    · have inside : ∀ start stop, a.Spans text start stop → start ≤ text.length →
          stop ≤ text.length := fun start stop h => h.le_length
      simp only at hp
      split at hp
      · next leading =>
        simp only [Bool.and_eq_true, Bool.not_eq_true'] at leading
        obtain ⟨first, hfirst, hp⟩ := Outcome.bind_eq_ok.mp hp
        obtain ⟨second, hsecond, hp⟩ := Outcome.bind_eq_ok.mp hp
        cases hp
        have later := ihb plain.2 hsecond Planning.items_ne_behind
        rw [Syntax.directly_eq_ok hfirst]
        exact (explores_linear plain.1 [] leading.2 fun _ => leading.1.2).seq later inside
      · obtain ⟨first, hfirst, hp⟩ := Outcome.bind_eq_ok.mp hp
        obtain ⟨second, hsecond, hp⟩ := Outcome.bind_eq_ok.mp hp
        cases hp
        have later := ihb plain.2 hsecond Planning.items_ne_behind
        exact (iha plain.1 hfirst Planning.whole_ne_behind).seq later inside
  | alt a b iha ihb =>
    rw [Syntax.plan] at hp
    split at hp
    · next direct => exact explores_of_isDirect plain direct hp
    · obtain ⟨first, hfirst, hp⟩ := Outcome.bind_eq_ok.mp hp
      obtain ⟨second, hsecond, hp⟩ := Outcome.bind_eq_ok.mp hp
      cases hp
      have left := iha plain.1 hfirst Planning.whole_ne_behind
      have right := ihb plain.2 hsecond Planning.branches_ne_behind
      exact (left.alt right).mono Planning.strict_of_strictItems
    · exact notBehind
  | scope a ih =>
    rw [Syntax.plan] at hp
    split at hp
    · next direct => exact explores_of_isDirect plain direct hp
    · exact (ih plain hp Planning.whole_ne_behind).mono Planning.strict_of_strictItems
    · exact notBehind
  | capture index a ih =>
    rw [Syntax.plan] at hp
    split at hp
    · next direct => exact explores_of_isDirect plain direct hp
    · obtain ⟨inner, hinner, hp⟩ := Outcome.bind_eq_ok.mp hp
      cases hp
      exact (ih plain hinner Planning.whole_ne_behind).mono Planning.strict_of_strictItems
  | repetition a min max greedy ih =>
    rw [Syntax.plan] at hp
    split at hp
    · next direct => exact explores_of_isDirect plain direct hp
    · obtain ⟨inner, hinner, hp⟩ := Outcome.bind_eq_ok.mp hp
      cases hp
      have body := ih plain.1 hinner Planning.whole_ne_behind
      cases hstrict : planning.strict || !(min == 0 && max == some 1) with
      | true =>
        rw [hstrict] at body
        exact explores_loop greedy plain.2 body
      | false =>
        simp only [Bool.or_eq_false_iff, Bool.not_eq_false', Bool.and_eq_true, beq_iff_eq]
          at hstrict
        obtain ⟨hstrict, rfl, rfl⟩ := hstrict
        rw [hstrict] at body
        refine (body.optional greedy).mono (fun h => ?_) |>.congr fun start stop => ?_
        · exact (Planning.strict_of_strictItems h).symm.trans hstrict |>.symm
        · simp only [Leaves, Syntax.Spans, Nat.zero_add]
  | look behind negative a ih =>
    cases behind with
    | false =>
      rw [Syntax.plan] at hp
      split at hp
      · next direct => cases (Planning.isDirect_cases direct).1
      obtain ⟨inner, hinner, hp⟩ := Outcome.bind_eq_ok.mp hp
      cases hp
      have body := ih plain.1 hinner Planning.whole_ne_behind
      refine ((explores_look 0 body).mono fun _ => rfl).congr fun start stop => ?_
      simp only [Syntax.Spans, Nat.zero_le, true_and, Nat.sub_zero, Bool.false_eq_true, if_false]
    | true =>
      rw [Syntax.plan] at hp
      split at hp
      · next direct => cases (Planning.isDirect_cases direct).1
      have fixed := plain.2 rfl
      simp only [fixed, Bool.not_true, Bool.false_and, Bool.false_eq_true, if_false] at hp
      obtain ⟨inner, hinner, rfl⟩ := Syntax.lookFixed_eq_ok hp
      have body := ih plain.1 hinner Planning.whole_ne_behind
      refine ((explores_look _ body).mono fun _ => rfl).congr fun start stop => ?_
      simp only [Syntax.Spans, if_true, exists_spans_behind fixed]
  | atomic a => exact plain.elim
  | backreference index => exact plain.elim

theorem searchFrom_tells {part : Plan Moves} {step : Nat → Nat → Prop}
    (h : Explores true text.length (run text.toArray part) step) {left : Nat} (place returns : Nat)
    (hplace : place + left = text.length) :
    (searchFrom text.toArray part left place returns).Tells
      (∃ start stop, place ≤ start ∧ start ≤ text.length ∧ step start stop) := by
  have here (returns : Nat) : (run text.toArray part .found ⟨place, [(0, place)]⟩ returns).Tells
      (∃ stop, step place stop) := by
    refine (h .found (fun _ => True) place (by omega) (.inl rfl) (fun _ _ _ _ => trivial)
      [(0, place)] returns).congr ?_
    simp only [and_true]
  induction left generalizing place returns with
  | zero =>
    have failing (returns : Nat) : (Outcome.failed returns).Tells False := id
    refine ((here returns).orElse failing).congr ?_
    rw [or_false]
    constructor
    · rintro ⟨stop, hstep⟩
      exact ⟨place, stop, Nat.le_refl _, by omega, hstep⟩
    · rintro ⟨start, stop, hle, hlength, hstep⟩
      obtain rfl : start = place := by omega
      exact ⟨stop, hstep⟩
  | succ left ih =>
    have later (returns : Nat) := ih (place + 1) returns (by omega) fun returns => by
      refine (h .found (fun _ => True) (place + 1) (by omega) (.inl rfl) (fun _ _ _ _ => trivial)
        [(0, place + 1)] returns).congr ?_
      simp only [and_true]
    refine ((here returns).orElse later).congr ?_
    constructor
    · rintro (⟨stop, hstep⟩ | ⟨start, stop, hle, hlength, hstep⟩)
      · exact ⟨place, stop, Nat.le_refl _, by omega, hstep⟩
      · exact ⟨start, stop, Nat.le_of_succ_le hle, hlength, hstep⟩
    · rintro ⟨start, stop, hle, hlength, hstep⟩
      rcases Nat.eq_or_lt_of_le hle with rfl | hlt
      · exact .inl ⟨stop, hstep⟩
      · exact .inr ⟨start, stop, hlt, hlength, hstep⟩

end Machine

-- An answer of the program of a plain tree is right.
theorem Program.search_eq_ok {tree : Syntax} (plain : tree.IsPlain) {program : Program}
    (hprogram : Program.ofSyntax tree = .ok program) {text : String} {found : Bool}
    (hfound : program.search text = .ok found) :
    found = true ↔
      ∃ start stop, start ≤ text.toList.length ∧ tree.Spans text.toList start stop := by
  simp only [Program.ofSyntax, Syntax.references_of_isPlain plain] at hprogram
  split at hprogram
  · obtain ⟨p, hp, rfl⟩ := Outcome.map_eq_ok.mp hprogram
    have tells := Machine.searchFrom_tells
      (Machine.explores_plan plain hp nofun) 0 0 (Nat.zero_add text.toList.length)
    simp only [Program.search, Machine.search, List.size_toArray] at hfound
    generalize Machine.searchFrom text.toList.toArray (p.map (Moves.ofSyntax text.toList))
      text.toList.length 0 0 = outcome at tells hfound
    have all : (∃ start stop, 0 ≤ start ∧ start ≤ text.toList.length ∧
        tree.Spans text.toList start stop) ↔
        ∃ start stop, start ≤ text.toList.length ∧ tree.Spans text.toList start stop := by
      simp only [Nat.zero_le, true_and]
    cases outcome with
    | found spot returns =>
      cases hfound
      exact iff_of_true rfl (all.mp tells)
    | failed returns =>
      cases hfound
      exact iff_of_false Bool.false_ne_true fun spans => tells (all.mpr spans)
    | exhausted => cases hfound
  · next linear =>
    split at hprogram
    · cases hprogram
      cases hfound
      exact Moves.anywhere_iff text.toList plain (Bool.eq_false_iff.mpr linear)
    · cases hprogram

end Vetting.Pattern
