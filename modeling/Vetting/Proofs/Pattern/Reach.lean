import Mathlib.Data.Finset.Card
import Vetting.Proofs.Pattern.Masks

namespace Vetting.Pattern.Moves

-- Whether all places of a mask are places of a text of the given length.
def Within (length places : Nat) : Prop := ∀ place, places.testBit place = true → place ≤ length

-- Whether a move of masks takes every place along all steps of a relation, and along no others.
structure Follows (length : Nat) (move : Nat → Nat) (step : Nat → Nat → Prop) : Prop where
  inside : ∀ start stop, step start stop → start ≤ length → stop ≤ length
  moves : ∀ places, Within length places → ∀ stop,
    (move places).testBit stop = true ↔
      ∃ start, places.testBit start = true ∧ step start stop

section Follows

variable {length : Nat} {move : Nat → Nat} {step : Nat → Nat → Prop}

theorem Follows.within (h : Follows length move step) {places : Nat} (hp : Within length places) :
    Within length (move places) := by
  intro stop hstop
  obtain ⟨start, member, hstep⟩ := (h.moves places hp stop).mp hstop
  exact h.inside start stop hstep (hp start member)

theorem times_of_fixed {places : Nat} (fixed : move places = places) (count : Nat) :
    times move count places = places := by
  cases count with
  | zero => rfl
  | succ count => simp [times, fixed]

-- Stopping early makes no difference.
theorem times_succ (count places : Nat) :
    times move (count + 1) places = times move count (move places) := by
  rw [times]
  split
  · next fixed =>
    have fixed := eq_of_beq fixed
    rw [fixed, times_of_fixed fixed]
  · rfl

theorem Follows.times (h : Follows length move step) (count : Nat) :
    Follows length (times move count) (Rounds step count) where
  inside start stop rounds hstart :=
    rounds.closed (· ≤ length) (fun _ _ hle hstep => h.inside _ _ hstep hle) hstart
  moves := by
    induction count with
    | zero =>
      intro places _ stop
      simp [Moves.times, Rounds]
    | succ count ih =>
      intro places hp stop
      rw [times_succ, ih (move places) (h.within hp) stop]
      constructor
      · rintro ⟨next, hnext, rest⟩
        obtain ⟨start, member, hstep⟩ := (h.moves places hp next).mp hnext
        exact ⟨start, member, next, hstep, rest⟩
      · rintro ⟨start, member, next, hstep, rest⟩
        exact ⟨next, (h.moves places hp next).mpr ⟨start, member, hstep⟩, rest⟩

-- What holds between two rounds of spreading: only the newest places may lead to others.
structure Spreading (length : Nat) (step : Nat → Nat → Prop) (found fresh : Nat) : Prop where
  within : Within length found
  found_of_fresh : ∀ place, fresh.testBit place = true → found.testBit place = true
  finished : ∀ start stop, found.testBit start = true → fresh.testBit start = false →
    step start stop → found.testBit stop = true

theorem Spreading.start {places : Nat} (hp : Within length places) :
    Spreading length step places places where
  within := hp
  found_of_fresh _ member := member
  finished start stop found fresh := by
    rw [found] at fresh
    cases fresh

theorem Spreading.fresh_within {found fresh : Nat} (inv : Spreading length step found fresh) :
    Within length fresh :=
  fun place member => inv.within place (inv.found_of_fresh place member)

-- A step from a place found before ends at one found before or at a new one.
theorem Spreading.step_found (h : Follows length move step) {found fresh : Nat}
    (inv : Spreading length step found fresh) {start stop : Nat}
    (hstart : found.testBit start = true) (hstep : step start stop) :
    (found ||| without (move fresh) found).testBit stop = true := by
  rw [Nat.testBit_or, Bool.or_eq_true, testBit_without, Bool.and_eq_true, Bool.not_eq_true']
  cases hfound : found.testBit stop with
  | true => exact .inl rfl
  | false =>
    refine .inr ⟨(h.moves fresh inv.fresh_within stop).mpr ⟨start, ?_, hstep⟩, rfl⟩
    cases hfresh : fresh.testBit start with
    | true => rfl
    | false =>
      have := inv.finished start stop hstart hfresh hstep
      rw [hfound] at this
      cases this

theorem Spreading.next (h : Follows length move step) {found fresh : Nat}
    (inv : Spreading length step found fresh) :
    Spreading length step (found ||| without (move fresh) found) (without (move fresh) found) where
  within place member := by
    rw [Nat.testBit_or, Bool.or_eq_true, testBit_without, Bool.and_eq_true] at member
    rcases member with old | new
    · exact inv.within place old
    · exact h.within inv.fresh_within place new.1
  found_of_fresh place member := by rw [Nat.testBit_or, member, Bool.or_true]
  finished start stop member new hstep := by
    rw [Nat.testBit_or, new, Bool.or_false] at member
    exact inv.step_found h member hstep

-- Everything that spreading finds is a number of rounds away.
theorem rounds_of_spread (h : Follows length move step) {count found fresh stop : Nat}
    (inv : Spreading length step found fresh)
    (hstop : (spread move count found fresh).testBit stop = true) :
    ∃ start rounds, found.testBit start = true ∧ rounds ≤ count ∧
      Rounds step rounds start stop := by
  induction count generalizing found fresh with
  | zero => exact ⟨stop, 0, hstop, Nat.le_refl 0, rfl⟩
  | succ count ih =>
    simp only [spread] at hstop
    split at hstop
    · exact ⟨stop, 0, hstop, Nat.zero_le _, rfl⟩
    · obtain ⟨next, rounds, hnext, hle, rest⟩ := ih (inv.next h) hstop
      rw [Nat.testBit_or, Bool.or_eq_true, testBit_without, Bool.and_eq_true] at hnext
      rcases hnext with old | new
      · exact ⟨next, rounds, old, Nat.le_succ_of_le hle, rest⟩
      · obtain ⟨start, member, hstep⟩ := (h.moves fresh inv.fresh_within next).mp new.1
        exact ⟨start, rounds + 1, inv.found_of_fresh start member, Nat.succ_le_succ hle,
          next, hstep, rest⟩

-- The places of a text that a mask lacks.
def missing (length found : Nat) : Finset Nat :=
  (Finset.range (length + 1)).filter fun place => found.testBit place = false

theorem mem_missing {found place : Nat} :
    place ∈ missing length found ↔ place ≤ length ∧ found.testBit place = false := by
  rw [missing, Finset.mem_filter, Finset.mem_range, Nat.lt_succ_iff]

theorem card_missing_le (length found : Nat) : (missing length found).card ≤ length + 1 := by
  have := Finset.card_filter_le (Finset.range (length + 1)) fun place => found.testBit place = false
  rwa [Finset.card_range] at this

-- A new place is no longer missing.
theorem card_missing_lt {found more place : Nat} (inside : place ≤ length)
    (old : found.testBit place = false) (new : more.testBit place = true)
    (keeps : ∀ place, found.testBit place = true → more.testBit place = true) :
    (missing length more).card < (missing length found).card := by
  refine Finset.card_lt_card (Finset.ssubset_iff_of_subset ?_ |>.mpr ⟨place, ?_, ?_⟩)
  · intro other member
    rw [mem_missing] at member ⊢
    refine ⟨member.1, Bool.eq_false_iff.mpr fun found => ?_⟩
    rw [keeps other found] at member
    exact Bool.noConfusion member.2
  · exact mem_missing.mpr ⟨inside, old⟩
  · intro member
    rw [mem_missing, new] at member
    exact Bool.noConfusion member.2

-- Spreading goes on for its count of rounds, and forever if the count exceeds the number of places
-- that are left.
theorem spread_of_rounds (h : Follows length move step) {count found fresh start rounds stop : Nat}
    (inv : Spreading length step found fresh)
    (enough : rounds ≤ count ∨ (missing length found).card < count)
    (hstart : found.testBit start = true) (path : Rounds step rounds start stop) :
    (spread move count found fresh).testBit stop = true := by
  induction count generalizing found fresh start rounds with
  | zero =>
    obtain rfl : rounds = 0 := by omega
    obtain rfl : start = stop := path
    exact hstart
  | succ count ih =>
    have keeps : ∀ place, found.testBit place = true →
        (found ||| without (move fresh) found).testBit place = true := by
      intro place member
      rw [Nat.testBit_or, member, Bool.true_or]
    simp only [spread]
    split
    · next none =>
      have none := eq_of_beq none
      refine path.closed (found.testBit · = true) (fun start stop member hstep => ?_)
        hstart
      have := inv.step_found h member hstep
      rwa [none, Nat.or_zero] at this
    · next some =>
      obtain ⟨place, new⟩ := ne_zero_iff.mp fun none => some (beq_iff_eq.mpr none)
      have fewer : (missing length (found ||| without (move fresh) found)).card <
          (missing length found).card := by
        have fresh := (inv.next h).found_of_fresh place new
        rw [testBit_without, Bool.and_eq_true, Bool.not_eq_true'] at new
        exact card_missing_lt ((inv.next h).within place fresh) new.2 fresh keeps
      rcases enough with short | many
      · cases rounds with
        | zero => exact ih (inv.next h) (.inl (Nat.zero_le _)) (keeps start hstart) path
        | succ rounds =>
          obtain ⟨next, hstep, rest⟩ := path
          exact ih (inv.next h) (.inl (Nat.le_of_succ_le_succ short))
            (inv.step_found h hstart hstep) rest
      · exact ih (inv.next h) (.inr (by omega)) (keeps start hstart) path

-- A loop takes its least number of rounds, and then spreads.
theorem Follows.loop (h : Follows length move step) (min room : Nat) (max : Option Nat)
    (sound : ∀ most, max = some most → min ≤ most) (hroom : length + 1 < room) :
    Follows length
      (fun places =>
        let start := Moves.times move min places
        spread move (max.elim room fun most => Nat.min (most - min) room) start start)
      (fun start stop => ∃ count, min ≤ count ∧ (∀ most, max = some most → count ≤ most) ∧
        Rounds step count start stop) where
  inside := by
    rintro start stop ⟨count, -, -, rounds⟩
    exact (h.times count).inside start stop rounds
  moves places hp stop := by
    have hrounds := h.times min
    have inv : Spreading length step _ _ := .start (hrounds.within hp)
    constructor
    · intro hstop
      obtain ⟨next, more, hnext, hmore, last⟩ := rounds_of_spread h inv hstop
      obtain ⟨start, member, first⟩ := (hrounds.moves places hp next).mp hnext
      refine ⟨start, member, min + more, Nat.le_add_right .., ?_, first.trans last⟩
      rintro most rfl
      have := sound most rfl
      have : more ≤ most - min := Nat.le_trans hmore (Nat.min_le_left ..)
      omega
    · rintro ⟨start, member, count, hmin, hmax, rounds⟩
      obtain ⟨more, rfl⟩ := Nat.exists_eq_add_of_le hmin
      obtain ⟨next, first, last⟩ := rounds.split
      have hnext := (hrounds.moves places hp next).mpr ⟨start, member, first⟩
      refine spread_of_rounds h inv ?_ hnext last
      have := card_missing_le length (Moves.times move min places)
      cases max with
      | none => exact .inr (by simp only [Option.elim_none]; omega)
      | some most =>
        have := hmax most rfl
        simp only [Option.elim_some]
        rcases Nat.le_total (most - min) room with hle | hle
        · have : Nat.min (most - min) room = most - min := Nat.min_eq_left hle
          exact .inl (by omega)
        · have : Nat.min (most - min) room = room := Nat.min_eq_right hle
          exact .inr (by omega)

end Follows

-- From a set of places, the moves of a tree reach the stops of its spans.
theorem follows_spans (text : List Char) {referenced : List Nat} {a : Syntax} (plain : a.IsPlain)
    (linear : a.needsBacktracking referenced = false) :
    Follows text.length (ofSyntax text a).reach (a.Spans text) := by
  have inside (a : Syntax) : ∀ start stop, a.Spans text start stop → start ≤ text.length →
      stop ≤ text.length := fun start stop h => h.le_length
  induction a with
  | empty =>
    refine ⟨inside _, fun places hp stop => ?_⟩
    simp only [ofSyntax, reach, Nat.testBit_and, testBit_allPlaces, Bool.and_eq_true,
      decide_eq_true_eq, Syntax.Spans, exists_eq_right]
    exact ⟨And.left, fun member => ⟨member, hp stop member⟩⟩
  | char set =>
    refine ⟨inside _, fun places hp stop => ?_⟩
    simp only [ofSyntax, reach, Nat.testBit_shiftLeft, Nat.testBit_and, testBit_maskOf,
      Bool.and_eq_true, decide_eq_true_eq, Syntax.Spans]
    constructor
    · rintro ⟨hstop, member, hset⟩
      exact ⟨stop - 1, member, hset, by omega⟩
    · rintro ⟨start, member, hset, rfl⟩
      exact ⟨Nat.le_add_left .., by simpa using member, by simpa using hset⟩
  | assertion a =>
    refine ⟨inside _, fun places hp stop => ?_⟩
    simp only [ofSyntax, reach, Nat.testBit_and, Bool.and_eq_true, testBit_assertionMask,
      Syntax.Spans]
    constructor
    · rintro ⟨member, -, holds⟩
      exact ⟨stop, member, holds, rfl⟩
    · rintro ⟨start, member, holds, rfl⟩
      exact ⟨member, hp start member, holds⟩
  | seq a b iha ihb =>
    simp only [Syntax.needsBacktracking, Bool.or_eq_false_iff] at linear
    have first := iha plain.1 linear.1
    have second := ihb plain.2 linear.2
    refine ⟨inside _, fun places hp stop => ?_⟩
    simp only [ofSyntax, reach, second.moves _ (first.within hp), first.moves places hp,
      Syntax.Spans]
    constructor
    · rintro ⟨next, ⟨start, member, ha⟩, hb⟩
      exact ⟨start, member, next, ha, hb⟩
    · rintro ⟨start, member, next, ha, hb⟩
      exact ⟨next, ⟨start, member, ha⟩, hb⟩
  | alt a b iha ihb =>
    simp only [Syntax.needsBacktracking, Bool.or_eq_false_iff] at linear
    have first := iha plain.1 linear.1
    have second := ihb plain.2 linear.2
    refine ⟨inside _, fun places hp stop => ?_⟩
    simp only [ofSyntax, reach, Nat.testBit_or, Bool.or_eq_true, first.moves places hp,
      second.moves places hp, Syntax.Spans]
    rw [← exists_or]
    exact exists_congr fun start => and_or_left.symm
  | scope a ih => exact ih plain linear
  | capture index a ih =>
    simp only [Syntax.needsBacktracking, Bool.or_eq_false_iff] at linear
    exact ih plain linear.1
  | repetition a min max greedy ih =>
    have h := (ih plain.1 linear).loop min (text.length + 2) max plain.2 (Nat.lt_succ_self _)
    cases max <;> exact h
  | look behind negative a => cases linear
  | atomic a => cases linear
  | backreference index => cases linear

-- A search finds a span that starts at some place of the text.
theorem anywhere_iff (text : List Char) {referenced : List Nat} {a : Syntax} (plain : a.IsPlain)
    (linear : a.needsBacktracking referenced = false) :
    (ofSyntax text a).anywhere text.length = true ↔
      ∃ start stop, start ≤ text.length ∧ a.Spans text start stop := by
  have all : Within text.length (allPlaces text.length) := by
    intro place member
    rwa [testBit_allPlaces, decide_eq_true_eq] at member
  have moves := (follows_spans text plain linear).moves _ all
  rw [anywhere, bne_iff_ne, ne_zero_iff]
  simp only [moves, testBit_allPlaces, decide_eq_true_eq]
  exact exists_comm

end Vetting.Pattern.Moves
