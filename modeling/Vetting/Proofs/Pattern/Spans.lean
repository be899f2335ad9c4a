import Vetting.Pattern.Syntax

namespace Vetting.Pattern

-- A number of steps of a relation, one after the other.
def Rounds (step : Nat → Nat → Prop) : Nat → Nat → Nat → Prop
  | 0, start, stop => start = stop
  | count + 1, start, stop => ∃ next, step start next ∧ Rounds step count next stop

-- The character before a place.
def before? (text : List Char) : Nat → Option Char
  | 0 => none
  | place + 1 => text[place]?

theorem any_before {text : List Char} {p : Char → Bool} {place : Nat}
    (h : (before? text place).any p = true) : place ≤ text.length := by
  cases place with
  | zero => exact Nat.zero_le _
  | succ place =>
    obtain ⟨c, hc, -⟩ := Option.any_eq_true _ _ |>.mp h
    exact (List.getElem?_eq_some_iff.mp hc).1

theorem any_after {text : List Char} {p : Char → Bool} {place : Nat}
    (h : text[place]?.any p = true) : place < text.length := by
  obtain ⟨c, hc, -⟩ := Option.any_eq_true _ _ |>.mp h
  exact (List.getElem?_eq_some_iff.mp hc).1

-- Whether an assertion holds at a place.
def Assertion.Holds (text : List Char) (place : Nat) : Assertion → Prop
  | .textStart => place = 0
  | .textEnd => place = text.length
  | .lineStart => place = 0 ∨ before? text place = some '\n'
  | .lineEnd => text[place]? = some '\n' ∨ place = text.length
  | .wordStart => text[place]?.any Text.isWord = true ∧ (before? text place).any Text.isWord = false
  | .wordEnd => (before? text place).any Text.isWord = true ∧ text[place]?.any Text.isWord = false

namespace Syntax

-- Whether a tree matches from one place to another.
def Spans (text : List Char) : Syntax → Nat → Nat → Prop
  | empty, start, stop => start = stop
  | char set, start, stop => text[start]?.any set.mem = true ∧ stop = start + 1
  | assertion a, start, stop => a.Holds text start ∧ start = stop
  | seq a b, start, stop => ∃ next, a.Spans text start next ∧ b.Spans text next stop
  | alt a b, start, stop => a.Spans text start stop ∨ b.Spans text start stop
  | scope a, start, stop | capture _ a, start, stop => a.Spans text start stop
  | repetition a min max _, start, stop =>
    ∃ count, min ≤ count ∧ (∀ most, max = some most → count ≤ most) ∧
      Rounds (a.Spans text) count start stop
  | look behind negative a, start, stop =>
    ((∃ other, if behind then a.Spans text other start else a.Spans text start other) ↔
      negative = false) ∧ start = stop
  | atomic _, _, _ | backreference _, _, _ => False

-- The trees whose matches are their spans, for either engine: no atomic groups and no references,
-- counts in order, and only lookbehinds of a fixed length.
def IsPlain : Syntax → Prop
  | empty | char _ | assertion _ => True
  | seq a b | alt a b => a.IsPlain ∧ b.IsPlain
  | scope a | capture _ a => a.IsPlain
  | repetition a min max _ => a.IsPlain ∧ ∀ most, max = some most → min ≤ most
  | look behind _ a => a.IsPlain ∧ (behind = true → a.isFixedLength = true)
  | atomic _ | backreference _ => False

-- A lookaround over one character looks at the character before or behind the place.
theorem spans_look_char {text : List Char} (behind negative : Bool) (set : CharSet)
    (start stop : Nat) :
    (look behind negative (.char set)).Spans text start stop ↔
      ((if behind then before? text start else text[start]?).any set.mem = !negative) ∧
        start = stop := by
  have found : (∃ other, if behind then (char set).Spans text other start
        else (char set).Spans text start other) ↔
      (if behind then before? text start else text[start]?).any set.mem = true := by
    cases behind with
    | false => simp [Spans]
    | true =>
      cases start with
      | zero => simp [Spans, before?]
      | succ place => simp [Spans, before?]
  rw [Spans, found]
  cases negative <;> simp

end Syntax

section Rounds

variable {step : Nat → Nat → Prop}

theorem Rounds.trans {m n start next stop : Nat} (first : Rounds step m start next)
    (second : Rounds step n next stop) : Rounds step (m + n) start stop := by
  induction m generalizing start with
  | zero =>
    obtain rfl : start = next := first
    rwa [Nat.zero_add]
  | succ m ih =>
    obtain ⟨place, hstep, rest⟩ := first
    rw [Nat.add_right_comm]
    exact ⟨place, hstep, ih rest⟩

theorem Rounds.split {m n start stop : Nat} (h : Rounds step (m + n) start stop) :
    ∃ next, Rounds step m start next ∧ Rounds step n next stop := by
  induction m generalizing start with
  | zero => exact ⟨start, rfl, by rwa [Nat.zero_add] at h⟩
  | succ m ih =>
    rw [Nat.add_right_comm] at h
    obtain ⟨place, hstep, rest⟩ := h
    obtain ⟨next, first, second⟩ := ih rest
    exact ⟨next, ⟨place, hstep, first⟩, second⟩

theorem rounds_one {start stop : Nat} : Rounds step 1 start stop ↔ step start stop := by
  simp [Rounds]

theorem rounds_succ_right {count start stop : Nat} :
    Rounds step (count + 1) start stop ↔
      ∃ next, Rounds step count start next ∧ step next stop := by
  constructor
  · intro h
    obtain ⟨next, first, last⟩ := h.split
    exact ⟨next, first, rounds_one.mp last⟩
  · rintro ⟨next, first, last⟩
    exact first.trans (rounds_one.mpr last)

-- A set that no step leaves is not left in any number of steps.
theorem Rounds.closed (inside : Nat → Prop)
    (closed : ∀ start stop, inside start → step start stop → inside stop) {count start stop : Nat}
    (h : Rounds step count start stop) (hstart : inside start) : inside stop := by
  induction count generalizing start with
  | zero =>
    obtain rfl : start = stop := h
    exact hstart
  | succ count ih =>
    obtain ⟨next, hstep, rest⟩ := h
    exact ih rest (closed start next hstart hstep)

theorem Rounds.le (forward : ∀ start stop, step start stop → start ≤ stop) {count start stop : Nat}
    (h : Rounds step count start stop) : start ≤ stop :=
  h.closed (start ≤ ·)
    (fun _ _ hle hstep => Nat.le_trans hle (forward _ _ hstep))
    (Nat.le_refl start)

-- The lengths of the steps add up.
theorem Rounds.length_le {length : Nat}
    (each : ∀ start stop, step start stop → start + length ≤ stop)
    {count start stop : Nat} (h : Rounds step count start stop) :
    start + length * count ≤ stop := by
  induction count generalizing start with
  | zero => exact Nat.le_of_eq h
  | succ count ih =>
    obtain ⟨next, hstep, rest⟩ := h
    have first := each _ _ hstep
    have others := ih rest
    rw [Nat.mul_succ]
    omega

theorem Rounds.length {length : Nat} (each : ∀ start stop, step start stop → stop = start + length)
    {count start stop : Nat} (h : Rounds step count start stop) :
    stop = start + length * count := by
  induction count generalizing start with
  | zero => exact Eq.symm h
  | succ count ih =>
    obtain ⟨next, hstep, rest⟩ := h
    rw [ih rest, each _ _ hstep, Nat.mul_succ]
    omega

end Rounds

namespace Syntax

variable {text : List Char}

theorem Spans.le {a : Syntax} {start stop : Nat} (h : a.Spans text start stop) : start ≤ stop := by
  induction a generalizing start stop with
  | empty => exact Nat.le_of_eq h
  | char set => obtain ⟨_, rfl⟩ := h; exact Nat.le_succ start
  | assertion a => exact Nat.le_of_eq h.2
  | seq a b iha ihb =>
    obtain ⟨next, first, second⟩ := h
    exact Nat.le_trans (iha first) (ihb second)
  | alt a b iha ihb => exact h.elim iha ihb
  | scope a ih => exact ih h
  | capture index a ih => exact ih h
  | repetition a min max greedy ih =>
    obtain ⟨count, _, _, rounds⟩ := h
    exact rounds.le fun _ _ => ih
  | look behind negative a ih => exact Nat.le_of_eq h.2
  | atomic a ih => exact h.elim
  | backreference index => exact h.elim

theorem Spans.le_length {a : Syntax} {start stop : Nat} (h : a.Spans text start stop)
    (hstart : start ≤ text.length) : stop ≤ text.length := by
  induction a generalizing start stop with
  | empty => exact h ▸ hstart
  | char set =>
    obtain ⟨member, rfl⟩ := h
    exact any_after member
  | assertion a => exact h.2 ▸ hstart
  | seq a b iha ihb =>
    obtain ⟨next, first, second⟩ := h
    exact ihb second (iha first hstart)
  | alt a b iha ihb => exact h.elim (iha · hstart) (ihb · hstart)
  | scope a ih => exact ih h hstart
  | capture index a ih => exact ih h hstart
  | repetition a min max greedy ih =>
    obtain ⟨count, _, _, rounds⟩ := h
    exact rounds.closed (· ≤ text.length) (fun _ _ hle hstep => ih hstep hle) hstart
  | look behind negative a ih => exact h.2 ▸ hstart
  | atomic a ih => exact h.elim
  | backreference index => exact h.elim

theorem Spans.minLength_le {a : Syntax} {start stop : Nat} (h : a.Spans text start stop) :
    start + a.minLength ≤ stop := by
  induction a generalizing start stop with
  | empty => exact Nat.le_of_eq h
  | char set => exact Nat.le_of_eq h.2.symm
  | assertion a => exact Nat.le_of_eq h.2
  | seq a b iha ihb =>
    obtain ⟨next, first, second⟩ := h
    have := iha first
    have := ihb second
    simp only [minLength]
    omega
  | alt a b iha ihb =>
    simp only [minLength]
    rcases h with h | h
    · have := iha h
      omega
    · have := ihb h
      omega
  | scope a ih => exact ih h
  | capture index a ih => exact ih h
  | repetition a min max greedy ih =>
    obtain ⟨count, hmin, _, rounds⟩ := h
    have total := rounds.length_le fun _ _ => ih
    have : a.minLength * min ≤ a.minLength * count := Nat.mul_le_mul_left _ hmin
    simp only [minLength]
    omega
  | look behind negative a ih => exact Nat.le_of_eq h.2
  | atomic a ih => exact h.elim
  | backreference index => exact h.elim

-- All spans of a tree of fixed length from one place stop at the same one.
theorem Spans.length {a : Syntax} {start stop : Nat} (fixed : a.isFixedLength = true)
    (h : a.Spans text start stop) : stop = start + a.minLength := by
  induction a generalizing start stop with
  | empty => exact h.symm
  | char set => exact h.2
  | assertion a => exact h.2.symm
  | seq a b iha ihb =>
    simp only [isFixedLength, Bool.and_eq_true] at fixed
    obtain ⟨next, first, second⟩ := h
    have := iha fixed.1 first
    have := ihb fixed.2 second
    simp only [minLength]
    omega
  | alt a b iha ihb =>
    simp only [isFixedLength, Bool.and_eq_true, beq_iff_eq] at fixed
    simp only [minLength]
    rcases h with h | h
    · have := iha fixed.1.1 h
      omega
    · have := ihb fixed.1.2 h
      omega
  | scope a ih => exact ih fixed h
  | capture index a ih => exact ih fixed h
  | repetition a min max greedy ih =>
    simp only [isFixedLength, Bool.and_eq_true, beq_iff_eq] at fixed
    obtain ⟨count, hmin, hmax, rounds⟩ := h
    obtain rfl : count = min := Nat.le_antisymm (hmax min fixed.2) hmin
    exact rounds.length fun _ _ => ih fixed.1
  | look behind negative a ih => exact h.2.symm
  | atomic a ih => exact h.elim
  | backreference index => cases fixed

end Syntax

end Vetting.Pattern
