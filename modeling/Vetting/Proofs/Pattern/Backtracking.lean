import Vetting.Pattern.Machine
import Vetting.Proofs.Outcome
import Vetting.Proofs.Pattern.Ends

namespace Vetting.Pattern.Machine

-- Whether an outcome says rightly if something holds. A search that is given up says nothing.
def Outcome.Tells (holds : Prop) : Outcome → Prop
  | found _ _ => holds
  | failed _ => ¬holds
  | exhausted => True

-- Whether a run does so from a place, whatever was marked and however often it returned before.
def Settles (run : Run) (place : Nat) (holds : Prop) : Prop :=
  ∀ marks returns, (run ⟨place, marks⟩ returns).Tells holds

theorem Outcome.Tells.congr {o : Outcome} {p q : Prop} (h : o.Tells p) (same : p ↔ q) :
    o.Tells q := by
  rwa [← propext same]

theorem Settles.congr {run : Run} {place : Nat} {p q : Prop} (h : Settles run place p)
    (same : p ↔ q) : Settles run place q :=
  fun marks returns => (h marks returns).congr same

theorem Outcome.Tells.orElse {first : Outcome} {second : Nat → Outcome} {p q : Prop}
    (h : first.Tells p) (h' : ∀ returns, (second returns).Tells q) :
    (first.orElse second).Tells (p ∨ q) := by
  cases first with
  | found spot returns => exact Or.inl h
  | failed returns =>
    simp only [Outcome.orElse]
    split
    · exact (h' (returns + 1)).congr (or_iff_right h).symm
    · trivial
  | exhausted => trivial

-- Whether a part of a plan looks for all ways on along a relation. One that is not strict only has
-- to where it makes no difference which way is taken.
def Explores (strict : Bool) (length : Nat) (part : Run → Run) (step : Nat → Nat → Prop) : Prop :=
  ∀ (next : Run) (holds : Nat → Prop) (start : Nat), start ≤ length →
    (strict = true ∨ ∀ stop other, step start stop → step start other →
      (holds stop ↔ holds other)) →
    (∀ stop, step start stop → Settles next stop (holds stop)) →
    Settles (part next) start (∃ stop, step start stop ∧ holds stop)

section Explores

variable {strict : Bool} {length : Nat} {part : Run → Run} {step : Nat → Nat → Prop}

theorem Explores.mono {less : Bool} (h : Explores strict length part step)
    (hless : less = true → strict = true) : Explores less length part step :=
  fun next holds start hstart same settles =>
    h next holds start hstart (same.imp_left hless) settles

theorem Explores.congr {step' : Nat → Nat → Prop} (h : Explores strict length part step)
    (same : ∀ start stop, step start stop ↔ step' start stop) :
    Explores strict length part step' := by
  have same : step = step' := funext fun start => funext fun stop => propext (same start stop)
  rwa [← same]

-- A part of which only the first end is kept, if its ends do not differ or the part is not strict.
theorem explores_direct {text : Array Char} {a : Moves}
    (h : Moves.Lists length a.ends step)
    (fixed : strict = true → ∀ start stop other, step start stop → step start other →
      stop = other) :
    Explores strict length (run text (.direct a)) step := by
  intro next holds start hstart same settles marks returns
  have mem := h.mem start hstart
  simp only [run]
  cases hends : a.ends start with
  | nil =>
    rintro ⟨stop, hstep, -⟩
    have member := (mem stop).mpr hstep
    rw [hends] at member
    exact List.not_mem_nil member
  | cons stop rest =>
    have hstep := (mem stop).mp (hends ▸ List.mem_cons_self)
    refine (settles stop hstep marks returns).congr ⟨fun hholds => ⟨stop, hstep, hholds⟩, ?_⟩
    rintro ⟨other, hother, hholds⟩
    rcases same with hstrict | same
    · rwa [fixed hstrict start stop other hstep hother]
    · exact (same stop other hstep hother).mpr hholds

theorem Explores.seq {first second : Run → Run} {step' : Nat → Nat → Prop}
    (h : Explores true length first step) (h' : Explores strict length second step')
    (inside : ∀ start stop, step start stop → start ≤ length → stop ≤ length) :
    Explores strict length (fun next => first (second next))
      (fun start stop => ∃ middle, step start middle ∧ step' middle stop) := by
  intro next holds start hstart same settles
  refine (h (second next) (fun middle => ∃ stop, step' middle stop ∧ holds stop) start hstart
    (.inl rfl) ?_).congr ?_
  · intro middle hstep
    refine h' next holds middle (inside start middle hstep hstart) (same.imp_right ?_) ?_
    · intro same stop other hstop hother
      exact same stop other ⟨middle, hstep, hstop⟩ ⟨middle, hstep, hother⟩
    · exact fun stop hstop => settles stop ⟨middle, hstep, hstop⟩
  · constructor
    · rintro ⟨middle, hstep, stop, hstop, hholds⟩
      exact ⟨stop, ⟨middle, hstep, hstop⟩, hholds⟩
    · rintro ⟨stop, ⟨middle, hstep, hstop⟩, hholds⟩
      exact ⟨middle, hstep, stop, hstop, hholds⟩

theorem Explores.alt {first second : Run → Run} {step' : Nat → Nat → Prop}
    (h : Explores strict length first step) (h' : Explores strict length second step') :
    Explores strict length
      (fun next spot returns => (first next spot returns).orElse (second next spot))
      (fun start stop => step start stop ∨ step' start stop) := by
  intro next holds start hstart same settles marks returns
  have left := h next holds start hstart
    (same.imp_right fun same stop other hstop hother => same stop other (.inl hstop) (.inl hother))
    (fun stop hstop => settles stop (.inl hstop))
  have right := h' next holds start hstart
    (same.imp_right fun same stop other hstop hother => same stop other (.inr hstop) (.inr hother))
    (fun stop hstop => settles stop (.inr hstop))
  refine ((left marks returns).orElse (right marks)).congr ?_
  simp only [or_and_right, exists_or]

section Lookarounds

variable {text : Array Char} {a : Plan Moves}

-- What follows a lookaround goes on from the place where it began.
theorem Explores.look (h : Explores false length (run text a) step) (back : Nat) :
    Explores true length (run text (.look back a))
      (fun start stop => (back ≤ start ∧ ∃ other, step (start - back) other) ∧ start = stop) := by
  intro next holds start hstart _ settles marks returns
  have hback : start - back ≤ length := Nat.le_trans (Nat.sub_le ..) hstart
  simp only [run]
  split
  · next short =>
    rintro ⟨_, ⟨found, -⟩, -⟩
    exact Nat.not_le_of_lt short found.1
  · next long =>
    have long := Nat.le_of_not_lt long
    by_cases found : ∃ other, step (start - back) other
    · have settled : Settles next start (holds start) := settles start ⟨⟨long, found⟩, rfl⟩
      refine (h (fun inner => next { inner with place := start }) (fun _ => holds start)
        (start - back) hback (.inr fun _ _ _ _ => Iff.rfl)
        (fun _ _ marks returns => settled marks returns) marks returns).congr ?_
      constructor
      · rintro ⟨other, hother, hholds⟩
        exact ⟨start, ⟨⟨long, found⟩, rfl⟩, hholds⟩
      · rintro ⟨_, ⟨-, rfl⟩, hholds⟩
        obtain ⟨other, hother⟩ := found
        exact ⟨other, hother, hholds⟩
    · refine (h (fun inner => next { inner with place := start }) (fun _ => False)
        (start - back) hback (.inr fun _ _ _ _ => Iff.rfl)
        (fun stop hstop => (found ⟨stop, hstop⟩).elim) marks returns).congr ?_
      constructor
      · rintro ⟨_, _, ⟨⟩⟩
      · rintro ⟨_, ⟨look, -⟩, -⟩
        exact (found look.2).elim

theorem Explores.refuse (h : Explores false length (run text a) step) (back : Nat) :
    Explores true length (run text (.refuse back a))
      (fun start stop => ¬(back ≤ start ∧ ∃ other, step (start - back) other) ∧ start = stop) := by
  intro next holds start hstart _ settles marks returns
  have hback : start - back ≤ length := Nat.le_trans (Nat.sub_le ..) hstart
  simp only [run]
  have inside : (if start < back then .failed returns
      else run text a .found ⟨start - back, marks⟩ returns).Tells
        (back ≤ start ∧ ∃ other, step (start - back) other) := by
    split
    · next short => exact fun found => Nat.not_le_of_lt short found.1
    · next long =>
      refine (h .found (fun _ => True) (start - back) hback (.inr fun _ _ _ _ => Iff.rfl)
        (fun _ _ _ _ => trivial) marks returns).congr ?_
      simp only [and_true, Nat.le_of_not_lt long, true_and]
  generalize (if start < back then Outcome.failed returns
      else run text a .found ⟨start - back, marks⟩ returns) = outcome at inside
  cases outcome with
  | found spot returns =>
    rintro ⟨_, ⟨refused, -⟩, -⟩
    exact refused inside
  | failed returns =>
    have failing : (Outcome.failed returns).Tells False := id
    refine (failing.orElse (settles start ⟨inside, rfl⟩ marks)).congr ?_
    constructor
    · rintro (⟨⟨⟩⟩ | hholds)
      exact ⟨start, ⟨inside, rfl⟩, hholds⟩
    · rintro ⟨_, ⟨-, rfl⟩, hholds⟩
      exact .inr hholds
  | exhausted => trivial

end Lookarounds

end Explores

section Loops

variable {length : Nat} {body : Run → Run} {step : Nat → Nat → Prop} {min : Nat}
  {max : Option Nat} {greedy guarded : Bool}

-- Whether a loop can be left at a place, after the rounds that its bounds still allow.
def Leaves (step : Nat → Nat → Prop) (min : Nat) (max : Option Nat) (count start stop : Nat) :
    Prop :=
  ∃ more, min ≤ count + more ∧ (∀ most, max = some most → count + more ≤ most) ∧
    Rounds step more start stop

-- Whether a loop has just finished an optional round that took nothing.
def Stuck (min : Nat) (guarded : Bool) (count : Nat) (began : Option Nat) (place : Nat) : Prop :=
  guarded = true ∧ min < count ∧ began = some place

-- Fuel for all rounds that may follow. Without a bound, each optional round moves on or is the
-- last.
def Enough (length min : Nat) (max : Option Nat) (guarded : Bool) (fuel count : Nat)
    (began : Option Nat) (place : Nat) : Prop :=
  match max with
  | some most => count ≤ most ∧ most < count + fuel
  | none =>
    min - count + (length - place) + 2 ≤ fuel ∨ 0 < fuel ∧ Stuck min guarded count began place

theorem Leaves.round {count start next stop : Nat} (hstep : step start next)
    (h : Leaves step min max (count + 1) next stop) : Leaves step min max count start stop := by
  obtain ⟨more, hmin, hmax, rest⟩ := h
  refine ⟨more + 1, by omega, ?_, next, hstep, rest⟩
  intro most bounded
  have := hmax most bounded
  omega

-- Once its least number of rounds is taken, a loop can be left where it is or takes another round.
-- If it has no bound, rounds that take nothing can be left out.
theorem leaves_iff (step : Nat → Nat → Prop) {count : Nat} (start stop : Nat) (hmin : min ≤ count)
    (hmax : ∀ most, max = some most → count ≤ most) (unbounded : guarded = true → max = none) :
    Leaves step min max count start stop ↔
      (∃ next, step start next ∧ ¬Stuck min guarded (count + 1) (some start) next ∧
        Leaves step min max (count + 1) next stop) ∨ start = stop := by
  constructor
  · rintro ⟨more, -, hmost, path⟩
    induction more with
    | zero => exact .inr path
    | succ more ih =>
      obtain ⟨next, hstep, rest⟩ := path
      by_cases stuck : Stuck min guarded (count + 1) (some start) next
      · obtain ⟨hguarded, -, ⟨⟩⟩ := stuck
        refine ih ?_ rest
        intro most bounded
        rw [unbounded hguarded] at bounded
        cases bounded
      · refine .inl ⟨next, hstep, stuck, more, by omega, ?_, rest⟩
        intro most bounded
        have := hmost most bounded
        omega
  · rintro (⟨next, hstep, -, rest⟩ | rfl)
    · exact rest.round hstep
    · exact ⟨0, hmin, hmax, rfl⟩

theorem leaves_of_lt (step : Nat → Nat → Prop) (max : Option Nat) {count : Nat} (start stop : Nat)
    (hmin : count < min) :
    Leaves step min max count start stop ↔
      ∃ next, step start next ∧ Leaves step min max (count + 1) next stop := by
  constructor
  · rintro ⟨more, hcount, hmost, path⟩
    cases more with
    | zero => exact absurd hcount (Nat.not_le_of_lt hmin)
    | succ more =>
      obtain ⟨next, hstep, rest⟩ := path
      refine ⟨next, hstep, more, by omega, ?_, rest⟩
      intro most bounded
      have := hmost most bounded
      omega
  · rintro ⟨next, hstep, rest⟩
    exact rest.round hstep

theorem leaves_of_full (step : Nat → Nat → Prop) {count : Nat} (start stop : Nat)
    (hmin : min ≤ count) (full : max = some count) :
    Leaves step min max count start stop ↔ start = stop := by
  constructor
  · rintro ⟨more, -, hmost, path⟩
    obtain rfl : more = 0 := by
      have := hmost count full
      omega
    exact path
  · rintro rfl
    refine ⟨0, hmin, ?_, rfl⟩
    intro most bounded
    rw [full] at bounded
    cases bounded
    exact Nat.le_refl count

section Fuel

variable {fuel count start next : Nat} {began : Option Nat}
  (enough : Enough length min max guarded (fuel + 1) count began start)
  (free : ¬Stuck min guarded count began start)
include enough free

-- A round that has to be taken.
theorem Enough.required (required : count < min) (sound : ∀ most, max = some most → min ≤ most)
    (forward : start ≤ next) : Enough length min max guarded fuel (count + 1) began next := by
  cases max with
  | some most =>
    have := sound most rfl
    have := enough.2
    exact ⟨by omega, by omega⟩
  | none =>
    have := enough.resolve_right fun stuck => free stuck.2
    exact .inl (by omega)

-- A round that may be taken: it moves on, or the loop is stuck behind it.
theorem Enough.optional (optional : min ≤ count) (notFull : max ≠ some count)
    (forward : start ≤ next) (inside : next ≤ length)
    (advances : max = none → guarded = false → start < next) :
    Enough length min max guarded fuel (count + 1) (some start) next := by
  cases max with
  | some most =>
    have : count ≠ most := fun same => notFull (congrArg some same.symm)
    have := enough.1
    have := enough.2
    exact ⟨by omega, by omega⟩
  | none =>
    have fuels := enough.resolve_right fun stuck => free stuck.2
    by_cases same : next = start
    · cases guarded with
      | true => exact .inr ⟨by omega, rfl, by omega, congrArg some same.symm⟩
      | false => exact absurd (advances rfl rfl) (by omega)
    · exact .inl (by omega)

end Fuel

-- By induction on the fuel, which is enough for every round that can follow.
theorem settles_rounds (greedy guarded : Bool) (h : Explores true length body step)
    (inside : ∀ start stop, step start stop → start ≤ length → stop ≤ length)
    (forward : ∀ start stop, step start stop → start ≤ stop)
    (advances : max = none → guarded = false → ∀ start stop, step start stop → start < stop)
    (unbounded : guarded = true → max = none) (sound : ∀ most, max = some most → min ≤ most)
    {next : Run} {holds : Nat → Prop} (fuel count : Nat) (began : Option Nat) {start : Nat}
    (hstart : start ≤ length)
    (settles : ∀ stop, Leaves step min max count start stop → Settles next stop (holds stop))
    (enough : Enough length min max guarded fuel count began start) :
    Settles (rounds body min max greedy guarded next fuel count began) start
      (¬Stuck min guarded count began start ∧
        ∃ stop, Leaves step min max count start stop ∧ holds stop) := by
  induction fuel generalizing count began start with
  | zero =>
    cases max with
    | some most =>
      obtain ⟨hcount, hmost⟩ := enough
      omega
    | none =>
      rcases enough with enough | ⟨enough, -⟩ <;> omega
  | succ fuel ih =>
    intro marks returns
    simp only [rounds]
    split
    · next full =>
      have full : max = some count := eq_of_beq full
      have free : ¬Stuck min guarded count began start := by
        rintro ⟨hguarded, -⟩
        rw [unbounded hguarded] at full
        cases full
      have leaves (stop : Nat) := leaves_of_full step start stop (sound count full) full
      refine (settles start ((leaves start).mpr rfl) marks returns).congr ?_
      simp only [leaves, exists_eq_left', free, not_false_eq_true, true_and]
    split
    · next stuck =>
      simp only [Bool.and_eq_true, decide_eq_true_eq, beq_iff_eq] at stuck
      exact fun free => free.1 ⟨stuck.1.1, stuck.1.2, stuck.2⟩
    next notFull notStuck =>
    have notFull : max ≠ some count := fun full => notFull (beq_iff_eq.mpr full)
    have free : ¬Stuck min guarded count began start := by
      rintro ⟨hguarded, hmin, hbegan⟩
      simp [hguarded, hmin, hbegan] at notStuck
    rw [and_iff_right free]
    split
    · next required =>
      have leaves (stop : Nat) := leaves_of_lt step max start stop required
      have settled := h (rounds body min max greedy guarded next fuel (count + 1) began)
        (fun middle => ∃ stop, Leaves step min max (count + 1) middle stop ∧ holds stop)
        start hstart (.inl rfl) <| by
        intro middle hstep
        have unstuck : ¬Stuck min guarded (count + 1) began middle := fun stuck => by
          have := stuck.2.1
          omega
        refine (ih (count + 1) began (inside start middle hstep hstart) ?_ ?_).congr
          (and_iff_right unstuck)
        · exact fun stop hstop => settles stop (hstop.round hstep)
        · exact enough.required free required sound (forward start middle hstep)
      refine (settled marks returns).congr ?_
      simp only [leaves]
      constructor
      · rintro ⟨middle, hstep, stop, hstop, hholds⟩
        exact ⟨stop, ⟨middle, hstep, hstop⟩, hholds⟩
      · rintro ⟨stop, ⟨middle, hstep, hstop⟩, hholds⟩
        exact ⟨middle, hstep, stop, hstop, hholds⟩
    · next optional =>
      have hmin : min ≤ count := Nat.le_of_not_lt optional
      have hmax : ∀ most, max = some most → count ≤ most := by
        rintro most rfl
        exact enough.1
      have leaves (stop : Nat) := leaves_iff step start stop hmin hmax unbounded
      have again := h (rounds body min max greedy guarded next fuel (count + 1) (some start))
        (fun middle => ¬Stuck min guarded (count + 1) (some start) middle ∧
          ∃ stop, Leaves step min max (count + 1) middle stop ∧ holds stop) start hstart
        (.inl rfl) <| by
        intro middle hstep
        refine ih (count + 1) (some start) (inside start middle hstep hstart)
          (fun stop hstop => settles stop (hstop.round hstep)) ?_
        exact enough.optional free hmin notFull (forward start middle hstep)
          (inside start middle hstep hstart)
          (fun bounded unguarded => advances bounded unguarded start middle hstep)
      have away := settles start ((leaves start).mpr (.inr rfl))
      have either :
          (∃ middle, step start middle ∧ ¬Stuck min guarded (count + 1) (some start) middle ∧
            ∃ stop, Leaves step min max (count + 1) middle stop ∧ holds stop) ∨ holds start ↔
          ∃ stop, Leaves step min max count start stop ∧ holds stop := by
        simp only [leaves]
        constructor
        · rintro (⟨middle, hstep, unstuck, stop, hstop, hholds⟩ | hholds)
          · exact ⟨stop, .inl ⟨middle, hstep, unstuck, hstop⟩, hholds⟩
          · exact ⟨start, .inr rfl, hholds⟩
        · rintro ⟨stop, ⟨middle, hstep, unstuck, hstop⟩ | rfl, hholds⟩
          · exact .inl ⟨middle, hstep, unstuck, stop, hstop, hholds⟩
          · exact .inr hholds
      cases greedy with
      | true => exact ((again marks returns).orElse (away marks)).congr either
      | false =>
        exact ((away marks returns).orElse (again marks)).congr (or_comm.trans either)

-- A loop of at most one round keeps alternatives only as far as what it repeats does.
theorem Explores.optional {strict : Bool} (greedy : Bool) (h : Explores strict length body step) :
    Explores strict length
      (fun next => rounds body 0 (some 1) greedy false next 2 0 none)
      (Leaves step 0 (some 1) 0) := by
  intro next holds start hstart same settles marks returns
  have leaves (stop : Nat) :
      Leaves step 0 (some 1) 0 start stop ↔ step start stop ∨ start = stop := by
    have unguarded : false = true → some 1 = none := nofun
    rw [leaves_iff step start stop (Nat.le_refl 0) (by rintro _ ⟨⟩; exact Nat.zero_le 1) unguarded]
    simp only [leaves_of_full step _ _ (Nat.zero_le 1), Stuck, Bool.false_eq_true, false_and,
      not_false_eq_true, true_and, exists_eq_right]
  have again := h next holds start hstart
    (same.imp_right fun same stop other hstop hother =>
      same stop other ((leaves stop).mpr (.inl hstop)) ((leaves other).mpr (.inl hother)))
    (fun stop hstop => settles stop ((leaves stop).mpr (.inl hstop)))
  have away := settles start ((leaves start).mpr (.inr rfl))
  have either : (∃ stop, step start stop ∧ holds stop) ∨ holds start ↔
      ∃ stop, Leaves step 0 (some 1) 0 start stop ∧ holds stop := by
    simp only [leaves, or_and_right, exists_or, exists_eq_left']
  cases greedy with
  | true => exact ((again marks returns).orElse (away marks)).congr either
  | false => exact ((away marks returns).orElse (again marks)).congr (or_comm.trans either)

end Loops

end Vetting.Pattern.Machine
