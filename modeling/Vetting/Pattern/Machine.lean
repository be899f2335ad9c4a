import Vetting.Pattern.Moves
import Vetting.Pattern.Plan

namespace Vetting.Pattern.Machine

-- How often a search may return to an alternative.
def backtrackLimit : Nat := 1000000

-- A place in the text, and the starts and ends of groups as `(slot, place)`, the last first. Group
-- `n` has the slots `2 n` and `2 n + 1`.
structure Spot where
  place : Nat
  marks : List (Nat × Nat)

namespace Spot

def mark (spot : Spot) (slot : Nat) : Spot :=
  { spot with marks := (slot, spot.place) :: spot.marks }

-- Where the last match of a group begins and ends.
def group? (spot : Spot) (index : Nat) : Option (Nat × Nat) := do
  return (← spot.marks.lookup (2 * index), ← spot.marks.lookup (2 * index + 1))

end Spot

-- How a run ends, with the number of returns so far.
inductive Outcome where
  | found (spot : Spot) (returns : Nat)
  | failed (returns : Nat)
  | exhausted

-- What follows: a run from a spot, after a number of returns.
abbrev Run := Spot → Nat → Outcome

-- The second run if the first one fails, unless there were too many returns.
def Outcome.orElse (first : Outcome) (second : Nat → Outcome) : Outcome :=
  match first with
  | failed returns => if returns < backtrackLimit then second (returns + 1) else exhausted
  | outcome => outcome

-- The rounds of a loop after the first `count`. The place where the last optional round began is
-- kept, since a guarded loop does not accept a round that took nothing.
def rounds (body : Run → Run) (min : Nat) (max : Option Nat) (greedy guarded : Bool) (next : Run) :
    Nat → Nat → Option Nat → Run
  | 0, _, _, _, returns => .failed returns
  | fuel + 1, count, began, spot, returns =>
    if max == some count then next spot returns
    else if guarded && min < count && began == some spot.place then .failed returns
    else if count < min then
      body (rounds body min max greedy guarded next fuel (count + 1) began) spot returns
    else
      let onward := rounds body min max greedy guarded next fuel (count + 1) (some spot.place)
      let again := body onward spot
      if greedy then (again returns).orElse (next spot)
      else (next spot returns).orElse again

-- More rounds than a loop over the text can have: unless it is bounded, every round that is not
-- required takes a character.
def roundLimit (length : Nat) (min : Nat) : Option Nat → Nat
  | some max => max + 1
  | none => min + length + 2

-- The text between two places equals the text at the spot.
def sameText (text : Array Char) (start stop place : Nat) : Bool :=
  start ≤ stop && place + (stop - start) ≤ text.size &&
    (List.range (stop - start)).all fun i => text[start + i]? == text[place + i]?

-- Runs a plan from a spot, and then what follows. When that fails, the next alternative is tried;
-- each such return is counted, and a search that returns too often is given up.
def run (text : Array Char) : Plan Moves → Run → Run
  | .direct part, next, spot, returns =>
    match part.ends spot.place with
    | stop :: _ => next { spot with place := stop } returns
    | [] => .failed returns
  | .seq a b, next, spot, returns => run text a (run text b next) spot returns
  | .alt a b, next, spot, returns =>
    (run text a next spot returns).orElse (run text b next spot)
  | .capture index a, next, spot, returns =>
    run text a (fun spot => next (spot.mark (2 * index + 1))) (spot.mark (2 * index)) returns
  | .loop a min max greedy guarded, next, spot, returns =>
    let limit := roundLimit text.size min max
    rounds (run text a) min max greedy guarded next limit 0 none spot returns
  | .look back a, next, spot, returns =>
    if spot.place < back then .failed returns
    else
      run text a (fun inner => next { inner with place := spot.place })
        { spot with place := spot.place - back } returns
  | .refuse back a, next, spot, returns =>
    let inside :=
      if spot.place < back then .failed returns
      else run text a .found { spot with place := spot.place - back } returns
    match inside with
    | .found _ returns => .failed returns
    | .failed returns => (Outcome.failed returns).orElse (next spot)
    | .exhausted => .exhausted
  | .atomic a, next, spot, returns =>
    match run text a .found spot returns with
    | .found spot returns => next spot returns
    | outcome => outcome
  | .backreference index, next, spot, returns =>
    match spot.group? index with
    | some (start, stop) =>
      if sameText text start stop spot.place then
        next { spot with place := spot.place + (stop - start) } returns
      else .failed returns
    | none => .failed returns

-- Tries one start after the other; `left` places follow the first one.
def searchFrom (text : Array Char) (plan : Plan Moves) : Nat → Nat → Nat → Outcome
  | 0, place, returns =>
    (run text plan .found ⟨place, [(0, place)]⟩ returns).orElse .failed
  | left + 1, place, returns =>
    (run text plan .found ⟨place, [(0, place)]⟩ returns).orElse
      (searchFrom text plan left (place + 1))

def search (text : Array Char) (plan : Plan Moves) : Outcome := searchFrom text plan text.size 0 0

end Vetting.Pattern.Machine
