import Vetting.Pattern.Syntax

namespace Vetting.Pattern

-- Over one text, a pattern that needs no backtracking is a way of moving sets of places: a set is a
-- bit mask, with a bit for every place from 0 to the length of the text, and a class is the mask of
-- the places in front of its members. A search moves the set of all places at once, so its cost
-- does not depend on how many ways there are to match.
inductive Moves where
  -- Stay, at the places of a mask.
  | stay (mask : Nat)
  -- Move on by one character, from the places of a mask.
  | step (mask : Nat)
  | seq (a b : Moves)
  | alt (a b : Moves)
  -- `room` is more than the number of places.
  | loop (a : Moves) (min : Nat) (max : Option Nat) (greedy : Bool) (room : Nat)
deriving Inhabited

namespace Moves

-- The mask of the characters with a property.
def maskOf (p : Char → Bool) : List Char → Nat
  | [] => 0
  | c :: rest => 2 * maskOf p rest + (p c).toNat

-- The mask of all places from 0 to `length`.
def allPlaces (length : Nat) : Nat := (1 <<< (length + 1)) - 1

-- The places of the first mask that are not in the second.
def without (a b : Nat) : Nat := a ^^^ (a &&& b)

-- The places at which an assertion holds.
def assertionMask (text : List Char) : Assertion → Nat
  | .textStart => 1
  | .textEnd => 1 <<< text.length
  | .lineStart => 1 ||| (maskOf (· == '\n') text <<< 1)
  | .lineEnd => maskOf (· == '\n') text ||| (1 <<< text.length)
  | .wordStart =>
    let word := maskOf Text.isWord text
    without word (word <<< 1)
  | .wordEnd =>
    let word := maskOf Text.isWord text
    without (word <<< 1) word

-- The moves of a tree over a text. Nothing can be done with the parts that need backtracking.
def ofSyntax (text : List Char) : Syntax → Moves
  | .empty => stay (allPlaces text.length)
  | .char s => step (maskOf s.mem text)
  | .assertion a => stay (assertionMask text a)
  | .seq a b => seq (ofSyntax text a) (ofSyntax text b)
  | .alt a b => alt (ofSyntax text a) (ofSyntax text b)
  | .scope a | .capture _ a => ofSyntax text a
  | .repetition a min max greedy => loop (ofSyntax text a) min max greedy (text.length + 2)
  | .look _ _ _ | .atomic _ | .backreference _ => stay 0

-- Applies a move a number of times, or until nothing changes.
def times (move : Nat → Nat) : Nat → Nat → Nat
  | 0, places => places
  | count + 1, places =>
    let next := move places
    if next == places then places else times move count next

-- Adds to `found` what can be reached from `fresh`, its newest places, in at most `count` moves.
def spread (move : Nat → Nat) : Nat → Nat → Nat → Nat
  | 0, found, _ => found
  | count + 1, found, fresh =>
    let new := without (move fresh) found
    if new == 0 then found else spread move count (found ||| new) new

-- The places that can be reached from a set of them.
def reach : Moves → Nat → Nat
  | stay mask, places => places &&& mask
  | step mask, places => (places &&& mask) <<< 1
  | seq a b, places => b.reach (a.reach places)
  | alt a b, places => a.reach places ||| b.reach places
  | loop a min max _ room, places =>
    let start := times a.reach min places
    let count :=
      match max with
      | some max => Nat.min (max - min) room
      | none => room
    spread a.reach count start start

-- Whether the moves lead anywhere from any place of a text.
def anywhere (m : Moves) (length : Nat) : Bool := m.reach (allPlaces length) != 0

-- The elements without those that occurred before; `seen` is a mask.
def distinct (seen : Nat) : List Nat → List Nat
  | [] => []
  | place :: rest =>
    if seen.testBit place then distinct seen rest
    else place :: distinct (seen ||| (1 <<< place)) rest

-- Exactly `count` rounds.
def exactly (ends : Nat → List Nat) : Nat → Nat → List Nat
  | 0, place => [place]
  | count + 1, place => distinct 0 ((ends place).flatMap (exactly ends count))

-- At most `count` more rounds.
def atMost (ends : Nat → List Nat) (greedy : Bool) : Nat → Nat → List Nat
  | 0, place => [place]
  | count + 1, place =>
    let more := (ends place).flatMap (atMost ends greedy count)
    distinct 0 (if greedy then more ++ [place] else place :: more)

-- The places at which rounds have begun, and the places found so far, the last first.
structure Visit where
  begun : Nat
  found : List Nat

-- One or more rounds from a place. A round that ends where it began is not followed by another.
def rounds (ends : Nat → List Nat) (greedy : Bool) : Nat → Visit → Nat → Visit
  | 0, visit, _ => visit
  | fuel + 1, visit, place =>
    if visit.begun.testBit place then visit
    else
      (ends place).foldl (fun visit stop =>
          let again (visit : Visit) :=
            if stop = place then visit else rounds ends greedy fuel visit stop
          let leave (visit : Visit) := { visit with found := stop :: visit.found }
          if greedy then leave (again visit) else again (leave visit))
        { visit with begun := visit.begun ||| (1 <<< place) }

def atLeastOnce (ends : Nat → List Nat) (greedy : Bool) (room place : Nat) : List Nat :=
  distinct 0 (rounds ends greedy room ⟨0, []⟩ place).found.reverse

-- The places that can be reached from one place, those that backtracking finds first at the front.
-- The order matters where only the first one is kept.
def ends : Moves → Nat → List Nat
  | stay mask, place => if mask.testBit place then [place] else []
  | step mask, place => if mask.testBit place then [place + 1] else []
  | seq a b, place => distinct 0 ((a.ends place).flatMap b.ends)
  | alt a b, place => distinct 0 (a.ends place ++ b.ends place)
  | loop a min (some max) greedy _, place =>
    distinct 0 ((exactly a.ends min place).flatMap (atMost a.ends greedy (max - min)))
  | loop a 0 none greedy room, place =>
    let more := atLeastOnce a.ends greedy room place
    distinct 0 (if greedy then more ++ [place] else place :: more)
  | loop a (min + 1) none greedy room, place =>
    distinct 0 ((exactly a.ends min place).flatMap (atLeastOnce a.ends greedy room))

end Moves

end Vetting.Pattern
