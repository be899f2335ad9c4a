import Vetting.Pattern.Class
import Vetting.Pattern.Syntax

namespace Vetting.Pattern

-- Which parts of a tree are run with backtracking and which are handed to the linear engine, where
-- no place to come back to is kept.
inductive Plan (α : Type) where
  -- A part for the linear engine, of which only the first end is kept.
  | direct (part : α)
  | seq (a b : Plan α)
  | alt (a b : Plan α)
  | capture (index : Nat) (a : Plan α)
  -- A `guarded` loop gives up a round that took no characters.
  | loop (a : Plan α) (min : Nat) (max : Option Nat) (greedy guarded : Bool)
  -- The part must match from `back` characters before the place, which is then gone back to.
  | look (back : Nat) (a : Plan α)
  -- The part must not match from there.
  | refuse (back : Nat) (a : Plan α)
  -- Only the first way in which the part matches is kept.
  | atomic (a : Plan α)
  | backreference (index : Nat)
deriving Inhabited

namespace Plan

variable {α β : Type}

def map (f : α → β) : Plan α → Plan β
  | direct part => direct (f part)
  | seq a b => seq (a.map f) (b.map f)
  | alt a b => alt (a.map f) (b.map f)
  | capture index a => capture index (a.map f)
  | loop a min max greedy guarded => loop (a.map f) min max greedy guarded
  | look back a => look back (a.map f)
  | refuse back a => refuse back (a.map f)
  | atomic a => atomic (a.map f)
  | backreference index => backreference index

end Plan

namespace Syntax

-- How a part is planned.
inductive Planning where
  -- As a whole. Unless it is `strict`, nothing after the part can fail, so its first match will do.
  | whole (strict : Bool)
  -- As the remaining items of a sequence; `leading` as long as all items so far had a fixed length.
  | items (strict leading : Bool)
  -- As the remaining branches of an alternation.
  | branches (strict : Bool)
  -- As the remaining branches of a lookbehind, each of a fixed length of its own.
  | behind (negative : Bool)
deriving DecidableEq

namespace Planning

-- Whether a part is left to the linear engine. At either end of a sequence that goes on, this needs
-- a fixed length.
def isDirect (planning : Planning) (referenced : List Nat) (a : Syntax) : Bool :=
  !a.needsBacktracking referenced &&
    match planning with
    | whole strict => !strict
    | items strict _ => a.isFixedLength || !strict
    | branches strict => !strict && !a.isAlt
    | behind _ => false

-- Whether the alternatives inside a part have to be kept.
def strict : Planning → Bool
  | whole strict | branches strict => strict
  | items _ _ => true
  | behind _ => false

-- Whether only items of fixed length came before in the sequence.
def leading : Planning → Bool
  | items _ leading => leading
  | _ => true

def strictItems : Planning → Bool
  | items strict _ => strict
  | planning => planning.strict

end Planning

abbrev Planned := Except SyntaxFault (Plan Syntax)

def directly (a : Syntax) : Planned :=
  if a.hasSoundCounts then .ok (.direct a) else .error .badCount

def lookAt (negative : Bool) (back : Nat) (a : Plan Syntax) : Plan Syntax :=
  if negative then .refuse back a else .look back a

def lookFixed (negative : Bool) (a : Syntax) (planned : Planned) : Planned :=
  if a.isFixedLength then return lookAt negative a.minLength (← planned)
  else .error .lookbehindLength

-- The plan of a tree, in which the groups in `referenced` may be referred back to.
def plan (referenced : List Nat) (planning : Planning) (a : Syntax) : Planned :=
  if planning.isDirect referenced a then directly a
  else
    match planning, a with
    | .behind negative, .scope a => plan referenced (.behind negative) a
    | .behind negative, .alt a b => do
      let first ← lookFixed negative a (plan referenced (.whole false) a)
      let others ←
        if b.isAlt then plan referenced (.behind negative) b
        else lookFixed negative b (plan referenced (.whole false) b)
      return if negative then .seq first others else .alt first others
    | _, .empty | _, .char _ | _, .assertion _ => directly a
    | planning, .seq a b => do
      let leading := planning.leading && a.isFixedLength && !a.needsBacktracking referenced
      let first ← if leading then directly a else plan referenced (.whole true) a
      return .seq first (← plan referenced (.items planning.strictItems leading) b)
    | planning, .alt a b => do
      return .alt (← plan referenced (.whole planning.strict) a)
        (← plan referenced (.branches planning.strict) b)
    | planning, .scope a => plan referenced (.whole planning.strict) a
    | planning, .capture index a => do
      let inner ← plan referenced (.whole planning.strict) a
      return if referenced.contains index then .capture index inner else inner
    | planning, .repetition a min max greedy => do
      let strict := planning.strict || !(min == 0 && max == some 1)
      let guarded := max.isNone && a.minLength == 0
      return .loop (← plan referenced (.whole strict) a) min max greedy guarded
    | _, .look false negative a => do
      return lookAt negative 0 (← plan referenced (.whole false) a)
    | _, .look true negative a =>
      if !a.isFixedLength && a.unscoped.isAlt then plan referenced (.behind negative) a
      else lookFixed negative a (plan referenced (.whole false) a)
    | _, .atomic a => do return .atomic (← plan referenced (.whole false) a)
    | _, .backreference index => return .backreference index

end Syntax

end Vetting.Pattern
