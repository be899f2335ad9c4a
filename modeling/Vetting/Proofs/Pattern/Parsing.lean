import Vetting.Pattern.Parser
import Vetting.Proofs.Outcome
import Vetting.Proofs.Pattern.EcmaScript

namespace Vetting.Pattern

namespace Parser

-- A class, between its brackets, with the set that it is read as.
structure ClassText where
  body : List Char
  set : CharSet
  reads : ∀ rest, readClass false (body ++ ']' :: rest) = .ok (.char set, rest)

def ClassText.text (t : ClassText) : List Char := '[' :: t.body ++ [']']

-- What the translation of a pattern is written from.
inductive Piece where
  | char (c : Char) (plain : c ∉ EcmaScript.syntaxCharacters)
  | class (t : ClassText)
  | textStart (escaped : Bool)
  | textEnd (escaped : Bool)
  | look (behind negative : Bool) (t : ClassText)

namespace Piece

-- How a lookaround begins, after its parenthesis.
def lookKind : Bool → Bool → List Char
  | false, false => ['?', '=']
  | false, true => ['?', '!']
  | true, false => ['?', '<', '=']
  | true, true => ['?', '<', '!']

def text : Piece → List Char
  | char c _ => [c]
  | .class t => t.text
  | textStart escaped => if escaped then ['\\', 'A'] else ['^']
  | textEnd escaped => if escaped then ['\\', 'z'] else ['$']
  | look behind negative t => '(' :: lookKind behind negative ++ t.text ++ [')']

def tree : Piece → Syntax
  | char c _ => .char (.single c)
  | .class t => .char t.set
  | textStart _ => .assertion .textStart
  | textEnd _ => .assertion .textEnd
  | look behind negative t => .look behind negative (.char t.set)

theorem tree_isPlain (p : Piece) : p.tree.IsPlain := by
  cases p <;> simp [tree, Syntax.IsPlain, Syntax.isFixedLength]

end Piece

end Parser

-- The repetition that a quantifier makes of a group.
def Quantifier.wrap : Quantifier → Syntax → Syntax
  | once, a => a
  | star, a => .repetition a 0 none true
  | plus, a => .repetition a 1 none true
  | optional, a => .repetition a 0 (some 1) true

-- An item of a sequence, unless it is empty.
def Syntax.kept (a : Syntax) : List Syntax := if a.isEmpty then [] else [a]

-- The items of a sequence, and the branches of a disjunction.
def Regex.trees {level : Level} : Regex Parser.Piece level → List Syntax
  | atom p => p.tree.kept
  | group body q => (q.wrap (.scope (.ofBranches body.trees))).kept
  | empty => []
  | more first rest => first.trees ++ rest.trees
  | only branch => [.ofItems branch.trees]
  | either branch rest => .ofItems branch.trees :: rest.trees

namespace Parser

-- Text at which no quantifier and no comment begins.
def Clear (cs : List Char) : Prop := readQuantifier? cs = none ∧ skipAllComments cs = .ok cs

theorem skipAllComments_cons {c : Char} {rest : List Char} (h : c ≠ '(') :
    skipAllComments (c :: rest) = .ok (c :: rest) := by
  unfold skipAllComments
  rw [List.length_cons, skipComments]
  rintro fuel rest - same
  exact h (List.cons.inj same).1

theorem readQuantifier?_cons {c : Char} {rest : List Char}
    (h : c ∉ EcmaScript.syntaxCharacters) : readQuantifier? (c :: rest) = none := by
  have other : ∀ d ∈ EcmaScript.syntaxCharacters, ∀ tail, c :: rest ≠ d :: tail :=
    fun d hd tail same => h ((List.cons.inj same).1 ▸ hd)
  unfold readQuantifier?
  split
  · next tail same => exact absurd same (other '?' (by decide) tail)
  · next tail same => exact absurd same (other '*' (by decide) tail)
  · next tail same => exact absurd same (other '+' (by decide) tail)
  · next tail same => exact absurd same (other '\x7b' (by decide) tail)
  · rfl

theorem clear_nil : Clear [] := ⟨rfl, rfl⟩

theorem clear_piece (p : Piece) (rest : List Char) : Clear (p.text ++ rest) := by
  cases p with
  | char c plain =>
    exact ⟨readQuantifier?_cons plain, skipAllComments_cons fun same => plain (same ▸ by decide)⟩
  | «class» t => exact ⟨rfl, rfl⟩
  | textStart escaped => cases escaped <;> exact ⟨rfl, rfl⟩
  | textEnd escaped => cases escaped <;> exact ⟨rfl, rfl⟩
  | look behind negative t => cases behind <;> cases negative <;> exact ⟨rfl, rfl⟩

theorem clear_text {level : Level} (r : Regex Piece level) {rest : List Char} (h : Clear rest) :
    Clear (r.text Piece.text ++ rest) := by
  induction r generalizing rest with
  | atom p => exact clear_piece p rest
  | group body q => exact ⟨rfl, rfl⟩
  | empty => exact h
  | more first others ihf iho =>
    rw [Regex.text, List.append_assoc]
    exact ihf (iho h)
  | only branch ih => exact ih h
  | either branch others ihb =>
    rw [Regex.text, List.append_assoc]
    exact ihb ⟨rfl, rfl⟩

section Settling

variable (state : State)

theorem settle_pending : state.settle.pending = none := by
  unfold State.settle
  split
  · assumption
  · rfl

theorem settle_of_none {state : State} (h : state.pending = none) : state.settle = state := by
  rw [State.settle, h]

theorem settle_settle : state.settle.settle = state.settle :=
  settle_of_none (settle_pending state)

theorem settle_modes : state.settle.modes = state.modes := by
  unfold State.settle
  split <;> rfl

-- A settled state with more items in its current branch, and one with more finished branches.
def State.extend (items : List Syntax) : State :=
  { state with
    group := { state.group with pieces := items.reverse ++ state.group.pieces } }

def State.finish (branches : List Syntax) : State :=
  { state with
    group := { state.group with
      branches := branches.reverse ++ state.group.branches, pieces := [] } }

theorem settle_push (a : Syntax) : (state.push a).settle = state.settle.extend a.kept := by
  rw [State.push, State.settle, State.extend, Syntax.kept]
  cases h : a.isEmpty <;> simp [h, settle_pending]

theorem pushDone_eq (a : Syntax) : state.pushDone a = state.settle.extend a.kept := by
  rw [State.pushDone, settle_push, State.extend, settle_pending]

-- Taking the pending atom away again.
theorem withoutPending {state : State} (settled : state.pending = none) (a : Syntax) :
    { state.push a with pending := none } = state := by
  rw [State.push, settle_of_none settled, ← settled]

theorem extend_extend (items others : List Syntax) :
    (state.extend items).extend others = state.extend (items ++ others) := by
  simp [State.extend]

-- A branch of given items ends a state that had none.
theorem endBranch_extend (state : State) (settled : state.pending = none)
    (fresh : state.group.pieces = []) (items : List Syntax) :
    (state.extend items).endBranch = state.finish [.ofItems items] := by
  have settled : (state.extend items).pending = none := settled
  rw [State.endBranch, settle_of_none settled]
  simp [State.extend, State.finish, fresh]

theorem endBranch_settle : state.settle.endBranch = state.endBranch := by
  simp only [State.endBranch, settle_settle]

theorem openGroup_settle (kind : GroupKind) (restore : Option Modes) :
    state.settle.openGroup kind restore = state.openGroup kind restore := by
  simp only [State.openGroup, settle_settle]

end Settling

-- A run over text at which no quantifier begins reads an atom first.
theorem run_cons {fuel : Nat} {state final : State} {c : Char} {rest : List Char}
    (clear : Clear (c :: rest)) (h : run (fuel + 1) state (c :: rest) = .ok final) :
    ∃ next later, readAtom state c rest = .ok (next, later) ∧ run fuel next later = .ok final := by
  rw [run, clear.2] at h
  obtain ⟨pair, hstep, h⟩ := Outcome.bind_eq_ok (x := step state c rest)
    (f := fun pair => run fuel pair.1 pair.2) |>.mp h
  refine ⟨pair.1, pair.2, ?_, h⟩
  rw [← hstep, step, clear.1]
  cases state.pending <;> rfl

-- Whether a text leads from one state to another, up to an atom that is still pending, whatever
-- clear text follows. Nothing is said about a run that fails.
def Reads (before : State) (text : List Char) (after : State) : Prop :=
  ∀ state, state.settle = before → ∀ fuel rest final, Clear rest →
    text.length + rest.length < fuel → run fuel state (text ++ rest) = .ok final →
      ∃ fuel' state', state'.settle = after ∧ rest.length < fuel' ∧
        run fuel' state' rest = .ok final

theorem Reads.nil {before : State} : Reads before [] before := by
  intro state hstate fuel rest final _ hfuel h
  exact ⟨fuel, state, hstate, by simpa using hfuel, h⟩

theorem Reads.append {first second third : State} {text text' : List Char}
    (h : Reads first text second) (h' : Reads second text' third)
    (clear : ∀ rest, Clear rest → Clear (text' ++ rest)) : Reads first (text ++ text') third := by
  intro state hstate fuel rest final hrest hfuel hrun
  rw [List.append_assoc] at hrun
  rw [List.length_append] at hfuel
  obtain ⟨fuel', state', hstate', hfuel', hrun'⟩ :=
    h state hstate fuel (text' ++ rest) final (clear rest hrest)
      (by rw [List.length_append]; omega) hrun
  rw [List.length_append] at hfuel'
  exact h' state' hstate' fuel' rest final hrest hfuel' hrun'

-- A text that is read in a single step.
theorem reads_step {before after : State} {c : Char} {text : List Char}
    (clear : ∀ rest, Clear (c :: (text ++ rest)))
    (h : ∀ state rest next later, state.settle = before →
      readAtom state c (text ++ rest) = .ok (next, later) → next.settle = after ∧ later = rest) :
    Reads before (c :: text) after := by
  intro state hstate fuel rest final _ hfuel hrun
  obtain ⟨fuel, rfl⟩ : ∃ fewer, fuel = fewer + 1 := ⟨fuel - 1, by omega⟩
  obtain ⟨next, later, hatom, hlater⟩ := run_cons (clear rest) hrun
  obtain ⟨hnext, rfl⟩ := h state rest next later hstate hatom
  rw [List.length_cons] at hfuel
  exact ⟨fuel, next, hnext, by omega, hlater⟩

theorem reads_atom {before : State} {c : Char} (text : List Char) {a : Syntax}
    (clear : ∀ rest, Clear (c :: (text ++ rest)))
    (h : ∀ state rest, state.modes = before.modes →
      readAtom state c (text ++ rest) = .ok (state.push a, rest)) :
    Reads before (c :: text) (before.extend a.kept) := by
  refine reads_step clear fun state rest next later hstate hatom => ?_
  rw [h state rest (by rw [← hstate, settle_modes])] at hatom
  cases hatom
  rw [settle_push, hstate]
  exact ⟨rfl, rfl⟩

theorem readAtom_plain {state : State} {c : Char} (plain : c ∉ EcmaScript.syntaxCharacters)
    (rest : List Char) : readAtom state c rest = .ok (state.pushChar c, rest) := by
  have other : ∀ d ∈ EcmaScript.syntaxCharacters, c ≠ d := fun d hd same => plain (same ▸ hd)
  unfold readAtom
  split
  · exact absurd rfl (other '.' (by decide))
  · exact absurd rfl (other '^' (by decide))
  · exact absurd rfl (other '$' (by decide))
  · exact absurd rfl (other '(' (by decide))
  · exact absurd rfl (other ')' (by decide))
  · exact absurd rfl (other '|' (by decide))
  · exact absurd rfl (other '\\' (by decide))
  · exact absurd rfl (other '[' (by decide))
  · exact absurd rfl (other '?' (by decide))
  · exact absurd rfl (other '*' (by decide))
  · exact absurd rfl (other '+' (by decide))
  · rfl

theorem reads_plain {before : State} (modes : before.modes = {}) (c : Char)
    (plain : c ∉ EcmaScript.syntaxCharacters) :
    Reads before [c] (before.extend (Syntax.char (.single c)).kept) := by
  refine reads_atom _ (fun rest => clear_piece (.char c plain) rest) fun state rest hmodes => ?_
  rw [List.nil_append, readAtom_plain plain, State.pushChar, hmodes, modes]
  rfl

theorem reads_class {before : State} (modes : before.modes = {}) (t : ClassText) :
    Reads before t.text (before.extend (Syntax.char t.set).kept) := by
  refine reads_atom _ (fun rest => ⟨rfl, rfl⟩) fun state rest hmodes => ?_
  have reads : readClass state.modes.ignoreCase (t.body ++ [']'] ++ rest) =
      .ok (.char t.set, rest) := by
    rw [hmodes, modes, List.append_assoc]
    exact t.reads rest
  show (readClass state.modes.ignoreCase (t.body ++ [']'] ++ rest) >>= _) = _
  rw [reads]
  rfl

-- The opening of a group.
theorem reads_open {before : State} (text : List Char) {kind : GroupKind} {restore : Option Modes}
    (clear : ∀ rest, Clear ('(' :: (text ++ rest)))
    (h : ∀ state rest next later, state.modes = before.modes →
      readGroup state (text ++ rest) = .ok (next, later) →
        next = state.openGroup kind restore ∧ later = rest) :
    Reads before ('(' :: text) (before.openGroup kind restore) := by
  refine reads_step clear fun state rest next later hstate hatom => ?_
  obtain ⟨rfl, rfl⟩ := h state rest next later (by rw [← hstate, settle_modes]) hatom
  rw [← openGroup_settle, hstate]
  exact ⟨settle_of_none (settle_pending before), rfl⟩

theorem reads_open_scope (before : State) :
    Reads before "(?:".toList (before.openGroup .scope (some before.modes)) := by
  refine reads_open "?:".toList (fun rest => ⟨rfl, rfl⟩) ?_
  intro state rest next later modes h
  obtain ⟨_, -, h⟩ := Outcome.bind_eq_ok.mp h
  rw [← modes]
  cases h
  exact ⟨by simp only [State.openGroup, settle_modes], rfl⟩

theorem reads_open_look (before : State) (behind negative : Bool) :
    Reads before ('(' :: Piece.lookKind behind negative)
      (before.openGroup (.look behind negative) none) := by
  refine reads_open _ (fun rest => ?_) fun state rest next later _ h => ?_
  · cases behind <;> cases negative <;> exact ⟨rfl, rfl⟩
  · obtain ⟨_, -, h⟩ := Outcome.bind_eq_ok.mp h
    cases behind <;> cases negative <;>
    · cases h
      exact ⟨rfl, rfl⟩

-- The end of a group whose branches are finished and kept.
theorem closeGroup_eq_ok {before state next : State} {kind : GroupKind} {restore : Option Modes}
    {branches : List Syntax} (settled : before.pending = none)
    (inside : state.endBranch = (before.openGroup kind restore).finish branches)
    (modes : restore.getD before.modes = before.modes) (h : state.closeGroup = .ok next) :
    next = before.push (State.GroupKind.wrap kind (.ofBranches branches)) := by
  obtain ⟨⟨ended, a⟩, hcontents, h⟩ := Outcome.bind_eq_ok.mp h
  simp only [State.contents] at hcontents
  split at hcontents
  · cases hcontents
  · cases hcontents
    rw [inside] at h
    have hsettle := settle_of_none settled
    simp only [State.finish, State.openGroup, hsettle, List.append_nil, List.reverse_reverse] at h
    cases h
    simp only [State.push, hsettle, modes]

theorem readQuantifierSuffix_of_clear {rest : List Char} (h : Clear rest) :
    readQuantifierSuffix rest = .ok (false, false, rest) := by
  rw [readQuantifierSuffix, h.2]
  cases rest with
  | nil => rfl
  | cons c tail =>
    have question : c ≠ '?' := by
      rintro rfl
      cases h.1
    have plus : c ≠ '+' := by
      rintro rfl
      cases h.1
    simp [bind, Except.bind, pure, Except.pure, question, plus]

section Groups

variable {before after : State} {kind : GroupKind} {restore : Option Modes} {branches : List Syntax}

theorem run_close (settled : before.pending = none)
    (modes : restore.getD before.modes = before.modes)
    (inside : after.endBranch = (before.openGroup kind restore).finish branches) {state : State}
    (hstate : state.settle = after) {fuel : Nat} {rest : List Char} {final : State}
    (h : run (fuel + 1) state (')' :: rest) = .ok final) :
    run fuel (before.push (State.GroupKind.wrap kind (.ofBranches branches))) rest = .ok final := by
  obtain ⟨next, later, hatom, hlater⟩ := run_cons ⟨rfl, rfl⟩ h
  obtain ⟨closed, hclosed, hatom⟩ := Outcome.bind_eq_ok.mp hatom
  cases hatom
  rw [← hstate, endBranch_settle] at inside
  rwa [← closeGroup_eq_ok settled inside modes hclosed]

theorem reads_close (settled : before.pending = none)
    (modes : restore.getD before.modes = before.modes)
    (inside : after.endBranch = (before.openGroup kind restore).finish branches) :
    Reads after [')'] (before.extend (State.GroupKind.wrap kind (.ofBranches branches)).kept) := by
  intro state hstate fuel rest final _ hfuel hrun
  obtain ⟨fuel, rfl⟩ : ∃ fewer, fuel = fewer + 1 := ⟨fuel - 1, by omega⟩
  refine ⟨fuel, _, ?_, ?_, run_close settled modes inside hstate hrun⟩
  · rw [settle_push, settle_of_none settled]
  · simp only [List.length_singleton] at hfuel
    omega

-- A quantifier behind a group.
theorem run_quantifier (settled : before.pending = none) (modes : before.modes = {}) {a : Syntax}
    {c : Char} {min : Nat} {max : Option Nat} {rest : List Char}
    (quantifier : readQuantifier? (c :: rest) = some (min, max, rest)) (plain : c ≠ '(')
    (clear : Clear rest) {fuel : Nat} {final : State}
    (h : run (fuel + 1) (before.push a) (c :: rest) = .ok final) :
    ∃ state, state.settle = before.extend (Syntax.repetition a min max true).kept ∧
      run fuel state rest = .ok final := by
  rw [run, skipAllComments_cons plain] at h
  obtain ⟨pair, hstep, h⟩ := Outcome.bind_eq_ok (x := step (before.push a) c rest)
    (f := fun pair => run fuel pair.1 pair.2) |>.mp h
  have pending : (before.push a).pending = some a := rfl
  rw [step, pending, quantifier] at hstep
  obtain ⟨suffix, hsuffix, hstep⟩ := Outcome.bind_eq_ok.mp hstep
  rw [readQuantifierSuffix_of_clear clear] at hsuffix
  cases hsuffix
  obtain ⟨repeated, hrepeated, hstep⟩ := Outcome.bind_eq_ok.mp hstep
  cases hstep
  simp only [State.repeatPending] at hrepeated
  split at hrepeated
  · cases hrepeated
    refine ⟨_, ?_, h⟩
    have swap : (before.push a).modes.swapGreed = false := by
      rw [State.push, settle_of_none settled, modes]
    have settledAgain : (before.extend (Syntax.repetition a min max true).kept).pending = none :=
      settled
    rw [swap, pushDone_eq, withoutPending settled, settle_of_none settled]
    exact settle_of_none settledAgain
  · cases hrepeated

theorem reads_group_end (settled : before.pending = none) (modes : before.modes = {})
    (inside : after.endBranch = (before.openGroup .scope (some before.modes)).finish branches)
    (q : Quantifier) :
    Reads after (')' :: q.text) (before.extend (q.wrap (.scope (.ofBranches branches))).kept) := by
  intro state hstate fuel rest final clear hfuel hrun
  simp only [List.length_cons] at hfuel
  obtain ⟨fuel, rfl⟩ : ∃ fewer, fuel = fewer + 1 := ⟨fuel - 1, by omega⟩
  have closed := run_close settled rfl inside hstate hrun
  have quantified {c : Char} {min : Nat} {max : Option Nat}
      (quantifier : readQuantifier? (c :: rest) = some (min, max, rest)) (plain : c ≠ '(')
      (text : q.text = [c]) :
      ∃ fuel' state', state'.settle = before.extend
          (Syntax.repetition (.scope (.ofBranches branches)) min max true).kept ∧
        rest.length < fuel' ∧ run fuel' state' rest = .ok final := by
    rw [text, List.length_singleton] at hfuel
    rw [text] at closed
    obtain ⟨fuel, rfl⟩ : ∃ fewer, fuel = fewer + 1 := ⟨fuel - 1, by omega⟩
    obtain ⟨next, hnext, hlater⟩ := run_quantifier settled modes quantifier plain clear closed
    exact ⟨fuel, next, hnext, by omega, hlater⟩
  cases q with
  | once =>
    refine ⟨fuel, _, ?_, by omega, closed⟩
    rw [settle_push, settle_of_none settled]
    rfl
  | star => exact quantified rfl (by decide) rfl
  | plus => exact quantified rfl (by decide) rfl
  | optional => exact quantified rfl (by decide) rfl

end Groups

theorem reads_piece {before : State} (settled : before.pending = none) (modes : before.modes = {})
    (p : Piece) : Reads before p.text (before.extend p.tree.kept) := by
  cases p with
  | char c plain => exact reads_plain modes c plain
  | «class» t => exact reads_class modes t
  | textStart escaped =>
    cases escaped with
    | false =>
      refine reads_atom _ (fun rest => ⟨rfl, rfl⟩) fun state rest hmodes => ?_
      rw [readAtom, caret, hmodes, modes]
      rfl
    | true => exact reads_atom ['A'] (fun rest => ⟨rfl, rfl⟩) fun state rest _ => rfl
  | textEnd escaped =>
    cases escaped with
    | false =>
      refine reads_atom _ (fun rest => ⟨rfl, rfl⟩) fun state rest hmodes => ?_
      rw [readAtom, dollar, hmodes, modes]
      rfl
    | true => exact reads_atom ['z'] (fun rest => ⟨rfl, rfl⟩) fun state rest _ => rfl
  | look behind negative t =>
    have opened : (before.openGroup (.look behind negative) none).modes = {} := by
      rw [← modes, ← settle_modes before]
      rfl
    have body := (reads_open_look before behind negative).append (reads_class opened t)
      fun rest _ => clear_piece (.class t) rest
    have inside := endBranch_extend (before.openGroup (.look behind negative) none)
      (settle_pending before) rfl [.char t.set]
    exact body.append (reads_close settled rfl inside) fun rest _ => ⟨rfl, rfl⟩

-- How an expression changes the state in which it is read: it adds items to the current branch, or
-- branches to the group, of which the last is not yet ended.
def Absorbs (before : State) (text : List Char) (trees : List Syntax) : Level → Prop
  | .term | .alternative => Reads before text (before.extend trees)
  | .disjunction => before.group.pieces = [] →
    ∃ after, after.endBranch = before.finish trees ∧ Reads before text after

theorem absorbs {level : Level} (r : Regex Piece level) (before : State)
    (settled : before.pending = none) (modes : before.modes = {}) :
    Absorbs before (r.text Piece.text) r.trees level := by
  induction r generalizing before with
  | atom p => exact reads_piece settled modes p
  | group body q ih =>
    have opened : (before.openGroup .scope (some before.modes)).modes = {} := by
      rw [← modes, ← settle_modes before]
      rfl
    obtain ⟨after, inside, hbody⟩ := ih (before.openGroup .scope (some before.modes))
      (settle_pending before) opened rfl
    have hopen := (reads_open_scope before).append hbody fun rest => clear_text body
    exact hopen.append (reads_group_end settled modes inside q) fun rest _ => ⟨rfl, rfl⟩
  | empty => exact Reads.nil
  | more first rest ihf ihr =>
    have h : Reads before _ (before.extend first.trees) := ihf before settled modes
    have h' : Reads (before.extend first.trees) _ _ := ihr (before.extend first.trees) settled modes
    rw [extend_extend] at h'
    exact h.append h' fun tail => clear_text rest
  | only branch ih =>
    intro fresh
    exact ⟨before.extend branch.trees, endBranch_extend before settled fresh _,
      ih before settled modes⟩
  | either branch rest ihb ihr =>
    intro fresh
    have h : Reads before _ (before.extend branch.trees) := ihb before settled modes
    have bar :
        Reads (before.extend branch.trees) ['|'] (before.finish [.ofItems branch.trees]) := by
      refine reads_step (fun rest => ⟨rfl, rfl⟩) fun state rest next later hstate hatom => ?_
      cases hatom
      rw [← endBranch_settle, hstate, endBranch_extend before settled fresh]
      exact ⟨settle_of_none settled, rfl⟩
    obtain ⟨after, hafter, h'⟩ :=
      ihr (before.finish [.ofItems branch.trees]) settled modes rfl
    refine ⟨after, ?_, ?_⟩
    · rw [hafter]
      simp [State.finish, Regex.trees]
    · exact h.append (bar.append h' fun tail => clear_text rest) fun tail _ => ⟨rfl, rfl⟩

-- The tree of a text that is written from pieces.
theorem parse_eq_ok {r : Regex Piece .disjunction} {tree : Syntax}
    (h : parse (r.text Piece.text) = .ok tree) : tree = .ofBranches r.trees := by
  obtain ⟨final, hrun, h⟩ := Outcome.bind_eq_ok.mp h
  obtain ⟨after, hafter, reads⟩ := absorbs r (.start (r.text Piece.text)) rfl rfl rfl
  obtain ⟨fuel, state, hstate, hfuel, hlast⟩ := reads (.start (r.text Piece.text)) rfl
    ((r.text Piece.text).length + 1) [] final clear_nil (by simp) (by rwa [List.append_nil])
  obtain ⟨fuel, rfl⟩ : ∃ fewer, fuel = fewer + 1 := ⟨fuel - 1, by omega⟩
  cases hlast
  split at h
  · cases h
  · obtain ⟨⟨ended, contents⟩, hcontents, h⟩ := Outcome.bind_eq_ok.mp h
    cases h
    simp only [State.contents] at hcontents
    split at hcontents
    · cases hcontents
    · cases hcontents
      rw [← endBranch_settle, hstate, hafter]
      simp [State.finish, State.start]

end Parser

end Vetting.Pattern
