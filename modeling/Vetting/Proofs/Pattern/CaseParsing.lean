import Vetting.Proofs.Pattern.CaseBlind
import Vetting.Proofs.Pattern.Passage

namespace Vetting.Pattern

namespace CharSet

variable {a : CharSet}

-- What is closed under case is blind to it.
theorem isBlind_withCase (a : CharSet) : (a.withCase true).IsBlind := fun c => by
  rw [withCase, if_pos rfl, mem, mem, Text.caseVariants_toLower]

theorem IsBlind.complement (ha : a.IsBlind) : (complement a).IsBlind := fun c => by
  rw [mem, mem, ha]

theorem IsBlind.negatedIf (ha : a.IsBlind) (negated : Bool) : (a.negatedIf negated).IsBlind := by
  cases negated with
  | false => exact ha
  | true => exact ha.complement

theorem isBlind_property {p : Property} (other : ∀ rows, p ≠ .listed rows) :
    (property p).IsBlind := by
  cases p with
  | listed rows => exact absurd rfl (other rows)
  | blank => exact Text.apply_toLower (f := Text.isBlank) (by decide +kernel)
  | digit => exact Text.apply_toLower (f := Text.isDecimalDigit) (by decide +kernel)
  | word => exact Text.apply_toLower (f := Text.isWord) (by decide +kernel)

theorem isBlind_newline : newline.IsBlind := Text.apply_toLower (by decide +kernel)

theorem isBlind_hexDigits : Parser.hexDigits.IsBlind := Text.apply_toLower (by decide +kernel)

end CharSet

namespace Syntax

theorem isBlind_ofItems {items : List Syntax} (h : ∀ a ∈ items, a.IsBlind) :
    (ofItems items).IsBlind :=
  ofItems_of_forall trivial (fun _ _ ha hb => ⟨ha, hb⟩) h

theorem isBlind_ofBranches {branches : List Syntax} (h : ∀ a ∈ branches, a.IsBlind) :
    (ofBranches branches).IsBlind :=
  ofBranches_of_forall trivial (fun _ _ ha hb => ⟨ha, hb⟩) h

end Syntax

namespace Class

-- A token that brings no set which is not blind.
def Token.IsBlind : Token → Prop
  | raw _ | literal _ => True
  | set s => s.IsBlind

theorem leadingDashes_suffix (level : Level) (tokens : List Token) :
    (leadingDashes level tokens).2.2 <:+ tokens := by
  fun_induction leadingDashes level tokens
  case case1 rest _ _ later found ih =>
    rw [found] at ih
    exact ih.trans (List.suffix_cons ..)
  case case2 => exact List.suffix_rfl

theorem openLevel_suffix (tokens : List Token) : (openLevel tokens).2 <:+ tokens := by
  unfold openLevel
  split
  next negated rest opened =>
  have first : rest <:+ tokens := by
    split at opened
    · cases opened
      exact List.suffix_cons ..
    · cases opened
      exact List.suffix_rfl
  have dashes := leadingDashes_suffix ⟨negated, none, .empty⟩ rest
  split
  next dashed level later found =>
  rw [found] at dashes
  split
  · exact ((List.suffix_cons ..).trans dashes).trans first
  · exact dashes.trans first

theorem readMember_suffix {token : Token} {tokens rest : List Token} {s : CharSet}
    (h : readMember token tokens = .ok (s, rest)) : rest <:+ tokens := by
  unfold readMember at h
  split at h
  case h_1 | h_4 => cases h
  case h_2 | h_3 | h_6 =>
    cases h
    exact List.suffix_rfl
  case h_5 =>
    split at h
    · split at h
      · cases h
        exact (List.suffix_cons ..).trans (List.suffix_cons ..)
      · cases h
    · cases h

-- The set of a class is closed under case at last, and what stands behind it was left over.
theorem isBlind_readLevels {fuel : Nat} {level : Level} {outer : List Level}
    {tokens rest : List Token} {s : CharSet}
    (h : readLevels true fuel level outer tokens = .ok (s, rest)) :
    s.IsBlind ∧ rest <:+ tokens := by
  fun_induction readLevels true fuel level outer tokens
  case case1 | case2 => cases h
  case case3 tail _ _ opened ih =>
    obtain ⟨blind, later⟩ := ih h
    have inner := openLevel_suffix tail
    rw [opened] at inner
    exact ⟨blind, (later.trans inner).trans (List.suffix_cons ..)⟩
  case case4 level _ =>
    cases h
    exact ⟨(CharSet.isBlind_withCase _).negatedIf level.negated, List.suffix_cons ..⟩
  case case5 ih =>
    obtain ⟨blind, later⟩ := ih h
    exact ⟨blind, later.trans (List.suffix_cons ..)⟩
  case case6 ih | case7 ih | case8 ih =>
    obtain ⟨blind, later⟩ := ih h
    exact ⟨blind, (later.trans (List.suffix_cons ..)).trans (List.suffix_cons ..)⟩
  case case9 ih =>
    obtain ⟨⟨member, next⟩, read, h⟩ := Outcome.bind_eq_ok.mp h
    obtain ⟨blind, later⟩ := ih member next h
    exact ⟨blind, (later.trans (readMember_suffix read)).trans (List.suffix_cons ..)⟩

theorem isBlind_read {tokens rest : List Token} {s : CharSet}
    (h : read true tokens = .ok (s, rest)) : s.IsBlind ∧ rest <:+ tokens := by
  obtain ⟨blind, later⟩ := isBlind_readLevels h
  exact ⟨blind, later.trans (openLevel_suffix tokens)⟩

end Class

namespace Parser

open Dialect (isForeign)

section Readers

variable {fuel level : Nat} {c : Char} {cs rest : List Char}

theorem isBlind_dot (modes : Modes) : (dot modes).IsBlind := by
  unfold dot
  split
  · exact CharSet.IsBlind.complement fun _ => rfl
  · exact CharSet.isBlind_newline.complement

theorem isBlind_shorthand? {s : CharSet} (h : shorthand? c = some s) : s.IsBlind := by
  unfold shorthand? at h
  split at h
  case h_1 | h_3 | h_5 =>
    cases h
    exact CharSet.isBlind_property nofun
  case h_2 | h_4 | h_6 =>
    cases h
    exact CharSet.IsBlind.complement (CharSet.isBlind_property nofun)
  case h_7 =>
    cases h
    exact CharSet.isBlind_hexDigits
  case h_8 =>
    cases h
    exact CharSet.isBlind_hexDigits.complement
  case h_9 => cases h

theorem isBlind_readProperty {negated : Bool} {s : CharSet}
    (h : readProperty true negated cs = .ok (s, rest)) : s.IsBlind := by
  obtain ⟨⟨name, later⟩, -, h⟩ := Outcome.bind_eq_ok.mp h
  dsimp only at h
  split at h
  · cases h
    exact (CharSet.isBlind_withCase _).negatedIf negated
  · cases h

theorem isBlind_readEscape {s : CharSet} (h : readEscape true c cs = .ok (.set s, rest)) :
    s.IsBlind := by
  unfold readEscape at h
  split at h
  · next known =>
    cases h
    exact isBlind_shorthand? known
  · cases h
  · split at h
    case h_1 | h_2 | h_3 =>
      obtain ⟨_, -, h⟩ := Outcome.bind_eq_ok.mp h
      cases h
    case h_4 | h_5 =>
      obtain ⟨_, read, h⟩ := Outcome.bind_eq_ok.mp h
      cases h
      exact isBlind_readProperty read
    case h_6 => split at h <;> cases h

-- Whatever raw characters a class is given, no set among its tokens tells cases apart.
theorem isBlind_classEscape {tokens : List Class.Token}
    (h : classEscape true cs = .ok (tokens, rest)) : ∀ token ∈ tokens, token.IsBlind := by
  have raw (text : List Char) : ∀ token ∈ text.map Class.Token.raw, token.IsBlind := by
    intro token htoken
    obtain ⟨d, -, rfl⟩ := List.mem_map.mp htoken
    trivial
  have single {token : Class.Token} (blind : token.IsBlind) : ∀ t ∈ [token], t.IsBlind := by
    intro t ht
    rwa [List.mem_singleton.mp ht]
  unfold classEscape at h
  split at h
  · cases h
  · cases h
    exact raw _
  · cases h
    exact raw _
  · split at h
    · cases h
    · split at h
      · cases h
        exact single trivial
      · obtain ⟨⟨e, later⟩, found, h⟩ := Outcome.bind_eq_ok.mp h
        cases e with
        | char d =>
          cases h
          exact single trivial
        | set s =>
          cases h
          exact single (isBlind_readEscape found)

theorem isBlind_classTokens {tokens : List Class.Token}
    (h : classTokens true fuel level cs = .ok (tokens, rest)) :
    ∀ token ∈ tokens, token.IsBlind := by
  have raw {c : Char} {more : List Class.Token} (ih : ∀ token ∈ more, token.IsBlind) :
      ∀ token ∈ Class.Token.raw c :: more, token.IsBlind :=
    List.forall_mem_cons.mpr ⟨trivial, ih⟩
  generalize closed : true = ignoreCase at h
  fun_induction classTokens ignoreCase fuel level cs generalizing tokens with
  | case1 | case2 => cases h
  | case3 fuel level tail ih =>
    subst closed
    obtain ⟨⟨read, next⟩, escaped, h⟩ := Outcome.bind_eq_ok.mp h
    obtain ⟨⟨more, last⟩, found, h⟩ := Outcome.bind_eq_ok.mp h
    cases h
    exact List.forall_mem_append.mpr ⟨isBlind_classEscape escaped, ih _ found⟩
  | case5 =>
    cases h
    exact raw (List.forall_mem_nil _)
  | case4 _ _ _ ih | case6 _ _ _ _ ih | case7 _ _ _ _ _ _ _ ih =>
    obtain ⟨⟨more, last⟩, found, h⟩ := Outcome.bind_eq_ok.mp h
    cases h
    exact raw (ih found)

theorem isBlind_strayItem {token : Class.Token} (blind : token.IsBlind) {a : Syntax}
    (h : strayItem true token = .ok a) : a.IsBlind := by
  unfold strayItem at h
  split at h
  · split at h
    · cases h
      exact CharSet.isBlind_withCase _
    · cases h
  · cases h
    exact CharSet.isBlind_withCase _
  · cases h
    exact blind

theorem isBlind_readClass {a : Syntax} (h : readClass true cs = .ok (a, rest)) : a.IsBlind := by
  obtain ⟨⟨tokens, later⟩, found, h⟩ := Outcome.bind_eq_ok.mp h
  obtain ⟨⟨s, stray⟩, read, h⟩ := Outcome.bind_eq_ok.mp h
  obtain ⟨blind, left⟩ := Class.isBlind_read read
  have opening : ∀ token ∈ (classOpening cs).1, token.IsBlind := by
    unfold classOpening
    split <;> simp [Class.Token.IsBlind]
  have tokens := List.forall_mem_append.mpr ⟨opening, isBlind_classTokens found⟩
  dsimp only at h
  split at h
  · cases h
    exact blind
  · obtain ⟨items, mapped, h⟩ := Outcome.bind_eq_ok.mp h
    cases h
    refine Syntax.isBlind_ofItems (List.forall_mem_cons.mpr ⟨blind, fun a ha => ?_⟩)
    obtain ⟨token, htoken, item⟩ := Outcome.exists_of_mem_mapM mapped ha
    exact isBlind_strayItem (tokens token (left.subset htoken)) item

end Readers

-- A group under way in which all is blind, and after which case is ignored as before.
structure Group.IsBlind (group : Group) : Prop where
  restore : ∀ modes ∈ group.restore, modes.ignoreCase = true
  branches : ∀ a ∈ group.branches, a.IsBlind
  pieces : ∀ a ∈ group.pieces, a.IsBlind

-- A state in which case is ignored, and in which all that was parsed is blind.
structure State.IsBlind (state : State) : Prop where
  modes : state.modes.ignoreCase = true
  group : state.group.IsBlind
  outer : ∀ group ∈ state.outer, group.IsBlind
  pending : ∀ a ∈ state.pending, a.IsBlind

namespace State

variable {state next : State} {a : Syntax}

theorem IsBlind.settle (blind : state.IsBlind) : state.settle.IsBlind := by
  obtain ⟨modes, group, outer, pending⟩ := blind
  unfold State.settle
  split
  · exact ⟨modes, group, outer, pending⟩
  · next a held =>
    refine ⟨modes, ⟨group.restore, group.branches, ?_⟩, outer, by simp⟩
    dsimp only
    split
    · exact group.pieces
    · exact List.forall_mem_cons.mpr ⟨pending a held, group.pieces⟩

theorem IsBlind.push (blind : state.IsBlind) (ha : a.IsBlind) : (state.push a).IsBlind := by
  obtain ⟨modes, group, outer, -⟩ := blind.settle
  exact ⟨modes, group, outer, by simpa [State.push] using ha⟩

theorem IsBlind.pushDone (blind : state.IsBlind) (ha : a.IsBlind) : (state.pushDone a).IsBlind := by
  obtain ⟨modes, group, outer, -⟩ := (blind.push ha).settle
  exact ⟨modes, group, outer, by simp [State.pushDone]⟩

theorem IsBlind.pushChar (blind : state.IsBlind) (c : Char) : (state.pushChar c).IsBlind := by
  refine blind.push ?_
  rw [blind.modes]
  exact CharSet.isBlind_withCase _

theorem IsBlind.endBranch (blind : state.IsBlind) : state.endBranch.IsBlind := by
  obtain ⟨modes, group, outer, pending⟩ := blind.settle
  refine ⟨modes, ⟨group.restore, ?_, by simp [State.endBranch]⟩, outer, pending⟩
  refine List.forall_mem_cons.mpr ⟨?_, group.branches⟩
  exact Syntax.isBlind_ofItems fun a ha => group.pieces a (List.mem_reverse.mp ha)

theorem IsBlind.contents (blind : state.IsBlind) (h : state.contents = .ok (next, a)) :
    next.IsBlind ∧ a.IsBlind := by
  have ended := blind.endBranch
  unfold State.contents at h
  dsimp only at h
  split at h
  · cases h
  · cases h
    refine ⟨ended, Syntax.isBlind_ofBranches fun a ha => ?_⟩
    exact ended.group.branches a (List.mem_reverse.mp ha)

theorem IsBlind.openGroup (blind : state.IsBlind) (kind : GroupKind) (restore : Option Modes)
    (restored : ∀ modes ∈ restore, modes.ignoreCase = true) :
    (state.openGroup kind restore).IsBlind := by
  obtain ⟨modes, group, outer, pending⟩ := blind.settle
  exact ⟨modes, ⟨restored, by simp [State.openGroup], by simp [State.openGroup]⟩,
    List.forall_mem_cons.mpr ⟨group, outer⟩, pending⟩

theorem IsBlind.openCapture (blind : state.IsBlind) (name : Option String) :
    (state.openCapture name).IsBlind := by
  unfold State.openCapture
  refine IsBlind.openGroup ?_ _ none (by simp)
  exact ⟨blind.modes, blind.group, blind.outer, blind.pending⟩

theorem IsBlind.closeGroup (blind : state.IsBlind) (h : state.closeGroup = .ok next) :
    next.IsBlind := by
  obtain ⟨⟨ended, a⟩, contents, h⟩ := Outcome.bind_eq_ok.mp h
  obtain ⟨⟨modes, group, outer, -⟩, ha⟩ := blind.contents contents
  dsimp only at h
  split at h
  · cases h
  · next last others found =>
    cases h
    rw [found] at outer
    obtain ⟨first, outer⟩ := List.forall_mem_cons.mp outer
    refine ⟨?_, first, outer, ?_⟩
    · cases restore : ended.group.restore with
      | none => exact modes
      | some old => exact group.restore old restore
    · have wrapped : (GroupKind.wrap ended.group.kind a).IsBlind := by
        cases ended.group.kind <;> exact ha
      simpa using wrapped

theorem IsBlind.repeatPending (blind : state.IsBlind) (ha : a.IsBlind) {min : Nat}
    {max : Option Nat} {lazy possessive : Bool}
    (h : state.repeatPending a min max lazy possessive = .ok next) : next.IsBlind := by
  unfold State.repeatPending at h
  dsimp only at h
  split at h
  · cases h
    refine IsBlind.pushDone ⟨blind.modes, blind.group, blind.outer, by simp⟩ ?_
    cases possessive <;> exact ha
  · cases h

theorem IsBlind.pushReference (blind : state.IsBlind) {index : Nat}
    (h : state.pushReference index = .ok next) : next.IsBlind := by
  unfold State.pushReference at h
  split at h
  · cases h
    exact blind.push trivial
  · cases h

end State

section Steps

variable {state next : State} {c : Char} {cs rest : List Char}

theorem isBlind_readNumbered (blind : state.IsBlind)
    (h : readNumbered state cs = .ok (next, rest)) : next.IsBlind := by
  unfold readNumbered at h
  split at h
  · split at h
    · obtain ⟨_, pushed, h⟩ := Outcome.bind_eq_ok.mp h
      cases h
      have counted : State.IsBlind { state with numbered := true } :=
        ⟨blind.modes, blind.group, blind.outer, blind.pending⟩
      exact counted.pushReference pushed
    · cases h
  · cases h

theorem isBlind_readNamed (blind : state.IsBlind) (h : readNamed state cs = .ok (next, rest)) :
    next.IsBlind := by
  obtain ⟨⟨name, later⟩, -, h⟩ := Outcome.bind_eq_ok.mp h
  dsimp only at h
  split at h
  · obtain ⟨_, pushed, h⟩ := Outcome.bind_eq_ok.mp h
    cases h
    exact blind.pushReference pushed
  · split at h
    · split at h
      · obtain ⟨_, pushed, h⟩ := Outcome.bind_eq_ok.mp h
        cases h
        exact blind.pushReference pushed
      · cases h
    · cases h

theorem isBlind_readAtomEscape (blind : state.IsBlind)
    (h : readAtomEscape state cs = .ok (next, rest)) : next.IsBlind := by
  unfold readAtomEscape at h
  split at h
  case h_1 => cases h
  case h_2 => exact isBlind_readNamed blind h
  case h_9 =>
    split at h
    · exact isBlind_readNumbered blind h
    · rw [blind.modes] at h
      obtain ⟨⟨e, later⟩, found, h⟩ := Outcome.bind_eq_ok.mp h
      cases e with
      | char d =>
        cases h
        exact blind.pushChar d
      | set s =>
        cases h
        exact blind.push (isBlind_readEscape found)
  all_goals
    cases h
    exact blind.push trivial

theorem not_isForeign {mark : Char} (native : Native 0 ('(' :: '?' :: mark :: cs)) :
    isForeign mark = false := by
  have admitted := ((Bool.and_eq_true ..).mp native).1
  simpa [Dialect.mayPrecede] using admitted

-- Only foreign groups have modes of their own.
theorem readModes_of_native {modes modes' : Modes} {off fresh grouped : Bool}
    (native : Native 0 ('(' :: '?' :: cs))
    (h : readModes modes off fresh cs = .ok (modes', grouped, rest)) : modes' = modes := by
  cases cs with
  | nil => cases h
  | cons mark cs =>
    have native := not_isForeign native
    unfold readModes at h
    split at h
    case h_2 | h_3 =>
      split at h
      · cases h
      · cases h
        rfl
    case h_1 | h_10 => cases h
    all_goals
      next same =>
        cases same
        exact absurd native (by decide)

theorem isBlind_readGroup (blind : state.IsBlind) (native : Native 0 ('(' :: cs))
    (h : readGroup state cs = .ok (next, rest)) : next.IsBlind := by
  have opened : Passes 0 ('(' :: cs) 0 cs := passes_cons 0 (by decide) cs
  obtain ⟨_, -, h⟩ := Outcome.bind_eq_ok.mp h
  obtain ⟨text, skipped, h⟩ := Outcome.bind_eq_ok.mp h
  rw [skipAllComments_of_native (opened.native native)] at skipped
  cases skipped
  split at h
  case h_1 | h_2 | h_3 | h_4 | h_7 =>
    cases h
    exact blind.openGroup _ none (by simp)
  case h_5 | h_6 =>
    obtain ⟨⟨name, later⟩, -, h⟩ := Outcome.bind_eq_ok.mp h
    cases h
    exact blind.openCapture (some name)
  case h_8 =>
    obtain ⟨⟨modes, grouped, later⟩, read, h⟩ := Outcome.bind_eq_ok.mp h
    obtain rfl := readModes_of_native native read
    have inner : (state.openGroup .scope (some state.modes)).IsBlind :=
      blind.openGroup _ _ (by simp [blind.modes])
    have pushed : (state.push .empty).IsBlind := blind.push trivial
    dsimp only at h
    split at h
    · cases h
      exact ⟨blind.modes, inner.group, inner.outer, inner.pending⟩
    · cases h
      exact ⟨blind.modes, pushed.group, pushed.outer, pushed.pending⟩
  case h_9 =>
    cases h
    exact blind.openCapture none

theorem isBlind_readAtom (blind : state.IsBlind) (native : Native 0 (c :: cs))
    (h : readAtom state c cs = .ok (next, rest)) : next.IsBlind := by
  unfold readAtom at h
  split at h
  case h_1 =>
    cases h
    exact blind.push (isBlind_dot state.modes)
  case h_2 | h_3 =>
    cases h
    exact blind.push trivial
  case h_4 => exact isBlind_readGroup blind native h
  case h_5 =>
    obtain ⟨_, closed, h⟩ := Outcome.bind_eq_ok.mp h
    cases h
    exact blind.closeGroup closed
  case h_6 =>
    cases h
    exact blind.endBranch
  case h_7 => exact isBlind_readAtomEscape blind h
  case h_8 =>
    obtain ⟨⟨a, later⟩, read, h⟩ := Outcome.bind_eq_ok.mp h
    cases h
    rw [blind.modes] at read
    exact blind.push (isBlind_readClass read)
  case h_9 | h_10 | h_11 => cases h
  case h_12 =>
    cases h
    exact blind.pushChar c

theorem isBlind_step (blind : state.IsBlind) (native : Native 0 (c :: cs))
    (h : step state c cs = .ok (next, rest)) : next.IsBlind := by
  unfold step at h
  split at h
  · next held _ =>
    obtain ⟨_, -, h⟩ := Outcome.bind_eq_ok.mp h
    obtain ⟨_, repeated, h⟩ := Outcome.bind_eq_ok.mp h
    cases h
    exact blind.repeatPending (blind.pending _ held) repeated
  · exact isBlind_readAtom blind native h

-- All through a native text the state is one in which case is ignored.
theorem isBlind_run {fuel : Nat} (blind : state.IsBlind) (native : Native 0 cs)
    (h : run fuel state cs = .ok next) : next.IsBlind := by
  induction fuel generalizing state cs with
  | zero =>
    cases h
    exact blind
  | succ fuel ih =>
    obtain ⟨-, rfl⟩ | ⟨c, tail, later, rest, rfl, stepped, advanced, h⟩ := run_cases native h
    · exact blind
    · exact ih (isBlind_step blind native stepped) (advanced.passes.native native) h

theorem isBlind_parse {tree : Syntax} (native : Native 0 cs)
    (h : parse (Dialect.mode true ++ cs) = .ok tree) : tree.IsBlind := by
  obtain ⟨fuel, final, last, -, ran, found⟩ := run_of_parse h
  have begun : (State.begun true cs).IsBlind := by
    refine ⟨rfl, ⟨?_, ?_, ?_⟩, ?_, ?_⟩ <;>
      simp [State.begun, State.push, State.settle, State.start, Syntax.IsBlind]
  exact ((isBlind_run begun native ran).contents found).2

end Steps

end Parser

-- Where there is no `(?` at all, there is no foreign group.
theorem not_hasForeignGroup {pattern : List Char} (h : ¬ ['(', '?'] <:+: pattern) :
    ¬ EcmaScript.HasForeignGroup pattern := by
  rintro ⟨before, mark, after, rfl, -, -⟩
  exact h ⟨before, mark :: after, by simp⟩

-- Under flag `i` a pattern does the same on two texts that differ only in the case of ASCII
-- letters, also in giving up its search. Excluded are patterns with a foreign group, which may
-- switch the flag off, and those with a backreference, which is compared exactly.
theorem isMatch_ignoresCase {source : PatternSource} (caseless : 'i' ∈ source.flagText.toList)
    (native : ¬ EcmaScript.HasForeignGroup source.pattern.toList) {pattern : Vetting.Pattern}
    (hcompile : compile source = .ok pattern) (free : pattern.program.refersBack = false)
    {text text' : String} (alike : CaseAlike text.toList text'.toList) :
    pattern.isMatch text = pattern.isMatch text' := by
  unfold compile at hcompile
  split at hcompile
  · cases hcompile
  · next flags accepted =>
    have ignored : flags.ignoreCase = true := by
      rw [Flags.parse_eq_ok accepted]
      exact decide_eq_true caseless
    split at hcompile
    · cases hcompile
    · next program hprogram =>
      cases hcompile
      obtain ⟨tree, htree, hprogram⟩ := Outcome.bind_eq_ok.mp hprogram
      rw [Dialect.toList_spell, ignored] at htree
      have blind := Parser.isBlind_parse (Dialect.native_body flags native) htree
      exact Program.search_congr (Program.isBlind_ofSyntax blind hprogram) free alike

-- A group, a class and a boundary.
theorem isMatch_ignoresCase_boundary :
    ¬ ['(', '?'] <:+: "([p-t]+)[^\\d]\\b".toList ∧ CaseAlike "RusT".toList "rUSt".toList ∧
    ∃ pattern, compile ⟨"([p-t]+)[^\\d]\\b", some "gi"⟩ = .ok pattern ∧
      pattern.program.refersBack = false ∧ pattern.isMatch "RusT" = .ok true ∧
      pattern.isMatch "rUSt" = .ok true := by
  have answers : (fun pattern => (pattern.program.refersBack, pattern.isMatch "RusT")) <$>
      compile ⟨"([p-t]+)[^\\d]\\b", some "gi"⟩ = .ok (false, .ok true) := by decide +kernel
  obtain ⟨pattern, hcompile, found⟩ := Outcome.map_eq_ok.mp answers
  obtain ⟨free, first⟩ := Prod.mk.inj found
  have plain : ¬ ['(', '?'] <:+: "([p-t]+)[^\\d]\\b".toList := by decide
  have alike : CaseAlike "RusT".toList "rUSt".toList := by decide
  have same := isMatch_ignoresCase (by decide) (not_hasForeignGroup plain) hcompile free alike
  exact ⟨plain, alike, pattern, hcompile, free, first, same.symm.trans first⟩

-- A backreference tells one case of a letter from the other.
theorem isMatch_backreference_heedsCase :
    ¬ ['(', '?'] <:+: "(a)\\1".toList ∧ CaseAlike "aa".toList "aA".toList ∧
    ∃ pattern, compile ⟨"(a)\\1", some "i"⟩ = .ok pattern ∧
      pattern.isMatch "aa" = .ok true ∧ pattern.isMatch "aA" = .ok false := by
  have answers : (fun pattern => (pattern.isMatch "aa", pattern.isMatch "aA")) <$>
      compile ⟨"(a)\\1", some "i"⟩ = .ok (.ok true, .ok false) := by decide +kernel
  obtain ⟨pattern, hcompile, found⟩ := Outcome.map_eq_ok.mp answers
  obtain ⟨small, capital⟩ := Prod.mk.inj found
  exact ⟨by decide, by decide, pattern, hcompile, small, capital⟩

end Vetting.Pattern
