import Vetting.Proofs.Pattern.ClassReading

namespace Vetting.Pattern

namespace EcmaScript

-- What was read before an atom, as far as the engine may read a dash there in its own way.
inductive Before where
  -- Nothing but dashes.
  | opening
  -- A shorthand, behind which a dash is escaped.
  | shorthand
  -- A character that a dash joined to a shorthand.
  | joined
  | other
deriving DecidableEq

-- Whether both read alike what a dash joins.
def spanAlike (before : Before) (last : Bool) : Kind → Kind → Bool
  | .single, .single => true
  -- The engine reads a difference, or a range up to the first character of a shorthand.
  | .single, _ => false
  -- Only an escaped dash begins a range.
  | .dash, .single => before = .shorthand
  -- Away from the opening, two dashes are a difference.
  | .dash, _ => before = .opening
  -- The second dash is not escaped and must not begin anything.
  | .several, .dash => last
  | .several, _ => true

def Before.afterSpan (before : Before) : Kind → Kind → Before
  | _, .several => .shorthand
  | .several, _ => .joined
  | .dash, .dash => before
  | _, _ => .other

-- Whether both read an atom alike that is not joined to the next.
def oneAlike (before : Before) (a : Kind) (rest : List ClassAtom) : Bool :=
  match a, rest with
  | .dash, [] => true
  | .dash, [.dash] => before = .opening || before = .shorthand
  | .dash, _ => before ≠ .joined
  | _, _ => true

def Before.afterOne : Kind → Before
  | .several => .shorthand
  | _ => .other

-- Whether both read all dashes of a body alike.
def dashesAlike : Before → List ClassAtom → Bool
  | before, a :: .dash :: b :: rest =>
    spanAlike before rest.isEmpty a.kind b.kind &&
      dashesAlike (before.afterSpan a.kind b.kind) rest
  | before, a :: rest => oneAlike before a.kind rest && dashesAlike (.afterOne a.kind) rest
  | _, [] => true

theorem dashesAlike_cons {rest : List ClassAtom} (free : ∀ b others, rest ≠ .dash :: b :: others)
    (before : Before) (a : ClassAtom) :
    dashesAlike before (a :: rest) =
      (oneAlike before a.kind rest && dashesAlike (.afterOne a.kind) rest) := by
  rw [dashesAlike]
  exact free

-- Behind a character that a dash joined to a shorthand, a dash is read alike only if it ends the
-- class.
theorem eq_nil_of_joined {rest : List ClassAtom}
    (alike : dashesAlike .joined (.dash :: rest) = true) : rest = [] := by
  rw [dashesAlike.eq_def] at alike
  split at alike
  · next before a b others same =>
    cases same
    have apart : spanAlike .joined others.isEmpty ClassAtom.dash.kind b.kind = false := by
      cases b.kind <;> rfl
    rw [apart] at alike
    cases alike
  · next before a others notJoined same =>
    cases same
    cases rest with
    | nil => rfl
    | cons b others =>
      have apart : oneAlike .joined .dash (b :: others) = false := by
        unfold oneAlike
        split <;> simp_all
      rw [ClassAtom.kind, apart] at alike
      cases alike
  · cases ‹_ = []›

theorem Before.afterSpan_eq {before : Before} {last : Bool} {a b : Kind}
    (started : before ≠ .opening) (alike : spanAlike before last a b = true) :
    before.afterSpan a b ≠ .opening ∧ (before.afterSpan a b == .shorthand) = (b == .several) := by
  cases a <;> cases b <;> simp_all [Before.afterSpan, spanAlike]

theorem Before.afterOne_eq (a : Kind) :
    Before.afterOne a ≠ .opening ∧ (Before.afterOne a == .shorthand) = (a == .several) := by
  cases a <;> decide

end EcmaScript

namespace Class

open EcmaScript

-- The atoms of a rest that does not begin with a dash begin with no raw dash either.
theorem bodyTokens_cons (behind : Bool) {rest : List ClassAtom}
    (h : behind = true ∨ ∀ others, rest ≠ .dash :: others) :
    ∃ token tokens, bodyTokens behind rest ++ [.raw ']'] = token :: tokens ∧ token ≠ .raw '-' := by
  cases rest with
  | nil => exact ⟨.raw ']', [], rfl, by decide⟩
  | cons a rest =>
    obtain ⟨token, tokens, htokens, -, hdash, -⟩ := atomTokens_eq_cons behind a
    refine ⟨token, tokens ++ bodyTokens (a.kind == .several) rest ++ [.raw ']'], ?_, fun same => ?_⟩
    · rw [bodyTokens, htokens, List.cons_append, List.cons_append]
    · obtain ⟨rfl, rfl⟩ := hdash same
      exact h.elim nofun fun apart => apart rest rfl

theorem alone_bodyTokens (behind : Bool) {rest : List ClassAtom}
    (h : behind = true ∨ ∀ others, rest ≠ .dash :: others) :
    Alone (bodyTokens behind rest ++ [.raw ']']) := by
  obtain ⟨token, tokens, htokens, hdash⟩ := bodyTokens_cons behind h
  rw [htokens]
  exact alone_cons hdash tokens

-- A rest that begins with a dash leaves a character alone only if the dash is the last atom.
theorem alone_rest {rest : List ClassAtom} (h : ∀ b others, rest ≠ .dash :: b :: others) :
    Alone (bodyTokens false rest ++ [.raw ']']) := by
  by_cases dashed : ∃ others, rest = .dash :: others
  · obtain ⟨others, rfl⟩ := dashed
    cases others with
    | nil => exact alone_last []
    | cons b others => exact absurd rfl (h b others)
  · exact alone_bodyTokens false (.inr fun others same => dashed ⟨others, same⟩)

theorem alone_atomTokens {a : ClassAtom} (h : a.kind ≠ .dash) (tail : List Token) :
    Alone (atomTokens false a ++ tail) := by
  obtain ⟨token, tokens, htokens, -, hdash, -⟩ := atomTokens_eq_cons false a
  rw [htokens]
  refine alone_cons (fun same => h ?_) _
  rw [(hdash same).2, ClassAtom.kind]

theorem char?_of_several {a : ClassAtom} (h : a.kind = .several) : a.char? = none := by
  cases a with
  | shorthand s negated => rfl
  | _ => cases h

-- Next to a shorthand, a dash and both its sides are members.
theorem spanMem_of_several {a b : ClassAtom} (h : a.kind = .several ∨ b.kind = .several)
    (c : Char) : spanMem a b c = (a.mem c || c == '-' || b.mem c) := by
  rcases h with h | h
  · rw [spanMem, char?_of_several h]
  · rw [spanMem, char?_of_several h]
    cases a.char? <;> rfl

theorem members_of_several {a : ClassAtom} (several : a.kind = .several) (behind : Bool)
    {tail : List Token} (alone : Alone tail) :
    ∃ sets, Members (atomTokens behind a) sets tail ∧ ∀ c, sets.any (·.mem c) = a.mem c := by
  cases a with
  | shorthand s negated =>
    exact ⟨_, members_shorthand behind s negated alone, mem_shorthandSets s negated⟩
  | _ => cases several

theorem members_of_single {a : ClassAtom} (single : a.kind = .single) (known : a ≠ .capitalB)
    (behind : Bool) {tail : List Token} (alone : Alone tail) :
    ∃ sets, Members (atomTokens behind a) sets tail ∧ ∀ c, sets.any (·.mem c) = a.mem c := by
  obtain ⟨token, c, tokens, plain, -, set, -, mem⟩ := atomTokens_of_single single known
  refine ⟨[token.toSet], ?_, fun d => ?_⟩
  · rw [tokens]
    exact members_alone plain alone
  · simp [set, mem, CharSet.mem]

theorem eq_dash {a : ClassAtom} (h : a.kind = .dash) : a = .dash := by
  cases a with
  | dash => rfl
  | _ => cases h

theorem mem_dash (c : Char) : (CharSet.single '-').mem c = ClassAtom.dash.mem c := by
  simp [ClassAtom.mem, ClassAtom.char?, CharSet.mem, BEq.comm (a := c)]

-- The two ends of a range, of which the first may be a dash that is escaped.
theorem members_ends {a b : ClassAtom} {behind : Bool} (tail : List Token)
    (knownA : a ≠ .capitalB) (knownB : b ≠ .capitalB)
    (first : a.kind = .single ∨ a.kind = .dash ∧ behind = true) (last : b.kind = .single)
    (ordered : ∀ c d, a.char? = some c → b.char? = some d → c ≤ d) :
    ∃ sets, Members (atomTokens behind a ++ (.raw '-' :: atomTokens false b)) sets tail ∧
      ∀ c, sets.any (·.mem c) = spanMem a b c := by
  have start : ∃ token c, atomTokens behind a = [token] ∧ Plain token ∧ token.char? = some c ∧
      a.char? = some c := by
    rcases first with single | ⟨dash, rfl⟩
    · obtain ⟨token, c, tokens, plain, char, -, named, -⟩ := atomTokens_of_single single knownA
      exact ⟨token, c, tokens behind, plain, char, named⟩
    · rw [eq_dash dash]
      exact ⟨.literal '-', '-', rfl, plain_literal '-', rfl, rfl⟩
  obtain ⟨token, c, tokens, plain, char, named⟩ := start
  obtain ⟨token', d, tokens', plain', char', -, named', -⟩ := atomTokens_of_single last knownB
  rw [tokens, tokens']
  refine ⟨_, members_range plain plain' char char' (ordered c d named named') tail, fun e => ?_⟩
  simp [spanMem, named, named', CharSet.mem]

-- Behind a shorthand, a dash is escaped and what follows it is a member of its own.
theorem members_behind {b : ClassAtom} {rest : List ClassAtom} (known : b ≠ .capitalB)
    (last : b.kind = .dash → rest = [])
    (joined : b.kind = .single → Alone (bodyTokens false rest ++ [.raw ']'])) :
    ∃ sets, Members (atomTokens true .dash ++ atomTokens false b) sets
        (bodyTokens (b.kind == .several) rest ++ [.raw ']']) ∧
      ∀ c, sets.any (·.mem c) = (c == '-' || b.mem c) := by
  have dash {tail : List Token} {sets : List CharSet} (h : Members (atomTokens false b) sets tail)
      (alone : Alone (atomTokens false b ++ tail)) (mem : ∀ c, sets.any (·.mem c) = b.mem c) :
      ∃ sets, Members (atomTokens true .dash ++ atomTokens false b) sets tail ∧
        ∀ c, sets.any (·.mem c) = (c == '-' || b.mem c) :=
    ⟨_, h.prepend (members_alone (plain_literal '-') alone), fun c => by
      simp [mem, Token.toSet, CharSet.mem]⟩
  cases hb : b.kind with
  | single =>
    obtain ⟨sets, h, mem⟩ := members_of_single hb known false (joined hb)
    exact dash h (alone_atomTokens (by rw [hb]; decide) _) mem
  | dash =>
    rw [last hb]
    obtain rfl := eq_dash hb
    exact dash (members_dash (by decide) []) (alone_last []) fun c => by
      rw [List.any_cons, List.any_nil, Bool.or_false, mem_dash]
  | several =>
    have behind : Alone (bodyTokens true rest ++ [.raw ']']) := alone_bodyTokens true (.inl rfl)
    obtain ⟨sets, h, mem⟩ := members_of_several hb false behind
    exact dash h (alone_atomTokens (by rw [hb]; decide) _) mem

-- What a dash joins is read as ECMAScript says, in front of a rest that is read from the state that
-- the joined atoms leave.
theorem members_span {before : Before} {a b : ClassAtom} {rest : List ClassAtom}
    (started : before ≠ .opening) (knownA : a ≠ .capitalB) (knownB : b ≠ .capitalB)
    (ordered : ∀ c d, a.char? = some c → b.char? = some d → c ≤ d)
    (alike : spanAlike before rest.isEmpty a.kind b.kind = true)
    (joined : before.afterSpan a.kind b.kind = .joined →
      Alone (bodyTokens false rest ++ [.raw ']'])) :
    ∃ sets, Members (atomTokens (before == .shorthand) a ++
        (atomTokens (a.kind == .several) .dash ++ atomTokens false b)) sets
        (bodyTokens (b.kind == .several) rest ++ [.raw ']']) ∧
      ∀ c, sets.any (·.mem c) = spanMem a b c := by
  cases ha : a.kind with
  | single =>
    cases hb : b.kind with
    | single => exact members_ends _ knownA knownB (.inl ha) hb ordered
    | dash => simp [ha, hb, spanAlike] at alike
    | several => simp [ha, hb, spanAlike] at alike
  | dash =>
    cases hb : b.kind with
    | single =>
      rw [ha, hb] at alike
      obtain rfl : before = .shorthand := of_decide_eq_true alike
      exact members_ends _ knownA knownB (.inr ⟨ha, rfl⟩) hb ordered
    | dash =>
      rw [ha, hb] at alike
      exact absurd (of_decide_eq_true alike) started
    | several =>
      rw [ha, hb] at alike
      exact absurd (of_decide_eq_true alike) started
  | several =>
    have last : b.kind = .dash → rest = [] := by
      intro hb
      rw [ha, hb] at alike
      exact List.isEmpty_iff.mp alike
    have single : b.kind = .single → Alone (bodyTokens false rest ++ [.raw ']']) := by
      intro hb
      exact joined (by rw [ha, hb]; rfl)
    obtain ⟨setsB, hB, memB⟩ := members_behind knownB last single
    obtain ⟨setsA, hA, memA⟩ :=
      members_of_several ha (before == .shorthand) ((plain_literal '-').alone _)
    refine ⟨_, hB.prepend hA, fun c => ?_⟩
    rw [List.any_append, memA, memB, spanMem_of_several (.inl ha), Bool.or_assoc]

-- An atom that is joined to no other.
theorem members_one {before : Before} {a : ClassAtom} {rest : List ClassAtom}
    (started : before ≠ .opening) (known : a ≠ .capitalB)
    (free : ∀ b others, rest ≠ .dash :: b :: others) (alike : oneAlike before a.kind rest = true) :
    ∃ sets, Members (atomTokens (before == .shorthand) a) sets
        (bodyTokens (a.kind == .several) rest ++ [.raw ']']) ∧
      ∀ c, sets.any (·.mem c) = a.mem c := by
  cases ha : a.kind with
  | single => exact members_of_single ha known _ (alone_rest free)
  | several => exact members_of_several ha _ (alone_bodyTokens true (.inl rfl))
  | dash =>
    obtain rfl := eq_dash ha
    have mem (c : Char) : [CharSet.single '-'].any (·.mem c) = ClassAtom.dash.mem c := by
      rw [List.any_cons, List.any_nil, Bool.or_false, mem_dash]
    by_cases behind : before = .shorthand
    · subst behind
      exact ⟨_, members_alone (plain_literal '-') (alone_rest free), mem⟩
    · have apart : ∀ others, rest ≠ .dash :: others := by
        rintro others rfl
        cases others with
        | nil => cases before <;> simp_all [oneAlike, ClassAtom.kind]
        | cons b others => exact free b others rfl
      obtain ⟨token, tokens, htokens, hdash⟩ := bodyTokens_cons false (.inr apart)
      rw [beq_false_of_ne behind]
      refine ⟨_, ?_, mem⟩
      exact (congrArg (Members _ _) htokens).mpr (members_dash hdash tokens)

-- Once something has been read, the atoms of a body are read as ECMAScript says.
theorem members_body {before : Before} {body : List ClassAtom} (started : before ≠ .opening)
    (known : ∀ a ∈ body, a ≠ .capitalB) (ordered : inOrder body = true)
    (alike : dashesAlike before body = true) :
    ∃ sets, Members (bodyTokens (before == .shorthand) body) sets [.raw ']'] ∧
      ∀ c, sets.any (·.mem c) = bodyMem body c := by
  induction before, body using dashesAlike.induct with
  | case1 before a b rest ih =>
    rw [dashesAlike, Bool.and_eq_true] at alike
    obtain ⟨alike, later⟩ := alike
    obtain ⟨started', behind⟩ := Before.afterSpan_eq started alike
    rw [inOrder, Bool.and_eq_true] at ordered
    obtain ⟨sets', h', mem'⟩ := ih started' (fun c hc => known c (by simp [hc])) ordered.2 later
    have joined (h : before.afterSpan a.kind b.kind = .joined) :
        Alone (bodyTokens false rest ++ [.raw ']']) := by
      refine alone_rest fun c others same => ?_
      rw [h, same] at later
      cases eq_nil_of_joined later
    have inRange (c d : Char) (hc : a.char? = some c) (hd : b.char? = some d) : c ≤ d := by
      have h := ordered.1
      rw [hc, hd] at h
      exact of_decide_eq_true h
    obtain ⟨sets, h, mem⟩ := members_span started (known a (by simp)) (known b (by simp)) inRange
      alike joined
    rw [behind] at h'
    refine ⟨sets ++ sets', ?_, fun c => ?_⟩
    · have := h'.prepend h
      rw [List.append_assoc, List.append_assoc] at this
      exact this
    · rw [List.any_append, mem, mem', bodyMem]
  | case2 before a rest free ih =>
    rw [dashesAlike_cons free, Bool.and_eq_true] at alike
    rw [inOrder_cons free] at ordered
    obtain ⟨alike, later⟩ := alike
    obtain ⟨started', behind⟩ := Before.afterOne_eq a.kind
    obtain ⟨sets', h', mem'⟩ := ih started' (fun c hc => known c (.tail a hc)) ordered later
    obtain ⟨sets, h, mem⟩ := members_one started (known a (.head rest)) free alike
    rw [behind] at h'
    refine ⟨sets ++ sets', h'.prepend h, fun c => ?_⟩
    rw [List.any_append, mem, mem', bodyMem_cons free]
  | case3 before => exact ⟨[], .nil _, fun _ => rfl⟩

end Class

end Vetting.Pattern
