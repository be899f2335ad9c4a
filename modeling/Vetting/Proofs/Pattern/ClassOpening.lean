import Vetting.Proofs.Pattern.ClassDashes

namespace Vetting.Pattern.Class

open EcmaScript

-- Whether some tokens, at the opening of a class, add some sets to it. Dashes are read before the
-- members behind them.
def Opening (tokens : List Token) (sets : List CharSet) : Prop :=
  ∃ dashed dashes later members,
    (∀ level, leadingDashes level (tokens ++ [.raw ']']) =
      (dashed, dashes.foldl Level.add level, later ++ [.raw ']'])) ∧
    (dashed = false → later = tokens) ∧ sets = dashes ++ members ∧ Members later members [.raw ']']

theorem Opening.dash {tokens : List Token} {sets : List CharSet} (h : Opening tokens sets) :
    Opening (.raw '-' :: tokens) (.single '-' :: sets) := by
  obtain ⟨dashed, dashes, later, members, leading, -, rfl, h⟩ := h
  refine ⟨true, .single '-' :: dashes, later, members, fun level => ?_, nofun, rfl, h⟩
  rw [List.cons_append, leadingDashes, leading]
  rfl

theorem Members.opening {tokens : List Token} {sets : List CharSet}
    (h : Members tokens sets [.raw ']'])
    (first : ∃ token others, tokens ++ [.raw ']'] = token :: others ∧ token ≠ .raw '-') :
    Opening tokens sets := by
  obtain ⟨token, others, htokens, hdash⟩ := first
  refine ⟨false, [], tokens, sets, fun level => ?_, fun _ => rfl, rfl, h⟩
  rw [htokens, leadingDashes]
  · rfl
  · exact fun rest same => hdash (List.cons.inj same).1

-- Unless it negates the class, a caret is no first token, and a closing bracket is none either.
theorem openLevel_eq {negated dashed : Bool} {token : Token} {tokens rest : List Token}
    {level : Level} (caret : negated = false → token ≠ .raw '^')
    (leading : leadingDashes ⟨negated, none, .empty⟩ (token :: tokens) = (dashed, level, rest))
    (bracket : dashed = false → ∀ others, rest ≠ .raw ']' :: others) :
    openLevel ((if negated then [.raw '^'] else []) ++ token :: tokens) = (level, rest) := by
  cases negated with
  | true =>
    simp only [openLevel, if_true, List.cons_append, List.nil_append, leading]
    split
    · exact absurd rfl (bracket rfl _)
    · rfl
  | false =>
    have first := caret rfl
    simp only [openLevel, Bool.false_eq_true, if_false, List.nil_append, List.cons.injEq, first,
      false_and, imp_self, implies_true, leading]
    split
    · exact absurd rfl (bracket rfl _)
    · rfl

theorem read_opening {negated : Bool} {token : Token} {tokens : List Token} {sets : List CharSet}
    (h : Opening (token :: tokens) sets) (bracket : token ≠ .raw ']')
    (caret : negated = false → token ≠ .raw '^') :
    ∃ set, read false ((if negated then [.raw '^'] else []) ++ (token :: tokens ++ [.raw ']'])) =
        .ok (set, []) ∧ ∀ c, set.mem c = (sets.any (·.mem c) != negated) := by
  obtain ⟨dashed, dashes, later, members, leading, undashed, rfl, steps, hsteps, h⟩ := h
  have opened :
      openLevel ((if negated then [.raw '^'] else []) ++ (token :: tokens ++ [.raw ']'])) =
        (dashes.foldl Level.add ⟨negated, none, .empty⟩, later ++ [.raw ']']) := by
    refine openLevel_eq caret (leading _) fun same others closed => bracket ?_
    rw [undashed same] at closed
    exact (List.cons.inj closed).1
  have fuel : (later ++ [Token.raw ']']).length + 1 = later.length - steps + 2 + steps := by
    rw [List.length_append, List.length_singleton]
    omega
  rw [read, opened]
  simp only [fuel]
  rw [h, readLevels, ← List.foldl_append, foldl_add]
  refine ⟨(CharSet.unionAll (dashes ++ members)).negatedIf negated, rfl, fun c => ?_⟩
  rw [CharSet.mem_negatedIf, CharSet.mem_unionAll]

-- Only to a dash does it matter that nothing stands before it.
theorem dashesAlike_opening {a : ClassAtom} (h : a.kind ≠ .dash) (rest : List ClassAtom) :
    dashesAlike .opening (a :: rest) = dashesAlike .other (a :: rest) := by
  by_cases joins : ∃ b others, rest = .dash :: b :: others
  · obtain ⟨b, others, rfl⟩ := joins
    rw [dashesAlike, dashesAlike]
    cases ha : a.kind with
    | dash => exact absurd ha h
    | single => cases b.kind <;> rfl
    | several => cases b.kind <;> rfl
  · have free : ∀ b others, rest ≠ .dash :: b :: others := fun b others same =>
      joins ⟨b, others, same⟩
    rw [dashesAlike_cons free, dashesAlike_cons free]
    cases ha : a.kind with
    | dash => exact absurd ha h
    | single => rfl
    | several => rfl

-- A rest that does not begin with a dash.
theorem opening_of_apart {body : List ClassAtom} (known : ∀ a ∈ body, a ≠ .capitalB)
    (ordered : inOrder body = true) (alike : dashesAlike .other body = true)
    (apart : ∀ rest, body ≠ .dash :: rest) :
    ∃ sets, Opening (bodyTokens false body) sets ∧ ∀ c, sets.any (·.mem c) = bodyMem body c := by
  have started : Before.other ≠ .opening := by decide
  obtain ⟨sets, h, mem⟩ := members_body started known ordered alike
  exact ⟨sets, h.opening (bodyTokens_cons false (.inr apart)), mem⟩

theorem spanMem_dash (c : Char) : spanMem .dash .dash c = ClassAtom.dash.mem c := by
  have same : '-' ≤ c ∧ c ≤ '-' ↔ '-' = c :=
    ⟨fun h => Char.le_antisymm h.1 h.2, fun h => h ▸ ⟨Char.le_refl _, Char.le_refl _⟩⟩
  rw [Bool.eq_iff_iff]
  simp [spanMem, ClassAtom.mem, ClassAtom.char?, same]

-- A shorthand that a leading dash is joined to is read like one that is not joined.
theorem opening_of_several {a : ClassAtom} {rest : List ClassAtom} (several : a.kind = .several)
    (known : ∀ b ∈ rest, b ≠ .capitalB) (ordered : inOrder rest = true)
    (alike : dashesAlike .shorthand rest = true) :
    ∃ sets, Opening (bodyTokens false (a :: rest)) sets ∧
      ∀ c, sets.any (·.mem c) = (a.mem c || bodyMem rest c) := by
  have started : Before.shorthand ≠ .opening := by decide
  obtain ⟨sets', h', mem'⟩ := members_body started known ordered alike
  obtain ⟨sets, h, mem⟩ := members_of_several several false (alone_bodyTokens true (.inl rfl))
  have apart (others : List ClassAtom) : a :: rest ≠ .dash :: others := by
    intro same
    cases same
    cases several
  have first := bodyTokens_cons false (.inr apart)
  rw [bodyTokens, several] at first ⊢
  refine ⟨sets ++ sets', (h'.prepend h).opening first, fun c => ?_⟩
  rw [List.any_append, mem, mem']

-- A leading dash that is joined to nothing.
theorem opening_behind_dash {rest : List ClassAtom} (known : ∀ a ∈ rest, a ≠ .capitalB)
    (ordered : inOrder rest = true) (alike : dashesAlike .other rest = true)
    (free : ∀ b others, rest ≠ .dash :: b :: others) :
    ∃ sets, Opening (bodyTokens false rest) sets ∧ ∀ c, sets.any (·.mem c) = bodyMem rest c := by
  by_cases dashed : rest = [.dash]
  · subst dashed
    have last : Opening [] [] := (Members.nil _).opening ⟨_, _, rfl, by decide⟩
    exact ⟨_, last.dash, fun c => by simp [mem_dash, bodyMem]⟩
  · refine opening_of_apart known ordered alike fun others same => ?_
    cases others with
    | nil => exact dashed same
    | cons b others => exact free b others same

-- At the opening, dashes are joined to nothing but further dashes and shorthands.
theorem opening_body {body : List ClassAtom} (known : ∀ a ∈ body, a ≠ .capitalB)
    (ordered : inOrder body = true) (alike : dashesAlike .opening body = true) :
    ∃ sets, Opening (bodyTokens false body) sets ∧ ∀ c, sets.any (·.mem c) = bodyMem body c := by
  generalize hbefore : Before.opening = before at alike
  induction before, body using dashesAlike.induct with
  | case1 before a b rest ih =>
    subst hbefore
    by_cases ha : a.kind = .dash
    · obtain rfl := eq_dash ha
      rw [dashesAlike, Bool.and_eq_true] at alike
      obtain ⟨alike, later⟩ := alike
      rw [inOrder, Bool.and_eq_true] at ordered
      have others (c : ClassAtom) (hc : c ∈ rest) : c ≠ .capitalB := known c (by simp [hc])
      cases hb : b.kind with
      | single =>
        rw [hb] at alike
        cases alike
      | dash =>
        obtain rfl := eq_dash hb
        obtain ⟨sets, h, mem⟩ := ih others ordered.2 rfl later
        refine ⟨_, h.dash.dash.dash, fun c => ?_⟩
        simp only [List.any_cons, mem, bodyMem, mem_dash, spanMem_dash, ← Bool.or_assoc,
          Bool.or_self]
      | several =>
        rw [hb] at later
        obtain ⟨sets, h, mem⟩ := opening_of_several hb others ordered.2 later
        refine ⟨_, h.dash.dash, fun c => ?_⟩
        rw [List.any_cons, List.any_cons, mem, bodyMem, spanMem_of_several (.inr hb), ← mem_dash]
        simp only [CharSet.mem, Bool.or_assoc]
    · rw [dashesAlike_opening ha] at alike
      exact opening_of_apart known ordered alike fun rest same => ha (by cases same; rfl)
  | case2 before a rest free ih =>
    subst hbefore
    by_cases ha : a.kind = .dash
    · obtain rfl := eq_dash ha
      rw [dashesAlike_cons free, Bool.and_eq_true] at alike
      rw [inOrder_cons free] at ordered
      have others (b : ClassAtom) (hb : b ∈ rest) : b ≠ .capitalB := known b (.tail _ hb)
      obtain ⟨sets, h, mem⟩ := opening_behind_dash others ordered alike.2 free
      refine ⟨_, h.dash, fun c => ?_⟩
      rw [List.any_cons, mem, mem_dash, bodyMem_cons free]
    · rw [dashesAlike_opening ha] at alike
      exact opening_of_apart known ordered alike fun rest same => ha (by cases same; rfl)
  | case3 before =>
    refine opening_of_apart known rfl rfl fun rest same => ?_
    cases same

theorem read_body {negated : Bool} {body : List ClassAtom} (valid : IsClass negated body)
    (nonempty : body ≠ []) (known : ∀ a ∈ body, a ≠ .capitalB)
    (alike : dashesAlike .opening body = true) :
    ∃ set,
      read false ((if negated then [.raw '^'] else []) ++ (bodyTokens false body ++ [.raw ']'])) =
        .ok (set, []) ∧ ∀ c, set.mem c = classMem negated body c := by
  obtain ⟨sets, h, mem⟩ := opening_body known valid.ordered alike
  cases body with
  | nil => exact absurd rfl nonempty
  | cons a rest =>
    obtain ⟨token, others, tokens, bracket, -, caret⟩ := atomTokens_eq_cons false a
    rw [bodyTokens, tokens, List.cons_append] at h ⊢
    have negating (positive : negated = false) : token ≠ .raw '^' := by
      intro same
      obtain ⟨plain, rfl⟩ := caret same
      cases valid.caret positive
    obtain ⟨set, hread, hset⟩ := read_opening h bracket negating
    refine ⟨set, hread, fun c => ?_⟩
    rw [hset, mem, classMem]

end Vetting.Pattern.Class
