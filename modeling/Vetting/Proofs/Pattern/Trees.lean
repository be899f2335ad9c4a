import Vetting.Proofs.Pattern.Parsing

namespace Vetting.Pattern

variable {text : List Char}

theorem Syntax.spans_unscoped (a : Syntax) (start stop : Nat) :
    a.unscoped.Spans text start stop ↔ a.Spans text start stop := by
  induction a with
  | scope a ih => exact ih
  | _ => exact Iff.rfl

theorem Syntax.spans_of_isEmpty {a : Syntax} (h : a.isEmpty = true) (start stop : Nat) :
    a.Spans text start stop ↔ start = stop := by
  rw [← spans_unscoped, eq_of_beq h]
  exact Iff.rfl

theorem Syntax.spans_ofItems_cons (a : Syntax) (items : List Syntax) (start stop : Nat) :
    (ofItems (a :: items)).Spans text start stop ↔
      ∃ next, a.Spans text start next ∧ (ofItems items).Spans text next stop := by
  cases items with
  | nil => simp [ofItems, Spans]
  | cons b items => exact Iff.rfl

theorem Syntax.spans_ofItems_append (items others : List Syntax) (start stop : Nat) :
    (ofItems (items ++ others)).Spans text start stop ↔
      ∃ next, (ofItems items).Spans text start next ∧ (ofItems others).Spans text next stop := by
  induction items generalizing start with
  | nil => simp [ofItems, Spans]
  | cons a items ih =>
    simp only [List.cons_append, spans_ofItems_cons, ih]
    constructor
    · rintro ⟨next, ha, middle, hitems, hothers⟩
      exact ⟨middle, ⟨next, ha, hitems⟩, hothers⟩
    · rintro ⟨middle, ⟨next, ha, hitems⟩, hothers⟩
      exact ⟨next, ha, middle, hitems, hothers⟩

theorem Syntax.spans_kept (a : Syntax) (start stop : Nat) :
    (ofItems a.kept).Spans text start stop ↔ a.Spans text start stop := by
  unfold kept
  split
  · next h => exact (spans_of_isEmpty h start stop).symm
  · exact Iff.rfl

theorem Quantifier.spans_wrap (q : Quantifier) (a : Syntax) (start stop : Nat) :
    (q.wrap a).Spans text start stop ↔ q.Spans (a.Spans text) start stop := by
  cases q with
  | once => exact Iff.rfl
  | star => simp [wrap, Spans, Syntax.Spans]
  | plus =>
    simp only [wrap, Spans, Syntax.Spans]
    constructor
    · rintro ⟨count, hcount, -, rounds⟩
      obtain ⟨more, rfl⟩ := Nat.exists_eq_add_of_le' hcount
      exact ⟨more, rounds⟩
    · rintro ⟨more, rounds⟩
      exact ⟨more + 1, Nat.le_add_left .., by simp, rounds⟩
  | optional =>
    simp only [wrap, Spans, Syntax.Spans]
    constructor
    · rintro ⟨count, -, hcount, rounds⟩
      obtain rfl | rfl := Nat.le_one_iff_eq_zero_or_eq_one.mp (hcount 1 rfl)
      · exact .inl rounds
      · exact .inr (rounds_one.mp rounds)
    · rintro (rfl | once)
      · exact ⟨0, Nat.le_refl 0, by simp, rfl⟩
      · exact ⟨1, Nat.zero_le 1, by simp, rounds_one.mpr once⟩

-- The parts of an expression put together as a tree.
def Syntax.assemble : Level → List Syntax → Syntax
  | .term, items | .alternative, items => ofItems items
  | .disjunction, branches => ofBranches branches

theorem Regex.trees_ne_nil (r : Regex Parser.Piece .disjunction) : r.trees ≠ [] := by
  cases r <;> exact nofun

-- The tree of an expression has the spans of the expression.
theorem Regex.spans_trees (text : List Char) {level : Level} (r : Regex Parser.Piece level)
    (start stop : Nat) :
    (Syntax.assemble level r.trees).Spans text start stop ↔
      r.Spans (fun p => p.tree.Spans text) start stop := by
  induction r generalizing start stop with
  | atom p => exact Syntax.spans_kept p.tree start stop
  | group body q ih =>
    have same : (Syntax.scope (.ofBranches body.trees)).Spans text =
        body.Spans fun p => p.tree.Spans text :=
      funext fun start => funext fun stop => propext (ih start stop)
    refine (Syntax.spans_kept _ start stop).trans ?_
    rw [Quantifier.spans_wrap, same]
    exact Iff.rfl
  | empty => exact Iff.rfl
  | more first rest ihf ihr =>
    refine (Syntax.spans_ofItems_append ..).trans (exists_congr fun next => ?_)
    exact and_congr (ihf start next) (ihr next stop)
  | only branch ih => exact ih start stop
  | either branch rest ihb ihr =>
    have step :
        (Syntax.ofBranches (Syntax.ofItems branch.trees :: rest.trees)).Spans text start stop ↔
        (Syntax.ofItems branch.trees).Spans text start stop ∨
          (Syntax.ofBranches rest.trees).Spans text start stop := by
      cases h : rest.trees with
      | nil => exact absurd h rest.trees_ne_nil
      | cons b branches => exact Iff.rfl
    exact step.trans (or_congr (ihb start stop) (ihr start stop))

-- A property of the empty tree that sequences keep passes from the items to the whole of them, and
-- one that alternatives keep from the branches.
theorem Syntax.ofItems_of_forall {P : Syntax → Prop} (nothing : P empty)
    (both : ∀ a b, P a → P b → P (seq a b)) {items : List Syntax} (h : ∀ a ∈ items, P a) :
    P (ofItems items) := by
  induction items with
  | nil => exact nothing
  | cons a items ih =>
    obtain ⟨first, others⟩ := List.forall_mem_cons.mp h
    cases items with
    | nil => exact first
    | cons b items => exact both _ _ first (ih others)

theorem Syntax.ofBranches_of_forall {P : Syntax → Prop} (nothing : P empty)
    (both : ∀ a b, P a → P b → P (alt a b)) {branches : List Syntax} (h : ∀ a ∈ branches, P a) :
    P (ofBranches branches) := by
  induction branches with
  | nil => exact nothing
  | cons a branches ih =>
    obtain ⟨first, others⟩ := List.forall_mem_cons.mp h
    cases branches with
    | nil => exact first
    | cons b branches => exact both _ _ first (ih others)

theorem Syntax.isPlain_ofItems {items : List Syntax} (h : ∀ a ∈ items, a.IsPlain) :
    (ofItems items).IsPlain :=
  ofItems_of_forall trivial (fun _ _ ha hb => ⟨ha, hb⟩) h

theorem Syntax.isPlain_ofBranches {branches : List Syntax} (h : ∀ a ∈ branches, a.IsPlain) :
    (ofBranches branches).IsPlain :=
  ofBranches_of_forall trivial (fun _ _ ha hb => ⟨ha, hb⟩) h

theorem Syntax.isPlain_of_mem_kept {a b : Syntax} (h : a.IsPlain) (member : b ∈ a.kept) :
    b.IsPlain := by
  unfold kept at member
  split at member
  · exact (List.not_mem_nil member).elim
  · rwa [List.mem_singleton.mp member]

theorem Quantifier.isPlain_wrap (q : Quantifier) {a : Syntax} (h : a.IsPlain) :
    (q.wrap a).IsPlain := by
  cases q with
  | once => exact h
  | star => exact ⟨h, nofun⟩
  | plus => exact ⟨h, nofun⟩
  | optional => exact ⟨h, fun _ _ => Nat.zero_le _⟩

theorem Regex.isPlain_trees {level : Level} (r : Regex Parser.Piece level) :
    ∀ a ∈ r.trees, a.IsPlain := by
  induction r with
  | atom p => exact fun a member => Syntax.isPlain_of_mem_kept p.tree_isPlain member
  | group body q ih =>
    have scope : (Syntax.scope (.ofBranches body.trees)).IsPlain := Syntax.isPlain_ofBranches ih
    exact fun a member => Syntax.isPlain_of_mem_kept (q.isPlain_wrap scope) member
  | empty => exact fun a member => (List.not_mem_nil member).elim
  | more first rest ihf ihr =>
    exact fun a member => (List.mem_append.mp member).elim (ihf a) (ihr a)
  | only branch ih =>
    intro a member
    rw [List.mem_singleton.mp member]
    exact Syntax.isPlain_ofItems ih
  | either branch rest ihb ihr =>
    intro a member
    rcases List.mem_cons.mp member with rfl | member
    · exact Syntax.isPlain_ofItems ihb
    · exact ihr a member

end Vetting.Pattern
