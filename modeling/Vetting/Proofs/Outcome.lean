import Mathlib.Data.List.Forall2

namespace Vetting.Outcome

variable {α β ε ε' : Type}

theorem bind_eq_ok {x : Except ε α} {f : α → Except ε β} {b : β} :
    x >>= f = .ok b ↔ ∃ a, x = .ok a ∧ f a = .ok b := by
  cases x with
  | error e => simp [bind, Except.bind]
  | ok a => simp [bind, Except.bind]

theorem bind_eq_error {x : Except ε α} {f : α → Except ε β} {e : ε} :
    x >>= f = .error e ↔ x = .error e ∨ ∃ a, x = .ok a ∧ f a = .error e := by
  cases x with
  | error e' => simp [bind, Except.bind]
  | ok a => simp [bind, Except.bind]

theorem map_eq_ok {x : Except ε α} {f : α → β} {b : β} :
    f <$> x = .ok b ↔ ∃ a, x = .ok a ∧ f a = b := by
  cases x with
  | error e => simp [Functor.map, Except.map]
  | ok a => simp [Functor.map, Except.map]

theorem mapError_eq_ok {x : Except ε α} {f : ε → ε'} {a : α} :
    x.mapError f = .ok a ↔ x = .ok a := by
  cases x with
  | error e => simp [Except.mapError]
  | ok b => simp [Except.mapError]

theorem mapError_eq_error {x : Except ε α} {f : ε → ε'} {e' : ε'} :
    x.mapError f = .error e' ↔ ∃ e, x = .error e ∧ f e = e' := by
  cases x with
  | error e => simp [Except.mapError]
  | ok a => simp [Except.mapError]

-- A list is mapped successfully exactly if each of its elements is.
theorem mapM_eq_ok {f : α → Except ε β} {xs : List α} {ys : List β} :
    xs.mapM f = .ok ys ↔ List.Forall₂ (fun x y => f x = .ok y) xs ys := by
  induction xs generalizing ys with
  | nil => simp [pure, Except.pure, eq_comm]
  | cons x xs ih =>
    rw [List.mapM_cons, bind_eq_ok, List.forall₂_cons_left_iff]
    constructor
    · rintro ⟨y, hy, h⟩
      obtain ⟨rest, hrest, h⟩ := bind_eq_ok.mp h
      exact ⟨y, rest, hy, ih.mp hrest, (Except.ok.inj h).symm⟩
    · rintro ⟨y, rest, hy, hrest, rfl⟩
      exact ⟨y, hy, bind_eq_ok.mpr ⟨rest, ih.mpr hrest, rfl⟩⟩

-- A list is not mapped if one of its elements is not. The first such element says why.
theorem mapM_eq_error {f : α → Except ε β} {xs : List α} {e : ε} :
    xs.mapM f = .error e ↔
      ∃ before x after, xs = before ++ x :: after ∧ (∀ y ∈ before, ∃ b, f y = .ok b) ∧
        f x = .error e := by
  induction xs with
  | nil => simp [pure, Except.pure]
  | cons first rest ih =>
    rw [List.mapM_cons, bind_eq_error]
    constructor
    · rintro (failed | ⟨b, done, h⟩)
      · exact ⟨[], first, rest, rfl, by simp, failed⟩
      · rcases bind_eq_error.mp h with h | ⟨bs, _, h⟩
        · obtain ⟨before, x, after, rfl, fine, failed⟩ := ih.mp h
          exact ⟨first :: before, x, after, rfl, List.forall_mem_cons.mpr ⟨⟨b, done⟩, fine⟩, failed⟩
        · cases h
    · rintro ⟨before, x, after, split, fine, failed⟩
      cases before with
      | nil =>
        obtain ⟨rfl, rfl⟩ := List.cons.inj split
        exact .inl failed
      | cons other before =>
        obtain ⟨rfl, rfl⟩ := List.cons.inj split
        obtain ⟨⟨b, done⟩, fine⟩ := List.forall_mem_cons.mp fine
        have h := ih.mpr ⟨before, x, after, rfl, fine, failed⟩
        exact .inr ⟨b, done, bind_eq_error.mpr (.inl h)⟩

-- Every element of a list is related to something if the whole list is to some other list.
theorem exists_forall₂_iff {R : α → β → Prop} {xs : List α} :
    (∃ ys, List.Forall₂ R xs ys) ↔ ∀ x ∈ xs, ∃ y, R x y := by
  induction xs with
  | nil => simp
  | cons x xs ih =>
    simp only [List.forall₂_cons_left_iff, List.forall_mem_cons, ← ih]
    constructor
    · rintro ⟨_, y, ys, hy, hys, rfl⟩
      exact ⟨⟨y, hy⟩, ys, hys⟩
    · rintro ⟨⟨y, hy⟩, ys, hys⟩
      exact ⟨_, y, ys, hy, hys, rfl⟩

theorem exists_mapM_eq_ok_iff {f : α → Except ε β} {xs : List α} :
    (∃ ys, xs.mapM f = .ok ys) ↔ ∀ x ∈ xs, ∃ y, f x = .ok y := by
  simp only [mapM_eq_ok]
  exact exists_forall₂_iff

-- What a list is related to can be put in the order of the list, and keeps its partners.
theorem forall₂_perm {R : α → β → Prop} {xs ys : List α} {as : List β} (order : xs.Perm ys)
    (related : List.Forall₂ R xs as) :
    ∃ bs, List.Forall₂ R ys bs ∧ (xs.zip as).Perm (ys.zip bs) := by
  induction order generalizing as with
  | nil => exact ⟨as, related, .refl _⟩
  | cons x _ ih =>
    obtain ⟨a, rest, hx, hrest, rfl⟩ := List.forall₂_cons_left_iff.mp related
    obtain ⟨bs, hbs, paired⟩ := ih hrest
    exact ⟨a :: bs, .cons hx hbs, paired.cons (x, a)⟩
  | swap x y xs =>
    obtain ⟨b, _, hy, later, rfl⟩ := List.forall₂_cons_left_iff.mp related
    obtain ⟨a, rest, hx, hrest, rfl⟩ := List.forall₂_cons_left_iff.mp later
    exact ⟨a :: b :: rest, .cons hx (.cons hy hrest), .swap ..⟩
  | trans _ _ ih ih' =>
    obtain ⟨bs, hbs, paired⟩ := ih related
    obtain ⟨cs, hcs, paired'⟩ := ih' hbs
    exact ⟨cs, hcs, paired.trans paired'⟩

-- Every result comes from an element.
theorem exists_of_mem_mapM {f : α → Except ε β} {xs : List α} {ys : List β}
    (h : xs.mapM f = .ok ys) {y : β} (hy : y ∈ ys) : ∃ x ∈ xs, f x = .ok y := by
  induction mapM_eq_ok.mp h with
  | nil => cases hy
  | cons hx rest ih =>
    rcases List.mem_cons.mp hy with rfl | hy
    · exact ⟨_, List.mem_cons_self, hx⟩
    · obtain ⟨x, hx, hf⟩ := ih (mapM_eq_ok.mpr rest) hy
      exact ⟨x, List.mem_cons_of_mem _ hx, hf⟩

theorem forall₂_trans {γ : Type} {R : α → β → Prop} {S : β → γ → Prop} {T : α → γ → Prop}
    (hT : ∀ a b c, R a b → S b c → T a c) {as : List α} {bs : List β} {cs : List γ}
    (hR : List.Forall₂ R as bs) (hS : List.Forall₂ S bs cs) : List.Forall₂ T as cs := by
  induction hR generalizing cs with
  | nil => cases hS; exact .nil
  | cons h _ ih =>
    cases hS with
    | cons h' rest => exact .cons (hT _ _ _ h h') (ih rest)

-- What holds alike of paired elements holds of all on one side if it does on the other.
theorem forall_mem_iff {R : α → β → Prop} {p : α → Prop} {q : β → Prop} {as : List α} {bs : List β}
    (h : List.Forall₂ R as bs) (hpq : ∀ a b, R a b → (p a ↔ q b)) :
    (∀ a ∈ as, p a) ↔ ∀ b ∈ bs, q b := by
  induction h with
  | nil => simp
  | cons hab _ ih => rw [List.forall_mem_cons, List.forall_mem_cons, hpq _ _ hab, ih]

theorem mapM_eq_some {f : α → Option β} {xs : List α} {ys : List β}
    (h : List.Forall₂ (fun x y => f x = some y) xs ys) : xs.mapM f = some ys := by
  induction h with
  | nil => rfl
  | cons hx _ ih => simp [hx, ih]

-- Two computations that end alike: with the same error, or with results that are related.
inductive Alike (R : α → β → Prop) : Except ε α → Except ε β → Prop
  | error (e : ε) : Alike R (.error e) (.error e)
  | ok {a : α} {b : β} (h : R a b) : Alike R (.ok a) (.ok b)

namespace Alike

variable {α' β' : Type} {R : α → β → Prop} {S : α' → β' → Prop} {x : Except ε α} {y : Except ε β}

theorem cases (h : Alike R x y) :
    (∃ e, x = .error e ∧ y = .error e) ∨ ∃ a b, x = .ok a ∧ y = .ok b ∧ R a b := by
  cases h with
  | error e => exact .inl ⟨e, rfl, rfl⟩
  | ok h => exact .inr ⟨_, _, rfl, rfl, h⟩

theorem refl {R : α → α → Prop} (hR : ∀ a, R a a) (x : Except ε α) : Alike R x x := by
  cases x with
  | error e => exact .error e
  | ok a => exact .ok (hR a)

theorem bind {f : α → Except ε α'} {g : β → Except ε β'} (h : Alike R x y)
    (hfg : ∀ a b, R a b → Alike S (f a) (g b)) : Alike S (x >>= f) (y >>= g) := by
  cases h with
  | error e => exact .error e
  | ok h => exact hfg _ _ h

theorem mapError (h : Alike R x y) (f : ε → ε') : Alike R (x.mapError f) (y.mapError f) := by
  cases h with
  | error e => exact .error (f e)
  | ok h => exact .ok h

-- Lists that are mapped alike element by element are mapped alike as a whole.
theorem mapM {f : α → Except ε α'} {g : β → Except ε β'} {xs : List α} {ys : List β}
    (h : List.Forall₂ (fun x y => Alike S (f x) (g y)) xs ys) :
    Alike (List.Forall₂ S) (xs.mapM f) (ys.mapM g) := by
  induction h with
  | nil => exact .ok .nil
  | cons hx _ ih =>
    rw [List.mapM_cons, List.mapM_cons]
    apply hx.bind
    intro a b hab
    apply ih.bind
    intro as bs habs
    exact .ok (.cons hab habs)

end Alike

end Vetting.Outcome
