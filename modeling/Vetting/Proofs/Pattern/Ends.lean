import Vetting.Proofs.Pattern.Reach

namespace Vetting.Pattern.Moves

theorem mem_distinct_seen {place : Nat} {places : List Nat} (seen : Nat) :
    place ∈ distinct seen places ↔ place ∈ places ∧ seen.testBit place = false := by
  induction places generalizing seen with
  | nil => simp [distinct]
  | cons first rest ih =>
    rw [distinct]
    split
    · next known =>
      rw [ih, List.mem_cons]
      constructor
      · exact fun ⟨member, new⟩ => ⟨.inr member, new⟩
      · rintro ⟨rfl | member, new⟩
        · rw [known] at new
          cases new
        · exact ⟨member, new⟩
    · next unknown =>
      rw [List.mem_cons, List.mem_cons, ih, Nat.testBit_or, testBit_single, Bool.or_eq_false_iff,
        decide_eq_false_iff_not]
      constructor
      · rintro (rfl | ⟨member, new, -⟩)
        · exact ⟨.inl rfl, Bool.eq_false_iff.mpr unknown⟩
        · exact ⟨.inr member, new⟩
      · rintro ⟨rfl | member, new⟩
        · exact .inl rfl
        · by_cases same : first = place
          · exact .inl same.symm
          · exact .inr ⟨member, new, same⟩

theorem mem_distinct {place : Nat} {places : List Nat} :
    place ∈ distinct 0 places ↔ place ∈ places := by
  simp [mem_distinct_seen]

-- Whether a function lists the stops of a relation from every place of a text.
structure Lists (length : Nat) (ends : Nat → List Nat) (step : Nat → Nat → Prop) : Prop where
  inside : ∀ start stop, step start stop → start ≤ length → stop ≤ length
  mem : ∀ start, start ≤ length → ∀ stop, stop ∈ ends start ↔ step start stop

section Lists

variable {length : Nat} {ends : Nat → List Nat} {step : Nat → Nat → Prop}

theorem Lists.exactly (h : Lists length ends step) (count : Nat) :
    Lists length (exactly ends count) (Rounds step count) where
  inside start stop rounds hstart :=
    rounds.closed (· ≤ length) (fun _ _ hle hstep => h.inside _ _ hstep hle) hstart
  mem := by
    induction count with
    | zero =>
      intro start _ stop
      rw [Moves.exactly, List.mem_singleton]
      exact eq_comm
    | succ count ih =>
      intro start hstart stop
      rw [Moves.exactly, mem_distinct, List.mem_flatMap]
      refine exists_congr fun next => ?_
      rw [h.mem start hstart next]
      exact and_congr_right fun hstep => ih next (h.inside start next hstep hstart) stop

theorem Lists.atMost (h : Lists length ends step) (greedy : Bool) (count : Nat) :
    Lists length (atMost ends greedy count)
      (fun start stop => ∃ rounds, rounds ≤ count ∧ Rounds step rounds start stop) where
  inside := by
    rintro start stop ⟨rounds, -, path⟩
    exact (h.exactly rounds).inside start stop path
  mem := by
    induction count with
    | zero =>
      intro start _ stop
      rw [Moves.atMost, List.mem_singleton]
      constructor
      · rintro rfl
        exact ⟨0, Nat.le_refl 0, rfl⟩
      · rintro ⟨rounds, hle, path⟩
        obtain rfl := Nat.le_zero.mp hle
        exact Eq.symm path
    | succ count ih =>
      intro start hstart stop
      have more : stop ∈ (ends start).flatMap (Moves.atMost ends greedy count) ↔
          ∃ rounds, rounds ≤ count ∧ Rounds step (rounds + 1) start stop := by
        rw [List.mem_flatMap]
        constructor
        · rintro ⟨next, hnext, last⟩
          have hstep := (h.mem start hstart next).mp hnext
          obtain ⟨rounds, hle, path⟩ := (ih next (h.inside _ _ hstep hstart) stop).mp last
          exact ⟨rounds, hle, next, hstep, path⟩
        · rintro ⟨rounds, hle, next, hstep, path⟩
          exact ⟨next, (h.mem start hstart next).mpr hstep,
            (ih next (h.inside _ _ hstep hstart) stop).mpr ⟨rounds, hle, path⟩⟩
      have either : stop ∈ Moves.atMost ends greedy (count + 1) start ↔
          stop = start ∨ stop ∈ (ends start).flatMap (Moves.atMost ends greedy count) := by
        rw [Moves.atMost, mem_distinct]
        cases greedy
        · exact List.mem_cons
        · exact List.mem_append.trans (or_comm.trans (or_congr_left List.mem_singleton))
      rw [either, more]
      constructor
      · rintro (rfl | ⟨rounds, hle, path⟩)
        · exact ⟨0, Nat.zero_le _, rfl⟩
        · exact ⟨rounds + 1, Nat.succ_le_succ hle, path⟩
      · rintro ⟨rounds, hle, path⟩
        cases rounds with
        | zero => exact .inl (Eq.symm path)
        | succ rounds => exact .inr ⟨rounds, Nat.le_of_succ_le_succ hle, path⟩

-- How a search for rounds may change its visit: nothing is forgotten, and from every place where
-- rounds have begun in between, all stops are found and rounds have begun there too.
structure Explored (ends : Nat → List Nat) (before after : Visit) : Prop where
  begun : ∀ place, before.begun.testBit place = true → after.begun.testBit place = true
  found : ∀ place, place ∈ before.found → place ∈ after.found
  complete : ∀ place, after.begun.testBit place = true → before.begun.testBit place = false →
    ∀ stop ∈ ends place, stop ∈ after.found ∧ after.begun.testBit stop = true

theorem Explored.refl (visit : Visit) : Explored ends visit visit where
  begun _ := id
  found _ := id
  complete place yes no := by
    rw [yes] at no
    cases no

theorem Explored.trans {first second third : Visit} (h : Explored ends first second)
    (h' : Explored ends second third) : Explored ends first third where
  begun place member := h'.begun place (h.begun place member)
  found place member := h'.found place (h.found place member)
  complete place member new stop hstop := by
    cases hmiddle : second.begun.testBit place with
    | false => exact h'.complete place member hmiddle stop hstop
    | true =>
      obtain ⟨found, begun⟩ := h.complete place hmiddle new stop hstop
      exact ⟨h'.found stop found, h'.begun stop begun⟩

theorem Explored.leave (visit : Visit) (stop : Nat) :
    Explored ends visit { visit with found := stop :: visit.found } where
  begun _ := id
  found _ := List.mem_cons_of_mem stop
  complete place yes no := by
    rw [yes] at no
    cases no

theorem Explored.card_missing_le {before after : Visit} (h : Explored ends before after) :
    (missing length after.begun).card ≤ (missing length before.begun).card := by
  refine Finset.card_le_card fun place member => ?_
  rw [mem_missing] at member ⊢
  refine ⟨member.1, Bool.eq_false_iff.mpr fun begun => ?_⟩
  rw [h.begun place begun] at member
  exact Bool.noConfusion member.2

-- A fold over the stops of a round, where each turn explores and leaves its stop behind.
theorem Explored.foldl (turn : Visit → Nat → Visit) (ready : Visit → Prop)
    (keeps : ∀ before after, ready before → Explored ends before after → ready after)
    (stops : List Nat)
    (each : ∀ visit, ready visit → ∀ stop ∈ stops, Explored ends visit (turn visit stop) ∧
      stop ∈ (turn visit stop).found ∧ (turn visit stop).begun.testBit stop = true)
    (visit : Visit) (hvisit : ready visit) :
    Explored ends visit (stops.foldl turn visit) ∧
      ∀ stop ∈ stops, stop ∈ (stops.foldl turn visit).found ∧
        (stops.foldl turn visit).begun.testBit stop = true := by
  induction stops generalizing visit with
  | nil => exact ⟨.refl visit, fun stop member => (List.not_mem_nil member).elim⟩
  | cons first rest ih =>
    obtain ⟨explored, found, begun⟩ := each visit hvisit first List.mem_cons_self
    obtain ⟨others, all⟩ := ih (fun visit ready stop member =>
      each visit ready stop (List.mem_cons_of_mem first member)) _ (keeps _ _ hvisit explored)
    refine ⟨explored.trans others, fun stop member => ?_⟩
    rcases List.mem_cons.mp member with rfl | member
    · exact ⟨others.found stop found, others.begun stop begun⟩
    · exact all stop member

-- With fuel for every place at which no round has begun, a search leaves none of them out.
theorem explored_rounds (h : Lists length ends step) (greedy : Bool) (fuel : Nat) (visit : Visit)
    {place : Nat} (hplace : place ≤ length) (enough : (missing length visit.begun).card < fuel) :
    Explored ends visit (rounds ends greedy fuel visit place) ∧
      (rounds ends greedy fuel visit place).begun.testBit place = true := by
  induction fuel generalizing visit place with
  | zero => exact absurd enough (Nat.not_lt_zero _)
  | succ fuel ih =>
    rw [rounds]
    split
    · next begun => exact ⟨.refl visit, begun⟩
    · next new =>
      have new := Bool.eq_false_iff.mpr new
      have here : (visit.begun ||| (1 <<< place)).testBit place = true := by
        rw [Nat.testBit_or, testBit_single, decide_eq_true rfl, Bool.or_true]
      have keeps : ∀ other, visit.begun.testBit other = true →
          (visit.begun ||| (1 <<< place)).testBit other = true := by
        intro other member
        rw [Nat.testBit_or, member, Bool.true_or]
      have fewer := card_missing_lt hplace new here keeps
      obtain ⟨explored, all⟩ := Explored.foldl
        (fun visit stop =>
          let again (visit : Visit) :=
            if stop = place then visit else rounds ends greedy fuel visit stop
          let leave (visit : Visit) := { visit with found := stop :: visit.found }
          if greedy then leave (again visit) else again (leave visit))
        (fun visit => visit.begun.testBit place = true ∧
          (missing length visit.begun).card < fuel)
        (fun before after ready explored => ⟨explored.begun place ready.1,
          Nat.lt_of_le_of_lt explored.card_missing_le ready.2⟩)
        (ends place)
        (fun visit ready stop member => by
          have again (visit : Visit) (ready : visit.begun.testBit place = true ∧
              (missing length visit.begun).card < fuel) :
              Explored ends visit
                  (if stop = place then visit else rounds ends greedy fuel visit stop) ∧
                (if stop = place then visit
                  else rounds ends greedy fuel visit stop).begun.testBit stop = true := by
            split
            · next same => exact ⟨.refl visit, same ▸ ready.1⟩
            · have inside := h.inside place stop ((h.mem place hplace stop).mp member) hplace
              exact ih visit inside ready.2
          cases greedy with
          | true =>
            obtain ⟨explored, begun⟩ := again visit ready
            exact ⟨explored.trans (.leave _ stop), List.mem_cons_self, begun⟩
          | false =>
            obtain ⟨explored, begun⟩ := again { visit with found := stop :: visit.found } ready
            exact ⟨(Explored.leave visit stop).trans explored,
              explored.found stop List.mem_cons_self, begun⟩)
        { visit with begun := visit.begun ||| (1 <<< place) }
        ⟨here, Nat.lt_of_lt_of_le fewer (Nat.le_of_lt_succ enough)⟩
      refine ⟨⟨fun other member => explored.begun other (keeps other member), explored.found, ?_⟩,
        explored.begun place here⟩
      intro other begun old stop member
      by_cases same : other = place
      · subst same
        exact all stop member
      · refine explored.complete other begun ?_ stop member
        rw [Nat.testBit_or, old, testBit_single, decide_eq_false (Ne.symm same), Bool.or_false]

-- What a search finds lies a number of rounds from its start.
theorem mem_found_rounds (h : Lists length ends step) (greedy : Bool) {fuel : Nat} {visit : Visit}
    {place stop : Nat} (hplace : place ≤ length)
    (hstop : stop ∈ (rounds ends greedy fuel visit place).found) :
    stop ∈ visit.found ∨ ∃ count, Rounds step (count + 1) place stop := by
  induction fuel generalizing visit place with
  | zero => exact .inl hstop
  | succ fuel ih =>
    rw [rounds] at hstop
    split at hstop
    · exact .inl hstop
    · have stops : ∀ next ∈ ends place, step place next := fun next => (h.mem place hplace next).mp
      revert hstop stops
      generalize ends place = places
      generalize hbegun : ({ visit with begun := visit.begun ||| (1 <<< place) } : Visit) = visit'
      have same : visit'.found = visit.found := hbegun ▸ rfl
      rw [← same]
      clear hbegun same
      intro hstop stops
      induction places generalizing visit' with
      | nil => exact .inl hstop
      | cons next rest inner =>
        have first := stops next List.mem_cons_self
        have again {visit : Visit}
            (found : stop ∈ (if next = place then visit
              else rounds ends greedy fuel visit next).found) :
            stop ∈ visit.found ∨ ∃ count, Rounds step (count + 1) place stop := by
          split at found
          · exact .inl found
          · refine (ih (h.inside place next first hplace) found).imp_right ?_
            rintro ⟨count, path⟩
            exact ⟨count + 1, next, first, path⟩
        rcases inner _ hstop fun other member => stops other (List.mem_cons_of_mem next member) with
          found | far
        · cases greedy with
          | true =>
            rcases List.mem_cons.mp found with rfl | found
            · exact .inr ⟨0, rounds_one.mpr first⟩
            · exact again found
          | false =>
            rcases again found with found | far
            · rcases List.mem_cons.mp found with rfl | found
              · exact .inr ⟨0, rounds_one.mpr first⟩
              · exact .inl found
            · exact .inr far
        · exact .inr far

theorem Lists.atLeastOnce (h : Lists length ends step) (greedy : Bool) {room : Nat}
    (hroom : length + 1 < room) :
    Lists length (atLeastOnce ends greedy room)
      (fun start stop => ∃ count, Rounds step (count + 1) start stop) where
  inside := by
    rintro start stop ⟨count, path⟩
    exact (h.exactly (count + 1)).inside start stop path
  mem start hstart stop := by
    rw [Moves.atLeastOnce, mem_distinct, List.mem_reverse]
    constructor
    · intro found
      exact (mem_found_rounds h greedy hstart found).resolve_left List.not_mem_nil
    · rintro ⟨count, path⟩
      have few := card_missing_le length 0
      obtain ⟨explored, begun⟩ := explored_rounds h greedy room ⟨0, []⟩ hstart
        (Nat.lt_of_le_of_lt few hroom)
      obtain ⟨last, before, hstep⟩ := rounds_succ_right.mp path
      have complete := fun place member => explored.complete place member (Nat.zero_testBit place)
      have reached := before.closed
        (fun place => place ≤ length ∧
          (rounds ends greedy room ⟨0, []⟩ start).begun.testBit place = true)
        (fun place next member hnext => ⟨h.inside place next hnext member.1,
          (complete place member.2 next ((h.mem place member.1 next).mpr hnext)).2⟩)
        ⟨hstart, begun⟩
      exact (complete last reached.2 stop ((h.mem last reached.1 stop).mpr hstep)).1

-- Rounds of one kind after rounds of another.
theorem Lists.flatMap {first second : Nat → List Nat} {step' : Nat → Nat → Prop}
    (h : Lists length first step) (h' : Lists length second step') :
    Lists length (fun place => distinct 0 ((first place).flatMap second))
      (fun start stop => ∃ next, step start next ∧ step' next stop) where
  inside := by
    rintro start stop ⟨next, hstep, hstep'⟩ hstart
    exact h'.inside next stop hstep' (h.inside start next hstep hstart)
  mem start hstart stop := by
    rw [mem_distinct, List.mem_flatMap]
    refine exists_congr fun next => ?_
    rw [h.mem start hstart next]
    exact and_congr_right fun hstep => h'.mem next (h.inside start next hstep hstart) stop

theorem Lists.congr {step' : Nat → Nat → Prop} (h : Lists length ends step)
    (same : ∀ start stop, step start stop ↔ step' start stop) : Lists length ends step' where
  inside start stop hstep := h.inside start stop ((same start stop).mpr hstep)
  mem start hstart stop := (h.mem start hstart stop).trans (same start stop)

end Lists

theorem lists_assertion (text : List Char) (a : Assertion) :
    Lists text.length (ofSyntax text (.assertion a)).ends ((Syntax.assertion a).Spans text) where
  inside start stop h := h.le_length
  mem start hstart stop := by
    have mask := testBit_assertionMask text a start
    simp only [ofSyntax, ends, Syntax.Spans]
    split
    · next member =>
      rw [List.mem_singleton, eq_comm]
      exact ⟨fun same => ⟨(mask.mp member).2, same⟩, And.right⟩
    · next other =>
      exact ⟨fun member => (List.not_mem_nil member).elim,
        fun spans => (other (mask.mpr ⟨hstart, spans.1⟩)).elim⟩

-- From one place, the moves of a tree list the stops of its spans.
theorem lists_spans (text : List Char) {referenced : List Nat} {a : Syntax} (plain : a.IsPlain)
    (linear : a.needsBacktracking referenced = false) :
    Lists text.length (ofSyntax text a).ends (a.Spans text) := by
  have inside (a : Syntax) : ∀ start stop, a.Spans text start stop → start ≤ text.length →
      stop ≤ text.length := fun start stop h => h.le_length
  induction a with
  | empty =>
    refine ⟨inside _, fun start hstart stop => ?_⟩
    simp only [ofSyntax, ends, testBit_allPlaces, decide_eq_true hstart, if_true,
      List.mem_singleton, Syntax.Spans]
    exact eq_comm
  | char set =>
    refine ⟨inside _, fun start hstart stop => ?_⟩
    simp only [ofSyntax, ends, testBit_maskOf, Syntax.Spans]
    split
    · next member => simp [member]
    · next other => simp [other]
  | assertion a => exact lists_assertion text a
  | seq a b iha ihb =>
    simp only [Syntax.needsBacktracking, Bool.or_eq_false_iff] at linear
    exact (iha plain.1 linear.1).flatMap (ihb plain.2 linear.2)
  | alt a b iha ihb =>
    simp only [Syntax.needsBacktracking, Bool.or_eq_false_iff] at linear
    have first := iha plain.1 linear.1
    have second := ihb plain.2 linear.2
    refine ⟨inside _, fun start hstart stop => ?_⟩
    simp only [ofSyntax, ends, mem_distinct, List.mem_append, first.mem start hstart,
      second.mem start hstart, Syntax.Spans]
  | scope a ih => exact ih plain linear
  | capture index a ih =>
    simp only [Syntax.needsBacktracking, Bool.or_eq_false_iff] at linear
    exact ih plain linear.1
  | repetition a min max greedy ih =>
    have h := ih plain.1 linear
    have hroom : text.length + 1 < text.length + 2 := Nat.lt_succ_self _
    cases max with
    | some most =>
      refine ((h.exactly min).flatMap (h.atMost greedy (most - min))).congr fun start stop => ?_
      constructor
      · rintro ⟨next, first, rounds, hle, last⟩
        refine ⟨min + rounds, Nat.le_add_right .., ?_, first.trans last⟩
        rintro _ ⟨⟩
        have := plain.2 most rfl
        omega
      · rintro ⟨count, hmin, hmax, path⟩
        obtain ⟨rounds, rfl⟩ := Nat.exists_eq_add_of_le hmin
        obtain ⟨next, first, last⟩ := path.split
        have := hmax most rfl
        exact ⟨next, first, rounds, by omega, last⟩
    | none =>
      have unbounded (count most : Nat) (h : none = some most) : count ≤ most := by cases h
      cases min with
      | zero =>
        refine ⟨inside _, fun start hstart stop => ?_⟩
        have more := (h.atLeastOnce greedy hroom).mem start hstart stop
        have either : stop ∈ (ofSyntax text (.repetition a 0 none greedy)).ends start ↔
            stop = start ∨
              stop ∈ atLeastOnce (ofSyntax text a).ends greedy (text.length + 2) start := by
          rw [ofSyntax, ends, mem_distinct]
          cases greedy
          · exact List.mem_cons
          · exact List.mem_append.trans (or_comm.trans (or_congr_left List.mem_singleton))
        rw [either, more]
        constructor
        · rintro (rfl | ⟨count, path⟩)
          · exact ⟨0, Nat.le_refl 0, unbounded 0, rfl⟩
          · exact ⟨count + 1, Nat.zero_le _, unbounded _, path⟩
        · rintro ⟨count, -, -, path⟩
          cases count with
          | zero => exact .inl (Eq.symm path)
          | succ count => exact .inr ⟨count, path⟩
      | succ min =>
        refine ((h.exactly min).flatMap (h.atLeastOnce greedy hroom)).congr fun start stop => ?_
        constructor
        · rintro ⟨next, first, count, last⟩
          exact ⟨min + (count + 1), by omega, unbounded _, first.trans last⟩
        · rintro ⟨count, hmin, -, path⟩
          obtain ⟨more, rfl⟩ := Nat.exists_eq_add_of_le hmin
          rw [show min + 1 + more = min + (more + 1) by omega] at path
          obtain ⟨next, first, last⟩ := path.split
          exact ⟨next, first, more, last⟩
  | look behind negative a => cases linear
  | atomic a => cases linear
  | backreference index => cases linear

end Vetting.Pattern.Moves
