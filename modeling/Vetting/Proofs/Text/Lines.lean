import Mathlib.Data.List.Basic
import Vetting.Text.Basic

namespace Vetting.Text

section Split

variable {α : Type} {isSeparator : α → Bool}

theorem splitOn_ne_nil (isSeparator : α → Bool) (elements : List α) :
    splitOn isSeparator elements ≠ [] := by
  induction elements with
  | nil => simp [splitOn]
  | cons c rest ih =>
    obtain ⟨piece, pieces, h⟩ := List.exists_cons_of_ne_nil ih
    simp only [splitOn, h]
    split <;> simp

theorem splitOn_of_forall {piece : List α} (h : ∀ c ∈ piece, isSeparator c = false) :
    splitOn isSeparator piece = [piece] := by
  induction piece with
  | nil => rfl
  | cons c rest ih =>
    obtain ⟨hc, hrest⟩ := List.forall_mem_cons.mp h
    simp [splitOn, ih hrest, hc]

theorem splitOn_append {piece rest : List α} {separator : α}
    (h : ∀ c ∈ piece, isSeparator c = false) (hs : isSeparator separator = true) :
    splitOn isSeparator (piece ++ separator :: rest) = piece :: splitOn isSeparator rest := by
  induction piece with
  | nil =>
    obtain ⟨first, others, hsplit⟩ := List.exists_cons_of_ne_nil (splitOn_ne_nil isSeparator rest)
    simp [splitOn, hsplit, hs]
  | cons c piece ih =>
    obtain ⟨hc, hpiece⟩ := List.forall_mem_cons.mp h
    simp [splitOn, ih hpiece, hc]

end Split

@[simp] theorem lines_nil : lines [] = [] := rfl

-- The last line may lack its line feed, and then keeps a carriage return at its end.
theorem lines_of_not_mem {line : List Char} (h : '\n' ∉ line) (hne : line ≠ []) :
    lines line = [line] := by
  have hsplit : splitOn (· == '\n') line = [line] := by
    apply splitOn_of_forall
    intro c hc
    exact beq_eq_false_iff_ne.mpr fun same => h (same ▸ hc)
  simp [lines, hsplit, hne]

theorem lines_append_feed {line : List Char} (h : '\n' ∉ line) (rest : List Char) :
    lines (line ++ '\n' :: rest) = dropReturn line :: lines rest := by
  have hsplit : splitOn (· == '\n') (line ++ '\n' :: rest) = line :: splitOn (· == '\n') rest := by
    apply splitOn_append _ (by simp)
    intro c hc
    exact beq_eq_false_iff_ne.mpr fun same => h (same ▸ hc)
  obtain ⟨first, others, hrest⟩ := List.exists_cons_of_ne_nil
    (splitOn_ne_nil (· == '\n') rest)
  simp [lines, hsplit, hrest]

-- A text is one line without a line feed, or such a line, a line feed and another text.
@[elab_as_elim]
theorem line_induction {motive : List Char → Prop} (text : List Char)
    (last : ∀ line, '\n' ∉ line → motive line)
    (feed : ∀ line rest, '\n' ∉ line → motive rest → motive (line ++ '\n' :: rest)) :
    motive text := by
  -- The induction is on the length, as what is taken off is a whole line.
  induction hlen : text.length using Nat.strongRecOn generalizing text with
  | ind length ih =>
    by_cases h : '\n' ∈ text
    · obtain ⟨line, rest, rfl, hline⟩ := List.eq_append_cons_of_mem h
      apply feed line rest hline
      apply ih rest.length _ rest rfl
      simp only [List.length_append, List.length_cons] at hlen
      omega
    · exact last text h

-- What follows a text starts a line: the text is empty or ends with a line feed.
def StartsLine (before : List Char) : Prop := ∀ c ∈ before.getLast?, c = '\n'

instance (before : List Char) : Decidable (StartsLine before) :=
  before.getLast?.decidableForallMem

theorem startsLine_append_feed {line rest : List Char} :
    StartsLine (line ++ '\n' :: rest) ↔ StartsLine rest := by
  unfold StartsLine
  cases rest with
  | nil => simp
  | cons c rest => simp

theorem lines_append {before : List Char} (starts : StartsLine before) (rest : List Char) :
    lines (before ++ rest) = lines before ++ lines rest := by
  induction before using line_induction with
  | last line h =>
    cases hlast : line.getLast? with
    | none => simp [List.getLast?_eq_none_iff.mp hlast]
    | some c =>
      have hc := List.mem_of_getLast? hlast
      rw [starts c hlast] at hc
      exact absurd hc h
  | feed line text h ih =>
    rw [List.append_assoc, List.cons_append, lines_append_feed h, lines_append_feed h,
      ih (startsLine_append_feed.mp starts), List.cons_append]

theorem mem_of_mem_dropReturn {line : List Char} {c : Char} (h : c ∈ dropReturn line) :
    c ∈ line := by
  unfold dropReturn at h
  split at h
  · exact (List.dropLast_sublist line).subset h
  · exact h

-- The lines of a text are made of its characters.
theorem mem_of_mem_lines {text line : List Char} {c : Char} (hline : line ∈ lines text)
    (hc : c ∈ line) : c ∈ text := by
  induction text using line_induction with
  | last only h =>
    by_cases hne : only = []
    · simp [hne] at hline
    · rw [lines_of_not_mem h hne, List.mem_singleton] at hline
      exact hline ▸ hc
  | feed first rest h ih =>
    rw [lines_append_feed h, List.mem_cons] at hline
    rcases hline with rfl | hline
    · exact List.mem_append_left _ (mem_of_mem_dropReturn hc)
    · have := ih hline
      simp [this]

-- The text with a carriage return before every line feed.
def withReturns (text : List Char) : List Char :=
  text.flatMap fun c => if c = '\n' then ['\r', '\n'] else [c]

theorem withReturns_of_not_mem {line : List Char} (h : '\n' ∉ line) : withReturns line = line := by
  induction line with
  | nil => rfl
  | cons c rest ih =>
    simp only [List.mem_cons, not_or] at h
    rw [withReturns, List.flatMap_cons, ← withReturns, ih h.2, if_neg (Ne.symm h.1)]
    rfl

theorem withReturns_append (text rest : List Char) :
    withReturns (text ++ rest) = withReturns text ++ withReturns rest := List.flatMap_append

-- The carriage return before a line feed belongs to the end of the line.
theorem lines_withReturns {text : List Char} (h : '\r' ∉ text) :
    lines (withReturns text) = lines text := by
  induction text using line_induction with
  | last line hline => rw [withReturns_of_not_mem hline]
  | feed line rest hline ih =>
    have hrest : '\r' ∉ rest := by
      intro hr
      simp [hr] at h
    have hbare : dropReturn line = line := by
      have hlast : line.getLast? ≠ some '\r' := by
        intro hr
        simp [List.mem_of_getLast? hr] at h
      simp [dropReturn, hlast]
    have hended : withReturns (line ++ '\n' :: rest) =
        (line ++ ['\r']) ++ '\n' :: withReturns rest := by
      rw [withReturns_append, withReturns_of_not_mem hline, List.append_assoc]
      rfl
    have hreturned : dropReturn (line ++ ['\r']) = line := by simp [dropReturn]
    rw [hended, lines_append_feed (by simpa using hline), hreturned, lines_append_feed hline,
      hbare, ih hrest]

-- A text and the same text with blanks put in between its lines, behind the last one too. What is
-- put in ends with a line feed unless the text ends there.
inductive Spaced (text : List Char) : List Char → Prop
  | same : Spaced text text
  | insert {before after : List Char} (blank : List Char) (spaced : Spaced text (before ++ after))
      (starts : StartsLine before) (blanks : ∀ c ∈ blank, isBlank c = true)
      (ends : StartsLine blank ∨ after = []) : Spaced text (before ++ blank ++ after)

-- Lines that are put in are blank, and the others stay as they are.
theorem filter_lines_insert {before blank after : List Char} (starts : StartsLine before)
    (blanks : ∀ c ∈ blank, isBlank c = true) (ends : StartsLine blank ∨ after = []) :
    (lines (before ++ blank ++ after)).filter (fun line => !line.all isBlank) =
      (lines (before ++ after)).filter fun line => !line.all isBlank := by
  have hnone : (lines blank).filter (fun line => !line.all isBlank) = [] := by
    rw [List.filter_eq_nil_iff]
    intro line hline
    have hall : line.all isBlank = true :=
      List.all_eq_true.mpr fun c hc => blanks c (mem_of_mem_lines hline hc)
    simp [hall]
  have hblank : lines (blank ++ after) = lines blank ++ lines after := by
    rcases ends with ends | rfl
    · exact lines_append ends after
    · simp
  rw [List.append_assoc, lines_append starts, lines_append starts, hblank]
  simp only [List.filter_append, hnone, List.nil_append]

theorem Spaced.filter_lines {text spaced : List Char} (h : Spaced text spaced) :
    (lines spaced).filter (fun line => !line.all isBlank) =
      (lines text).filter fun line => !line.all isBlank := by
  induction h with
  | same => rfl
  | insert blank _ starts blanks ends ih => rw [filter_lines_insert starts blanks ends, ih]

end Vetting.Text
