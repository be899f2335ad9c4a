import Vetting.Command.Run
import Vetting.Proofs.Outcome
import Vetting.Proofs.Text.Lines

namespace Vetting.Change

def isBlankLine (line : List Char) : Bool := line.all Text.isBlank

-- The lines that are not blank, each with its number in the script from one on.
def filledLines (script : String) : List (List Char × Nat) :=
  ((Text.lines script.toList).zipIdx 1).filter fun (line, _) => !isBlankLine line

-- A script that is read makes one change for every line that is not blank, in order.
theorem ofScript_eq_ok {script : String} {changes : List Change}
    (h : ofScript script = .ok changes) :
    List.Forall₂ (fun line change => ofLine line.1 = .ok change) (filledLines script) changes := by
  refine (Outcome.mapM_eq_ok.mp h).imp ?_
  rintro ⟨line, number⟩ change read
  exact Outcome.mapError_eq_ok.mp read

-- The lines that are not blank.
def contentLines (script : String) : List (List Char) :=
  (Text.lines script.toList).filter fun line => !isBlankLine line

theorem map_fst_filledLines (script : String) :
    (filledLines script).map (·.1) = contentLines script := by
  unfold filledLines contentLines
  conv_rhs => rw [← List.zipIdx_map_fst 1 (Text.lines script.toList), List.filter_map]
  rfl

theorem ofScript_eq_ok_iff {script : String} {changes : List Change} :
    ofScript script = .ok changes ↔
      List.Forall₂ (fun line change => ofLine line = .ok change) (contentLines script) changes := by
  constructor
  · intro h
    rw [← map_fst_filledLines, List.forall₂_map_left_iff]
    exact ofScript_eq_ok h
  · intro h
    rw [← map_fst_filledLines, List.forall₂_map_left_iff] at h
    apply Outcome.mapM_eq_ok.mpr
    refine h.imp ?_
    rintro ⟨line, number⟩ change read
    exact Outcome.mapError_eq_ok.mpr read

-- A line that is not blank comes after a number of lines, of which some may be blank.
theorem lines_of_filledLines {script : String} {before after : List (List Char × Nat)}
    {line : List Char} {number : Nat}
    (h : filledLines script = before ++ (line, number) :: after) :
    ∃ earlier later, Text.lines script.toList = earlier ++ line :: later ∧
      isBlankLine line = false ∧ number = earlier.length + 1 ∧
      before = (earlier.zipIdx 1).filter fun (line, _) => !isBlankLine line := by
  obtain ⟨first, rest, split, hfirst, hrest⟩ := List.filter_eq_append_iff.mp h
  obtain ⟨blank, tail, rfl, blanks, filled, -⟩ := List.filter_eq_cons_iff.mp hrest
  rw [← List.append_assoc] at split
  obtain ⟨earlier, others, lines, numbered, hothers⟩ := List.zipIdx_eq_append_iff.mp split
  obtain ⟨_, later, rfl, same, -⟩ := List.zipIdx_eq_cons_iff.mp hothers.symm
  obtain ⟨rfl, rfl⟩ := Prod.mk.inj same
  refine ⟨earlier, later, lines, by simpa using filled, Nat.add_comm .., ?_⟩
  have none : blank.filter (fun (line, _) => !isBlankLine line) = [] :=
    List.filter_eq_nil_iff.mpr blanks
  rw [← numbered, List.filter_append, hfirst, none, List.append_nil]

-- A line is blank or it is not.
theorem length_filled_add_countP (lines : List (List Char)) (start : Nat) :
    ((lines.zipIdx start).filter fun (line, _) => !isBlankLine line).length +
      lines.countP isBlankLine = lines.length := by
  have filled : ((lines.zipIdx start).filter fun (line, _) => !isBlankLine line).length =
      lines.countP fun line => !isBlankLine line := by
    rw [← List.countP_eq_length_filter]
    conv_rhs => rw [← List.zipIdx_map_fst start lines, List.countP_map]
    rfl
  rw [filled, Nat.add_comm, List.length_eq_countP_add_countP isBlankLine]
  simp

theorem forall_filled_iff (P : List Char → Prop) (lines : List (List Char)) (start : Nat) :
    (∀ numbered ∈ (lines.zipIdx start).filter (fun (line, _) => !isBlankLine line),
        P numbered.1) ↔
      ∀ line ∈ lines, isBlankLine line = false → P line := by
  conv_rhs => rw [← List.zipIdx_map_fst start lines]
  simp only [List.mem_filter, List.forall_mem_map, Bool.not_eq_true', and_imp]

-- A script is refused for the first line that is neither blank nor a change.
theorem ofScript_eq_error_iff {script : String} {error : ScriptError} :
    ofScript script = .error error ↔
      ∃ earlier line later fault, Text.lines script.toList = earlier ++ line :: later ∧
        (∀ other ∈ earlier, isBlankLine other = false → ∃ change, ofLine other = .ok change) ∧
        isBlankLine line = false ∧ ofLine line = .error fault ∧
        error = ⟨earlier.length + 1, line, fault⟩ := by
  have hscan : ofScript script = .error error ↔ ∃ before numbered after,
      filledLines script = before ++ numbered :: after ∧
        (∀ other ∈ before, ∃ change, ofLine other.1 = .ok change) ∧
        ∃ fault, ofLine numbered.1 = .error fault ∧ error = ⟨numbered.2, numbered.1, fault⟩ := by
    refine Outcome.mapM_eq_error.trans ?_
    simp only [Outcome.mapError_eq_ok, Outcome.mapError_eq_error, @eq_comm _ error]
    rfl
  have hfilled := forall_filled_iff fun line => ∃ change, ofLine line = .ok change
  rw [hscan]
  constructor
  · rintro ⟨before, ⟨line, number⟩, after, hsplit, fine, fault, hfault, rfl⟩
    obtain ⟨earlier, later, hlines, filled, rfl, rfl⟩ := lines_of_filledLines hsplit
    exact ⟨earlier, line, later, fault, hlines, (hfilled earlier 1).mp fine, filled, hfault, rfl⟩
  · rintro ⟨earlier, line, later, fault, hlines, fine, filled, hfault, rfl⟩
    have hsplit : filledLines script =
        ((earlier.zipIdx 1).filter fun (line, _) => !isBlankLine line) ++
          (line, earlier.length + 1) ::
            ((later.zipIdx (earlier.length + 2)).filter fun (line, _) => !isBlankLine line) := by
      rw [filledLines, hlines, List.zipIdx_append, List.zipIdx_cons, List.filter_append,
        List.filter_cons, if_pos (by simp [filled]), Nat.add_comm 1]
    exact ⟨_, _, _, hsplit, (hfilled earlier 1).mpr fine, fault, hfault, rfl⟩

-- Nothing of a script is read but its lines.
theorem ofScript_congr {script other : String}
    (h : Text.lines script.toList = Text.lines other.toList) :
    ofScript script = ofScript other := by
  simp only [ofScript, h]

-- A script is read line by line. It makes a change for each line that is not blank, in their order,
-- if all of them are changes, and is refused for the first one that is none, by its number among
-- all lines. Line feeds may have a carriage return before them, and lines of blanks may be put in
-- anywhere.
theorem ofScript_reads_lines (script : String) :
    (∀ changes, ofScript script = .ok changes ↔
      List.Forall₂ (fun line change => ofLine line = .ok change) (contentLines script) changes) ∧
    ((∃ changes, ofScript script = .ok changes) ↔
      ∀ line ∈ contentLines script, ∃ change, ofLine line = .ok change) ∧
    (∀ error, ofScript script = .error error ↔
      ∃ earlier line later fault, Text.lines script.toList = earlier ++ line :: later ∧
        (∀ other ∈ earlier, isBlankLine other = false → ∃ change, ofLine other = .ok change) ∧
        isBlankLine line = false ∧ ofLine line = .error fault ∧
        error = ⟨earlier.length + 1, line, fault⟩) ∧
    (∀ error describe, (CommandError.script error).messageWith describe =
      s!"invalid input: change line {error.line}: {error.error.message error.text}") ∧
    ('\r' ∉ script.toList →
      ofScript (.ofList (Text.withReturns script.toList)) = ofScript script) ∧
    ∀ spaced, Text.Spaced script.toList spaced →
      ∀ changes, ofScript (.ofList spaced) = .ok changes ↔ ofScript script = .ok changes := by
  refine ⟨fun changes => ofScript_eq_ok_iff, ?_, fun error => ofScript_eq_error_iff, ?_, ?_, ?_⟩
  · simp only [ofScript_eq_ok_iff]
    exact Outcome.exists_forall₂_iff
  · intro error describe
    rfl
  · intro bare
    apply ofScript_congr
    rw [String.toList_ofList, Text.lines_withReturns bare]
  · intro spaced h changes
    have hcontent : contentLines (.ofList spaced) = contentLines script := by
      unfold contentLines
      rw [String.toList_ofList]
      exact h.filter_lines
    rw [ofScript_eq_ok_iff, ofScript_eq_ok_iff, hcontent]

-- The last line has no line feed.
def openScript : String := "[\"title\",\"draft\"]\n[\"ghost\"]"

def spacedScript : String := "\u2003\r\n[\"title\",\"draft\"]\n\n \t\n[\"ghost\"]"

theorem spaced_openScript : Text.Spaced openScript.toList spacedScript.toList := by
  have inner : Text.Spaced openScript.toList
      ("[\"title\",\"draft\"]\n".toList ++ "\n \t\n".toList ++ "[\"ghost\"]".toList) :=
    .insert _ .same (by decide) (List.all_eq_true.mp (by decide)) (.inl (by decide))
  have outer : Text.Spaced openScript.toList ([] ++ "\u2003\r\n".toList ++ _) :=
    .insert _ inner (by decide) (List.all_eq_true.mp (by decide)) (.inl (by decide))
  exact outer

theorem ofLine_title : ofLine "[\"title\",\"draft\"]".toList = .ok ⟨"title", .string "draft"⟩ := by
  cbv

theorem ofLine_ghost : ofLine "[\"ghost\"]".toList = .ok ⟨"ghost", .null⟩ := by cbv

theorem ofScript_reads_lines_spaced :
    '\r' ∉ openScript.toList ∧ Text.Spaced openScript.toList spacedScript.toList ∧
    let changes := [⟨"title", .string "draft"⟩, ⟨"ghost", .null⟩]
    ofScript (.ofList (Text.withReturns openScript.toList)) = .ok changes ∧
      ofScript (.ofList spacedScript.toList) = .ok changes := by
  have bare : '\r' ∉ openScript.toList := by decide
  obtain ⟨reads, -, -, -, returns, spaced⟩ := ofScript_reads_lines openScript
  have read := (reads _).mpr (.cons ofLine_title (.cons ofLine_ghost .nil))
  exact ⟨bare, spaced_openScript, (returns bare).trans read,
    (spaced _ spaced_openScript _).mpr read⟩

end Vetting.Change
