import Vetting.Command.Run
import Vetting.Proofs.Content.RoundTrip
import Vetting.Proofs.Entry.Values
import Vetting.Proofs.Input.Script
import Vetting.Proofs.Sidebar.Replay

namespace Vetting

namespace Replay

-- A replay stops at the first change of a field that is not declared, by the number of the change.
theorem follow_stopped {number : Nat} {desk : Desk} {changes : List Change}
    {unknown : UnknownField} (complete : desk.entry.Complete)
    (h : (follow number desk changes).stopped = some unknown) :
    ∃ before change after, changes = before ++ change :: after ∧
      (∀ earlier ∈ before, earlier.field ∈ desk.entry.contentType.fieldIds) ∧
      change.field ∉ desk.entry.contentType.fieldIds ∧
      unknown = ⟨number + before.length, change.field⟩ := by
  induction changes generalizing number desk with
  | nil => cases h
  | cons change rest ih =>
    cases hset : desk.set? change.field change.value with
    | none =>
      simp only [follow, hset] at h
      refine ⟨[], change, rest, rfl, by simp, fun declared => ?_, (Option.some.inj h).symm⟩
      obtain ⟨next, known⟩ := complete.exists_set? declared change.value
      simp [Desk.set?, known] at hset
    | some next =>
      simp only [follow, hset] at h
      obtain ⟨entry, hentry, rfl⟩ := Desk.set?_eq_some hset
      obtain ⟨before, fault, after, rfl, declared, undeclared, rfl⟩ := ih (complete.set? hentry) h
      dsimp only at declared undeclared
      rw [Entry.contentType_set? hentry] at declared undeclared
      have first : change.field ∈ desk.entry.contentType.fieldIds :=
        (complete _).mp (Entry.set?_eq_some hentry).1
      refine ⟨change :: before, fault, after, rfl, List.forall_mem_cons.mpr ⟨first, declared⟩,
        undeclared, ?_⟩
      rw [List.length_cons, Nat.add_comm before.length, Nat.add_assoc]

-- A replay that runs has gone on from its first pass, on the same entry.
theorem run_stopped {options : Options} {entry : Entry} {changes : List Change} {replay : Replay}
    {unknown : UnknownField} (complete : entry.Complete)
    (hrun : run options entry changes = .ok replay) (h : replay.stopped = some unknown) :
    ∃ before change after, changes = before ++ change :: after ∧
      (∀ earlier ∈ before, earlier.field ∈ entry.contentType.fieldIds) ∧
      change.field ∉ entry.contentType.fieldIds ∧
      unknown = ⟨before.length + 1, change.field⟩ := by
  have sound : entry.contentType.check = .ok () := by
    obtain ⟨_, hopened, -⟩ := Outcome.bind_eq_ok.mp hrun
    obtain ⟨⟨⟩, sound, -⟩ := Outcome.bind_eq_ok.mp hopened
    exact Outcome.mapError_eq_ok.mp sound
  rw [run_eq_goOn (run_nil sound)] at hrun
  cases hrun
  have complete : (firstDesk options entry).entry.Complete := complete
  obtain ⟨before, change, after, split, declared, undeclared, rfl⟩ := follow_stopped complete h
  exact ⟨before, change, after, split, declared, undeclared,
    congrArg (UnknownField.mk · _) (Nat.add_comm ..)⟩

end Replay

namespace Change

-- A line that changes a field the content type does not declare.
def Undeclared (contentType : ContentType) (fieldId : String) (line : List Char) : Prop :=
  isBlankLine line = false ∧ fieldId ∉ contentType.fieldIds ∧
    ∃ value, ofLine line = .ok ⟨fieldId, value⟩

-- The first such line of a script, by its number from one on.
def FirstUndeclared (contentType : ContentType) (script : String) (number : Nat)
    (fieldId : String) : Prop :=
  ∃ earlier line later, Text.lines script.toList = earlier ++ line :: later ∧
    number = earlier.length + 1 ∧ Undeclared contentType fieldId line ∧
    ∀ line ∈ earlier, ∀ other, ¬Undeclared contentType other line

-- The lines of a script above the one with a number.
def linesAbove (script : String) (number : Nat) : List (List Char) :=
  (Text.lines script.toList).take (number - 1)

-- The first change of a field that is not declared stands on the first line with such a change,
-- whose number counts the changes before it and the blank lines above it.
theorem firstUndeclared_of_ofScript {contentType : ContentType} {script : String}
    {before after : List Change} {change : Change}
    (h : ofScript script = .ok (before ++ change :: after))
    (declared : ∀ earlier ∈ before, earlier.field ∈ contentType.fieldIds)
    (undeclared : change.field ∉ contentType.fieldIds) :
    ∃ number, FirstUndeclared contentType script number change.field ∧
      before.length + 1 + (linesAbove script number).countP isBlankLine = number := by
  have paired := ofScript_eq_ok h
  have first := List.forall₂_take_append _ _ _ paired
  obtain ⟨⟨line, number⟩, rest, read, -, hdrop⟩ :=
    List.forall₂_cons_right_iff.mp (List.forall₂_drop_append _ _ _ paired)
  have split := (List.take_append_drop before.length (filledLines script)).symm
  rw [hdrop] at split
  obtain ⟨earlier, later, lines, filled, rfl, hbefore⟩ := lines_of_filledLines split
  rw [hbefore] at first
  refine ⟨earlier.length + 1, ⟨earlier, line, later, lines, rfl,
    ⟨filled, undeclared, change.value, read⟩, ?_⟩, ?_⟩
  · have known := (Outcome.forall_mem_iff
      (p := fun line => ∀ change, ofLine line.1 = .ok change → change.field ∈ contentType.fieldIds)
      first fun line change (read : ofLine line.1 = .ok change) => by simp [read]).mpr declared
    rintro line hline other ⟨filled, unknown, value, hread⟩
    rw [← List.zipIdx_map_fst 1 earlier] at hline
    obtain ⟨numbered, hnumbered, rfl⟩ := List.mem_map.mp hline
    exact unknown (known _ (List.mem_filter.mpr ⟨hnumbered, by simp [filled]⟩) _ hread)
  · have above : linesAbove script (earlier.length + 1) = earlier := by
      rw [linesAbove, lines, Nat.add_sub_cancel, List.take_left]
    have count := length_filled_add_countP earlier 1
    rw [first.length_eq] at count
    rw [above, Nat.add_right_comm, count]

end Change

namespace Environment

theorem json_eq_ok {environment : Environment} {path text : String} {document : Json}
    (htext : environment.text path = .ok text) (h : Json.parse text = .ok document) :
    environment.json path = .ok document := by
  unfold json
  rw [htext]
  exact Outcome.mapError_eq_ok.mpr h

theorem contentType_eq_ok {environment : Environment} {path : String} {document : Json}
    {contentType : ContentType} (hjson : environment.json path = .ok document)
    (h : ContentType.parse document = .ok contentType) :
    environment.contentType path = .ok contentType := by
  unfold Environment.contentType
  rw [hjson]
  exact Outcome.mapError_eq_ok.mpr h

theorem entry_eq_ok {environment : Environment} {files : EntryFiles} {contentType : ContentType}
    {document : Json} {values : Json.Members}
    (htype : environment.contentType files.contentType = .ok contentType)
    (hjson : environment.json files.entry = .ok document)
    (h : EntryDocument.values? contentType files.locale document = some values) :
    environment.entry files = .ok (.ofValues contentType values) := by
  unfold entry
  simp only [htype, hjson, h, bind, Except.bind]
  rfl

end Environment

namespace Command

theorem text_ne_unknownField {environment : Environment} {path : String}
    {unknown : Replay.UnknownField} : environment.text path ≠ .error (.unknownField unknown) := by
  unfold Environment.text
  cases environment.read path <;> simp

theorem json_ne_unknownField {environment : Environment} {path : String}
    {unknown : Replay.UnknownField} : environment.json path ≠ .error (.unknownField unknown) := by
  intro h
  obtain h | ⟨text, -, h⟩ := Outcome.bind_eq_error.mp h
  · exact text_ne_unknownField h
  · obtain ⟨error, -, h⟩ := Outcome.mapError_eq_error.mp h
    cases h

theorem entry_ne_unknownField {environment : Environment} {files : EntryFiles}
    {unknown : Replay.UnknownField} : environment.entry files ≠ .error (.unknownField unknown) := by
  intro h
  obtain h | ⟨contentType, -, h⟩ := Outcome.bind_eq_error.mp h
  · obtain h | ⟨json, -, h⟩ := Outcome.bind_eq_error.mp h
    · exact json_ne_unknownField h
    · obtain ⟨error, -, h⟩ := Outcome.mapError_eq_error.mp h
      cases h
  · obtain h | ⟨json, -, h⟩ := Outcome.bind_eq_error.mp h
    · exact json_ne_unknownField h
    · cases hvalues : EntryDocument.values? contentType files.locale json <;>
        exact absurd (hvalues ▸ h) nofun

-- A replay that ends with a field that is not declared has read its script and its entry, and has
-- stopped at the field.
theorem stopped_of_result_replay {environment : Environment} {options : Options}
    {files : EntryFiles} {path : String} {unknown : Replay.UnknownField}
    (h : (run environment options (.replay files path)).result = .error (.unknownField unknown)) :
    ∃ script changes entry replay, environment.text path = .ok script ∧
      Change.ofScript script = .ok changes ∧ environment.entry files = .ok entry ∧
      Replay.run options entry changes = .ok replay ∧ replay.stopped = some unknown := by
  change (Outcome.ofExcept (runReplay environment options files path)).result = _ at h
  cases hreplay : runReplay environment options files path with
  | error error =>
    rw [hreplay] at h
    cases Except.error.inj h
    obtain h | ⟨script, -, h⟩ := Outcome.bind_eq_error.mp hreplay
    · exact absurd h text_ne_unknownField
    obtain h | ⟨changes, -, h⟩ := Outcome.bind_eq_error.mp h
    · obtain ⟨error, -, h⟩ := Outcome.mapError_eq_error.mp h
      cases h
    obtain h | ⟨entry, -, h⟩ := Outcome.bind_eq_error.mp h
    · exact absurd h entry_ne_unknownField
    obtain h | ⟨replay, -, h⟩ := Outcome.bind_eq_error.mp h
    · obtain ⟨error, -, h⟩ := Outcome.mapError_eq_error.mp h
      cases h
    · cases h
  | ok outcome =>
    rw [hreplay] at h
    obtain ⟨script, htext, hreplay⟩ := Outcome.bind_eq_ok.mp hreplay
    obtain ⟨changes, hchanges, hreplay⟩ := Outcome.bind_eq_ok.mp hreplay
    obtain ⟨entry, hentry, hreplay⟩ := Outcome.bind_eq_ok.mp hreplay
    obtain ⟨replay, hrun, hreplay⟩ := Outcome.bind_eq_ok.mp hreplay
    cases hreplay
    refine ⟨script, changes, entry, replay, htext, Outcome.mapError_eq_ok.mp hchanges, hentry,
      Outcome.mapError_eq_ok.mp hrun, ?_⟩
    cases hstopped : replay.stopped with
    | none =>
      simp only [Outcome.ofExcept, hstopped] at h
      cases h
    | some stopped =>
      simp only [Outcome.ofExcept, hstopped] at h
      cases h
      rfl

theorem complete_of_entry {environment : Environment} {files : EntryFiles} {entry : Entry}
    (h : environment.entry files = .ok entry) : entry.Complete := by
  obtain ⟨contentType, -, h⟩ := Outcome.bind_eq_ok.mp h
  obtain ⟨json, -, h⟩ := Outcome.bind_eq_ok.mp h
  cases hvalues : EntryDocument.values? contentType files.locale json with
  | none => exact absurd (hvalues ▸ h) nofun
  | some values =>
    rw [hvalues] at h
    cases h
    exact Entry.complete_ofValues contentType values

-- A replay that ends with a field that is not declared names the field on the first line at fault.
-- The number it gives falls behind that of the line by the number of the blank lines above, so it
-- is the number of the line exactly if none of them is blank.
theorem replay_unknownField {environment : Environment} {options : Options} {files : EntryFiles}
    {path : String} {unknown : Replay.UnknownField}
    (h : (run environment options (.replay files path)).result = .error (.unknownField unknown)) :
    ∃ script entry number, environment.text path = .ok script ∧
      environment.entry files = .ok entry ∧
      Change.FirstUndeclared entry.contentType script number unknown.fieldId ∧
      unknown.number + (Change.linesAbove script number).countP Change.isBlankLine = number ∧
      (unknown.number = number ↔
        ∀ line ∈ Change.linesAbove script number, Change.isBlankLine line = false) ∧
      (CommandError.unknownField unknown).messageWith environment.describe =
        s!"invalid input: change line {unknown.number}: unknown field '{unknown.fieldId}'" := by
  obtain ⟨script, changes, entry, replay, htext, hchanges, hentry, hrun, hstopped⟩ :=
    stopped_of_result_replay h
  obtain ⟨before, change, after, rfl, declared, undeclared, rfl⟩ :=
    Replay.run_stopped (complete_of_entry hentry) hrun hstopped
  obtain ⟨number, first, count⟩ :=
    Change.firstUndeclared_of_ofScript hchanges declared undeclared
  refine ⟨script, entry, number, htext, hentry, first, count, ?_, rfl⟩
  have exact : before.length + 1 = number ↔
      (Change.linesAbove script number).countP Change.isBlankLine = 0 := by omega
  rw [exact, List.countP_eq_zero]
  simp

def titleContentType : ContentType := { fields := [{ id := "title", type := .text }] }

def titleContentTypeText : String :=
  "\x7b\"fields\":[\x7b\"disabled\":false,\"id\":\"title\",\"localized\":false," ++
  "\"omitted\":false,\"required\":false,\"type\":\"Text\",\"validations\":[]\x7d]\x7d"

def emptyEntryText : String := "\x7b\x7d"

-- The second change, of a field that is not declared, is on the third line.
def gappedScript : String := "[\"title\",\"draft\"]\n \n[\"ghost\"]\n"

def gappedEnvironment : Environment where
  read
    | "type" => some titleContentTypeText
    | "entry" => some emptyEntryText
    | "script" => some gappedScript
    | _ => none
  canAppend _ := false

def titleEntryFiles : EntryFiles := { contentType := "type", entry := "entry" }

theorem parse_titleContentType :
    ContentType.parse titleContentType.toJson = .ok titleContentType := by
  have proper : titleContentType.IsProper := by
    unfold ContentType.IsProper FieldType.IsProper
    decide
  rw [ContentType.parse_toJson proper]
  rfl

theorem json_titleContentType : gappedEnvironment.json "type" = .ok titleContentType.toJson := by
  have text : gappedEnvironment.text "type" = .ok titleContentTypeText := rfl
  have parsed : Json.parse titleContentTypeText = .ok titleContentType.toJson := by cbv
  exact Environment.json_eq_ok text parsed

theorem json_emptyEntry : gappedEnvironment.json "entry" = .ok (.object []) := by
  have text : gappedEnvironment.text "entry" = .ok emptyEntryText := rfl
  have parsed : Json.parse emptyEntryText = .ok (.object []) := by cbv
  exact Environment.json_eq_ok text parsed

theorem entry_gappedEnvironment :
    gappedEnvironment.entry titleEntryFiles = .ok (.ofValues titleContentType []) := by
  have read := Environment.contentType_eq_ok json_titleContentType parse_titleContentType
  exact Environment.entry_eq_ok read json_emptyEntry rfl

theorem result_gappedEnvironment :
    (run gappedEnvironment {} (.replay titleEntryFiles "script")).result =
      .error (.unknownField ⟨2, "ghost"⟩) := by
  have script : gappedEnvironment.text "script" = .ok gappedScript := rfl
  have changes : Change.ofScript gappedScript =
      .ok [⟨"title", .string "draft"⟩, ⟨"ghost", .null⟩] := by cbv
  change (Outcome.ofExcept (runReplay gappedEnvironment {} titleEntryFiles "script")).result = _
  unfold runReplay
  rw [script, entry_gappedEnvironment]
  simp only [bind, Except.bind, changes, Except.mapError]
  rfl

theorem replay_unknownField_gapped :
    (run gappedEnvironment {} (.replay titleEntryFiles "script")).result =
      .error (.unknownField ⟨2, "ghost"⟩) ∧
    ∃ number, Change.FirstUndeclared titleContentType gappedScript number "ghost" ∧
      2 + (Change.linesAbove gappedScript number).countP Change.isBlankLine = number := by
  obtain ⟨script, entry, number, hscript, hentry, first, count, -⟩ :=
    replay_unknownField result_gappedEnvironment
  cases hscript
  cases hentry.symm.trans entry_gappedEnvironment
  rw [Entry.ofValues_contentType] at first
  exact ⟨result_gappedEnvironment, number, first, count⟩

theorem firstUndeclared_gappedScript :
    Change.FirstUndeclared titleContentType gappedScript 3 "ghost" := by
  refine ⟨["[\"title\",\"draft\"]".toList, [' ']], "[\"ghost\"]".toList, [], by decide, rfl,
    ⟨by decide, by decide, .null, Change.ofLine_ghost⟩, ?_⟩
  intro line hline other ⟨filled, undeclared, value, read⟩
  obtain rfl | rfl := List.mem_pair.mp hline
  · cases Change.ofLine_title.symm.trans read
    exact undeclared (by decide)
  · exact absurd filled (by decide)

-- The number is not always that of the line.
theorem replay_misnames_line :
    ¬∀ environment options files path unknown,
      (run environment options (.replay files path)).result = .error (.unknownField unknown) →
      ∀ script entry number, environment.text path = .ok script →
        environment.entry files = .ok entry →
        Change.FirstUndeclared entry.contentType script number unknown.fieldId →
        unknown.number = number := by
  intro h
  have first := firstUndeclared_gappedScript
  have same := h gappedEnvironment {} titleEntryFiles "script" _ result_gappedEnvironment
    gappedScript _ 3 rfl entry_gappedEnvironment first
  cases same

end Command
end Vetting
