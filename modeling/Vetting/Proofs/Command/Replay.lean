import Vetting.Command.Run
import Vetting.Proofs.Sidebar.Replay
import Vetting.Proofs.Verdict.Evaluation

namespace Vetting

namespace Command

-- Validating an entry from scratch ends with a verdict, and the verdict is valid.
def Accepts (options : Options) (entry : Entry) : Prop :=
  ∃ verdict warnings, verdictOn options entry = .ok (verdict, warnings) ∧ verdict.valid = true

theorem accepts_iff {options : Options} {entry : Entry} :
    Accepts options entry ↔
      ∃ verdict, entry.evaluate options = .ok verdict ∧ verdict.valid = true := by
  unfold Accepts verdictOn Entry.evaluate
  simp only [Outcome.bind_eq_ok, Outcome.mapError_eq_ok]
  constructor
  · rintro ⟨verdict, warnings, ⟨⟨checklist, problems⟩, hcompile, _, hverdict, h⟩, valid⟩
    cases h
    exact ⟨verdict, ⟨_, hcompile, hverdict⟩, valid⟩
  · rintro ⟨verdict, ⟨⟨checklist, problems⟩, hcompile, hverdict⟩, valid⟩
    exact ⟨verdict, problems, ⟨_, hcompile, _, hverdict, rfl⟩, valid⟩

-- Two entries of one content type with the same values are accepted alike.
theorem accepts_congr {options : Options} {entry other : Entry}
    (same : entry.contentType = other.contentType)
    (values : ∀ id, entry.value? id = other.value? id) :
    Accepts options entry ↔ Accepts options other := by
  unfold Accepts verdictOn
  simp only [same, Checklist.evaluate_congr values]

-- Whatever the format of the output, the result is true exactly for an entry that is accepted.
theorem result_validate_eq_true_iff {environment : Environment} {options : Options}
    {files : EntryFiles} {format : OutputFormat} {entry : Entry}
    (h : environment.entry files = .ok entry) :
    (run environment options (.validate files format)).result = .ok true ↔
      Accepts options entry := by
  change (Outcome.ofExcept (runValidate environment options files format)).result = _ ↔ _
  unfold runValidate Accepts
  rw [h]
  cases hv : verdictOn options entry with
  | error error => simp [hv, bind, Except.bind, Outcome.ofExcept, Outcome.ofError]
  | ok result =>
    obtain ⟨verdict, warnings⟩ := result
    cases format <;>
      simp [hv, bind, Except.bind, pure, Except.pure, Outcome.ofExcept]

theorem run_replay {environment : Environment} {options : Options} {files : EntryFiles}
    {path script : String} {changes : List Change} {entry : Entry} {replay : Replay}
    (htext : environment.text path = .ok script) (hchanges : Change.ofScript script = .ok changes)
    (hentry : environment.entry files = .ok entry)
    (hreplay : Replay.run options entry changes = .ok replay) (hstopped : replay.stopped = none) :
    run environment options (.replay files path) =
      { stdout := replay.notes.map (·.text), result := .ok replay.status.isValid } := by
  change Outcome.ofExcept (runReplay environment options files path) = _
  unfold runReplay
  rw [htext, hentry]
  simp [hchanges, hreplay, hstopped, bind, Except.bind, pure, Except.pure, Except.mapError,
    Outcome.ofExcept]

end Command

namespace Replay

open Command (Accepts)

variable {options : Options} {contentType : ContentType} {values : Json.Members}

-- The map of some values, overwritten by changes in order.
def valuesAfter (values : Json.Members) (changes : List Change) : Json.Members :=
  changes.foldl (fun values change => values.insert change.field change.value) (.ofList values)

theorem valuesAfter_eq (values : Json.Members) (changes : List Change) :
    valuesAfter values changes = .ofList (values ++ changes.map member) := by
  rw [Json.Members.ofList, List.foldl_append, List.foldl_map]
  rfl

-- The entry on the desk has come to its values step by step; an entry with the same values from the
-- start is judged alike.
theorem Follows.statusOf_eq_valid_iff_accepts {done : List Change} {desk : Desk}
    (follows : Follows options contentType values done desk) :
    statusOf desk = .valid ↔
      Accepts options (.ofValues contentType (valuesAfter values done)) := by
  rw [follows.statusOf_eq_valid_iff, ← Command.accepts_iff, follows.entry, valuesAfter_eq]
  apply Command.accepts_congr
  · rw [Entry.ofValues_contentType, Entry.ofValues_contentType]
  · exact fun id => (Entry.value?_ofValues_ofList contentType _ id).symm

-- What a replay tells of its first changes. A replay of no more than these has run one pass more
-- than there are changes, the whole replay goes on from it, and the note on the last of them is
-- positive exactly if the values after them are accepted.
def TellsAfter (options : Options) (contentType : ContentType) (values : Json.Members)
    (changes : List Change) (replay : Replay) (count : Nat) : Prop :=
  ∃ earlier status,
    run options (.ofValues contentType values) (changes.take count) = .ok earlier ∧
    replay = earlier.goOn (changes.drop count) ∧
    (earlier.desk.sidebar? sidebarName).map (·.passes) = some (count + 1) ∧
    replay.notes[count]? =
      some ⟨(changes.take count).getLast?.map fun change => (count, change.field), status⟩ ∧
    (status.note = "positive" ↔
      Accepts options (.ofValues contentType (valuesAfter values (changes.take count))))

theorem Faithful.tellsAfter {before : List Change} {earlier : Replay}
    (faithful : Faithful options contentType values before earlier)
    (hrun : run options (.ofValues contentType values) before = .ok earlier)
    (after : List Change) :
    TellsAfter options contentType values (before ++ after) (earlier.goOn after)
      before.length := by
  unfold TellsAfter
  rw [List.take_left, List.drop_left]
  refine ⟨earlier, earlier.status, hrun, rfl, faithful.follows.passes, ?_, ?_⟩
  · have noted : before.length < earlier.notes.length := by
      rw [faithful.length_notes]
      exact Nat.lt_succ_self _
    change (earlier.notes ++ _)[before.length]? = _
    rw [List.getElem?_append_left noted, faithful.last_note]
  · rw [← faithful.follows.statusOf_eq_valid_iff_accepts]
    change (statusOf earlier.desk).note = _ ↔ _
    cases statusOf earlier.desk <;> decide

def shortTitle : ContentType where
  fields := [{
    id := "title"
    type := .text
    required := true
    validations := [⟨[("size", .ofPairs [("min", .ofNat 3)])]⟩] }]

def titleValues : Json.Members := [("title", .string "no"), ("subtitle", .null)]

-- The second change sets a number, on which the evaluation fails, and the third one a text again.
def titleChanges : List Change :=
  [⟨"title", .string "draft"⟩, ⟨"title", .ofNat 5⟩, ⟨"title", .string "final"⟩]

end Replay
end Vetting
