import Vetting.Proofs.Lists
import Vetting.Proofs.Pattern.Translation

namespace Vetting.Pattern

namespace Flags

-- The letters that may stand in flags.
def letters : List Char := ['i', 'm', 's', 'u', 'g', 'y']

-- What is wrong with a letter behind some others.
def faultOf (before : List Char) (c : Char) : FlagError :=
  if c ∈ before then .repeated c else .unsupported c

theorem isSome_add?_iff (flags : Flags) {c : Char} : (flags.add? c).isSome ↔ c ∈ letters := by
  unfold add? letters
  split <;> simp_all

-- Letters that are in order are passed over, and kept as seen.
theorem exists_readFrom_append (flags : Flags) {before : List Char}
    (distinct : Distinct (· ∈ letters) before) (rest : List Char) :
    ∃ next, readFrom flags [] (before ++ rest) = readFrom next before.reverse rest := by
  induction before using List.reverseRecOn generalizing rest with
  | nil => exact ⟨flags, rfl⟩
  | append_singleton before c ih =>
    obtain ⟨distinct, supported, fresh⟩ := distinct_append_singleton.mp distinct
    obtain ⟨next, passed⟩ := ih distinct (c :: rest)
    obtain ⟨later, added⟩ := Option.isSome_iff_exists.mp ((isSome_add?_iff next).mpr supported)
    refine ⟨later, ?_⟩
    rw [List.append_assoc, List.singleton_append, passed, readFrom, if_neg (by simpa using fresh),
      added, List.reverse_concat]

theorem readsDistinct_parse (text : String) :
    ReadsDistinct (· ∈ letters) faultOf text.toList (parse text) where
  accepts distinct := by
    obtain ⟨next, read⟩ := exists_readFrom_append {} distinct []
    rw [List.append_nil] at read
    exact ⟨next, read⟩
  refuses {before c after} split distinct fault := by
    obtain ⟨next, read⟩ := exists_readFrom_append {} distinct (c :: after)
    rw [parse, split, read, readFrom, faultOf]
    by_cases again : c ∈ before
    · rw [if_pos again, if_pos (by simpa using again)]
    · have unsupported : next.add? c = none := by
        rw [← Option.not_isSome_iff_eq_none, isSome_add?_iff]
        exact fault.resolve_right again
      rw [if_neg again, if_neg (by simpa using again), unsupported]

-- The letters that have a part in what is found.
def heeded : List Char := ['i', 'm', 's']

theorem parse_congr {text other : String} {flags flags' : Flags}
    (same : ∀ c ∈ heeded, c ∈ text.toList ↔ c ∈ other.toList) (read : parse text = .ok flags)
    (read' : parse other = .ok flags') : flags = flags' := by
  simp only [heeded, List.forall_mem_cons] at same
  obtain ⟨ignoreCase, multiLine, dotAll, -⟩ := same
  rw [parse_eq_ok read, parse_eq_ok read', decide_eq_decide.mpr ignoreCase,
    decide_eq_decide.mpr multiLine, decide_eq_decide.mpr dotAll]

end Flags

-- Nothing of the flags gets into the program but what they were read as.
theorem compile_alike {source other : PatternSource} (pattern : source.pattern = other.pattern)
    {flags : Flags} (read : Flags.parse source.flagText = .ok flags)
    (read' : Flags.parse other.flagText = .ok flags) :
    Outcome.Alike (fun compiled compiled' => ∀ text, compiled.isMatch text = compiled'.isMatch text)
      (compile source) (compile other) := by
  unfold compile
  rw [read, read', pattern]
  dsimp only
  cases Program.parse (Dialect.spell flags other.pattern) with
  | error fault => exact .error (CompileError.pattern fault)
  | ok program => exact .ok fun _ => rfl

-- Flags are accepted if their letters are among the six and occur once; otherwise the first letter
-- that breaks this is at fault, as a repetition if it is one. Two sources of one pattern whose
-- flags are accepted, and hold the same of the three letters that are heeded, fail to compile alike
-- or become patterns that answer alike on every text.
theorem flags_read_by_letter :
    (∀ text,
      ((∃ flags, Flags.parse text = .ok flags) ↔ Distinct (· ∈ Flags.letters) text.toList) ∧
      (∀ flags, Flags.parse text = .ok flags →
        (flags.ignoreCase = true ↔ 'i' ∈ text.toList) ∧
        (flags.multiLine = true ↔ 'm' ∈ text.toList) ∧
        (flags.dotAll = true ↔ 's' ∈ text.toList)) ∧
      ∀ error, Flags.parse text = .error error ↔
        ∃ place c, IsLeast {place | FaultAt (· ∈ Flags.letters) text.toList place} place ∧
          text.toList[place]? = some c ∧ error = Flags.faultOf (text.toList.take place) c) ∧
    ∀ source other : PatternSource, source.pattern = other.pattern →
      (∃ flags, Flags.parse source.flagText = .ok flags) →
      (∃ flags, Flags.parse other.flagText = .ok flags) →
      (∀ c ∈ Flags.heeded, c ∈ source.flagText.toList ↔ c ∈ other.flagText.toList) →
      Outcome.Alike
        (fun compiled compiled' => ∀ text, compiled.isMatch text = compiled'.isMatch text)
        (compile source) (compile other) := by
  constructor
  · intro text
    have reads := Flags.readsDistinct_parse text
    refine ⟨reads.exists_ok_iff, fun flags read => ?_, fun error => reads.eq_error_iff⟩
    rw [Flags.parse_eq_ok read]
    simp only [decide_eq_true_eq, and_self]
  · rintro source other pattern ⟨flags, read⟩ ⟨flags', read'⟩ same
    obtain rfl := Flags.parse_congr same read read'
    exact compile_alike pattern read read'

-- The same letters are heeded, in another order and with others between them.
theorem flags_read_by_letter_reordered :
    let source : PatternSource := ⟨"a.b", some "sgi"⟩
    let other : PatternSource := ⟨"a.b", some "iyus"⟩
    let flags : Flags := { ignoreCase := true, dotAll := true }
    Flags.parse source.flagText = .ok flags ∧ Flags.parse other.flagText = .ok flags ∧
      ('i' ∈ source.flagText.toList ∧ 'm' ∉ source.flagText.toList ∧
        's' ∈ source.flagText.toList) ∧
      (∀ c ∈ Flags.heeded, c ∈ source.flagText.toList ↔ c ∈ other.flagText.toList) ∧
      ∃ compiled compiled', compile source = .ok compiled ∧ compile other = .ok compiled' ∧
        compiled.isMatch "A\nB" = .ok true ∧ compiled'.isMatch "A\nB" = .ok true := by
  intro source other flags
  have read : Flags.parse source.flagText = .ok flags := by decide
  have read' : Flags.parse other.flagText = .ok flags := by decide
  have same : ∀ c ∈ Flags.heeded, c ∈ source.flagText.toList ↔ c ∈ other.flagText.toList := by
    simp [Flags.heeded, PatternSource.flagText, source, other]
  have answer : (·.isMatch "A\nB") <$> compile source = .ok (.ok true) := by decide +kernel
  obtain ⟨compiled, hcompile, found⟩ := Outcome.map_eq_ok.mp answer
  obtain ⟨reads, alike⟩ := flags_read_by_letter
  obtain ⟨ignoreCase, multiLine, dotAll⟩ := (reads source.flagText).2.1 flags read
  have letters : 'i' ∈ source.flagText.toList ∧ 'm' ∉ source.flagText.toList ∧
      's' ∈ source.flagText.toList :=
    ⟨ignoreCase.mp rfl, fun there => Bool.false_ne_true (multiLine.mpr there), dotAll.mp rfl⟩
  obtain ⟨error, failed, -⟩ | ⟨first, second, hfirst, hsecond, answers⟩ :=
    (alike source other rfl ⟨flags, read⟩ ⟨flags, read'⟩ same).cases
  · rw [hcompile] at failed
    cases failed
  · cases hcompile.symm.trans hfirst
    exact ⟨read, read', letters, same, compiled, second, hcompile, hsecond, found,
      (answers _).symm.trans found⟩

end Vetting.Pattern
