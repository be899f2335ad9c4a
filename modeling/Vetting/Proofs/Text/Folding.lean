import Vetting.Pattern.CharSet

namespace Vetting.Text

namespace FoldingRow

-- Whether the row folds a code point onto another.
def Folds (row : FoldingRow) (code folded : Nat) : Prop :=
  row.covers code = true ∧ (code : Int) + row.offset = folded

theorem le_of_covers {row : FoldingRow} {code : Nat} (h : row.covers code = true) :
    row.first ≤ code ∧ code ≤ row.last := by
  simp only [covers, Bool.and_eq_true, decide_eq_true_eq] at h
  exact h.1

-- Whether all numbers from one to another are code points of characters.
def areCodes (first last : Int) : Bool :=
  0 ≤ first && (last < 0xD800 || (0xDFFF < first && last < 0x110000))

-- What the row covers and what it folds onto are characters.
def isProper (row : FoldingRow) : Bool :=
  areCodes row.first row.last && areCodes (row.first + row.offset) (row.last + row.offset)

theorem isValidChar_of_areCodes {first last : Int} {code : Nat} (h : areCodes first last = true)
    (hfirst : first ≤ code) (hlast : code ≤ last) : code.isValidChar := by
  simp only [areCodes, Bool.and_eq_true, Bool.or_eq_true, decide_eq_true_eq] at h
  unfold Nat.isValidChar
  omega

end FoldingRow

theorem foldingRows_isProper : foldingRows.all (·.isProper) = true := by decide +kernel

theorem isProper_of_mem {row : FoldingRow} (h : row ∈ foldingRows) : row.isProper = true :=
  List.all_eq_true.mp foldingRows_isProper row h

theorem toNat_ofNat {code : Nat} (h : code.isValidChar) : (Char.ofNat code).toNat = code := by
  rw [Char.ofNat, dif_pos h]
  rfl

-- A character folds by a row that covers it, or is its own folding.
theorem fold_cases (c : Char) :
    (fold c = c ∧ ∀ row ∈ foldingRows, row.covers c.toNat = false) ∨
      ∃ row ∈ foldingRows, row.Folds c.toNat (fold c).toNat := by
  unfold fold
  cases h : foldingRows.find? (·.covers c.toNat) with
  | none => exact .inl ⟨rfl, by simpa using h⟩
  | some row =>
    have hrow := List.mem_of_find?_eq_some h
    have covers : row.covers c.toNat = true := by simpa using List.find?_some h
    have proper := isProper_of_mem hrow
    simp only [FoldingRow.isProper, Bool.and_eq_true] at proper
    have bounds := FoldingRow.le_of_covers covers
    have nonneg : 0 ≤ (c.toNat : Int) + row.offset := by
      have h := proper.2
      simp only [FoldingRow.areCodes, Bool.and_eq_true, decide_eq_true_eq] at h
      omega
    have valid : ((c.toNat : Int) + row.offset).toNat.isValidChar :=
      FoldingRow.isValidChar_of_areCodes proper.2 (by omega) (by omega)
    refine .inr ⟨row, hrow, covers, ?_⟩
    dsimp only
    rw [toNat_ofNat valid, Int.toNat_of_nonneg nonneg]

-- A character that differs from another only in case is the folding of it, or folds onto that.
theorem mem_caseVariants {c d : Char} (h : d ∈ caseVariants c) :
    d = fold c ∨ ∃ row ∈ foldingRows, row.Folds d.toNat (fold c).toNat := by
  obtain rfl | hsources := List.mem_cons.mp h
  · exact .inl rfl
  obtain ⟨code, hcode, rfl⟩ := List.mem_map.mp hsources
  obtain ⟨row, hrow, hsource⟩ := List.mem_filterMap.mp hcode
  unfold FoldingRow.source? at hsource
  dsimp only at hsource
  split at hsource
  · next holds =>
    obtain rfl := Option.some.inj hsource
    obtain ⟨image, covers⟩ : _ ∧ _ := by simpa only [Bool.and_eq_true, beq_iff_eq] using holds
    have proper := isProper_of_mem hrow
    simp only [FoldingRow.isProper, Bool.and_eq_true] at proper
    have bounds := FoldingRow.le_of_covers covers
    have valid := FoldingRow.isValidChar_of_areCodes proper.1 (Int.ofNat_le.mpr bounds.1)
      (Int.ofNat_le.mpr bounds.2)
    refine .inr ⟨row, hrow, ?_⟩
    rw [toNat_ofNat valid]
    exact ⟨covers, image⟩
  · cases hsource

section Ascii

-- The characters outside ASCII that fold onto ASCII letters: the long s and the sign of the kelvin.
def strays : List Char := ['\u017f', '\u212a']

-- The row folds capital letters of ASCII or a stray onto small ones, or keeps out of ASCII.
def FoldingRow.keepsAscii (row : FoldingRow) : Bool :=
  (0x41 ≤ row.first && row.last ≤ 0x5A && row.offset == 32) ||
    (128 ≤ row.first && (128 ≤ row.first + row.offset ||
      (row.first == row.last && (strays.map Char.toNat).contains row.first &&
        0x61 ≤ row.first + row.offset && row.first + row.offset ≤ 0x7A)))

theorem foldingRows_keepsAscii : foldingRows.all (·.keepsAscii) = true := by decide +kernel

-- What is folded onto ASCII or inside of it is a capital letter or a stray, and becomes a small
-- one.
theorem FoldingRow.Folds.letters {row : FoldingRow} (hrow : row ∈ foldingRows) {code folded : Nat}
    (h : row.Folds code folded) (ascii : code < 128 ∨ folded < 128) :
    ((0x41 ≤ code ∧ code ≤ 0x5A) ∨ code ∈ strays.map Char.toNat) ∧
      0x61 ≤ folded ∧ folded ≤ 0x7A := by
  have keeps := List.all_eq_true.mp foldingRows_keepsAscii row hrow
  have bounds := le_of_covers h.1
  have image := h.2
  simp only [keepsAscii, Bool.or_eq_true, Bool.and_eq_true, decide_eq_true_eq, beq_iff_eq,
    List.contains_iff_mem] at keeps
  obtain ⟨⟨lower, upper⟩, offset⟩ | ⟨outside, keeps | ⟨⟨⟨single, stray⟩, lower⟩, upper⟩⟩ := keeps
  · exact ⟨.inl (by omega), by omega⟩
  · omega
  · obtain rfl : code = row.first := by omega
    exact ⟨.inr stray, by omega⟩

theorem mem_strays_of_toNat {c : Char} (h : c.toNat ∈ strays.map Char.toNat) : c ∈ strays := by
  obtain ⟨d, hd, same⟩ := List.mem_map.mp h
  rwa [← Char.toNat_inj.mp same]

end Ascii

section Uncased

-- The row neither covers a code point between two, nor folds onto one.
def FoldingRow.avoids (first last : Nat) (row : FoldingRow) : Bool :=
  (row.last < first || last < row.first) &&
    (row.last + row.offset < first || last < row.first + row.offset)

-- No character between two shares its case with another.
def isUncasedRange (first last : Char) : Bool :=
  foldingRows.all (·.avoids first.toNat last.toNat)

theorem FoldingRow.Folds.outside {row : FoldingRow} {code folded first last : Nat}
    (avoids : row.avoids first last = true) (h : row.Folds code folded) :
    (code < first ∨ last < code) ∧ (folded < first ∨ last < folded) := by
  have bounds := le_of_covers h.1
  have image := h.2
  simp only [FoldingRow.avoids, Bool.and_eq_true, Bool.or_eq_true, decide_eq_true_eq] at avoids
  omega

theorem mem_caseVariants_of_isUncasedRange {first last d : Char}
    (uncased : isUncasedRange first last = true) (hfirst : first ≤ d) (hlast : d ≤ last)
    (c : Char) :
    d ∈ caseVariants c ↔ d = c := by
  have avoids := List.all_eq_true.mp uncased
  have hfirst : first.toNat ≤ d.toNat := hfirst
  have hlast : d.toNat ≤ last.toNat := hlast
  constructor
  · intro h
    obtain rfl | ⟨row, hrow, folds⟩ := mem_caseVariants h
    · obtain ⟨same, -⟩ | ⟨row, hrow, folds⟩ := fold_cases c
      · exact same
      · have := folds.outside (avoids row hrow)
        omega
    · have := folds.outside (avoids row hrow)
      omega
  · rintro rfl
    obtain ⟨same, -⟩ | ⟨row, hrow, folds⟩ := fold_cases d
    · exact List.mem_cons.mpr (.inl same.symm)
    · have := folds.outside (avoids row hrow)
      omega

end Uncased

section Case

def capitals : List Char := (List.range 26).map fun n => Char.ofNat (0x41 + n)

theorem toLower_of_not_mem {c : Char} (h : c ∉ capitals) : c.toLower = c := by
  unfold Char.toLower
  split
  · next letter =>
    have lower : 0x41 ≤ c.toNat := letter.1
    have upper : c.toNat ≤ 0x5A := letter.2
    refine absurd (List.mem_map.mpr ⟨c.toNat - 0x41, List.mem_range.mpr (by omega), ?_⟩) h
    rw [Nat.add_sub_cancel' lower, Char.ofNat_toNat]
  · rfl

-- What has no regard to the case of ASCII letters is seen from the capital ones.
theorem apply_toLower {α : Type} [BEq α] [LawfulBEq α] {f : Char → α}
    (letters : capitals.all (fun c => f c.toLower == f c) = true) (c : Char) :
    f c.toLower = f c := by
  by_cases capital : c ∈ capitals
  · exact eq_of_beq (List.all_eq_true.mp letters c capital)
  · rw [toLower_of_not_mem capital]

theorem fold_toLower (c : Char) : fold c.toLower = fold c := apply_toLower (by decide +kernel) c

theorem caseVariants_toLower (c : Char) : caseVariants c.toLower = caseVariants c := by
  rw [caseVariants, caseVariants, fold_toLower]

end Case

end Vetting.Text
