import Triage.Text.Lowercase

/-!
# Lower case of plain texts

The characters of ASCII are put into lower case one by one.  Any other text may depend on
what follows it, but only up to the first character that counts and has no case: what
stands in front of an underscore has the same lower case whatever stands behind it.
-/

namespace Triage.Text

variable {before word rest text : List Char} {mark c : Char}

/-! ## Characters of ASCII -/

/-- All characters are those of ASCII. -/
def IsAscii (text : List Char) : Prop := ∀ c ∈ text, c.toNat < 128

instance (text : List Char) : Decidable (IsAscii text) :=
  List.decidableBAll (fun c : Char => c.toNat < 128) text

theorem lowercaseAfter_of_isAscii (before : List Char) (ascii : IsAscii text) :
    lowercaseAfter before text = text.map Char.toLower := by
  induction text generalizing before with
  | nil => rfl
  | cons c text ih =>
      obtain ⟨small, asciiLater⟩ := List.forall_mem_cons.mp ascii
      have notSigma : c ≠ 'Σ' := by
        rintro rfl
        exact absurd small (by decide)
      rw [lowercaseAfter, if_neg notSigma, lowercaseOf, if_pos small, ih _ asciiLater]
      rfl

theorem toList_lowercase_of_isAscii {text : String} (ascii : IsAscii text.toList) :
    (lowercase text).toList = text.toList.map Char.toLower := by
  rw [lowercase, String.toList_ofList, lowercaseAfter_of_isAscii [] ascii]

/-- A character of ASCII that is no capital. -/
def IsLowerAscii (c : Char) : Prop := c.toNat < 128 ∧ c.toLower = c

instance (c : Char) : Decidable (IsLowerAscii c) := inferInstanceAs (Decidable (_ ∧ _))

theorem lowercase_of_isLowerAscii {text : String} (lower : ∀ c ∈ text.toList, IsLowerAscii c) :
    lowercase text = text := by
  rw [← String.toList_inj, toList_lowercase_of_isAscii fun c isIn => (lower c isIn).1,
    List.map_congr_left (g := id) fun c isIn => (lower c isIn).2, List.map_id]

/-! ## Texts with a mark inside -/

/-- What stands behind a character that counts does not decide about the first one. -/
theorem startsCased_append (word : List Char) (counts : isCaseIgnorable mark = false) :
    startsCased (word ++ mark :: rest) = startsCased (word ++ [mark]) := by
  induction word with
  | nil => simp [startsCased, counts]
  | cons c word ih =>
      by_cases ignorable : isCaseIgnorable c = true
      · simpa [startsCased, ignorable] using ih
      · simp [startsCased, ignorable]

/-- What stands in front of a character that counts is put into lower case by itself. -/
theorem lowercaseAfter_append (before word : List Char) (counts : isCaseIgnorable mark = false)
    (notSigma : mark ≠ 'Σ') :
    lowercaseAfter before (word ++ mark :: rest) =
      lowercaseAfter before (word ++ [mark]) ++
        lowercaseAfter (mark :: (word.reverse ++ before)) rest := by
  induction word generalizing before with
  | nil => simp [lowercaseAfter, notSigma]
  | cons c word ih =>
      have sigma : sigmaBetween before (word ++ mark :: rest) =
          sigmaBetween before (word ++ [mark]) := by
        rw [sigmaBetween, sigmaBetween, startsCased_append word counts]
      simp only [List.cons_append, lowercaseAfter, sigma, ih, List.reverse_cons, List.append_assoc,
        List.nil_append]

/-- A name that starts with a word and two underscores starts with their lower case when
it is put into lower case. -/
theorem toList_lowercase_append {word rest : String} (ascii : IsAscii rest.toList) :
    (lowercase (word ++ "__" ++ rest)).toList =
      (lowercase (word ++ "__")).toList ++ rest.toList.map Char.toLower := by
  have split (later : List Char) (ascii : IsAscii later) :
      lowercaseAfter [] (word.toList ++ '_' :: later) =
        lowercaseAfter [] (word.toList ++ ['_']) ++ later.map Char.toLower := by
    rw [lowercaseAfter_append [] word.toList (by decide +kernel) (by decide),
      lowercaseAfter_of_isAscii _ ascii]
  have front : (word ++ "__").toList = word.toList ++ '_' :: ['_'] := by
    simp
  have whole : (word ++ "__" ++ rest).toList = word.toList ++ '_' :: '_' :: rest.toList := by
    simp
  have asciiWhole : IsAscii ('_' :: rest.toList) :=
    List.forall_mem_cons.mpr ⟨by decide, ascii⟩
  have lowerFront := split ['_'] (by decide)
  have lowerWhole := split _ asciiWhole
  rw [← front] at lowerFront
  rw [← whole] at lowerWhole
  rw [lowercase, lowercase, String.toList_ofList, String.toList_ofList, lowerFront, lowerWhole,
    List.append_assoc]
  rfl

end Triage.Text
