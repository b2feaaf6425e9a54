import GraphBinding.Text.Words
import Mathlib.Data.List.Basic

namespace GraphBinding.Text

/-! Characters of names in camel case.

Words are made of letters and numbers, and no letter case leads from them to the sign that keys
of generated objects begin with.
-/

theorem isAlphanumeric_of_mem_pieces {name piece : List Char} (ofName : piece ∈ pieces name)
    {c : Char} (member : c ∈ piece) : isAlphanumeric c = true := by
  induction name generalizing piece with
  | nil =>
      rw [pieces, List.mem_singleton] at ofName
      subst ofName
      cases member
  | cons first rest ih =>
      by_cases alphanumeric : isAlphanumeric first = true
      · rw [pieces, if_pos alphanumeric] at ofName
        cases others : pieces rest with
        | nil =>
            rw [others, List.mem_singleton] at ofName
            subst ofName
            rwa [List.mem_singleton.1 member]
        | cons begun remaining =>
            rw [others] at ofName ih
            rcases List.mem_cons.1 ofName with rfl | later
            · rcases List.mem_cons.1 member with rfl | inBegun
              · exact alphanumeric
              · exact ih List.mem_cons_self inBegun
            · exact ih (List.mem_cons_of_mem _ later) member
      · rw [pieces, if_neg alphanumeric] at ofName
        rcases List.mem_cons.1 ofName with rfl | later
        · cases member
        · exact ih later member

theorem mem_of_mem_pieceWordsFrom {run : LetterRun} {current piece word : List Char} {c : Char}
    (ofPiece : word ∈ pieceWordsFrom run current piece) (member : c ∈ word) :
    c ∈ current ∨ c ∈ piece := by
  induction run, current, piece using pieceWordsFrom.induct with
  | case1 => cases ofPiece
  | case2 run current last =>
      rw [pieceWordsFrom, List.mem_singleton] at ofPiece
      subst ofPiece
      simpa [or_comm] using member
  | case3 run current first next rest ended ih =>
      rw [pieceWordsFrom, if_pos ended] at ofPiece
      rcases List.mem_cons.1 ofPiece with rfl | later
      · rcases List.mem_cons.1 (List.mem_reverse.1 member) with rfl | before
        · exact .inr List.mem_cons_self
        · exact .inl before
      · exact (ih later).elim (by simp) fun inRest => .inr (List.mem_cons_of_mem _ inRest)
  | case4 run current first next rest notEnded ended ih =>
      rw [pieceWordsFrom, if_neg notEnded, if_pos ended] at ofPiece
      rcases List.mem_cons.1 ofPiece with rfl | later
      · exact .inl (List.mem_reverse.1 member)
      · refine .inr ((ih later).elim (fun inFirst => ?_) (List.mem_cons_of_mem _))
        exact List.mem_cons.2 (.inl (List.mem_singleton.1 inFirst))
  | case5 run current first next rest notEnded notBefore ih =>
      rw [pieceWordsFrom, if_neg notEnded, if_neg notBefore] at ofPiece
      rcases ih ofPiece with inCurrent | inRest
      · rcases List.mem_cons.1 inCurrent with rfl | before
        · exact .inr List.mem_cons_self
        · exact .inl before
      · exact .inr (List.mem_cons_of_mem _ inRest)

theorem dollar_not_mem_words {name word : List Char} (ofName : word ∈ words name) :
    '$' ∉ word := by
  intro member
  obtain ⟨piece, isPiece, ofPiece⟩ := List.mem_flatMap.1 ofName
  have inPiece : '$' ∈ piece := (mem_of_mem_pieceWordsFrom ofPiece member).resolve_left (by simp)
  exact absurd (isAlphanumeric_of_mem_pieces isPiece inPiece) (by decide +kernel)

theorem eq_of_ofNat_eq_dollar {code : Nat} (same : Char.ofNat code = '$') : code = 0x24 := by
  have codes := congrArg Char.toNat same
  by_cases valid : code.isValidChar
  · rw [Char.ofNat, dif_pos valid] at codes
    exact codes
  · rw [Char.ofNat, dif_neg valid] at codes
    exact absurd codes (by decide)

theorem dollar_not_mem_caseForm {runs : List (Nat × Nat × Nat × Nat)}
    {sequences : List (Nat × List Nat)} (aboveRuns : ∀ run ∈ runs, 0x24 < run.2.2.2)
    (inSequences : ∀ sequence ∈ sequences, 0x24 ∉ sequence.2) {c : Char} (other : c ≠ '$') :
    '$' ∉ caseForm runs sequences c := by
  intro member
  unfold caseForm at member
  split at member
  · rename_i form found
    obtain ⟨code, inForm, image⟩ := List.mem_map.1 member
    rw [eq_of_ofNat_eq_dollar image] at inForm
    obtain ⟨before, after, split, -⟩ := List.lookup_eq_some_iff.1 found
    exact inSequences (c.toNat, form) (by simp [split]) inForm
  · split at member
    · rename_i first last step image found
      have code := eq_of_ofNat_eq_dollar (List.mem_singleton.1 member).symm
      have above := aboveRuns _ (List.mem_of_find?_eq_some found)
      dsimp only at above
      omega
    · exact other (List.mem_singleton.1 member).symm

theorem dollar_not_mem_toLower {c : Char} (other : c ≠ '$') : '$' ∉ toLower c :=
  dollar_not_mem_caseForm (by decide +kernel) (by decide +kernel) other

theorem dollar_not_mem_toUpper {c : Char} (other : c ≠ '$') : '$' ∉ toUpper c :=
  dollar_not_mem_caseForm (by decide +kernel) (by decide +kernel) other

theorem dollar_not_mem_lowerWord {word : List Char} (without : '$' ∉ word) :
    '$' ∉ lowerWord word := by
  induction word using lowerWord.induct with
  | case1 => exact without
  | case2 => decide
  | case3 c other =>
      rw [lowerWord, if_neg other]
      exact dollar_not_mem_toLower fun same => without (same ▸ List.mem_cons_self)
  | case4 c rest unlike ih =>
      rw [lowerWord, List.mem_append, not_or]
      · rw [List.mem_cons, not_or] at without
        exact ⟨dollar_not_mem_toLower (Ne.symm without.1), ih without.2⟩
      · exact unlike

theorem dollar_not_mem_capitalWord {word : List Char} (without : '$' ∉ word) :
    '$' ∉ capitalWord word := by
  cases word with
  | nil => exact without
  | cons c rest =>
      rw [List.mem_cons, not_or] at without
      rw [capitalWord, List.mem_append, not_or]
      exact ⟨dollar_not_mem_toUpper (Ne.symm without.1), dollar_not_mem_lowerWord without.2⟩

theorem dollar_not_mem_lowerCamel (name : String) : '$' ∉ (lowerCamel name).toList := by
  have ofWords : ∀ word ∈ words name.toList, '$' ∉ word := fun _ => dollar_not_mem_words
  unfold lowerCamel
  cases cut : words name.toList with
  | nil => decide
  | cons first others =>
      rw [cut] at ofWords
      simp only [String.toList_ofList, List.mem_append, List.mem_flatMap, not_or, not_exists,
        not_and]
      exact ⟨dollar_not_mem_lowerWord (ofWords first List.mem_cons_self), fun word inRest =>
        dollar_not_mem_capitalWord (ofWords word (List.mem_cons_of_mem _ inRest))⟩

end GraphBinding.Text
