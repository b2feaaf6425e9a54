import GraphBinding.Proofs.DeclarationReading
import GraphBinding.Proofs.DescriptionBlocks
import GraphBinding.Proofs.SharedBody

namespace GraphBinding

/-! Comments of the declaration module, as texts.

The ends of a comment that a documentation holds are broken up in each of its lines, and none
arises between two lines.  So a comment ends with its last line, at any indentation.
-/

theorem Splits.ended {apart : Char → Prop} {occurs : List Char → Prop}
    (splits : Splits apart occurs) (newline : apart '\n') (lines : List (List Char))
    (last : List Char) :
    occurs (Sdl.ended lines ++ last) ↔ (∃ line ∈ lines, occurs line) ∨ occurs last := by
  induction lines with
  | nil => simp [Sdl.ended]
  | cons line later ih =>
      rw [Sdl.ended_cons, splits.append _ _ newline, ih, List.exists_mem_cons_iff, or_assoc]

namespace Source

/-- What stands before a line that is not empty in some blocks around it. -/
def indentation (depth : Nat) : List Char := List.replicate (2 * depth) ' '

theorem toList_indentLine_iterate (depth : Nat) {line : String} (filled : line ≠ "") :
    (indentLine^[depth] line).toList = indentation depth ++ line.toList := by
  induction depth with
  | zero => rfl
  | succ depth ih =>
      have still : indentLine^[depth] line ≠ "" := by
        intro empty
        rw [empty, String.toList_empty, eq_comm, List.append_eq_nil_iff] at ih
        exact filled (String.toList_eq_nil_iff.1 ih.2)
      have deeper : indentation (depth + 1) = "  ".toList ++ indentation depth := by
        simp [indentation, Nat.mul_add, List.replicate_add, Nat.add_comm, List.replicate_succ]
      rw [Function.iterate_succ_apply', indentLine, if_neg (by simpa using still),
        String.toList_append, ih, deeper, List.append_assoc]

theorem toList_text_ended (lines : List String) :
    (text lines).toList = Sdl.ended (lines.map String.toList) := by
  simp [text, Sdl.ended, String.toList_join, List.flatMap_map]

end Source

namespace DeclarationModule

open Source

def commentEnd : List Char := ['*', '/']

theorem splits_commentEnd : Splits (· ∉ commentEnd) (commentEnd <:+: ·) where
  nil := by decide
  append _ _ apart := infix_append_cons (by decide) apart

theorem commentEnd_infix_cons {c : Char} {text : List Char}
    (apart : ∀ rest, c = '*' → text = '/' :: rest → False) :
    commentEnd <:+: c :: text ↔ commentEnd <:+: text := by
  rw [List.infix_cons_iff, or_iff_right]
  intro begins
  obtain ⟨rest, same⟩ := begins
  obtain ⟨star, slash⟩ := List.cons.inj same
  exact apart rest star.symm slash.symm

theorem endsComment_iff {text : List Char} :
    Outline.endsComment text = true ↔ commentEnd <:+: text := by
  fun_induction Outline.endsComment text with
  | case1 rest => exact iff_of_true rfl (List.prefix_append commentEnd rest).isInfix
  | case2 c rest apart ih => rw [ih, commentEnd_infix_cons apart]
  | case3 => decide

/-- Where a text without one is followed by the end of a comment, it ends there only: none begins
in the text, since what follows does not begin with a slash. -/
theorem commentEnd_last {text before after : List Char} (quiet : ¬ commentEnd <:+: text)
    (same : text ++ ['*', '/', '\n'] = before ++ '*' :: '/' :: after) : after = ['\n'] := by
  rcases List.append_eq_append_iff.1 same with ⟨between, -, rest⟩ | ⟨between, whole, rest⟩
  · match between, rest with
    | [], rest => simpa using rest.symm
    | [_], rest => simp at rest
    | _ :: _ :: between, rest =>
        have tooLong := congrArg List.length rest
        simp only [List.length_append, List.length_cons, List.length_nil] at tooLong
        omega
  · match between, whole, rest with
    | [], _, rest => simpa using rest
    | [_], _, rest => simp at rest
    | star :: slash :: between, whole, rest =>
        simp only [List.cons_append, List.cons.injEq] at rest
        obtain ⟨rfl, rfl, -⟩ := rest
        exact absurd ⟨before, between, by rw [whole]; simp [commentEnd]⟩ quiet

/-- A text with a backslash in every end of a comment that it has, from left to right. -/
inductive BreaksUp : List Char → List Char → Prop
  | none {text} (quiet : ¬ commentEnd <:+: text) : BreaksUp text text
  | next {before text broken} (quiet : ¬ commentEnd <:+: before) (rest : BreaksUp text broken) :
      BreaksUp (before ++ '*' :: '/' :: text) (before ++ '*' :: '\\' :: '/' :: broken)

theorem BreaksUp.cons {c : Char} {text broken : List Char} (breaks : BreaksUp text broken)
    (apart : ∀ rest, c = '*' → text = '/' :: rest → False) :
    BreaksUp (c :: text) (c :: broken) := by
  cases breaks with
  | none quiet => exact .none ((commentEnd_infix_cons apart).not.2 quiet)
  | @next before text broken quiet rest =>
      have still : ¬ commentEnd <:+: c :: before := by
        rw [commentEnd_infix_cons]
        · exact quiet
        · intro after star slash
          exact apart _ star (by rw [slash, List.cons_append])
      exact .next still rest

theorem breaksUp_escapeCommentEnd (text : List Char) : BreaksUp text (escapeCommentEnd text) := by
  fun_induction escapeCommentEnd text with
  | case1 rest ih => exact @BreaksUp.next [] rest _ splits_commentEnd.nil ih
  | case2 c rest apart ih => exact ih.cons apart
  | case3 => exact .none splits_commentEnd.nil

/-- How a line shows in a comment, without its indentation. -/
inductive ShowsAs : String → List Char → Prop
  | empty : ShowsAs "" [' ', '*']
  | filled {line broken} (filled : line ≠ "") (breaks : BreaksUp line.toList broken) :
      ShowsAs line (' ' :: '*' :: ' ' :: broken)

theorem showsAs_commentLine (line : String) : ShowsAs line (commentLine line).toList := by
  by_cases empty : line = ""
  · subst empty
    exact .empty
  · have shown : (commentLine line).toList = ' ' :: '*' :: ' ' :: escapeCommentEnd line.toList := by
      simp [commentLine, empty]
    rw [shown]
    exact .filled empty (breaksUp_escapeCommentEnd line.toList)

theorem commentLine_quiet (line : String) : ¬ commentEnd <:+: (commentLine line).toList := by
  unfold commentLine
  split
  · decide
  · have broken : ¬ commentEnd <:+: escapeCommentEnd line.toList := by
      rw [← endsComment_iff, Outline.Dialect.endsComment_escapeCommentEnd]
      exact Bool.false_ne_true
    simpa [commentEnd_infix_cons] using broken

theorem comment_filled {lines : List String} : ∀ line ∈ comment lines, line ≠ "" := by
  unfold comment
  split
  · exact List.forall_mem_nil _
  · simp only [List.cons_append, List.forall_mem_cons, List.forall_mem_append, List.forall_mem_map]
    refine ⟨by decide, fun line _ => ?_, by decide, List.forall_mem_nil _⟩
    unfold commentLine
    split <;> simp

/-- What has a comment. -/
inductive Subject where
  | model (name : String)
  | field (parent name : String)
  | enum (name : String)

namespace Subject

def names : Subject → List String
  | model name => [name]
  | field parent name => [parent, name]
  | enum name => [name]

def guide : Subject → List String
  | model name => modelGuide name
  | field parent name => fieldGuide parent name
  | enum name => enumGuide name

theorem guide_unbroken {subject : Subject}
    (unbroken : ∀ name ∈ subject.names, '\n' ∉ name.toList) :
    ∀ line ∈ subject.guide, '\n' ∉ line.toList := by
  cases subject with
  | model name => exact Outline.modelGuide_unbroken (unbroken name (by simp [names]))
  | field parent name =>
      exact Outline.fieldGuide_unbroken (unbroken parent (by simp [names]))
        (unbroken name (by simp [names]))
  | enum name => exact Outline.enumGuide_unbroken (unbroken name (by simp [names]))

end Subject

/-- A comment as it is written in some blocks. -/
def commentAt (depth : Nat) (lines : List String) : String :=
  text ((comment lines).map indentLine^[depth])

variable {lines : List String} (depth : Nat)

theorem indented_comment :
    (comment lines).map (fun line => (indentLine^[depth] line).toList) =
      (comment lines).map fun line => indentation depth ++ line.toList :=
  List.map_congr_left fun line member =>
    toList_indentLine_iterate depth (comment_filled line member)

theorem textLines_commentAt (unbroken : ∀ line ∈ lines, '\n' ∉ line.toList) :
    textLines (commentAt depth lines) =
      (comment lines).map (fun line => indentation depth ++ line.toList) ++ [[]] := by
  have separate : ∀ line ∈ comment lines,
      textLines (indentLine^[depth] line) = [(indentLine^[depth] line).toList] := by
    intro line member
    have plain := (@Outline.Dialect.reads_comment Outline.declaration [] lines unbroken).unbroken
      line member
    refine textLines_unbroken ?_
    rw [toList_indentLine_iterate depth (comment_filled line member)]
    simp [indentation, plain]
  rw [commentAt, textLines_text, List.flatMap_map, List.flatMap_congr separate,
    ← List.map_eq_flatMap, indented_comment]

theorem toList_commentAt :
    (commentAt depth lines).toList =
      Sdl.ended ((comment lines).map fun line => indentation depth ++ line.toList) := by
  rw [commentAt, toList_text_ended, List.map_map, ← indented_comment]
  rfl

theorem commentEnd_indented {line : List Char} :
    commentEnd <:+: indentation depth ++ line ↔ commentEnd <:+: line := by
  refine splits_commentEnd.indented fun c blank => ?_
  rw [List.eq_of_mem_replicate blank]
  decide

theorem comment_ends_last {before after : List Char}
    (same : (commentAt depth lines).toList = before ++ '*' :: '/' :: after) : after = ['\n'] := by
  rw [toList_commentAt] at same
  by_cases silent : lines = []
  · simp [silent, comment, Sdl.ended] at same
  · have above : comment lines = ("/**" :: lines.map commentLine) ++ [" */"] := by
      simp [comment, silent]
    have each : ∀ line ∈ "/**" :: lines.map commentLine, ¬ commentEnd <:+: line.toList := by
      rw [List.forall_mem_cons, List.forall_mem_map]
      exact ⟨by decide, fun line _ => commentLine_quiet line⟩
    have quiet : ¬ commentEnd <:+: Sdl.ended (("/**" :: lines.map commentLine).map fun line =>
        indentation depth ++ line.toList) ++ (indentation depth ++ [' ']) := by
      rw [splits_commentEnd.ended (by decide), commentEnd_indented, not_or]
      refine ⟨fun found => ?_, by decide⟩
      obtain ⟨shown, member, occurs⟩ := found
      obtain ⟨line, above, rfl⟩ := List.mem_map.1 member
      exact each line above ((commentEnd_indented depth).1 occurs)
    refine commentEnd_last quiet (Eq.trans ?_ same)
    rw [above, List.map_append]
    simp [Sdl.ended]

end DeclarationModule

open DeclarationModule Source in
/-- A comment is empty if there is nothing to say.  Otherwise it has a first and a last line, with
one line between them for each line of the documentation or of the guide, in order, and it is not
ended before its last line. -/
theorem comments_end_in_place (settings : Settings) (documentation : Option String)
    {subject : Subject} (unbroken : ∀ name ∈ subject.names, '\n' ∉ name.toList) (depth : Nat) :
    let lines := commentText settings documentation subject.guide
    let written := commentAt depth lines
    (lines = [] → written = "") ∧
      (lines ≠ [] → ∃ shown, List.Forall₂ ShowsAs lines shown ∧
        textLines written = ("/**".toList :: shown ++ [" */".toList]).map
          (indentation depth ++ ·) ++ [[]] ∧
        ∀ before after, written.toList = before ++ '*' :: '/' :: after → after = ['\n']) := by
  intro lines written
  refine ⟨fun silent => ?_, fun speaks => ?_⟩
  · simp [written, commentAt, silent, comment, text]
  · refine ⟨lines.map fun line => (commentLine line).toList, ?_, ?_, ?_⟩
    · rw [List.forall₂_map_right_iff, List.forall₂_same]
      exact fun line _ => showsAs_commentLine line
    · have plain : ∀ line ∈ lines, '\n' ∉ line.toList :=
        Outline.commentText_unbroken settings documentation (Subject.guide_unbroken unbroken)
      rw [textLines_commentAt depth plain, comment, if_neg (by simpa using speaks)]
      simp
    · exact fun before after same => comment_ends_last depth same

/-- Ends of a comment, also one between further stars and slashes, and a line without any text. -/
def starredText : String := "**//\r\n\n/ ends */ here"

open DeclarationModule Source in
theorem comments_end_in_place_starred :
    let written := commentAt 1 (commentText {} (some starredText) (Subject.field "User" "id").guide)
    textLines written =
        ["  /**", "   * **\\//", "   *", "   * / ends *\\/ here", "   */", ""].map String.toList ∧
      ∀ before after, written.toList = before ++ '*' :: '/' :: after → after = ['\n'] := by
  obtain ⟨-, filled⟩ := @comments_end_in_place {} (some starredText) (.field "User" "id")
    (by decide) 1
  obtain ⟨shown, -, -, last⟩ := filled (by decide +kernel)
  exact ⟨by decide +kernel, last⟩

end GraphBinding
