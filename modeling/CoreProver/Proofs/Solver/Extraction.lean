import CoreProver.Proofs.Solver.Classification

/-!
# Texts taken from transcripts

A solver writes an error message, or its reason for not knowing, in quotes behind a mark, and a
bracket closes the line. A model stands on lines of its own. What surrounds such a text is removed
as often as it stands there: marks, brackets, blanks, quotes. The quotes keep all of this away from
the text inside, whatever brackets, blanks and marks it holds, so that a text comes out as it was
written exactly when it has no quotes at its own ends.
-/

namespace CoreProver.Transcript

/-- The line with a text in quotes behind a mark, and a bracket that closes it. -/
def quotedLine (mark text : List Char) : List Char :=
  mark ++ " \"".toList ++ text ++ "\")".toList

/-- The text neither starts nor ends with a double quote. -/
def Unquoted (text : List Char) : Prop := text.head? ≠ some '"' ∧ text.getLast? ≠ some '"'

/-- What the lines after `sat` say about the model: those that neither mention a reason nor start
with the mark of an error, joined by line feeds. -/
def modelText (rest : List (List Char)) : List Char :=
  ['\n'].intercalate <| rest.filter fun line =>
    ¬":reason-unknown".toList <:+: line ∧ ¬"(error".toList <+: Text.trimStart line

/-! ### Quoted texts -/

theorem endsOutside_quotes_iff (text : List Char) :
    Text.EndsOutside (· = '"') text ↔ Unquoted text := by
  simp only [Text.EndsOutside, Unquoted, decide_eq_false_iff_not]
  constructor
  · rintro ⟨hhead, hlast⟩
    exact ⟨fun h => hhead _ h rfl, fun h => hlast _ h rfl⟩
  · rintro ⟨hhead, hlast⟩
    exact ⟨fun c hc h => hhead (h ▸ hc), fun c hc h => hlast (h ▸ hc)⟩

theorem prefix_quotedLine (mark text : List Char) : mark <+: quotedLine mark text := by
  simp [quotedLine]

section Quoted

variable {mark : List Char} (hmark : mark.head? = some '(')
include hmark

/-- Blanks around a line with a quoted text are trimmed, and nothing else. -/
theorem trim_eq_quotedLine {text line : List Char}
    (h : Text.Surrounded Text.isBlank (quotedLine mark text) line) :
    Text.trim line = quotedLine mark text := by
  obtain ⟨word, rfl⟩ := List.head?_eq_some_iff.1 hmark
  have hline : quotedLine ('(' :: word) text =
      '(' :: (word ++ " \"".toList ++ text ++ ['"']) ++ [')'] := by
    simp [quotedLine]
  refine Text.trim_eq_iff.2 ⟨h, ?_⟩
  rw [hline]
  exact Text.endsOutside_cons_concat rfl rfl _

/-- The blank behind the mark ends the removal of marks, and the quotes end that of brackets and of
blanks. -/
theorem inside_quotedLine (text : List Char) :
    inside mark (quotedLine mark text) = trimQuotes ('"' :: text ++ ['"']) := by
  obtain ⟨word, rfl⟩ := List.head?_eq_some_iff.1 hmark
  have hline : quotedLine ('(' :: word) text =
      '(' :: word ++ (' ' :: '"' :: text ++ ['"'] ++ [')']) := by
    simp [quotedLine]
  have hmarks : ¬('(' :: word <+: ' ' :: '"' :: text ++ ['"'] ++ [')']) := by
    simp
  have hbrackets : Text.dropEndWhile (· = ')') (' ' :: '"' :: text ++ ['"'] ++ [')']) =
      ' ' :: '"' :: text ++ ['"'] :=
    Text.dropEndWhile_eq_iff.2 ⟨⟨[')'], by simp, rfl⟩,
      (Text.endsOutside_cons_concat rfl rfl ('"' :: text)).2⟩
  have hblanks : Text.trim (' ' :: '"' :: text ++ ['"']) = '"' :: text ++ ['"'] :=
    Text.trim_eq_iff.2 ⟨⟨[' '], [], List.forall_mem_singleton.2 rfl, by simp, by simp⟩,
      Text.endsOutside_cons_concat rfl rfl text⟩
  rw [inside, hline, Text.dropRepeated_append (List.cons_ne_nil _ _) hmarks, hbrackets, hblanks]

/-- A quoted text is read as it was written exactly when it has no quotes at its own ends. -/
theorem inside_quotedLine_eq_iff (text : List Char) :
    inside mark (quotedLine mark text) = text ↔ Unquoted text := by
  have hsurrounded : Text.Surrounded (· = '"') text ('"' :: text ++ ['"']) :=
    ⟨['"'], ['"'], by simp, by simp, rfl⟩
  rw [inside_quotedLine hmark, trimQuotes, Text.dropEnds_eq_iff, and_iff_right hsurrounded,
    endsOutside_quotes_iff]

end Quoted

/-! ### Details of answers -/

/-- The first line with the mark of a reason gives the reason. -/
theorem reason?_append {between : List (List Char)}
    (h : ∀ l ∈ between, ¬reasonMark <+: Text.trim l) {line : List Char}
    (hline : reasonMark <+: Text.trim line) (after : List (List Char)) :
    reason? (between ++ line :: after) =
      if (inside reasonMark (Text.trim line)).isEmpty then none
      else some (String.ofList (inside reasonMark (Text.trim line))) := by
  have hbetween : (between.map Text.trim).find? (fun l => reasonMark.isPrefixOf l) = none := by
    simpa [List.find?_eq_none] using h
  rw [reason?, List.map_append, List.find?_append, hbetween, Option.none_or, List.map_cons,
    List.find?_cons_of_pos (by simpa using hline)]

/-- A reason is read as it was written exactly when it says something and has no quotes at its own
ends. -/
theorem reason?_eq_some_iff {between : List (List Char)}
    (h : ∀ l ∈ between, ¬reasonMark <+: Text.trim l) {line reason : List Char}
    (hline : Text.Surrounded Text.isBlank (quotedLine reasonMark reason) line)
    (after : List (List Char)) :
    reason? (between ++ line :: after) = some (String.ofList reason) ↔
      reason ≠ [] ∧ Unquoted reason := by
  have htrim := trim_eq_quotedLine rfl hline
  have hmark : reasonMark <+: Text.trim line := htrim ▸ prefix_quotedLine reasonMark reason
  have hread := inside_quotedLine_eq_iff (show reasonMark.head? = some '(' from rfl) reason
  rw [reason?_append h hmark, htrim, ← hread]
  split_ifs with hempty
  · -- no reason is read, and the only text that would be read so is the empty one
    rw [List.isEmpty_iff] at hempty
    rw [hempty]
    exact ⟨nofun, fun hsome => absurd hsome.2.symm hsome.1⟩
  · rw [List.isEmpty_iff] at hempty
    rw [Option.some.injEq, String.ofList_inj]
    exact ⟨fun heq => ⟨heq ▸ hempty, heq⟩, And.right⟩

theorem isModelLine_iff (line : List Char) :
    isModelLine line = true ↔
      ¬":reason-unknown".toList <:+: line ∧ ¬errorMark <+: Text.trimStart line := by
  rw [← Text.contains_iff, ← List.isPrefixOf_iff_prefix]
  simp only [isModelLine, Bool.and_eq_true, Bool.not_eq_true', Bool.not_eq_true]

/-- The model is the text of the model lines without the blanks around it. -/
theorem exists_trimmed_model (rest : List (List Char)) :
    ∃ model, Text.Surrounded Text.isBlank model (modelText rest) ∧
      Text.EndsOutside Text.isBlank model ∧
      model? rest = if model = [] then none else some (String.ofList model) := by
  have hlines : rest.filter isModelLine = rest.filter fun line =>
      ¬":reason-unknown".toList <:+: line ∧ ¬"(error".toList <+: Text.trimStart line :=
    List.filter_congr fun line _ => by
      rw [Bool.eq_iff_iff, decide_eq_true_iff]
      exact isModelLine_iff line
  have hmodel : Text.trim (Text.joinWith ['\n'] (rest.filter isModelLine)) =
      Text.trim (modelText rest) := by
    rw [Text.joinWith_eq_intercalate, hlines, modelText]
  obtain ⟨hsurrounded, hends⟩ := Text.trim_eq_iff.1 (Eq.refl (Text.trim (modelText rest)))
  refine ⟨_, hsurrounded, hends, ?_⟩
  simp only [model?, hmodel, List.isEmpty_iff]

/-- What a transcript tells is taken from it without loss. The message on a deciding error line is
read as it was written exactly when it has no quotes at its own ends, whatever else it holds. The
same goes for a reason that is not empty, on the first line with the mark of a reason behind
`unknown`. The model behind `sat` is the text of all lines there, those about reasons and errors
apart, less the blanks around it as a whole, and it is missing exactly when nothing is left. -/
theorem texts_extracted_without_loss {stdout line : List Char} {rest : List (List Char)}
    (h : DecidedBy stdout line rest) (stderr : List Char) :
    (∀ message, Text.Surrounded Text.isBlank (quotedLine "(error".toList message) line →
      (classify stdout stderr = .error (String.ofList message) ↔ Unquoted message)) ∧
    (∀ between reasonLine after reason, Text.trim line = "unknown".toList →
      rest = between ++ reasonLine :: after →
      (∀ l ∈ between, ¬"(:reason-unknown".toList <+: Text.trim l) →
      Text.Surrounded Text.isBlank (quotedLine "(:reason-unknown".toList reason) reasonLine →
      (classify stdout stderr = .unknown (some (String.ofList reason)) ↔
        reason ≠ [] ∧ Unquoted reason)) ∧
    (Text.trim line = "sat".toList →
      ∃ model, Text.Surrounded Text.isBlank model (modelText rest) ∧
        Text.EndsOutside Text.isBlank model ∧
        classify stdout stderr =
          .disproved (if model = [] then none else some (String.ofList model))) := by
  refine ⟨fun message hline => ?_, ?_, fun hsat => ?_⟩
  · have htrim := trim_eq_quotedLine rfl hline
    have hmark : errorMark <+: Text.trim line := htrim ▸ prefix_quotedLine errorMark message
    rw [h.classify_eq (decision?_of_errorMark hmark), htrim, Decision.answer, Answer.error.injEq,
      String.ofList_inj]
    exact inside_quotedLine_eq_iff rfl message
  · rintro between reasonLine after reason hunknown rfl hbetween hline
    rw [h.classify_eq (decision?_congr "unknown".toList hunknown), Decision.answer,
      Answer.unknown.injEq]
    exact reason?_eq_some_iff hbetween hline after
  · obtain ⟨model, hsurrounded, hends, hmodel⟩ := exists_trimmed_model rest
    refine ⟨model, hsurrounded, hends, ?_⟩
    rw [← hmodel, h.classify_eq (decision?_congr "sat".toList hsat)]
    rfl

theorem texts_extracted_without_loss_of_nestedMarks :
    classify "; 1\r\n (error \"(error \"a\" (b))\")\t\r\nsat\n".toList "timeout".toList =
      .error "(error \"a\" (b))" ∧
    classify "(error \"\"a\")".toList [] ≠ .error "\"a" ∧
    classify "unknown\n(:t 1)\n(:reason-unknown \" (quit)) \")".toList [] =
      .unknown (some " (quit)) ") ∧
    classify "sat\n\n  (x 1)\n(error \"m\")\n (:reason-unknown \"\")\n\t)\n \n".toList [] =
      .disproved (some "(x 1)\n\t)") ∧
    classify "sat\n (error \"m\")\n \n".toList [] = .disproved none := by
  have hsat (stdout : List Char) (rest : List (List Char))
      (hlines : Text.lines stdout = "sat".toList :: rest) :
      classify stdout [] = .disproved (if Text.trim (modelText rest) = [] then none
        else some (String.ofList (Text.trim (modelText rest)))) := by
    have hline : DecidedBy stdout "sat".toList rest :=
      ⟨⟨.disproved, .sat rfl⟩, [], hlines, by simp⟩
    obtain ⟨model, hsurrounded, hends, hmodel⟩ := (texts_extracted_without_loss hline []).2.2 rfl
    rw [hmodel, Text.trim_eq_iff.2 ⟨hsurrounded, hends⟩]
  refine ⟨?_, ?_, ?_, ?_, ?_⟩
  · have hline : DecidedBy "; 1\r\n (error \"(error \"a\" (b))\")\t\r\nsat\n".toList
        " (error \"(error \"a\" (b))\")\t".toList ["sat".toList] :=
      ⟨⟨.error, .error (by decide)⟩, ["; 1".toList], rfl, by decide⟩
    refine ((texts_extracted_without_loss hline _).1 "(error \"a\" (b))".toList ?_).2 ?_
    · exact ⟨[' '], ['\t'], List.forall_mem_singleton.2 rfl, List.forall_mem_singleton.2 rfl, rfl⟩
    · exact ⟨by decide, by decide⟩
  · have hline : DecidedBy "(error \"\"a\")".toList "(error \"\"a\")".toList [] :=
      ⟨⟨.error, .error (by decide)⟩, [], rfl, by decide⟩
    refine mt ((texts_extracted_without_loss hline []).1 "\"a".toList ?_).1 ?_
    · exact ⟨[], [], by simp, by simp, rfl⟩
    · exact fun h => h.1 rfl
  · have hline : DecidedBy "unknown\n(:t 1)\n(:reason-unknown \" (quit)) \")".toList
        "unknown".toList
        ["(:t 1)".toList, "(:reason-unknown \" (quit)) \")".toList] :=
      ⟨⟨.unknown, .unknown rfl⟩, [], rfl, by decide⟩
    refine ((texts_extracted_without_loss hline []).2.1 ["(:t 1)".toList] _ []
      " (quit)) ".toList rfl rfl (by decide) ?_).2 ?_
    · exact ⟨[], [], by simp, by simp, rfl⟩
    · exact ⟨by decide, by decide, by decide⟩
  · exact hsat _ ["".toList, "  (x 1)".toList, "(error \"m\")".toList,
      " (:reason-unknown \"\")".toList, "\t)".toList, " ".toList] rfl
  · exact hsat _ [" (error \"m\")".toList, " ".toList] rfl

end CoreProver.Transcript
