import CoreProver.Proofs.Text.Lines
import CoreProver.Solver.Transcript

/-!
# The first decisive line

A solver may write anything around its answer: banners, warnings, models, errors about commands that
came too late. A transcript is classified by its first decisive line alone, and only `unsat` there
is a proof. What else it holds can give details to an answer, but never change its kind.
-/

namespace CoreProver.Transcript

/-- What a line says that decides, the blanks around it apart: the kind of the answer. -/
inductive Announces (line : List Char) : ResultKind → Prop where
  | unsat (h : Text.trim line = "unsat".toList) : Announces line .proved
  | sat (h : Text.trim line = "sat".toList) : Announces line .disproved
  | unknown (h : Text.trim line = "unknown".toList) : Announces line .unknown
  | timeout (h : Text.trim line = "timeout".toList) : Announces line .timeout
  | error (h : "(error".toList <+: Text.trim line) : Announces line .error

/-- The line decides. -/
def IsDecisive (line : List Char) : Prop := ∃ kind, Announces line kind

/-- The first decisive line of the text is this one, and these are the lines behind it. -/
structure DecidedBy (stdout line : List Char) (rest : List (List Char)) : Prop where
  decisive : IsDecisive line
  exists_before : ∃ before, Text.lines stdout = before ++ line :: rest ∧
    ∀ l ∈ before, ¬IsDecisive l

/-! ### Single lines -/

/-- The kind of the answers that a decision can start. -/
def Decision.kind : Decision → ResultKind
  | .unsat => .proved
  | .sat => .disproved
  | .unknown => .unknown
  | .timeout => .timeout
  | .error _ => .error

/-- Lines behind a decision do not change the kind of the answer. -/
@[simp] theorem Decision.kind_answer (d : Decision) (rest : List (List Char)) :
    (d.answer rest).kind = d.kind := by
  cases d <;> rfl

/-- What a line decides does not depend on the blanks around it. -/
theorem decision?_congr {line : List Char} (word : List Char)
    (h : Text.trim line = Text.trim word) : decision? line = decision? word := by
  simp only [decision?, h]

theorem decision?_of_errorMark {line : List Char} (h : errorMark <+: Text.trim line) :
    decision? line = some (.error (Text.trim line)) := by
  have hhead : (Text.trim line).head? = some '(' := by
    obtain ⟨text, htext⟩ := h
    rw [← htext]
    rfl
  have hne (word : List Char) (hword : word.head? ≠ some '(') : Text.trim line ≠ word :=
    fun heq => hword (heq ▸ hhead)
  simp only [decision?]
  rw [if_neg (hne _ (by decide)), if_neg (hne _ (by decide)), if_neg (hne _ (by decide)),
    if_neg (hne _ (by decide)), if_pos (List.isPrefixOf_iff_prefix.2 h)]

/-- A line announces the kind of what it decides. -/
theorem announces_iff (line : List Char) (kind : ResultKind) :
    Announces line kind ↔ ∃ d, decision? line = some d ∧ d.kind = kind := by
  constructor
  · intro h
    cases h with
    | unsat h => exact ⟨.unsat, decision?_congr "unsat".toList h, rfl⟩
    | sat h => exact ⟨.sat, decision?_congr "sat".toList h, rfl⟩
    | unknown h => exact ⟨.unknown, decision?_congr "unknown".toList h, rfl⟩
    | timeout h => exact ⟨.timeout, decision?_congr "timeout".toList h, rfl⟩
    | error h => exact ⟨_, decision?_of_errorMark h, rfl⟩
  · rintro ⟨d, hd, rfl⟩
    simp only [decision?] at hd
    split_ifs at hd with hunsat hsat hunknown htimeout herror <;> cases hd
    · exact .unsat hunsat
    · exact .sat hsat
    · exact .unknown hunknown
    · exact .timeout htimeout
    · exact .error (List.isPrefixOf_iff_prefix.1 herror)

theorem announces_proved_iff (line : List Char) :
    Announces line .proved ↔ Text.trim line = "unsat".toList := by
  constructor
  · intro h
    cases h with
    | unsat h => exact h
  · exact .unsat

theorem decision?_eq_none_iff (line : List Char) : decision? line = none ↔ ¬IsDecisive line := by
  simp [IsDecisive, announces_iff, Option.eq_none_iff_forall_ne_some]

instance (line : List Char) : Decidable (IsDecisive line) :=
  decidable_of_iff (decision? line ≠ none) (by rw [ne_eq, decision?_eq_none_iff, not_not])

/-! ### Transcripts -/

/-- Lines that do not decide can be left out. -/
theorem answerOfLines?_append {before : List (List Char)} (h : ∀ l ∈ before, ¬IsDecisive l)
    (lines : List (List Char)) : answerOfLines? (before ++ lines) = answerOfLines? lines := by
  induction before with
  | nil => rfl
  | cons line before ih =>
    obtain ⟨hline, hbefore⟩ := List.forall_mem_cons.1 h
    have hnone := (decision?_eq_none_iff line).2 hline
    rw [List.cons_append, answerOfLines?, hnone, ih hbefore]

/-- A text without decisive lines is classified by the error stream. -/
theorem classify_eq_answerOfErrors {stdout : List Char}
    (h : ∀ line ∈ Text.lines stdout, ¬IsDecisive line) (stderr : List Char) :
    classify stdout stderr = answerOfErrors stderr := by
  have hlines := answerOfLines?_append h []
  rw [List.append_nil] at hlines
  rw [classify, hlines, answerOfLines?, Option.getD_none]

namespace DecidedBy

variable {stdout line : List Char} {rest : List (List Char)}

/-- The first decisive line starts the answer, and the lines behind it give the details. -/
theorem classify_eq {d : Decision} (h : DecidedBy stdout line rest) (hd : decision? line = some d)
    (stderr : List Char) : classify stdout stderr = d.answer rest := by
  obtain ⟨before, hlines, hbefore⟩ := h.exists_before
  rw [classify, hlines, answerOfLines?_append hbefore, answerOfLines?, hd, Option.getD_some]

theorem kind_classify {kind : ResultKind} (h : DecidedBy stdout line rest)
    (hkind : Announces line kind) (stderr : List Char) : (classify stdout stderr).kind = kind := by
  obtain ⟨d, hd, rfl⟩ := (announces_iff line kind).1 hkind
  rw [h.classify_eq hd, Decision.kind_answer]

/-- The answer depends on the first decisive line and those behind it only. -/
theorem classify_congr {stdout' : List Char} (h : DecidedBy stdout line rest)
    (h' : DecidedBy stdout' line rest) (stderr stderr' : List Char) :
    classify stdout' stderr' = classify stdout stderr := by
  obtain ⟨kind, hkind⟩ := h.decisive
  obtain ⟨d, hd, -⟩ := (announces_iff line kind).1 hkind
  rw [h.classify_eq hd, h'.classify_eq hd]

end DecidedBy

/-- A text has a first decisive line or none at all. -/
theorem decidedBy_or_forall_not (stdout : List Char) :
    (∃ line rest, DecidedBy stdout line rest) ∨ ∀ line ∈ Text.lines stdout, ¬IsDecisive line := by
  cases hfind : (Text.lines stdout).find? fun line => (decision? line).isSome with
  | none =>
    right
    intro line hline
    have hnot := List.find?_eq_none.1 hfind line hline
    rw [← decision?_eq_none_iff]
    simpa using hnot
  | some line =>
    left
    obtain ⟨hline, before, rest, hlines, hbefore⟩ := List.find?_eq_some_iff_append.1 hfind
    refine ⟨line, rest, ?_, before, hlines, fun l hl => ?_⟩
    · by_contra hnot
      simp [(decision?_eq_none_iff line).2 hnot] at hline
    · rw [← decision?_eq_none_iff]
      simpa using hbefore l hl

/-- Whole lines that do not decide can be put in front of a text. -/
theorem classify_append {noise : List Char} (hwhole : Text.WholeLines noise)
    (h : ∀ line ∈ Text.lines noise, ¬IsDecisive line) (stdout stderr : List Char) :
    classify (noise ++ stdout) stderr = classify stdout stderr := by
  rw [classify, hwhole.lines_append, answerOfLines?_append h, classify]

/-- Without a decisive line, a timeout is reported exactly when the error stream speaks of one. -/
theorem kind_answerOfErrors (stderr : List Char) :
    ((answerOfErrors stderr).kind = .timeout ∨ (answerOfErrors stderr).kind = .error) ∧
    ((answerOfErrors stderr).kind = .timeout ↔
      ∃ w, w <:+: stderr ∧ Text.InAnyCase "timeout".toList w) := by
  have hletters : "timeout".toList.all Char.isLower = true := by decide
  rw [← Text.contains_lowerAscii_trim_iff (List.all_eq_true.1 hletters), answerOfErrors]
  split_ifs <;> simp_all [Answer.kind]

theorem kind_eq_proved_iff (a : Answer) : a.kind = .proved ↔ a = .proved := by
  cases a <;> simp [Answer.kind]

theorem classify_eq_proved_iff (stdout stderr : List Char) :
    classify stdout stderr = .proved ↔
      ∃ line rest, DecidedBy stdout line rest ∧ Text.trim line = "unsat".toList := by
  simp only [← announces_proved_iff, ← kind_eq_proved_iff]
  constructor
  · intro hproved
    rcases decidedBy_or_forall_not stdout with ⟨line, rest, hline⟩ | hnone
    · obtain ⟨kind, hkind⟩ := hline.decisive
      have hsame := hline.kind_classify hkind stderr
      exact ⟨line, rest, hline, by rwa [← hproved, hsame]⟩
    · have hkind := (kind_answerOfErrors stderr).1
      rw [← classify_eq_answerOfErrors hnone, hproved] at hkind
      simp at hkind
  · rintro ⟨line, rest, hline, hunsat⟩
    exact hline.kind_classify hunsat stderr

/-- A transcript is classified by its first decisive line. It is a proof exactly when it has such a
line and the first one is `unsat`. If it has one, that line alone gives the kind of the answer,
whatever follows it; neither the error stream nor the lines before it count. Whole lines that do not
decide can be put in or left out anywhere before it. If it has none, the answer is a timeout or an
error, and it is a timeout exactly when the word occurs in the error stream, in any letter case. -/
theorem classified_by_first_decisive_line (stdout stderr : List Char) :
    (classify stdout stderr = .proved ↔
      ∃ line rest, DecidedBy stdout line rest ∧ Text.trim line = "unsat".toList) ∧
    (∀ line rest kind, DecidedBy stdout line rest → Announces line kind →
      (classify stdout stderr).kind = kind ∧
      ∀ stdout' stderr', DecidedBy stdout' line rest →
        classify stdout' stderr' = classify stdout stderr) ∧
    (∀ before noise after, stdout = before ++ after →
      Text.WholeLines before → Text.WholeLines noise →
      (∀ line ∈ Text.lines before ++ Text.lines noise, ¬IsDecisive line) →
        classify (before ++ (noise ++ after)) stderr = classify stdout stderr) ∧
    ((∀ line ∈ Text.lines stdout, ¬IsDecisive line) →
      ((classify stdout stderr).kind = .timeout ∨ (classify stdout stderr).kind = .error) ∧
      ((classify stdout stderr).kind = .timeout ↔
        ∃ w, w <:+: stderr ∧ Text.InAnyCase "timeout".toList w)) := by
  refine ⟨classify_eq_proved_iff stdout stderr, fun line rest kind hline hkind => ?_, ?_,
    fun hnone => ?_⟩
  · exact ⟨hline.kind_classify hkind stderr,
      fun stdout' stderr' hline' => hline.classify_congr hline' stderr stderr'⟩
  · rintro before noise after rfl hbefore hnoise hnot
    obtain ⟨hnotBefore, hnotNoise⟩ := List.forall_mem_append.1 hnot
    rw [classify_append hbefore hnotBefore, classify_append hnoise hnotNoise,
      classify_append hbefore hnotBefore]
  · rw [classify_eq_answerOfErrors hnone]
    exact kind_answerOfErrors stderr

theorem classified_by_first_decisive_line_of_lateErrors :
    let banner := "; ready\r\n".toList
    let warning := "warning: not unsat yet\n".toList
    let answer := " unsat\r\n(error \"no model\")\nsat\n".toList
    classify (banner ++ answer) "timeout".toList = .proved ∧
    classify (banner ++ answer) [] = classify (banner ++ answer) "timeout".toList ∧
    classify (banner ++ (warning ++ answer)) "timeout".toList = .proved ∧
    (classify banner "z3: TimeOut reached".toList).kind = .timeout := by
  intro banner warning answer
  obtain ⟨hproved, hfirst, hinsert, -⟩ :=
    classified_by_first_decisive_line (banner ++ answer) "timeout".toList
  obtain ⟨-, -, -, hsilent⟩ :=
    classified_by_first_decisive_line banner "z3: TimeOut reached".toList
  have hline : DecidedBy (banner ++ answer) " unsat".toList
      ["(error \"no model\")".toList, "sat".toList] :=
    ⟨⟨.proved, .unsat rfl⟩, ["; ready".toList], rfl, by decide⟩
  have hanswer : classify (banner ++ answer) "timeout".toList = .proved :=
    hproved.2 ⟨_, _, hline, rfl⟩
  refine ⟨hanswer, (hfirst _ _ _ hline (.unsat rfl)).2 _ _ hline, ?_, ?_⟩
  · rw [hinsert banner warning answer rfl (.inr rfl) (.inr rfl) (by decide), hanswer]
  · refine (hsilent (by decide)).2.2 ⟨"TimeOut".toList, ⟨"z3: ".toList, " reached".toList, rfl⟩, ?_⟩
    exact (Text.lowerAscii_eq_iff (List.all_eq_true.1 rfl) _).1 rfl

end CoreProver.Transcript
