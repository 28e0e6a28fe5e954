import IndentTex.Error
import IndentTex.Proofs.Location

/-!
# Reports

A report ends with a line of the source and, below it, a line with a caret. The blanks before the
caret are as many as the characters before it on the line above: the number of the line and its
margin, and the part of the line before the column. The main result, `Error.report_caret`, says that
the caret stands under the character at which an error was found.
-/

namespace IndentTex.Error

open Text

variable {l w r before : Text} {earlier : List Text} {c : Char}

/-! ### Lines of the source -/

/-- Lines that have ended before do not matter for how a line is shown. -/
lemma shownLine_broken (h : Broken w earlier before) (r : Text) :
    shownLine (w ++ r) (earlier.length + 1) = shownLine (before ++ r) 1 := by
  rw [shownLine, shownLine, h.splitLines, List.drop_left, List.drop_zero]

/-- The last line is shown as it is. -/
lemma shownLine_last (hl : '\n' ∉ l) : shownLine l 1 = l := by
  rw [shownLine, splitLines_of_notMem hl, List.drop_zero]

/-- Any other line is shown without a carriage return at its end. -/
lemma shownLine_line (hl : '\n' ∉ l) (r : Text) :
    shownLine (l ++ '\n' :: r) 1 = if l.getLast? = some '\r' then l.dropLast else l := by
  obtain ⟨k, ks, hr⟩ := List.exists_cons_of_ne_nil (splitLines_ne_nil r)
  rw [shownLine, splitLines_line hl, List.drop_zero, hr]

/-- A character that is neither a newline nor the carriage return before one is shown in its
column. -/
lemma shownLine_char (hbefore : '\n' ∉ before) (hc : c ≠ '\n')
    (hr : ¬ (c = '\r' ∧ r.head? = some '\n')) :
    '\n' ∉ shownLine (before ++ c :: r) 1 ∧
      (shownLine (before ++ c :: r) 1)[before.length]? = some c := by
  have hline {l : Text} (hl : '\n' ∉ l) : '\n' ∉ before ++ c :: l := by
    simp [hbefore, hc.symm, hl]
  rcases first_line_cases r with hl | ⟨l, v, hl, rfl⟩
  · rw [shownLine_last (hline hl)]
    exact ⟨hline hl, by simp⟩
  · rw [← List.cons_append, ← List.append_assoc, shownLine_line (hline hl)]
    -- only a carriage return at the end of the line is left out, and `c` is none
    rcases List.eq_nil_or_concat l with rfl | ⟨l, d, rfl⟩
    · have hreturn : c ≠ '\r' := fun h => hr ⟨h, rfl⟩
      rw [if_neg (by simpa using hreturn)]
      exact ⟨hline hl, by simp⟩
    · rw [List.concat_eq_append] at hl ⊢
      have hl' : '\n' ∉ l := fun hn => hl (List.mem_append_left _ hn)
      split
      · rw [← List.cons_append, ← List.append_assoc, List.dropLast_concat]
        exact ⟨hline hl', by simp⟩
      · exact ⟨hline hl, by simp⟩

/-! ### The end of a report -/

/-- Digits are no newlines. -/
lemma newline_notMem_ofNat (n : Nat) : '\n' ∉ Text.ofNat n := by
  intro h
  have hdigit := Nat.isDigit_of_mem_toDigits (by decide) (by decide) h
  exact absurd hdigit (by decide)

/-- The last two lines of a report start with margins of one width. -/
lemma splitLines_report (e : Error) (source : Text) {l : Location} (he : e.location = some l)
    (hl : '\n' ∉ shownLine source l.line) :
    ∃ lines margin pad, margin.length = pad.length ∧
      (e.report source).splitLines = lines ++
        [margin ++ shownLine source l.line, pad ++ List.replicate (l.column - 1) ' ' ++ ['^']] := by
  let number := Text.ofNat l.line
  let blanks := List.replicate number.length ' '
  let heading := "error[".toList ++ e.kind.code ++ "]: ".toList ++ e.message
    ++ '\n' :: blanks ++ "--> ".toList ++ l.describe ++ '\n' :: blanks ++ " |".toList
  let margin := number ++ " | ".toList
  let pad := blanks ++ " | ".toList
  have hreport : e.report source = heading ++ '\n' :: (margin ++ shownLine source l.line
      ++ '\n' :: (pad ++ List.replicate (l.column - 1) ' ' ++ ['^'])) := by
    simp only [report, he, heading, margin, pad, blanks, number, List.append_assoc,
      List.cons_append]
  have hmargin : '\n' ∉ margin ++ shownLine source l.line := by
    simp [margin, number, newline_notMem_ofNat, hl]
  have hpad : '\n' ∉ pad ++ List.replicate (l.column - 1) ' ' ++ ['^'] := by
    simp [pad, blanks, List.mem_replicate]
  obtain ⟨earlier, before, h⟩ := exists_broken heading
  refine ⟨earlier ++ [before], margin, pad, ?_, ?_⟩
  · rw [List.length_append, List.length_append, List.length_replicate]
  · rw [hreport, h.splitLines, splitLines_line h.newline_notMem, splitLines_line hmargin,
      splitLines_of_notMem hpad]
    exact List.append_cons _ _ _

/-- The caret of a report stands under the character at which the error was found, if that is shown
at all: it is no newline, and no carriage return before one. -/
theorem report_caret (e : Error) (w r : Text) (c : Char) (hc : c ≠ '\n')
    (hr : ¬ (c = '\r' ∧ r.head? = some '\n'))
    (he : e.location = some (.ofOffset (w ++ c :: r) w.byteSize)) :
    ∃ lines shown p, (e.report (w ++ c :: r)).splitLines = lines ++ [shown, p ++ ['^']] ∧
      shown[p.length]? = some c := by
  obtain ⟨earlier, before, h⟩ := exists_broken w
  rw [Location.ofOffset_byteSize, Location.after_broken h] at he
  obtain ⟨hnewline, hchar⟩ := shownLine_char h.newline_notMem hc hr
  rw [← shownLine_broken h] at hnewline hchar
  obtain ⟨lines, margin, pad, hpad, hlines⟩ := splitLines_report e (w ++ c :: r) he hnewline
  refine ⟨lines, _, _, hlines, ?_⟩
  have hlength : (pad ++ List.replicate (before.length + 1 - 1) ' ').length =
      margin.length + before.length := by
    rw [List.length_append, List.length_replicate, Nat.add_sub_cancel, hpad]
  rw [hlength, List.getElem?_append_right (Nat.le_add_right _ _), Nat.add_sub_cancel_left, hchar]

/-- A backslash behind a two-byte character, on a line that ends with a carriage return and a
newline, as it is reported with a message of two lines. -/
theorem report_caret_return :
    let e : Error := ⟨.custom .invalidSyntax "a\nb".toList, some ⟨4, 2, 2⟩⟩
    e.location = some (.ofOffset "x\né\\\r\n".toList (Text.byteSize "x\né".toList)) ∧
      ∃ lines shown p,
        (e.report "x\né\\\r\n".toList).splitLines = lines ++ [shown, p ++ ['^']] ∧
          shown[p.length]? = some '\\' := by
  intro e
  have he : e.location = some (.ofOffset ("x\né".toList ++ '\\' :: "\r\n".toList)
      (Text.byteSize "x\né".toList)) := rfl
  exact ⟨he, report_caret e "x\né".toList "\r\n".toList '\\' (by decide) (by decide) he⟩

end IndentTex.Error
