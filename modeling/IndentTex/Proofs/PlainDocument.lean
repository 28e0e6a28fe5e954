import Mathlib.Data.List.DropRight
import IndentTex.Proofs.Grammar.Document
import IndentTex.Proofs.PlainText

/-!
# Documents of plain text

A source without control sequences and groups is read line by line, and the lines alone decide what
becomes of it. `Text.plainDocument` is such a reading, as a function of the lines. The main result,
`Translator.translate_plain`, says that the translation is the same.
-/

namespace IndentTex

variable {σ : Type}

/-- The kind of an error and its place. -/
def Error.summary (e : Error) : ErrorKind × Option Location := (e.kind, e.location)

/-! ### Delimiters -/

namespace IsDelimiter

variable {l : Text}

/-- A line is taken for a delimiter exactly if it is one. -/
lemma isDelimiterLine_iff : Scan.isDelimiterLine l ↔ IsDelimiter l := by
  refine ⟨.of_isDelimiterLine, fun h => ?_⟩
  obtain ⟨trail, ha, ht⟩ := h.afterDelimiter?
  rw [Scan.isDelimiterLine, ha]
  exact ht

/-- A line starts with a delimiter where blanks and three equals signs come first. -/
lemma startsWithDelimiter_iff : Scan.startsWithDelimiter l ↔ ∃ d, IsDelimiter d ∧ d <+: l := by
  constructor
  · intro h
    unfold Scan.startsWithDelimiter Scan.afterDelimiter? at h
    dsimp only at h
    split at h
    case isFalse => cases h
    case isTrue hn =>
      let signs := l.dropWhile Scan.isDelimiterBlank
      have hsigns : signs.takeWhile (fun c => decide (c = '=')) =
          List.replicate (signs.takeWhile fun c => decide (c = '=')).length '=' := by
        rw [List.eq_replicate_iff]
        exact ⟨rfl, fun c hc => by simpa using List.all_eq_true.1 List.all_takeWhile c hc⟩
      have hlead : ∀ c ∈ l.takeWhile Scan.isDelimiterBlank, c = ' ' ∨ c = '\t' := by
        intro c hc
        simpa [Scan.isDelimiterBlank] using List.all_eq_true.1 List.all_takeWhile c hc
      refine ⟨_, .mk hlead hn (fun c hc => absurd hc List.not_mem_nil),
        signs.dropWhile fun c => decide (c = '='), ?_⟩
      rw [List.append_nil, List.append_assoc, ← hsigns, List.takeWhile_append_dropWhile,
        List.takeWhile_append_dropWhile]
  · rintro ⟨_, @⟨lead, trail, n, hlead, hn, -⟩, r, rfl⟩
    obtain ⟨m, rfl⟩ : ∃ m, n = m + 1 := ⟨n - 1, by omega⟩
    have hsigns : (lead ++ List.replicate (m + 1) '=' ++ trail ++ r).dropWhile
        Scan.isDelimiterBlank = List.replicate (m + 1) '=' ++ (trail ++ r) := by
      rw [List.append_assoc, List.append_assoc]
      exact Text.dropWhile_run (all_isDelimiterBlank hlead) rfl
    have hlength : 3 ≤ ((List.replicate (m + 1) '=' ++ (trail ++ r)).takeWhile
        fun c => decide (c = '=')).length := by
      rw [List.takeWhile_append_of_pos (by simp), List.length_append, List.length_replicate]
      omega
    rw [Scan.startsWithDelimiter, Scan.afterDelimiter?, hsigns, if_pos hlength]
    rfl

instance : DecidablePred IsDelimiter := fun _ => decidable_of_iff _ isDelimiterLine_iff

instance (l : Text) : Decidable (∃ d, IsDelimiter d ∧ d <+: l) :=
  decidable_of_iff _ startsWithDelimiter_iff

end IsDelimiter

/-! ### Reading lines -/

namespace Text

/-- The first line of a document that must not be indented, where `before` is the text before the
lines and `first` says that no line before them holds text. -/
def bodyFault? (before : Text) (first : Bool) : List Text → Option (ErrorKind × Option Location)
  | [] => none
  | l :: ls =>
    let indent := l.takeWhile isHorizontal
    if l.isBlankLine then bodyFault? (before ++ (l ++ ['\n'])) first ls
    else if indent = [] then bodyFault? (before ++ (l ++ ['\n'])) false ls
    else some (if first ∨ Indentation.isUniform indent then .unexpectedIndentation
      else .invalidIndentation, some (.after before))

/-- A text in the document environment. -/
def inDocument (body : Text) : Text :=
  "\\begin\x7bdocument\x7d\n".toList ++ body ++ "\n\\end\x7bdocument\x7d".toList

/-- The document environment of some lines. Blank lines at the end follow it. -/
def documentOf (lines : List Text) : Text :=
  inDocument (joinLines (lines.rdropWhile isBlankLine)) ++
    (joinLines lines).drop (joinLines (lines.rdropWhile isBlankLine)).length

/-- Reads a source line by line, where `before` is the text before the lines. -/
def plainDocument (source before : Text) :
    List Text → Except (ErrorKind × Option Location) Text
  | [] => .error (.unexpectedEof, some (.after source))
  | l :: ls =>
    if ∃ d, IsDelimiter d ∧ d <+: l then
      if ¬ IsDelimiter l then .error (.invalidSyntax, some (.after before))
      else if ls = [] then .error (.unexpectedEof, some (.after source))
      else match bodyFault? (before ++ (l ++ ['\n'])) true ls with
        | some fault => .error fault
        | none => .ok (documentOf ls)
    else if l.isBlankLine ∨ l.head? = some '%' then
      (l ++ '\n' :: ·) <$> plainDocument source (before ++ (l ++ ['\n'])) ls
    else if l.takeWhile isHorizontal ≠ [] then
      .error (.unexpectedIndentation, some (.after before))
    else .error (.invalidSyntax, some (.after before))

variable {before source b l t w r x y : Text} {c : Char} {first : Bool}

/-- The first line of a text and the others. -/
lemma exists_splitLines (hl : '\n' ∉ l) (hy : y.atLineEnd) :
    ∃ ls, splitLines (l ++ y) = l :: ls ∧ (y = [] ∧ ls = [] ∨
      ∃ z, y = '\n' :: z ∧ ls = splitLines z) := by
  cases y with
  | nil => exact ⟨[], by rw [List.append_nil, splitLines_of_notMem hl], Or.inl ⟨rfl, rfl⟩⟩
  | cons c z =>
    obtain rfl : c = '\n' := by simpa using hy
    exact ⟨_, splitLines_line hl z, Or.inr ⟨z, rfl, rfl⟩⟩

/-- A body without indented lines is right. -/
lemma bodyFault?_eq_none {ls : List Text}
    (h : ∀ l ∈ ls, l.isBlankLine ∨ l.takeWhile isHorizontal = []) :
    bodyFault? before first ls = none := by
  induction ls generalizing before first with
  | nil => rfl
  | cons l ls ih =>
    have hmore : ∀ before first, bodyFault? before first ls = none :=
      fun _ _ => ih fun l hl => h l (List.mem_cons_of_mem _ hl)
    rw [bodyFault?]
    split
    · exact hmore _ _
    · rename_i hb
      rw [if_pos ((h l List.mem_cons_self).resolve_left hb)]
      exact hmore _ _

/-- A body without indentations has no fault. -/
lemma bodyFault?_of_indents (h : ∀ v ∈ indents t, v = []) :
    bodyFault? before first t.splitLines = none := by
  apply bodyFault?_eq_none
  intro l hl
  by_cases hb : l.isBlankLine
  · exact Or.inl hb
  · exact Or.inr (h _ (List.mem_map.2 ⟨l, List.mem_filter.2 ⟨hl, by simpa using hb⟩, rfl⟩))

/-- Blank lines are passed over. -/
lemma BlankLines.bodyFault?_append (hb : BlankLines b) (t : Text) :
    bodyFault? before first (splitLines (b ++ t)) =
      bodyFault? (before ++ b) first t.splitLines := by
  induction hb generalizing before with
  | nil => rw [List.nil_append, List.append_nil]
  | @line w b hw _ ih =>
    rw [List.append_assoc, List.cons_append, splitLines_line (newline_notMem_of_isBlankLine hw),
      bodyFault?, if_pos hw, ih]
    simp

/-- Lines that are not indented are passed over. -/
lemma Aligned.bodyFault?_append (ht : Aligned [] t) (y : Text) :
    bodyFault? before first (splitLines (t ++ '\n' :: y)) =
      bodyFault? (before ++ (t ++ ['\n'])) false y.splitLines := by
  induction ht generalizing before first with
  | @last l hl =>
    rw [splitLines_line hl.newline_notMem, bodyFault?, hl.not_blank, if_neg Bool.false_ne_true,
      if_pos hl.takeWhile_eq]
  | @more l b t hl hb _ ih =>
    rw [List.append_assoc, List.cons_append, splitLines_line hl.newline_notMem, bodyFault?,
      hl.not_blank, if_neg Bool.false_ne_true, if_pos hl.takeWhile_eq, List.append_assoc,
      hb.bodyFault?_append, ih]
    simp

/-- An indented line is reported. -/
lemma bodyFault?_text (hw : w.isBlankLine) (hc : isHorizontal c = false) (hn : c ≠ '\n')
    (hne : w ≠ []) (r : Text) :
    bodyFault? before first (splitLines (w ++ c :: r)) =
      some (if first ∨ Indentation.isUniform w then .unexpectedIndentation
        else .invalidIndentation, some (.after before)) := by
  obtain ⟨l, y, rfl, hl, hy⟩ := exists_line r
  have hrow : IsRow w (w ++ c :: l) := .of_text hw hc hn hl
  obtain ⟨ls, hls, -⟩ := exists_splitLines hrow.newline_notMem hy
  rw [← List.cons_append, ← List.append_assoc, hls, bodyFault?, hrow.not_blank,
    if_neg Bool.false_ne_true, hrow.takeWhile_eq, if_neg hne]

/-- Whether a text ends with text is seen from its last line. -/
lemma endsWithText_append_newline (x y : Text) :
    endsWithText (x ++ '\n' :: y) = endsWithText y := by
  rw [endsWithText, endsWithText, splitLines_append_newline, List.getLast?_append,
    List.getLast?_eq_some_getLast (splitLines_ne_nil y), Option.some_or]

/-- Blank lines before a text do not change how it ends. -/
lemma BlankLines.endsWithText_append (hb : BlankLines b) (t : Text) :
    endsWithText (b ++ t) = endsWithText t := by
  induction hb with
  | nil => rfl
  | line _ _ ih => rw [List.append_assoc, List.cons_append, endsWithText_append_newline, ih]

/-- Lines at one margin end with text. -/
lemma Aligned.endsWithText (ht : Aligned w t) : t.endsWithText := by
  induction ht with
  | @last l hl =>
    rw [Text.endsWithText, splitLines_of_notMem hl.newline_notMem]
    simp [hl.not_blank]
  | more _ hb _ ih => rwa [endsWithText_append_newline, hb.endsWithText_append]

/-- Blank lines behind a text are no part of its document. -/
lemma rdropWhile_splitLines (hx : x.endsWithText) (hy : y.atLineEnd) (hb : y.blankLines = y) :
    (splitLines (x ++ y)).rdropWhile isBlankLine = splitLines x := by
  obtain ⟨ls, hls, hblank⟩ : ∃ ls, splitLines (x ++ y) = splitLines x ++ ls ∧
      ∀ l ∈ ls, l.isBlankLine := by
    cases y with
    | nil => exact ⟨[], by simp, by simp⟩
    | cons c y =>
      obtain rfl : c = '\n' := by simpa using hy
      exact ⟨_, splitLines_append_newline x y,
        isBlankLine_of_mem_splitLines (blankLines_newline.1 hb)⟩
  have hlast : ∀ h : splitLines x ≠ [], ¬ ((splitLines x).getLast h).isBlankLine := by
    intro h
    rw [endsWithText, List.getLast?_eq_some_getLast h] at hx
    simpa using hx
  rw [hls, List.rdropWhile, List.reverse_append,
    List.dropWhile_append_of_pos fun l hl => hblank l (List.mem_reverse.1 hl)]
  exact List.rdropWhile_eq_self_iff.2 hlast

/-- The document environment of a text with blank lines behind it. -/
lemma documentOf_append (hx : x.endsWithText) (hy : y.atLineEnd) (hb : y.blankLines = y) :
    documentOf (splitLines (x ++ y)) = inDocument x ++ y := by
  rw [documentOf, rdropWhile_splitLines hx hy hb, joinLines_splitLines, joinLines_splitLines,
    List.drop_left]

/-- The document environment of nothing but blank lines. -/
lemma documentOf_blank (hb : t.blankLines = t) :
    documentOf t.splitLines = inDocument [] ++ t := by
  have hnil : t.splitLines.rdropWhile isBlankLine = [] :=
    List.rdropWhile_eq_nil_iff.2 (isBlankLine_of_mem_splitLines hb)
  rw [documentOf, hnil, joinLines_splitLines, joinLines, List.length_nil, List.drop_zero]

/-- A source whose last line is copied has no document. -/
lemma plainDocument_last (hd : ¬ ∃ d, IsDelimiter d ∧ d <+: l)
    (hc : l.isBlankLine ∨ l.head? = some '%') :
    plainDocument source before [l] = .error (.unexpectedEof, some (.after source)) := by
  rw [plainDocument, if_neg hd, if_pos hc, plainDocument]
  rfl

end Text

namespace Scan

open Text

variable {S : Setup σ} {inner : Level σ} {s s' : State σ} {m : Scan σ Text} {e : Error}
  {before b l w t r x y out : Text} {c : Char} {n : Nat}

/-- What a run comes to: its output, or the kind and the place of its error. -/
def verdict (m : Scan σ Text) (s : State σ) : Except (ErrorKind × Option Location) Text :=
  match m s with
  | .ok out _ => .ok out
  | .error e _ => .error e.summary

/-- The verdict on a run that succeeds is its output. -/
lemma verdict_of_ok (h : m s = .ok out s') : verdict m s = .ok out := by rw [verdict, h]

/-- The verdict on a run that fails is its error in short. -/
lemma verdict_of_error (h : m s = .error e s') : verdict m s = .error e.summary := by
  rw [verdict, h]

/-- Where no unit is known, an indentation can be measured if it is all spaces or all tabs. -/
lemma Misplaced.summary_eq (h : Misplaced none w before e) :
    e.summary = (if Indentation.isUniform w then .unexpectedIndentation
      else .invalidIndentation, some (.after before)) := by
  rw [Error.summary, h.location_eq]
  split
  case isTrue hu => rw [h.unexpected ⟨hu, by simp⟩]
  case isFalse hu => rw [h.invalid fun hm => hu hm.1]

/-! ### The document -/

/-- A document whose first line is indented. -/
lemma documentBody_indented (hs : s.cursor.rest = b ++ (w ++ c :: r)) (hb : BlankLines b)
    (hw : w.isBlankLine) (hc : isHorizontal c = false) (hn : c ≠ '\n') (hne : w ≠ []) :
    documentBody inner s =
      .error ⟨.indentedDocument, some (.after (s.before ++ b))⟩ (s.advance b.length) := by
  have hrest := State.rest_advance hs
  have hskip : skipBlankLines s = .ok b (s.advance b.length) := by
    rw [skipBlankLines_run, hs, hb.blankLines_text hw hc hn]
  have hindent : (s.advance b.length).cursor.indentation = w := by
    rw [Cursor.indentation, Cursor.run, hrest]
    exact takeWhile_text hw hc
  rw [documentBody, bind_of_ok (mark_run s), bind_of_ok hskip, bind_of_ok (isFinished_run _),
    ite_run, hrest, if_neg (by simp), bind_of_ok (mark_run _), ite_run, hindent, if_neg hne,
    raise_run, State.location_eq, State.before_advance hs]

/-- The body of a plain document is copied, or its first indented line is reported. -/
lemma documentBody_plain (S : Setup σ) (hi : s.indentation = .unset) (hp : IsPlain s.cursor.rest) :
    (∃ body s', documentBody (.outermost S) s = .ok body s' ∧
      bodyFault? s.before true s.cursor.rest.splitLines = none ∧
      documentOf s.cursor.rest.splitLines = inDocument body ++ s'.cursor.rest) ∨
    ∃ e s', documentBody (.outermost S) s = .error e s' ∧
      bodyFault? s.before true s.cursor.rest.splitLines = some e.summary := by
  rcases blankLines_cases s.cursor.rest with hb | ⟨b, w, c, r, hb, hw, hc, hn, hs⟩
  · refine Or.inl ⟨[], s, documentBody_blank hb, bodyFault?_of_indents ?_, documentOf_blank hb⟩
    rw [indents_of_blankLines hb]
    simp
  by_cases hne : w = []
  · -- The lines that are not indented, and what follows them.
    subst hne
    obtain ⟨t, y, hty, ht, hy⟩ := exists_aligned hw hc hn r
    rw [hty] at hs
    rw [hs] at hp
    have hrest := State.rest_advance hs
    have hrest' := State.rest_advance hrest
    have hbefore : ((s.advance b.length).advance t.length).before = s.before ++ b ++ t := by
      rw [State.before_advance hrest, State.before_advance hs]
    have hstart : (t ++ y).starts isHorizontal = false := by
      rw [← hty]
      exact hc
    have hm : Indentation.levelOf [] (s.advance b.length).indentation =
      .ok 0 (s.advance b.length).indentation := rfl
    rw [documentBody_unindented hs (ht.blankLines_append hb y) (by simp [ht.ne_nil]) hstart,
      bind_run]
    cases hy with
    | blank he hyb =>
      have hnext := nextLine_blank (s := (s.advance b.length).advance t.length)
        (by rw [hrest']; exact he) (by rw [hrest', hyb]) 0
      rw [blockLines_plain_none S ht hp.right.left hrest he hm hnext]
      refine Or.inl ⟨b ++ t, _, rfl, bodyFault?_of_indents ?_, ?_⟩
      · obtain ⟨k, hk⟩ := ht.indents_eq
        rw [hs, hb.indents_append, indents_append_blank he hyb, hk]
        exact fun v hv => List.eq_of_mem_replicate hv
      · rw [hrest', hs, ← List.append_assoc, documentOf_append ?_ he hyb]
        rw [hb.endsWithText_append]
        exact ht.endsWithText
    | @other b' w r' c' hb' hw hc' hn' hne =>
      obtain ⟨e, s', hnext, -, he⟩ := nextLine_misplaced
        (s := (s.advance b.length).advance t.length) (hi ▸ Indentation.isValid_unset) hrest' hb' hw
        hc' hn' hne hm (fun _ _ _ => Nat.zero_le _)
      rw [hbefore, State.advance_indentation, State.advance_indentation, hi] at he
      rw [blockLines_plain_error S ht hp.right.left hrest rfl hm hnext]
      refine Or.inr ⟨e, s', rfl, ?_⟩
      rw [hs, hb.bodyFault?_append, ht.bodyFault?_append, hb'.bodyFault?_append,
        bodyFault?_text hw hc' hn' hne, he.summary_eq]
      simp
  · -- The first line is indented.
    refine Or.inr ⟨_, _, documentBody_indented hs hb hw hc hn hne, ?_⟩
    rw [hs, hb.bodyFault?_append, bodyFault?_text hw hc hn hne, if_pos (Or.inl rfl)]
    rfl

/-- The delimiter line and the document after it. -/
lemma delimiter_line (hd : IsDelimiter l) (hs : s.cursor.rest = l ++ '\n' :: y) :
    delimiter s = .ok () { s.advance (l ++ ['\n']).length with inDocument := true } := by
  have hskip := skipLine_copies s l _ hs (fun _ _ => trivial) hd.newline_notMem rfl
  have hline := Cursor.restOfLine_eq hs hd.newline_notMem rfl
  rw [delimiter, bind_of_ok (mark_run s), hline, ite_run,
    if_pos (IsDelimiter.isDelimiterLine_iff.2 hd), bind_of_ok hskip, bind_of_ok (isFinished_run _),
    ite_run, State.rest_advance hs, List.isEmpty_cons, if_neg Bool.false_ne_true,
    bind_of_ok (skip_run 1 _), modify_run, State.advance_advance, List.length_append,
    List.length_singleton]

/-- A delimiter line that ends the source. -/
lemma delimiter_end (hd : IsDelimiter l) (hs : s.cursor.rest = l) :
    delimiter s =
      .error ⟨.missingDocument, some (.after (s.before ++ l))⟩ (s.advance l.length) := by
  rw [← List.append_nil l] at hs
  have hskip := skipLine_copies s l _ hs (fun _ _ => trivial) hd.newline_notMem rfl
  have hline := Cursor.restOfLine_eq hs hd.newline_notMem rfl
  rw [delimiter, bind_of_ok (mark_run s), hline, ite_run,
    if_pos (IsDelimiter.isDelimiterLine_iff.2 hd), bind_of_ok hskip, bind_of_ok (isFinished_run _),
    ite_run, State.rest_advance hs, List.isEmpty_nil, if_pos rfl, raise_run, State.location_eq,
    State.before_advance hs]

/-- A line that only starts with a delimiter. -/
lemma delimiter_text (hd : ¬ IsDelimiter l) (hs : s.cursor.rest = l ++ y) (hl : '\n' ∉ l)
    (hy : y.atLineEnd) :
    delimiter s = .error ⟨.textAfterDelimiter, some (.after s.before)⟩ s := by
  rw [delimiter, bind_of_ok (mark_run s), Cursor.restOfLine_eq hs hl hy, ite_run,
    if_neg (fun h => hd (IsDelimiter.isDelimiterLine_iff.1 h)), raise_run, State.location_eq]

/-- A document without a delimiter fails as the delimiter does. -/
lemma document_error (h : delimiter s = .error e s') : document inner s = .error e s' := by
  rw [document, bind_run, h]

/-- The document after its delimiter line. -/
lemma verdict_document (S : Setup σ) (hd : IsDelimiter l) (hs : s.cursor.rest = l ++ '\n' :: y)
    (hi : s.indentation = .unset) (hp : IsPlain y) :
    verdict (document (.outermost S)) s =
      match bodyFault? (s.before ++ (l ++ ['\n'])) true y.splitLines with
      | some fault => .error fault
      | none => .ok (documentOf y.splitLines) := by
  obtain ⟨s₁, hs₁⟩ : ∃ s₁ : State σ,
      s₁ = { s.advance (l ++ ['\n']).length with inDocument := true } := ⟨_, rfl⟩
  have hline : s.cursor.rest = (l ++ ['\n']) ++ y := by simpa using hs
  have hrest : s₁.cursor.rest = y := by
    rw [hs₁]
    exact State.rest_advance hline
  have hbefore : s₁.before = s.before ++ (l ++ ['\n']) := by
    rw [hs₁]
    exact State.before_advance hline
  have hbody := documentBody_plain (s := s₁) S (by rw [hs₁]; exact hi) (by rw [hrest]; exact hp)
  rw [hrest, hbefore] at hbody
  have hdocument := delimiter_line hd hs
  rw [← hs₁] at hdocument
  rcases hbody with ⟨body, s', hok, hfault, hout⟩ | ⟨e, s', herror, hfault⟩
  · rw [hfault, hout]
    have hrun : document (.outermost S) s = .ok (inDocument body ++ s'.cursor.rest)
        (s'.advance s'.cursor.rest.length) := by
      rw [document, bind_of_ok hdocument, bind_of_ok hok, bind_of_ok (skipAll_run s'), pure_run,
        Translator.document_eq]
      rfl
    exact verdict_of_ok hrun
  · rw [hfault]
    have hrun : document (.outermost S) s = .error e s' := by
      rw [document, bind_of_ok hdocument, bind_run, herror]
    exact verdict_of_error hrun

/-! ### The preamble -/

/-- Blank lines and comments are copied. -/
lemma preambleLine_copies (S : Setup σ) (hs : s.cursor.rest = l ++ y) (hl : '\n' ∉ l)
    (hy : y.atLineEnd) (hp : IsPlain l) (h : l.isBlankLine ∨ l.head? = some '%') :
    preambleLine (.outermost S) s = .ok l (s.advance l.length) := by
  rw [preambleLine, bind_of_ok (mark_run s), ite_run, Cursor.isOnBlankLine,
    Cursor.restOfLine_eq hs hl hy]
  split
  case isTrue => exact skipLine_copies s l y hs (fun _ _ => trivial) hl hy
  case isFalse hb =>
    obtain ⟨r, rfl⟩ : ∃ r, l = '%' :: r := List.head?_eq_some_iff.1 (h.resolve_left hb)
    have hindent : s.cursor.indentation = [] := by
      rw [Cursor.indentation, Cursor.run, hs]
      rfl
    have hpeek : s.cursor.peek = some '%' := by rw [Cursor.peek, hs]; rfl
    rw [ite_run, if_neg (by simpa using hindent), ite_run, if_pos (Or.inr hpeek)]
    exact line_copies S 127 0 s _ y hs hp hl hy

/-- A line with text is not blank. -/
lemma isOnBlankLine_text (hs : s.cursor.rest = w ++ c :: r) (hw : w.isBlankLine)
    (hc : isHorizontal c = false) (hn : c ≠ '\n') : s.cursor.isOnBlankLine = false := by
  obtain ⟨l, y, rfl, hl, hy⟩ := exists_line r
  have hrow : IsRow w (w ++ c :: l) := .of_text hw hc hn hl
  have hline : s.cursor.restOfLine = w ++ c :: l :=
    Cursor.restOfLine_eq (by simpa using hs) hrow.newline_notMem hy
  rw [Cursor.isOnBlankLine, hline, hrow.not_blank]

/-- An indented line of the preamble is reported. -/
lemma preambleLine_indented (hs : s.cursor.rest = w ++ c :: r) (hw : w.isBlankLine)
    (hc : isHorizontal c = false) (hn : c ≠ '\n') (hne : w ≠ []) :
    preambleLine inner s = .error ⟨.indentedPreamble, some (.after s.before)⟩ s := by
  have hindent : s.cursor.indentation = w := by
    rw [Cursor.indentation, Cursor.run, hs]
    exact takeWhile_text hw hc
  rw [preambleLine, bind_of_ok (mark_run s), ite_run, isOnBlankLine_text hs hw hc hn,
    if_neg Bool.false_ne_true, ite_run, hindent, if_pos hne, raise_run, State.location_eq]

/-- A line of the preamble with text is reported. -/
lemma preambleLine_text (hs : s.cursor.rest = c :: r) (hc : isHorizontal c = false) (hn : c ≠ '\n')
    (hcontrol : c ≠ '\\') (hcomment : c ≠ '%') :
    preambleLine inner s = .error ⟨.textInPreamble, some (.after s.before)⟩ s := by
  have hindent : s.cursor.indentation = [] := by
    rw [Cursor.indentation, Cursor.run, hs]
    exact takeWhile_text (w := []) rfl hc
  have hpeek : s.cursor.peek = some c := by rw [Cursor.peek, hs]; rfl
  rw [preambleLine, bind_of_ok (mark_run s), ite_run, isOnBlankLine_text (w := []) hs rfl hc hn,
    if_neg Bool.false_ne_true, ite_run, hindent, if_neg (not_not.2 rfl), ite_run, hpeek,
    if_neg (by simp [hcontrol, hcomment]), raise_run, State.location_eq]

/-- Any other line is reported. -/
lemma preambleLine_error (S : Setup σ) (hs : s.cursor.rest = l ++ y) (hl : '\n' ∉ l)
    (hp : IsPlain l) (h : ¬ (l.isBlankLine ∨ l.head? = some '%')) :
    preambleLine (.outermost S) s =
      .error ⟨if l.takeWhile isHorizontal ≠ [] then .indentedPreamble else .textInPreamble,
        some (.after s.before)⟩ s := by
  rw [not_or] at h
  rcases blank_cases l with hb | ⟨w, r, -, rfl⟩ | ⟨w, c, r, hw, hc, hn, rfl⟩
  · exact absurd hb h.1
  · exact absurd hl (by simp)
  have hrest : s.cursor.rest = w ++ c :: (r ++ y) := by simpa using hs
  rw [takeWhile_text hw hc]
  split
  case isTrue hne => exact preambleLine_indented hrest hw hc hn hne
  case isFalse hne =>
    obtain rfl : w = [] := not_not.1 hne
    exact preambleLine_text hrest hc hn (hp c (by simp)).1 fun hcomment => h.2 (by simp [hcomment])

/-! ### Whole sources -/

/-- A line that starts with a delimiter is the last one of the preamble. -/
lemma rootLoop_document (hd : ∃ d, IsDelimiter d ∧ d <+: s.cursor.restOfLine) (n : Nat) :
    rootLoop inner (n + 1) s = document inner s := by
  rw [rootLoop, bind_of_ok (mark_run s), ite_run, if_pos (IsDelimiter.startsWithDelimiter_iff.2 hd)]

/-- A line of the preamble that is copied. -/
lemma rootLoop_line (hd : ¬ ∃ d, IsDelimiter d ∧ d <+: s.cursor.restOfLine)
    (hs : s.cursor.rest = l ++ '\n' :: y) (h : preambleLine inner s = .ok l (s.advance l.length))
    (n : Nat) :
    rootLoop inner (n + 1) s =
      ((l ++ '\n' :: ·) <$> rootLoop inner n) (s.advance (l ++ ['\n']).length) := by
  rw [rootLoop, bind_of_ok (mark_run s), ite_run,
    if_neg (fun h => hd (IsDelimiter.startsWithDelimiter_iff.1 h)), bind_of_ok h,
    bind_of_ok (isFinished_run _), ite_run, State.rest_advance hs, List.isEmpty_cons,
    if_neg Bool.false_ne_true, bind_of_ok (skip_run 1 _), State.advance_advance, List.length_append,
    List.length_singleton]
  rfl

/-- The last line of a source without a document. -/
lemma rootLoop_last (hd : ¬ ∃ d, IsDelimiter d ∧ d <+: s.cursor.restOfLine)
    (hs : s.cursor.rest = l) (h : preambleLine inner s = .ok l (s.advance l.length)) (n : Nat) :
    rootLoop inner (n + 1) s =
      .error ⟨.missingDocument, some (.after s.cursor.text)⟩ (s.advance l.length) := by
  have hrest : s.cursor.rest = l ++ [] := by rw [hs, List.append_nil]
  rw [rootLoop, bind_of_ok (mark_run s), ite_run,
    if_neg (fun h => hd (IsDelimiter.startsWithDelimiter_iff.1 h)), bind_of_ok h,
    bind_of_ok (isFinished_run _), ite_run, State.rest_advance hrest, List.isEmpty_nil, if_pos rfl,
    raise_run, State.location_eq, State.before_advance hrest, State.text_eq, hs]

/-- A preamble fails as its first line does. -/
lemma rootLoop_error (hd : ¬ ∃ d, IsDelimiter d ∧ d <+: s.cursor.restOfLine)
    (h : preambleLine inner s = .error e s') (n : Nat) :
    rootLoop inner (n + 1) s = .error e s' := by
  rw [rootLoop, bind_of_ok (mark_run s), ite_run,
    if_neg (fun h => hd (IsDelimiter.startsWithDelimiter_iff.1 h)), bind_run, h]

/-- A plain source is read line by line. -/
lemma verdict_rootLoop (S : Setup σ) (hi : s.indentation = .unset) (hp : IsPlain s.cursor.rest)
    (hn : s.cursor.rest.length ≤ n) :
    verdict (rootLoop (.outermost S) n) s =
      plainDocument s.cursor.text s.before s.cursor.rest.splitLines := by
  induction n generalizing s with
  | zero =>
    have hs : s.cursor.rest = [] := List.eq_nil_of_length_eq_zero (Nat.le_zero.1 hn)
    have hd : ¬ ∃ d, IsDelimiter d ∧ d <+: [] := by
      rw [← IsDelimiter.startsWithDelimiter_iff]
      exact Bool.false_ne_true
    rw [hs, splitLines, plainDocument_last hd (Or.inl rfl), rootLoop, verdict, raise_run,
      State.location_eq, State.text_eq, hs, List.append_nil]
    rfl
  | succ n ih =>
    obtain ⟨l, y, hs, hl, hy⟩ := exists_line s.cursor.rest
    have hline := Cursor.restOfLine_eq hs hl hy
    obtain ⟨ls, hls, hlast⟩ := exists_splitLines hl hy
    rw [hs] at hp hn
    rw [hs, hls]
    by_cases hstart : ∃ d, IsDelimiter d ∧ d <+: l
    · have hdocument : rootLoop (.outermost S) (n + 1) s = document (.outermost S) s :=
        rootLoop_document (by rwa [hline]) n
      rw [plainDocument, if_pos hstart, verdict, hdocument, ← verdict]
      by_cases hd : IsDelimiter l
      · rw [if_neg (not_not.2 hd)]
        rcases hlast with ⟨rfl, rfl⟩ | ⟨z, rfl, rfl⟩
        · have hend := delimiter_end (s := s) hd (by rw [hs, List.append_nil])
          rw [if_pos rfl, State.text_eq, hs, List.append_nil]
          exact verdict_of_error (document_error hend)
        · rw [if_neg (splitLines_ne_nil z)]
          exact verdict_document S hd hs hi (hp.right.right (x := ['\n']))
      · rw [if_pos hd]
        exact verdict_of_error (document_error (delimiter_text hd hs hl hy))
    rw [← hline] at hstart
    by_cases hcopied : l.isBlankLine ∨ l.head? = some '%'
    · have hcopy := preambleLine_copies S hs hl hy hp.left hcopied
      rcases hlast with ⟨rfl, rfl⟩ | ⟨z, rfl, rfl⟩
      · rw [plainDocument_last (by rwa [← hline]) hcopied]
        exact verdict_of_error (rootLoop_last hstart (by rw [hs, List.append_nil]) hcopy n)
      · have hs' : s.cursor.rest = (l ++ ['\n']) ++ z := by simpa using hs
        have hmore := ih (s := s.advance (l ++ ['\n']).length) hi
          (by rw [State.rest_advance hs']; exact hp.right.right (x := ['\n']))
          (by rw [State.rest_advance hs']; simp at hn; omega)
        rw [State.text_advance, State.rest_advance hs', State.before_advance hs'] at hmore
        rw [plainDocument, if_neg (by rwa [← hline]), if_pos hcopied, ← hmore, verdict,
          rootLoop_line hstart hs hcopy, map_run, verdict]
        cases rootLoop (.outermost S) n (s.advance (l ++ ['\n']).length) <;> rfl
    · have herror := preambleLine_error S hs hl hp.left hcopied
      rw [plainDocument, if_neg (by rwa [← hline]), if_neg hcopied,
        verdict_of_error (rootLoop_error hstart herror n)]
      split <;> rfl

end Scan

open Scan Text

/-- A source without control sequences and groups is translated as its lines are read one by
one. -/
theorem Translator.translate_plain (t : Translator σ) {s : Text} (hs : s.IsPlain) :
    (t.translate s).mapError Error.summary = plainDocument s [] s.splitLines := by
  have hroot := verdict_rootLoop (s := .start s (t.start t.files)) t.setup rfl hs (Nat.le_refl _)
  have hrun : (t.translate s).mapError Error.summary =
      verdict (root (.outermost t.setup)) (.start s (t.start t.files)) := by
    rw [translate, run, verdict]
    cases root (.outermost t.setup) (.start s (t.start t.files)) <;> rfl
  exact hrun.trans hroot

/-- The second line of a document that is indented, in a mixed way. -/
theorem Translator.translate_plain_mixed :
    IsPlain "% a\n \n\t==== \n\nb % c\n \td\n e".toList ∧
      (defaults.translate "% a\n \n\t==== \n\nb % c\n \td\n e".toList).mapError Error.summary =
        .error (.invalidIndentation, some ⟨20, 6, 1⟩) := by
  have hplain : IsPlain "% a\n \n\t==== \n\nb % c\n \td\n e".toList := by simp [IsPlain]
  refine ⟨hplain, (translate_plain defaults hplain).trans ?_⟩
  rfl

end IndentTex
