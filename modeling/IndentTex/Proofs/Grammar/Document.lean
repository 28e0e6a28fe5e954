import IndentTex.Proofs.EntryPoints

/-!
# The grammar of documents

What a run on a document with its preamble reads when it succeeds: the lines of the preamble, the
delimiter line and the lines of the document. As for the other readers, every successful run
follows the grammar.
-/

namespace IndentTex

variable {σ : Type}

namespace Grammar

/-- A line of the preamble. -/
inductive PreambleLine (G : Grammar σ) : Config σ → Text → Config σ → Prop where
  | blank {line r : Text} {i : Indentation} {h : σ} : line.isBlankLine → r.atLineEnd →
    PreambleLine G ⟨line ++ r, i, h⟩ line ⟨r, i, h⟩
  | text {k k' : Config σ} {out : Text} : k.rest.starts (fun c => c == '\\' || c == '%') →
    G.line 0 false k out k' → PreambleLine G k out k'

/-- The lines of a document, from after the delimiter line. -/
inductive DocumentBody (G : Grammar σ) : Config σ → Text → Config σ → Prop where
  | blank {t : Text} {i : Indentation} {h : σ} : t.blankLines = t →
    DocumentBody G ⟨t, i, h⟩ [] ⟨t, i, h⟩
  | lines {blank r out : Text} {i : Indentation} {h : σ} {k : Config σ} :
    (blank ++ r).blankLines = blank → r ≠ [] → r.starts isHorizontal = false →
    Block (G.line 0 false) 0 ⟨r, i, h⟩ out k → DocumentBody G ⟨blank ++ r, i, h⟩ (blank ++ out) k

/-- A document with its preamble. What the lines of the document leave is copied behind it. -/
inductive Root (G : Grammar σ) : Config σ → Text → Config σ → Prop where
  | document {d t body : Text} {i : Indentation} {h : σ} {k : Config σ} : IsDelimiter d →
    DocumentBody G ⟨t, i, h⟩ body k →
    Root G ⟨d ++ '\n' :: t, i, h⟩
      (Markup.environment "document".toList [] ('\n' :: body ++ ['\n']) ++ k.rest)
      ⟨[], k.indentation, k.host⟩
  | line {k k' : Config σ} {t text out : Text} {i : Indentation} {h : σ} :
    Scan.startsWithDelimiter (k.rest.takeWhile (· != '\n')) = false →
    PreambleLine G k text ⟨'\n' :: t, i, h⟩ → Root G ⟨t, i, h⟩ out k' →
    Root G k (text ++ '\n' :: out) k'

/-- What the lines of a document leave is blank, and it is all there is or starts with a newline. -/
lemma DocumentBody.rest_blank {G : Grammar σ} {k k' : Config σ} {out : Text}
    (h : DocumentBody G k out k') :
    k'.rest.all isBlank ∧ (out = [] ∨ k'.rest.atLineEnd) := by
  cases h with
  | blank hb => exact ⟨Text.all_isBlank_of_blankLines hb, Or.inl rfl⟩
  | lines _ _ _ hl =>
    refine ⟨?_, Or.inr hl.atLineEnd⟩
    rcases hl.rest_of_zero with h0 | ⟨t, ht, hb⟩
    · rw [h0]
      rfl
    · rw [ht, List.all_cons, Text.all_isBlank_of_blankLines hb]
      decide

end Grammar

/-- The lines that are taken for delimiters. -/
lemma IsDelimiter.of_isDelimiterLine {d : Text} (h : Scan.isDelimiterLine d) : IsDelimiter d := by
  have hblank : ∀ {w : Text}, w.all Scan.isDelimiterBlank → ∀ c ∈ w, c = ' ' ∨ c = '\t' := by
    intro w hw c hc
    simpa [Scan.isDelimiterBlank] using List.all_eq_true.1 hw c hc
  unfold Scan.isDelimiterLine Scan.afterDelimiter? at h
  dsimp only at h
  split at h
  case isFalse => cases h
  case isTrue hn =>
    generalize hs : d.dropWhile Scan.isDelimiterBlank = signs at h hn
    have hd : d = d.takeWhile Scan.isDelimiterBlank ++ signs := by
      rw [← hs, List.takeWhile_append_dropWhile]
    have hsigns : signs.takeWhile (fun c => decide (c = '=')) =
        List.replicate (signs.takeWhile fun c => decide (c = '=')).length '=' := by
      rw [List.eq_replicate_iff]
      exact ⟨rfl, fun c hc => by simpa using List.all_eq_true.1 List.all_takeWhile c hc⟩
    rw [hd, ← List.takeWhile_append_dropWhile (p := fun c => decide (c = '=')) (l := signs),
      ← List.append_assoc, hsigns]
    exact .mk (hblank List.all_takeWhile) hn (hblank h)

namespace Scan

open Grammar

variable {inner : Level σ} {G : Grammar σ} {s s' : State σ} {out : Text}

/-- A line is read up to its end. -/
lemma skipLine_ok (s : State σ) :
    ∃ r, s.cursor.rest = s.cursor.restOfLine ++ r ∧ r.atLineEnd ∧
      skipLine s = .ok s.cursor.restOfLine (s.advance s.cursor.restOfLine.length) ∧
      (s.advance s.cursor.restOfLine.length).cursor.rest = r := by
  obtain ⟨w, r, ht, hw, hr, hs, hsr⟩ := skipWhile_ok (fun c => !(c == '\n')) s
  have hline : s.cursor.restOfLine = w := by
    rw [Cursor.restOfLine, Cursor.run, ht]
    exact Text.takeWhile_run hw hr
  have hend : r.atLineEnd := by
    cases r with
    | nil => rfl
    | cons c r => simpa using hr
  rw [hline]
  exact ⟨r, ht, hend, hs, hsr⟩

/-- A delimiter line that is read is a delimiter with its newline. -/
lemma delimiter_sound (h : delimiter s = .ok () s') :
    ∃ d t, IsDelimiter d ∧ s.cursor.rest = d ++ '\n' :: t ∧ s'.cursor.rest = t ∧ s.Kept s' := by
  obtain ⟨r, ht, hend, hs, hsr⟩ := skipLine_ok s
  rw [delimiter, bind_of_ok (mark_run s), ite_run] at h
  split at h
  case isFalse => cases h
  case isTrue hd =>
    rw [bind_of_ok hs, bind_of_ok (isFinished_run _), ite_run, hsr] at h
    cases r with
    | nil => cases h
    | cons c t =>
      obtain rfl : c = '\n' := by simpa using hend
      rw [List.isEmpty_cons, if_neg Bool.false_ne_true, bind_of_ok (skip_run 1 _), modify_run] at h
      cases h
      exact ⟨_, t, .of_isDelimiterLine hd, ht, State.advance_one hsr, ⟨rfl, rfl⟩⟩

/-- The lines of a document that are read are in the grammar (`parse_document`). -/
lemma documentBody_sound (hI : inner.Sound G) (h : documentBody inner s = .ok out s') :
    DocumentBody G s.config out s'.config := by
  obtain ⟨blank, r, ht, hb, hs, hsr⟩ := skipBlankLines_ok s
  rw [documentBody, bind_of_ok (mark_run s), bind_of_ok hs, bind_of_ok (isFinished_run _), ite_run,
    hsr] at h
  cases r with
  | nil =>
    cases h
    rw [List.append_nil] at hb ht
    exact .blank (by rw [ht, hb])
  | cons c r =>
    rw [List.isEmpty_cons, if_neg Bool.false_ne_true, bind_of_ok (mark_run _), ite_run] at h
    split at h
    case isFalse => cases h
    case isTrue hi =>
      obtain ⟨text, s1, hl, h⟩ := bind_ok h
      cases h
      have hstart : isHorizontal c = false := by
        rw [Cursor.indentation, Cursor.run, hsr] at hi
        cases hc : isHorizontal c with
        | false => rfl
        | true => simp [hc] at hi
      have hl := blockLoop_sound hI (Nat.le_refl _) hl
      rw [State.config_eq hsr] at hl
      rw [State.config_eq ht]
      exact .lines hb (List.cons_ne_nil c r) hstart hl

/-- A line of a preamble that is read is in the grammar. -/
lemma preambleLine_sound (hI : inner.Sound G) (h : preambleLine inner s = .ok out s') :
    PreambleLine G s.config out s'.config ∧ s'.cursor.rest.atLineEnd := by
  rw [preambleLine, bind_of_ok (mark_run s), ite_run, ite_run, ite_run] at h
  split at h
  case isTrue hb =>
    obtain ⟨r, ht, hend, hs, hsr⟩ := skipLine_ok s
    rw [hs] at h
    cases h
    rw [State.config_eq ht, State.config_eq hsr, hsr]
    exact ⟨.blank hb hend, hend⟩
  case isFalse =>
    split at h
    case isTrue => cases h
    case isFalse =>
      split at h
      case isFalse => cases h
      case isTrue hc =>
        have hl := hI.line h
        refine ⟨.text ?_ hl, hI.ends hl⟩
        rcases hc with hc | hc
        · obtain ⟨r, hr⟩ := List.head?_eq_some_iff.1 hc
          rw [State.config_eq hr]
          rfl
        · obtain ⟨r, hr⟩ := List.head?_eq_some_iff.1 hc
          rw [State.config_eq hr]
          rfl

/-- A document that is read is in the grammar (`parse_document`). -/
lemma document_sound (hI : inner.Sound G) (h : document inner s = .ok out s') :
    Root G s.config out s'.config := by
  obtain ⟨_, s1, hd, h⟩ := bind_ok h
  obtain ⟨body, s2, hb, h⟩ := bind_ok h
  rw [bind_of_ok (skipAll_run s2)] at h
  cases h
  obtain ⟨d, t, hdelimiter, ht, ht1, hk⟩ := delimiter_sound hd
  have hb := documentBody_sound hI hb
  rw [State.config_eq ht1, hk.indentation, hk.host] at hb
  have hrest : (s2.advance s2.cursor.rest.length).cursor.rest = [] := by simp
  rw [State.config_eq ht, State.config_eq hrest]
  exact .document hdelimiter hb

/-- A preamble that is read line by line is in the grammar. -/
lemma rootLoop_sound (hI : inner.Sound G) {n : Nat} (h : rootLoop inner n s = .ok out s') :
    Root G s.config out s'.config := by
  induction n generalizing s out with
  | zero => cases h
  | succ n ih =>
    rw [rootLoop, bind_of_ok (mark_run s), ite_run] at h
    split at h
    case isTrue => exact document_sound hI h
    case isFalse hd =>
      obtain ⟨line, s1, hl, h⟩ := bind_ok h
      obtain ⟨hl, hend⟩ := preambleLine_sound hI hl
      rw [bind_of_ok (isFinished_run _), ite_run] at h
      cases hr : s1.cursor.rest with
      | nil =>
        rw [hr] at h
        cases h
      | cons c t =>
        rw [hr] at h hend
        obtain rfl : c = '\n' := by simpa using hend
        rw [List.isEmpty_cons, if_neg Bool.false_ne_true, bind_of_ok (skip_run 1 _)] at h
        obtain ⟨more, s2, hm, h⟩ := bind_ok h
        cases h
        have hm := ih hm
        rw [State.config_eq (State.advance_one hr)] at hm
        rw [State.config_eq hr] at hl
        exact .line (Bool.eq_false_iff.2 hd) hl hm

/-- A source that is read is in the grammar (`parse_root`). -/
lemma root_sound (hI : inner.Sound G) (h : root inner s = .ok out s') :
    Root G s.config out s'.config :=
  rootLoop_sound hI h

end Scan

end IndentTex
