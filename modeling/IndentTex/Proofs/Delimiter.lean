import IndentTex.Proofs.PlainDocument

/-!
# Blanks around a delimiter

Spaces and tabs around the equals signs of a delimiter line make no difference to the document
behind it: the runs behind two delimiter lines keep in step (`Lockstep.moved`), and only the places
of errors differ. Other blanks are not taken for a part of the delimiter. In front of the equals
signs they make the line an indented line of the preamble, and behind them they are text
(`Translator.translate_padded`).
-/

namespace IndentTex

variable {σ : Type}

/-! ### The same text behind two delimiter lines -/

/-- An error with a place that comes from a definition. -/
def Setup.Places (S : Setup σ) (e : Error) : Prop :=
  e.location.isSome ∧
    ((∃ name c values, S.registry.find? name = some (.command c) ∧ c.generate values = .error e) ∨
      ∃ name en unit body values host, S.registry.find? name = some (.environment en) ∧
        ((en.generate unit body values).run S.executor host).1 = .error e)

/-- Two results that differ only in the place of the error: it is behind the line `d` in the first
and behind `d'` in the second, unless a definition has placed it. -/
inductive Setup.Moved (S : Setup σ) (d d' : Text) :
    Except Error Text → Except Error Text → Prop where
  | ok (out : Text) : S.Moved d d' (.ok out) (.ok out)
  | given {e : Error} : S.Places e → S.Moved d d' (.error e) (.error e)
  | error (cause : Cause) (place : Location) :
    S.Moved d d' (.error ⟨cause, some (place.below (d ++ ['\n']))⟩)
      (.error ⟨cause, some (place.below (d' ++ ['\n']))⟩)

/-- The place of a cursor behind a line. -/
lemma Cursor.location_behind {c : Cursor} {x d : Text} (h : c.behind = x ++ '\n' :: d.reverse) :
    c.location = (Location.after x.reverse).below (d ++ ['\n']) := by
  rw [c.location_eq, h, ← Location.after_append]
  simp

namespace Lockstep

/-- The lockstep of two runs on the same text, one behind the line `d` and the other behind `d'`. -/
def moved (S : Setup σ) (d d' : Text) : Lockstep σ σ where
  cursor c c' := c.rest = c'.rest ∧
    ∃ x, c.behind = x ++ '\n' :: d.reverse ∧ c'.behind = x ++ '\n' :: d'.reverse
  known _ _ _ := True
  host := Eq
  given e e' := e = e' ∧ (e.location = none ∨ S.Places e)
  error e _ e' _ := S.Moved d d' (.error e) (.error e')
  excused _ := False
  rest_eq h := h.1
  advance {c c'} n h := by
    obtain ⟨hr, x, hx, hx'⟩ := h
    refine ⟨by simp [hr], (c.rest.take n).reverse ++ x, ?_, ?_⟩
    · rw [Cursor.advance, hx, List.append_assoc]
    · rw [Cursor.advance, hx', ← hr, List.append_assoc]
  levelOf_ok _ _ := trivial
  levelOf_error _ _ := trivial
  begun _ := trivial
  raised {c c' cause} h _ := by
    obtain ⟨-, x, hx, hx'⟩ := h
    rw [Cursor.location_behind hx, Cursor.location_behind hx']
    exact .error cause _
  placed {c c' e e'} h hg := by
    obtain ⟨-, x, hx, hx'⟩ := h
    obtain ⟨rfl, hn | hplaces⟩ := hg
    · simp only [Error.orAt, hn]
      rw [Cursor.location_behind hx, Cursor.location_behind hx']
      exact .error e.cause _
    · -- The place that a definition gives is kept.
      obtain ⟨l, hl⟩ := Option.isSome_iff_exists.1 hplaces.1
      simp only [Error.orAt, hl]
      exact .given hplaces

variable {S : Setup σ} {d d' : Text}

/-- Both runs have the same definitions, and the errors of the two are the same. -/
lemma moved_setups (S : Setup σ) (d d' : Text) : (moved S d d').Setups S S := by
  intro name
  cases hd : S.registry.find? name with
  | none => exact .none
  | some definition =>
    cases definition with
    | command c =>
      refine .command rfl rfl fun values => ?_
      cases hx : c.generate values with
      | ok t => exact .ok t
      | error e =>
        refine .error ⟨rfl, ?_⟩
        cases he : e.location with
        | none => exact Or.inl rfl
        | some l => exact Or.inr ⟨by rw [he]; rfl, Or.inl ⟨name, c, values, hd, hx⟩⟩
    | environment en =>
      refine .environment rfl rfl rfl fun unit body values h h' hh => ?_
      obtain rfl : h = h' := hh
      cases hx : (en.generate unit body values).run S.executor h with
      | mk output host =>
        cases output with
        | ok t => exact .ok t rfl
        | error e =>
          refine .error ⟨rfl, ?_⟩ rfl
          cases he : e.location with
          | none => exact Or.inl rfl
          | some l =>
            exact Or.inr ⟨by rw [he]; rfl, Or.inr ⟨name, en, unit, body, values, h, hd, by rw [hx]⟩⟩

end Lockstep

/-! ### Other blanks -/

namespace IsDelimiter

variable {d lead trail x : Text} {c : Char} {n : Nat}

/-- A delimiter consists of spaces, tabs and equals signs. -/
lemma eq_of_mem (hd : IsDelimiter d) (hc : c ∈ d) : c = ' ' ∨ c = '\t' ∨ c = '=' := by
  obtain ⟨hl, -, ht⟩ := hd
  rcases List.mem_append.1 hc with hc | hc
  · rcases List.mem_append.1 hc with hc | hc
    · exact (hl c hc).imp_right Or.inl
    · exact Or.inr (Or.inr (List.eq_of_mem_replicate hc))
  · exact (ht c hc).imp_right Or.inl

/-- Only spaces and tabs can stand behind the equals signs. -/
lemma eq_of_mem_trail (hd : IsDelimiter (x ++ trail)) (ht : trail.isBlankLine) (hc : c ∈ trail) :
    c = ' ' ∨ c = '\t' := by
  rcases hd.eq_of_mem (List.mem_append_right x hc) with h | h | rfl
  · exact Or.inl h
  · exact Or.inr h
  · exact absurd (List.all_eq_true.1 ht _ hc) (by decide)

/-- Only spaces and tabs can stand in front of the equals signs. -/
lemma eq_of_mem_lead (hd : IsDelimiter d) (hp : d <+: lead ++ x) (hl : lead.isBlankLine)
    (hc : c ∈ lead) : c = ' ' ∨ c = '\t' := by
  obtain ⟨r, hr⟩ := hp
  obtain @⟨lead', trail, n, hl', hn, -⟩ := hd
  obtain ⟨m, rfl⟩ : ∃ m, n = m + 1 := ⟨n - 1, by omega⟩
  rw [List.replicate_succ, List.append_assoc, List.append_assoc, List.cons_append] at hr
  -- The blanks end before the first equals sign.
  rcases List.append_eq_append_iff.1 hr with ⟨z, hz, hz'⟩ | ⟨z, rfl, -⟩
  · cases z with
    | nil =>
      rw [List.append_nil] at hz
      exact hl' c (hz ▸ hc)
    | cons a z =>
      obtain rfl : a = '=' := (List.cons.inj hz').1.symm
      exact absurd (List.all_eq_true.1 hl '=' (by simp [hz])) (by decide)
  · exact hl' c (List.mem_append_left z hc)

end IsDelimiter

namespace Scan

variable {inner : Level σ} {s : State σ} {lead trail y : Text} {n : Nat}

/-- Equals signs between blanks are on one line. -/
lemma newline_notMem_padded (hl : lead.isBlankLine) (ht : trail.isBlankLine) (n : Nat) :
    '\n' ∉ lead ++ List.replicate n '=' ++ trail := by
  simp [Text.newline_notMem_of_isBlankLine hl, Text.newline_notMem_of_isBlankLine ht]

/-- The first round over a source that has a line. -/
lemma exists_rootLoop (inner : Level σ) (l b : Text) (h : σ) :
    ∃ k, root inner (.start (l ++ '\n' :: b) h) =
      rootLoop inner (k + 1) (.start (l ++ '\n' :: b) h) := by
  refine ⟨l.length + b.length, ?_⟩
  rw [root, bounded_run, State.start, Cursor.start, List.length_append, List.length_cons,
    Nat.add_assoc]

/-- Other blanks in front of the equals signs indent a line of the preamble. -/
lemma root_indented (hl : lead.isBlankLine) (ht : trail.isBlankLine) (hn : 3 ≤ n)
    (hother : ¬ ∀ c ∈ lead, c = ' ' ∨ c = '\t') (b : Text) (h : σ) :
    root inner (.start (lead ++ List.replicate n '=' ++ trail ++ '\n' :: b) h) =
      .error ⟨.indentedPreamble, some (.after [])⟩
        (.start (lead ++ List.replicate n '=' ++ trail ++ '\n' :: b) h) := by
  obtain ⟨m, rfl⟩ : ∃ m, n = m + 1 := ⟨n - 1, by omega⟩
  have hne : lead ≠ [] := by
    rintro rfl
    exact hother (by simp)
  have hd : ¬ ∃ d, IsDelimiter d ∧ d <+: lead ++ List.replicate (m + 1) '=' ++ trail := by
    rintro ⟨d, hd, hp⟩
    rw [List.append_assoc] at hp
    exact hother fun c => hd.eq_of_mem_lead hp hl
  obtain ⟨k, hk⟩ := exists_rootLoop inner (lead ++ List.replicate (m + 1) '=' ++ trail) b h
  rw [hk]
  refine rootLoop_error ?_ (preambleLine_indented (w := lead) (c := '=')
    (r := List.replicate m '=' ++ trail ++ '\n' :: b) ?_ hl (by decide) (by decide) hne) k
  · rwa [Cursor.restOfLine_eq rfl (newline_notMem_padded hl ht (m + 1)) rfl]
  · simp [State.start, Cursor.start, List.replicate_succ]

/-- Other blanks behind the equals signs are text. -/
lemma root_textAfterDelimiter (hl : lead.isBlankLine) (ht : trail.isBlankLine) (hn : 3 ≤ n)
    (hlead : ∀ c ∈ lead, c = ' ' ∨ c = '\t') (hother : ¬ ∀ c ∈ trail, c = ' ' ∨ c = '\t')
    (b : Text) (h : σ) :
    root inner (.start (lead ++ List.replicate n '=' ++ trail ++ '\n' :: b) h) =
      .error ⟨.textAfterDelimiter, some (.after [])⟩
        (.start (lead ++ List.replicate n '=' ++ trail ++ '\n' :: b) h) := by
  have hline := newline_notMem_padded hl ht n
  have hstart : ∃ d, IsDelimiter d ∧ d <+: lead ++ List.replicate n '=' ++ trail :=
    ⟨lead ++ List.replicate n '=' ++ [], .mk hlead hn (by simp), trail, by simp⟩
  have hd : ¬ IsDelimiter (lead ++ List.replicate n '=' ++ trail) :=
    fun hd => hother fun c => hd.eq_of_mem_trail ht
  obtain ⟨k, hk⟩ := exists_rootLoop inner (lead ++ List.replicate n '=' ++ trail) b h
  rw [hk, rootLoop_document (by rwa [Cursor.restOfLine_eq rfl hline rfl])]
  exact document_error (delimiter_text (y := '\n' :: b) hd rfl hline rfl)

end Scan

namespace Translator

open Scan

variable {d d' : Text}

/-- Delimiter lines can be exchanged. -/
lemma translate_moved (t : Translator σ) (hd : IsDelimiter d) (hd' : IsDelimiter d') (b : Text) :
    t.setup.Moved d d' (t.translate (d ++ '\n' :: b)) (t.translate (d' ++ '\n' :: b)) := by
  have hlevels := Lockstep.Levels.outermost (Lockstep.moved_setups t.setup d d')
  have hsim := hlevels.documentBody.bindEq fun body =>
    (Lockstep.Sim.skipWhile fun _ => true).bindEq fun trailing =>
      .pure (a := Markup.environment "document".toList [] ('\n' :: body ++ ['\n']) ++ trailing) rfl
  have hagree := hsim (afterDelimiter d b (t.start t.files)) (afterDelimiter d' b (t.start t.files))
    ⟨⟨rfl, [], rfl, rfl⟩, rfl, trivial, rfl⟩
  rw [translate, translate, run, run, root_delimiter hd, root_delimiter hd']
  revert hagree
  generalize (documentBody (.outermost t.setup) >>= fun body =>
    skipWhile (fun _ => true) >>= fun trailing => pure (Markup.environment "document".toList []
      ('\n' :: body ++ ['\n']) ++ trailing)) = m
  intro hagree
  cases hx : m (afterDelimiter d b (t.start t.files)) with
  | ok out s =>
    cases hy : m (afterDelimiter d' b (t.start t.files)) with
    | ok out' s' =>
      rw [hx, hy] at hagree
      obtain ⟨rfl, -⟩ := hagree
      exact .ok out
    | error e' s' =>
      rw [hx, hy] at hagree
      exact hagree.elim
  | error e s =>
    cases hy : m (afterDelimiter d' b (t.start t.files)) with
    | ok out' s' =>
      rw [hx, hy] at hagree
      exact hagree.elim
    | error e' s' =>
      rw [hx, hy] at hagree
      rcases hagree with h | ⟨h, -⟩
      · exact h.elim
      · exact h

/-- Blanks around the equals signs of a delimiter line make no difference, but for the places of
errors, if they are spaces and tabs. With other blanks the line is not taken for a delimiter. -/
theorem translate_padded (t : Translator σ) (lead trail : Text) (n : Nat) (hl : lead.isBlankLine)
    (hn : 3 ≤ n) (ht : trail.isBlankLine) (b : Text) :
    ((∀ c ∈ lead ++ trail, c = ' ' ∨ c = '\t') →
      t.setup.Moved (lead ++ List.replicate n '=' ++ trail) ['=', '=', '=']
        (t.translate (lead ++ List.replicate n '=' ++ trail ++ '\n' :: b))
        (t.translate (['=', '=', '='] ++ '\n' :: b))) ∧
    ((¬ ∀ c ∈ lead, c = ' ' ∨ c = '\t') →
      t.translate (lead ++ List.replicate n '=' ++ trail ++ '\n' :: b) =
        .error ⟨.indentedPreamble, some ⟨0, 1, 1⟩⟩) ∧
    ((∀ c ∈ lead, c = ' ' ∨ c = '\t') → (¬ ∀ c ∈ trail, c = ' ' ∨ c = '\t') →
      t.translate (lead ++ List.replicate n '=' ++ trail ++ '\n' :: b) =
        .error ⟨.textAfterDelimiter, some ⟨0, 1, 1⟩⟩) := by
  have hshort : IsDelimiter ([] ++ List.replicate 3 '=' ++ []) :=
    .mk (by simp) (Nat.le_refl 3) (by simp)
  refine ⟨fun hblank => ?_, fun hother => ?_, fun hlead hother => ?_⟩
  · rw [List.forall_mem_append] at hblank
    exact t.translate_moved (.mk hblank.1 hn hblank.2) hshort b
  · exact run_eq_error.2 ⟨_, root_indented hl ht hn hother b _⟩
  · exact run_eq_error.2 ⟨_, root_textAfterDelimiter hl ht hn hlead hother b _⟩

/-- A tab and a space around the equals signs, and a carriage return behind them. -/
theorem translate_padded_return :
    Text.isBlankLine ['\t'] ∧ 3 ≤ 4 ∧ Text.isBlankLine [' '] ∧ Text.isBlankLine ['\r'] ∧
      defaults.setup.Moved ("\t==== ".toList) ['=', '=', '=']
        (defaults.translate ("\t==== ".toList ++ '\n' :: ['\x7d']))
        (defaults.translate (['=', '=', '='] ++ '\n' :: ['\x7d'])) ∧
      defaults.translate ("\t====\r".toList ++ '\n' :: ['x']) =
        .error ⟨.textAfterDelimiter, some ⟨0, 1, 1⟩⟩ :=
  ⟨rfl, by decide, rfl, rfl,
    (translate_padded defaults ['\t'] [' '] 4 rfl (by decide) rfl ['\x7d']).1 (by simp),
    (translate_padded defaults ['\t'] ['\r'] 4 rfl (by decide) rfl ['x']).2.2 (by simp) (by simp)⟩

/-- A line of equals signs that ends with a carriage return starts no document. -/
theorem not_translate_padded : ¬ ∀ (t : Translator Unit) (lead trail : Text) (n : Nat) (b : Text),
    lead.isBlankLine → 3 ≤ n → trail.isBlankLine → b.isUnindented →
    t.setup.Moved (lead ++ List.replicate n '=' ++ trail) ['=', '=', '=']
      (t.translate (lead ++ List.replicate n '=' ++ trail ++ '\n' :: b))
      (t.translate (['=', '=', '='] ++ '\n' :: b)) := by
  intro hall
  have hmoved := hall defaults [] ['\r'] 3 ['x'] rfl (Nat.le_refl 3) rfl rfl
  have hfails : defaults.translate ([] ++ List.replicate 3 '=' ++ ['\r'] ++ '\n' :: ['x']) =
      .error ⟨.textAfterDelimiter, some (.after [])⟩ :=
    run_eq_error.2 ⟨_, root_textAfterDelimiter rfl rfl (Nat.le_refl 3) (by simp) (by simp) _ _⟩
  have hok : (defaults.translate (['=', '=', '='] ++ '\n' :: ['x'])).isOk := by decide +kernel
  rw [hfails] at hmoved
  generalize defaults.translate (['=', '=', '='] ++ '\n' :: ['x']) = result at hmoved hok
  cases hmoved with
  | given => cases hok

end Translator

end IndentTex
