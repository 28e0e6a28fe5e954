import IndentTex.Proofs.Grammar.Soundness
import IndentTex.Proofs.Relocation
import IndentTex.Translator

/-!
# Documents and fragments

A document without a preamble is a delimiter line and a body. The body is read as it is read as a
fragment: the two readings succeed together, with outputs that differ only in the document
environment, and they fail together, at places that differ by the delimiter line.
-/

namespace IndentTex

variable {σ : Type}

/-! ### Delimiter lines -/

/-- A delimiter line: three or more equals signs, with spaces and tabs around them. -/
inductive IsDelimiter : Text → Prop where
  | mk {lead trail : Text} {n : Nat} : (∀ c ∈ lead, c = ' ' ∨ c = '\t') → 3 ≤ n →
    (∀ c ∈ trail, c = ' ' ∨ c = '\t') → IsDelimiter (lead ++ List.replicate n '=' ++ trail)

namespace IsDelimiter

variable {d : Text}

/-- A delimiter is one line. -/
lemma newline_notMem (hd : IsDelimiter d) : '\n' ∉ d := by
  obtain ⟨hl, -, ht⟩ := hd
  simp only [List.mem_append, List.mem_replicate, not_or]
  refine ⟨⟨fun hn => ?_, by simp⟩, fun hn => ?_⟩
  · simpa using hl _ hn
  · simpa using ht _ hn

/-- Spaces and tabs may stand around a delimiter. -/
lemma all_isDelimiterBlank {w : Text} (hw : ∀ c ∈ w, c = ' ' ∨ c = '\t') :
    w.all Scan.isDelimiterBlank := by
  simpa [List.all_eq_true, Scan.isDelimiterBlank] using hw

/-- A delimiter is followed by blanks only. -/
lemma afterDelimiter? (hd : IsDelimiter d) :
    ∃ trail, Scan.afterDelimiter? d = some trail ∧ trail.all Scan.isDelimiterBlank := by
  obtain @⟨lead, trail, n, hl, hn, ht⟩ := hd
  obtain ⟨m, rfl⟩ : ∃ m, n = m + 1 := ⟨n - 1, by omega⟩
  refine ⟨trail, ?_, all_isDelimiterBlank ht⟩
  have hsigns : (lead ++ List.replicate (m + 1) '=' ++ trail).dropWhile Scan.isDelimiterBlank =
      List.replicate (m + 1) '=' ++ trail := by
    rw [List.append_assoc]
    exact Text.dropWhile_run (all_isDelimiterBlank hl) rfl
  have htrail : trail.starts (fun c => decide (c = '=')) = false := by
    cases trail with
    | nil => rfl
    | cons c trail => rcases ht c List.mem_cons_self with rfl | rfl <;> rfl
  have heq : (List.replicate (m + 1) '=').all fun c => decide (c = '=') := by simp
  rw [Scan.afterDelimiter?, hsigns, Text.takeWhile_run heq htrail, Text.dropWhile_run heq htrail,
    List.length_replicate, if_pos hn]

end IsDelimiter

namespace Scan

variable {inner : Level σ} {G : Grammar σ} {d b : Text}

/-- The state after a delimiter line. -/
def afterDelimiter (d b : Text) (h : σ) : State σ := ⟨⟨'\n' :: d.reverse, b⟩, .unset, true, h⟩

/-- The first line of a document without a preamble. -/
lemma restOfLine_start (hd : IsDelimiter d) (h : σ) :
    (State.start (d ++ '\n' :: b) h).cursor.restOfLine = d :=
  Text.takeWhile_run (Text.all_ne_of_notMem hd.newline_notMem) rfl

/-- A delimiter line is read with its newline, and the document begins. -/
lemma delimiter_run (hd : IsDelimiter d) (h : σ) :
    delimiter (.start (d ++ '\n' :: b) h) = .ok () (afterDelimiter d b h) := by
  obtain ⟨trail, ha, ht⟩ := hd.afterDelimiter?
  have hdelimiter : isDelimiterLine d := by
    rw [isDelimiterLine, ha]
    exact ht
  have hskip : skipLine (.start (d ++ '\n' :: b) h) =
      .ok d ((State.start (d ++ '\n' :: b) h).advance d.length) := by
    have hr := skipWhile_run (fun c => !(c == '\n')) (State.start (d ++ '\n' :: b) h)
    have hline : (State.start (d ++ '\n' :: b) h).cursor.rest.takeWhile (fun c => !(c == '\n')) =
      d := restOfLine_start hd h
    rwa [hline] at hr
  have hrest : ((State.start (d ++ '\n' :: b) h).advance d.length).cursor.rest = '\n' :: b := by
    simp [State.start, Cursor.start]
  rw [delimiter, bind_of_ok (mark_run _), restOfLine_start hd, ite_run, if_pos hdelimiter,
    bind_of_ok hskip, bind_of_ok (isFinished_run _), ite_run, hrest, if_neg nofun,
    bind_of_ok (skip_run 1 _), modify_run]
  simp [State.start, Cursor.start, State.advance, Cursor.advance, afterDelimiter]

/-- A source that starts with a delimiter line is a document without a preamble. -/
lemma root_delimiter (hd : IsDelimiter d) (h : σ) :
    root inner (.start (d ++ '\n' :: b) h) =
      (do
        let body ← documentBody inner
        let trailing ← skipWhile fun _ => true
        return Markup.environment "document".toList [] ('\n' :: body ++ ['\n']) ++ trailing)
        (afterDelimiter d b h) := by
  obtain ⟨trail, ha, -⟩ := hd.afterDelimiter?
  have hstart : startsWithDelimiter d := by rw [startsWithDelimiter, ha]; rfl
  obtain ⟨n, hn⟩ : ∃ n, (State.start (d ++ '\n' :: b) h).cursor.rest.length = n + 1 :=
    ⟨d.length + b.length, by simp [State.start, Cursor.start]; omega⟩
  rw [root, bounded_run, hn, rootLoop, bind_of_ok (mark_run _), restOfLine_start hd, ite_run,
    if_pos hstart, document, bind_of_ok (delimiter_run hd h)]

/-! ### Bodies -/

/-- A fragment of blank lines is copied. -/
lemma fragmentLoop_blank {s : State σ} (hs : s.cursor.rest.blankLines = s.cursor.rest) (n : Nat) :
    fragmentLoop inner n s = .ok s.cursor.rest (s.advance s.cursor.rest.length) := by
  have hblock : block inner s = .ok s.cursor.rest (s.advance s.cursor.rest.length) := by
    rw [block, bind_of_ok (skipBlankLines_run s), bind_of_ok (isFinished_run _), ite_run, hs]
    simp
  cases n with
  | zero => exact hblock
  | succ n =>
    rw [fragmentLoop, bind_of_ok hblock, bind_of_ok (isFinished_run _), ite_run]
    simp

/-- A fragment that is not indented is a block at level 0, and what follows it is copied. -/
lemma fragment_unindented (hI : inner.Sound G) {s : State σ} {blank r : Text}
    (hs : s.cursor.rest = blank ++ r) (hb : (blank ++ r).blankLines = blank) (hne : r ≠ [])
    (hr : r.starts isHorizontal = false) :
    fragment inner s =
      match blockLines inner 0 (s.advance blank.length) with
      | .ok out s' => .ok (blank ++ out ++ s'.cursor.rest) (s'.advance s'.cursor.rest.length)
      | .error e s' => .error e s' := by
  obtain ⟨n, hn⟩ : ∃ n, s.cursor.rest.length = n + 1 := by
    refine Nat.exists_eq_succ_of_ne_zero ?_
    simp [hs, hne]
  rw [fragment, bounded_run, hn, fragmentLoop, bind_run, block_unindented hs hb hne hr, map_run]
  cases hl : blockLines inner 0 (s.advance blank.length) with
  | error e s' => rfl
  | ok out s' =>
    dsimp only
    rw [bind_of_ok (isFinished_run _), ite_run]
    rcases (blockLoop_sound hI (Nat.le_refl _) hl).rest_of_zero with h0 | ⟨t, ht, hblank⟩
    · rw [show s'.cursor.rest = [] from h0]
      simp
    · -- Only blank lines are left, and both the rest of the fragment and the copy give them.
      have h1 : (s'.advance 1).cursor.rest = t := State.advance_one ht
      have hloop : fragmentLoop inner n (s'.advance 1) = _ :=
        fragmentLoop_blank (by rw [h1, hblank]) n
      rw [show s'.cursor.rest = '\n' :: t from ht, if_neg nofun, bind_of_ok (skip_run 1 _),
        bind_of_ok hloop, h1, State.advance_advance, List.length_cons, Nat.add_comm]
      simp

/-- The body of a document that is not indented is a block at level 0. -/
lemma documentBody_unindented {s : State σ} {blank r : Text}
    (hs : s.cursor.rest = blank ++ r) (hb : (blank ++ r).blankLines = blank) (hne : r ≠ [])
    (hr : r.starts isHorizontal = false) :
    documentBody inner s =
      (blockLines inner 0 >>= fun out => pure (blank ++ out)) (s.advance blank.length) := by
  have hrest : (s.advance blank.length).cursor.rest = r := by simp [hs]
  have hskip : skipBlankLines s = .ok blank (s.advance blank.length) := by
    rw [skipBlankLines_run, hs, hb]
  have hindent : (s.advance blank.length).cursor.indentation = [] :=
    Text.takeWhile_of_starts (hrest ▸ hr)
  rw [documentBody, bind_of_ok (mark_run s), bind_of_ok hskip, bind_of_ok (isFinished_run _),
    ite_run, hrest, if_neg (by simpa using hne), bind_of_ok (mark_run _), ite_run, if_pos hindent]

/-- The body of a document of blank lines is empty. -/
lemma documentBody_blank {s : State σ} (hs : s.cursor.rest.blankLines = s.cursor.rest) :
    documentBody inner s = .ok [] s := by
  rw [documentBody, bind_of_ok (mark_run s), bind_of_ok (skipBlankLines_run s),
    bind_of_ok (isFinished_run _), ite_run, hs]
  simp [State.advance]

/-- After the delimiter line the body is read behind it. -/
lemma related_afterDelimiter {placed : Error → Prop} {hp : ∀ e, placed e → e.location.isSome}
    (d b : Text) (h : σ) (n : Nat) :
    (Lockstep.shifted σ d placed hp).Related ((State.start b h).advance n)
      ((afterDelimiter d b h).advance n) :=
  ⟨Lockstep.advance _ n ⟨rfl, rfl⟩, rfl, trivial, rfl⟩

/-- All that is left is read. -/
lemma skipAll_run (s : State σ) :
    skipWhile (fun _ => true) s = .ok s.cursor.rest (s.advance s.cursor.rest.length) := by
  have ht := Text.takeWhile_run (p := fun _ => true) (w := s.cursor.rest) (r := []) (by simp) rfl
  rw [List.append_nil] at ht
  rw [skipWhile_run, ht]

/-- Where a fragment succeeds, the document with that body does. -/
lemma root_of_fragment_ok {S : Setup σ} (hd : IsDelimiter d) (hb : b.isUnindented) {h : σ}
    {o : Text} {s' : State σ} (hf : fragment (.outermost S) (.start b h) = .ok o s') :
    ∃ body trailing, o = body ++ trailing ∧ trailing.all isBlank ∧ trailing <:+ b ∧
      ∃ u, root (.outermost S) (.start (d ++ '\n' :: b) h) =
        .ok (Markup.environment "document".toList [] ('\n' :: body ++ ['\n']) ++ trailing) u := by
  have hI := Level.outermost_sound S
  rw [root_delimiter hd]
  rcases Text.isUnindented_cases hb with hblank | ⟨blank, r, rfl, hbl, hne, hr⟩
  · -- Nothing but blank lines: they follow the document environment.
    have hloop : fragment (.outermost S) (.start b h) = _ := fragmentLoop_blank hblank _
    rw [hloop] at hf
    cases hf
    refine ⟨[], b, rfl, ?_, List.suffix_refl b, ?_⟩
    · rw [← hblank]
      exact b.all_isBlank_blankLines
    · rw [bind_of_ok (documentBody_blank hblank), bind_of_ok (skipAll_run _)]
      exact ⟨_, rfl⟩
  · rw [fragment_unindented hI (s := .start (blank ++ r) h) rfl hbl hne hr] at hf
    cases hl : blockLines (.outermost S) 0
        ((State.start (blank ++ r) h).advance blank.length) with
    | error e s₁ =>
      rw [hl] at hf
      cases hf
    | ok out s₁ =>
      rw [hl] at hf
      cases hf
      have hsim := (Lockstep.Levels.outermost (Lockstep.behind_setups d S)).blockLines 0
      obtain ⟨u, hu, hrel⟩ := hsim.ok (related_afterDelimiter d _ h _) hl
      refine ⟨blank ++ out, s₁.cursor.rest, rfl, ?_, ?_, ?_⟩
      · rcases (blockLoop_sound hI (Nat.le_refl _) hl).rest_of_zero with h0 | ⟨t, ht, hblank⟩
        · rw [show s₁.cursor.rest = [] from h0]
          rfl
        · rw [show s₁.cursor.rest = '\n' :: t from ht, List.all_cons, ← hblank,
            t.all_isBlank_blankLines]
          decide
      · obtain ⟨w, hw, -⟩ := (hI.onward.blockLines 0).reaches hl
        refine ⟨blank ++ w, ?_⟩
        rw [List.append_assoc, ← hw]
        simp [State.start, Cursor.start]
      · rw [bind_run, documentBody_unindented rfl hbl hne hr, bind_of_ok hu, pure_run]
        dsimp only
        rw [bind_of_ok (skipAll_run _), pure_run, hrel.cursor.1]
        exact ⟨_, rfl⟩

/-- Where a fragment fails, the lines of its block at level 0 do. -/
lemma fragment_error {inner : Level σ} (hI : inner.Sound G) (hb : b.isUnindented) {h : σ}
    {e : Error} {s' : State σ} (hf : fragment inner (.start b h) = .error e s') :
    ∃ blank r, b = blank ++ r ∧ (blank ++ r).blankLines = blank ∧ r ≠ [] ∧
      r.starts isHorizontal = false ∧
      blockLines inner 0 ((State.start b h).advance blank.length) = .error e s' := by
  rcases Text.isUnindented_cases hb with hblank | ⟨blank, r, rfl, hbl, hne, hr⟩
  · have hloop : fragment inner (.start b h) = _ := fragmentLoop_blank hblank _
    rw [hloop] at hf
    cases hf
  · refine ⟨blank, r, rfl, hbl, hne, hr, ?_⟩
    rw [fragment_unindented hI (s := .start (blank ++ r) h) rfl hbl hne hr] at hf
    cases hl : blockLines inner 0 ((State.start (blank ++ r) h).advance blank.length) with
    | ok out s₁ =>
      rw [hl] at hf
      cases hf
    | error e s₁ =>
      rw [hl] at hf
      exact hf

/-- Where the lines of the body fail, the document does. -/
lemma root_error (hd : IsDelimiter d) {blank r : Text} (hbl : (blank ++ r).blankLines = blank)
    (hne : r ≠ []) (hr : r.starts isHorizontal = false) {h : σ} {e : Error} {s' : State σ}
    (hl : blockLines inner 0 ((afterDelimiter d (blank ++ r) h).advance blank.length) =
      .error e s') : root inner (.start (d ++ '\n' :: (blank ++ r)) h) = .error e s' := by
  rw [root_delimiter hd, bind_run, documentBody_unindented rfl hbl hne hr, bind_run, hl]

end Scan

namespace Translator

open Scan

variable {t : Translator σ} {reader : Level σ → Scan σ Text} {source o : Text} {e : Error}

/-- A translation succeeds exactly if its run does. -/
lemma run_eq_ok : t.run reader source = .ok o ↔
    ∃ s, reader (.outermost t.setup) (.start source (t.start t.files)) = .ok o s := by
  unfold run
  cases reader (.outermost t.setup) (.start source (t.start t.files)) <;> simp

/-- A translation fails exactly if its run does. -/
lemma run_eq_error : t.run reader source = .error e ↔
    ∃ s, reader (.outermost t.setup) (.start source (t.start t.files)) = .error e s := by
  unfold run
  cases reader (.outermost t.setup) (.start source (t.start t.files)) <;> simp

/-- A run has succeeded if its outcome is an output. -/
lemma run_of_toOption (h : (t.run reader source).toOption = some o) :
    t.run reader source = .ok o := by
  cases hr : t.run reader source with
  | error e =>
    rw [hr] at h
    cases h
  | ok o' =>
    rw [hr] at h
    cases h
    rfl

/-- The error that an outcome is. -/
def error? : Except Error Text → Option Error
  | .ok _ => none
  | .error e => some e

/-- A run has failed if its outcome is an error. -/
lemma run_of_error? (h : error? (t.run reader source) = some e) :
    t.run reader source = .error e := by
  cases hr : t.run reader source with
  | ok o =>
    rw [hr] at h
    cases h
  | error e' =>
    rw [hr] at h
    cases h
    rfl

/-- An error in the body is an error of the document. -/
lemma translate_of_error {d b : Text} (hd : IsDelimiter d) (hb : b.isUnindented)
    (hf : t.translateFragment b = .error e) : ∃ e', t.translate (d ++ '\n' :: b) = .error e' := by
  obtain ⟨s, hs⟩ := run_eq_error.1 hf
  obtain ⟨blank, r, rfl, hbl, hne, hr, hl⟩ :=
    fragment_error (Level.outermost_sound t.setup) hb hs
  have hsim := (Lockstep.Levels.outermost (Lockstep.behind_setups d t.setup)).blockLines 0
  obtain ⟨e', u, hu⟩ := Lockstep.behind_error hsim (related_afterDelimiter d _ _ _) hl
  exact ⟨e', run_eq_error.2 ⟨u, root_error hd hbl hne hr hu⟩⟩

/-- An error of the engine in the body is found below the delimiter line. -/
lemma translate_of_engineError {d b : Text} (hd : IsDelimiter d) (hb : b.isUnindented)
    (he : EngineError t.setup fragment (.start b (t.start t.files)) e) :
    ∃ l, e.location = some l ∧
      t.translate (d ++ '\n' :: b) = .error ⟨e.cause, some (l.below (d ++ ['\n']))⟩ := by
  obtain ⟨l, hl, s, hs⟩ := he.exists_location
  obtain ⟨blank, r, rfl, hbl, hne, hr, hlines⟩ :=
    fragment_error (Level.outermost_sound _) hb hs
  have hsim := (Lockstep.Levels.outermost (Lockstep.behindAt_setups d l t.setup)).blockLines 0
  obtain ⟨place, u, hp, hu⟩ :=
    Lockstep.behindAt_error hsim (related_afterDelimiter d _ _ _) hlines hl
  exact ⟨place, hp, run_eq_error.2 ⟨u, root_error hd hbl hne hr hu⟩⟩

/-- The document environment, with its lines between the markers. -/
lemma document_eq (body : Text) :
    Markup.environment "document".toList [] ('\n' :: body ++ ['\n']) =
      "\\begin\x7bdocument\x7d\n".toList ++ body ++ "\n\\end\x7bdocument\x7d".toList := by
  have happend : ∀ x y z opening closing : Text, opening = x ++ z ++ ['\x7d', '\n'] →
      closing = '\n' :: y ++ z ++ ['\x7d'] →
      x ++ z ++ ['\x7d'] ++ [] ++ ('\n' :: body ++ ['\n']) ++ y ++ z ++ ['\x7d'] =
        opening ++ body ++ closing := by
    rintro x y z _ _ rfl rfl
    simp
  exact happend _ _ _ _ _ (by decide +kernel) (by decide +kernel)

/-- A document without a preamble is translated as its body is translated as a fragment. -/
theorem translate_delimiter (t : Translator σ) {d b : Text} (hd : IsDelimiter d)
    (hb : b.isUnindented) :
    ((∃ o, t.translate (d ++ '\n' :: b) = .ok o) ↔ ∃ o, t.translateFragment b = .ok o) ∧
    (∀ o, t.translateFragment b = .ok o →
      ∃ body trailing, o = body ++ trailing ∧ trailing.all isBlank ∧ trailing <:+ b ∧
        t.translate (d ++ '\n' :: b) =
          .ok ("\\begin\x7bdocument\x7d\n".toList ++ body ++
            "\n\\end\x7bdocument\x7d".toList ++ trailing)) ∧
    (∀ e, EngineError t.setup fragment (.start b (t.start t.files)) e →
      t.translateFragment b = .error e ∧
      ∃ l, e.location = some l ∧
        t.translate (d ++ '\n' :: b) =
          .error ⟨e.cause, some ⟨d.byteSize + 1 + l.offset, 1 + l.line, l.column⟩⟩) := by
  have hok : ∀ o, t.translateFragment b = .ok o →
      ∃ body trailing, o = body ++ trailing ∧ trailing.all isBlank ∧ trailing <:+ b ∧
        t.translate (d ++ '\n' :: b) =
          .ok ("\\begin\x7bdocument\x7d\n".toList ++ body ++
            "\n\\end\x7bdocument\x7d".toList ++ trailing) := by
    intro o ho
    obtain ⟨s, hs⟩ := run_eq_ok.1 ho
    obtain ⟨body, trailing, rfl, hblank, hsuffix, u, hu⟩ := root_of_fragment_ok hd hb hs
    rw [document_eq] at hu
    exact ⟨body, trailing, rfl, hblank, hsuffix, run_eq_ok.2 ⟨u, hu⟩⟩
  refine ⟨⟨?_, ?_⟩, hok, ?_⟩
  · rintro ⟨o, ho⟩
    cases hf : t.translateFragment b with
    | ok o' => exact ⟨o', rfl⟩
    | error e =>
      obtain ⟨e', he'⟩ := translate_of_error hd hb hf
      rw [ho] at he'
      cases he'
  · rintro ⟨o, ho⟩
    obtain ⟨_, _, -, -, -, ht⟩ := hok o ho
    exact ⟨_, ht⟩
  · intro e he
    obtain ⟨l, hl, ht⟩ := translate_of_engineError hd hb he
    refine ⟨run_eq_error.2 he.1, l, hl, ?_⟩
    have hcount : d.count '\n' = 0 := List.count_eq_zero.2 hd.newline_notMem
    rw [ht, Location.below_line, hcount]

/-- A body with an environment and two blank lines behind it, which come after the document, and the
same body with a closing brace between the blank lines, which is found one line further down. -/
theorem translate_delimiter_brace :
    let t := Translator.ofRegistry .empty
    (∃ body trailing, "a \\begin\x7bx\x7dy\\end\x7bx\x7d\n\n \n".toList = body ++ trailing ∧
      trailing.all isBlank ∧ trailing <:+ "a \\x: y\n\n \n".toList ∧
      t.translate ("===".toList ++ '\n' :: "a \\x: y\n\n \n".toList) =
        .ok ("\\begin\x7bdocument\x7d\n".toList ++ body ++
          "\n\\end\x7bdocument\x7d".toList ++ trailing)) ∧
      t.translate ("===".toList ++ '\n' :: "a \\x: y\n\n\x7d \n".toList) =
        .error ⟨.unexpectedBrace, some ⟨13, 4, 1⟩⟩ := by
  intro t
  have hd : IsDelimiter ([] ++ List.replicate 3 '=' ++ []) := .mk (by simp) (by decide) (by simp)
  have hok : t.translateFragment "a \\x: y\n\n \n".toList =
      .ok "a \\begin\x7bx\x7dy\\end\x7bx\x7d\n\n \n".toList :=
    run_of_toOption (by decide +kernel)
  have hfail : t.translateFragment "a \\x: y\n\n\x7d \n".toList =
      .error ⟨.unexpectedBrace, some ⟨9, 3, 1⟩⟩ := run_of_error? (by decide +kernel)
  have he : EngineError t.setup fragment (.start "a \\x: y\n\n\x7d \n".toList ())
      ⟨.unexpectedBrace, some ⟨9, 3, 1⟩⟩ :=
    ⟨run_eq_error.1 hfail, fun _ => run_eq_error.1 hfail⟩
  refine ⟨(translate_delimiter t hd (by decide)).2.1 _ hok, ?_⟩
  obtain ⟨-, l, hl, ht⟩ := (translate_delimiter t hd (by decide)).2.2 _ he
  cases hl
  exact ht

end Translator

end IndentTex
