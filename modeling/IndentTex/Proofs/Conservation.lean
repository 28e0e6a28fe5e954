import IndentTex.Proofs.Passage
import Mathlib.Algebra.GroupWithZero.Nat

/-!
# Nothing is lost and nothing is made up

What a translator without definitions writes is what it has read, up to the colons of environments,
their markers and blanks. Without a colon in the source there are no environments, and then a
fragment is copied and of a document only the delimiter line is replaced.
-/

namespace IndentTex

/-! ### Blanks and letters -/

/-- The code points of the letters. -/
lemma toNat_of_isAlpha {c : Char} (h : c.isAlpha) :
    (65 ≤ c.toNat ∧ c.toNat ≤ 90) ∨ (97 ≤ c.toNat ∧ c.toNat ≤ 122) := by
  rcases Bool.or_eq_true_iff.1 h with hu | hl
  · have hu : 'A'.val ≤ c.val ∧ c.val ≤ 'Z'.val := of_decide_eq_true hu
    exact Or.inl hu
  · obtain ⟨ha, hz⟩ := Bool.and_eq_true_iff.1 hl
    exact Or.inr ⟨of_decide_eq_true ha, of_decide_eq_true hz⟩

/-- No blank is a letter. -/
lemma isBlank_of_isAlphabetic {c : Char} (h : isAlphabetic c) : isBlank c = false := by
  rw [Bool.eq_false_iff]
  intro hb
  obtain ⟨r, hr, hc⟩ := List.any_eq_true.1 hb
  simp only [Bool.and_eq_true, decide_eq_true_eq] at hc
  unfold isAlphabetic at h
  split at h
  case isTrue =>
    have hletter := toNat_of_isAlpha h
    have hdisjoint : r.2 < 65 ∨ 122 < r.1 := by
      clear hc
      revert r
      decide
    omega
  case isFalse =>
    obtain ⟨q, hq, hcq⟩ := List.any_eq_true.1 h
    simp only [Bool.and_eq_true, decide_eq_true_eq] at hcq
    -- The two tables have no range in common.
    have hdisjoint : ∀ q ∈ alphabeticRanges, r.2 < q.1 ∨ q.2 < r.1 := by
      clear hc
      revert r
      decide +kernel
    have := hdisjoint q hq
    omega

namespace Text

/-- The characters of a text that are not blank. -/
def visible (t : Text) : Text := t.filter fun c => !isBlank c

/-- What is visible of two texts is visible of each. -/
@[simp] lemma visible_append (t u : Text) : (t ++ u).visible = t.visible ++ u.visible :=
  List.filter_append t u

/-- A character is visible unless it is a blank. -/
@[simp] lemma visible_cons (c : Char) (t : Text) :
    visible (c :: t) = if isBlank c then t.visible else c :: t.visible := by
  cases hc : isBlank c <;> simp [visible, hc]

/-- Nothing is visible of blanks. -/
lemma visible_of_blank {t : Text} (ht : t.all isBlank) : t.visible = [] := by
  simpa [visible] using ht

/-- A text of alphabetic characters is visible as a whole. -/
lemma visible_of_alphabetic {t : Text} (ht : t.all isAlphabetic) : t.visible = t := by
  rw [visible, List.filter_eq_self]
  intro c hc
  rw [isBlank_of_isAlphabetic (List.all_eq_true.1 ht c hc)]
  rfl

/-- A text without its colons and its horizontal blanks. -/
def content (t : Text) : Text := t.filter fun c => c != ':' && !isHorizontal c

/-- The content of two texts is that of each. -/
@[simp] lemma content_append (t u : Text) : (t ++ u).content = t.content ++ u.content :=
  List.filter_append t u

/-- The content of a text is part of it. -/
lemma content_sublist (t : Text) : t.content.Sublist t := List.filter_sublist

/-- A blank line has no content. -/
lemma content_of_isBlankLine {t : Text} (ht : t.isBlankLine) : t.content = [] := by
  rw [content, List.filter_eq_nil_iff]
  intro c hc
  simp [List.all_eq_true.1 ht c hc]

end Text

/-! ### Environments -/

namespace Markup

/-- What is visible of an environment is its markers and what is visible within them. -/
lemma visible_environment {name : Text} (hn : name.all isAlphabetic) (args body : Text) :
    (environment name args body).visible = environment name args.visible body.visible := by
  have hb : Text.visible ['\\', 'b', 'e', 'g', 'i', 'n', '\x7b'] =
    ['\\', 'b', 'e', 'g', 'i', 'n', '\x7b'] := by decide
  have he : Text.visible ['\\', 'e', 'n', 'd', '\x7b'] = ['\\', 'e', 'n', 'd', '\x7b'] := by decide
  have hc : Text.visible ['\x7d'] = ['\x7d'] := by decide
  simp only [environment_eq, Text.visible_append, Text.visible_of_alphabetic hn, hb, he, hc]

/-- A control sequence with its arguments and its body is left of an environment if its markup is
taken away. -/
lemma sublist_environment {name name' args args' body body' : Text} (hn : name'.Sublist name)
    (ha : args'.Sublist args) (hb : body'.Sublist body) :
    ('\\' :: name' ++ args' ++ body').Sublist (environment name args body) := by
  have hslash : ['\\'].Sublist ['\\', 'b', 'e', 'g', 'i', 'n', '\x7b'] :=
    .cons_cons '\\' (List.nil_sublist _)
  have hopen : ('\\' :: name').Sublist
      (['\\', 'b', 'e', 'g', 'i', 'n', '\x7b'] ++ name ++ ['\x7d']) :=
    (hslash.append hn).trans (List.sublist_append_left _ _)
  rw [environment_eq, List.append_assoc (_ ++ body), List.append_assoc (_ ++ body)]
  exact ((hopen.append ha).append hb).trans (List.sublist_append_left _ _)

end Markup

/-! ### Colons -/

/-- `DropsColons n t u`: without `n` of its colons, `t` is `u`. -/
inductive DropsColons : Nat → Text → Text → Prop where
  | nil : DropsColons 0 [] []
  | keep {n : Nat} {t u : Text} (c : Char) : DropsColons n t u → DropsColons n (c :: t) (c :: u)
  | drop {n : Nat} {t u : Text} : DropsColons n t u → DropsColons (n + 1) (':' :: t) u

namespace DropsColons

variable {m n : Nat} {t t' u u' : Text}

/-- Colons are dropped behind a common beginning. -/
lemma append_left (w : Text) (h : DropsColons n t u) : DropsColons n (w ++ t) (w ++ u) := by
  induction w with
  | nil => exact h
  | cons c w ih => exact .keep c ih

/-- Nothing is dropped from a text itself. -/
lemma refl (t : Text) : DropsColons 0 t t := by
  simpa using append_left t .nil

/-- The colons that are dropped from two texts are dropped from both together. -/
lemma append (h : DropsColons m t u) (h' : DropsColons n t' u') :
    DropsColons (m + n) (t ++ t') (u ++ u') := by
  induction h with
  | nil => simpa using h'
  | keep c _ ih => exact .keep c ih
  | drop _ ih =>
    rw [Nat.add_right_comm]
    exact .drop ih

end DropsColons

/-! ### Passages -/

namespace Passage

variable {P : Text → Prop} {names : List Text} {s out : Text}

/-- The names in a passage are alphabetic. -/
lemma isAlphabetic_names (h : Passage P names s out) :
    ∀ name ∈ names, name ≠ [] ∧ name.all isAlphabetic := by
  induction h with
  | copied => nofun
  | append _ _ _ ih ih' =>
    intro name hn
    rcases List.mem_append.1 hn with hn | hn
    · exact ih name hn
    · exact ih' name hn
  | environment hne ha _ _ _ _ _ _ _ ih =>
    intro name hn
    rcases List.mem_cons.1 hn with rfl | hn
    · exact ⟨hne, ha⟩
    · exact ih name hn

/-- The source of an environment without its blanks. -/
lemma visible_source {name gap gap' : Text} (hn : name.all isAlphabetic) (hg : gap.isBlankLine)
    (hg' : gap'.isBlankLine) (args s : Text) :
    Text.visible ('\\' :: name ++ args ++ gap ++ ':' :: gap' ++ s) =
      '\\' :: name ++ args.visible ++ ':' :: s.visible := by
  have hb : isBlank '\\' = false := by decide
  have hc : isBlank ':' = false := by decide
  simp [hb, hc, Text.visible_of_alphabetic hn,
    Text.visible_of_blank (Text.all_isBlank_of_isBlankLine hg),
    Text.visible_of_blank (Text.all_isBlank_of_isBlankLine hg')]

/-- The output of an environment without its blanks. -/
lemma visible_output {name lead trail : Text} (hn : name.all isAlphabetic) (hl : lead.all isBlank)
    (ht : trail.all isBlank) (args out : Text) :
    (Markup.environment name args (lead ++ out ++ trail)).visible =
      Markup.environment name args.visible out.visible := by
  simp [Markup.visible_environment hn, Text.visible_of_blank hl, Text.visible_of_blank ht]

/-- Up to blanks, the source without the colons of its environments is left in the output. -/
lemma exists_dropsColons (h : Passage P names s out) :
    ∃ u, DropsColons names.length s.visible u ∧ u.Sublist out.visible := by
  induction h with
  | copied => exact ⟨_, .refl _, .refl _⟩
  | append _ _ _ ih ih' =>
    obtain ⟨u, hd, hu⟩ := ih
    obtain ⟨u', hd', hu'⟩ := ih'
    rw [List.length_append, Text.visible_append, Text.visible_append]
    exact ⟨u ++ u', hd.append hd', hu.append hu'⟩
  | @environment _ _ name args _ _ _ _ _ _ _ _ ha _ hg hg' hl ht _ _ ih =>
    obtain ⟨u, hd, hu⟩ := ih
    rw [visible_source ha hg hg', visible_output ha hl ht]
    exact ⟨'\\' :: name ++ args.visible ++ u, hd.drop.append_left _,
      Markup.sublist_environment (.refl _) (.refl _) hu⟩

/-- Up to blanks, the output is longer than the source by the markup of its environments. -/
lemma length_visible (h : Passage P names s out) :
    out.visible.length = s.visible.length + (names.map fun n => 12 + n.length).sum := by
  induction h with
  | copied => rfl
  | append _ _ _ ih ih' =>
    simp only [Text.visible_append, List.length_append, List.map_append, List.sum_append, ih, ih']
    omega
  | environment _ ha _ hg hg' hl ht _ _ ih =>
    rw [visible_source ha hg hg', visible_output ha hl ht]
    simp [Markup.environment_eq, ih]
    omega

/-- All but colons and horizontal blanks is left in the output. -/
lemma content_sublist (h : Passage P names s out) : s.content.Sublist out := by
  induction h with
  | @copied _ w => exact w.content_sublist
  | append _ _ _ ih ih' =>
    rw [Text.content_append]
    exact ih.append ih'
  | @environment _ _ name args gap gap' lead trail s out _ _ _ _ hg hg' _ _ _ _ ih =>
    have hsource : Text.content ('\\' :: name ++ args ++ gap ++ ':' :: gap' ++ s) =
        '\\' :: name.content ++ args.content ++ s.content := by
      have hslash : ∀ t : Text, Text.content ('\\' :: t) = '\\' :: t.content := fun _ => rfl
      have hcolon : ∀ t : Text, Text.content (':' :: t) = t.content := fun _ => rfl
      simp [hslash, hcolon, Text.content_of_isBlankLine hg, Text.content_of_isBlankLine hg']
    rw [hsource]
    refine Markup.sublist_environment name.content_sublist args.content_sublist ?_
    exact ih.trans ((List.sublist_append_right lead out).trans (List.sublist_append_left _ trail))

/-- A passage without a colon is copied. -/
lemma eq_of_colon_notMem (h : Passage P names s out) (hs : ':' ∉ s) : out = s := by
  induction h with
  | copied => rfl
  | append _ _ _ ih ih' =>
    rw [List.mem_append, not_or] at hs
    rw [ih hs.1, ih' hs.2]
  | environment => simp at hs

end Passage

namespace Translator

variable {σ : Type} {s out : Text}

/-- Without definitions, the output of a fragment is the source with the markup of its environments
in the place of their colons, up to blanks, and no newline of the source is lost. -/
theorem translateFragment_conserves (t : Translator σ) (ht : t.registry = .empty)
    (h : t.translateFragment s = .ok out) :
    ∃ names : List Text, (∀ n ∈ names, n ≠ [] ∧ n.all isAlphabetic) ∧
      (∃ u, DropsColons names.length s.visible u ∧ u.Sublist out.visible) ∧
      out.visible.length = s.visible.length + (names.map fun n => 12 + n.length).sum ∧
      s.content.Sublist out := by
  obtain ⟨names, hp⟩ := passage_of_translateFragment ht h
  exact ⟨names, hp.isAlphabetic_names, hp.exists_dropsColons, hp.length_visible,
    hp.content_sublist⟩

/-- An environment with an argument and a comment, around a line with a colon of its own. -/
theorem translateFragment_conserves_block :
    ∃ names : List Text, (∀ n ∈ names, n ≠ [] ∧ n.all isAlphabetic) ∧
      (∃ u, DropsColons names.length (Text.visible "\\a \x7bb\x7d : %c\n d: e".toList) u ∧
        u.Sublist (Text.visible
          "\\begin\x7ba\x7d \x7bb\x7d\n %c\n d: e\n\\end\x7ba\x7d".toList)) ∧
      (Text.visible "\\begin\x7ba\x7d \x7bb\x7d\n %c\n d: e\n\\end\x7ba\x7d".toList).length =
        (Text.visible "\\a \x7bb\x7d : %c\n d: e".toList).length +
          (names.map fun n => 12 + n.length).sum ∧
      (Text.content "\\a \x7bb\x7d : %c\n d: e".toList).Sublist
        "\\begin\x7ba\x7d \x7bb\x7d\n %c\n d: e\n\\end\x7ba\x7d".toList :=
  translateFragment_conserves (.ofRegistry .empty) rfl (run_of_toOption (by decide +kernel))

/-- Without definitions and without a colon, a fragment is refused or copied. -/
theorem translateFragment_of_colon_notMem (t : Translator σ) (ht : t.registry = .empty)
    (hs : ':' ∉ s) :
    (∃ e, t.translateFragment s = .error e) ∨ t.translateFragment s = .ok s := by
  cases h : t.translateFragment s with
  | error e => exact Or.inl ⟨e, rfl⟩
  | ok out =>
    obtain ⟨names, hp⟩ := passage_of_translateFragment ht h
    rw [hp.eq_of_colon_notMem hs]
    exact Or.inr rfl

/-- Arguments and a group over several lines, an open bracket, an escape, a comment and blanks. -/
theorem translateFragment_of_colon_notMem_groups :
    (Translator.ofRegistry .empty).translateFragment
        "\\a [b] \x7bc\n%\x7d\n\x7d [d\n\\% e %f\n \n\t".toList =
      .ok "\\a [b] \x7bc\n%\x7d\n\x7d [d\n\\% e %f\n \n\t".toList := by
  have hs : ':' ∉ "\\a [b] \x7bc\n%\x7d\n\x7d [d\n\\% e %f\n \n\t".toList := by decide +kernel
  rcases translateFragment_of_colon_notMem (.ofRegistry .empty) rfl hs with ⟨e, he⟩ | hok
  · have hval : ((Translator.ofRegistry .empty).translateFragment
        "\\a [b] \x7bc\n%\x7d\n\x7d [d\n\\% e %f\n \n\t".toList).isOk := by decide +kernel
    rw [he] at hval
    cases hval
  · exact hok

/-- Without definitions and without a colon, of a document that is not refused only the delimiter
line is replaced, and the blanks after the body follow the document environment. -/
theorem translate_of_colon_notMem (t : Translator σ) (ht : t.registry = .empty) (hs : ':' ∉ s)
    (h : t.translate s = .ok out) :
    ∃ preamble delimiter body trailing,
      s = preamble ++ delimiter ++ '\n' :: body ++ trailing ∧
      (preamble = [] ∨ ∃ p, preamble = p ++ ['\n']) ∧ IsDelimiter delimiter ∧
      trailing.all isBlank ∧ (body = [] ∨ trailing = [] ∨ ∃ r, trailing = '\n' :: r) ∧
      out = preamble ++ "\\begin\x7bdocument\x7d\n".toList ++ body ++
        "\n\\end\x7bdocument\x7d".toList ++ trailing := by
  obtain @⟨_, _, p, p', d, b, b', trailing, hend, hp, hd, hb, hblank, htrail⟩ :=
    documentPassage_of_translate ht h
  simp only [List.mem_append, List.mem_cons, not_or] at hs
  obtain rfl := hp.eq_of_colon_notMem hs.1.1.1
  obtain rfl := hb.eq_of_colon_notMem hs.1.2.2
  refine ⟨p', d, b', trailing, rfl, hend, hd, hblank, htrail.imp_right fun he => ?_, ?_⟩
  · cases trailing with
    | nil => exact Or.inl rfl
    | cons c r =>
      obtain rfl : c = '\n' := by simpa using he
      exact Or.inr ⟨r, rfl⟩
  · simp only [document_eq, List.append_assoc]

/-- A preamble with a blank line, and a body between blank lines. -/
theorem translate_of_colon_notMem_blank :
    ∃ preamble delimiter body trailing,
      "\\a\n\n ===\t\n\nb\n\n".toList = preamble ++ delimiter ++ '\n' :: body ++ trailing ∧
      (preamble = [] ∨ ∃ p, preamble = p ++ ['\n']) ∧ IsDelimiter delimiter ∧
      trailing.all isBlank ∧ (body = [] ∨ trailing = [] ∨ ∃ r, trailing = '\n' :: r) ∧
      "\\a\n\n\\begin\x7bdocument\x7d\n\nb\n\\end\x7bdocument\x7d\n\n".toList =
        preamble ++ "\\begin\x7bdocument\x7d\n".toList ++ body ++
          "\n\\end\x7bdocument\x7d".toList ++ trailing :=
  translate_of_colon_notMem (.ofRegistry .empty) rfl (by decide +kernel)
    (run_of_toOption (by decide +kernel))

end Translator

end IndentTex
