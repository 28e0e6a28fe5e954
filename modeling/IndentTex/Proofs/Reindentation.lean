import IndentTex.Proofs.Depth
import IndentTex.Proofs.Grammar.Nesting
import IndentTex.Proofs.LiteralBlock

/-!
# Environments that indent their bodies again

A registered environment gets its body without the margin, and what it makes of the body is moved to
the margin of the environment. The environment that only indents its body again undoes what has been
done to the body. The main result, `Scan.customEnvironment_reindenting`, says that it cannot be told
from an environment without a definition, at any level and in any state, as long as the lines of the
body are empty or have the margin.
-/

namespace IndentTex

variable {σ : Type}

/-- The environment that writes itself around its body, which it indents again. -/
def Environment.reindenting (name : Text) : Environment where
  name := name
  params := []
  raw := false
  generate unit body _ := .text (Markup.environment name [] (indentBody unit body))

/-! ### Lines -/

namespace Text

variable {u m t l : Text} {ls : List Text}

/-- A line that is not empty is indented. -/
lemma indentLine_of_ne_nil (hl : l ≠ []) : indentLine u l = u ++ l := by
  rw [indentLine, if_neg (by simpa using hl)]

/-- What is not in an indented line is not in the line. -/
lemma notMem_of_indentLine {c : Char} (h : c ∉ indentLine u l) : c ∉ l := by
  intro hc
  rw [indentLine_of_ne_nil (List.ne_nil_of_mem hc)] at h
  exact h (List.mem_append_right u hc)

/-- The lines of a text have no newlines. -/
lemma newline_notMem_of_mem_splitLines (h : l ∈ splitLines t) : '\n' ∉ l := by
  induction t generalizing l with
  | nil =>
    obtain rfl : l = [] := by simpa [splitLines] using h
    exact List.not_mem_nil
  | cons c t ih =>
    obtain ⟨k, ks, hk⟩ := List.exists_cons_of_ne_nil (splitLines_ne_nil t)
    rw [hk] at ih
    rw [splitLines, hk] at h
    split at h
    case isTrue =>
      rcases List.mem_cons.1 h with rfl | h
      · exact List.not_mem_nil
      · exact ih h
    case isFalse hc =>
      rcases List.mem_cons.1 h with rfl | h
      · simpa [Ne.symm hc] using ih List.mem_cons_self
      · exact ih (List.mem_cons_of_mem k h)

/-- Lines are indented after the first one line by line. -/
lemma indentTail_joinLines (h : ∀ k ∈ l :: ls, '\n' ∉ k) :
    indentTail m (joinLines (l :: ls)) = joinLines (l :: ls.map (indentLine m)) :=
  indentTail_of_splitLines (splitLines_joinLines h)

/-- A body is indented line by line. -/
lemma indentBody_lines (h : ∀ k ∈ ls, '\n' ∉ k) :
    indentBody u (ls.flatMap ('\n' :: ·) ++ ['\n']) =
      (ls.map (indentLine u)).flatMap ('\n' :: ·) ++ ['\n'] := by
  have hlines : ∀ k ∈ [] :: (ls ++ [[]]), '\n' ∉ k := by
    rw [List.forall_mem_cons, List.forall_mem_append, List.forall_mem_singleton]
    exact ⟨List.not_mem_nil, h, List.not_mem_nil⟩
  have hbody := indentBody_of_splitLines (u := u) (splitLines_joinLines hlines)
  rw [joinLines_cons, joinLines_cons] at hbody
  simpa [indentLine] using hbody

/-- A block below a line, moved to the left margin and indented by `u`. -/
lemma indentBody_dedentBlock (h : ∀ k ∈ splitLines t, '\n' ∉ indentLine u (dedentLine m k)) :
    indentBody u (dedentBlock m ('\n' :: t)) =
      ((splitLines t).map fun k => indentLine u (dedentLine m k)).flatMap ('\n' :: ·) ++ ['\n'] := by
  have hlines : ∀ k ∈ (splitLines t).map (dedentLine m), '\n' ∉ k := by
    intro k hk
    obtain ⟨l, hl, rfl⟩ := List.mem_map.1 hk
    exact notMem_of_indentLine (h l hl)
  have hblock : dedentBlock m ('\n' :: t) =
      ((splitLines t).map (dedentLine m)).flatMap ('\n' :: ·) ++ ['\n'] := by
    rw [dedentBlock, splitLines_newline, List.drop_succ_cons, List.drop_zero, List.flatMap_map]
  rw [hblock, indentBody_lines hlines, List.map_map]
  rfl

/-- A line that is empty or has the margin of an inner level, moved to the left and back in two
steps. -/
lemma indentLine_dedentLine (hl : l = [] ∨ ∃ x, x ≠ [] ∧ l = m ++ u ++ x) :
    indentLine m (indentLine u (dedentLine (m ++ u) l)) = l := by
  rcases hl with rfl | ⟨x, hx, rfl⟩
  · rw [dedentLine_nil]
    rfl
  · have hdrop := dropStart?_append (m ++ u) [] x
    rw [List.append_nil] at hdrop
    rw [dedentLine, hdrop]
    dsimp only [dropStart?]
    rw [indentLine_of_ne_nil hx, indentLine_of_ne_nil (by simp [hx]), List.append_assoc]

end Text

open Text

namespace Markup

variable {name : Text}

/-- An environment around lines is the lines of the environment. -/
lemma environment_lines (name m : Text) (ls : List Text) :
    environment name [] (ls.flatMap ('\n' :: ·) ++ '\n' :: m) =
      joinLines (("\\begin\x7b".toList ++ name ++ ['\x7d']) ::
        (ls ++ [m ++ ("\\end\x7b".toList ++ name ++ ['\x7d'])])) := by
  unfold environment
  generalize "\\begin\x7b".toList = b
  generalize "\\end\x7b".toList = e
  rw [joinLines_cons]
  simp

/-- An environment is on one line if its name and its body are. -/
lemma newline_notMem_environment {body : Text} (hname : '\n' ∉ name) (hbody : '\n' ∉ body) :
    '\n' ∉ environment name [] body := by
  have hbegin : '\n' ∉ "\\begin\x7b".toList := by decide
  have hend : '\n' ∉ "\\end\x7b".toList := by decide
  unfold environment
  generalize "\\begin\x7b".toList = b at *
  generalize "\\end\x7b".toList = e at *
  simp [hbegin, hend, hname, hbody]

/-- An environment is moved to a margin line by line, its last line included. -/
lemma indentTail_environment {m : Text} {ls : List Text} (hname : '\n' ∉ name)
    (hls : ∀ l ∈ ls, '\n' ∉ l) :
    indentTail m (environment name [] (ls.flatMap ('\n' :: ·) ++ ['\n'])) =
      environment name [] ((ls.map (indentLine m)).flatMap ('\n' :: ·) ++ '\n' :: m) := by
  have hend : indentLine m ([] ++ ("\\end\x7b".toList ++ name ++ ['\x7d'])) =
      m ++ ("\\end\x7b".toList ++ name ++ ['\x7d']) := by
    rw [List.nil_append, indentLine_of_ne_nil (by simp)]
  rw [environment_lines, environment_lines, indentTail_joinLines, List.map_append, List.map_singleton,
    hend]
  intro k hk
  simp only [List.mem_cons, List.mem_append, List.not_mem_nil, or_false] at hk
  rcases hk with rfl | hk | rfl
  · simp [hname]
  · exact hls k hk
  · simp [hname]

/-- A block with the margin of an inner level is the same after it has been moved to the left, been
indented by the environment, and been moved to the margin of the environment. -/
lemma indentTail_reindented {m u t : Text} (hname : '\n' ∉ name)
    (hlines : ∀ l ∈ splitLines t, l = [] ∨ ∃ x, x ≠ [] ∧ l = m ++ u ++ x) :
    indentTail m (environment name [] (indentBody u (dedentBlock (m ++ u) ('\n' :: t)))) =
      environment name [] ('\n' :: t ++ '\n' :: m) := by
  have hback : ∀ l ∈ splitLines t, indentLine m (indentLine u (dedentLine (m ++ u) l)) = l :=
    fun l hl => indentLine_dedentLine (hlines l hl)
  -- Between the steps a line is an end of the line that it was.
  have hnewline : ∀ l ∈ splitLines t, '\n' ∉ indentLine u (dedentLine (m ++ u) l) := by
    intro l hl
    apply notMem_of_indentLine (u := m)
    rw [hback l hl]
    exact newline_notMem_of_mem_splitLines hl
  have hmap : ((splitLines t).map fun l => indentLine u (dedentLine (m ++ u) l)).map (indentLine m) =
      splitLines t := by
    rw [List.map_map]
    exact (List.map_congr_left hback).trans (List.map_id _)
  have ht : (splitLines t).flatMap ('\n' :: ·) = '\n' :: t := by
    rw [← joinLines_splitLines ('\n' :: t), splitLines_newline, joinLines_cons, List.nil_append]
  rw [indentBody_dedentBlock hnewline, indentTail_environment hname, hmap, ht]
  intro k hk
  obtain ⟨l, hl, rfl⟩ := List.mem_map.1 hk
  exact hnewline l hl

end Markup

/-! ### Names that are not used -/

/-- The registry where a name is refused wherever it is used. With it a text can be read exactly if it
can be read without using the name. -/
def Registry.refusing (r : Registry) (name : Text) : Registry :=
  r.insert (.command ⟨name, [], fun _ => .error (.ofCause .internal)⟩)

/-- The setup where a name is refused. -/
def Setup.refusing (S : Setup σ) (name : Text) : Setup σ := ⟨S.registry.refusing name, S.executor⟩

namespace Lockstep

/-- The lockstep of two runs that are equal as long as the first one does not fail. -/
def whileOk (σ : Type) : Lockstep σ σ := { equal (σ := σ) Eq with excused := fun _ => True }

variable {S T : Setup σ} {name : Text}

/-- Where a name is refused, any definition of it will do. -/
lemma whileOk_setups (hexecutor : T.executor = S.executor)
    (hother : ∀ other, other ≠ name → T.registry.find? other = S.registry.find? other) :
    (whileOk σ).Setups (S.refusing name) T := by
  intro other
  by_cases h : other = name
  · subst h
    have hfind : (S.refusing other).registry.find? other =
        some (.command ⟨other, [], fun _ => .error (.ofCause .internal)⟩) :=
      (Registry.find?_insert_command _ _ _).trans (if_pos rfl)
    rw [hfind]
    exact .refused rfl fun _ => ⟨_, rfl, trivial⟩
  · have hfind : (S.refusing name).registry.find? other = T.registry.find? other := by
      rw [hother other h]
      exact (Registry.find?_insert_command _ _ _).trans (if_neg (Ne.symm h))
    rw [hfind, hexecutor]
    exact .refl (fun _ _ => Iff.rfl) fun d _ => .of_forall (fun _ => rfl) d

/-- States correspond if they are equal. -/
lemma whileOk_related {s t : State σ} : (whileOk σ).Related s t ↔ t = s := by
  constructor
  · intro h
    obtain ⟨c, i, b, host⟩ := t
    obtain ⟨rfl, rfl, rfl, rfl⟩ := h
    rfl
  · rintro rfl
    exact ⟨rfl, rfl, rfl, rfl⟩

/-- A body that is read where a name is refused is read in the same way with any definition of the
name. -/
lemma environmentBody_of_refusing (hexecutor : T.executor = S.executor)
    (hother : ∀ other, other ≠ name → T.registry.find? other = S.registry.find? other) {n level : Nat}
    {s s' : State σ} {body : Scan.Body}
    (h : Scan.environmentBody (.ofRoom (S.refusing name) n) level s = .ok body s') :
    Scan.environmentBody (.ofRoom T n) level s = .ok body s' := by
  have hlevels := Levels.ofRoom (whileOk_setups hexecutor hother) n
  obtain ⟨t, ht, hr⟩ := (hlevels.environmentBody level).ok (whileOk_related.2 rfl) h
  rw [ht, whileOk_related.1 hr]

end Lockstep

/-! ### Bodies -/

/-- A block starts with the end of the opening line. -/
lemma Grammar.EnvironmentBody.exists_cons {G : Grammar σ} {level : Nat} {k k' : Config σ}
    {body : Scan.Body} (h : EnvironmentBody G level k body k') (hblock : body.block) :
    ∃ t, body.text = '\n' :: t := by
  cases h with
  | oneLine => cases hblock
  | @block _ _ _ text _ _ _ _ _ he =>
    obtain ⟨-, b, rfl⟩ := he.exists_cons rfl
    exact ⟨b ++ text, rfl⟩
  | comment => exact ⟨_, rfl⟩

namespace Scan

open Grammar

variable {inner : Level σ} {s s' : State σ} {name : Text} {level : Nat} {body : Body}

/-- Bodies whose lines, after the first one, are empty or have the margin; a body on the opening line
is one line. -/
def Body.HasMargin (margin : Text) (body : Body) : Prop :=
  if body.block then ∀ l ∈ (splitLines body.text).tail, l = [] ∨ ∃ x, x ≠ [] ∧ l = margin ++ x
  else '\n' ∉ body.text

/-- An environment without a definition, from its colon on. -/
lemma nativeControl_colon (hname : name.all isAlphabetic) {r : Text}
    (hs : s.cursor.rest = ':' :: r) :
    nativeControl inner name level s =
      (Markup.environment name [] <$> nativeBody inner level) (s.advance 1) := by
  have hblanks : skipBlanks s = .ok [] s := skipBlanks_of_starts (by rw [hs]; rfl)
  have hargs : argumentText inner s = .ok [] s := by
    rw [argumentText, bounded_run, hs, List.length_cons, argumentTextLoop, bind_of_ok (mark_run s),
      bind_of_ok hblanks, bind_of_ok (peek_run s), hs]
    rfl
  rw [nativeControl, if_pos hname, bind_of_ok hargs, bind_of_ok (mark_run s), bind_of_ok hblanks,
    bind_of_ok (peek_run s), hs, List.head?_cons, if_pos rfl, bind_of_ok (skip_run 1 s), bind_run,
    map_run]
  cases nativeBody inner level (s.advance 1) <;> rfl

/-- What an environment without a definition makes of its body. -/
lemma nativeControl_body (hname : name.all isAlphabetic) {r : Text} (hs : s.cursor.rest = ':' :: r)
    (hbody : environmentBody inner level (s.advance 1) = .ok body s') :
    nativeControl inner name level s =
      .ok (Markup.environment name [] (closed level s'.indentation body)) s' := by
  rw [nativeControl_colon hname hs, map_run, nativeBody, bind_of_ok hbody, closed]
  cases body.block <;> rfl

/-- What the environment that indents its body again makes of its body. -/
lemma customEnvironment_body (S : Setup σ) {r : Text} (hs : s.cursor.rest = ':' :: r)
    (hbody : environmentBody inner level (s.advance 1) = .ok body s') :
    customEnvironment S inner (.reindenting name) level s =
      .ok (indentTail (s'.indentation.margin level) (Markup.environment name []
        (indentBody s'.indentation.unitText (dedented level s'.indentation body)))) s' := by
  have hcustom : customBody inner (.reindenting name) level (s.advance 1) =
      .ok (dedented level s'.indentation body) s' := by
    have hraw : ¬ (Environment.reindenting name).raw := Bool.false_ne_true
    rw [customBody, if_neg hraw, bind_of_ok hbody, dedented]
    cases body.block <;> rfl
  rw [customEnvironment_colon rfl hs, bind_of_ok hcustom]
  rfl

/-- The environment that indents its body again gives what an environment without a definition gives
for the same body. -/
lemma indentTail_dedented {i : Indentation} (hname : '\n' ∉ name)
    (hcons : body.block → ∃ t, body.text = '\n' :: t)
    (hmargin : body.HasMargin (i.margin (level + 1))) :
    indentTail (i.margin level)
        (Markup.environment name [] (indentBody i.unitText (dedented level i body))) =
      Markup.environment name [] (closed level i body) := by
  rw [Body.HasMargin] at hmargin
  rw [dedented, closed]
  split
  case isTrue hb =>
    obtain ⟨t, ht⟩ := hcons hb
    have hsucc : i.margin (level + 1) = i.margin level ++ i.unitText :=
      Indentation.times_succ_right i.unitText level
    rw [if_pos hb, ht, splitLines_newline, List.tail_cons, hsucc] at hmargin
    rw [ht, hsucc]
    exact Markup.indentTail_reindented hname hmargin
  case isFalse hb =>
    rw [if_neg hb] at hmargin
    have hline := Markup.newline_notMem_environment hname hmargin
    rw [indentBody_of_splitLines (splitLines_of_notMem hmargin)]
    exact indentTail_of_splitLines (splitLines_of_notMem hline)

/-- The environment that indents its body again cannot be told from one without a definition. Wherever
the latter is read, with a body that does not use the name of the environment and has the margin,
the former gives the same output and the same state. The two setups may differ in what they have for
the name, so that it has no definition in the one and this definition in the other. -/
theorem customEnvironment_reindenting (S T : Setup σ) (hexecutor : T.executor = S.executor)
    {name : Text} (hname : name.all isAlphabetic)
    (hother : ∀ other, other ≠ name → T.registry.find? other = S.registry.find? other)
    {n level : Nat} {s s' s₁ : State σ} {r out : Text} {body : Body} (hs : s.cursor.rest = ':' :: r)
    (hnative : nativeControl (.ofRoom S n) name level s = .ok out s')
    (hbody : environmentBody (.ofRoom S n) level (s.advance 1) = .ok body s₁)
    (hunused : ∃ b s₂, environmentBody (.ofRoom (S.refusing name) n) level (s.advance 1) = .ok b s₂)
    (hmargin : body.HasMargin (s₁.indentation.margin (level + 1))) :
    customEnvironment T (.ofRoom T n) (.reindenting name) level s = .ok out s' := by
  obtain ⟨b, s₂, hrefusing⟩ := hunused
  have hsame := Lockstep.environmentBody_of_refusing (T := S) rfl (fun _ _ => rfl) hrefusing
  rw [hbody] at hsame
  cases hsame
  rw [nativeControl_body hname hs hbody] at hnative
  cases hnative
  have hcons := (environmentBody_sound (Level.ofRoom_sound S n) hbody).exists_cons
  rw [customEnvironment_body T hs (Lockstep.environmentBody_of_refusing hexecutor hother hrefusing),
    indentTail_dedented (newline_notMem_of_isAlphabetic hname) hcons hmargin]

/-- A run that succeeds, from the parts of its final state. -/
lemma eq_ok_of_parts {α : Type} {m : Scan Unit α} {s s' : State Unit} {a : α}
    (h : (match m s with
      | .ok b t => some (b, t.cursor, t.indentation, t.inDocument)
      | .error _ _ => none) = some (a, s'.cursor, s'.indentation, s'.inDocument)) :
    m s = .ok a s' := by
  cases hm : m s with
  | error e t =>
    rw [hm] at h
    cases h
  | ok b t =>
    rw [hm] at h
    obtain ⟨c, i, d, host⟩ := s'
    cases h
    rfl

/-- A block at level 1 after the colon, with an empty line and an inner environment, and a line at
level 1 behind it. -/
def blockAfterColon : State Unit :=
  ⟨.start ":\n    a\n\n    \\b: \x7bc\x7d\n  d".toList, .ofUnit [' ', ' '], true, ()⟩

/-- The two environments with a block. -/
theorem customEnvironment_reindenting_block :
    let S : Setup Unit := ⟨.empty, .unavailable⟩
    let T : Setup Unit := ⟨Registry.empty.insert (.environment (.reindenting ['e'])), .unavailable⟩
    let out := "\\begin\x7be\x7d\n    a\n\n    \\begin\x7bb\x7d\x7bc\x7d\\end\x7bb\x7d\n  ".toList ++
      "\\end\x7be\x7d".toList
    nativeControl (.ofRoom S 3) ['e'] 1 blockAfterColon = .ok out (blockAfterColon.advance 20) ∧
      customEnvironment T (.ofRoom T 3) (.reindenting ['e']) 1 blockAfterColon =
        .ok out (blockAfterColon.advance 20) := by
  intro S T out
  let body : Body := ⟨"\n    a\n\n    \\begin\x7bb\x7d\x7bc\x7d\\end\x7bb\x7d".toList, true⟩
  have hnative : nativeControl (.ofRoom S 3) ['e'] 1 blockAfterColon =
    .ok out (blockAfterColon.advance 20) := eq_ok_of_parts (by decide +kernel)
  have hbody : environmentBody (.ofRoom S 3) 1 (blockAfterColon.advance 1) =
    .ok body (blockAfterColon.advance 20) := eq_ok_of_parts (by decide +kernel)
  have hunused : environmentBody (.ofRoom (S.refusing ['e']) 3) 1 (blockAfterColon.advance 1) =
    .ok body (blockAfterColon.advance 20) := eq_ok_of_parts (by decide +kernel)
  have hlines : (splitLines body.text).tail =
      [[' ', ' ', ' ', ' ', 'a'], [], "    \\begin\x7bb\x7d\x7bc\x7d\\end\x7bb\x7d".toList] := by
    decide +kernel
  have hmargin : body.HasMargin [' ', ' ', ' ', ' '] := by
    rw [Body.HasMargin, if_pos rfl, hlines]
    intro l hl
    simp only [List.mem_cons, List.not_mem_nil, or_false] at hl
    rcases hl with rfl | rfl | rfl
    · exact Or.inr ⟨['a'], by decide, rfl⟩
    · exact Or.inl rfl
    · exact Or.inr ⟨"\\begin\x7bb\x7d\x7bc\x7d\\end\x7bb\x7d".toList, by decide, by decide +kernel⟩
  have hother : ∀ other, other ≠ ['e'] → T.registry.find? other = S.registry.find? other := by
    intro other hne
    exact (Registry.find?_insert (d := .environment (.reindenting ['e'])) rfl other).trans
      (if_neg (Ne.symm hne))
  exact ⟨hnative, customEnvironment_reindenting S T rfl (by decide +kernel) hother rfl hnative hbody
    ⟨_, _, hunused⟩ hmargin⟩

end Scan

end IndentTex
