import IndentTex.Proofs.Grammar.Completeness
import IndentTex.Proofs.Indentation
import IndentTex.Translator

/-!
# Outlines

An outline is a forest of text lines, one-line environments and block environments. It can be
written down as a source, and it has a rendering as markup that is defined without any reading.
The main result is that a translator without definitions gives the rendering for the source.
-/

namespace IndentTex

namespace Outline

/-- The name of an environment. -/
abbrev Name := { n : Text // n ≠ [] ∧ n.all isAlphabetic }

/-- Text on a line that means nothing but itself. -/
abbrev Words :=
  { t : Text // t ≠ [] ∧ t.starts isHorizontal = false ∧
    ∀ c ∈ t, c ∉ ['\\', '\x7b', '\x7d', '%', '\n'] }

/-- What a comment says. -/
abbrev Note := { c : Text // '\n' ∉ c }

/-- A line of horizontal blanks. -/
abbrev BlankLine := { b : Text // b.isBlankLine }

mutual

/-- An item of an outline. -/
inductive Item where
  /-- A text line. -/
  | text (words : Words) (note : Option Note)
  /-- One or more environments that open on the line of their common body. -/
  | chain (first : Name) (more : List Name) (words : Words) (note : Option Note)
  /-- An environment whose body is a block of items. -/
  | block (name : Name) (note : Option Note) (body : Forest)

/-- Items one below the other, with blank lines in between. -/
inductive Forest where
  | last (item : Item)
  | next (item : Item) (blank : List BlankLine) (rest : Forest)

end

/-- A comment, if there is one. -/
def comment : Option Note → Text
  | none => []
  | some note => '%' :: note.1

/-- Blank lines, each with its newline. -/
def blankLines (blank : List BlankLine) : Text := blank.flatMap fun b => b.1 ++ ['\n']

/-! ### Sources -/

/-- The openers of a chain. -/
def openers (names : List Name) : Text := names.flatMap fun n => '\\' :: n.1 ++ ": ".toList

mutual

/-- The source of an item at a level, without its indentation. -/
def Item.source (unit : Text) (level : Nat) : Item → Text
  | .text words note => words.1 ++ comment note
  | .chain first more words note => openers (first :: more) ++ words.1 ++ comment note
  | .block name note body =>
    '\\' :: name.1 ++ ':' :: (if note.isSome then ' ' :: comment note else []) ++
      '\n' :: body.source unit (level + 1)

/-- The source of a forest at a level. -/
def Forest.source (unit : Text) (level : Nat) : Forest → Text
  | .last item => unit.times level ++ item.source unit level
  | .next item blank rest =>
    unit.times level ++ item.source unit level ++ '\n' :: blankLines blank ++
      rest.source unit level

end

/-! ### Renderings -/

/-- The beginning of an environment. -/
def beginning (name : Name) : Text := "\\begin\x7b".toList ++ name.1 ++ ['\x7d']

/-- The end of an environment. -/
def ending (name : Name) : Text := "\\end\x7b".toList ++ name.1 ++ ['\x7d']

mutual

/-- The rendering of an item at a level, without its indentation. -/
def Item.rendering (unit : Text) (level : Nat) : Item → Text
  | .text words note => words.1 ++ comment note
  | .chain first more words note =>
    (first :: more).flatMap beginning ++ words.1 ++ (first :: more).reverse.flatMap ending ++
      comment note
  | .block name note body =>
    beginning name ++
      (if note.isSome then '\n' :: unit.times (level + 1) ++ comment note else []) ++
      '\n' :: body.rendering unit (level + 1) ++ '\n' :: unit.times level ++ ending name

/-- The rendering of a forest at a level. -/
def Forest.rendering (unit : Text) (level : Nat) : Forest → Text
  | .last item => unit.times level ++ item.rendering unit level
  | .next item blank rest =>
    unit.times level ++ item.rendering unit level ++ '\n' :: blankLines blank ++
      rest.rendering unit level

end

mutual

/-- How many bodies an item nests. -/
def Item.depth : Item → Nat
  | .text _ _ => 0
  | .chain _ more _ _ => more.length + 1
  | .block _ _ body => body.depth + 1

/-- How many bodies the items of a forest nest. -/
def Forest.depth : Forest → Nat
  | .last item => item.depth
  | .next item _ rest => max item.depth rest.depth

end

/-! ### Lines of text and chains -/

/-- A character that starts something on a line. -/
def isVisible (c : Char) : Bool := !isBlank c && c != '%'

/-- The visible characters are those that are no blanks and start no comment. -/
lemma isVisible_iff {c : Char} :
    isVisible c ↔ isHorizontal c = false ∧ c ≠ '\n' ∧ c ≠ '%' := by
  by_cases hn : c = '\n'
  · subst hn
    simp [isVisible, show isBlank '\n' = true from by decide]
  · simp [isVisible, isHorizontal, hn]

/-- Words are a plain run. -/
lemma Words.run (words : Words) : words.1.all fun c => !Scan.endsLineRun c := by
  rw [List.all_eq_true]
  intro c hc
  have hs := words.2.2.2 c hc
  simp only [List.mem_cons, List.not_mem_nil, or_false, not_or] at hs
  simp [Scan.endsLineRun, hs]

/-- Words start with a visible character. -/
lemma Words.visible (words : Words) (r : Text) : (words.1 ++ r).starts isVisible := by
  obtain ⟨t, hne, hh, hs⟩ := words
  cases t with
  | nil => exact absurd rfl hne
  | cons c t =>
    have hs := hs c List.mem_cons_self
    simp only [List.mem_cons, List.not_mem_nil, or_false, not_or] at hs
    exact isVisible_iff.2 ⟨hh, hs.2.2.2.2, hs.2.2.2.1⟩

variable {σ : Type} {S : Setup σ} {G : Grammar σ} {level : Nat} {r : Text}
variable {i : Indentation} {h : σ}

open Grammar

/-- An environment is its body between its markers. -/
lemma environment_eq (n : Name) (body : Text) :
    Markup.environment n.1 [] body = beginning n ++ body ++ ending n := by
  unfold Markup.environment beginning ending
  generalize "\\begin\x7b".toList = b
  generalize "\\end\x7b".toList = e
  simp

/-- A name before a colon opens an environment. -/
lemma native_control {n : Name} {body : Scan.Body} {k : Config σ}
    (hn : S.registry.find? n.1 = none) (hb : EnvironmentBody G level ⟨r, i, h⟩ body k) :
    Control S G level ⟨n.1 ++ ':' :: r, i, h⟩
      (beginning n ++ closed level k.indentation body ++ ending n) k := by
  have hc := Control.native_bare n.2.1 n.2.2 hn hb
  rw [environment_eq] at hc
  exact hc

/-- The rest of a line as the body of an environment. -/
lemma oneLine_control {n : Name} {t text : Text} {k : Config σ}
    (hn : S.registry.find? n.1 = none) (ht : t.starts isVisible)
    (hl : G.line level true ⟨t, i, h⟩ text k) :
    Control S G level ⟨n.1 ++ ": ".toList ++ t, i, h⟩ (beginning n ++ text ++ ending n) k := by
  cases t with
  | nil => cases ht
  | cons c t =>
    obtain ⟨hh, hc, hp⟩ := isVisible_iff.1 ht
    have hb : EnvironmentBody G level ⟨[' '] ++ c :: t, i, h⟩ ⟨text, false⟩ k :=
      .oneLine (by decide) hh hc hp hl
    simpa [closed] using native_control hn hb

/-- The output of a chain around its words. -/
def nested (names : List Name) (t : Text) : Text :=
  names.flatMap beginning ++ t ++ names.reverse.flatMap ending

/-- The outermost of nested environments. -/
lemma nested_cons (n : Name) (names : List Name) (t : Text) :
    nested (n :: names) t = beginning n ++ nested names t ++ ending n := by
  simp [nested]

/-- The opener of the outermost of nested environments. -/
lemma openers_cons (n : Name) (names : List Name) :
    openers (n :: names) = '\\' :: (n.1 ++ ": ".toList ++ openers names) := by
  simp [openers]

/-- Openers and words start with a visible character. -/
lemma openers_visible (names : List Name) (words : Words) (r : Text) :
    (openers names ++ (words.1 ++ r)).starts isVisible := by
  cases names with
  | nil => exact words.visible r
  | cons n names =>
    rw [openers_cons]
    exact (isVisible_iff (c := '\\')).2 (by decide)

/-- A chain inside a one-line body. -/
lemma chain_line (hS : ∀ name, S.registry.find? name = none) (names : List Name) (words : Words)
    (hr : r.atLineEnd || r.starts (· == '%')) {room : Nat} (hroom : names.length ≤ room) :
    (ofRoom S (room + 1)).line level true ⟨openers names ++ (words.1 ++ r), i, h⟩
      (nested names words.1) ⟨r, i, h⟩ := by
  induction names generalizing room with
  | nil =>
    have hl : Line S (ofRoom S room) level true ⟨words.1 ++ r, i, h⟩ words.1 ⟨r, i, h⟩ :=
      .run_done words.run hr
    simpa [nested, openers] using hl
  | cons n names ih =>
    cases room with
    | zero => simp at hroom
    | succ room =>
      have hl := ih (by simpa using hroom)
      have hc := oneLine_control (hS n.1) (openers_visible names words r) hl
      have hd : Line S (ofRoom S (room + 1)) level true ⟨r, i, h⟩ [] ⟨r, i, h⟩ := .done hr
      rw [openers_cons, nested_cons]
      simpa using Line.control hc hd

/-- A comment or the end of a line. -/
lemma comment_line (note : Option Note) (hr : r.atLineEnd) :
    Line S G level false ⟨comment note ++ r, i, h⟩ (comment note) ⟨r, i, h⟩ := by
  cases note with
  | none => exact .done (by simp [comment, hr])
  | some note =>
    have hd : Line S G level false ⟨r, i, h⟩ [] ⟨r, i, h⟩ := .done (by simp [hr])
    simpa [comment] using Line.comment rfl note.2 hr hd

/-- A comment goes to the end of its line. -/
lemma comment_end (note : Option Note) (hr : r.atLineEnd) :
    ((comment note ++ r).atLineEnd || (comment note ++ r).starts (· == '%')) := by
  cases note with
  | none => simp [comment, hr]
  | some note => simp [comment]

/-! ### Blocks -/

/-- The text after the last line of a block at a level. -/
inductive Ends (u : Text) (level : Nat) : Text → Prop where
  | finished : Ends u level []
  | lower {blank t : Text} {next : Nat} : (blank ++ t).blankLines = blank → t ≠ [] →
    t.takeWhile isHorizontal = u.times next → next < level → Ends u level ('\n' :: (blank ++ t))

/-- A block ends at the end of a line. -/
lemma Ends.atLineEnd {u : Text} (hr : Ends u level r) : r.atLineEnd := by
  cases hr <;> rfl

/-- What ends a block ends every block that is deeper. -/
lemma Ends.succ {u : Text} (hr : Ends u level r) : Ends u (level + 1) r := by
  cases hr with
  | finished => exact .finished
  | lower hb hne ht hlt => exact .lower hb hne ht (by omega)

/-- After the end of a block there is no next line. -/
lemma Ends.nextLine {u : Text} (hu : Indentation.IsUnit u) (hr : Ends u level r)
    (hi : Indentation.Fits u level i) : NextLine level ⟨r, i, h⟩ none ⟨r, i, h⟩ := by
  cases hr with
  | finished => exact .finished
  | lower hb hne ht hlt =>
    obtain rfl : i = .ofUnit u := by
      rcases hi with hi | ⟨-, hl⟩
      · exact hi
      · omega
    exact .lower hb hne (by rw [ht, Indentation.levelOf_ofUnit hu]) hlt

/-- The source of an item starts with a visible character. -/
lemma Item.source_visible (item : Item) (u : Text) (level : Nat) (r : Text) :
    (item.source u level ++ r).starts isVisible := by
  cases item with
  | text words note =>
    rw [Item.source, List.append_assoc]
    exact words.visible _
  | chain first more words note =>
    rw [Item.source, List.append_assoc, List.append_assoc]
    exact openers_visible _ words _
  | block name note body => exact (isVisible_iff (c := '\\')).2 (by decide)

/-- A forest starts with a line at its level. -/
lemma Forest.source_eq (f : Forest) (u : Text) (level : Nat) (r : Text) :
    ∃ t, f.source u level ++ r = u.times level ++ t ∧ t.starts isVisible := by
  cases f with
  | last item => exact ⟨_, by rw [Forest.source, List.append_assoc], item.source_visible u level r⟩
  | next item blank rest =>
    refine ⟨_, ?_, item.source_visible u level ('\n' :: blankLines blank ++ rest.source u level ++ r)⟩
    simp [Forest.source]

/-- What is measured before a forest. -/
lemma Forest.takeWhile_source {u : Text} (hu : Indentation.IsUnit u) (f : Forest) (level : Nat)
    (r : Text) : (f.source u level ++ r).takeWhile isHorizontal = u.times level := by
  obtain ⟨t, ht, hv⟩ := f.source_eq u level r
  rw [ht]
  refine Text.takeWhile_run (hu.isBlankLine_times level) ?_
  cases t with
  | nil => rfl
  | cons c t => exact (isVisible_iff.1 hv).1

/-- The blank lines before a forest. -/
lemma Forest.blankLines_source {u : Text} (hu : Indentation.IsUnit u) (f : Forest) (level : Nat)
    (blank : List BlankLine) (r : Text) :
    (blankLines blank ++ (f.source u level ++ r)).blankLines = blankLines blank := by
  induction blank with
  | nil =>
    obtain ⟨t, ht, hv⟩ := f.source_eq u level r
    cases t with
    | nil => cases hv
    | cons c t =>
      obtain ⟨hh, hn, -⟩ := isVisible_iff.1 hv
      rw [ht]
      exact Text.blankLines_of_text (hu.isBlankLine_times level) hh hn t
  | cons b blank ih =>
    have hb := Text.blankLines_line b.2 (blankLines blank ++ (f.source u level ++ r))
    rw [ih] at hb
    simpa [blankLines] using hb

/-- The source of a forest is not empty. -/
lemma Forest.source_ne_nil (f : Forest) (u : Text) (level : Nat) (r : Text) :
    f.source u level ++ r ≠ [] := by
  obtain ⟨t, ht, hv⟩ := f.source_eq u level r
  rw [ht]
  cases t with
  | nil => cases hv
  | cons c t => simp

/-- From the opener of a block to its first line. -/
lemma Forest.enter {u : Text} (hu : Indentation.IsUnit u) (f : Forest) (hi : Indentation.Fits u level i) :
    Enter level ⟨'\n' :: (f.source u (level + 1) ++ r), i, h⟩ ['\n']
      ⟨f.source u (level + 1) ++ r, .ofUnit u, h⟩ := by
  have hb := f.blankLines_source hu (level + 1) [⟨[], rfl⟩] r
  have hl : Indentation.levelOf ((f.source u (level + 1) ++ r).takeWhile isHorizontal) i =
      .ok (level + 1) (.ofUnit u) := by
    rw [f.takeWhile_source hu, hi.levelOf_succ hu]
  exact .mk hb (f.source_ne_nil u _ r) hl

/-- An environment around a block. -/
lemma block_control {u : Text} (hu : Indentation.IsUnit u) {name : Name} (note : Option Note)
    {f : Forest} {out : Text} (hn : S.registry.find? name.1 = none) (hi : Indentation.Fits u level i)
    (hb : Block (G.line (level + 1) false) (level + 1)
      ⟨f.source u (level + 1) ++ r, .ofUnit u, h⟩ out ⟨r, .ofUnit u, h⟩) :
    Control S G level
      ⟨name.1 ++ ':' :: ((if note.isSome then ' ' :: comment note else []) ++
        '\n' :: (f.source u (level + 1) ++ r)), i, h⟩
      (beginning name ++
        (if note.isSome then '\n' :: u.times (level + 1) ++ comment note else []) ++
        '\n' :: out ++ '\n' :: u.times level ++ ending name) ⟨r, .ofUnit u, h⟩ := by
  have he := f.enter (r := r) (h := h) hu hi
  cases note with
  | none =>
    have hbody : EnvironmentBody G level ⟨[] ++ '\n' :: (f.source u (level + 1) ++ r), i, h⟩
        ⟨['\n'] ++ out, true⟩ ⟨r, .ofUnit u, h⟩ := .block rfl he hb
    simpa [closed] using native_control hn hbody
  | some note =>
    have hbody : EnvironmentBody G level
        ⟨[' '] ++ '%' :: (note.1 ++ '\n' :: (f.source u (level + 1) ++ r)), i, h⟩
        ⟨'\n' :: u.times (level + 1) ++ '%' :: note.1 ++ ['\n'] ++ out, true⟩ ⟨r, .ofUnit u, h⟩ :=
      .comment (by decide) note.2 (by rfl) he hb
    simpa [closed, comment] using native_control hn hbody

mutual

/-- The source of an item is read as a line, with the rendering of the item as output. -/
lemma Item.line {u : Text} (hS : ∀ name, S.registry.find? name = none)
    (hu : Indentation.IsUnit u) (item : Item) {room level : Nat} {i : Indentation} {r : Text}
    (h : σ) (hroom : item.depth < room) (hi : Indentation.Fits u level i) (hr : Ends u (level + 1) r) :
    ∃ j, Indentation.Fits u level j ∧ (ofRoom S room).line level false
      ⟨u.times level ++ (item.source u level ++ r), i, h⟩
      (u.times level ++ item.rendering u level) ⟨r, j, h⟩ := by
  have hm := run_of_isBlankLine (hu.isBlankLine_times level)
  -- The match says with the constructor how much room it takes.
  match item, room with
  | .text words note, room + 1 =>
    refine ⟨i, hi, .run hm ?_⟩
    rw [Item.source, Item.rendering, List.append_assoc]
    exact .run words.run (comment_line note hr.atLineEnd)
  | .chain first more words note, room + 2 =>
    have hmore : more.length ≤ room := by
      rw [Item.depth] at hroom
      omega
    have hl : (ofRoom S (room + 1)).line level true
        ⟨openers more ++ (words.1 ++ (comment note ++ r)), i, h⟩ (nested more words.1)
        ⟨comment note ++ r, i, h⟩ :=
      chain_line hS more words (comment_end note hr.atLineEnd) hmore
    have hc := oneLine_control (hS first.1) (openers_visible more words _) hl
    have hline := Line.control hc (comment_line note hr.atLineEnd)
    rw [← nested_cons] at hline
    refine ⟨i, hi, .run hm ?_⟩
    simpa [Item.source, Item.rendering, openers_cons, nested] using hline
  | .block name note body, room + 1 =>
    obtain ⟨j, hj, hb⟩ := body.block hS hu h (by simpa [Item.depth] using hroom)
      (Or.inl rfl) hr
    obtain rfl := hj.eq_ofUnit
    have hc : Control S (ofRoom S room) level _ _ _ :=
      block_control hu note (hS name.1) hi hb
    have hd : Line S (ofRoom S room) level false ⟨r, .ofUnit u, h⟩ [] ⟨r, .ofUnit u, h⟩ :=
      .done (by simp [hr.atLineEnd])
    have hline := Line.control hc hd
    refine ⟨.ofUnit u, Or.inl rfl, .run hm ?_⟩
    simpa [Item.source, Item.rendering] using hline

/-- The source of a forest is read as a block, with the rendering of the forest as output. -/
lemma Forest.block {u : Text} (hS : ∀ name, S.registry.find? name = none)
    (hu : Indentation.IsUnit u) (f : Forest) {room level : Nat} {i : Indentation} {r : Text}
    (h : σ) (hroom : f.depth < room) (hi : Indentation.Fits u level i) (hr : Ends u level r) :
    ∃ j, Indentation.Fits u level j ∧ Block ((ofRoom S room).line level false) level
      ⟨f.source u level ++ r, i, h⟩ (f.rendering u level) ⟨r, j, h⟩ := by
  match f with
  | .last item =>
    rw [Forest.depth] at hroom
    obtain ⟨j, hj, hl⟩ := item.line hS hu h hroom hi hr.succ
    refine ⟨j, hj, ?_⟩
    rw [Forest.source, Forest.rendering, List.append_assoc]
    exact .last hl (hr.nextLine hu hj)
  | .next item blank rest =>
    rw [Forest.depth, Nat.max_lt] at hroom
    have hb := rest.blankLines_source hu level blank r
    have hne := rest.source_ne_nil u level r
    have ht := rest.takeWhile_source hu level r
    obtain ⟨j, hj, hl⟩ := item.line hS hu h hroom.1 hi
      (.lower hb hne ht (Nat.lt_succ_self level))
    obtain ⟨j', hj', hrest⟩ := rest.block hS hu h hroom.2 hj hr
    have hx : NextLine level ⟨'\n' :: (blankLines blank ++ (rest.source u level ++ r)), j, h⟩
        (some (blankLines blank)) ⟨rest.source u level ++ r, j, h⟩ :=
      .same hb hne (by rw [ht, hj.levelOf_times hu])
    refine ⟨j', hj', ?_⟩
    simpa [Forest.source, Forest.rendering] using Block.more hl hx hrest

end

/-- A whole outline is read as a fragment. -/
lemma Forest.fragment {u : Text} (hS : ∀ name, S.registry.find? name = none)
    (hu : Indentation.IsUnit u) (f : Forest) {room : Nat} (hroom : f.depth < room) (h : σ) :
    ∃ j, Fragment (ofRoom S room) ⟨f.source u 0, .unset, h⟩ (f.rendering u 0) ⟨[], j, h⟩ := by
  have hi : Indentation.Fits u 0 .unset := Or.inr ⟨rfl, rfl⟩
  obtain ⟨j, -, hb⟩ := f.block hS hu h hroom hi .finished
  have hblank := f.blankLines_source hu 0 [] []
  have hlevel : Indentation.levelOf ((f.source u 0 ++ []).takeWhile isHorizontal) .unset =
      .ok 0 .unset := by
    rw [f.takeWhile_source hu, hi.levelOf_times hu]
  have hw := WholeBlock.lines hblank (f.source_ne_nil u 0 []) hlevel hb
  exact ⟨j, .last (by simpa [blankLines] using hw)⟩

end Outline

open Outline

/-- A translator without definitions gives the rendering of an outline for its source. -/
theorem Translator.translateFragment_source {σ : Type} (t : Translator σ)
    (ht : t.registry = .empty) {u : Text} (hu : Indentation.IsUnit u) (f : Forest)
    (hf : f.depth < maxNesting) : t.translateFragment (f.source u 0) = .ok (f.rendering u 0) := by
  have hS : ∀ name, t.setup.registry.find? name = none := by
    intro name
    rw [show t.setup.registry = .empty from ht]
    rfl
  obtain ⟨j, hd⟩ := f.fragment hS hu hf (t.start t.files)
  have hr := Scan.fragment_complete (Level.ofRoom_complete t.setup maxNesting) hd
  obtain ⟨s, hs, -⟩ := hr (.start (f.source u 0) (t.start t.files)) rfl
  unfold Translator.translateFragment Translator.run
  rw [show Scan.fragment (.outermost t.setup) _ = _ from hs]

/-- A block with a comment, a text line, a blank line and a chain. -/
theorem Translator.translateFragment_source_block :
    (Translator.ofRegistry .empty).translateFragment
        "\\a: %b\n\tx\n\n\t\\c: \\d: y%z".toList =
      .ok ("\\begin\x7ba\x7d\n\t%b\n\tx\n\n\t\\begin\x7bc\x7d\\begin\x7bd\x7dy".toList ++
        "\\end\x7bd\x7d\\end\x7bc\x7d%z\n\\end\x7ba\x7d".toList) := by
  have hunit : Indentation.IsUnit ['\t'] := ⟨by decide, by decide⟩
  let f : Forest := .last (.block ⟨['a'], by decide +kernel⟩ (some ⟨['b'], by decide⟩)
    (.next (.text ⟨['x'], by decide, by decide, by simp⟩ none) [⟨[], rfl⟩]
      (.last (.chain ⟨['c'], by decide +kernel⟩ [⟨['d'], by decide +kernel⟩]
        ⟨['y'], by decide, by decide, by simp⟩ (some ⟨['z'], by decide⟩)))))
  have h := Translator.translateFragment_source (.ofRegistry .empty) rfl hunit f (by decide)
  have hs : f.source ['\t'] 0 = "\\a: %b\n\tx\n\n\t\\c: \\d: y%z".toList := by decide +kernel
  have ho : f.rendering ['\t'] 0 =
      "\\begin\x7ba\x7d\n\t%b\n\tx\n\n\t\\begin\x7bc\x7d\\begin\x7bd\x7dy".toList ++
        "\\end\x7bd\x7d\\end\x7bc\x7d%z\n\\end\x7ba\x7d".toList := by decide +kernel
  rw [hs, ho] at h
  exact h

end IndentTex
