import IndentTex.Proofs.Grammar.Document
import IndentTex.Proofs.Indentation

/-!
# Passages

Without definitions a run copies what it reads, except that an environment loses its colon and the
blanks around it and gets its two markers. A `Passage` is a piece of source with what becomes of it,
and with the names of the environments in it. Groups and arguments are always copied; what is known
of them is that they are `Copied` in whole groups, control sequences and comments.

A control word ends where the text after it does not go on with a letter, and a comment ends with
its line. The two relations carry the property that the text behind a piece of output needs for
that. The main results are that fragments and documents are made of passages.
-/

namespace IndentTex

namespace Text

/-- A control word before the text does not go on with it. -/
def EndsWord (t : Text) : Prop := t.starts isAlphabetic = false

/-- A comment before the text does not go on with it. -/
def EndsLine (t : Text) : Prop := t.atLineEnd

/-- A text that ends a line ends a word. -/
lemma EndsLine.endsWord {t : Text} (h : EndsLine t) : EndsWord t := by
  cases t with
  | nil => rfl
  | cons c t =>
    obtain rfl : c = '\n' := by simpa [EndsLine] using h
    exact show isAlphabetic '\n' = false by decide +kernel

/-- A backslash ends a word. -/
lemma endsWord_backslash (t : Text) : EndsWord ('\\' :: t) :=
  show isAlphabetic '\\' = false by decide +kernel

end Text

/-- An environment, with its markers character by character. -/
lemma Markup.environment_eq (name args body : Text) :
    environment name args body =
      ['\\', 'b', 'e', 'g', 'i', 'n', '\x7b'] ++ name ++ ['\x7d'] ++ args ++ body ++
        ['\\', 'e', 'n', 'd', '\x7b'] ++ name ++ ['\x7d'] := rfl

/-- Whether a character starts something other than plain text. -/
def isActive (c : Char) : Bool := c = '\\' || c = '\x7b' || c = '\x7d' || c = '%'

/-- Blanks are not active. -/
lemma isActive_of_isBlank {c : Char} (hc : isBlank c) : isActive c = false := by
  cases ha : isActive c with
  | false => rfl
  | true =>
    simp only [isActive, Bool.or_eq_true, decide_eq_true_eq] at ha
    rcases ha with ((rfl | rfl) | rfl) | rfl
    all_goals exact absurd hc (by decide)

/-- Text that is copied, if a text with the given property follows it. -/
inductive Copied : (Text → Prop) → Text → Prop where
  | nil {P : Text → Prop} : Copied P []
  | char {P : Text → Prop} {c : Char} : isActive c = false → Copied P [c]
  | symbol {P : Text → Prop} {c : Char} : isAlphabetic c = false → Copied P ['\\', c]
  | word {P : Text → Prop} {name : Text} : name ≠ [] → name.all isAlphabetic →
    (∀ x, P x → x.EndsWord) → Copied P ('\\' :: name)
  | comment {P : Text → Prop} {note : Text} : '\n' ∉ note → (∀ x, P x → x.EndsLine) →
    Copied P ('%' :: note)
  | group {P : Text → Prop} {body : Text} : Copied Text.EndsWord body →
    Copied P ('\x7b' :: body ++ ['\x7d'])
  | append {P Q : Text → Prop} {v w : Text} : Copied P v → Copied Q w →
    (∀ x, Q x → P (w ++ x)) → Copied Q (v ++ w)

/-- A piece of source and its output, with the names of the environments in the order in which they
open. The output needs a text with the given property behind it. -/
inductive Passage : (Text → Prop) → List Text → Text → Text → Prop where
  | copied {P : Text → Prop} {w : Text} : Copied P w → Passage P [] w w
  | append {P Q : Text → Prop} {names names' : List Text} {s s' out out' : Text} :
    Passage P names s out → Passage Q names' s' out' → (∀ x, Q x → P (out' ++ x)) →
    Passage Q (names ++ names') (s ++ s') (out ++ out')
  | environment {P Q : Text → Prop} {name args gap gap' lead trail s out : Text}
    {names : List Text} : name ≠ [] → name.all isAlphabetic → Copied (fun _ => True) args →
    gap.isBlankLine → gap'.isBlankLine → lead.all isBlank → trail.all isBlank →
    (∀ x, Q (trail ++ '\\' :: x)) → Passage Q names s out →
    Passage P (name :: names) ('\\' :: name ++ args ++ gap ++ ':' :: gap' ++ s)
      (Markup.environment name args (lead ++ out ++ trail))

namespace Copied

variable {P : Text → Prop} {v w : Text}

/-- Text that can stand before any text can stand before a text with a property. -/
lemma before (hv : Copied (fun _ => True) v) (hw : Copied P w) : Copied P (v ++ w) :=
  .append hv hw fun _ _ => trivial

/-- A text that is copied before anything is copied before what has a property. -/
lemma mono (hw : Copied (fun _ => True) w) : Copied P w := by
  simpa using hw.before .nil

/-- A character that is not active is copied. -/
lemma cons {c : Char} (hc : isActive c = false) (hw : Copied P w) : Copied P (c :: w) :=
  before (.char hc) hw

/-- Text in brackets, like text in braces. -/
lemma brackets (hw : Copied Text.EndsWord w) : Copied P ('[' :: w ++ [']']) := by
  refine cons (by decide) (.append hw (.char (by decide)) fun x _ => ?_)
  exact show isAlphabetic ']' = false by decide +kernel

/-- Blanks are copied. -/
lemma blanks (hw : w.all isBlank) : Copied P w := by
  induction w with
  | nil => exact .nil
  | cons c w ih =>
    rw [List.all_cons, Bool.and_eq_true] at hw
    exact cons (isActive_of_isBlank hw.1) (ih hw.2)

end Copied

namespace Passage

variable {P : Text → Prop} {names : List Text} {s out x r : Text}

/-- A passage starts in its output as it does in the source. -/
lemma head?_eq (h : Passage P names s out) : out.head? = s.head? := by
  induction h with
  | copied => rfl
  | append _ _ _ ih ih' => rw [List.head?_append, List.head?_append, ih, ih']
  | environment => rfl

/-- The output of a passage starts as the source does, also where the passage is empty and what
follows the output has the property that what follows the source has. -/
lemma head?_append {p : Option Char → Prop} (h : Passage P names s out) (hr : p (s ++ r).head?)
    (hx : p r.head? → p x.head?) : p (out ++ x).head? := by
  have hh := h.head?_eq
  cases s with
  | nil =>
    obtain rfl : out = [] := List.head?_eq_none_iff.1 hh
    exact hx hr
  | cons c s =>
    obtain ⟨o, rfl⟩ := List.head?_eq_some_iff.1 hh
    exact hr

/-- The output of a passage ends a word where its source does. -/
lemma endsWord_append (h : Passage P names s out) (hr : (s ++ r).EndsWord)
    (hx : r.EndsWord → x.EndsWord) : (out ++ x).EndsWord :=
  h.head?_append (p := fun c => c.any isAlphabetic = false) hr hx

/-- The output of a passage ends a line where its source does. -/
lemma endsLine_append (h : Passage P names s out) (hr : (s ++ r).EndsLine)
    (hx : r.EndsLine → x.EndsLine) : (out ++ x).EndsLine :=
  h.head?_append (p := fun c => c.all (· == '\n')) hr hx

/-- Copied text that can stand before any text. -/
lemma before {w : Text} (hw : Copied (fun _ => True) w) (h : Passage P names s out) :
    Passage P names (w ++ s) (w ++ out) :=
  .append (.copied hw) h fun _ _ => trivial

end Passage

/-! ### Groups and arguments -/

/-- A text that is read as it is written. -/
def Verbatim (P : Text → Prop) (t out r : Text) : Prop := t = out ++ r ∧ Copied P out

variable {σ : Type}

/-- Reading a part of a configuration as a passage. The names are those of the environments in
it. -/
def Config.Passes (P : Text → Prop) (k : Config σ) (out : Text) (k' : Config σ) : Prop :=
  k.indentation.IsValid → k'.indentation.IsValid ∧
    ∃ names s, k.rest = s ++ k'.rest ∧ Passage P names s out

/-- What can follow a line, which a comment ends if the flag is set. -/
def Text.Follows : Bool → Text → Prop
  | true => EndsWord
  | false => EndsLine

/-- A text that may follow a line ends a word. -/
lemma Text.Follows.endsWord {stop : Bool} {t : Text} (h : t.Follows stop) : t.EndsWord := by
  cases stop with
  | true => exact h
  | false => exact EndsLine.endsWord h

/-- Levels without definitions: groups and brackets are copied, and lines are passages. -/
structure Grammar.Copies (G : Grammar σ) : Prop where
  group {close : Char} {t out r : Text} : close ≠ '\n' → G.group close t out r →
    Verbatim Text.EndsWord t out (close :: r)
  brackets {t out r : Text} : G.brackets t (some out) r →
    Verbatim Text.EndsWord t out (']' :: r)
  line {level : Nat} {stop : Bool} {k k' : Config σ} {out : Text} : G.line level stop k out k' →
    k.Passes (Text.Follows stop) out k'

namespace Grammar

variable {registry : Registry} {S : Setup σ} {G : Grammar σ} {close : Char} {t out r : Text}

/-- A control word is copied before what does not go on with it, and a symbol before anything. -/
lemma ControlName.verbatim {name : Text} (hn : ControlName t name r) :
    Verbatim (fun x => r.EndsWord → x.EndsWord) ('\\' :: t) (Markup.control name) r := by
  cases hn with
  | word hne ha hr => exact ⟨rfl, .word hne ha fun _ hx => hx hr⟩
  | symbol hc => exact ⟨rfl, .symbol hc⟩

/-- Without commands, a control sequence in an argument is verbatim. -/
lemma ArgumentControl.verbatim (hd : ∀ name, registry.command? name = none)
    (h : ArgumentControl registry G t out r) :
    Verbatim (fun x => r.EndsWord → x.EndsWord) ('\\' :: t) out r := by
  cases h with
  | native hn => exact hn.verbatim
  | command _ hc =>
    rw [hd] at hc
    cases hc

/-- Copied text after a control sequence. -/
lemma verbatim_control {text r' : Text} (h : Verbatim (fun x => r.EndsWord → x.EndsWord) t text r)
    (h' : Verbatim Text.EndsWord r out r') : Verbatim Text.EndsWord t (text ++ out) r' := by
  obtain ⟨rfl, hc⟩ := h
  obtain ⟨rfl, hc'⟩ := h'
  refine ⟨by simp, .append hc hc' fun x hx hr => ?_⟩
  exact (Passage.copied hc').endsWord_append hr fun _ => hx

/-- Without commands, a group is verbatim. -/
lemma Group.verbatim (hd : ∀ name, registry.command? name = none) (hG : G.Copies)
    (hclose : close ≠ '\n') (h : Group registry G close t out r) :
    Verbatim Text.EndsWord t out (close :: r) := by
  induction h with
  | close => exact ⟨rfl, .nil⟩
  | char hc _ ih =>
    obtain ⟨rfl, hw⟩ := ih
    refine ⟨rfl, .cons ?_ hw⟩
    simp_all [Scan.endsGroupRun, isActive]
  | group _ hg _ ih =>
    obtain ⟨rfl, hb⟩ := hG.group (by decide) hg
    obtain ⟨rfl, hw⟩ := ih
    refine ⟨by simp, ?_⟩
    simpa using Copied.before (.group hb) hw
  | control _ hc _ ih => exact verbatim_control (hc.verbatim hd) ih
  | @comment note r out r' _ hn hend _ ih =>
    obtain ⟨rfl, hw⟩ := ih
    refine ⟨by simp, .append (.comment hn fun x hx => hx) hw fun x hx => ?_⟩
    -- The group does not end on the line of the comment.
    cases out with
    | nil => exact absurd (by simpa using hend) hclose
    | cons c out => exact hend

/-- Without commands, the inside of brackets is verbatim. -/
lemma Brackets.verbatim (hd : ∀ name, registry.command? name = none) (hG : G.Copies)
    {o : Option Text} (h : Brackets registry G t o r) (ho : o = some out) :
    Verbatim Text.EndsWord t out (']' :: r) := by
  induction h generalizing out with
  | stop => cases ho
  | close =>
    cases ho
    exact ⟨rfl, .nil⟩
  | char hc _ ih =>
    obtain ⟨w, rfl, rfl⟩ := Option.map_eq_some_iff.1 ho
    obtain ⟨rfl, hw⟩ := ih rfl
    refine ⟨rfl, .cons ?_ hw⟩
    simp_all [Scan.endsBracketRun, isActive]
  | group hg _ ih =>
    obtain ⟨w, rfl, rfl⟩ := Option.map_eq_some_iff.1 ho
    obtain ⟨rfl, hb⟩ := hG.group (by decide) hg
    obtain ⟨rfl, hw⟩ := ih rfl
    refine ⟨by simp, ?_⟩
    simpa using Copied.before (.group hb) hw
  | brackets hg _ ih =>
    obtain ⟨w, rfl, rfl⟩ := Option.map_eq_some_iff.1 ho
    obtain ⟨rfl, hb⟩ := hG.group (by decide) hg
    obtain ⟨rfl, hw⟩ := ih rfl
    refine ⟨by simp, ?_⟩
    simpa using hb.brackets.before hw
  | control hc _ ih =>
    obtain ⟨w, rfl, rfl⟩ := Option.map_eq_some_iff.1 ho
    exact verbatim_control (hc.verbatim hd) (ih rfl)

/-- The arguments of a control sequence without a definition are copied, whatever follows them. -/
lemma ArgumentText.verbatim (hG : G.Copies) (h : ArgumentText G t out r) :
    Verbatim (fun _ => True) t out r := by
  induction h with
  | stop | bracketsOpen => exact ⟨rfl, .nil⟩
  | group hb hg _ ih =>
    obtain ⟨rfl, hbody⟩ := hG.group (by decide) hg
    obtain ⟨rfl, hw⟩ := ih
    refine ⟨by simp, ?_⟩
    have hblanks := Copied.blanks (P := fun _ => True) (Text.all_isBlank_of_isBlankLine hb)
    simpa using hblanks.before (Copied.before (.group hbody) hw)
  | brackets hb hg _ ih =>
    obtain ⟨rfl, hbody⟩ := hG.brackets hg
    obtain ⟨rfl, hw⟩ := ih
    refine ⟨by simp, ?_⟩
    have hblanks := Copied.blanks (P := fun _ => True) (Text.all_isBlank_of_isBlankLine hb)
    simpa using hblanks.before (hbody.brackets.before hw)

end Grammar

/-! ### Blocks -/

namespace Config.Passes

variable {P Q : Text → Prop} {k k' k'' : Config σ} {t out out' w : Text} {i : Indentation} {h : σ}

/-- One passage after another. -/
lemma trans (hp : k.Passes P out k') (hp' : k'.Passes Q out' k'')
    (hx : ∀ {names s}, Passage Q names s out' → k'.rest = s ++ k''.rest →
      ∀ x, Q x → P (out' ++ x)) : k.Passes Q (out ++ out') k'' := by
  intro hi
  obtain ⟨hi', names, s, hs, hpass⟩ := hp hi
  obtain ⟨hi'', names', s', hs', hpass'⟩ := hp' hi'
  refine ⟨hi'', names ++ names', s ++ s', ?_, .append hpass hpass' (hx hpass' hs')⟩
  rw [hs, hs', List.append_assoc]

/-- A passage that can stand before any text. -/
lemma before (hp : k.Passes (fun _ => True) out k') (hp' : k'.Passes Q out' k'') :
    k.Passes Q (out ++ out') k'' :=
  hp.trans hp' fun _ _ _ _ => trivial

/-- A passage that ends with a control word, where the word ends in the source. -/
lemma word (hp : k.Passes (fun x => k'.rest.EndsWord → x.EndsWord) out k')
    (hp' : k'.Passes Q out' k'') (hQ : ∀ x, Q x → k''.rest.EndsWord → x.EndsWord) :
    k.Passes Q (out ++ out') k'' :=
  hp.trans hp' fun hs he x hx hr => hs.endsWord_append (he ▸ hr) (hQ x hx)

/-- A copied text passes. -/
lemma of_copied (hw : Copied P w) : Passes P ⟨w ++ t, i, h⟩ w ⟨t, i, h⟩ :=
  fun hi => ⟨hi, [], w, rfl, .copied hw⟩

/-- A verbatim text passes. -/
lemma of_verbatim {r : Text} (hv : Verbatim P t w r) : Passes P ⟨t, i, h⟩ w ⟨r, i, h⟩ := by
  obtain ⟨rfl, hw⟩ := hv
  exact of_copied hw

/-- Copied text before a passage. -/
lemma copy (hw : Copied (fun _ => True) w) (hp : Passes P ⟨t, i, h⟩ out k) :
    Passes P ⟨w ++ t, i, h⟩ (w ++ out) k :=
  (of_copied hw).before hp

/-- A comment before a passage that starts at the end of its line. -/
lemma comment {note : Text} (hn : '\n' ∉ note) (hend : t.EndsLine)
    (hp : Passes Text.EndsLine ⟨t, i, h⟩ out k) :
    Passes Text.EndsLine ⟨'%' :: note ++ t, i, h⟩ ('%' :: note ++ out) k := by
  refine trans (of_copied (.comment hn fun _ hx => hx)) hp fun hs he x hx => ?_
  exact hs.endsLine_append (he.subst hend) fun _ => hx

end Config.Passes

namespace Grammar

variable {S : Setup σ} {G : Grammar σ} {k k' : Config σ} {P : Text → Prop} {level : Nat}
  {out blank : Text}

/-- Nothing passes where there is no next line. -/
lemma NextLine.passes_none (h : NextLine level k none k') : k.Passes P [] k' := by
  intro hi
  cases h with
  | finished | trailing => exact ⟨hi, [], [], rfl, .copied .nil⟩
  | lower _ _ hl => exact ⟨hi.of_levelOf hl, [], [], rfl, .copied .nil⟩

/-- Blank lines before a line that is measured. -/
lemma passes_measured {r : Text} {i j : Indentation} {h : σ} {next : Nat}
    (hb : (blank ++ r).blankLines = blank)
    (hl : Indentation.levelOf (r.takeWhile isHorizontal) i = .ok next j) :
    Config.Passes (fun _ => True) ⟨blank ++ r, i, h⟩ blank ⟨r, j, h⟩ := by
  intro hi
  have hblank := Text.all_isBlank_of_blankLines hb
  exact ⟨hi.of_levelOf hl, [], blank, rfl, .copied (.blanks hblank)⟩

/-- A newline and blank lines pass before the next line. -/
lemma NextLine.passes_some (h : NextLine level k (some blank) k') :
    k.Passes (fun _ => True) ('\n' :: blank) k' := by
  cases h with
  | same hb _ hl => exact (passes_measured hb hl).copy (.char (by decide))

/-- Blank lines pass before the first line of a block. -/
lemma Enter.passes (h : Enter level k blank k') : k.Passes (fun _ => True) blank k' := by
  cases h with
  | mk hb _ hl => exact passes_measured hb hl

/-- A block passes if lines do. -/
lemma Block.passes (hG : G.Copies) (h : Block (G.line level false) level k out k') :
    k.Passes Text.EndsLine out k' := by
  induction h with
  | last hl hx =>
    have hlast := (hG.line hl).trans (hx.passes_none (P := Text.EndsLine)) fun _ _ x hx => hx
    rwa [List.append_nil] at hlast
  | more hl hx _ ih =>
    have hmore := (hG.line hl).trans (hx.passes_some.before ih) fun _ _ x _ => rfl
    simpa using hmore

/-! ### Lines -/

/-- The source of a body and what stands for it between the markers: a passage with blanks around
it. -/
inductive Enclosed : List Text → Text → Text → Prop where
  | mk {Q : Text → Prop} {names : List Text} {gap lead trail s out : Text} : gap.isBlankLine →
    lead.all isBlank → trail.all isBlank → (∀ x, Q (trail ++ '\\' :: x)) →
    Passage Q names s out → Enclosed names (gap ++ s) (lead ++ out ++ trail)

/-- A margin on a line of its own. -/
lemma blank_margin {i : Indentation} (hi : i.IsValid) (level : Nat) :
    ('\n' :: i.margin level).all isBlank := by
  have hm := Text.all_isBlank_of_isBlankLine (hi.isBlankLine_margin level)
  rw [List.all_cons, hm]
  decide

/-- A body passes between the markers of its environment. -/
lemma EnvironmentBody.enclosed (hG : G.Copies) {body : Scan.Body}
    (h : EnvironmentBody G level k body k') (hi : k.indentation.IsValid) :
    k'.indentation.IsValid ∧ ∃ names s, k.rest = s ++ k'.rest ∧
      Enclosed names s (closed level k'.indentation body) := by
  cases h with
  | @oneLine blanks r text c _ _ _ hb _ _ _ hl =>
    obtain ⟨hi', names, s, hs, hp⟩ := hG.line hl hi
    have hs : c :: r = s ++ k'.rest := hs
    refine ⟨hi', names, blanks ++ s, by simp [hs], ?_⟩
    have he : Enclosed names (blanks ++ s) ([] ++ text ++ []) :=
      .mk hb rfl rfl Text.endsWord_backslash hp
    simpa [closed] using he
  | @block blanks r blank text _ _ _ _ hb he hl =>
    obtain ⟨hi', names, s, hs, hp⟩ := he.passes.before (Block.passes hG hl) hi
    have hs : '\n' :: r = s ++ k'.rest := hs
    refine ⟨hi', names, blanks ++ s, by simp [hs], ?_⟩
    have he : Enclosed names (blanks ++ s) ([] ++ (blank ++ text) ++ _) :=
      .mk hb rfl (blank_margin hi' level) (fun _ => rfl) hp
    simpa [closed] using he
  | @comment blanks note r blank text i h _ _ hb hn hend he hl =>
    obtain ⟨hi₁, -⟩ := he.passes hi
    -- The comment moves to a line of its own, and what follows it starts with a newline.
    obtain ⟨hi', names, s, hs, hp⟩ :=
      Config.Passes.comment hn hend (he.passes.before (Block.passes hG hl)) hi
    have hs : '%' :: note ++ r = s ++ k'.rest := hs
    refine ⟨hi', names, blanks ++ s, by simp [← hs], ?_⟩
    have he := Enclosed.mk hb (blank_margin hi₁ (level + 1)) (blank_margin hi' level)
      (fun _ => rfl) hp
    simpa [closed] using he

/-- A control sequence in a line is a passage; only a control word depends on what follows it. -/
lemma Control.passes (hS : ∀ name, S.registry.find? name = none) (hG : G.Copies) {t : Text}
    {i : Indentation} {h : σ} (hc : Control S G level ⟨t, i, h⟩ out k) :
    Config.Passes (fun x => k.rest.EndsWord → x.EndsWord) ⟨'\\' :: t, i, h⟩ out k := by
  cases hc with
  | command _ hd | environment _ hd =>
    rw [hS] at hd
    cases hd
  | symbol hn => exact .of_verbatim hn.verbatim
  | plain hn _ _ hargs =>
    obtain ⟨rfl, hcopied⟩ := hargs.verbatim hG
    exact (Config.Passes.of_verbatim hn.verbatim).word (.of_copied hcopied.mono) fun _ hx => hx
  | @native _ name r args blanks r' _ _ body _ hn _ ha hargs hb hbody =>
    obtain ⟨rfl, hcopied⟩ := hargs.verbatim hG
    intro hi
    obtain ⟨hi', names, s, hs, he⟩ := hbody.enclosed hG hi
    have hs : r' = s ++ k.rest := hs
    subst hs
    generalize closed level k.indentation body = text at he ⊢
    obtain ⟨hgap, hlead, htrail, hQ, hp⟩ := he
    cases hn with
    | symbol hc => simp [hc] at ha
    | word hne _ _ =>
      exact ⟨hi', _, _, by simp, .environment hne ha hcopied hb hgap hlead htrail hQ hp⟩

/-- A line passes if the level below copies. -/
lemma Line.passes (hS : ∀ name, S.registry.find? name = none) (hG : G.Copies) {stop : Bool}
    (h : Line S G level stop k out k') : k.Passes (Text.Follows stop) out k' := by
  induction h with
  | done => exact fun hi => ⟨hi, [], [], rfl, .copied .nil⟩
  | char hc _ ih =>
    refine ih.copy (.char ?_)
    simp_all [Scan.endsLineRun, isActive]
  | comment hstop hn hend _ ih =>
    subst hstop
    exact .comment hn hend ih
  | control hc _ ih => exact (hc.passes hS hG).word ih fun _ hx _ => hx.endsWord
  | group hg _ ih =>
    obtain ⟨rfl, hb⟩ := hG.group (by decide) hg
    simpa using ih.copy (.group hb)

/-- A level without definitions copies if the one below does. -/
lemma Copies.above (hS : ∀ name, S.registry.find? name = none) (hG : G.Copies) :
    (Grammar.above S G).Copies where
  group hclose h := h.verbatim (fun name => (Registry.find?_eq_none_iff.1 (hS name)).1) hG hclose
  brackets h := by
    obtain ⟨r, hb, rfl⟩ := h
    exact hb.verbatim (fun name => (Registry.find?_eq_none_iff.1 (hS name)).1) hG rfl
  line h := h.passes hS hG

/-- Without definitions every level copies. -/
lemma ofRoom_copies (hS : ∀ name, S.registry.find? name = none) (n : Nat) :
    (ofRoom S n).Copies := by
  induction n with
  | zero => exact { group := nofun, brackets := nofun, line := nofun }
  | succ n ih => exact ih.above hS

/-! ### Fragments -/

/-- A block at the level of its first line passes. -/
lemma WholeBlock.passes (hG : G.Copies) (h : WholeBlock G k out k') :
    k.Passes Text.EndsLine out k' := by
  cases h with
  | blank hb =>
    intro hi
    have hblank := Text.all_isBlank_of_blankLines hb
    exact ⟨hi, [], out, by simp, .copied (.blanks hblank)⟩
  | lines hb _ hl hlines => exact (passes_measured hb hl).before (hlines.passes hG)

/-- A fragment passes. -/
lemma Fragment.passes (hG : G.Copies) (h : Fragment G k out k') :
    k.Passes Text.EndsLine out k' := by
  induction h with
  | last hb => exact hb.passes hG
  | @more k k' t text out i h hb _ ih =>
    have hmore : Config.Passes Text.EndsLine ⟨'\n' :: t, i, h⟩ ('\n' :: out) k' :=
      ih.copy (w := ['\n']) (.char (by decide))
    exact (hb.passes hG).trans hmore fun _ _ _ _ => rfl

/-- A fragment is read to the end of the source. -/
lemma Fragment.rest_eq_nil (h : Fragment G k out k') : k'.rest = [] := by
  induction h with
  | last => rfl
  | more _ _ ih => exact ih

/-! ### Documents -/

/-- A line of a preamble passes. -/
lemma PreambleLine.passes (hG : G.Copies) (h : PreambleLine G k out k') :
    k.Passes Text.EndsLine out k' := by
  cases h with
  | blank hb => exact .of_copied (.blanks (Text.all_isBlank_of_isBlankLine hb))
  | text _ hl => exact hG.line hl

/-- The lines of a document pass. -/
lemma DocumentBody.passes (hG : G.Copies) (h : DocumentBody G k out k') :
    k.Passes Text.EndsLine out k' := by
  cases h with
  | blank => exact fun hi => ⟨hi, [], [], rfl, .copied .nil⟩
  | @lines _ r _ i _ _ hb _ hr hlines =>
    have hl : Indentation.levelOf (r.takeWhile isHorizontal) i = .ok 0 i := by
      rw [Text.takeWhile_of_starts hr]
      rfl
    exact (passes_measured hb hl).before (hlines.passes hG)

end Grammar

/-- A document and its output: the preamble, the delimiter line, the body, and blanks behind it. -/
inductive DocumentPassage : Text → Text → Prop where
  | mk {names names' : List Text} {p p' d b b' trailing : Text} :
    (p = [] ∨ ∃ q, p = q ++ ['\n']) → Passage (fun _ => True) names p p' → IsDelimiter d →
    Passage Text.EndsLine names' b b' → trailing.all isBlank → (b = [] ∨ trailing.atLineEnd) →
    DocumentPassage (p ++ d ++ '\n' :: b ++ trailing)
      (p' ++ Markup.environment "document".toList [] ('\n' :: b' ++ ['\n']) ++ trailing)

/-- A line before a document. -/
lemma DocumentPassage.line {names : List Text} {l l' s out : Text} (h : DocumentPassage s out)
    (hl : Passage Text.EndsLine names l l') :
    DocumentPassage (l ++ '\n' :: s) (l' ++ '\n' :: out) := by
  obtain @⟨_, _, p, p', _, _, _, _, hend, hp, hd, hb, ht, he⟩ := h
  have hnewline : Passage (fun _ => True) _ ('\n' :: p) ('\n' :: p') :=
    hp.before (.char (by decide))
  have hline := Passage.append hl hnewline fun _ _ => rfl
  have hend' : l ++ '\n' :: p = [] ∨ ∃ q, l ++ '\n' :: p = q ++ ['\n'] := by
    rcases hend with rfl | ⟨q, rfl⟩
    · exact Or.inr ⟨l, rfl⟩
    · exact Or.inr ⟨l ++ '\n' :: q, by simp⟩
  simpa using DocumentPassage.mk hend' hline hd hb ht he

/-- A source with a preamble passes as a document. -/
lemma Grammar.Root.documentPassage {G : Grammar σ} {k k' : Config σ} {out : Text} (hG : G.Copies)
    (h : Root G k out k') (hi : k.indentation.IsValid) : DocumentPassage k.rest out := by
  induction h with
  | @document d t body _ _ k hd hb =>
    obtain ⟨-, names, b, hrest, hp⟩ := hb.passes hG hi
    obtain ⟨hblank, hend⟩ := hb.rest_blank
    have hrest : t = b ++ k.rest := hrest
    have hend' : b = [] ∨ k.rest.atLineEnd := by
      refine hend.imp_left ?_
      rintro rfl
      exact List.head?_eq_none_iff.1 hp.head?_eq.symm
    have hdoc := DocumentPassage.mk (Or.inl rfl) (.copied .nil) hd hp hblank hend'
    simpa [hrest] using hdoc
  | line _ hl _ ih =>
    obtain ⟨hi', names, l, hrest, hp⟩ := hl.passes hG hi
    rw [hrest]
    exact (ih hi').line hp

/-! ### Translators without definitions -/

namespace Translator

variable {t : Translator σ} {s out : Text}

/-- A translator without definitions has none for any name. -/
lemma find?_eq_none (ht : t.registry = .empty) (name : Text) :
    t.setup.registry.find? name = none := by
  rw [show t.setup.registry = .empty from ht]
  rfl

/-- What a translator without definitions makes of a fragment is a passage. -/
theorem passage_of_translateFragment (ht : t.registry = .empty)
    (h : t.translateFragment s = .ok out) : ∃ names, Passage Text.EndsLine names s out := by
  obtain ⟨s', hs⟩ := run_eq_ok.1 h
  have hf := Scan.fragment_sound (Level.outermost_sound t.setup) hs
  obtain ⟨-, names, w, hw, hp⟩ :=
    hf.passes (Grammar.ofRoom_copies (find?_eq_none ht) maxNesting) Indentation.isValid_unset
  rw [hf.rest_eq_nil, List.append_nil] at hw
  have hw : s = w := hw
  exact ⟨names, hw ▸ hp⟩

/-- What a translator without definitions makes of a document is made of passages. -/
theorem documentPassage_of_translate (ht : t.registry = .empty) (h : t.translate s = .ok out) :
    DocumentPassage s out := by
  obtain ⟨s', hs⟩ := run_eq_ok.1 h
  have hr := Scan.root_sound (Level.outermost_sound t.setup) hs
  exact hr.documentPassage (Grammar.ofRoom_copies (find?_eq_none ht) maxNesting)
    Indentation.isValid_unset

end Translator

end IndentTex
