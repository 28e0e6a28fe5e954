import IndentTex.Proofs.Grammar.Tidy
import IndentTex.Proofs.Indentation

/-!
# Reading one level deeper

A text that is indented by one unit is read as before, one level deeper: the output is indented by
the unit, and the executor gets the same calls. There is a lemma for each rule of the grammar.

A part of a text may start at the start of a line or within a line, and so may its output. The flag of
`Text.indent` says which it is. What follows an output on its last line decides whether that line is
empty, so the output of a group is `Text.indentOpen`, and the output of a line is followed by the
`Text.lead` of what is left.
-/

namespace IndentTex

open Text

variable {σ : Type} {u t r : Text}

/-! ### Plain characters -/

/-- The characters that end a plain run of a group are no blanks, if the closing one is none. -/
lemma isHorizontal_of_endsGroupRun {close c : Char} (hclose : isBlank close = false)
    (hc : Scan.endsGroupRun close c) : isHorizontal c = false := by
  simp only [Scan.endsGroupRun, Bool.or_eq_true, decide_eq_true_eq] at hc
  rcases hc with (((rfl | rfl) | rfl) | rfl) | rfl
  · rw [isHorizontal, hclose, Bool.false_and]
  all_goals decide

/-- The characters that end a plain run of brackets are no blanks. -/
lemma isHorizontal_of_endsBracketRun {c : Char} (hc : Scan.endsBracketRun c) :
    isHorizontal c = false := by
  simp only [Scan.endsBracketRun, Bool.or_eq_true, decide_eq_true_eq] at hc
  rcases hc with (((((rfl | rfl) | rfl) | rfl) | rfl) | rfl) | rfl
  all_goals decide

/-- A character that is no blank is no newline. -/
lemma ne_newline_of_isBlank {c : Char} (hc : isBlank c = false) : c ≠ '\n' := by
  rintro rfl
  exact absurd hc (by decide)

/-- A closing bracket is no blank. -/
lemma isBlank_bracket : isBlank ']' = false := by decide

/-- A closing brace is no blank. -/
lemma isBlank_brace : isBlank '\x7d' = false := by decide

/-- A name of alphabetic characters is on one line. -/
lemma newline_notMem_of_isAlphabetic {name : Text} (h : name.all isAlphabetic) : '\n' ∉ name := by
  intro hn
  rw [List.all_eq_true] at h
  exact absurd (h _ hn) (by decide +kernel)

/-! ### Raw texts -/

namespace Scan

variable {close : Char} {oneLine : Bool}

/-- Horizontal blanks at the start of a raw text belong to it. -/
lemma rawText?_blanks (hclose : isBlank close = false) {w : Text} (hw : w.isBlankLine) (t : Text) :
    rawText? close oneLine (w ++ t) = (rawText? close oneLine t).map (w ++ ·) := by
  induction w with
  | nil => simp
  | cons c w ih =>
    rw [isBlankLine, List.all_cons, Bool.and_eq_true] at hw
    have hb : c ≠ '\\' := by
      rintro rfl
      exact absurd hw.1 (by decide)
    have hc : c ≠ close := by
      rintro rfl
      rw [isHorizontal, hclose] at hw
      exact absurd hw.1 Bool.false_ne_true
    have hn : c ≠ '\n' := by
      rintro rfl
      exact absurd hw.1 (by decide)
    rw [List.cons_append, rawText?_char hb, if_neg hc, if_neg (fun h => hn h.2), ih hw.2,
      Option.map_map]
    rfl

/-- The raw text of an indented text is the raw text, indented. -/
lemma rawText?_indent (hclose : isBlank close = false) (hu : u.isBlankLine) (start : Bool)
    (t : Text) :
    rawText? close oneLine (indent u start t) =
      (rawText? close oneLine t).map (indentOpen u start) := by
  have hpad := isBlankLine_pad hu
  have hnl := ne_newline_of_isBlank hclose
  -- A case for each branch of the search; only the branch of a plain newline starts a line.
  fun_induction rawText? close oneLine t generalizing start with
  | case1 => rfl
  | case2 c t hn =>
    rw [indent_cons (by decide), rawText?_blanks hclose (hpad _), indent_cons_within, rawText?_pair,
      if_pos hn]
    rfl
  | case3 c t hn ih =>
    rw [indent_cons (by decide), rawText?_blanks hclose (hpad _), indent_cons_within, rawText?_pair,
      if_neg hn, ih, Option.map_map, Option.map_map, Option.map_map]
    congr 1
    funext w
    simp [indentOpen_cons, indentOpen_cons_within]
  | case4 t hpair =>
    cases t with
    | nil => rw [indent_cons (by decide), rawText?_blanks hclose (hpad _)]; rfl
    | cons c t => exact absurd rfl (hpair c t rfl)
  | case5 t _ hb =>
    rw [indent_cons hnl, rawText?_blanks hclose (hpad _), rawText?_char hb, if_pos rfl]
    simp
  | case6 c t _ hb hc hn =>
    obtain ⟨ho, rfl⟩ := hn
    rw [indent_newline, rawText?_char hb, if_neg hc, if_pos ⟨ho, rfl⟩]
    rfl
  | case7 c t _ hb hc hn ih =>
    by_cases hcn : c = '\n'
    · subst hcn
      rw [indent_newline, rawText?_char hb, if_neg hc, if_neg hn, ih,
        Option.map_map, Option.map_map]
      rfl
    · rw [indent_cons hcn, rawText?_blanks hclose (hpad _), rawText?_char hb, if_neg hc, if_neg hn,
        ih, Option.map_map, Option.map_map, Option.map_map]
      congr 1
      funext w
      simp [indentOpen_cons hcn]

/-- A literal text before its closing character, one level deeper. -/
lemma rawText?_indent_closed (hclose : isBlank close = false) (hu : u.isBlankLine) {v : Text}
    (h : rawText? close oneLine (v ++ close :: r) = some v) :
    rawText? close oneLine (indentOpen u false v ++ close :: indent u false r) =
      some (indentOpen u false v) := by
  have hnl := ne_newline_of_isBlank hclose
  rw [← indent_append_cons hnl, rawText?_indent hclose hu, h]
  rfl

/-- A raw text that must end on its line holds no newline. -/
lemma newline_notMem_of_rawText? {v : Text} (h : rawText? close true t = some v) : '\n' ∉ v := by
  fun_induction rawText? close true t generalizing v with
  | case1 | case2 | case4 | case6 => cases h
  | case5 => cases h; simp
  | case3 c t hn ih =>
    obtain ⟨w, hw, rfl⟩ := Option.map_eq_some_iff.1 h
    simp only [List.mem_cons, not_or]
    exact ⟨by decide, fun he => hn ⟨rfl, he.symm⟩, ih hw⟩
  | case7 c t _ _ _ hn ih =>
    obtain ⟨w, hw, rfl⟩ := Option.map_eq_some_iff.1 h
    simp only [List.mem_cons, not_or]
    exact ⟨fun he => hn ⟨rfl, he.symm⟩, ih hw⟩

end Scan

/-! ### Definitions -/

/-- A command whose output is indented by indenting its arguments. -/
structure Command.Nests (u : Text) (c : Command) : Prop where
  generate {values : List (Option Text)} {out : Text} : c.generate values = .ok out →
    c.generate (values.map (Option.map (indentOpen u false))) = .ok (indent u false out)
  starts {values : List (Option Text)} {out : Text} : c.generate values = .ok out →
    out.starts (· != '\n')
  ends {values : List (Option Text)} {out : Text} : c.generate values = .ok out →
    lineStart false out = false

/-- A literal environment whose output does not depend on the unit. -/
structure Environment.Nests (executor : Executor σ) (e : Environment) : Prop where
  raw : e.raw = true
  slots : ∀ slot ∈ e.params, slot.optional = true ∧ slot.raw = true
  generate {unit body out : Text} {values : List (Option Text)} {h h' : σ} (unit' : Text) :
    (e.generate unit body values).run executor h = (.ok out, h') →
    (e.generate unit' body values).run executor h = (.ok out, h') ∧ out.starts (· != '\n')

/-- A definition that works in the same way one level deeper. -/
inductive Definition.Nests (u : Text) (executor : Executor σ) : Definition → Prop where
  | command {c : Command} : c.Nests u → Nests u executor (.command c)
  | environment {e : Environment} : e.Nests executor → Nests u executor (.environment e)

/-- A setup whose definitions work in the same way one level deeper. -/
def Setup.Nests (u : Text) (S : Setup σ) : Prop :=
  ∀ name d, S.registry.find? name = some d → '\n' ∉ name ∧ d.Nests u S.executor

/-- The configuration one level deeper. -/
def Config.nest (u : Text) (start : Bool) (k : Config σ) : Config σ :=
  ⟨indent u start k.rest, .ofUnit u, k.host⟩

/-- A level reads one level deeper what another level reads. -/
structure Grammar.Nests (u : Text) (G G' : Grammar σ) : Prop where
  group {close : Char} {t out r : Text} : isBlank close = false → G.group close t out r →
    G'.group close (indent u false t) (indentOpen u false out) (indent u false r)
  brackets {t r : Text} {out : Option Text} : G.brackets t out r →
    G'.brackets (indent u false t) (out.map (indentOpen u false)) (indent u false r)
  line {level : Nat} {stop : Bool} {k k' : Config σ} {out : Text} (start : Bool) :
    G.line level stop k out k' → k.indentation.Fits u level → k'.indentation.Fits u 0 →
    G'.line (level + 1) stop (k.nest u start)
      (indent u start out ++ lead u (lineStart start out) k'.rest) (k'.nest u false)
  keeps {level : Nat} {stop : Bool} {k k' : Config σ} {out : Text} :
    G.line level stop k out k' → k.indentation.Keeps k'.indentation
  ends {level : Nat} {k k' : Config σ} {out : Text} : G.line level false k out k' →
    k'.rest.atLineEnd
  tidy {level : Nat} {k k' : Config σ} {out : Text} : G.line level true k out k' →
    k'.rest.atLineEnd → lineStart false out = false

namespace Grammar

variable {S : Setup σ} {G G' : Grammar σ}

/-! ### Arguments -/

/-- The name of a control sequence, one level deeper. -/
lemma ControlName.nest {name : Text} (u : Text) (hn : ControlName t name r) :
    ControlName (indent u false t) name (indent u (lineStart false name) r) := by
  cases hn with
  | word hne ha hr =>
    have hnl := newline_notMem_of_isAlphabetic ha
    rw [indent_line_append hnl, lineStart_of_notMem hnl]
    exact .word hne ha (by rwa [starts_indent])
  | symbol hc =>
    rw [indent_cons_within]
    exact .symbol hc

/-- The name of a control sequence is not indented. -/
lemma ControlName.indent_eq {name : Text} (hn : ControlName t name r) :
    indent u false (Markup.control name) = Markup.control name := by
  rw [Markup.control, indent_cons (by decide)]
  cases hn with
  | word _ ha _ => rw [indent_of_notMem (newline_notMem_of_isAlphabetic ha)]; rfl
  | symbol _ => rw [indent_cons_within]; rfl

/-- An optional argument, one level deeper. -/
lemma Optional.nest (hu : u.isBlankLine) (hG : G.Nests u G') {raw : Bool} {value : Option Text}
    (hv : Optional G raw t value r) :
    Optional G' raw (indent u false t) (value.map (indentOpen u false)) (indent u false r) := by
  cases hv with
  | absent hb hr =>
    rw [indent_blanks hb]
    exact .absent hb (by rwa [starts_indent])
  | raw hb hv =>
    rw [indent_blanks hb, indent_cons (by decide),
      indent_append_cons (by decide)]
    exact .raw hb (Scan.rawText?_indent_closed isBlank_bracket hu hv)
  | rawOpen hb hv =>
    rw [indent_blanks hb, indent_cons (by decide)]
    exact .rawOpen hb (by rw [Scan.rawText?_indent isBlank_bracket hu, hv]; rfl)
  | brackets hb hv =>
    rw [indent_blanks hb, indent_cons (by decide)]
    exact .brackets hb (hG.brackets hv)
  | bracketsOpen hb hv =>
    rw [indent_blanks hb, indent_cons (by decide)]
    exact .bracketsOpen hb (hG.brackets hv)

/-- A required argument, one level deeper. -/
lemma Required.nest (hu : u.isBlankLine) (hG : G.Nests u G') {raw : Bool} {value : Text}
    (hv : Required G raw t value r) :
    Required G' raw (indent u false t) (indentOpen u false value) (indent u false r) := by
  cases hv with
  | raw hb hv =>
    rw [indent_blanks hb, indent_cons (by decide),
      indent_append_cons (by decide)]
    exact .raw hb (Scan.rawText?_indent_closed isBlank_brace hu hv)
  | group hb hg =>
    rw [indent_blanks hb, indent_cons (by decide)]
    exact .group hb (hG.group isBlank_brace hg)

/-- Arguments, one level deeper. -/
lemma Arguments.nest (hu : u.isBlankLine) (hG : G.Nests u G') {params : Params}
    {values : List (Option Text)} (hv : Arguments G params t values r) :
    Arguments G' params (indent u false t) (values.map (Option.map (indentOpen u false)))
      (indent u false r) := by
  induction hv with
  | nil => exact .nil
  | optional ho hv _ ih => exact .optional ho (hv.nest hu hG) ih
  | required ho hv _ ih => exact .required ho (hv.nest hu hG) ih

/-- Raw optional arguments stay on their line. -/
lemma Arguments.nest_raw {params : Params}
    (hp : ∀ slot ∈ params, slot.optional = true ∧ slot.raw = true) {values : List (Option Text)}
    (hv : Arguments G params t values r) :
    values.map (Option.map (indentOpen u false)) = values := by
  induction hv with
  | nil => rfl
  | @optional slot _ _ _ _ value _ ho hv _ ih =>
    have hvalue : value.map (indentOpen u false) = value := by
      rw [(hp slot List.mem_cons_self).2] at hv
      cases hv with
      | absent | rawOpen => rfl
      | raw _ hv =>
        have hn := Scan.newline_notMem_of_rawText? hv
        rw [Option.map_some, indentOpen_of_notMem hn]
        rfl
    rw [List.map_cons, hvalue, ih fun s hs => hp s (List.mem_cons_of_mem _ hs)]
  | @required slot _ _ _ _ _ _ ho =>
    have h := (hp slot List.mem_cons_self).1
    rw [ho] at h
    cases h

/-- A control sequence starts with text, and what follows it may start a line. -/
lemma ArgumentControl.nest (hu : u.isBlankLine) (hS : S.Nests u) (hG : G.Nests u G') {out : Text}
    (hc : ArgumentControl S.registry G t out r) :
    ArgumentControl S.registry G' (indent u false t) (indent u false out)
      (indent u (lineStart false out) r) ∧ out.starts (· != '\n') := by
  cases hc with
  | native hn hf =>
    rw [hn.indent_eq]
    exact ⟨.native (hn.nest u) hf, rfl⟩
  | command hn hf hv hg =>
    obtain ⟨hnl, hd⟩ := hS _ _ (Registry.find?_eq_command_iff.2 hf)
    cases hd with
    | command hc =>
      have hn' := hn.nest u
      rw [lineStart_of_notMem hnl] at hn'
      rw [hc.ends hg]
      exact ⟨.command hn' hf (hv.nest hu hG) (hc.generate hg), hc.starts hg⟩

/-- The blanks before a control sequence at the start of a line, and its output. -/
lemma pad_append_control {start : Bool} {text : Text} (ht : text.starts (· != '\n')) (out : Text) :
    pad u start ++ (indent u false text ++ indentOpen u (lineStart false text) out) =
      indentOpen u start (text ++ out) := by
  obtain ⟨hi, hl⟩ := indent_of_starts (u := u) start ht
  rw [indentOpen_append, hi, hl, List.append_assoc]

/-- A group, one level deeper: its lines are indented. -/
lemma Group.nest (hu : u.isBlankLine) (hS : S.Nests u) (hG : G.Nests u G') {close : Char}
    (hclose : isBlank close = false) {out : Text} (hg : Group S.registry G close t out r)
    (start : Bool) :
    Group S.registry G' close (indent u start t) (indentOpen u start out) (indent u false r) := by
  -- At the start of a line there is now an indentation to read over, which is plain text.
  have hrun {t out r : Text} (start : Bool) (h : Group S.registry G' close t out r) :
      Group S.registry G' close (pad u start ++ t) (pad u start ++ out) r :=
    .run (all_plain_of_isBlankLine (fun _ => isHorizontal_of_endsGroupRun hclose)
      (isBlankLine_pad hu start)) h
  have hnl := ne_newline_of_isBlank hclose
  induction hg generalizing start with
  | close =>
    rw [indent_cons hnl]
    simpa using hrun start .close
  | @char c t out r hc _ ih =>
    by_cases hcn : c = '\n'
    · subst hcn
      exact .char hc (ih true)
    · rw [indent_cons hcn, indentOpen_cons hcn]
      exact hrun start (.char hc (ih false))
  | group hne hb _ ih =>
    rw [indent_cons (by decide), List.cons_append, indentOpen_cons (by decide),
      indentOpen_append_cons (by decide), ← List.cons_append]
    exact hrun start (.group hne (hG.group isBlank_brace hb) (ih false))
  | control hne hc _ ih =>
    obtain ⟨hc', hs⟩ := hc.nest hu hS hG
    rw [indent_cons (by decide), ← pad_append_control hs]
    exact hrun start (.control hne hc' (ih _))
  | comment hne hn hr _ ih =>
    rw [indent_cons (by decide), indent_line_append hn, List.cons_append,
      indentOpen_cons (by decide), indentOpen_append, indent_of_notMem hn, lineStart_of_notMem hn,
      ← List.cons_append]
    exact hrun start (.comment hne hn (by rwa [atLineEnd_indent]) (ih false))

/-- Brackets that are not closed are not closed one level deeper, wherever the attempt ends. -/
lemma Brackets.nest (hu : u.isBlankLine) (hS : S.Nests u) (hG : G.Nests u G') {out : Option Text}
    (hb : Brackets S.registry G t out r) (start : Bool) :
    ∃ r', Brackets S.registry G' (indent u start t) (out.map (indentOpen u start)) r' ∧
      (out.isSome → r' = indent u false r) := by
  have hrun {t r : Text} {out : Option Text} (start : Bool) (h : Brackets S.registry G' t out r) :
      Brackets S.registry G' (pad u start ++ t) (out.map (pad u start ++ ·)) r :=
    .run (all_plain_of_isBlankLine (fun _ => isHorizontal_of_endsBracketRun)
      (isBlankLine_pad hu start)) h
  induction hb generalizing start with
  | @stop t hs =>
    -- The attempt ends at the end of the line, before or after the new indentation.
    cases t with
    | nil => exact ⟨[], .stop rfl, nofun⟩
    | cons c t =>
      by_cases hc : c = '\n'
      · subst hc
        exact ⟨_, .stop rfl, nofun⟩
      · rw [indent_cons hc]
        exact ⟨_, hrun start (.stop (by simpa using hs)), nofun⟩
  | close =>
    refine ⟨_, ?_, fun _ => rfl⟩
    rw [indent_cons (by decide)]
    simpa using hrun start .close
  | @char c t r out hc _ ih =>
    have hcn : c ≠ '\n' := by
      rintro rfl
      exact absurd hc (by decide)
    obtain ⟨r', hb, hr⟩ := ih false
    refine ⟨r', ?_, by simpa using hr⟩
    have hb' := hrun start (.char hc hb)
    rw [indent_cons hcn]
    cases out with
    | none => exact hb'
    | some out => simpa [indentOpen_cons hcn] using hb'
  | @group t body r r'' out hg _ ih =>
    obtain ⟨r', hb, hr⟩ := ih false
    refine ⟨r', ?_, by simpa using hr⟩
    have hb' := hrun start (.group (hG.group isBlank_brace hg) hb)
    rw [indent_cons (by decide)]
    cases out with
    | none => exact hb'
    | some out => simpa [indentOpen_cons, indentOpen_append_cons] using hb'
  | @brackets t body r r'' out hg _ ih =>
    obtain ⟨r', hb, hr⟩ := ih false
    refine ⟨r', ?_, by simpa using hr⟩
    have hb' := hrun start (.brackets (hG.group isBlank_bracket hg) hb)
    rw [indent_cons (by decide)]
    cases out with
    | none => exact hb'
    | some out => simpa [indentOpen_cons, indentOpen_append_cons] using hb'
  | @control t text r r'' out hc _ ih =>
    obtain ⟨hc', hs⟩ := hc.nest hu hS hG
    obtain ⟨r', hb, hr⟩ := ih (lineStart false text)
    refine ⟨r', ?_, by simpa using hr⟩
    have hb' := hrun start (.control hc' hb)
    rw [indent_cons (by decide)]
    cases out with
    | none => exact hb'
    | some out => simpa [← pad_append_control hs] using hb'

/-- The arguments of a control sequence without a definition end within a line. -/
lemma ArgumentText.nest (hG : G.Nests u G') {out : Text} (ha : ArgumentText G t out r) :
    ArgumentText G' (indent u false t) (indent u false out) (indent u false r) ∧
      lineStart false out = false := by
  induction ha with
  | stop hb hr =>
    rw [indent_blanks hb]
    exact ⟨.stop hb (by rwa [starts_indent]), rfl⟩
  | bracketsOpen hb hg =>
    rw [indent_blanks hb, indent_cons (by decide)]
    exact ⟨.bracketsOpen hb (hG.brackets hg), rfl⟩
  | @group blanks t body r out r' hb hg _ ih =>
    have hn := newline_notMem_of_isBlankLine hb
    constructor
    · have hg' := ArgumentText.group hb (hG.group isBlank_brace hg) ih.1
      rw [indent_line_append hn, indent_cons (by decide), List.append_assoc, List.cons_append,
        indent_line_append hn, indent_cons (by decide), indent_append_cons (by decide)]
      simpa using hg'
    · simpa [lineStart_append] using ih.2
  | @brackets blanks t body r out r' hb hg _ ih =>
    have hn := newline_notMem_of_isBlankLine hb
    constructor
    · have hg' := ArgumentText.brackets hb (hG.brackets hg) ih.1
      rw [indent_line_append hn, indent_cons (by decide), List.append_assoc, List.cons_append,
        indent_line_append hn, indent_cons (by decide), indent_append_cons (by decide)]
      simpa using hg'
    · simpa [lineStart_append] using ih.2

/-! ### Blocks -/

variable {level : Nat} {k k' : Config σ} {out : Text}

/-- Going to the next line keeps the unit. -/
lemma NextLine.keeps {o : Option Text} (hx : NextLine level k o k') :
    k.indentation.Keeps k'.indentation := by
  cases hx with
  | finished | trailing => exact .refl _
  | lower _ _ hi _ | same _ _ hi => exact .of_levelOf hi

/-- Going to the first line of a block keeps the unit. -/
lemma Enter.keeps {blank : Text} (he : Enter level k blank k') :
    k.indentation.Keeps k'.indentation := by
  cases he with
  | mk _ _ hi => exact .of_levelOf hi

/-- A literal line keeps the unit. -/
lemma RawLine.keeps (hl : RawLine k out k') : k.indentation.Keeps k'.indentation := by
  cases hl with
  | mk => exact .refl _

/-- A block keeps the unit if its lines do. -/
lemma Block.keeps {line : Config σ → Text → Config σ → Prop}
    (hline : ∀ {k out k'}, line k out k' → k.indentation.Keeps k'.indentation)
    (hb : Block line level k out k') : k.indentation.Keeps k'.indentation := by
  induction hb with
  | last hl hx => exact (hline hl).trans hx.keeps
  | more hl hx _ ih => exact ((hline hl).trans hx.keeps).trans ih

/-- Blank lines stand before the next line. -/
lemma NextLine.blankLines {blank : Text} (hx : NextLine level k (some blank) k') :
    BlankLines blank := by
  cases hx with
  | same hb hne _ => exact (exists_text_of_blankLines hb hne).1

/-- The next line, one level deeper. -/
lemma NextLine.nest (hu : Indentation.IsUnit u) {o : Option Text} (hx : NextLine level k o k')
    (hk : k.indentation.Fits u 0) (hk' : k'.indentation.Fits u 0) :
    NextLine (level + 1) (k.nest u false) (o.map (indent u true)) (k'.nest u o.isSome) ∧
      (o.isSome → k'.indentation.Fits u level) := by
  have hblank := hu.isBlankLine
  cases hx with
  | finished => exact ⟨.finished, nofun⟩
  | trailing ht => exact ⟨.trailing (indent_of_blankLines hblank ht), nofun⟩
  | @lower blank r i j h next hb hne hi hlt =>
    obtain ⟨happ, hb', hne', htake⟩ := blankLines_indent hblank hb hne
    obtain ⟨-, hi'⟩ := hk.levelOf hu hk' hi
    refine ⟨?_, nofun⟩
    simp only [Config.nest, indent_newline, happ]
    exact .lower hb' hne' (htake ▸ hi') (Nat.succ_lt_succ hlt)
  | @same blank r i j h hb hne hi =>
    obtain ⟨happ, hb', hne', htake⟩ := blankLines_indent hblank hb hne
    obtain ⟨hf, hi'⟩ := hk.levelOf hu hk' hi
    refine ⟨?_, fun _ => hf⟩
    simp only [Config.nest, indent_newline, happ]
    exact .same hb' hne' (htake ▸ hi')

/-- A block, one level deeper, if its lines are. -/
lemma Block.nest (hu : Indentation.IsUnit u) {line line' : Config σ → Text → Config σ → Prop}
    (hline : ∀ {k out k'}, line k out k' → k.indentation.Fits u level → k'.indentation.Fits u 0 →
      line' (k.nest u true) (indent u true out) (k'.nest u false))
    (hkeeps : ∀ {k out k'}, line k out k' → k.indentation.Keeps k'.indentation)
    (hb : Block line level k out k') (hk : k.indentation.Fits u level)
    (hk' : k'.indentation.Fits u 0) :
    Block line' (level + 1) (k.nest u true) (indent u true out) (k'.nest u false) := by
  induction hb with
  | last hl hx =>
    have hk₁ := hk'.of_keeps hx.keeps
    exact .last (hline hl hk hk₁) (hx.nest hu hk₁ hk').1
  | @more k k₁ k₂ k₃ text blank out hl hx hb ih =>
    -- A unit once set is kept, so one that fits in the end fitted all the way.
    have hk₂ := hk'.of_keeps (hb.keeps hkeeps)
    have hk₁ := hk₂.of_keeps hx.keeps
    obtain ⟨hx', hf⟩ := hx.nest hu hk₁ hk₂
    have hout : indent u true (text ++ '\n' :: blank ++ out) =
        indent u true text ++ '\n' :: indent u true blank ++ indent u true out := by
      rw [indent_append, indent_append, indent_newline, lineStart_append, lineStart_cons]
      rw [show ('\n' == '\n') = true from rfl, hx.blankLines.lineStart_eq]
    rw [hout]
    exact .more (hline hl hk hk₁) hx' (ih (hf rfl) hk')

/-- From the end of a line, blank lines start with a newline. -/
lemma Enter.exists_cons {blank : Text} (he : Enter level k blank k') (hk : k.rest.atLineEnd) :
    BlankLines blank ∧ ∃ b, blank = '\n' :: b := by
  cases he with
  | mk hb hne hi =>
    obtain ⟨hblank, w, c, r, hw, hc, hn, rfl⟩ := exists_text_of_blankLines hb hne
    refine ⟨hblank, ?_⟩
    cases blank with
    | nil =>
      cases w with
      | nil => exact absurd (by simpa using hk) hn
      | cons a w =>
        obtain rfl : a = '\n' := by simpa using hk
        exact absurd hw (by simp [isBlankLine, isHorizontal])
    | cons a b =>
      obtain rfl : a = '\n' := by simpa using hk
      exact ⟨b, rfl⟩

/-- The first line of a block, one level deeper. -/
lemma Enter.nest (hu : Indentation.IsUnit u) {blank : Text} (he : Enter level k blank k')
    (hr : k.rest.atLineEnd) (hk : k.indentation.Fits u 0) (hk' : k'.indentation.Fits u 0) :
    Enter (level + 1) (k.nest u false) (indent u true blank) (k'.nest u true) ∧
      k'.indentation.Fits u (level + 1) := by
  cases he with
  | mk hb hne hi =>
    obtain ⟨happ, hb', hne', htake⟩ := blankLines_indent hu.isBlankLine hb hne
    obtain ⟨hf, hi'⟩ := hk.levelOf hu hk' hi
    refine ⟨?_, hf⟩
    simp only [Config.nest, ← indent_of_atLineEnd true hr, happ]
    exact .mk hb' hne' (htake ▸ hi')

/-- The first line of a block has the margin of its level. -/
lemma Enter.prefix_of (hu : Indentation.IsUnit u) {blank : Text} (he : Enter level k blank k')
    (hk : k.indentation.Fits u 0) (hk' : k'.indentation.Fits u 0) :
    u.times (level + 1) <+: k'.rest := by
  cases he with
  | mk _ _ hi =>
    rw [← hk.eq_times hu hk' hi]
    exact List.takeWhile_prefix _

/-! ### Literal lines -/

/-- A literal line, one level deeper. -/
lemma RawLine.nest (hu : u.isBlankLine) (hl : RawLine k out k') (start : Bool) :
    RawLine (k.nest u start) (indent u start out) (k'.nest u false) := by
  cases hl with
  | mk hn hr =>
    simp only [Config.nest, indent_append, indent_of_atLineEnd _ hr]
    exact .mk (newline_notMem_indent (newline_notMem_of_isBlankLine hu) hn)
      (by rwa [atLineEnd_indent])

/-- A literal line has no newline. -/
lemma RawLine.newline_notMem (hl : RawLine k out k') : '\n' ∉ out := by
  cases hl with
  | mk hn _ => exact hn

/-- A literal line goes to the end of its line. -/
lemma RawLine.atLineEnd (hl : RawLine k out k') : k'.rest.atLineEnd := by
  cases hl with
  | mk _ hr => exact hr

/-- A literal line starts as the text does. -/
lemma RawLine.prefix_of {m : Text} (hl : RawLine k out k') (hm : '\n' ∉ m) (hk : m <+: k.rest) :
    m <+: out := by
  cases hl with
  | mk hn hr =>
    obtain ⟨x, hx⟩ := hk
    rcases List.append_eq_append_iff.1 hx with ⟨a, ha, -⟩ | ⟨a, rfl, ha⟩
    · exact ⟨a, ha.symm⟩
    · cases a with
      | nil => simp
      -- A line that ends within the margin would put a newline into the margin.
      | cons c a =>
        rw [ha] at hr
        obtain rfl : c = '\n' := by simpa using hr
        simp at hm

/-- The lines of a literal block are blank or have the margin of the block. -/
lemma Block.lines_of_raw (hu : Indentation.IsUnit u) (hb : Block RawLine level k out k')
    (hk : k.indentation.Fits u 0) (hk' : k'.indentation.Fits u 0) (hr : u.times level <+: k.rest) :
    ∀ l ∈ splitLines out, l.isBlankLine ∨ u.times level <+: l := by
  have hm := newline_notMem_of_isBlankLine (hu.isBlankLine_times level)
  induction hb with
  | @last k k₁ k₂ text hl hx =>
    have hp := hl.prefix_of hm hr
    intro l hmem
    rw [splitLines_of_notMem hl.newline_notMem, List.mem_singleton] at hmem
    exact hmem ▸ Or.inr hp
  | @more k k₁ k₂ k₃ text blank out hl hx hb ih =>
    have hk₂ := hk'.of_keeps (hb.keeps RawLine.keeps)
    have hk₁ := hk₂.of_keeps hx.keeps
    have hp := hl.prefix_of hm hr
    have hn := hl.newline_notMem
    have hr₂ : u.times level <+: k₂.rest := by
      cases hx with
      | same _ _ hi =>
        rw [← hk₁.eq_times hu hk₂ hi]
        exact List.takeWhile_prefix _
    intro l hl
    rw [List.append_assoc, List.cons_append, splitLines_line hn, List.mem_cons] at hl
    rcases hl with rfl | hl
    · exact Or.inr hp
    · rcases hx.blankLines.splitLines_append hl with hl | hl
      · exact Or.inl hl
      · exact ih hk₂ hk' hr₂ l hl

/-! ### Bodies -/

/-- A literal body keeps the unit. -/
lemma RawBody.keeps {body : Scan.Body} (hb : RawBody level k body k') :
    k.indentation.Keeps k'.indentation := by
  cases hb with
  | oneLine _ _ _ hl =>
    exact (hl.keeps :)
  | block _ he hl =>
    exact (he.keeps.trans (hl.keeps RawLine.keeps) :)

section Keeps

variable (hline : ∀ {level stop k out k'}, G.line level stop k out k' →
  k.indentation.Keeps k'.indentation)

include hline

/-- A body keeps the unit. -/
lemma EnvironmentBody.keeps {body : Scan.Body}
    (hb : EnvironmentBody G level k body k') : k.indentation.Keeps k'.indentation := by
  cases hb with
  | oneLine _ _ _ _ hl =>
    exact (hline hl :)
  | block _ he hl =>
    exact (he.keeps.trans (hl.keeps hline) :)
  | comment _ _ _ he hl =>
    exact (he.keeps.trans (hl.keeps hline) :)

/-- The body of a registered environment keeps the unit. -/
lemma CustomBody.keeps {raw : Bool} {body : Scan.Body}
    (hb : CustomBody G level raw k body k') : k.indentation.Keeps k'.indentation := by
  cases hb with
  | raw hb => exact hb.keeps
  | interpreted hb => exact hb.keeps hline

/-- A control sequence keeps the unit. -/
lemma Control.keeps (hc : Control S G level k out k') :
    k.indentation.Keeps k'.indentation := by
  cases hc with
  | command | symbol | plain => exact .refl _
  | environment _ _ _ _ hbody _ =>
    exact (hbody.keeps hline :)
  | native _ _ _ _ _ hbody =>
    exact (hbody.keeps hline :)

/-- A line keeps the unit. -/
lemma Line.keeps {stop : Bool}
    (hl : Line S G level stop k out k') : k.indentation.Keeps k'.indentation := by
  induction hl with
  | done => exact .refl _
  | char _ _ ih | comment _ _ _ _ ih | group _ _ ih => exact ih
  | control hc _ ih =>
    exact .trans (hc.keeps hline :) ih

end Keeps

/-- The lines of the body of an environment one level deeper. -/
lemma Nests.block (hu : Indentation.IsUnit u) (hG : G.Nests u G')
    (hb : Block (G.line level false) level k out k') (hk : k.indentation.Fits u level)
    (hk' : k'.indentation.Fits u 0) :
    Block (G'.line (level + 1) false) (level + 1) (k.nest u true) (indent u true out)
      (k'.nest u false) := by
  refine hb.nest hu (fun hl hk hk' => ?_) hG.keeps hk hk'
  have hl' := hG.line true hl hk hk'
  rwa [lead_of_atLineEnd (hG.ends hl), List.append_nil] at hl'

/-- Blank lines and a block after them. -/
lemma indent_enter {blank : Text} (he : Enter level k blank k') (hr : k.rest.atLineEnd)
    (text : Text) :
    indent u false (blank ++ text) = indent u true blank ++ indent u true text := by
  obtain ⟨hblank, b, rfl⟩ := he.exists_cons hr
  rw [indent_append, indent_newline, indent_newline, lineStart_cons]
  rw [show ('\n' == '\n') = true from rfl, show lineStart true b = true from hblank.lineStart_eq]

/-- A body, one level deeper: its text is indented up to the closing marker. -/
lemma EnvironmentBody.nest (hu : Indentation.IsUnit u) (hG : G.Nests u G') {body : Scan.Body}
    (hb : EnvironmentBody G level k body k') (hk : k.indentation.Fits u level)
    (hk' : k'.indentation.Fits u 0) :
    ∃ body', EnvironmentBody G' (level + 1) (k.nest u false) body' (k'.nest u false) ∧
      closed (level + 1) (.ofUnit u) body' = indentOpen u false (closed level k'.indentation body) := by
  have hf := hk.keeps (hb.keeps hG.keeps) hk'
  have hm := newline_notMem_of_isBlankLine (hf.isBlankLine_margin hu)
  -- The end of the environment after a block has a line of its own.
  have hclosed : ∀ text : Text, indentOpen u false (text ++ '\n' :: k'.indentation.margin level) =
      indent u false text ++ '\n' :: (Indentation.ofUnit u).margin (level + 1) := by
    intro text
    rw [indentOpen_append, indentOpen_newline, indentOpen_of_notMem hm, hf.margin, pad_true]
  cases hb with
  | @oneLine blanks r text c i h _ hblanks hc hn hp hl =>
    refine ⟨⟨indent u false text ++ lead u (lineStart false text) k'.rest, false⟩, ?_, ?_⟩
    · have hl' := hG.line false hl hk hk'
      simp only [Config.nest, indent_cons hn, pad_false, List.nil_append] at hl'
      simp only [Config.nest, indent_blanks hblanks,
        indent_cons hn, pad_false, List.nil_append]
      exact .oneLine hblanks hc hn hp hl'
    · change indent u false text ++ lead u (lineStart false text) k'.rest = indentOpen u false text
      -- The end of the environment goes on with the last line of a tidy body.
      rw [lead]
      split
      case isTrue hend => rw [indentOpen, hG.tidy hl hend, pad_false]
      case isFalse => rfl
  | @block blanks r blank text i h k₁ _ hblanks he hl =>
    have hk₁ := hk'.of_keeps (hl.keeps hG.keeps)
    obtain ⟨he', hf₁⟩ := he.nest hu rfl (hk₁.of_keeps he.keeps) hk₁
    refine ⟨⟨indent u true blank ++ indent u true text, true⟩, ?_, ?_⟩
    · simp only [Config.nest, indent_blanks hblanks,
        indent_newline]
      exact .block hblanks he' (hG.block hu hl hf₁ hk')
    · change indent u true blank ++ indent u true text ++ '\n' :: _ =
        indentOpen u false (blank ++ text ++ '\n' :: _)
      rw [hclosed, indent_enter he rfl]
  | @comment blanks note r blank text i h k₁ _ hblanks hn hr he hl =>
    have hk₁ := hk'.of_keeps (hl.keeps hG.keeps)
    obtain ⟨he', hf₁⟩ := he.nest hu hr (hk₁.of_keeps he.keeps) hk₁
    have hm₁ := newline_notMem_of_isBlankLine (hf₁.isBlankLine_margin hu)
    refine ⟨⟨'\n' :: (Indentation.ofUnit u).margin (level + 1 + 1) ++ '%' :: note ++
      indent u true blank ++ indent u true text, true⟩, ?_, ?_⟩
    · simp only [Config.nest, indent_blanks hblanks]
      rw [indent_cons (by decide), indent_line_append hn]
      exact .comment hblanks hn (by rwa [atLineEnd_indent]) he' (hG.block hu hl hf₁ hk')
    · change '\n' :: (Indentation.ofUnit u).margin (level + 1 + 1) ++ '%' :: note ++
          indent u true blank ++ indent u true text ++ '\n' :: _ =
        indentOpen u false ('\n' :: k₁.indentation.margin (level + 1) ++ '%' :: note ++ blank ++
          text ++ '\n' :: _)
      rw [hclosed, hf₁.margin]
      simp only [List.append_assoc, List.cons_append, indent_newline]
      rw [indent_append_cons (by decide), indentOpen_of_notMem hm₁, indent_line_append hn,
        indent_enter he hr]
      simp

/-- A literal body, one level deeper: moved to the left it is the same. -/
lemma RawBody.nest (hu : Indentation.IsUnit u) {body : Scan.Body} (hb : RawBody level k body k')
    (hk : k.indentation.Fits u 0) (hk' : k'.indentation.Fits u 0) :
    ∃ body', RawBody (level + 1) (k.nest u false) body' (k'.nest u false) ∧
      dedented (level + 1) (.ofUnit u) body' = dedented level k'.indentation body ∧
      k'.rest.atLineEnd := by
  cases hb with
  | @oneLine blanks r text c i h _ hblanks hc hn hl =>
    refine ⟨⟨text, false⟩, ?_, rfl, ?_⟩
    · have hl' := hl.nest hu.isBlankLine false
      simp only [Config.nest, indent_cons hn, pad_false, List.nil_append,
        indent_of_notMem hl.newline_notMem] at hl'
      simp only [Config.nest, indent_blanks hblanks,
        indent_cons hn, pad_false, List.nil_append]
      exact .oneLine hblanks hc hn hl'
    · exact hl.atLineEnd
  | @block blanks r blank text i h k₁ _ hblanks he hl =>
    have hk₁ := hk'.of_keeps (hl.keeps RawLine.keeps)
    have hk₀ := hk₁.of_keeps he.keeps
    obtain ⟨he', hf₁⟩ := he.nest hu rfl hk₀ hk₁
    have hf : k'.indentation.Fits u (level + 1) := hf₁.keeps (hl.keeps RawLine.keeps) hk'
    have hl' := hl.nest hu (fun h _ _ => h.nest hu.isBlankLine true) RawLine.keeps hf₁ hk'
    refine ⟨⟨indent u true blank ++ indent u true text, true⟩, ?_, ?_, hl.atLineEnd⟩
    · simp only [Config.nest, indent_blanks hblanks,
        indent_newline]
      exact .block hblanks he' hl'
    · -- What the deeper block has more is what it loses more when it is moved to the left.
      have hr₁ := he.prefix_of hu hk₀ hk₁
      have hmargin : k'.indentation.margin (level + 1) = u.times (level + 1) := by
        rw [hf.eq_ofUnit]
        rfl
      change dedentBlock ((Indentation.ofUnit u).margin (level + 1 + 1)) _ =
        dedentBlock (k'.indentation.margin (level + 1)) (blank ++ text)
      rw [hf.margin, ← indent_enter he rfl, hmargin]
      refine dedentBlock_indent hu.isBlankLine fun l hmem => ?_
      rcases (he.exists_cons rfl).1.splitLines_append hmem with hblank | hmem
      · exact Or.inl hblank
      · exact hl.lines_of_raw hu hk₁ hk' hr₁ l hmem

/-! ### Lines -/

/-- An environment is a text that starts and ends within a line, apart from its arguments and its
body. -/
lemma environment_eq {name : Text} (hn : '\n' ∉ name) : ∃ opening closing : Text, '\n' ∉ opening ∧
    '\n' ∉ closing ∧ ∀ args body, Markup.environment name args body =
      '\\' :: opening ++ (args ++ (body ++ '\\' :: closing)) := by
  have hbegin : "\\begin\x7b".toList = '\\' :: "begin\x7b".toList := by decide
  have hend : "\\end\x7b".toList = '\\' :: "end\x7b".toList := by decide
  have hb : '\n' ∉ "begin\x7b".toList := by decide
  have he : '\n' ∉ "end\x7b".toList := by decide
  unfold Markup.environment
  rw [hbegin, hend]
  generalize "begin\x7b".toList = b at hb ⊢
  generalize "end\x7b".toList = e at he ⊢
  refine ⟨b ++ name ++ ['\x7d'], e ++ name ++ ['\x7d'], ?_, ?_, fun args body => ?_⟩
  · simp [hb, hn]
  · simp [he, hn]
  · simp

/-- An environment is indented by indenting its arguments and its body, after which the line goes
on with the end of the environment. -/
lemma indent_environment {name args : Text} (hn : '\n' ∉ name) (ha : lineStart false args = false)
    (body : Text) :
    indent u false (Markup.environment name args body) =
        Markup.environment name (indent u false args) (indentOpen u false body) ∧
      lineStart false (Markup.environment name args body) = false ∧
      (Markup.environment name args body).starts (· != '\n') := by
  obtain ⟨opening, closing, ho, hc, heq⟩ := environment_eq hn
  have hopening : '\n' ∉ '\\' :: opening := by simp [ho]
  rw [heq, heq]
  refine ⟨?_, ?_, rfl⟩
  · rw [indent_line_append hopening, indent_append, ha, indent_append_cons (by decide),
      indent_of_notMem hc]
  · rw [lineStart_append, lineStart_append, lineStart_append, lineStart_cons]
    exact lineStart_of_notMem hc

/-- The name of a control sequence within a line. -/
lemma ControlName.nest_within {name : Text} (hn : ControlName t name r) (hnl : '\n' ∉ name) :
    ControlName (indent u false t) name (indent u false r) := by
  have hn' := hn.nest u
  rwa [lineStart_of_notMem hnl] at hn'

/-- The output of a registered environment moves to the margin of the deeper level. -/
lemma indentTail_nest (hu : Indentation.IsUnit u) {j : Indentation} (hf : j.Fits u level) :
    indentTail ((Indentation.ofUnit u).margin (level + 1)) out =
      indent u false (indentTail (j.margin level) out) := by
  have hm := newline_notMem_of_isBlankLine (hf.isBlankLine_margin hu)
  have hum : '\n' ∉ u ++ j.margin level := by
    simp [newline_notMem_of_isBlankLine hu.isBlankLine, hm]
  rw [hf.margin, indentTail_eq hum, indentTail_eq hm, indent_indent hm]

/-- A control sequence starts with text, and what follows it may start a line. -/
lemma Control.nest (hu : Indentation.IsUnit u) (hS : S.Nests u) (hG : G.Nests u G')
    (hc : Control S G level k out k') (hk : k.indentation.Fits u level)
    (hk' : k'.indentation.Fits u 0) :
    Control S G' (level + 1) (k.nest u false) (indent u false out)
      (k'.nest u (lineStart false out)) ∧ out.starts (· != '\n') := by
  have hf := hk.keeps (hc.keeps hG.keeps) hk'
  cases hc with
  | command hn hd hv hg =>
    obtain ⟨hnl, hd'⟩ := hS _ _ hd
    cases hd' with
    | command hc =>
      rw [hc.ends hg]
      exact ⟨.command (hn.nest_within hnl) hd (hv.nest hu.isBlankLine hG) (hc.generate hg),
        hc.starts hg⟩
  | @environment t name r blanks r' out e values i j h h' h'' body r'' hn hd hv hb hbody hrun =>
    obtain ⟨hnl, hd'⟩ := hS _ _ hd
    cases hd' with
    | environment he =>
      have hv' := hv.nest hu.isBlankLine hG
      rw [hv.nest_raw he.slots, indent_blanks hb,
        indent_cons (by decide)] at hv'
      rw [he.raw] at hbody
      cases hbody with
      | raw hbody =>
        obtain ⟨body', hbody', hdedent, hend⟩ := hbody.nest hu (hk'.of_keeps hbody.keeps) hk'
        obtain ⟨hrun', hs⟩ := he.generate (Indentation.ofUnit u).unitText hrun
        rw [← hdedent] at hrun'
        have hcustom := CustomBody.raw (G := G') hbody'
        rw [← he.raw] at hcustom
        -- A literal body ends at the end of a line, so it does not matter how its output ends.
        have hm := newline_notMem_of_isBlankLine (hf.isBlankLine_margin hu)
        rw [← indentTail_nest hu hf, indentTail_eq hm, starts_indent]
        refine ⟨?_, hs⟩
        simp only [Config.nest, indent_of_atLineEnd _ hend]
        exact .environment (hn.nest_within hnl) hd hv' hb hcustom hrun'
  | symbol hn hd ha =>
    rw [hn.indent_eq]
    exact ⟨.symbol (hn.nest u) hd ha, rfl⟩
  | @plain t name r args blanks r' i h hn hd ha hargs hb hr =>
    have hnl := newline_notMem_of_isAlphabetic ha
    have hnb := newline_notMem_of_isBlankLine hb
    obtain ⟨hargs', hend⟩ := hargs.nest hG
    rw [indent_line_append hnb] at hargs'
    have hcontrol : '\n' ∉ Markup.control name := by simp [Markup.control, hnl]
    refine ⟨?_, rfl⟩
    rw [indent_line_append hcontrol, lineStart_append, lineStart_of_notMem hcontrol, hend]
    simp only [Config.nest, indent_line_append hnb]
    exact .plain (hn.nest_within hnl) hd ha hargs' hb (by rwa [starts_indent])
  | @native t name r args blanks r' i h body _ hn hd ha hargs hb hbody =>
    have hnl := newline_notMem_of_isAlphabetic ha
    obtain ⟨hargs', hend⟩ := hargs.nest hG
    rw [indent_blanks hb, indent_cons (by decide)] at hargs'
    obtain ⟨body', hbody', hclosed⟩ := hbody.nest hu hG hk hk'
    obtain ⟨henv, hwithin, hs⟩ :=
      indent_environment (u := u) hnl hend (closed level k'.indentation body)
    refine ⟨?_, hs⟩
    rw [hwithin, henv, ← hclosed]
    have hc := Control.native (S := S) (hn.nest_within hnl) hd ha hargs' hb hbody'
    exact hc

/-- A line one level deeper. Its output is followed by the indentation of what is left, if a comment
stops it at the start of a line. -/
lemma Line.nest (hu : Indentation.IsUnit u) (hS : S.Nests u) (hG : G.Nests u G') {stop : Bool}
    (hl : Line S G level stop k out k') (hk : k.indentation.Fits u level)
    (hk' : k'.indentation.Fits u 0) (start : Bool) :
    Line S G' (level + 1) stop (k.nest u start)
      (indent u start out ++ lead u (lineStart start out) k'.rest) (k'.nest u false) := by
  have hrun {t out : Text} {i : Indentation} {h : σ} {k : Config σ} (start : Bool)
      (hl : Line S G' (level + 1) stop ⟨t, i, h⟩ out k) :
      Line S G' (level + 1) stop ⟨pad u start ++ t, i, h⟩ (pad u start ++ out) k :=
    .run (run_of_isBlankLine (isBlankLine_pad hu.isBlankLine start)) hl
  induction hl generalizing start with
  | @done k hd =>
    rw [Config.nest, indent_eq_lead]
    exact .run_done (run_of_isBlankLine (isBlankLine_lead hu.isBlankLine start k.rest))
      (by rwa [atLineEnd_indent, starts_indent])
  | @char c t out i h k hc _ ih =>
    have hcn : c ≠ '\n' := by
      rintro rfl
      exact absurd hc (by decide)
    have hf : (c == '\n') = false := by simpa using hcn
    rw [Config.nest, indent_cons hcn, indent_cons hcn, lineStart_cons, hf, List.append_assoc]
    exact hrun start (.char hc (ih hk hk' false))
  | @comment note r out i h k hs hn hr _ ih =>
    have hout : lineStart start ('%' :: note ++ out) = lineStart false out := by
      rw [lineStart_append]
      exact congrArg (lineStart · out) (lineStart_of_notMem hn)
    rw [Config.nest, indent_cons (by decide), hout, List.cons_append, indent_cons (by decide),
      indent_line_append hn, indent_line_append hn, List.append_assoc, List.cons_append,
      List.append_assoc, ← List.cons_append]
    exact hrun start (.comment hs hn (by rwa [atLineEnd_indent]) (ih hk hk' false))
  | @control t text out i h k k' hc hl ih =>
    have hk₁ := hk'.of_keeps (hl.keeps hG.keeps)
    obtain ⟨hc', hs⟩ := hc.nest hu hS hG hk hk₁
    obtain ⟨hi, hstart⟩ := indent_of_starts (u := u) start hs
    rw [Config.nest, indent_cons (by decide), indent_append, lineStart_append, hi, hstart,
      List.append_assoc, List.append_assoc]
    exact hrun start (.control hc' (ih (hk.keeps (hc.keeps hG.keeps) hk₁) hk' _))
  | @group t body r out i h k hg _ ih =>
    have hout : lineStart start ('\x7b' :: body ++ '\x7d' :: out) = lineStart false out := by
      rw [lineStart_append, lineStart_cons]
      rfl
    rw [Config.nest, indent_cons (by decide), hout, List.cons_append, indent_cons (by decide),
      indent_append_cons (by decide), List.append_assoc, List.cons_append, List.append_assoc,
      List.cons_append, ← List.cons_append]
    exact hrun start (.group (hG.group isBlank_brace hg) (ih hk hk' false))

/-! ### Nesting levels -/

/-- What a tidy level above reads. -/
lemma Nests.above (hu : Indentation.IsUnit u) (hS : S.Nests u) (hG : G.Nests u G') :
    (above S G).tidy.Nests u (Grammar.above S G') where
  group hclose hg := hg.nest hu.isBlankLine hS hG hclose false
  brackets := by
    rintro t r out ⟨r', hb, rfl⟩
    obtain ⟨r'', hb', hr⟩ := hb.nest hu.isBlankLine hS hG false
    refine ⟨r'', hb', ?_⟩
    cases out with
    | none => rfl
    | some out => exact (hr rfl).symm
  line start hl hk hk' := hl.1.nest hu hS hG hk hk' start
  keeps hl := hl.1.keeps hG.keeps
  ends hl := hl.1.atLineEnd
  tidy hl hr := by
    have hb := hl.2
    simpa [Scan.breaksOff, hr] using hb

/-- Whatever is read with some room for nesting is read one indentation level deeper. -/
theorem tidyRoom_nests (hu : Indentation.IsUnit u) (hS : S.Nests u) (n : Nat) :
    (tidyRoom S n).Nests u (ofRoom S n) := by
  induction n with
  | zero =>
    exact { group := nofun, brackets := nofun, line := nofun, keeps := nofun, ends := nofun,
            tidy := nofun }
  | succ n ih => exact ih.above hu hS

end Grammar

end IndentTex
