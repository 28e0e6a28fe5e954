import IndentTex.Proofs.Text
import IndentTex.Scan.Document

/-!
# The grammar of what is read

What a run reads when it succeeds, said without cursors, bounds and loops: which text is read, which
output it gives and what is left. There is a relation for each reader. A reader that is not the
start of a group, of brackets or of a line at the next nesting level is described by rules over the
`Grammar` of that level, and `Grammar.ofRoom` puts the levels together.

Groups and arguments are about texts alone. Lines and bodies also measure indentations and call the
executor, so their relations are between configurations.
-/

namespace IndentTex

/-! ### Raw texts -/

namespace Scan

variable {close c : Char} {oneLine : Bool} {t v : Text}

/-- A backslash and the character after it are part of a literal text together. -/
lemma rawText?_pair : rawText? close oneLine ('\\' :: c :: t) =
    if oneLine ∧ c = '\n' then none else (rawText? close oneLine t).map ('\\' :: c :: ·) := by
  rw [rawText?]

/-- Any other character ends a literal text or is part of it. -/
lemma rawText?_char (hc : c ≠ '\\') : rawText? close oneLine (c :: t) =
    if c = close then some []
    else if oneLine ∧ c = '\n' then none
    else (rawText? close oneLine t).map (c :: ·) := by
  rw [rawText?]
  · rw [if_neg hc]
  · exact fun _ _ he _ => hc he

/-- A raw text stands before the character that closes it. -/
lemma rawText?_eq (h : rawText? close oneLine t = some v) :
    t = v ++ close :: t.drop (v.length + 1) := by
  fun_induction rawText? close oneLine t generalizing v with
  | case1 | case2 | case4 | case6 => cases h
  | case5 => cases h; simp
  | case3 _ _ _ ih | case7 _ _ _ _ _ _ ih =>
    obtain ⟨w, hw, rfl⟩ := Option.map_eq_some_iff.1 h
    simpa using ih hw

/-- A raw text does not depend on what follows the character that closes it. -/
lemma rawText?_append (h : rawText? close oneLine t = some v) (x : Text) :
    rawText? close oneLine (t ++ x) = some v := by
  fun_induction rawText? close oneLine t generalizing v with
  | case1 | case2 | case4 | case6 => cases h
  | case3 c t hn ih =>
    obtain ⟨w, hw, rfl⟩ := Option.map_eq_some_iff.1 h
    rw [List.cons_append, List.cons_append, rawText?_pair, if_neg hn, ih hw]
    rfl
  | case5 t _ hb =>
    cases h
    rw [List.cons_append, rawText?_char hb, if_pos rfl]
  | case7 c t _ hb hc hn ih =>
    obtain ⟨w, hw, rfl⟩ := Option.map_eq_some_iff.1 h
    rw [List.cons_append, rawText?_char hb, if_neg hc, if_neg hn, ih hw]
    rfl

/-- A raw text that must end on its line does not depend on further lines. -/
lemma rawText?_none (hclose : close ≠ '\n') (h : rawText? close true t = none) (y : Text) :
    rawText? close true (t ++ '\n' :: y) = none := by
  fun_induction rawText? close true t with
  | case1 =>
    rw [List.nil_append, rawText?_char (by decide), if_neg (Ne.symm hclose), if_pos (by simp)]
  | case2 c t hn =>
    rw [List.cons_append, List.cons_append, rawText?_pair, if_pos hn]
  | case3 c t hn ih =>
    rw [List.cons_append, List.cons_append, rawText?_pair, if_neg hn,
      ih (Option.map_eq_none_iff.1 h)]
    rfl
  | case4 t hpair =>
    cases t with
    | nil => rw [List.cons_append, List.nil_append, rawText?_pair, if_pos (by simp)]
    | cons c t => exact absurd rfl (hpair c t rfl)
  | case5 => cases h
  | case6 c t _ hb hc hn =>
    rw [List.cons_append, rawText?_char hb, if_neg hc, if_pos hn]
  | case7 c t _ hb hc hn ih =>
    rw [List.cons_append, rawText?_char hb, if_neg hc, if_neg hn,
      ih (Option.map_eq_none_iff.1 h)]
    rfl

end Scan

/-! ### Configurations -/

/-- What the rest of a run depends on: what is still to be read, the indentation unit and the state
of the executor. -/
structure Config (σ : Type) where
  rest : Text
  indentation : Indentation
  host : σ

/-- The configuration of a state. -/
def State.config {σ : Type} (s : State σ) : Config σ := ⟨s.cursor.rest, s.indentation, s.host⟩

/-- What can be read at a nesting level. -/
structure Grammar (σ : Type) where
  /-- `group close t out r`: the group at the start of `t` ends with `close` and gives `out`, and
  `r` follows it. -/
  group : Char → Text → Text → Text → Prop
  /-- The inside of brackets, or nothing where they are not closed. -/
  brackets : Text → Option Text → Text → Prop
  /-- A line at an indentation level, which a comment ends if the flag is set. -/
  line : Nat → Bool → Config σ → Text → Config σ → Prop

namespace Grammar

variable {σ : Type}

/-- `ControlName t name r`: the control sequence `name` is read from `t`. -/
inductive ControlName : Text → Text → Text → Prop where
  | word {name r : Text} : name ≠ [] → name.all isAlphabetic → r.starts isAlphabetic = false →
    ControlName (name ++ r) name r
  | symbol {c : Char} {r : Text} : isAlphabetic c = false → ControlName (c :: r) [c] r

/-! ### Arguments -/

/-- An optional argument, raw or not. -/
inductive Optional (G : Grammar σ) : Bool → Text → Option Text → Text → Prop where
  | absent {raw : Bool} {blanks r : Text} : blanks.isBlankLine →
    r.starts (fun c => isHorizontal c || c == '[') = false →
    Optional G raw (blanks ++ r) none (blanks ++ r)
  | raw {blanks content r : Text} : blanks.isBlankLine →
    Scan.rawText? ']' true (content ++ ']' :: r) = some content →
    Optional G true (blanks ++ '[' :: (content ++ ']' :: r)) (some content) r
  | rawOpen {blanks r : Text} : blanks.isBlankLine → Scan.rawText? ']' true r = none →
    Optional G true (blanks ++ '[' :: r) none (blanks ++ '[' :: r)
  | brackets {blanks content r r' : Text} : blanks.isBlankLine →
    G.brackets r (some content) r' → Optional G false (blanks ++ '[' :: r) (some content) r'
  | bracketsOpen {blanks r r' : Text} : blanks.isBlankLine → G.brackets r none r' →
    Optional G false (blanks ++ '[' :: r) none (blanks ++ '[' :: r)

/-- A required argument, raw or not. -/
inductive Required (G : Grammar σ) : Bool → Text → Text → Text → Prop where
  | raw {blanks content r : Text} : blanks.isBlankLine →
    Scan.rawText? '\x7d' false (content ++ '\x7d' :: r) = some content →
    Required G true (blanks ++ '\x7b' :: (content ++ '\x7d' :: r)) content r
  | group {blanks content r r' : Text} : blanks.isBlankLine → G.group '\x7d' r content r' →
    Required G false (blanks ++ '\x7b' :: r) content r'

/-- The arguments for a list of slots. -/
inductive Arguments (G : Grammar σ) : Params → Text → List (Option Text) → Text → Prop where
  | nil {t : Text} : Arguments G [] t [] t
  | optional {slot : Slot} {slots : Params} {t r r' : Text} {value : Option Text}
    {values : List (Option Text)} : slot.optional = true → Optional G slot.raw t value r →
    Arguments G slots r values r' → Arguments G (slot :: slots) t (value :: values) r'
  | required {slot : Slot} {slots : Params} {t r r' value : Text}
    {values : List (Option Text)} : slot.optional = false → Required G slot.raw t value r →
    Arguments G slots r values r' → Arguments G (slot :: slots) t (some value :: values) r'

/-- A control sequence inside a group or argument, from after its backslash. -/
inductive ArgumentControl (registry : Registry) (G : Grammar σ) : Text → Text → Text → Prop where
  | native {t name r : Text} : ControlName t name r → registry.command? name = none →
    ArgumentControl registry G t (Markup.control name) r
  | command {t name r r' out : Text} {c : Command} {values : List (Option Text)} :
    ControlName t name r → registry.command? name = some c → Arguments G c.params r values r' →
    c.generate values = .ok out → ArgumentControl registry G t out r'

/-- The inside of a group, with `close` at its end. -/
inductive Group (registry : Registry) (G : Grammar σ) (close : Char) :
    Text → Text → Text → Prop where
  | close {r : Text} : Group registry G close (close :: r) [] r
  | char {c : Char} {t out r : Text} : Scan.endsGroupRun close c = false →
    Group registry G close t out r → Group registry G close (c :: t) (c :: out) r
  | group {t body r out r' : Text} : close ≠ '\x7b' → G.group '\x7d' t body r →
    Group registry G close r out r' →
    Group registry G close ('\x7b' :: t) ('\x7b' :: body ++ '\x7d' :: out) r'
  | control {t text r out r' : Text} : close ≠ '\\' → ArgumentControl registry G t text r →
    Group registry G close r out r' → Group registry G close ('\\' :: t) (text ++ out) r'
  | comment {note r out r' : Text} : close ≠ '%' → '\n' ∉ note → r.atLineEnd →
    Group registry G close r out r' →
    Group registry G close ('%' :: (note ++ r)) ('%' :: note ++ out) r'

/-- The inside of brackets that must be closed on their line. -/
inductive Brackets (registry : Registry) (G : Grammar σ) : Text → Option Text → Text → Prop where
  | stop {t : Text} : (t.atLineEnd || t.starts (· == '%')) → Brackets registry G t none t
  | close {r : Text} : Brackets registry G (']' :: r) (some []) r
  | char {c : Char} {t r : Text} {out : Option Text} : Scan.endsBracketRun c = false →
    Brackets registry G t out r → Brackets registry G (c :: t) (out.map (c :: ·)) r
  | group {t body r r' : Text} {out : Option Text} : G.group '\x7d' t body r →
    Brackets registry G r out r' →
    Brackets registry G ('\x7b' :: t) (out.map fun o => '\x7b' :: body ++ '\x7d' :: o) r'
  | brackets {t body r r' : Text} {out : Option Text} : G.group ']' t body r →
    Brackets registry G r out r' →
    Brackets registry G ('[' :: t) (out.map fun o => '[' :: body ++ ']' :: o) r'
  | control {t text r r' : Text} {out : Option Text} : ArgumentControl registry G t text r →
    Brackets registry G r out r' → Brackets registry G ('\\' :: t) (out.map (text ++ ·)) r'

/-- The arguments of a control sequence without a definition. -/
inductive ArgumentText (G : Grammar σ) : Text → Text → Text → Prop where
  | stop {blanks r : Text} : blanks.isBlankLine →
    r.starts (fun c => isHorizontal c || c == '\x7b' || c == '[') = false →
    ArgumentText G (blanks ++ r) [] (blanks ++ r)
  | bracketsOpen {blanks r r' : Text} : blanks.isBlankLine → G.brackets r none r' →
    ArgumentText G (blanks ++ '[' :: r) [] (blanks ++ '[' :: r)
  | group {blanks t body r out r' : Text} : blanks.isBlankLine → G.group '\x7d' t body r →
    ArgumentText G r out r' →
    ArgumentText G (blanks ++ '\x7b' :: t) (blanks ++ '\x7b' :: body ++ '\x7d' :: out) r'
  | brackets {blanks t body r out r' : Text} : blanks.isBlankLine →
    G.brackets t (some body) r → ArgumentText G r out r' →
    ArgumentText G (blanks ++ '[' :: t) (blanks ++ '[' :: body ++ ']' :: out) r'

/-! ### Blocks -/

/-- From the end of a line of a block at `level` to the next line of the block, over blank lines; or
the end of the block. -/
inductive NextLine (level : Nat) : Config σ → Option Text → Config σ → Prop where
  | finished {i : Indentation} {h : σ} : NextLine level ⟨[], i, h⟩ none ⟨[], i, h⟩
  | trailing {t : Text} {i : Indentation} {h : σ} : t.blankLines = t →
    NextLine level ⟨'\n' :: t, i, h⟩ none ⟨'\n' :: t, i, h⟩
  | lower {blank r : Text} {i j : Indentation} {h : σ} {next : Nat} :
    (blank ++ r).blankLines = blank → r ≠ [] →
    Indentation.levelOf (r.takeWhile isHorizontal) i = .ok next j → next < level →
    NextLine level ⟨'\n' :: (blank ++ r), i, h⟩ none ⟨'\n' :: (blank ++ r), j, h⟩
  | same {blank r : Text} {i j : Indentation} {h : σ} :
    (blank ++ r).blankLines = blank → r ≠ [] →
    Indentation.levelOf (r.takeWhile isHorizontal) i = .ok level j →
    NextLine level ⟨'\n' :: (blank ++ r), i, h⟩ (some blank) ⟨r, j, h⟩

/-- The lines of a block at `level`, each of which is read by `line`. -/
inductive Block (line : Config σ → Text → Config σ → Prop) (level : Nat) :
    Config σ → Text → Config σ → Prop where
  | last {k k' k'' : Config σ} {text : Text} : line k text k' → NextLine level k' none k'' →
    Block line level k text k''
  | more {k k' k'' k''' : Config σ} {text blank out : Text} : line k text k' →
    NextLine level k' (some blank) k'' → Block line level k'' out k''' →
    Block line level k (text ++ '\n' :: blank ++ out) k'''

/-- From the end of a line that opens an environment at `level` to the first line of its block. -/
inductive Enter (level : Nat) : Config σ → Text → Config σ → Prop where
  | mk {blank r : Text} {i j : Indentation} {h : σ} : (blank ++ r).blankLines = blank → r ≠ [] →
    Indentation.levelOf (r.takeWhile isHorizontal) i = .ok (level + 1) j →
    Enter level ⟨blank ++ r, i, h⟩ blank ⟨r, j, h⟩

/-- A line that is read literally. -/
inductive RawLine : Config σ → Text → Config σ → Prop where
  | mk {line r : Text} {i : Indentation} {h : σ} : '\n' ∉ line → r.atLineEnd →
    RawLine ⟨line ++ r, i, h⟩ line ⟨r, i, h⟩

/-! ### Bodies and lines -/

/-- The body of an environment at `level`, from after its colon. -/
inductive EnvironmentBody (G : Grammar σ) (level : Nat) :
    Config σ → Scan.Body → Config σ → Prop where
  | oneLine {blanks r text : Text} {c : Char} {i : Indentation} {h : σ} {k : Config σ} :
    blanks.isBlankLine → isHorizontal c = false → c ≠ '\n' → c ≠ '%' →
    G.line level true ⟨c :: r, i, h⟩ text k →
    EnvironmentBody G level ⟨blanks ++ c :: r, i, h⟩ ⟨text, false⟩ k
  | block {blanks r blank text : Text} {i : Indentation} {h : σ} {k k' : Config σ} :
    blanks.isBlankLine → Enter level ⟨'\n' :: r, i, h⟩ blank k →
    Block (G.line (level + 1) false) (level + 1) k text k' →
    EnvironmentBody G level ⟨blanks ++ '\n' :: r, i, h⟩ ⟨blank ++ text, true⟩ k'
  | comment {blanks note r blank text : Text} {i : Indentation} {h : σ} {k k' : Config σ} :
    blanks.isBlankLine → '\n' ∉ note → r.atLineEnd → Enter level ⟨r, i, h⟩ blank k →
    Block (G.line (level + 1) false) (level + 1) k text k' →
    EnvironmentBody G level ⟨blanks ++ '%' :: (note ++ r), i, h⟩
      ⟨'\n' :: k.indentation.margin (level + 1) ++ '%' :: note ++ blank ++ text, true⟩ k'

/-- The literal body of an environment at `level`, from after its colon. -/
inductive RawBody (level : Nat) : Config σ → Scan.Body → Config σ → Prop where
  | oneLine {blanks r text : Text} {c : Char} {i : Indentation} {h : σ} {k : Config σ} :
    blanks.isBlankLine → isHorizontal c = false → c ≠ '\n' → RawLine ⟨c :: r, i, h⟩ text k →
    RawBody level ⟨blanks ++ c :: r, i, h⟩ ⟨text, false⟩ k
  | block {blanks r blank text : Text} {i : Indentation} {h : σ} {k k' : Config σ} :
    blanks.isBlankLine → Enter level ⟨'\n' :: r, i, h⟩ blank k →
    Block RawLine (level + 1) k text k' →
    RawBody level ⟨blanks ++ '\n' :: r, i, h⟩ ⟨blank ++ text, true⟩ k'

/-- The text of a body of a registered environment at `level`: a block loses its margin. -/
def dedented (level : Nat) (i : Indentation) (body : Scan.Body) : Text :=
  if body.block then Text.dedentBlock (i.margin (level + 1)) body.text else body.text

/-- The text of a body of an environment without a definition at `level`: after a block the end of
the environment has a line of its own. -/
def closed (level : Nat) (i : Indentation) (body : Scan.Body) : Text :=
  if body.block then body.text ++ '\n' :: i.margin level else body.text

/-- The body of a registered environment, literal or not. -/
inductive CustomBody (G : Grammar σ) (level : Nat) :
    Bool → Config σ → Scan.Body → Config σ → Prop where
  | raw {k k' : Config σ} {body : Scan.Body} : RawBody level k body k' →
    CustomBody G level true k body k'
  | interpreted {k k' : Config σ} {body : Scan.Body} : EnvironmentBody G level k body k' →
    CustomBody G level false k body k'

/-- A control sequence in a line at `level`, from after its backslash. -/
inductive Control (S : Setup σ) (G : Grammar σ) (level : Nat) :
    Config σ → Text → Config σ → Prop where
  | command {t name r r' out : Text} {c : Command} {values : List (Option Text)} {i : Indentation}
    {h : σ} : ControlName t name r → S.registry.find? name = some (.command c) →
    Arguments G c.params r values r' → c.generate values = .ok out →
    Control S G level ⟨t, i, h⟩ out ⟨r', i, h⟩
  | environment {t name r blanks r' out : Text} {e : Environment} {values : List (Option Text)}
    {i j : Indentation} {h h' h'' : σ} {body : Scan.Body} {r'' : Text} :
    ControlName t name r → S.registry.find? name = some (.environment e) →
    Arguments G e.params r values (blanks ++ ':' :: r') → blanks.isBlankLine →
    CustomBody G level e.raw ⟨r', i, h⟩ body ⟨r'', j, h'⟩ →
    (e.generate j.unitText (dedented level j body) values).run S.executor h' = (.ok out, h'') →
    Control S G level ⟨t, i, h⟩ (Text.indentTail (j.margin level) out) ⟨r'', j, h''⟩
  | symbol {t name r : Text} {i : Indentation} {h : σ} : ControlName t name r →
    S.registry.find? name = none → name.all isAlphabetic = false →
    Control S G level ⟨t, i, h⟩ (Markup.control name) ⟨r, i, h⟩
  | plain {t name r args blanks r' : Text} {i : Indentation} {h : σ} : ControlName t name r →
    S.registry.find? name = none → name.all isAlphabetic → ArgumentText G r args (blanks ++ r') →
    blanks.isBlankLine → r'.starts (fun c => isHorizontal c || c == ':') = false →
    Control S G level ⟨t, i, h⟩ (Markup.control name ++ args) ⟨blanks ++ r', i, h⟩
  | native {t name r args blanks r' : Text} {i : Indentation} {h : σ} {body : Scan.Body}
    {k : Config σ} : ControlName t name r → S.registry.find? name = none →
    name.all isAlphabetic → ArgumentText G r args (blanks ++ ':' :: r') → blanks.isBlankLine →
    EnvironmentBody G level ⟨r', i, h⟩ body k →
    Control S G level ⟨t, i, h⟩
      (Markup.environment name args (closed level k.indentation body)) k

/-- A line at `level`, or the part of it before a comment if `stop` is set. -/
inductive Line (S : Setup σ) (G : Grammar σ) (level : Nat) (stop : Bool) :
    Config σ → Text → Config σ → Prop where
  | done {k : Config σ} : (k.rest.atLineEnd || (stop && k.rest.starts (· == '%'))) →
    Line S G level stop k [] k
  | char {c : Char} {t out : Text} {i : Indentation} {h : σ} {k : Config σ} :
    Scan.endsLineRun c = false → Line S G level stop ⟨t, i, h⟩ out k →
    Line S G level stop ⟨c :: t, i, h⟩ (c :: out) k
  | comment {note r out : Text} {i : Indentation} {h : σ} {k : Config σ} : stop = false →
    '\n' ∉ note → r.atLineEnd → Line S G level stop ⟨r, i, h⟩ out k →
    Line S G level stop ⟨'%' :: (note ++ r), i, h⟩ ('%' :: note ++ out) k
  | control {t text out : Text} {i : Indentation} {h : σ} {k k' : Config σ} :
    Control S G level ⟨t, i, h⟩ text k → Line S G level stop k out k' →
    Line S G level stop ⟨'\\' :: t, i, h⟩ (text ++ out) k'
  | group {t body r out : Text} {i : Indentation} {h : σ} {k : Config σ} :
    G.group '\x7d' t body r → Line S G level stop ⟨r, i, h⟩ out k →
    Line S G level stop ⟨'\x7b' :: t, i, h⟩ ('\x7b' :: body ++ '\x7d' :: out) k

/-! ### Fragments -/

/-- Blank lines and the block that follows them, at the level of its first line. -/
inductive WholeBlock (G : Grammar σ) : Config σ → Text → Config σ → Prop where
  | blank {t : Text} {i : Indentation} {h : σ} : t.blankLines = t →
    WholeBlock G ⟨t, i, h⟩ t ⟨[], i, h⟩
  | lines {blank r out : Text} {level : Nat} {i j : Indentation} {h : σ} {k : Config σ} :
    (blank ++ r).blankLines = blank → r ≠ [] →
    Indentation.levelOf (r.takeWhile isHorizontal) i = .ok level j →
    Block (G.line level false) level ⟨r, j, h⟩ out k →
    WholeBlock G ⟨blank ++ r, i, h⟩ (blank ++ out) k

/-- Blocks up to the end of the text. -/
inductive Fragment (G : Grammar σ) : Config σ → Text → Config σ → Prop where
  | last {k : Config σ} {out : Text} {i : Indentation} {h : σ} : WholeBlock G k out ⟨[], i, h⟩ →
    Fragment G k out ⟨[], i, h⟩
  | more {k k' : Config σ} {t text out : Text} {i : Indentation} {h : σ} :
    WholeBlock G k text ⟨'\n' :: t, i, h⟩ → Fragment G ⟨t, i, h⟩ out k' →
    Fragment G k (text ++ '\n' :: out) k'

/-! ### Runs of plain characters -/

section Runs

variable {registry : Registry} {S : Setup σ} {G : Grammar σ} {close : Char} {level : Nat}
  {stop : Bool}

/-- A run of plain characters at the start of a group. -/
lemma Group.run {w t out r : Text} (hw : w.all fun c => !Scan.endsGroupRun close c)
    (h : Group registry G close t out r) : Group registry G close (w ++ t) (w ++ out) r := by
  induction w with
  | nil => exact h
  | cons c w ih =>
    simp only [List.all_cons, Bool.and_eq_true, Bool.not_eq_true'] at hw
    exact .char hw.1 (ih hw.2)

/-- A run of plain characters at the start of brackets. -/
lemma Brackets.run {w t r : Text} {out : Option Text} (hw : w.all fun c => !Scan.endsBracketRun c)
    (h : Brackets registry G t out r) :
    Brackets registry G (w ++ t) (out.map (w ++ ·)) r := by
  induction w with
  | nil => simpa using h
  | cons c w ih =>
    simp only [List.all_cons, Bool.and_eq_true, Bool.not_eq_true'] at hw
    have hc := Brackets.char hw.1 (ih hw.2)
    rw [Option.map_map] at hc
    exact hc

/-- A run of plain characters at the start of a line. -/
lemma Line.run {w t out : Text} {i : Indentation} {h : σ} {k : Config σ}
    (hw : w.all fun c => !Scan.endsLineRun c) (hl : Line S G level stop ⟨t, i, h⟩ out k) :
    Line S G level stop ⟨w ++ t, i, h⟩ (w ++ out) k := by
  induction w with
  | nil => exact hl
  | cons c w ih =>
    simp only [List.all_cons, Bool.and_eq_true, Bool.not_eq_true'] at hw
    exact .char hw.1 (ih hw.2)

/-- Horizontal blanks are plain wherever the characters with a meaning are not blank. -/
lemma all_plain_of_isBlankLine {p : Char → Bool} (hp : ∀ c, p c → isHorizontal c = false) {w : Text}
    (hw : w.isBlankLine) : w.all fun c => !p c := by
  rw [Text.isBlankLine, List.all_eq_true] at hw
  rw [List.all_eq_true]
  intro c hc
  cases hpc : p c with
  | false => rfl
  | true =>
    have hh := hw c hc
    rw [hp c hpc] at hh
    cases hh

/-- The characters that end a plain run of a line are no blanks. -/
lemma isHorizontal_of_endsLineRun {c : Char} (hc : Scan.endsLineRun c) : isHorizontal c = false := by
  simp only [Scan.endsLineRun, Bool.or_eq_true, decide_eq_true_eq] at hc
  rcases hc with (((rfl | rfl) | rfl) | rfl) | rfl
  all_goals decide

/-- Blanks are part of a plain run of a line. -/
lemma run_of_isBlankLine {w : Text} (hw : w.isBlankLine) : w.all fun c => !Scan.endsLineRun c :=
  all_plain_of_isBlankLine (fun _ => isHorizontal_of_endsLineRun) hw

/-- A line of plain characters. -/
lemma Line.run_done {w t : Text} {i : Indentation} {h : σ}
    (hw : w.all fun c => !Scan.endsLineRun c)
    (ht : t.atLineEnd || (stop && t.starts (· == '%'))) :
    Line S G level stop ⟨w ++ t, i, h⟩ w ⟨t, i, h⟩ := by
  have hd : Line S G level stop ⟨t, i, h⟩ [] ⟨t, i, h⟩ := .done ht
  simpa using Line.run hw hd

/-- A line is read to its end, unless a comment stops it. -/
lemma Line.atLineEnd {k k' : Config σ} {out : Text} (h : Line S G level false k out k') :
    k'.rest.atLineEnd := by
  induction h with
  | done hd => simpa using hd
  | char _ _ ih | comment _ _ _ _ ih | control _ _ ih | group _ _ ih => exact ih

end Runs

/-! ### Environments without arguments -/

/-- A colon ends the name of a control sequence. -/
lemma isAlphabetic_colon : isAlphabetic ':' = false := by decide +kernel

/-- A name before a colon opens an environment. -/
lemma Control.native_bare {S : Setup σ} {G : Grammar σ} {level : Nat} {name r : Text}
    {i : Indentation} {h : σ} {body : Scan.Body} {k : Config σ} (hne : name ≠ [])
    (ha : name.all isAlphabetic) (hd : S.registry.find? name = none)
    (hb : EnvironmentBody G level ⟨r, i, h⟩ body k) :
    Control S G level ⟨name ++ ':' :: r, i, h⟩
      (Markup.environment name [] (closed level k.indentation body)) k := by
  have hargs : ArgumentText G ([] ++ ':' :: r) [] ([] ++ ':' :: r) :=
    .stop rfl (by simp [show isHorizontal ':' = false by decide])
  have hname : ControlName (name ++ ':' :: r) name (':' :: r) :=
    .word hne ha (by rw [Text.starts_cons, isAlphabetic_colon])
  exact .native hname hd ha hargs rfl hb

/-! ### What is left -/

/-- There is less left at the next line of a block. -/
lemma NextLine.length_lt {level : Nat} {k k' : Config σ} {blank : Text}
    (h : NextLine level k (some blank) k') : k'.rest.length < k.rest.length := by
  cases h with
  | same =>
    dsimp only
    rw [List.length_cons, List.length_append]
    omega

/-- At the end of the text there is no next line. -/
lemma NextLine.eq_of_nil {level : Nat} {k k' : Config σ} {o : Option Text}
    (h : NextLine level k o k') (hk : k.rest = []) : o = none ∧ k' = k := by
  cases h with
  | finished => exact ⟨rfl, rfl⟩
  | trailing | lower | same => cases hk

/-- A block ends at the end of a line. -/
lemma NextLine.atLineEnd {level : Nat} {k k' : Config σ} (h : NextLine level k none k') :
    k'.rest.atLineEnd := by
  cases h <;> rfl

/-- A block ends at the end of a line. -/
lemma Block.atLineEnd {line : Config σ → Text → Config σ → Prop} {level : Nat} {k k' : Config σ}
    {out : Text} (h : Block line level k out k') : k'.rest.atLineEnd := by
  induction h with
  | last _ hx => exact hx.atLineEnd
  | more _ _ _ ih => exact ih

/-- After a block at level 0 there are only blank lines. -/
lemma Block.rest_of_zero {line : Config σ → Text → Config σ → Prop} {k k' : Config σ} {out : Text}
    (h : Block line 0 k out k') :
    k'.rest = [] ∨ ∃ t : Text, k'.rest = '\n' :: t ∧ t.blankLines = t := by
  induction h with
  | last _ hx =>
    cases hx with
    | finished => exact Or.inl rfl
    | trailing hb => exact Or.inr ⟨_, rfl, hb⟩
    | lower _ _ _ hlt => exact absurd hlt (Nat.not_lt_zero _)
  | more _ _ _ ih => exact ih

/-- A block at the level of its first line ends at the end of a line. -/
lemma WholeBlock.atLineEnd {G : Grammar σ} {k k' : Config σ} {out : Text}
    (h : WholeBlock G k out k') : k'.rest.atLineEnd := by
  cases h with
  | blank => rfl
  | lines _ _ _ hb => exact hb.atLineEnd

/-- A literal line leaves no more than there was. -/
lemma RawLine.length_le {k k' : Config σ} {out : Text} (h : RawLine k out k') :
    k'.rest.length ≤ k.rest.length := by
  cases h with
  | mk => simp

/-! ### Levels -/

/-- Beyond the last level nothing can be read. -/
def exhausted : Grammar σ where
  group _ _ _ _ := False
  brackets _ _ _ := False
  line _ _ _ _ _ := False

/-- The level just above another one. An attempt at brackets that finds none reads nothing. -/
def above (S : Setup σ) (G : Grammar σ) : Grammar σ where
  group := Group S.registry G
  brackets t out r := ∃ r', Brackets S.registry G t out r' ∧ r = if out.isSome then r' else t
  line := Line S G

/-- The level with room for `n` further ones. -/
def ofRoom (S : Setup σ) : Nat → Grammar σ
  | 0 => exhausted
  | n + 1 => above S (ofRoom S n)

/-- Lines at a level with room are read with the level below. -/
@[simp] lemma ofRoom_succ_line (S : Setup σ) (n : Nat) :
    (ofRoom S (n + 1)).line = Line S (ofRoom S n) := rfl

end Grammar

end IndentTex
