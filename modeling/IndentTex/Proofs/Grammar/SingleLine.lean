import IndentTex.Proofs.Grammar.Flat
import IndentTex.Proofs.Grammar.Nesting

/-!
# A single line one level deeper

What is read from a text without newlines at level 0 is read one level deeper with the same output, as
long as the outputs of registered environments are lines and do not depend on the unit. Commands may
give any output: it is copied as it is at either level. There is a lemma for each rule of the grammar,
which also says that what is left has no newline.
-/

namespace IndentTex

open Text

variable {σ : Type} {u t r : Text}

/-- The configuration with the unit `u`. -/
def Config.withUnit (u : Text) (k : Config σ) : Config σ := { k with indentation := .ofUnit u }

/-- A configuration on the last line, before a unit is known. -/
structure Config.OnLine (k : Config σ) : Prop where
  notMem : '\n' ∉ k.rest
  unset : k.indentation = .unset

/-- After some text the configuration is still on the line. -/
lemma Config.OnLine.of_append {x : Text} {i : Indentation} {h h' : σ}
    (hk : Config.OnLine ⟨x ++ r, i, h⟩) : Config.OnLine ⟨r, i, h'⟩ :=
  ⟨fun hr => hk.notMem (List.mem_append_right x hr), hk.unset⟩

/-- On the last line the configuration one level deeper has the same text. -/
lemma Config.OnLine.nest_eq {k : Config σ} (hk : k.OnLine) (u : Text) :
    k.nest u false = k.withUnit u := by
  rw [nest, withUnit, indent_of_notMem hk.notMem]

/-- A level reads one level deeper what another level reads from a single line, with the same output. -/
structure Grammar.Deepens (u : Text) (G G' : Grammar σ) : Prop where
  group {close : Char} {t out r : Text} : G.group close t out r → '\n' ∉ t →
    G'.group close t out r ∧ '\n' ∉ r
  brackets {t r : Text} {out : Option Text} : G.brackets t out r → '\n' ∉ t →
    G'.brackets t out r ∧ '\n' ∉ r
  line {stop : Bool} {k k' : Config σ} {out : Text} : G.line 0 stop k out k' → k.OnLine →
    G'.line 1 stop (k.withUnit u) out (k'.withUnit u) ∧ k'.OnLine

namespace Grammar

variable {S T : Setup σ} {G G' : Grammar σ}

/-! ### Arguments -/

/-- An optional argument. -/
lemma Optional.deepen (hG : G.Deepens u G') {raw : Bool} {value : Option Text}
    (hv : Optional G raw t value r) (ht : '\n' ∉ t) : Optional G' raw t value r ∧ '\n' ∉ r := by
  cases hv with
  | absent hb hr => exact ⟨.absent hb hr, ht⟩
  | raw hb hv => exact ⟨.raw hb hv, by simp_all⟩
  | rawOpen hb hv => exact ⟨.rawOpen hb hv, ht⟩
  | brackets hb hv =>
    obtain ⟨hv', hr⟩ := hG.brackets hv (by simp_all)
    exact ⟨.brackets hb hv', hr⟩
  | bracketsOpen hb hv => exact ⟨.bracketsOpen hb (hG.brackets hv (by simp_all)).1, ht⟩

/-- A required argument. -/
lemma Required.deepen (hG : G.Deepens u G') {raw : Bool} {value : Text}
    (hv : Required G raw t value r) (ht : '\n' ∉ t) : Required G' raw t value r ∧ '\n' ∉ r := by
  cases hv with
  | raw hb hv => exact ⟨.raw hb hv, by simp_all⟩
  | group hb hg =>
    obtain ⟨hg', hr⟩ := hG.group hg (by simp_all)
    exact ⟨.group hb hg', hr⟩

/-- The arguments for a list of slots. -/
lemma Arguments.deepen (hG : G.Deepens u G') {params : Params} {values : List (Option Text)}
    (hv : Arguments G params t values r) (ht : '\n' ∉ t) :
    Arguments G' params t values r ∧ '\n' ∉ r := by
  induction hv with
  | nil => exact ⟨.nil, ht⟩
  | optional ho hv _ ih =>
    obtain ⟨hv', hr⟩ := hv.deepen hG ht
    obtain ⟨hvs', hr'⟩ := ih hr
    exact ⟨.optional ho hv' hvs', hr'⟩
  | required ho hv _ ih =>
    obtain ⟨hv', hr⟩ := hv.deepen hG ht
    obtain ⟨hvs', hr'⟩ := ih hr
    exact ⟨.required ho hv' hvs', hr'⟩

/-- No newline is left after a control sequence. -/
lemma ControlName.notMem_rest {name : Text} (hn : ControlName t name r) (ht : '\n' ∉ t) :
    '\n' ∉ r := by
  cases hn with
  | word | symbol => simp_all

/-- A control sequence inside a group or argument. -/
lemma ArgumentControl.deepen (hT : T.Tames u .singleLine S) (hG : G.Deepens u G') {out : Text}
    (hc : ArgumentControl T.registry G t out r) (ht : '\n' ∉ t) :
    ArgumentControl S.registry G' t out r ∧ '\n' ∉ r := by
  cases hc with
  | native hn hf => exact ⟨.native hn (hT.command? hf).1, hn.notMem_rest ht⟩
  | command hn hf hv hg =>
    obtain ⟨-, -, -, c, hf', hp, hg'⟩ := hT.command (Registry.find?_eq_command_iff.2 hf) hg
    obtain ⟨hv', hr⟩ := hv.deepen hG (hn.notMem_rest ht)
    rw [← hp] at hv'
    exact ⟨.command hn (Registry.find?_eq_command_iff.1 hf') hv' hg', hr⟩

/-- The inside of a group. -/
lemma Group.deepen (hT : T.Tames u .singleLine S) (hG : G.Deepens u G') {close : Char} {out : Text}
    (hg : Group T.registry G close t out r) (ht : '\n' ∉ t) :
    Group S.registry G' close t out r ∧ '\n' ∉ r := by
  induction hg with
  | close => exact ⟨.close, by simp_all⟩
  | char hc _ ih =>
    obtain ⟨hg', hr⟩ := ih (by simp_all)
    exact ⟨.char hc hg', hr⟩
  | group hne hb _ ih =>
    obtain ⟨hb', hr⟩ := hG.group hb (by simp_all)
    obtain ⟨hg', hr'⟩ := ih hr
    exact ⟨.group hne hb' hg', hr'⟩
  | control hne hc _ ih =>
    obtain ⟨hc', hr⟩ := hc.deepen hT hG (by simp_all)
    obtain ⟨hg', hr'⟩ := ih hr
    exact ⟨.control hne hc' hg', hr'⟩
  | comment hne hn hr _ ih =>
    obtain ⟨hg', hr'⟩ := ih (by simp_all)
    exact ⟨.comment hne hn hr hg', hr'⟩

/-- The inside of brackets, closed or not. -/
lemma Brackets.deepen (hT : T.Tames u .singleLine S) (hG : G.Deepens u G') {out : Option Text}
    (hb : Brackets T.registry G t out r) (ht : '\n' ∉ t) :
    Brackets S.registry G' t out r ∧ '\n' ∉ r := by
  induction hb with
  | stop hs => exact ⟨.stop hs, ht⟩
  | close => exact ⟨.close, by simp_all⟩
  | char hc _ ih =>
    obtain ⟨hb', hr⟩ := ih (by simp_all)
    exact ⟨.char hc hb', hr⟩
  | group hg _ ih =>
    obtain ⟨hg', hr⟩ := hG.group hg (by simp_all)
    obtain ⟨hb', hr'⟩ := ih hr
    exact ⟨.group hg' hb', hr'⟩
  | brackets hg _ ih =>
    obtain ⟨hg', hr⟩ := hG.group hg (by simp_all)
    obtain ⟨hb', hr'⟩ := ih hr
    exact ⟨.brackets hg' hb', hr'⟩
  | control hc _ ih =>
    obtain ⟨hc', hr⟩ := hc.deepen hT hG (by simp_all)
    obtain ⟨hb', hr'⟩ := ih hr
    exact ⟨.control hc' hb', hr'⟩

/-- The arguments of a control sequence without a definition. -/
lemma ArgumentText.deepen (hG : G.Deepens u G') {out : Text} (ha : ArgumentText G t out r)
    (ht : '\n' ∉ t) : ArgumentText G' t out r ∧ '\n' ∉ r := by
  induction ha with
  | stop hb hr => exact ⟨.stop hb hr, ht⟩
  | bracketsOpen hb hg => exact ⟨.bracketsOpen hb (hG.brackets hg (by simp_all)).1, ht⟩
  | group hb hg _ ih =>
    obtain ⟨hg', hr⟩ := hG.group hg (by simp_all)
    obtain ⟨ha', hr'⟩ := ih hr
    exact ⟨.group hb hg' ha', hr'⟩
  | brackets hb hg _ ih =>
    obtain ⟨hg', hr⟩ := hG.brackets hg (by simp_all)
    obtain ⟨ha', hr'⟩ := ih hr
    exact ⟨.brackets hb hg' ha', hr'⟩

/-! ### Bodies and lines -/

variable {k k' : Config σ} {body : Scan.Body} {out : Text}

/-- No block is entered on the last line. -/
lemma Enter.mem_newline {level : Nat} {blank : Text} (he : Enter level k blank k')
    (hk : k.rest.atLineEnd) : '\n' ∈ k.rest := by
  cases he with
  | @mk blank r _ _ _ _ hr _ =>
    obtain ⟨c, x, hx⟩ := List.exists_cons_of_ne_nil (List.append_ne_nil_of_right_ne_nil blank hr)
    change atLineEnd (blank ++ r) at hk
    change '\n' ∈ blank ++ r
    rw [hx, atLineEnd_cons, beq_iff_eq] at hk
    rw [hx, hk]
    exact List.mem_cons_self

/-- The body of an environment, which is no block. -/
lemma EnvironmentBody.deepen (hG : G.Deepens u G') (hb : EnvironmentBody G 0 k body k')
    (hk : k.OnLine) : EnvironmentBody G' 1 (k.withUnit u) body (k'.withUnit u) ∧ k'.OnLine ∧
      body.block = false := by
  cases hb with
  | oneLine hblanks hc hne hp hl =>
    obtain ⟨hl', hk'⟩ := hG.line hl hk.of_append
    exact ⟨.oneLine hblanks hc hne hp hl', hk', rfl⟩
  | block hblanks he hl => exact absurd (by simp) hk.notMem
  | comment hblanks hnote hr he hl =>
    have hmem := he.mem_newline hr
    exact absurd (by simp [hmem]) hk.notMem

/-- A line that is read literally. -/
lemma RawLine.deepen (hl : RawLine k out k') (hk : k.OnLine) :
    RawLine (k.withUnit u) out (k'.withUnit u) ∧ k'.OnLine := by
  cases hl with
  | mk hline hr =>
    exact ⟨.mk hline hr, hk.of_append⟩

/-- The literal body of an environment, which is no block. -/
lemma RawBody.deepen (hb : RawBody 0 k body k') (hk : k.OnLine) :
    RawBody 1 (k.withUnit u) body (k'.withUnit u) ∧ k'.OnLine ∧ body.block = false := by
  cases hb with
  | block hblanks he hl => exact absurd (by simp) hk.notMem
  | oneLine hblanks hc hne hl =>
    obtain ⟨hl', hk'⟩ := hl.deepen (u := u) hk.of_append
    exact ⟨.oneLine hblanks hc hne hl', hk', rfl⟩

/-- The body of a registered environment is the same text. -/
lemma CustomBody.deepen (hG : G.Deepens u G') {raw : Bool} (hb : CustomBody G 0 raw k body k')
    (hk : k.OnLine) : CustomBody G' 1 raw (k.withUnit u) body (k'.withUnit u) ∧ k'.OnLine ∧
      body.block = false := by
  cases hb with
  | raw hb =>
    obtain ⟨hb', h⟩ := hb.deepen (u := u) hk
    exact ⟨.raw hb', h⟩
  | interpreted hb =>
    obtain ⟨hb', h⟩ := hb.deepen hG hk
    exact ⟨.interpreted hb', h⟩

/-- A body that is no block is given as it is. -/
lemma dedented_of_line (hb : body.block = false) (level : Nat) (i : Indentation) :
    dedented level i body = body.text := by
  rw [dedented, hb, if_neg Bool.false_ne_true]

/-- A control sequence in the line. The output of a registered environment is a line, so that no margin
is put before it. -/
lemma Control.deepen (hT : T.Tames u .singleLine S) (hG : G.Deepens u G')
    (hc : Control T G 0 k out k') (hk : k.OnLine) :
    Control S G' 1 (k.withUnit u) out (k'.withUnit u) ∧ k'.OnLine := by
  obtain ⟨hn, hunset⟩ := hk
  cases hc with
  | command hname hd hv hg =>
    obtain ⟨-, -, -, c, hd', hp, hg'⟩ := hT.command hd hg
    obtain ⟨hv', hr⟩ := hv.deepen hG (hname.notMem_rest hn)
    rw [← hp] at hv'
    exact ⟨.command hname hd' hv' hg', hr, hunset⟩
  | @environment t name r blanks r' out e values i j h h' h'' body r'' hname hd hv hb hbody hrun =>
    obtain ⟨-, e', hd', hp, hraw, hgen⟩ := hT.environment hd
    obtain ⟨⟨-, -, hout⟩, hrun'⟩ := hgen hrun
    obtain ⟨hv', hr⟩ := hv.deepen hG (hname.notMem_rest hn)
    obtain ⟨hbody', hk', hline⟩ := hbody.deepen hG ⟨by simp_all, hunset⟩
    rw [← hp] at hv'
    rw [← hraw] at hbody'
    rw [dedented_of_line hline, ← dedented_of_line hline 1 (.ofUnit u)] at hrun'
    have hnl : '\n' ∉ out := by simpa [Checks.singleLine] using hout
    have htail (m : Text) : indentTail m out = out :=
      indentTail_of_splitLines (splitLines_of_notMem hnl)
    have hc' := Control.environment hname hd' hv' hb hbody' hrun'
    rw [htail] at hc' ⊢
    exact ⟨hc', hk'.notMem, hk'.unset⟩
  | symbol hname hd ha =>
    exact ⟨.symbol hname (hT.undefined hd).1 ha, hname.notMem_rest hn, hunset⟩
  | plain hname hd ha hargs hb hr =>
    obtain ⟨hargs', hr'⟩ := hargs.deepen hG (hname.notMem_rest hn)
    exact ⟨.plain hname (hT.undefined hd).1 ha hargs' hb hr, hr', hunset⟩
  | @native t name r args blanks r' i h body _ hname hd ha hargs hb hbody =>
    obtain ⟨hargs', hr⟩ := hargs.deepen hG (hname.notMem_rest hn)
    obtain ⟨hbody', hk', hline⟩ := hbody.deepen hG ⟨by simp_all, hunset⟩
    have hclosed (level : Nat) (i : Indentation) : closed level i body = body.text := by
      rw [closed, hline, if_neg Bool.false_ne_true]
    have hc' := Control.native hname (hT.undefined hd).1 ha hargs' hb hbody'
    rw [hclosed] at hc' ⊢
    exact ⟨hc', hk'⟩

/-- The line itself, or the part of it before a comment. -/
lemma Line.deepen (hT : T.Tames u .singleLine S) (hG : G.Deepens u G') {stop : Bool}
    (hl : Line T G 0 stop k out k') (hk : k.OnLine) :
    Line S G' 1 stop (k.withUnit u) out (k'.withUnit u) ∧ k'.OnLine := by
  induction hl with
  | done hd => exact ⟨.done hd, hk⟩
  | char hc _ ih =>
    obtain ⟨hl', hk'⟩ := ih (.of_append (x := [_]) hk)
    exact ⟨.char hc hl', hk'⟩
  | comment hs hn hr _ ih =>
    obtain ⟨hl', hk'⟩ := ih (.of_append (x := '%' :: _) hk)
    exact ⟨.comment hs hn hr hl', hk'⟩
  | control hc _ ih =>
    obtain ⟨hc', hk₁⟩ := hc.deepen hT hG (.of_append (x := ['\\']) hk)
    obtain ⟨hl', hk'⟩ := ih hk₁
    exact ⟨.control hc' hl', hk'⟩
  | group hg _ ih =>
    obtain ⟨hg', hr⟩ := hG.group hg fun h => hk.notMem (List.mem_cons_of_mem _ h)
    obtain ⟨hl', hk'⟩ := ih ⟨hr, hk.unset⟩
    exact ⟨.group hg' hl', hk'⟩

/-! ### Nesting levels -/

/-- What a level above reads. -/
lemma Deepens.above (hT : T.Tames u .singleLine S) (hG : G.Deepens u G') :
    (above T G).Deepens u (above S G') where
  group hg ht := hg.deepen hT hG ht
  brackets := by
    rintro t r out ⟨r', hb, rfl⟩ ht
    obtain ⟨hb', hr⟩ := hb.deepen hT hG ht
    refine ⟨⟨r', hb', rfl⟩, ?_⟩
    split
    · exact hr
    · exact ht
  line hl hk := hl.deepen hT hG hk

/-- Whatever is read from a single line with some room for nesting is read one level deeper. -/
theorem ofRoom_deepens (hT : T.Tames u .singleLine S) (n : Nat) :
    (ofRoom T n).Deepens u (ofRoom S n) := by
  induction n with
  | zero => exact { group := nofun, brackets := nofun, line := nofun }
  | succ n ih => exact ih.above hT

end Grammar

end IndentTex
