import IndentTex.Proofs.Grammar.Flat
import IndentTex.Proofs.Grammar.Nesting

/-!
# Flat readings one level deeper

What is read in a flat reading is read one level deeper, with any definitions, and the outputs differ
in their margins only. There is a lemma for each rule of the grammar. The arguments of definitions do
not differ at all, and neither do the bodies that registered environments are given, so that every
definition gives the same output. A group that is copied has its lines on the wider margin.
-/

namespace IndentTex

open Text

variable {σ : Type} {u t r : Text}

/-! ### Texts that move with their line -/

namespace Text

/-- A text in a line at `level` and the same text one level deeper: it ends within a line, and at level
0 it does not differ. -/
structure Moves (u : Text) (level : Nat) (t t' : Text) : Prop where
  shift : Shift u (u.times level) false t t'
  within : lineStart false t = false
  same : level = 0 → t' = t

variable {level : Nat} {t' : Text}

/-- The margin of a level other than 0 is not empty. -/
lemma times_ne_nil (hu : Indentation.IsUnit u) (hlevel : level ≠ 0) : u.times level ≠ [] := by
  obtain ⟨n, rfl⟩ := Nat.exists_eq_succ_of_ne_zero hlevel
  rw [Indentation.times_succ]
  exact List.append_ne_nil_of_left_ne_nil hu.ne_nil _

/-- A newline in a group is followed by the margin. -/
lemma hangs_newline (h : hangs u level ('\n' :: t)) : level ≠ 0 ∧ u.times level <+: t := by
  unfold hangs at h
  split at h
  case isTrue => simp at h
  case isFalse hlevel =>
    rw [onMargin, Bool.and_eq_true] at h
    exact ⟨hlevel, by simpa using h.1⟩

/-- The end of a text on the margin is on the margin. -/
lemma hangs_of_append {x : Text} (h : hangs u level (x ++ t)) : hangs u level t := by
  unfold hangs at h ⊢
  split
  case isTrue hlevel =>
    rw [if_pos hlevel] at h
    simp only [List.contains_eq_mem, List.mem_append] at h ⊢
    simp_all
  case isFalse hlevel =>
    rw [if_neg hlevel] at h
    induction x with
    | nil => exact h
    | cons c x ih =>
      rw [List.cons_append, onMargin, Bool.and_eq_true] at h
      exact ih h.2

/-- A text on the margin ends within a line. -/
lemma lineStart_of_hangs (hu : Indentation.IsUnit u) (h : hangs u level t) :
    lineStart false t = false := by
  induction t with
  | nil => rfl
  | cons c t ih =>
    have ht := ih (hangs_of_append (x := [c]) h)
    by_cases hc : c = '\n'
    · subst hc
      obtain ⟨hlevel, m, rfl⟩ := hangs_newline h
      obtain ⟨a, v, hv⟩ := List.exists_cons_of_ne_nil (times_ne_nil hu hlevel)
      rw [hv] at ht ⊢
      exact ht
    · have hf : (c == '\n') = false := by simpa using hc
      rw [lineStart_cons, hf, ht]

namespace Moves

/-- The text of a group on the margin. -/
lemma of_hangs (hu : Indentation.IsUnit u) (h : Shift u (u.times level) false t t')
    (ht : hangs u level t) : Moves u level t t' := by
  refine ⟨h, lineStart_of_hangs hu ht, ?_⟩
  rintro rfl
  exact h.eq_of_notMem (by simpa [hangs] using ht)

/-- A text without a margin does not differ. -/
lemma of_settled (ht : settled t) : Moves u level t t :=
  ⟨(Shift.of_settled ht).1, lineStart_of_settled ht, fun _ => rfl⟩

/-- A text within a line does not differ. -/
lemma of_notMem (ht : '\n' ∉ t) : Moves u level t t := of_settled (settled_of_notMem ht)

/-- One text after the other. -/
lemma append (hu : Indentation.IsUnit u) {x x' : Text} (hx : Moves u level x x')
    (ht : Moves u level t t') : Moves u level (x ++ t) (x' ++ t') where
  shift := hx.shift.append (newline_notMem_of_isBlankLine (hu.isBlankLine_times level)) (by
    rw [hx.within]
    exact ht.shift)
  within := by rw [lineStart_append, hx.within, ht.within]
  same hlevel := by rw [hx.same hlevel, ht.same hlevel]

/-- A text between two delimiters. -/
lemma enclosed (hu : Indentation.IsUnit u) {a b : Char} {x x' : Text} (ha : a ≠ '\n')
    (hx : Moves u level x x') (hb : b ≠ '\n') (ht : Moves u level t t') :
    Moves u level (a :: x ++ b :: t) (a :: x' ++ b :: t') := by
  have ha' : Moves u level [a] [a] := of_notMem (by simpa using Ne.symm ha)
  have hb' : Moves u level [b] [b] := of_notMem (by simpa using Ne.symm hb)
  exact (ha'.append hu hx).append hu (hb'.append hu ht)

/-- A text with text after each newline is the same one level deeper. -/
lemma eq_of_settled (hu : Indentation.IsUnit u) (h : Moves u level t t') (ht : settled t) :
    t' = t := by
  by_cases hlevel : level = 0
  · exact h.same hlevel
  · exact h.shift.eq_of_settled (times_ne_nil hu hlevel) (hu.isBlankLine_times level) ht nofun

end Moves

end Text

/-- A level reads one level deeper what another level reads, with the same output up to margins. The
groups and the arguments are those of a line at `base`. -/
structure Grammar.Shifts (u : Text) (base : Nat) (G G' : Grammar σ) : Prop where
  group {close : Char} {t out r : Text} : isBlank close = false → G.group close t out r →
    ∃ out', G'.group close (indent u false t) out' (indent u false r) ∧ Moves u base out out'
  brackets {t r : Text} {out : Option Text} : G.brackets t out r →
    ∃ out', G'.brackets (indent u false t) out' (indent u false r) ∧
      Option.Rel (Moves u base) out out'
  line {level : Nat} {stop : Bool} {k k' : Config σ} {out : Text} :
    G.line level stop k out k' → k.indentation.Fits u level → k'.indentation.Fits u 0 →
    ∃ out', G'.line (level + 1) stop (k.nest u false) out' (k'.nest u false) ∧
      Shift u (u.times level) false out out'
  wholeLine {level : Nat} {k k' : Config σ} {out : Text} :
    G.line (level + 1) false k out k' → k.indentation.Fits u (level + 1) →
    k'.indentation.Fits u 0 → u.times (level + 1) <+: k.rest →
    ∃ out', G'.line (level + 1 + 1) false (k.nest u true) out' (k'.nest u false) ∧
      Shift u (u.times (level + 1)) true out out'
  keeps {level : Nat} {stop : Bool} {k k' : Config σ} {out : Text} :
    G.line level stop k out k' → k.indentation.Keeps k'.indentation
  stops {level : Nat} {k k' : Config σ} {out : Text} : G.line level true k out k' →
    k'.rest.atLineEnd || k'.rest.starts (· == '%')
  starts {level : Nat} {k k' : Config σ} {out : Text} : G.line level true k out k' →
    out.starts (· == '\n') = false

namespace Grammar

variable {S T : Setup σ} {G G' : Grammar σ} {level : Nat}

/-! ### Arguments -/

/-- An optional argument without a margin. -/
lemma Optional.shift (hu : Indentation.IsUnit u) (hG : G.Shifts u level G') {raw : Bool}
    {value : Option Text} (hv : Optional G raw t value r)
    (hline : raw = false → value.all settled) :
    Optional G' raw (indent u false t) value (indent u false r) := by
  have hblank := hu.isBlankLine
  cases hv with
  | absent hb hr =>
    rw [indent_blanks hb]
    exact .absent hb (by rwa [starts_indent])
  | raw hb hv =>
    have hn := Scan.newline_notMem_of_rawText? hv
    have hv' := Scan.rawText?_indent_closed isBlank_bracket hblank hv
    rw [indentOpen_of_notMem hn, pad_false, List.nil_append] at hv'
    rw [indent_blanks hb, indent_cons (by decide), indent_line_append hn, indent_cons (by decide)]
    exact .raw hb hv'
  | rawOpen hb hv =>
    rw [indent_blanks hb, indent_cons (by decide)]
    exact .rawOpen hb (by rw [Scan.rawText?_indent isBlank_bracket hblank, hv]; rfl)
  | brackets hb hv =>
    rw [indent_blanks hb, indent_cons (by decide)]
    obtain ⟨_, hv', hm⟩ := hG.brackets hv
    cases hm with
    | some hm =>
      rw [hm.eq_of_settled hu (hline rfl)] at hv'
      exact .brackets hb hv'
  | bracketsOpen hb hv =>
    rw [indent_blanks hb, indent_cons (by decide)]
    obtain ⟨_, hv', hm⟩ := hG.brackets hv
    cases hm
    exact .bracketsOpen hb hv'

/-- A required argument without a margin. -/
lemma Required.shift (hu : Indentation.IsUnit u) (hG : G.Shifts u level G') {raw : Bool} {value : Text}
    (hv : Required G raw t value r) (hraw : raw = true → '\n' ∉ value)
    (hline : raw = false → settled value) :
    Required G' raw (indent u false t) value (indent u false r) := by
  cases hv with
  | raw hb hv =>
    have hn := hraw rfl
    have hv' := Scan.rawText?_indent_closed isBlank_brace hu.isBlankLine hv
    rw [indentOpen_of_notMem hn, pad_false, List.nil_append] at hv'
    rw [indent_blanks hb, indent_cons (by decide), indent_line_append hn, indent_cons (by decide)]
    exact .raw hb hv'
  | group hb hg =>
    rw [indent_blanks hb, indent_cons (by decide)]
    obtain ⟨_, hg', hm⟩ := hG.group isBlank_brace hg
    rw [hm.eq_of_settled hu (hline rfl)] at hg'
    exact .group hb hg'

/-- Arguments without margins. -/
lemma Arguments.shift (hu : Indentation.IsUnit u) (hG : G.Shifts u level G') {params : Params}
    {values : List (Option Text)} (hv : Arguments G params t values r)
    (hline : params.onLine values) :
    Arguments G' params (indent u false t) values (indent u false r) := by
  induction hv with
  | nil => exact .nil
  | optional ho hv _ ih =>
    rw [Params.onLine, List.zip_cons_cons, List.all_cons, Bool.and_eq_true] at hline
    exact .optional ho (hv.shift hu hG fun h => by simpa [h] using hline.1) (ih hline.2)
  | required ho hv _ ih =>
    rw [Params.onLine, List.zip_cons_cons, List.all_cons, Bool.and_eq_true] at hline
    exact .required ho (hv.shift hu hG (fun h => by simpa [h] using hline.1)
      fun h => by simpa [h] using hline.1) (ih hline.2)

/-- A control sequence other than an escaped newline stays on its line. -/
lemma ControlName.newline_notMem {name : Text} (hn : ControlName t name r) (hne : name ≠ ['\n']) :
    '\n' ∉ name := by
  cases hn with
  | word _ ha _ => exact newline_notMem_of_isAlphabetic ha
  | symbol _ =>
    rw [List.mem_singleton]
    rintro rfl
    exact hne rfl

/-- A control sequence in a group or an argument has the same output. -/
lemma ArgumentControl.shift (hu : Indentation.IsUnit u) (hT : T.Tames u (.ofLevel level) S)
    (hG : G.Shifts u level G') {out : Text} (hc : ArgumentControl T.registry G t out r) :
    ArgumentControl S.registry G' (indent u false t) out (indent u false r) ∧ settled out := by
  cases hc with
  | native hn hf =>
    obtain ⟨hf', hne⟩ := hT.command? hf
    have hnl := hn.newline_notMem hne
    exact ⟨.native (hn.nest_within hnl) hf', settled_of_notMem (by simp [Markup.control, hnl])⟩
  | command hn hf hv hg =>
    obtain ⟨hne, hline, hout, c, hf', hp, hg'⟩ := hT.command (Registry.find?_eq_command_iff.2 hf) hg
    have hv' := hv.shift hu hG hline
    rw [← hp] at hv'
    have hnl := hn.newline_notMem hne
    exact ⟨.command (hn.nest_within hnl) (Registry.find?_eq_command_iff.1 hf') hv' hg', hout⟩

/-- Where the text of a group starts with a blank, the group does not start with a newline. -/
lemma Group.starts_ne_newline {registry : Registry} {close : Char} {out : Text}
    (hg : Group registry G close t out r) (ho : out.starts isHorizontal) :
    t.starts (· != '\n') := by
  cases hg with
  | close => cases ho
  | @char c _ _ _ _ _ =>
    rw [starts_cons] at ho ⊢
    rw [bne_iff_ne]
    rintro rfl
    cases ho
  | group | control | comment => rfl

/-- A group with its lines on the margin. A newline is followed by the margin in both texts. -/
lemma Group.shift (hu : Indentation.IsUnit u) (hT : T.Tames u (.ofLevel level) S)
    (hG : G.Shifts u level G') {close : Char} (hclose : isBlank close = false) {out : Text}
    (hg : Group T.registry G close t out r) (hout : hangs u level out) :
    ∃ out', Group S.registry G' close (indent u false t) out' (indent u false r) ∧
      Moves u level out out' := by
  suffices h : ∃ out', Group S.registry G' close (indent u false t) out' (indent u false r) ∧
      Shift u (u.times level) false out out' by
    obtain ⟨out', hg', hs⟩ := h
    exact ⟨out', hg', .of_hangs hu hs hout⟩
  have hblank := hu.isBlankLine_times level
  have hm := newline_notMem_of_isBlankLine hblank
  induction hg with
  | close =>
    rw [indent_cons (ne_newline_of_isBlank hclose)]
    exact ⟨[], .close, .nil⟩
  | @char c t out r hc hg ih =>
    obtain ⟨out', hg', hs⟩ := ih (hangs_of_append (x := [c]) hout)
    by_cases hn : c = '\n'
    · subst hn
      obtain ⟨hlevel, hpre⟩ := hangs_newline hout
      have hstarts : out.starts isHorizontal := by
        obtain ⟨a, v, hv⟩ := List.exists_cons_of_ne_nil (times_ne_nil hu hlevel)
        obtain ⟨x, rfl⟩ := hpre
        rw [hv, isBlankLine, List.all_cons, Bool.and_eq_true] at hblank
        rw [hv]
        exact hblank.1
      have hne : out ≠ [] := by
        rintro rfl
        cases hstarts
      refine ⟨'\n' :: (u ++ out'), ?_, .newline (hs.of_prefix hm hpre hne)⟩
      rw [indent_newline, (indent_of_starts true (hg.starts_ne_newline hstarts)).1]
      exact .char hc (.run (all_plain_of_isBlankLine (fun _ => isHorizontal_of_endsGroupRun hclose)
        hu.isBlankLine) hg')
    · rw [indent_cons hn]
      exact ⟨c :: out', .char hc hg', .char hn hs⟩
  | @group t body r out r' hne hb _ ih =>
    obtain ⟨body', hb', hbs⟩ := hG.group isBlank_brace hb
    obtain ⟨out', hg', hs⟩ :=
      ih (hangs_of_append (x := '\x7b' :: body ++ ['\x7d']) (by simpa using hout))
    rw [indent_cons (by decide)]
    refine ⟨_, .group hne hb' hg', .char (by decide) (hbs.shift.append hm ?_)⟩
    rw [hbs.within]
    exact .char (by decide) hs
  | control hne hc _ ih =>
    obtain ⟨hc', hset⟩ := hc.shift hu hT hG
    obtain ⟨out', hg', hs⟩ := ih (hangs_of_append hout)
    rw [indent_cons (by decide)]
    refine ⟨_, .control hne hc' hg', (Shift.of_settled hset).1.append hm ?_⟩
    rwa [lineStart_of_settled hset]
  | comment hne hn hr _ ih =>
    obtain ⟨out', hg', hs⟩ := ih (hangs_of_append hout)
    rw [indent_cons (by decide), indent_line_append hn]
    refine ⟨_, .comment hne hn (by rwa [atLineEnd_indent]) hg',
      .char (by decide) ((Shift.of_notMem hn).append hm ?_)⟩
    rwa [lineStart_of_notMem hn]

/-- Brackets that are not closed are not closed one level deeper, wherever the attempt ends. -/
lemma Brackets.shift (hu : Indentation.IsUnit u) (hT : T.Tames u (.ofLevel level) S)
    (hG : G.Shifts u level G') {out : Option Text} (hb : Brackets T.registry G t out r) :
    ∃ out', Brackets S.registry G' (indent u false t) out' (indent u false r) ∧
      Option.Rel (Moves u level) out out' := by
  -- What stands before the rest of the brackets moves with it.
  have hmap {out out' : Option Text} {f f' : Text → Text}
      (hf : ∀ {o o'}, Moves u level o o' → Moves u level (f o) (f' o'))
      (h : Option.Rel (Moves u level) out out') :
      Option.Rel (Moves u level) (out.map f) (out'.map f') := by
    cases h with
    | none => exact .none
    | some h => exact .some (hf h)
  induction hb with
  | stop hs => exact ⟨none, .stop (by rwa [atLineEnd_indent, starts_indent]), .none⟩
  | close =>
    rw [indent_cons (by decide)]
    exact ⟨_, .close, .some (.of_notMem List.not_mem_nil)⟩
  | @char c t r out hc _ ih =>
    have hcn : c ≠ '\n' := by
      rintro rfl
      exact absurd hc (by decide)
    have hone : Moves u level [c] [c] := .of_notMem (by simpa using Ne.symm hcn)
    obtain ⟨out', hb', hm⟩ := ih
    rw [indent_cons hcn]
    exact ⟨_, .char hc hb', hmap (hone.append hu) hm⟩
  | group hg _ ih =>
    obtain ⟨body', hg', hbody⟩ := hG.group isBlank_brace hg
    obtain ⟨out', hb', hm⟩ := ih
    rw [indent_cons (by decide)]
    exact ⟨_, .group hg' hb', hmap (hbody.enclosed hu (by decide) (by decide)) hm⟩
  | brackets hg _ ih =>
    obtain ⟨body', hg', hbody⟩ := hG.group isBlank_bracket hg
    obtain ⟨out', hb', hm⟩ := ih
    rw [indent_cons (by decide)]
    exact ⟨_, .brackets hg' hb', hmap (hbody.enclosed hu (by decide) (by decide)) hm⟩
  | control hc _ ih =>
    obtain ⟨hc', hset⟩ := hc.shift hu hT hG
    obtain ⟨out', hb', hm⟩ := ih
    rw [indent_cons (by decide)]
    exact ⟨_, .control hc' hb', hmap ((Moves.of_settled hset).append hu) hm⟩

/-- The arguments of a control sequence without a definition. -/
lemma ArgumentText.shift (hu : Indentation.IsUnit u) (hG : G.Shifts u level G') {out : Text}
    (ha : ArgumentText G t out r) :
    ∃ out', ArgumentText G' (indent u false t) out' (indent u false r) ∧ Moves u level out out' := by
  have hblanks {w : Text} (hw : w.isBlankLine) : Moves u level w w :=
    .of_notMem (newline_notMem_of_isBlankLine hw)
  induction ha with
  | stop hb hr =>
    rw [indent_blanks hb]
    exact ⟨[], .stop hb (by rwa [starts_indent]), .of_notMem List.not_mem_nil⟩
  | bracketsOpen hb hg =>
    obtain ⟨_, hg', hm⟩ := hG.brackets hg
    cases hm
    rw [indent_blanks hb, indent_cons (by decide)]
    exact ⟨[], .bracketsOpen hb hg', .of_notMem List.not_mem_nil⟩
  | group hb hg _ ih =>
    obtain ⟨body', hg', hbody⟩ := hG.group isBlank_brace hg
    obtain ⟨out', ha', hm⟩ := ih
    rw [indent_blanks hb, indent_cons (by decide)]
    refine ⟨_, .group hb hg' ha', ?_⟩
    rw [List.append_assoc, List.append_assoc]
    exact (hblanks hb).append hu (hbody.enclosed hu (by decide) (by decide) hm)
  | brackets hb hg _ ih =>
    obtain ⟨_, hg', hbody⟩ := hG.brackets hg
    cases hbody with
    | some hbody =>
      obtain ⟨out', ha', hm⟩ := ih
      rw [indent_blanks hb, indent_cons (by decide)]
      refine ⟨_, .brackets hb hg' ha', ?_⟩
      rw [List.append_assoc, List.append_assoc]
      exact (hblanks hb).append hu (hbody.enclosed hu (by decide) (by decide) hm)

/-! ### Bodies -/

variable {base : Nat} {k k' : Config σ} {out : Text}

/-- A line that a comment ends comes to its end or to a comment. -/
lemma Line.stops (hl : Line S G level true k out k') :
    k'.rest.atLineEnd || k'.rest.starts (· == '%') := by
  induction hl with
  | done hd => simpa using hd
  | char _ _ ih | comment _ _ _ _ ih | control _ _ ih | group _ _ ih => exact ih

/-- The body of a registered environment comes to the end of its line or to a comment. -/
lemma CustomBody.stops {raw : Bool} {body : Scan.Body} (hb : CustomBody G level raw k body k')
    (hG : ∀ {level k out k'}, G.line level true k out k' →
      k'.rest.atLineEnd || k'.rest.starts (· == '%')) :
    k'.rest.atLineEnd || k'.rest.starts (· == '%') := by
  cases hb with
  | raw hb =>
    cases hb with
    | oneLine _ _ _ hl | block _ _ hl => rw [hl.atLineEnd, Bool.true_or]
  | interpreted hb =>
    cases hb with
    | oneLine _ _ _ _ hl => exact hG hl
    | block _ _ hl | comment _ _ _ _ hl => rw [hl.atLineEnd, Bool.true_or]

/-- The next line of a block starts with the margin of the block. -/
lemma NextLine.prefix_of (hu : Indentation.IsUnit u) {blank : Text}
    (hx : NextLine level k (some blank) k') (hk : k.indentation.Fits u 0)
    (hk' : k'.indentation.Fits u 0) : u.times level <+: k'.rest := by
  cases hx with
  | same _ _ hi =>
    rw [← hk.eq_times hu hk' hi]
    exact List.takeWhile_prefix _

/-- The lines of a block below the level 0. -/
lemma Shifts.block (hu : Indentation.IsUnit u) (hG : G.Shifts u base G')
    (hb : Block (G.line (level + 1) false) (level + 1) k out k')
    (hk : k.indentation.Fits u (level + 1)) (hk' : k'.indentation.Fits u 0)
    (hr : u.times (level + 1) <+: k.rest) :
    ∃ out', Block (G'.line (level + 1 + 1) false) (level + 1 + 1) (k.nest u true) out'
      (k'.nest u false) ∧ Shift u (u.times (level + 1)) true out out' := by
  have hm := newline_notMem_of_isBlankLine (hu.isBlankLine_times (level + 1))
  induction hb with
  | last hl hx =>
    have hk₁ := hk'.of_keeps hx.keeps
    obtain ⟨out', hl', hs⟩ := hG.wholeLine hl hk hk₁ hr
    exact ⟨out', .last hl' (hx.nest hu hk₁ hk').1, hs⟩
  | @more k k₁ k₂ k₃ text blank out hl hx hb ih =>
    have hk₂ := hk'.of_keeps (hb.keeps hG.keeps)
    have hk₁ := hk₂.of_keeps hx.keeps
    obtain ⟨text', hl', hs⟩ := hG.wholeLine hl hk hk₁ hr
    obtain ⟨hx', hf⟩ := hx.nest hu hk₁ hk₂
    obtain ⟨out', hb', hs'⟩ := ih (hf rfl) hk' (hx.prefix_of hu hk₁ hk₂)
    refine ⟨text' ++ '\n' :: indent u true blank ++ out', .more hl' hx' hb', ?_⟩
    rw [List.append_assoc, List.append_assoc]
    exact hs.append hm (.newline (hs'.blankLines hx.blankLines))

/-- What `EnvironmentBody.shift` says about the two bodies. -/
structure BodyShift (u : Text) (level : Nat) (i : Indentation) (body body' : Scan.Body) : Prop where
  block_eq : body'.block = body.block
  fits : body.block → i.Fits u (level + 1)
  text : Shift u (u.times (level + body.block.toNat)) false body.text body'.text
  starts : body.block = false → body.text.starts (· == '\n') = false

/-- The body of an environment, as a block or as a line. -/
lemma EnvironmentBody.shift (hu : Indentation.IsUnit u) (hG : G.Shifts u base G') {body : Scan.Body}
    (hb : EnvironmentBody G level k body k') (hk : k.indentation.Fits u level)
    (hk' : k'.indentation.Fits u 0) :
    ∃ body', EnvironmentBody G' (level + 1) (k.nest u false) body' (k'.nest u false) ∧
      BodyShift u level k'.indentation body body' := by
  cases hb with
  | @oneLine blanks r text c i h _ hblanks hc hn hp hl =>
    obtain ⟨text', hl', hs⟩ := hG.line hl hk hk'
    refine ⟨⟨text', false⟩, ?_,
      ⟨rfl, fun hf => absurd hf Bool.false_ne_true, hs, fun _ => hG.starts hl⟩⟩
    simp only [Config.nest, indent_cons hn, pad_false, List.nil_append] at hl'
    simp only [Config.nest, indent_blanks hblanks, indent_cons hn, pad_false, List.nil_append]
    exact .oneLine hblanks hc hn hp hl'
  | @block blanks r blank text i h k₁ _ hblanks he hl =>
    have hk₁ := hk'.of_keeps (hl.keeps hG.keeps)
    have hk₀ := hk₁.of_keeps he.keeps
    obtain ⟨he', hf₁⟩ := he.nest hu rfl hk₀ hk₁
    obtain ⟨text', hl', hs⟩ := hG.block hu hl hf₁ hk' (he.prefix_of hu hk₀ hk₁)
    obtain ⟨hblank, b, rfl⟩ := he.exists_cons rfl
    refine ⟨⟨indent u true ('\n' :: b) ++ text', true⟩, ?_,
      ⟨rfl, fun _ => ?_, ?_, fun hf => absurd hf.symm Bool.false_ne_true⟩⟩
    · simp only [Config.nest, indent_blanks hblanks, indent_newline]
      exact .block hblanks he' hl'
    · exact hf₁.keeps (hl.keeps hG.keeps) hk'
    · exact hs.enter hblank
  | @comment blanks note r blank text i h k₁ _ hblanks hn hr he hl =>
    have hk₁ := hk'.of_keeps (hl.keeps hG.keeps)
    have hk₀ := hk₁.of_keeps he.keeps
    obtain ⟨he', hf₁⟩ := he.nest hu hr hk₀ hk₁
    obtain ⟨text', hl', hs⟩ := hG.block hu hl hf₁ hk' (he.prefix_of hu hk₀ hk₁)
    obtain ⟨hblank, b, rfl⟩ := he.exists_cons hr
    refine ⟨⟨'\n' :: (Indentation.ofUnit u).margin (level + 1 + 1) ++ '%' :: note ++
      indent u true ('\n' :: b) ++ text', true⟩, ?_,
      ⟨rfl, fun _ => ?_, ?_, fun hf => absurd hf.symm Bool.false_ne_true⟩⟩
    · simp only [Config.nest, indent_blanks hblanks]
      rw [indent_cons (by decide), indent_line_append hn]
      exact .comment hblanks hn (by rwa [atLineEnd_indent]) he' hl'
    · exact hf₁.keeps (hl.keeps hG.keeps) hk'
    · -- The comment is the first line of the block.
      have hm := newline_notMem_of_isBlankLine (hu.isBlankLine_times (level + 1))
      have hnote : Shift u (u.times (level + 1)) false ('%' :: note ++ ('\n' :: b ++ text))
          ('%' :: note ++ (indent u true ('\n' :: b) ++ text')) :=
        .char (by decide) ((Shift.of_notMem hn).append hm (hs.enter hblank))
      have hline : Shift u (u.times (level + 1)) false
          ('\n' :: (u.times (level + 1) ++ ('%' :: note ++ ('\n' :: b ++ text))))
          ('\n' :: (u ++ u.times (level + 1) ++
            ('%' :: note ++ (indent u true ('\n' :: b) ++ text')))) :=
        .newline (.margin (by simp) hnote)
      rw [hf₁.margin, hf₁.eq_ofUnit, Indentation.margin_ofUnit]
      simpa using hline

/-- What registered environments are given at the two levels. A block is moved to the left, and a line
has no margin. -/
lemma BodyShift.dedented (hu : Indentation.IsUnit u) {i : Indentation} {body body' : Scan.Body}
    (hs : BodyShift u level i body body') :
    if (Grammar.dedented level i body).isLineOrBlock then
      Grammar.dedented (level + 1) (.ofUnit u) body' = Grammar.dedented level i body
    else Shift u (u.times level) false (Grammar.dedented level i body)
      (Grammar.dedented (level + 1) (.ofUnit u) body') := by
  obtain ⟨hblock, hfits, htext, hstarts⟩ := hs
  unfold Grammar.dedented
  rw [hblock]
  cases hb : body.block with
  | true =>
    have hf := hfits hb
    rw [hb] at htext
    rw [if_pos rfl, if_pos (isLineOrBlock_dedentBlock _ _), if_pos rfl, hf.margin, hf.eq_ofUnit]
    exact htext.dedentBlock_eq hu.isBlankLine (hu.isBlankLine_times (level + 1))
  | false =>
    rw [hb] at htext
    rw [if_neg Bool.false_ne_true, if_neg Bool.false_ne_true]
    split
    case isTrue hline =>
      have hn : '\n' ∉ body.text := by
        simpa [isLineOrBlock, hstarts hb] using hline
      exact htext.eq_of_notMem hn
    case isFalse => exact htext

/-- A literal body is a block or a line. -/
lemma RawBody.isLineOrBlock {body : Scan.Body} (hb : RawBody level k body k') (i : Indentation) :
    (Grammar.dedented level i body).isLineOrBlock := by
  cases hb with
  | oneLine _ _ _ hl => exact isLineOrBlock_of_notMem hl.newline_notMem
  | block => exact isLineOrBlock_dedentBlock _ _

/-- The body of a registered environment. -/
lemma CustomBody.shift (hu : Indentation.IsUnit u) (hG : G.Shifts u base G') {raw : Bool}
    {body : Scan.Body} (hb : CustomBody G level raw k body k') (hk : k.indentation.Fits u level)
    (hk' : k'.indentation.Fits u 0) :
    ∃ body', CustomBody G' (level + 1) raw (k.nest u false) body' (k'.nest u false) ∧
      (if (dedented level k'.indentation body).isLineOrBlock then
        dedented (level + 1) (.ofUnit u) body' = dedented level k'.indentation body
      else Shift u (u.times level) false (dedented level k'.indentation body)
        (dedented (level + 1) (.ofUnit u) body')) := by
  cases hb with
  | raw hb =>
    obtain ⟨body', hb', hd, -⟩ := hb.nest hu (hk'.of_keeps hb.keeps) hk'
    refine ⟨body', .raw hb', ?_⟩
    rw [if_pos (hb.isLineOrBlock _)]
    exact hd
  | interpreted hb =>
    obtain ⟨body', hb', hs⟩ := hb.shift hu hG hk hk'
    exact ⟨body', .interpreted hb', hs.dedented hu⟩

/-- A body without a margin is the same at the two levels. -/
lemma eq_of_marginless (hu : Indentation.IsUnit u) {body body' : Text}
    (h : if body.isLineOrBlock then body' = body else Shift u (u.times level) false body body')
    (hbody : body.marginless level) : body' = body := by
  split at h
  case isTrue => exact h
  case isFalse hline =>
    obtain ⟨hlevel, hsettled⟩ : level ≠ 0 ∧ body.settled := by simpa [marginless, hline] using hbody
    exact h.eq_of_settled (times_ne_nil hu hlevel) (hu.isBlankLine_times level) hsettled nofun

/-- The body of an environment without a definition, and the end of the environment after it. -/
lemma BodyShift.closed (hu : Indentation.IsUnit u) {i : Indentation} {body body' : Scan.Body}
    (hs : BodyShift u level i body body') {closing : Text} (hc : '\n' ∉ closing) :
    Shift u (u.times level) false (Grammar.closed level i body ++ '\\' :: closing)
      (Grammar.closed (level + 1) (.ofUnit u) body' ++ '\\' :: closing) := by
  obtain ⟨hblock, hfits, htext, -⟩ := hs
  have hm := newline_notMem_of_isBlankLine (hu.isBlankLine_times level)
  have hclosing (start : Bool) : Shift u (u.times level) start ('\\' :: closing) ('\\' :: closing) :=
    .of_text (by decide) (by decide) start (.of_notMem hc)
  unfold Grammar.closed
  rw [hblock]
  split
  case isTrue hb =>
    rw [hb, Bool.toNat_true, Indentation.times_succ_right] at htext
    have htext' := htext.narrow (newline_notMem_of_isBlankLine hu.isBlankLine) hm
    have hend := htext'.append hm (.newline (.margin (by simp) (hclosing false)))
    have hf := hfits hb
    rw [hf.eq_ofUnit, Indentation.margin_ofUnit, Indentation.margin_ofUnit, Indentation.times_succ]
    simpa using hend
  case isFalse hb =>
    rw [Bool.not_eq_true] at hb
    rw [hb] at htext
    exact htext.append hm (hclosing _)

/-! ### Lines -/

/-- A control sequence. Where its output ends with a newline, nothing but a comment can follow. -/
lemma Control.shift (hu : Indentation.IsUnit u) (hT : T.Tames u (.ofLevel level) S)
    (hG : G.Shifts u level G') (hc : Control T G level k out k') (hk : k.indentation.Fits u level)
    (hk' : k'.indentation.Fits u 0) :
    ∃ out', Control S G' (level + 1) (k.nest u false) out' (k'.nest u false) ∧
      Shift u (u.times level) false out out' ∧
      (lineStart false out = true → k'.rest.atLineEnd || k'.rest.starts (· == '%')) := by
  have hf := hk.keeps (hc.keeps hG.keeps) hk'
  have hm := newline_notMem_of_isBlankLine (hu.isBlankLine_times level)
  -- Such an output does not end with a newline.
  have hmoves {out out' : Text} {k' : Config σ} (h : Moves u level out out') :
      Shift u (u.times level) false out out' ∧
        (lineStart false out = true → k'.rest.atLineEnd || k'.rest.starts (· == '%')) := by
    rw [h.within]
    exact ⟨h.shift, nofun⟩
  cases hc with
  | command hn hd hv hg =>
    obtain ⟨hne, hline, hout, c, hd', hp, hg'⟩ := hT.command hd hg
    have hv' := hv.shift hu hG hline
    rw [← hp] at hv'
    exact ⟨out, .command (hn.nest_within (hn.newline_notMem hne)) hd' hv' hg',
      hmoves (.of_settled hout)⟩
  | @environment t name r blanks r' out e values i j h h' h'' body r'' hn hd hv hb hbody hrun =>
    obtain ⟨hne, e', hd', hp, hraw, hgen⟩ := hT.environment hd
    obtain ⟨⟨hmarginless, hline, -⟩, hrun'⟩ := hgen hrun
    have hv' := hv.shift hu hG hline
    rw [indent_blanks hb, indent_cons (by decide), ← hp] at hv'
    obtain ⟨body', hbody', hdedent⟩ := hbody.shift hu hG hk hk'
    rw [← eq_of_marginless hu hdedent hmarginless] at hrun'
    rw [← hraw] at hbody'
    refine ⟨indentTail ((Indentation.ofUnit u).margin (level + 1)) out,
      .environment (hn.nest_within (hn.newline_notMem hne)) hd' hv' hb hbody' hrun', ?_,
      fun _ => hbody.stops hG.stops⟩
    have hm' := newline_notMem_of_isBlankLine (hu.isBlankLine_times (level + 1))
    rw [hf.margin_eq, Indentation.margin_ofUnit, indentTail_eq hm, indentTail_eq hm',
      Indentation.times_succ]
    exact .of_indent out
  | @symbol t name r i h hn hd ha =>
    obtain ⟨hd', hne⟩ := hT.undefined hd
    have hnl := hn.newline_notMem hne
    exact ⟨_, .symbol (hn.nest_within hnl) hd' ha,
      hmoves (.of_notMem (by simp [Markup.control, hnl]))⟩
  | @plain t name r args blanks r' i h hn hd ha hargs hb hr =>
    obtain ⟨hd', hne⟩ := hT.undefined hd
    have hnl := hn.newline_notMem hne
    obtain ⟨args', hargs', hs⟩ := hargs.shift hu hG
    rw [indent_blanks hb] at hargs'
    have hcontrol : Moves u level (Markup.control name) (Markup.control name) :=
      .of_notMem (by simp [Markup.control, hnl])
    refine ⟨_, ?_, hmoves (hcontrol.append hu hs)⟩
    simp only [Config.nest, indent_blanks hb]
    exact .plain (hn.nest_within hnl) hd' ha hargs' hb (by rwa [starts_indent])
  | @native t name r args blanks r' i h body _ hn hd ha hargs hb hbody =>
    obtain ⟨hd', hne⟩ := hT.undefined hd
    have hnl := hn.newline_notMem hne
    obtain ⟨args', hargs', hs⟩ := hargs.shift hu hG
    rw [indent_blanks hb, indent_cons (by decide)] at hargs'
    obtain ⟨body', hbody', hbs⟩ := hbody.shift hu hG hk hk'
    obtain ⟨opening, closing, ho, hcl, heq⟩ := environment_eq hnl
    refine ⟨_, .native (hn.nest_within hnl) hd' ha hargs' hb hbody', ?_, ?_⟩
    · have hopening : '\n' ∉ '\\' :: opening := by simp [ho]
      have hinner := hs.shift.append hm (by
        rw [hs.within]
        exact hbs.closed hu hcl)
      have houter := (Shift.of_notMem hopening).append hm (by
        rwa [lineStart_of_notMem hopening])
      rw [heq, heq]
      exact houter
    · rw [(indent_environment (u := u) hnl hs.within _).2.1]
      nofun

/-- A line, from within. At the start of a line of the output there is nothing but a comment left. -/
lemma Line.shift (hu : Indentation.IsUnit u) (hT : T.Tames u (.ofLevel level) S)
    (hG : G.Shifts u level G') {stop : Bool} (hl : Line T G level stop k out k')
    (hk : k.indentation.Fits u level) (hk' : k'.indentation.Fits u 0) (start : Bool)
    (hstart : start = true → k.rest.atLineEnd || k.rest.starts (· == '%')) :
    ∃ out', Line S G' (level + 1) stop (k.nest u false) out' (k'.nest u false) ∧
      Shift u (u.times level) start out out' := by
  have hm := newline_notMem_of_isBlankLine (hu.isBlankLine_times level)
  induction hl generalizing start with
  | @done k hd =>
    exact ⟨[], .done (by simpa [Config.nest, atLineEnd_indent, starts_indent] using hd), .nil⟩
  | @char c t out i h k hc _ ih =>
    have hcn : c ≠ '\n' := by
      rintro rfl
      exact absurd hc (by decide)
    have hcp : c ≠ '%' := by
      rintro rfl
      exact absurd hc (by decide)
    obtain rfl : start = false := by
      cases start with
      | false => rfl
      | true => exact absurd (hstart rfl) (by simp [hcn, hcp])
    obtain ⟨out', hl', hs⟩ := ih hk hk' false (fun hf => absurd hf (by decide))
    refine ⟨c :: out', ?_, .char hcn hs⟩
    simp only [Config.nest, indent_cons hcn, pad_false, List.nil_append]
    exact .char hc hl'
  | @comment note r out i h k hs hn hr _ ih =>
    obtain ⟨out', hl', hs'⟩ := ih hk hk' false (fun hf => absurd hf (by decide))
    refine ⟨'%' :: note ++ out', ?_, ?_⟩
    · rw [Config.nest, indent_cons (by decide), indent_line_append hn]
      exact .comment hs hn (by rwa [atLineEnd_indent]) hl'
    · exact .of_text (by decide) (by decide) start
        ((Shift.of_notMem hn).append hm (by rwa [lineStart_of_notMem hn]))
  | @control t text out i h k k' hc hl ih =>
    obtain rfl : start = false := by
      cases start with
      | false => rfl
      | true => exact absurd (hstart rfl) (by simp)
    have hk₁ := hk'.of_keeps (hl.keeps hG.keeps)
    obtain ⟨text', hc', hs, hend⟩ := hc.shift hu hT hG hk hk₁
    obtain ⟨out', hl', hs'⟩ := ih (hk.keeps (hc.keeps hG.keeps) hk₁) hk' (lineStart false text) hend
    refine ⟨text' ++ out', ?_, hs.append hm hs'⟩
    rw [Config.nest, indent_cons (by decide)]
    exact .control hc' hl'
  | @group t body r out i h k hg _ ih =>
    obtain rfl : start = false := by
      cases start with
      | false => rfl
      | true => exact absurd (hstart rfl) (by simp)
    obtain ⟨body', hg', hbody⟩ := hG.group isBlank_brace hg
    obtain ⟨out', hl', hs⟩ := ih hk hk' false (fun hf => absurd hf (by decide))
    refine ⟨'\x7b' :: body' ++ '\x7d' :: out', ?_, ?_⟩
    · rw [Config.nest, indent_cons (by decide)]
      exact .group hg' hl'
    · exact .char (by decide) (hbody.shift.append hm (by
        rw [hbody.within]
        exact .char (by decide) hs))

/-- A line after its indentation. -/
lemma Line.of_blanks {stop : Bool} {w t : Text} {i : Indentation} {h : σ} (hw : w.isBlankLine)
    (hl : Line S G level stop ⟨w ++ t, i, h⟩ out k') :
    ∃ out', out = w ++ out' ∧ Line S G level stop ⟨t, i, h⟩ out' k' := by
  induction w generalizing out with
  | nil => exact ⟨out, rfl, hl⟩
  | cons c w ih =>
    rw [isBlankLine, List.all_cons, Bool.and_eq_true] at hw
    rw [List.cons_append] at hl
    generalize hx : w ++ t = x at hl
    cases hl with
    | done hd =>
      have hn : c ≠ '\n' ∧ c ≠ '%' := by
        constructor <;> rintro rfl <;> exact absurd hw.1 (by decide)
      exact absurd hd (by simp [hn.1, hn.2])
    | char _ hl =>
      subst hx
      obtain ⟨out', rfl, hl'⟩ := ih hw.2 hl
      exact ⟨out', rfl, hl'⟩
    | comment | control | group => exact absurd hw.1 (by decide)

/-- A line of a block, from the start of its indentation. -/
lemma Line.shift_whole (hu : Indentation.IsUnit u) (hT : T.Tames u (.ofLevel (level + 1)) S)
    (hG : G.Shifts u (level + 1) G')
    (hl : Line T G (level + 1) false k out k') (hk : k.indentation.Fits u (level + 1))
    (hk' : k'.indentation.Fits u 0) (hr : u.times (level + 1) <+: k.rest) :
    ∃ out', Line S G' (level + 1 + 1) false (k.nest u true) out' (k'.nest u false) ∧
      Shift u (u.times (level + 1)) true out out' := by
  obtain ⟨_, i, h⟩ := k
  obtain ⟨r, rfl⟩ := hr
  have hblank := hu.isBlankLine_times (level + 1)
  obtain ⟨text, rfl, hl₁⟩ := hl.of_blanks hblank
  obtain ⟨text', hl', hs⟩ := hl₁.shift hu hT hG hk hk' false nofun
  have hne : u.times (level + 1) ≠ [] := by
    rw [Indentation.times_succ]
    simp [hu.ne_nil]
  refine ⟨u ++ u.times (level + 1) ++ text', ?_, .margin (by simp [hne]) hs⟩
  simp only [Config.nest,
    indent_line_append_start hne (newline_notMem_of_isBlankLine hblank)]
  exact .run (run_of_isBlankLine (isBlankLine_append hu.isBlankLine hblank)) hl'

/-! ### Nesting levels -/

/-- What a flat level above reads. -/
lemma Shifts.above (hu : Indentation.IsUnit u) {T : Nat → Setup σ} {G : Nat → Grammar σ}
    (hT : ∀ level, (T level).Tames u (.ofLevel level) S) (hG : ∀ level, (G level).Shifts u level G') :
    (flat u (fun level => above (T level) (G level)) level).Shifts u level (Grammar.above S G') where
  group hclose hg := hg.1.shift hu (hT level) (hG level) hclose hg.2
  brackets := by
    rintro t r out ⟨r', hb, rfl⟩
    obtain ⟨out', hb', hm⟩ := hb.shift hu (hT level) (hG level)
    refine ⟨out', ⟨_, hb', ?_⟩, hm⟩
    cases hm <;> rfl
  line {level _ _ _ _} hl hk hk' := hl.1.shift hu (hT level) (hG level) hk hk' false nofun
  wholeLine {level _ _ _} hl hk hk' hr :=
    hl.1.shift_whole hu (hT (level + 1)) (hG (level + 1)) hk hk' hr
  keeps {level _ _ _ _} hl := hl.1.keeps (hG level).keeps
  stops hl := hl.1.stops
  starts hl := hl.2 rfl

/-- Whatever is read in a flat reading with some room for nesting is read one level deeper. -/
theorem flatRoom_shifts (hu : Indentation.IsUnit u) (S : Setup σ) (n level : Nat) :
    (flatRoom u S n level).Shifts u level (ofRoom S n) := by
  induction n generalizing level with
  | zero =>
    exact { group := nofun, brackets := nofun, line := nofun, wholeLine := nofun, keeps := nofun,
            stops := nofun, starts := nofun }
  | succ n ih => exact .above hu (fun level => S.flat_tames (.ofLevel level)) ih

end Grammar

end IndentTex
