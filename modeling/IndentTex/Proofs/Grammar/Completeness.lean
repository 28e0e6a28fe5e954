import IndentTex.Proofs.Grammar
import IndentTex.Proofs.Progress

/-!
# Whatever the grammar derives is read

The converse of soundness: from every state with the configuration where a derivation starts, the
reader succeeds with the output of the derivation and ends in the configuration where the
derivation ends. A loop is given at least as much room as there are characters left. Each of its
rounds takes up the longest run of plain characters and one further rule of the derivation.
-/

namespace IndentTex

variable {σ α β : Type}

/-- What the configuration of a state consists of. -/
lemma State.config_eq_iff {s : State σ} {t : Text} {i : Indentation} {h : σ} :
    s.config = ⟨t, i, h⟩ ↔ s.cursor.rest = t ∧ s.indentation = i ∧ s.host = h := by
  simp [State.config]

namespace Scan

/-- `m` succeeds from every state with configuration `k`, with value `a` and configuration `k'`. -/
def Reads (m : Scan σ α) (k : Config σ) (a : α) (k' : Config σ) : Prop :=
  ∀ s : State σ, s.config = k → ∃ s', m s = .ok a s' ∧ s'.config = k'

namespace Reads

variable {m : Scan σ α} {f : α → Scan σ β} {k k' k'' : Config σ} {a : α} {b : β}
variable {t w r : Text} {i j : Indentation} {h : σ} {c : Char} {p : Char → Bool}

/-- A value is read from nothing. -/
lemma pure (a : α) (k : Config σ) : Reads (Pure.pure a) k a k := fun s hs => ⟨s, rfl, hs⟩

/-- Steps are read one after the other. -/
lemma bind (hm : Reads m k a k') (hf : Reads (f a) k' b k'') : Reads (m >>= f) k b k'' := by
  intro s hs
  obtain ⟨s', h', hs'⟩ := hm s hs
  rw [bind_of_ok h']
  exact hf s' hs'

/-- A function of what is read. -/
lemma map {g : α → β} (hm : Reads m k a k') : Reads (g <$> m) k (g a) k' := by
  intro s hs
  obtain ⟨s', h', hs'⟩ := hm s hs
  exact ⟨s', by rw [map_run, h'], hs'⟩

/-- A place that is marked can be returned to. -/
lemma mark {f : Cursor → Scan σ β} (hf : ∀ c : Cursor, c.rest = k.rest → Reads (f c) k b k') :
    Reads (Scan.mark >>= f) k b k' := by
  intro s hs
  rw [bind_of_ok (mark_run s)]
  exact hf s.cursor (by rw [← hs]; rfl) s hs

/-- Going to a cursor leaves what is left there. -/
lemma goTo {c : Cursor} (hc : c.rest = r) :
    Reads (Scan.goTo c) ⟨t, i, h⟩ () ⟨r, i, h⟩ := by
  intro s hs
  refine ⟨_, goTo_run c s, ?_⟩
  cases hs
  rw [← hc]
  rfl

/-- The next character is looked at. -/
lemma peek : Reads Scan.peek ⟨t, i, h⟩ t.head? ⟨t, i, h⟩ := by
  intro s hs
  refine ⟨s, ?_, hs⟩
  cases hs
  rfl

/-- The end of the source is seen. -/
lemma isFinished : Reads Scan.isFinished ⟨t, i, h⟩ t.isEmpty ⟨t, i, h⟩ := by
  intro s hs
  refine ⟨s, ?_, hs⟩
  cases hs
  rfl

/-- Characters are read one after the other. -/
lemma skip (n : Nat) : Reads (Scan.skip n) ⟨t, i, h⟩ () ⟨t.drop n, i, h⟩ := by
  intro s hs
  refine ⟨_, skip_run n s, ?_⟩
  cases hs
  rfl

/-- A run is read up to where it ends. -/
lemma skipWhile (hw : w.all p) (hr : r.starts p = false) :
    Reads (Scan.skipWhile p) ⟨w ++ r, i, h⟩ w ⟨r, i, h⟩ := by
  intro s hs
  obtain ⟨rest, rfl, rfl⟩ := State.config_eq_iff.1 hs
  refine ⟨s.advance w.length, ?_, ?_⟩
  · rw [skipWhile_run, rest, Text.takeWhile_run hw hr]
  · rw [State.config, State.advance_rest, rest, List.drop_left]
    rfl

/-- Blank lines are read up to a line that is not blank. -/
lemma skipBlankLines {blank : Text} (hb : (blank ++ r).blankLines = blank) :
    Reads Scan.skipBlankLines ⟨blank ++ r, i, h⟩ blank ⟨r, i, h⟩ := by
  intro s hs
  obtain ⟨rest, rfl, rfl⟩ := State.config_eq_iff.1 hs
  refine ⟨s.advance blank.length, ?_, ?_⟩
  · rw [skipBlankLines_run, rest, hb]
  · rw [State.config, State.advance_rest, rest, List.drop_left]
    rfl

/-- A blank source is read as a whole. -/
lemma skipBlankText (ht : t.blankLines = t) :
    Reads Scan.skipBlankLines ⟨t, i, h⟩ t ⟨[], i, h⟩ := by
  have hs : Reads Scan.skipBlankLines ⟨t ++ [], i, h⟩ t ⟨[], i, h⟩ :=
    .skipBlankLines (by rw [List.append_nil, ht])
  rwa [List.append_nil] at hs

/-- The level of a line is read off its indentation. -/
lemma indentLevel {level : Nat}
    (hl : Indentation.levelOf (t.takeWhile isHorizontal) i = .ok level j) :
    Reads Scan.indentLevel ⟨t, i, h⟩ level ⟨t, j, h⟩ := by
  intro s hs
  cases hs
  refine ⟨{ s with indentation := j }, ?_, rfl⟩
  unfold Scan.indentLevel
  rw [show Indentation.levelOf s.cursor.indentation s.indentation = _ from hl]

/-- A margin is written in the present unit. -/
lemma margin (level : Nat) (k : Config σ) :
    Reads (Scan.margin level) k (k.indentation.margin level) k := by
  intro s hs
  refine ⟨s, ?_, hs⟩
  rw [← hs]
  rfl

/-- A loop reads what it reads with as many rounds as there are characters. -/
lemma bounded {loop : Nat → Scan σ α} (hl : Reads (loop k.rest.length) k a k') :
    Reads (Scan.bounded loop) k a k' := by
  intro s hs
  obtain ⟨s', h', hs'⟩ := hl s hs
  refine ⟨s', ?_, hs'⟩
  rw [← h', ← hs]
  rfl

/-- What is left after a reader that never goes back. -/
lemma length_le (hm : Onward m) (hr : Reads m k a k') : k'.rest.length ≤ k.rest.length := by
  obtain ⟨s', h', hs'⟩ := hr ⟨⟨[], k.rest⟩, k.indentation, false, k.host⟩ rfl
  rw [← hs']
  exact hm.length_le h'

end Reads

end Scan

/-- Readers at a level that read whatever the grammar of a level derives. -/
structure Level.Complete (inner : Level σ) (G : Grammar σ) : Prop where
  onward : inner.Onward
  group {close : Char} {t out r : Text} (i : Indentation) (h : σ) : G.group close t out r →
    Scan.Reads (inner.group close) ⟨t, i, h⟩ out ⟨r, i, h⟩
  brackets {t r : Text} {out : Option Text} (i : Indentation) (h : σ) : G.brackets t out r →
    Scan.Reads inner.brackets ⟨t, i, h⟩ out ⟨r, i, h⟩
  line {level : Nat} {stop : Bool} {k k' : Config σ} {out : Text} : G.line level stop k out k' →
    Scan.Reads (inner.line level stop) k out k'

namespace Scan

open Grammar

variable {S : Setup σ} {inner : Level σ} {G : Grammar σ}
variable {t r : Text} {i : Indentation} {h : σ}

/-! ### Arguments -/

/-- Names in the grammar are read (`parse_control_name`). -/
lemma controlName_complete {name : Text} (hn : ControlName t name r) :
    Reads controlName ⟨t, i, h⟩ name ⟨r, i, h⟩ := by
  cases hn with
  | word hne ha hr =>
    cases name with
    | nil => exact absurd rfl hne
    | cons c name => exact .bind .peek (.bind (.skipWhile ha hr) (.pure _ _))
  | @symbol c _ hc =>
    refine .bind .peek ?_
    have hw : Reads (skipWhile isAlphabetic) ⟨[] ++ c :: r, i, h⟩ [] ⟨c :: r, i, h⟩ :=
      .skipWhile rfl hc
    exact .bind hw (.bind (.skip 1) (.pure _ _))

/-- A literal text before its closing character is read (`scan_raw`). -/
lemma raw_complete {close : Char} {oneLine : Bool} {v : Text}
    (hv : rawText? close oneLine (v ++ close :: r) = some v) :
    Reads (raw close oneLine) ⟨v ++ close :: r, i, h⟩ (some v) ⟨r, i, h⟩ := by
  refine .mark fun c hc => ?_
  rw [hc, hv]
  have hs := Reads.skip (t := v ++ close :: r) (i := i) (h := h) (v.length + 1)
  rw [List.drop_length_add_append] at hs
  exact .bind hs (.pure _ _)

/-- Where there is no literal text, nothing is read. -/
lemma raw_none {close : Char} {oneLine : Bool} (hv : rawText? close oneLine t = none) :
    Reads (raw close oneLine) ⟨t, i, h⟩ none ⟨t, i, h⟩ := by
  refine .mark fun c hc => ?_
  rw [hc, hv]
  exact .pure _ _

/-- What a probe finds is kept. -/
lemma orBack_some {probe : Scan σ (Option Text)} {k k' : Config σ} {v : Text} (start : Cursor)
    (hp : Reads probe k (some v) k') : Reads (orBack start probe) k (some v) k' :=
  .bind hp (.pure _ _)

/-- Where a probe finds nothing, the cursor goes back. -/
lemma orBack_none {probe : Scan σ (Option Text)} {k : Config σ} {t : Text} {start : Cursor}
    (hp : Reads probe k none ⟨r, i, h⟩) (hs : start.rest = t) :
    Reads (orBack start probe) k none ⟨t, i, h⟩ :=
  .bind hp (.bind (.goTo hs) (.pure _ _))

/-- Optional arguments in the grammar are read (`parse_optional_arg`). -/
lemma optionalArgument_complete (hI : inner.Complete G) {isRaw : Bool} {value : Option Text}
    (hv : Optional G isRaw t value r) :
    Reads (optionalArgument inner isRaw) ⟨t, i, h⟩ value ⟨r, i, h⟩ := by
  refine .mark fun start hstart => ?_
  cases hv with
  | @absent _ blanks r hb hr =>
    have hr' : r.starts isHorizontal = false ∧ r.head? ≠ some '[' := by
      cases r with
      | nil => exact ⟨rfl, nofun⟩
      | cons c r => simpa using hr
    refine .bind (.skipWhile hb hr'.1) (.bind .peek ?_)
    rw [if_neg hr'.2]
    exact .bind (.goTo hstart) (.pure _ _)
  | raw hb hv =>
    exact .bind (.skipWhile hb (by rfl)) (.bind .peek (.bind (.skip 1)
      (orBack_some start (raw_complete hv))))
  | rawOpen hb hv =>
    exact .bind (.skipWhile hb (by rfl)) (.bind .peek (.bind (.skip 1)
      (orBack_none (raw_none hv) hstart)))
  | brackets hb hv =>
    exact .bind (.skipWhile hb (by rfl)) (.bind .peek (.bind (.skip 1)
      (orBack_some start (hI.brackets i h hv))))
  | bracketsOpen hb hv =>
    exact .bind (.skipWhile hb (by rfl)) (.bind .peek (.bind (.skip 1)
      (orBack_none (hI.brackets i h hv) hstart)))

/-- Required arguments in the grammar are read (`parse_required_arg`). -/
lemma requiredArgument_complete (hI : inner.Complete G) {name value : Text} {isRaw : Bool}
    (hv : Required G isRaw t value r) :
    Reads (requiredArgument inner name isRaw) ⟨t, i, h⟩ value ⟨r, i, h⟩ := by
  cases hv with
  | raw hb hv =>
    exact .bind (.skipWhile hb (by rfl)) (.bind .peek (.bind (.skip 1)
      (.bind (raw_complete hv) (.pure _ _))))
  | group hb hg =>
    exact .bind (.skipWhile hb (by rfl)) (.bind .peek (.bind (.skip 1) (hI.group i h hg)))

/-- Arguments in the grammar are read (`parse_args`). -/
lemma arguments_complete (hI : inner.Complete G) {name : Text} {params : Params}
    {values : List (Option Text)} (hv : Arguments G params t values r) :
    Reads (arguments inner name params) ⟨t, i, h⟩ values ⟨r, i, h⟩ := by
  induction hv with
  | nil => exact .pure _ _
  | optional ho hv _ ih =>
    refine .bind ?_ (.bind ih (.pure _ _))
    rw [argument, if_pos ho]
    exact optionalArgument_complete hI hv
  | required ho hv _ ih =>
    refine .bind ?_ (.bind ih (.pure _ _))
    rw [argument, ho, if_neg nofun]
    exact (requiredArgument_complete hI hv).map

/-- A command whose arguments are in the grammar is read with its output (`parse_custom_command`).
-/
lemma customCommand_complete (hI : inner.Complete G) {c : Command} {values : List (Option Text)}
    {out : Text} (hv : Arguments G c.params t values r) (hg : c.generate values = .ok out) :
    Reads (customCommand inner c) ⟨t, i, h⟩ out ⟨r, i, h⟩ := by
  refine .bind (arguments_complete hI hv) ?_
  rw [hg]
  exact .pure _ _

/-- Control sequences of arguments in the grammar are read (`parse_arg_control`). -/
lemma argumentControl_complete (hI : inner.Complete G) {out : Text}
    (hc : ArgumentControl S.registry G t out r) :
    Reads (argumentControl S inner) ⟨t, i, h⟩ out ⟨r, i, h⟩ := by
  cases hc with
  | native hn hf =>
    refine .bind (controlName_complete hn) ?_
    rw [hf]
    exact .pure _ _
  | command hn hf hv hg =>
    refine .bind (controlName_complete hn) ?_
    rw [hf]
    exact customCommand_complete hI hv hg

/-- The rest of a line is read. -/
lemma skipLine_complete {note : Text} (hn : '\n' ∉ note) (hr : r.atLineEnd) :
    Reads skipLine ⟨note ++ r, i, h⟩ note ⟨r, i, h⟩ := by
  refine .skipWhile ?_ ?_
  · rw [List.all_eq_true]
    intro c hc
    have hne : c ≠ '\n' := fun he => hn (he ▸ hc)
    simpa using hne
  · cases r with
    | nil => rfl
    | cons c r => simpa using hr

/-- Comments are read (`parse_comment`). -/
lemma comment_complete {note : Text} (hn : '\n' ∉ note) (hr : r.atLineEnd) :
    Reads comment ⟨note ++ r, i, h⟩ ('%' :: note) ⟨r, i, h⟩ :=
  .bind (skipLine_complete hn hr) (.pure _ _)

end Scan

/-! ### Groups -/

namespace Grammar

variable {registry : Registry} {G : Grammar σ} {close : Char} {t r : Text}

/-- The plain characters at the start of a group are a run that ends before another rule. -/
lemma Group.split {out : Text} (hg : Group registry G close t out r) :
    ∃ w t' out', t = w ++ t' ∧ out = w ++ out' ∧ (w.all fun c => !Scan.endsGroupRun close c) ∧
      t'.starts (fun c => !Scan.endsGroupRun close c) = false ∧
      Group registry G close t' out' r := by
  induction hg with
  | char hc _ ih =>
    obtain ⟨w, t', out', rfl, rfl, hw, hs, hg⟩ := ih
    exact ⟨_ :: w, t', out', rfl, rfl, by simpa [hc] using hw, hs, hg⟩
  | close => exact ⟨[], _, _, rfl, rfl, rfl, by simp [Scan.endsGroupRun], .close⟩
  | group hne hb hg => exact ⟨[], _, _, rfl, rfl, rfl, by simp [Scan.endsGroupRun], .group hne hb hg⟩
  | control hne hb hg =>
    exact ⟨[], _, _, rfl, rfl, rfl, by simp [Scan.endsGroupRun], .control hne hb hg⟩
  | comment hne hb hr hg =>
    exact ⟨[], _, _, rfl, rfl, rfl, by simp [Scan.endsGroupRun], .comment hne hb hr hg⟩

/-- The plain characters at the start of brackets are a run that ends before another rule. -/
lemma Brackets.split {out : Option Text} (hb : Brackets registry G t out r) :
    ∃ w t' out', t = w ++ t' ∧ out = out'.map (w ++ ·) ∧
      (w.all fun c => !Scan.endsBracketRun c) ∧
      t'.starts (fun c => !Scan.endsBracketRun c) = false ∧ Brackets registry G t' out' r := by
  induction hb with
  | char hc _ ih =>
    obtain ⟨w, t', out', rfl, rfl, hw, hs, hb⟩ := ih
    exact ⟨_ :: w, t', out', rfl, by rw [Option.map_map]; rfl, by simpa [hc] using hw, hs, hb⟩
  | @stop t ht =>
    refine ⟨[], t, none, rfl, rfl, rfl, ?_, .stop ht⟩
    cases t with
    | nil => rfl
    | cons c t =>
      simp only [Text.atLineEnd_cons, Text.starts_cons, Bool.or_eq_true, beq_iff_eq] at ht
      rcases ht with rfl | rfl <;> rfl
  | close => exact ⟨[], _, _, rfl, rfl, rfl, rfl, .close⟩
  | group hg hb => exact ⟨[], _, _, rfl, by rw [Option.map_map]; rfl, rfl, rfl, .group hg hb⟩
  | brackets hg hb => exact ⟨[], _, _, rfl, by rw [Option.map_map]; rfl, rfl, rfl, .brackets hg hb⟩
  | control hg hb => exact ⟨[], _, _, rfl, by rw [Option.map_map]; rfl, rfl, rfl, .control hg hb⟩

end Grammar

namespace Scan

open Grammar

variable {S : Setup σ} {inner : Level σ} {G : Grammar σ}
variable {t r : Text} {i : Indentation} {h : σ}

/-- Groups in the grammar are read (`scan_group`). -/
lemma groupLoop_complete (hI : inner.Complete G) {close : Char} {n : Nat} {out : Text}
    (hn : t.length ≤ n) (hg : Group S.registry G close t out r) :
    Reads (groupLoop S inner close n) ⟨t, i, h⟩ out ⟨r, i, h⟩ := by
  induction n generalizing t out with
  | zero =>
    obtain rfl := List.eq_nil_of_length_eq_zero (Nat.le_zero.1 hn)
    cases hg
  | succ n ih =>
    obtain ⟨w, t, out, rfl, rfl, hw, ht, hg⟩ := hg.split
    rw [List.length_append] at hn
    refine .bind (.skipWhile hw ht) (.bind .peek ?_)
    cases hg with
    | close =>
      dsimp only [List.head?_cons]
      rw [if_pos rfl, List.append_nil]
      exact .bind (.skip 1) (.pure _ _)
    -- The run was the longest one, so it is not followed by a plain character.
    | char hc => simp [hc] at ht
    | @group t body r' _ _ hne hb hg =>
      have hle : r'.length ≤ t.length := (hI.group i h hb).length_le (hI.onward.group _)
      rw [List.length_cons] at hn
      dsimp only [List.head?_cons]
      rw [if_neg (Ne.symm hne), if_neg (by decide), if_pos rfl, ← List.append_assoc]
      exact .bind (.skip 1) (.bind (hI.group i h hb) (.bind (ih (by omega) hg) (.pure _ _)))
    | @control t text r' _ _ hne hc hg =>
      have hr := argumentControl_complete (i := i) (h := h) hI hc
      have hle : r'.length ≤ t.length := hr.length_le hI.onward.argumentControl
      rw [List.length_cons] at hn
      dsimp only [List.head?_cons]
      rw [if_neg (Ne.symm hne), if_neg (by decide), if_neg (by decide), if_pos rfl,
        ← List.append_assoc]
      exact .bind (.skip 1) (.bind hr (.bind (ih (by omega) hg) (.pure _ _)))
    | comment hne hv hr hg =>
      rw [List.length_cons, List.length_append] at hn
      dsimp only [List.head?_cons]
      rw [if_neg (Ne.symm hne), if_neg (by decide), if_neg (by decide), if_neg (by decide),
        if_pos rfl, ← List.append_assoc]
      exact .bind (.skip 1) (.bind (comment_complete hv hr) (.bind (ih (by omega) hg) (.pure _ _)))

/-- Brackets in the grammar are read (`scan_optional_argstr`). -/
lemma bracketLoop_complete (hI : inner.Complete G) {n : Nat} {out : Option Text}
    (hn : t.length ≤ n) (hb : Brackets S.registry G t out r) :
    Reads (bracketLoop S inner n) ⟨t, i, h⟩ out ⟨r, i, h⟩ := by
  induction n generalizing t out with
  | zero =>
    obtain rfl := List.eq_nil_of_length_eq_zero (Nat.le_zero.1 hn)
    cases hb
    exact .pure _ _
  | succ n ih =>
    obtain ⟨w, t, out, rfl, rfl, hw, ht, hb⟩ := hb.split
    rw [List.length_append] at hn
    refine .bind (.skipWhile hw ht) (.bind .peek ?_)
    cases hb with
    | stop he =>
      cases r with
      | nil => exact .pure _ _
      | cons c r =>
        dsimp only [List.head?_cons]
        rw [if_pos (by simpa using he)]
        exact .pure _ _
    | close =>
      rw [Option.map_some, List.append_nil]
      exact .bind (.skip 1) (.pure _ _)
    | char hc => simp [hc] at ht
    | @group t body r' _ out hbody hg =>
      have hle : r'.length ≤ t.length := (hI.group i h hbody).length_le (hI.onward.group _)
      rw [List.length_cons] at hn
      refine .bind (.skip 1) (.bind (hI.group i h hbody) (.bind (ih (by omega) hg) ?_))
      cases out <;> simpa using Reads.pure _ _
    | @brackets t body r' _ out hbody hg =>
      have hle : r'.length ≤ t.length := (hI.group i h hbody).length_le (hI.onward.group _)
      rw [List.length_cons] at hn
      refine .bind (.skip 1) (.bind (hI.group i h hbody) (.bind (ih (by omega) hg) ?_))
      cases out <;> simpa using Reads.pure _ _
    | @control t text r' _ out hc hg =>
      have hr := argumentControl_complete (i := i) (h := h) hI hc
      have hle : r'.length ≤ t.length := hr.length_le hI.onward.argumentControl
      rw [List.length_cons] at hn
      refine .bind (.skip 1) (.bind hr (.bind (ih (by omega) hg) ?_))
      cases out <;> simpa using Reads.pure _ _

/-- Bracket arguments in the grammar of a level are read (`parse_optional_argstr`). -/
lemma bracketText_complete (hI : inner.Complete G) {out : Option Text}
    (hb : (above S G).brackets t out r) :
    Reads (bracketText S inner) ⟨t, i, h⟩ out ⟨r, i, h⟩ := by
  obtain ⟨r', hb, rfl⟩ := hb
  refine .mark fun start hs => ?_
  have hr : Reads (bounded (bracketLoop S inner)) ⟨t, i, h⟩ out ⟨r', i, h⟩ :=
    .bounded (bracketLoop_complete hI (Nat.le_refl _) hb)
  cases out with
  | some v => exact orBack_some start hr
  | none => exact orBack_none hr hs

/-- Copied arguments in the grammar are read (`parse_argstr`). -/
lemma argumentTextLoop_complete (hI : inner.Complete G) {n : Nat} {out : Text}
    (hn : t.length ≤ n) (ha : ArgumentText G t out r) :
    Reads (argumentTextLoop inner n) ⟨t, i, h⟩ out ⟨r, i, h⟩ := by
  induction n generalizing t out with
  | zero =>
    obtain rfl := List.eq_nil_of_length_eq_zero (Nat.le_zero.1 hn)
    -- The rules begin with blanks and something behind them, which `cases` cannot match with `[]`.
    generalize ht : ([] : Text) = t at ha
    cases ha with
    | stop =>
      rw [← ht]
      exact .pure _ _
    | bracketsOpen | group | brackets => simp at ht
  | succ n ih =>
    refine .mark fun start hstart => ?_
    cases ha with
    | @stop blanks r hb hr =>
      have hr' : r.starts isHorizontal = false ∧ r.head? ≠ some '\x7b' ∧ r.head? ≠ some '[' := by
        cases r with
        | nil => exact ⟨rfl, nofun, nofun⟩
        | cons c r => simpa [and_assoc] using hr
      refine .bind (.skipWhile hb hr'.1) (.bind .peek ?_)
      rw [if_neg hr'.2.1, if_neg hr'.2.2]
      exact .bind (.goTo hstart) (.pure _ _)
    | bracketsOpen hb hg =>
      exact .bind (.skipWhile hb (by rfl)) (.bind .peek (.bind (.skip 1)
        (.bind (hI.brackets i h hg) (.bind (.goTo hstart) (.pure _ _)))))
    | @group blanks t body r' out _ hb hg ha =>
      have hle : r'.length ≤ t.length := (hI.group i h hg).length_le (hI.onward.group _)
      rw [List.length_append, List.length_cons] at hn
      exact .bind (.skipWhile hb (by rfl)) (.bind .peek (.bind (.skip 1)
        (.bind (hI.group i h hg) (.bind (ih (by omega) ha) (.pure _ _)))))
    | @brackets blanks t body r' out _ hb hg ha =>
      have hle : r'.length ≤ t.length := (hI.brackets i h hg).length_le hI.onward.brackets
      rw [List.length_append, List.length_cons] at hn
      exact .bind (.skipWhile hb (by rfl)) (.bind .peek (.bind (.skip 1)
        (.bind (hI.brackets i h hg) (.bind (ih (by omega) ha) (.pure _ _)))))

/-! ### Blocks and bodies -/

/-- The next line in the grammar is found. -/
lemma nextLine_complete {level : Nat} {o : Option Text} {k k' : Config σ}
    (hx : NextLine level k o k') : Reads (nextLine level) k o k' := by
  refine .mark fun lineEnd hl => ?_
  cases hx with
  | finished => exact .bind .isFinished (.pure _ _)
  | @trailing t i h hb =>
    exact .bind .isFinished (.bind (.skip 1) (.bind (.skipBlankText hb) (.bind .isFinished
      (.bind (.goTo hl) (.pure _ _)))))
  | @lower blank r i j h next hb hne hi hlt =>
    refine .bind .isFinished (.bind (.skip 1) (.bind (.skipBlankLines hb) (.bind .isFinished ?_)))
    rw [if_neg (by simpa using hne)]
    refine .bind (.indentLevel hi) ?_
    rw [if_pos hlt]
    exact .bind (.goTo hl) (.pure _ _)
  | @same blank r i j h hb hne hi =>
    refine .bind .isFinished (.bind (.skip 1) (.bind (.skipBlankLines hb) (.bind .isFinished ?_)))
    rw [if_neg (by simpa using hne)]
    refine .bind (.indentLevel hi) ?_
    rw [if_neg (Nat.lt_irrefl level), if_neg (Nat.lt_irrefl level)]
    exact .pure _ _

/-- Blocks of lines in the grammar are read if each line is. -/
lemma linesLoop_complete {line : Scan σ Text} {L : Config σ → Text → Config σ → Prop}
    (hline : ∀ {k k' : Config σ} {out : Text}, L k out k' →
      Reads line k out k' ∧ k'.rest.length ≤ k.rest.length)
    {level n : Nat} {out : Text} {k k' : Config σ} (hn : k.rest.length ≤ n)
    (hb : Block L level k out k') : Reads (linesLoop line level n) k out k' := by
  induction n generalizing k out with
  | zero =>
    -- There is nothing to read, so there is one line, and it is empty.
    cases hb with
    | last hl hx =>
      obtain ⟨hr, hle⟩ := hline hl
      obtain ⟨-, rfl⟩ := hx.eq_of_nil (List.eq_nil_of_length_eq_zero (by omega))
      exact hr
    | more hl hx =>
      obtain ⟨-, hle⟩ := hline hl
      have hlt := hx.length_lt
      omega
  | succ n ih =>
    cases hb with
    | last hl hx => exact .bind (hline hl).1 (.bind (nextLine_complete hx) (.pure _ _))
    | more hl hx hb =>
      obtain ⟨hr, hle⟩ := hline hl
      have hlt := hx.length_lt
      exact .bind hr (.bind (nextLine_complete hx) (.bind (ih (by omega) hb) (.pure _ _)))

/-- Blocks in the grammar are read (`parse_block_lines`). -/
lemma blockLoop_complete (hI : inner.Complete G) {level n : Nat} {out : Text} {k k' : Config σ}
    (hn : k.rest.length ≤ n) (hb : Block (G.line level false) level k out k') :
    Reads (blockLoop inner level n) k out k' := by
  rw [blockLoop_eq_linesLoop]
  refine linesLoop_complete (fun hl => ?_) hn hb
  have hr := hI.line hl
  exact ⟨hr, hr.length_le (hI.onward.line level false)⟩

/-- Literal lines in the grammar are read. -/
lemma rawLine_complete {k k' : Config σ} {out : Text} (hl : RawLine k out k') :
    Reads skipLine k out k' := by
  cases hl with
  | mk hn hr => exact skipLine_complete hn hr

/-- Blocks of literal lines in the grammar are read (`raw_block_lines`). -/
lemma rawLinesLoop_complete {level n : Nat} {out : Text} {k k' : Config σ}
    (hn : k.rest.length ≤ n) (hb : Block RawLine level k out k') :
    Reads (rawLinesLoop level n) k out k' := by
  rw [rawLinesLoop_eq_linesLoop]
  exact linesLoop_complete (fun hl => ⟨rawLine_complete hl, hl.length_le⟩) hn hb

/-- The first line of a block in the grammar is found (`enter_block_body`). -/
lemma enterBlock_complete {level : Nat} {blank : Text} {k k' : Config σ}
    (he : Enter level k blank k') : Reads (enterBlock level) k blank k' := by
  cases he with
  | mk hb hne hl =>
    refine .bind (.skipBlankLines hb) (.bind .isFinished ?_)
    rw [if_neg (by simpa using hne)]
    refine .bind (.indentLevel hl) ?_
    rw [if_pos rfl]
    exact .pure _ _

/-- Blocks in the grammar are read with as many rounds as there are characters. -/
lemma blockLines_complete (hI : inner.Complete G) {level : Nat} {out : Text} {k k' : Config σ}
    (hb : Block (G.line level false) level k out k') : Reads (blockLines inner level) k out k' :=
  .bounded (blockLoop_complete hI (Nat.le_refl _) hb)

/-- Bodies in the grammar are read (`parse_environment_body`). -/
lemma environmentBody_complete (hI : inner.Complete G) {level : Nat} {body : Body}
    {k k' : Config σ} (hb : EnvironmentBody G level k body k') :
    Reads (environmentBody inner level) k body k' := by
  cases hb with
  | oneLine hb hc hn hp hl =>
    refine .bind (.skipWhile hb hc) (.bind .peek ?_)
    dsimp only [List.head?_cons]
    rw [if_neg hn, if_neg hp]
    exact .bind (hI.line hl) (.pure _ _)
  | block hb he hl =>
    exact .bind (.skipWhile hb (by rfl)) (.bind .peek (.bind (enterBlock_complete he)
      (.bind (blockLines_complete hI hl) (.pure _ _))))
  | comment hb hn hr he hl =>
    exact .bind (.skipWhile hb (by rfl)) (.bind .peek (.bind (.skip 1)
      (.bind (comment_complete hn hr) (.bind (enterBlock_complete he) (.bind (.margin _ _)
        (.bind (blockLines_complete hI hl) (.pure _ _)))))))

/-- Literal bodies in the grammar are read (`parse_raw_environment_body`). -/
lemma rawBody_complete {level : Nat} {body : Body} {k k' : Config σ}
    (hb : RawBody level k body k') : Reads (rawBody level) k body k' := by
  cases hb with
  | oneLine hb hc hn hl =>
    refine .bind (.skipWhile hb hc) (.bind .peek ?_)
    dsimp only [List.head?_cons]
    rw [if_neg hn]
    exact .bind (rawLine_complete hl) (.pure _ _)
  | block hb he hl =>
    exact .bind (.skipWhile hb (by rfl)) (.bind .peek (.bind (enterBlock_complete he)
      (.bind (.bounded (rawLinesLoop_complete (Nat.le_refl _) hl)) (.pure _ _))))

/-- Bodies of registered environments in the grammar are read and moved to the left. -/
lemma customBody_complete (hI : inner.Complete G) {e : Environment} {level : Nat} {body : Body}
    {k k' : Config σ} (hb : CustomBody G level e.raw k body k') :
    Reads (customBody inner e level) k (dedented level k'.indentation body) k' := by
  have hr : Reads (if e.raw then rawBody level else environmentBody inner level) k body k' := by
    generalize e.raw = raw at hb ⊢
    cases hb with
    | raw hb => exact rawBody_complete hb
    | interpreted hb => exact environmentBody_complete hI hb
  refine .bind hr ?_
  unfold dedented
  split
  · exact .bind (.margin _ _) (.pure _ _)
  · exact .pure _ _

/-- Bodies of environments without a definition in the grammar are read and closed. -/
lemma nativeBody_complete (hI : inner.Complete G) {level : Nat} {body : Body}
    {k k' : Config σ} (hb : EnvironmentBody G level k body k') :
    Reads (nativeBody inner level) k (closed level k'.indentation body) k' := by
  refine .bind (environmentBody_complete hI hb) ?_
  unfold closed
  split
  · exact .bind (.margin _ _) (.pure _ _)
  · exact .pure _ _

/-! ### Lines -/

/-- Expansions are carried out. -/
lemma expand_complete {executor : Executor σ} {x : Expansion} {out : Text} {h' : σ}
    (hx : x.run executor h = (.ok out, h')) : Reads (expand executor x) ⟨t, i, h⟩ out ⟨t, i, h'⟩ := by
  intro s hs
  obtain ⟨rfl, rfl, rfl⟩ := State.config_eq_iff.1 hs
  refine ⟨{ s with host := h' }, ?_, rfl⟩
  unfold expand
  rw [hx]
  rfl

/-- The state can be looked at. -/
lemma get_complete {f : State σ → Scan σ α} {k k' : Config σ} {a : α}
    (hf : ∀ s : State σ, s.config = k → Reads (f s) k a k') : Reads (get >>= f) k a k' := by
  intro s hs
  rw [bind_of_ok (get_run s)]
  exact hf s hs s hs

/-- A control sequence without a definition and without a colon is read (`parse_native_control`). -/
lemma nativeControl_complete (hI : inner.Complete G) {level : Nat} {name args blanks : Text}
    (ha : name.all isAlphabetic) (hargs : ArgumentText G t args (blanks ++ r))
    (hb : blanks.isBlankLine) (hr : r.starts (fun c => isHorizontal c || c == ':') = false) :
    Reads (nativeControl inner name level) ⟨t, i, h⟩ (Markup.control name ++ args)
      ⟨blanks ++ r, i, h⟩ := by
  have hr' : r.starts isHorizontal = false ∧ r.head? ≠ some ':' := by
    cases r with
    | nil => exact ⟨rfl, nofun⟩
    | cons c r => simpa using hr
  rw [nativeControl, if_pos ha]
  refine .bind (.bounded (argumentTextLoop_complete hI (Nat.le_refl _) hargs)) ?_
  refine .mark fun start hstart => .bind (.skipWhile hb hr'.1) (.bind .peek ?_)
  rw [if_neg hr'.2]
  exact .bind (.goTo hstart) (.pure _ _)

/-- A control sequence without a definition opens an environment with its colon. -/
lemma nativeControl_environment (hI : inner.Complete G) {level : Nat} {name args blanks : Text}
    {body : Body} {k : Config σ} (ha : name.all isAlphabetic)
    (hargs : ArgumentText G t args (blanks ++ ':' :: r)) (hb : blanks.isBlankLine)
    (hbody : EnvironmentBody G level ⟨r, i, h⟩ body k) :
    Reads (nativeControl inner name level) ⟨t, i, h⟩
      (Markup.environment name args (closed level k.indentation body)) k := by
  rw [nativeControl, if_pos ha]
  refine .bind (.bounded (argumentTextLoop_complete hI (Nat.le_refl _) hargs)) ?_
  exact .mark fun start _ => .bind (.skipWhile hb (by rfl)) (.bind .peek
    (.bind (.skip 1) (.bind (nativeBody_complete hI hbody) (.pure _ _))))

/-- Control sequences of lines in the grammar are read (`parse_block_control`). -/
lemma lineControl_complete (hI : inner.Complete G) {level : Nat} {out : Text} {k : Config σ}
    (hc : Control S G level ⟨t, i, h⟩ out k) :
    Reads (lineControl S inner level) ⟨'\\' :: t, i, h⟩ out k := by
  refine .bind (.skip 1) ?_
  cases hc with
  | command hn hd hv hg =>
    refine .bind (controlName_complete hn) ?_
    rw [hd]
    exact customCommand_complete hI hv hg
  | environment hn hd hv hb hbody hx =>
    refine .bind (controlName_complete hn) ?_
    rw [hd]
    refine .bind (arguments_complete hI hv) (.bind (.skipWhile hb (by rfl)) (.bind .peek
      (.bind (.skip 1) (.bind (customBody_complete hI hbody) (get_complete fun s hs => ?_)))))
    obtain ⟨-, rfl, -⟩ := State.config_eq_iff.1 hs
    exact .bind (expand_complete hx) (.bind (.margin _ _) (.pure _ _))
  | symbol hn hd ha =>
    refine .bind (controlName_complete hn) ?_
    rw [hd]
    dsimp only
    rw [nativeControl, ha, if_neg nofun]
    exact .pure _ _
  | plain hn hd ha hargs hb hr =>
    refine .bind (controlName_complete hn) ?_
    rw [hd]
    exact nativeControl_complete hI ha hargs hb hr
  | native hn hd ha hargs hb hbody =>
    refine .bind (controlName_complete hn) ?_
    rw [hd]
    exact nativeControl_environment hI ha hargs hb hbody

end Scan

/-- The plain characters at the start of a line are a run that ends before another rule. -/
lemma Grammar.Line.split {S : Setup σ} {G : Grammar σ} {level : Nat} {stop : Bool}
    {k k' : Config σ} {out : Text} (hl : Line S G level stop k out k') :
    ∃ w t out', k.rest = w ++ t ∧ out = w ++ out' ∧ (w.all fun c => !Scan.endsLineRun c) ∧
      t.starts (fun c => !Scan.endsLineRun c) = false ∧
      Line S G level stop ⟨t, k.indentation, k.host⟩ out' k' := by
  induction hl with
  | char hc _ ih =>
    obtain ⟨w, t, out', hr, rfl, hw, hs, hl⟩ := ih
    exact ⟨_ :: w, t, out', congrArg _ hr, rfl, by simpa [hc] using hw, hs, hl⟩
  | @done k hd =>
    refine ⟨[], k.rest, [], rfl, rfl, rfl, ?_, .done hd⟩
    cases hk : k.rest with
    | nil => rfl
    | cons c t =>
      rw [hk] at hd
      simp only [Text.atLineEnd_cons, Text.starts_cons, Bool.or_eq_true, Bool.and_eq_true,
        beq_iff_eq] at hd
      rcases hd with rfl | ⟨-, rfl⟩ <;> rfl
  | comment hs hn hr hl => exact ⟨[], _, _, rfl, rfl, rfl, rfl, .comment hs hn hr hl⟩
  | control hc hl => exact ⟨[], _, _, rfl, rfl, rfl, rfl, .control hc hl⟩
  | group hg hl => exact ⟨[], _, _, rfl, rfl, rfl, rfl, .group hg hl⟩

namespace Scan

open Grammar

variable {S : Setup σ} {inner : Level σ} {G : Grammar σ}

/-- Lines in the grammar are read (`scan_line`). -/
lemma lineLoop_complete (hI : inner.Complete G) {level n : Nat} {stop : Bool} {out : Text}
    {k k' : Config σ} (hn : k.rest.length ≤ n) (hl : Line S G level stop k out k') :
    Reads (lineLoop S inner level stop n) k out k' := by
  induction n generalizing k out with
  | zero =>
    have h0 := List.eq_nil_of_length_eq_zero (Nat.le_zero.1 hn)
    cases hl with
    | done => exact .pure _ _
    | char | comment | control | group => cases h0
  | succ n ih =>
    obtain ⟨t, i, h⟩ := k
    obtain ⟨w, t, out, rfl, rfl, hw, ht, hl⟩ := hl.split
    dsimp only at hn hl
    rw [List.length_append] at hn
    refine .bind (.skipWhile hw ht) (.bind .peek ?_)
    cases hl with
    | done hd =>
      rw [List.append_nil]
      cases t with
      | nil => exact .pure _ _
      | cons c t =>
        dsimp only [List.head?_cons]
        rw [if_pos (by simpa [and_comm] using hd)]
        exact .pure _ _
    | char hc => simp [hc] at ht
    | comment hs hv hr hl =>
      rw [List.length_cons, List.length_append] at hn
      dsimp only [List.head?_cons]
      rw [if_neg (by simp [hs]), if_pos rfl, ← List.append_assoc]
      exact .bind (.skip 1) (.bind (comment_complete hv hr) (.bind (ih (by simp; omega) hl)
        (.pure _ _)))
    | @control t text _ _ _ k₁ _ hc hl =>
      have hr := lineControl_complete hI hc
      -- The bound for the next round needs a run: a derivation does not say that it moves on.
      obtain ⟨s, hs, hk⟩ := hr ⟨⟨[], '\\' :: t⟩, i, false, h⟩ rfl
      have hle : k₁.rest.length ≤ t.length := hk ▸ hI.onward.lineControl_length_le hs
      rw [List.length_cons] at hn
      rw [← List.append_assoc]
      exact .bind hr (.bind (ih (by omega) hl) (.pure _ _))
    | @group t body r _ _ _ _ hg hl =>
      have hle : r.length ≤ t.length := (hI.group i h hg).length_le (hI.onward.group _)
      rw [List.length_cons] at hn
      rw [← List.append_assoc]
      exact .bind (.skip 1) (.bind (hI.group i h hg) (.bind (ih (by dsimp only; omega) hl)
        (.pure _ _)))

end Scan

/-- A level above a complete one is complete. -/
lemma Level.Complete.above {S : Setup σ} {inner : Level σ} {G : Grammar σ}
    (hI : inner.Complete G) : (Level.above S inner).Complete (Grammar.above S G) where
  onward := hI.onward.above
  group _ _ hg := .bounded (Scan.groupLoop_complete hI (Nat.le_refl _) hg)
  brackets _ _ hb := Scan.bracketText_complete hI hb
  line hl := .bounded (Scan.lineLoop_complete hI (Nat.le_refl _) hl)

/-- What is in the grammar with some room for nesting is read with that room. -/
theorem Level.ofRoom_complete (S : Setup σ) (n : Nat) :
    (Level.ofRoom S n).Complete (Grammar.ofRoom S n) := by
  induction n with
  | zero =>
    exact { onward := Level.ofRoom_onward S 0, group := nofun, brackets := nofun, line := nofun }
  | succ n ih => exact ih.above

namespace Scan

open Grammar

variable {inner : Level σ} {G : Grammar σ} {k k' : Config σ} {out : Text}

/-- Blocks at the level of their first line in the grammar are read (`parse_block`). -/
lemma block_complete (hI : inner.Complete G) (hb : WholeBlock G k out k') :
    Reads (block inner) k out k' := by
  cases hb with
  | @blank t i h hb =>
    exact .bind (.skipBlankText hb) (.bind .isFinished (.pure _ _))
  | lines hb hne hl hlines =>
    refine .bind (.skipBlankLines hb) (.bind .isFinished ?_)
    rw [if_neg (by simpa using hne)]
    exact .bind (.indentLevel hl) (.bind (blockLines_complete hI hlines) (.pure _ _))

/-- Sequences of blocks in the grammar are read. -/
lemma fragmentLoop_complete (hI : inner.Complete G) {n : Nat} (hn : k.rest.length ≤ n)
    (hf : Fragment G k out k') : Reads (fragmentLoop inner n) k out k' := by
  induction n generalizing k out with
  | zero =>
    cases hf with
    | last hb => exact block_complete hI hb
    | more hb hf =>
      have hle := (block_complete hI hb).length_le hI.onward.block
      rw [List.length_cons] at hle
      omega
  | succ n ih =>
    cases hf with
    | last hb => exact .bind (block_complete hI hb) (.bind .isFinished (.pure _ _))
    | @more _ _ t _ _ i h hb hf =>
      have hle := (block_complete hI hb).length_le hI.onward.block
      rw [List.length_cons] at hle
      have hm := ih (k := ⟨t, i, h⟩) (Nat.le_of_lt_succ (Nat.lt_of_lt_of_le hle hn)) hf
      exact .bind (block_complete hI hb) (.bind .isFinished (.bind (.skip 1)
        (.bind hm (.pure _ _))))

/-- Fragments in the grammar are read (`translate_fragment`). -/
lemma fragment_complete (hI : inner.Complete G) (hf : Fragment G k out k') :
    Reads (fragment inner) k out k' :=
  .bounded (fragmentLoop_complete hI (Nat.le_refl _) hf)

end Scan

end IndentTex
