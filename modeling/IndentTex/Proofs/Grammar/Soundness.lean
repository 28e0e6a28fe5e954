import IndentTex.Proofs.Grammar
import IndentTex.Proofs.Progress

/-!
# Every successful run follows the grammar

Whatever a reader reads, the grammar derives: the output of a run that succeeds and the
configuration that it leaves are related to the configuration where it started by the relation of
the reader. The loops are bounded by the characters that are left. That a loop never runs into its
bound early comes from the progress of every round.
-/

namespace IndentTex

variable {σ : Type}

/-- Only the cursor moved. -/
structure State.Kept (s s' : State σ) : Prop where
  indentation : s'.indentation = s.indentation
  host : s'.host = s.host

namespace State.Kept

variable {s s' s'' : State σ}

/-- Nothing has changed in a state itself. -/
@[simp] lemma refl (s : State σ) : s.Kept s := ⟨rfl, rfl⟩

/-- What is kept twice is kept. -/
lemma trans (h : s.Kept s') (h' : s'.Kept s'') : s.Kept s'' :=
  ⟨h'.indentation.trans h.indentation, h'.host.trans h.host⟩

/-- Reading keeps the unit and the executor. -/
@[simp] lemma advance (s : State σ) (n : Nat) : s.Kept (s.advance n) := ⟨rfl, rfl⟩

/-- Another cursor keeps the unit and the executor. -/
@[simp] lemma withCursor (s : State σ) (c : Cursor) : s.Kept { s with cursor := c } := ⟨rfl, rfl⟩

/-- What is kept after reading is kept. -/
lemma of_advance {n : Nat} (h : (s.advance n).Kept s') : s.Kept s' := (advance s n).trans h

end State.Kept

/-- Readers at a level whose successful runs follow the grammar of a level. -/
structure Level.Sound (inner : Level σ) (G : Grammar σ) : Prop where
  onward : inner.Onward
  group {close : Char} {s s' : State σ} {out : Text} : inner.group close s = .ok out s' →
    G.group close s.cursor.rest out s'.cursor.rest ∧ s.Kept s'
  brackets {s s' : State σ} {out : Option Text} : inner.brackets s = .ok out s' →
    G.brackets s.cursor.rest out s'.cursor.rest ∧ s.Kept s'
  line {level : Nat} {stop : Bool} {s s' : State σ} {out : Text} :
    inner.line level stop s = .ok out s' → G.line level stop s.config out s'.config
  ends {level : Nat} {k k' : Config σ} {out : Text} : G.line level false k out k' →
    k'.rest.atLineEnd

/-- The configuration of a state, by what is left of the source. -/
lemma State.config_eq {s : State σ} {t : Text} (h : s.cursor.rest = t) :
    s.config = ⟨t, s.indentation, s.host⟩ := by
  rw [← h]
  rfl

/-- After one character the others are left. -/
lemma State.advance_one {s : State σ} {c : Char} {r : Text} (h : s.cursor.rest = c :: r) :
    (s.advance 1).cursor.rest = r := by
  rw [State.advance_rest, h]
  rfl

/-- What is left after a run and one more character fits the bound of the next round. -/
lemma State.length_le_of_run {s : State σ} {w r : Text} {c : Char} {n : Nat}
    (ht : s.cursor.rest = w ++ c :: r) (hn : s.cursor.rest.length ≤ n + 1) : r.length ≤ n := by
  rw [ht, List.length_append, List.length_cons] at hn
  omega

namespace Scan

open Grammar

variable {S : Setup σ} {inner : Level σ} {G : Grammar σ} {s s' : State σ}

/-- A name that is read is in the grammar (`parse_control_name`). -/
lemma controlName_sound {name : Text} (h : controlName s = .ok name s') :
    ControlName s.cursor.rest name s'.cursor.rest ∧ s.Kept s' := by
  obtain ⟨w, r, ht, hw, hr, hs, hsr⟩ := skipWhile_ok isAlphabetic s
  cases w with
  | cons c w =>
    simp only [controlName, bind_run, peek_run, ht, List.cons_append, List.head?_cons, hs] at h
    cases h
    rw [ht, hsr]
    exact ⟨.word (List.cons_ne_nil c w) hw hr, .advance _ _⟩
  | nil =>
    cases r with
    | nil => simp [controlName, ht] at h
    | cons c r =>
      simp only [controlName, bind_run, peek_run, ht, List.nil_append, List.head?_cons, hs,
        ite_run, if_true, skip_run, pure_run] at h
      cases h
      refine ⟨?_, .of_advance (.advance _ _)⟩
      rw [ht, State.advance_rest, hsr]
      exact .symbol hr

/-- A literal text that is read stands before its closing character (`scan_raw`). -/
lemma raw_sound {close : Char} {oneLine : Bool} {content : Option Text}
    (h : raw close oneLine s = .ok content s') :
    (∃ v r, content = some v ∧ s.cursor.rest = v ++ close :: r ∧ s'.cursor.rest = r ∧
        rawText? close oneLine s.cursor.rest = some v ∧ s.Kept s') ∨
      (content = none ∧ s' = s ∧ rawText? close oneLine s.cursor.rest = none) := by
  simp only [raw, bind_run, mark_run] at h
  cases hr : rawText? close oneLine s.cursor.rest with
  | none =>
    simp only [hr, pure_run] at h
    cases h
    exact Or.inr ⟨rfl, rfl, rfl⟩
  | some v =>
    simp only [hr, bind_run, skip_run, pure_run] at h
    cases h
    exact Or.inl ⟨v, _, rfl, rawText?_eq hr, rfl, rfl, .advance _ _⟩

/-- An optional argument that is read is in the grammar (`parse_optional_arg`). -/
lemma optionalArgument_sound (hI : inner.Sound G) {isRaw : Bool} {value : Option Text}
    (h : optionalArgument inner isRaw s = .ok value s') :
    Optional G isRaw s.cursor.rest value s'.cursor.rest ∧ s.Kept s' := by
  obtain ⟨blanks, r, ht, hb, hr, hs, hsr⟩ := skipWhile_ok isHorizontal s
  simp only [optionalArgument, skipBlanks, bind_run, mark_run, hs, peek_run, hsr, ite_run,
    goTo_run, pure_run, skip_run, orBack] at h
  split at h
  case isFalse hc =>
    -- Without a bracket the blanks are given back.
    cases h
    refine ⟨?_, .withCursor _ _⟩
    dsimp only
    rw [ht]
    refine .absent hb ?_
    cases r with
    | nil => rfl
    | cons c r => simp_all
  case isTrue hc =>
    obtain ⟨r, rfl⟩ : ∃ r', r = '[' :: r' := by
      cases r with
      | nil => cases hc
      | cons c r => exact ⟨r, by simpa using hc⟩
    have h1 : ((s.advance blanks.length).advance 1).cursor.rest = r := State.advance_one hsr
    rw [ht]
    cases isRaw with
    | true =>
      simp only [if_true] at h
      split at h
      case h_1 o s1 hraw =>
        rcases raw_sound hraw with ⟨v, r', rfl, he, hr', hv, hk⟩ | ⟨rfl, rfl, hv⟩
        · cases h
          rw [h1] at he hv
          subst he
          rw [hr']
          exact ⟨.raw hb hv, .of_advance (.of_advance hk)⟩
        · cases h
          refine ⟨?_, .withCursor _ _⟩
          dsimp only
          rw [ht]
          exact .rawOpen hb (h1 ▸ hv)
      case h_2 => cases h
    | false =>
      simp only [Bool.false_eq_true, if_false] at h
      split at h
      case h_1 o s1 hbr =>
        obtain ⟨hbr, hk⟩ := hI.brackets hbr
        rw [h1] at hbr
        cases o with
        | some v =>
          cases h
          exact ⟨.brackets hb hbr, .of_advance (.of_advance hk)⟩
        | none =>
          cases h
          refine ⟨?_, .of_advance (.of_advance (hk.trans (.withCursor _ _)))⟩
          dsimp only
          rw [ht]
          exact .bracketsOpen hb hbr
      case h_2 => cases h

/-- A required argument that is read is in the grammar (`parse_required_arg`). -/
lemma requiredArgument_sound (hI : inner.Sound G) {name value : Text} {isRaw : Bool}
    (h : requiredArgument inner name isRaw s = .ok value s') :
    Required G isRaw s.cursor.rest value s'.cursor.rest ∧ s.Kept s' := by
  obtain ⟨blanks, r, ht, hb, hr, hs, hsr⟩ := skipWhile_ok isHorizontal s
  simp only [requiredArgument, skipBlanks, bind_run, hs, peek_run, hsr] at h
  cases r with
  | nil => cases h
  | cons c r =>
    have h1 : ((s.advance blanks.length).advance 1).cursor.rest = r := State.advance_one hsr
    simp only [List.head?_cons, ite_run, bind_run, skip_run, rawGroup, raise_run] at h
    split at h
    case isFalse => cases h
    case isTrue hc =>
      subst hc
      rw [ht]
      cases isRaw with
      | true =>
        simp only [if_true] at h
        split at h
        case h_1 o s1 hraw =>
          rcases raw_sound hraw with ⟨v, r', rfl, he, hr', hv, hk⟩ | ⟨rfl, rfl, hv⟩
          · cases h
            rw [h1] at he hv
            subst he
            rw [hr']
            exact ⟨.raw hb hv, .of_advance (.of_advance hk)⟩
          · cases h
        case h_2 => cases h
      | false =>
        simp only [Bool.false_eq_true, if_false] at h
        obtain ⟨hg, hk⟩ := hI.group h
        rw [h1] at hg
        exact ⟨.group hb hg, .of_advance (.of_advance hk)⟩

/-- An argument that is read is in the grammar, by its slot. -/
lemma argument_sound (hI : inner.Sound G) {name : Text} {slot : Slot} {value : Option Text}
    (h : argument inner name slot s = .ok value s') :
    ((slot.optional = true ∧ Optional G slot.raw s.cursor.rest value s'.cursor.rest) ∨
      (slot.optional = false ∧ ∃ v, value = some v ∧
        Required G slot.raw s.cursor.rest v s'.cursor.rest)) ∧ s.Kept s' := by
  unfold argument at h
  rw [ite_run] at h
  split at h
  case isTrue ho =>
    obtain ⟨hv, hk⟩ := optionalArgument_sound hI h
    exact ⟨Or.inl ⟨ho, hv⟩, hk⟩
  case isFalse ho =>
    rw [map_run] at h
    split at h
    case h_1 v s1 hv =>
      cases h
      obtain ⟨hv, hk⟩ := requiredArgument_sound hI hv
      exact ⟨Or.inr ⟨by simpa using ho, v, rfl, hv⟩, hk⟩
    case h_2 => cases h

/-- Arguments that are read are in the grammar (`parse_args`). -/
lemma arguments_sound (hI : inner.Sound G) {name : Text} {params : Params}
    {values : List (Option Text)} (h : arguments inner name params s = .ok values s') :
    Arguments G params s.cursor.rest values s'.cursor.rest ∧ s.Kept s' := by
  induction params generalizing s values with
  | nil =>
    cases h
    exact ⟨.nil, .refl _⟩
  | cons slot slots ih =>
    obtain ⟨v, s1, hv, h⟩ := bind_ok h
    obtain ⟨vs, s2, hvs, h⟩ := bind_ok h
    cases h
    obtain ⟨ha, hk⟩ := argument_sound hI hv
    obtain ⟨hvs, hks⟩ := ih hvs
    refine ⟨?_, hk.trans hks⟩
    rcases ha with ⟨ho, ha⟩ | ⟨ho, v, rfl, ha⟩
    · exact .optional ho ha hvs
    · exact .required ho ha hvs

/-- An output that is produced was given. -/
lemma produce_ok {x : Except Error Text} {out : Text} (h : produce x s = .ok out s') :
    x = .ok out ∧ s' = s := by
  cases x with
  | ok t => cases h; exact ⟨rfl, rfl⟩
  | error e => cases h

/-- A command that is read has its arguments, and its output was given (`parse_custom_command`). -/
lemma customCommand_sound (hI : inner.Sound G) {c : Command} {out : Text}
    (h : customCommand inner c s = .ok out s') :
    ∃ values, Arguments G c.params s.cursor.rest values s'.cursor.rest ∧
      c.generate values = .ok out ∧ s.Kept s' := by
  obtain ⟨values, s1, hv, h⟩ := bind_ok h
  obtain ⟨hg, rfl⟩ := produce_ok h
  obtain ⟨hv, hk⟩ := arguments_sound hI hv
  exact ⟨values, hv, hg, hk⟩

/-- A control sequence that is read in an argument is in the grammar (`parse_arg_control`). -/
lemma argumentControl_sound (hI : inner.Sound G) {out : Text}
    (h : argumentControl S inner s = .ok out s') :
    ArgumentControl S.registry G s.cursor.rest out s'.cursor.rest ∧ s.Kept s' := by
  obtain ⟨name, s1, hn, h⟩ := bind_ok h
  obtain ⟨hn, hk⟩ := controlName_sound hn
  cases hc : S.registry.command? name with
  | none =>
    rw [hc] at h
    cases h
    exact ⟨.native hn hc, hk⟩
  | some c =>
    rw [hc] at h
    obtain ⟨values, hv, hg, hk'⟩ := customCommand_sound hI h
    exact ⟨.command hn hc hv hg, hk.trans hk'⟩

/-- A comment that is read goes to the end of its line (`parse_comment`). -/
lemma comment_sound {note : Text} (h : comment s = .ok note s') :
    ∃ w r, note = '%' :: w ∧ s.cursor.rest = w ++ r ∧ '\n' ∉ w ∧ r.atLineEnd ∧
      s'.cursor.rest = r ∧ s.Kept s' := by
  obtain ⟨w, r, ht, hw, hr, hs, hsr⟩ := skipWhile_ok (fun c => !(c == '\n')) s
  simp only [comment, skipLine, skipUntil, bind_run, hs, pure_run] at h
  cases h
  refine ⟨w, r, rfl, ht, ?_, ?_, hsr, .advance _ _⟩
  · intro hn
    simpa using List.all_eq_true.1 hw _ hn
  · cases r with
    | nil => rfl
    | cons c r => simpa using hr

/-- A group that is read is in the grammar (`scan_group`). -/
lemma groupLoop_sound (hI : inner.Sound G) {close : Char} {n : Nat} {out : Text}
    (h : groupLoop S inner close n s = .ok out s') :
    Group S.registry G close s.cursor.rest out s'.cursor.rest ∧ s.Kept s' := by
  induction n generalizing s out with
  -- A group that is still open when the rounds are used up is an error, so no bound is needed.
  | zero => cases h
  | succ n ih =>
    obtain ⟨w, r, ht, hw, hr, hs, hsr⟩ := skipWhile_ok (fun c => !endsGroupRun close c) s
    simp only [groupLoop, skipUntil, bind_run, hs, peek_run, hsr] at h
    cases r with
    | nil => cases h
    | cons c r =>
      have h1 : ((s.advance w.length).advance 1).cursor.rest = r := State.advance_one hsr
      have hk1 : s.Kept ((s.advance w.length).advance 1) := .of_advance (.advance _ _)
      rw [ht]
      simp only [List.head?_cons, ite_run] at h
      split at h
      case isTrue hc =>
        subst hc
        rw [bind_of_ok (skip_run 1 _)] at h
        cases h
        rw [h1]
        exact ⟨by simpa using Group.run hw .close, hk1⟩
      split at h
      · cases h
      split at h
      case isTrue hne _ hc =>
        subst hc
        rw [bind_of_ok (skip_run 1 _)] at h
        obtain ⟨body, s2, hg, h⟩ := bind_ok h
        obtain ⟨more, s3, hl, h⟩ := bind_ok h
        cases h
        obtain ⟨hg, hk2⟩ := hI.group hg
        obtain ⟨hl, hk3⟩ := ih hl
        rw [h1] at hg
        refine ⟨?_, (hk1.trans hk2).trans hk3⟩
        simpa using Group.run hw (.group (Ne.symm hne) hg hl)
      split at h
      case isTrue hne _ _ hc =>
        subst hc
        rw [bind_of_ok (skip_run 1 _)] at h
        obtain ⟨text, s2, hc, h⟩ := bind_ok h
        obtain ⟨more, s3, hl, h⟩ := bind_ok h
        cases h
        obtain ⟨hc, hk2⟩ := argumentControl_sound hI hc
        obtain ⟨hl, hk3⟩ := ih hl
        rw [h1] at hc
        refine ⟨?_, (hk1.trans hk2).trans hk3⟩
        simpa using Group.run hw (.control (Ne.symm hne) hc hl)
      split at h
      case isTrue hne _ _ _ hc =>
        subst hc
        rw [bind_of_ok (skip_run 1 _)] at h
        obtain ⟨note, s2, hn, h⟩ := bind_ok h
        obtain ⟨more, s3, hl, h⟩ := bind_ok h
        cases h
        obtain ⟨v, r', rfl, he, hv, hr', hsr', hk2⟩ := comment_sound hn
        obtain ⟨hl, hk3⟩ := ih hl
        rw [h1] at he
        subst he
        rw [hsr'] at hl
        refine ⟨?_, (hk1.trans hk2).trans hk3⟩
        simpa using Group.run hw (.comment (Ne.symm hne) hv hr' hl)
      · cases h

/-- Brackets that are read are in the grammar (`scan_optional_argstr`). -/
lemma bracketLoop_sound (hI : inner.Sound G) {n : Nat} {out : Option Text}
    (hn : s.cursor.rest.length ≤ n) (h : bracketLoop S inner n s = .ok out s') :
    Brackets S.registry G s.cursor.rest out s'.cursor.rest ∧ s.Kept s' := by
  induction n generalizing s out with
  | zero =>
    -- Here running out of rounds is an answer, and only the bound says that it is the right one.
    cases h
    rw [List.eq_nil_of_length_eq_zero (Nat.le_zero.1 hn)]
    exact ⟨.stop rfl, .refl _⟩
  | succ n ih =>
    obtain ⟨w, r, ht, hw, hr, hs, hsr⟩ := skipWhile_ok (fun c => !endsBracketRun c) s
    simp only [bracketLoop, skipUntil, bind_run, hs, peek_run, hsr] at h
    rw [ht]
    cases r with
    | nil =>
      cases h
      rw [hsr]
      exact ⟨Brackets.run hw (.stop rfl), .advance _ _⟩
    | cons c r =>
      have h1 : ((s.advance w.length).advance 1).cursor.rest = r := State.advance_one hsr
      have hk1 : s.Kept ((s.advance w.length).advance 1) := .of_advance (.advance _ _)
      have hl : ((s.advance w.length).advance 1).cursor.rest.length ≤ n :=
        h1 ▸ State.length_le_of_run ht hn
      simp only [List.head?_cons, ite_run] at h
      split at h
      case isTrue hc =>
        cases h
        rw [hsr]
        refine ⟨Brackets.run hw (.stop ?_), .advance _ _⟩
        rcases hc with rfl | rfl <;> rfl
      split at h
      case isTrue hc =>
        subst hc
        rw [bind_of_ok (skip_run 1 _)] at h
        cases h
        rw [h1]
        exact ⟨by simpa using Brackets.run hw .close, hk1⟩
      split at h
      · cases h
      split at h
      case isTrue hc =>
        subst hc
        rw [bind_of_ok (skip_run 1 _)] at h
        obtain ⟨body, s2, hg, h⟩ := bind_ok h
        obtain ⟨more, s3, hm, h⟩ := bind_ok h
        cases h
        have hle := (hI.onward.group _).length_le hg
        obtain ⟨hg, hk2⟩ := hI.group hg
        obtain ⟨hm, hk3⟩ := ih (Nat.le_trans hle hl) hm
        rw [h1] at hg
        refine ⟨?_, (hk1.trans hk2).trans hk3⟩
        simpa [Function.comp_def] using Brackets.run hw (.group hg hm)
      split at h
      case isTrue hc =>
        subst hc
        rw [bind_of_ok (skip_run 1 _)] at h
        obtain ⟨body, s2, hg, h⟩ := bind_ok h
        obtain ⟨more, s3, hm, h⟩ := bind_ok h
        cases h
        have hle := (hI.onward.group _).length_le hg
        obtain ⟨hg, hk2⟩ := hI.group hg
        obtain ⟨hm, hk3⟩ := ih (Nat.le_trans hle hl) hm
        rw [h1] at hg
        refine ⟨?_, (hk1.trans hk2).trans hk3⟩
        simpa [Function.comp_def] using Brackets.run hw (.brackets hg hm)
      split at h
      case isTrue hc =>
        subst hc
        rw [bind_of_ok (skip_run 1 _)] at h
        obtain ⟨text, s2, hc, h⟩ := bind_ok h
        obtain ⟨more, s3, hm, h⟩ := bind_ok h
        cases h
        have hle := hI.onward.argumentControl.length_le hc
        obtain ⟨hc, hk2⟩ := argumentControl_sound hI hc
        obtain ⟨hm, hk3⟩ := ih (Nat.le_trans hle hl) hm
        rw [h1] at hc
        refine ⟨?_, (hk1.trans hk2).trans hk3⟩
        simpa [Function.comp_def] using Brackets.run hw (.control hc hm)
      · cases h

/-- A bracket argument that is read is in the grammar of its level (`parse_optional_argstr`). -/
lemma bracketText_sound (hI : inner.Sound G) {out : Option Text}
    (h : bracketText S inner s = .ok out s') :
    (above S G).brackets s.cursor.rest out s'.cursor.rest ∧ s.Kept s' := by
  rw [bracketText, bind_of_ok (mark_run s)] at h
  obtain ⟨o, s1, hb, h⟩ := bind_ok h
  obtain ⟨hb, hk⟩ := bracketLoop_sound hI (Nat.le_refl _) hb
  cases o with
  | some t =>
    cases h
    exact ⟨⟨_, hb, rfl⟩, hk⟩
  | none =>
    cases h
    exact ⟨⟨_, hb, rfl⟩, hk.trans (.withCursor _ _)⟩

/-- Arguments that are copied are in the grammar (`parse_argstr`). -/
lemma argumentTextLoop_sound (hI : inner.Sound G) {n : Nat} {out : Text}
    (hn : s.cursor.rest.length ≤ n) (h : argumentTextLoop inner n s = .ok out s') :
    ArgumentText G s.cursor.rest out s'.cursor.rest ∧ s.Kept s' := by
  induction n generalizing s out with
  | zero =>
    cases h
    rw [List.eq_nil_of_length_eq_zero (Nat.le_zero.1 hn)]
    have hstop : ArgumentText G ([] ++ []) [] ([] ++ []) := .stop rfl rfl
    exact ⟨hstop, .refl _⟩
  | succ n ih =>
    obtain ⟨blanks, r, ht, hb, hr, hs, hsr⟩ := skipWhile_ok isHorizontal s
    rw [argumentTextLoop, bind_of_ok (mark_run s), skipBlanks, bind_of_ok hs,
      bind_of_ok (peek_run _), ite_run, ite_run, hsr] at h
    have hk1 : s.Kept ((s.advance blanks.length).advance 1) := .of_advance (.advance _ _)
    have h1 : ((s.advance blanks.length).advance 1).cursor.rest = r.tail := by
      rw [State.advance_rest, hsr, List.drop_one]
    have hl : ∀ c r', r = c :: r' →
        ((s.advance blanks.length).advance 1).cursor.rest.length ≤ n := by
      rintro c r' rfl
      exact h1 ▸ State.length_le_of_run ht hn
    rw [ht]
    split at h
    case isTrue hc =>
      obtain ⟨r, rfl⟩ := List.head?_eq_some_iff.1 hc
      rw [bind_of_ok (skip_run 1 _)] at h
      obtain ⟨body, s2, hg, h⟩ := bind_ok h
      obtain ⟨more, s3, hm, h⟩ := bind_ok h
      cases h
      have hle := (hI.onward.group _).length_le hg
      obtain ⟨hg, hk2⟩ := hI.group hg
      obtain ⟨hm, hk3⟩ := ih (Nat.le_trans hle (hl _ _ rfl)) hm
      rw [h1] at hg
      exact ⟨.group hb hg hm, (hk1.trans hk2).trans hk3⟩
    case isFalse hne =>
      split at h
      case isTrue hc =>
        obtain ⟨r, rfl⟩ := List.head?_eq_some_iff.1 hc
        rw [bind_of_ok (skip_run 1 _)] at h
        obtain ⟨o, s2, hg, h⟩ := bind_ok h
        have hle := hI.onward.brackets.length_le hg
        obtain ⟨hg, hk2⟩ := hI.brackets hg
        rw [h1] at hg
        cases o with
        | some body =>
          obtain ⟨more, s3, hm, h⟩ := bind_ok h
          cases h
          obtain ⟨hm, hk3⟩ := ih (Nat.le_trans hle (hl _ _ rfl)) hm
          exact ⟨.brackets hb hg hm, (hk1.trans hk2).trans hk3⟩
        | none =>
          cases h
          refine ⟨?_, (hk1.trans hk2).trans (.withCursor _ _)⟩
          dsimp only
          rw [ht]
          exact .bracketsOpen hb hg
      case isFalse hne' =>
        cases h
        refine ⟨?_, (State.Kept.advance _ _).trans (.withCursor _ _)⟩
        dsimp only
        rw [ht]
        refine .stop hb ?_
        cases r with
        | nil => rfl
        | cons c r => simp_all

/-- The next line that is found is in the grammar. -/
lemma nextLine_sound {level : Nat} {o : Option Text} (he : s.cursor.rest.atLineEnd)
    (h : nextLine level s = .ok o s') : NextLine level s.config o s'.config := by
  rw [nextLine, bind_of_ok (mark_run s), bind_of_ok (isFinished_run s), ite_run] at h
  unfold State.config
  cases ht : s.cursor.rest with
  | nil =>
    rw [ht] at h
    cases h
    rw [ht]
    exact .finished
  | cons c t =>
    rw [ht] at h he
    obtain rfl : c = '\n' := by simpa using he
    obtain ⟨blank, r, hbr, hb, hs, hsr⟩ := skipBlankLines_ok (s.advance 1)
    obtain rfl : t = blank ++ r := by simpa [ht] using hbr
    rw [if_neg (by simp), bind_of_ok (skip_run 1 s), bind_of_ok hs, bind_of_ok (isFinished_run _),
      ite_run, hsr] at h
    cases r with
    | nil =>
      cases h
      dsimp only [State.advance]
      rw [ht]
      exact .trailing (by simpa using hb)
    | cons c r =>
      rw [if_neg (by simp)] at h
      obtain ⟨next, s1, hi, h⟩ := bind_ok h
      obtain ⟨j, hl, rfl⟩ := indentLevel_ok hi
      rw [hsr] at hl
      rw [ite_run, ite_run] at h
      split at h
      case isTrue hlt =>
        -- The cursor goes back to the newline, but the unit that was found on the way stays.
        cases h
        dsimp only
        rw [ht]
        exact .lower hb (List.cons_ne_nil c r) hl hlt
      case isFalse hge =>
        split at h
        case isTrue => cases h
        case isFalse hle =>
          cases h
          obtain rfl : next = level := by omega
          dsimp only
          rw [hsr]
          exact .same hb (List.cons_ne_nil c r) hl

/-- Lines that are read make up a block if each of them is in the grammar. -/
lemma linesLoop_sound {line : Scan σ Text} {L : Config σ → Text → Config σ → Prop}
    (hline : ∀ {s s' : State σ} {out : Text}, line s = .ok out s' →
      L s.config out s'.config ∧ s'.cursor.rest.atLineEnd ∧
        s'.cursor.rest.length ≤ s.cursor.rest.length)
    {level n : Nat} {out : Text} (hn : s.cursor.rest.length ≤ n)
    (h : linesLoop line level n s = .ok out s') : Block L level s.config out s'.config := by
  induction n generalizing s out with
  | zero =>
    -- Nothing was left before this line, so nothing is left after it.
    obtain ⟨hl, -, hle⟩ := hline h
    have h0 : s'.cursor.rest = [] := List.eq_nil_of_length_eq_zero (by omega)
    refine .last hl ?_
    unfold State.config
    rw [h0]
    exact .finished
  | succ n ih =>
    obtain ⟨text, s1, hl, h⟩ := bind_ok h
    obtain ⟨o, s2, hx, h⟩ := bind_ok h
    obtain ⟨hl, he, hle⟩ := hline hl
    have hx := nextLine_sound he hx
    cases o with
    | none =>
      cases h
      exact .last hl hx
    | some blank =>
      obtain ⟨more, s3, hm, h⟩ := bind_ok h
      cases h
      have hlt : s2.cursor.rest.length < s1.cursor.rest.length := hx.length_lt
      exact .more hl hx (ih (by omega) hm)

/-- Blocks that are read are in the grammar (`parse_block_lines`). -/
lemma blockLoop_sound (hI : inner.Sound G) {level n : Nat} {out : Text}
    (hn : s.cursor.rest.length ≤ n) (h : blockLoop inner level n s = .ok out s') :
    Block (G.line level false) level s.config out s'.config := by
  rw [blockLoop_eq_linesLoop] at h
  refine linesLoop_sound (fun hl => ?_) hn h
  have hline := hI.line hl
  exact ⟨hline, hI.ends hline, (hI.onward.line level false).length_le hl⟩

/-- A literal line that is read is in the grammar. -/
lemma skipLine_sound {out : Text} (h : skipLine s = .ok out s') :
    RawLine s.config out s'.config ∧ s'.cursor.rest.atLineEnd := by
  obtain ⟨w, r, ht, hw, hr, hs, hsr⟩ := skipWhile_ok (fun c => !(c == '\n')) s
  rw [skipLine, skipUntil, hs] at h
  cases h
  have hr' : r.atLineEnd := by
    cases r with
    | nil => rfl
    | cons c r => simpa using hr
  refine ⟨?_, hsr ▸ hr'⟩
  unfold State.config
  rw [hsr, ht]
  refine .mk (fun hn => ?_) hr'
  simpa using List.all_eq_true.1 hw _ hn

/-- Literal lines that are read make up a block (`raw_block_lines`). -/
lemma rawLinesLoop_sound {level n : Nat} {out : Text} (hn : s.cursor.rest.length ≤ n)
    (h : rawLinesLoop level n s = .ok out s') : Block RawLine level s.config out s'.config := by
  rw [rawLinesLoop_eq_linesLoop] at h
  refine linesLoop_sound (fun hl => ?_) hn h
  obtain ⟨hline, he⟩ := skipLine_sound hl
  exact ⟨hline, he, hline.length_le⟩

/-- The first line of a block that is found is in the grammar (`enter_block_body`). -/
lemma enterBlock_sound {level : Nat} {blank : Text} (h : enterBlock level s = .ok blank s') :
    Enter level s.config blank s'.config := by
  obtain ⟨b, r, hbr, hb, hs, hsr⟩ := skipBlankLines_ok s
  rw [enterBlock, bind_of_ok hs, bind_of_ok (isFinished_run _), ite_run, hsr] at h
  cases r with
  | nil => cases h
  | cons c r =>
    rw [if_neg nofun] at h
    obtain ⟨next, s1, hi, h⟩ := bind_ok h
    obtain ⟨j, hl, rfl⟩ := indentLevel_ok hi
    rw [hsr] at hl
    rw [ite_run] at h
    split at h
    case isTrue hlevel =>
      cases h
      subst hlevel
      unfold State.config
      dsimp only
      rw [hsr, hbr]
      exact .mk hb (List.cons_ne_nil c r) hl
    case isFalse => cases h

/-- A body that is read is in the grammar (`parse_environment_body`). -/
lemma environmentBody_sound (hI : inner.Sound G) {level : Nat} {body : Body}
    (h : environmentBody inner level s = .ok body s') :
    EnvironmentBody G level s.config body s'.config := by
  obtain ⟨blanks, r, ht, hb, hr, hs, hsr⟩ := skipWhile_ok isHorizontal s
  rw [environmentBody, skipBlanks, bind_of_ok hs, bind_of_ok (peek_run _), hsr] at h
  have hk : s.config = ⟨blanks ++ r, s.indentation, s.host⟩ := by rw [State.config, ht]
  have hk1 : (s.advance blanks.length).config = ⟨r, s.indentation, s.host⟩ := by
    rw [State.config, hsr]; rfl
  rw [hk]
  cases r with
  | nil => cases h
  | cons c r =>
    simp only [List.head?_cons, ite_run] at h
    split at h
    case isTrue hc =>
      subst hc
      obtain ⟨blank, s1, he, h⟩ := bind_ok h
      obtain ⟨text, s2, hl, h⟩ := bind_ok h
      cases h
      have he := enterBlock_sound he
      rw [hk1] at he
      exact .block hb he (blockLoop_sound hI (Nat.le_refl _) hl)
    case isFalse hnl =>
      split at h
      case isTrue hc =>
        subst hc
        rw [bind_of_ok (skip_run 1 _)] at h
        obtain ⟨note, s1, hn, h⟩ := bind_ok h
        obtain ⟨blank, s2, he, h⟩ := bind_ok h
        rw [bind_of_ok (margin_run _ _)] at h
        obtain ⟨text, s3, hl, h⟩ := bind_ok h
        cases h
        obtain ⟨w, r', rfl, hw, hwn, hle, hr', hkept⟩ := comment_sound hn
        obtain rfl : r = w ++ r' := by
          rw [State.advance_rest, hsr] at hw
          exact hw
        have he := enterBlock_sound he
        have hk2 : s1.config = ⟨r', s.indentation, s.host⟩ := by
          rw [State.config, hr', hkept.indentation, hkept.host]; rfl
        rw [hk2] at he
        exact .comment hb hwn hle he (blockLoop_sound hI (Nat.le_refl _) hl)
      case isFalse hpc =>
        obtain ⟨text, s1, hl, h⟩ := bind_ok h
        cases h
        have hl := hI.line hl
        rw [hk1] at hl
        exact .oneLine hb (by simpa using hr) hnl hpc hl

/-- A literal body that is read is in the grammar (`parse_raw_environment_body`). -/
lemma rawBody_sound {level : Nat} {body : Body} (h : rawBody level s = .ok body s') :
    RawBody level s.config body s'.config := by
  obtain ⟨blanks, r, ht, hb, hr, hs, hsr⟩ := skipWhile_ok isHorizontal s
  rw [rawBody, skipBlanks, bind_of_ok hs, bind_of_ok (peek_run _), hsr] at h
  have hk : s.config = ⟨blanks ++ r, s.indentation, s.host⟩ := by rw [State.config, ht]
  have hk1 : (s.advance blanks.length).config = ⟨r, s.indentation, s.host⟩ := by
    rw [State.config, hsr]; rfl
  rw [hk]
  cases r with
  | nil => cases h
  | cons c r =>
    simp only [List.head?_cons, ite_run] at h
    split at h
    case isTrue hc =>
      subst hc
      obtain ⟨blank, s1, he, h⟩ := bind_ok h
      obtain ⟨text, s2, hl, h⟩ := bind_ok h
      cases h
      have he := enterBlock_sound he
      rw [hk1] at he
      exact .block hb he (rawLinesLoop_sound (Nat.le_refl _) hl)
    case isFalse hnl =>
      obtain ⟨text, s1, hl, h⟩ := bind_ok h
      cases h
      obtain ⟨hl, -⟩ := skipLine_sound hl
      rw [hk1] at hl
      exact .oneLine hb (by simpa using hr) hnl hl

/-- The body of a registered environment that is read is in the grammar, moved to the left. -/
lemma customBody_sound (hI : inner.Sound G) {e : Environment} {level : Nat} {text : Text}
    (h : customBody inner e level s = .ok text s') :
    ∃ body, CustomBody G level e.raw s.config body s'.config ∧
      text = dedented level s'.indentation body := by
  obtain ⟨body, s1, hb, h⟩ := bind_ok h
  have hc : CustomBody G level e.raw s.config body s1.config := by
    cases he : e.raw with
    | true =>
      rw [he] at hb
      exact .raw (rawBody_sound hb)
    | false =>
      rw [he] at hb
      exact .interpreted (environmentBody_sound hI hb)
  refine ⟨body, ?_⟩
  rw [ite_run, bind_of_ok (margin_run _ _)] at h
  unfold dedented
  split at h <;> cases h <;> exact ⟨hc, by simp [*]⟩

/-- An expansion that succeeds has given its output and changes the executor alone. -/
lemma expand_ok {executor : Executor σ} {x : Expansion} {out : Text}
    (h : expand executor x s = .ok out s') :
    x.run executor s.host = (.ok out, s'.host) ∧ s'.cursor = s.cursor ∧
      s'.indentation = s.indentation := by
  unfold expand at h
  generalize x.run executor s.host = p at h
  obtain ⟨output, host⟩ := p
  obtain ⟨rfl, rfl⟩ := produce_ok h
  exact ⟨rfl, rfl, rfl⟩

/-- A registered environment that is read is in the grammar (`parse_custom_environment`). -/
lemma customEnvironment_sound (hI : inner.Sound G) {e : Environment} {level : Nat}
    {t name out : Text} (ht : ControlName t name s.cursor.rest)
    (he : S.registry.find? name = some (.environment e))
    (h : customEnvironment S inner e level s = .ok out s') :
    Control S G level ⟨t, s.indentation, s.host⟩ out s'.config := by
  obtain ⟨values, s1, hv, h⟩ := bind_ok h
  obtain ⟨hv, hk⟩ := arguments_sound hI hv
  obtain ⟨blanks, r, hr, hb, -, hs, hsr⟩ := skipWhile_ok isHorizontal s1
  rw [skipBlanks, bind_of_ok hs, bind_of_ok (peek_run _), hsr] at h
  cases r with
  | nil => cases h
  | cons c r =>
    simp only [List.head?_cons, ite_run] at h
    split at h
    case isTrue hc =>
      subst hc
      rw [bind_of_ok (skip_run 1 _)] at h
      obtain ⟨text, s2, hcustom, h⟩ := bind_ok h
      obtain ⟨body, hbody, rfl⟩ := customBody_sound hI hcustom
      rw [bind_of_ok (get_run s2)] at h
      obtain ⟨output, s3, hx, h⟩ := bind_ok h
      obtain ⟨hx, hc3, hi3⟩ := expand_ok hx
      rw [bind_of_ok (margin_run _ _)] at h
      cases h
      have hk1 : ((s1.advance blanks.length).advance 1).config = ⟨r, s.indentation, s.host⟩ := by
        rw [State.config, State.advance_rest, hsr, ← hk.indentation, ← hk.host]; rfl
      rw [hk1] at hbody
      rw [hr] at hv
      rw [hi3]
      unfold State.config
      rw [hc3, hi3]
      exact .environment ht he hv hb hbody hx
    case isFalse => cases h

/-- A control sequence without a definition that is read is in the grammar (`parse_native_control`).
-/
lemma nativeControl_sound (hI : inner.Sound G) {level : Nat} {t name out : Text}
    (ht : ControlName t name s.cursor.rest) (hn : S.registry.find? name = none)
    (h : nativeControl inner name level s = .ok out s') :
    Control S G level ⟨t, s.indentation, s.host⟩ out s'.config := by
  rw [nativeControl, ite_run] at h
  split at h
  case isFalse ha =>
    cases h
    exact .symbol ht hn (by simpa using ha)
  case isTrue ha =>
    obtain ⟨args, s1, hargs, h⟩ := bind_ok h
    obtain ⟨hargs, hk⟩ := argumentTextLoop_sound hI (Nat.le_refl _) hargs
    obtain ⟨blanks, r, hr, hb, hrs, hs, hsr⟩ := skipWhile_ok isHorizontal s1
    rw [bind_of_ok (mark_run _), skipBlanks, bind_of_ok hs, bind_of_ok (peek_run _), hsr,
      ite_run] at h
    rw [hr] at hargs
    split at h
    case isTrue hc =>
      obtain ⟨r, rfl⟩ := List.head?_eq_some_iff.1 hc
      rw [bind_of_ok (skip_run 1 _)] at h
      obtain ⟨text, s2, hbody, h⟩ := bind_ok h
      cases h
      obtain ⟨body, s3, hbody, h⟩ := bind_ok hbody
      have hbody := environmentBody_sound hI hbody
      have hk1 : ((s1.advance blanks.length).advance 1).config = ⟨r, s.indentation, s.host⟩ := by
        rw [State.config, State.advance_rest, hsr, ← hk.indentation, ← hk.host]; rfl
      rw [hk1] at hbody
      have hnat := Control.native ht hn ha hargs hb hbody
      unfold closed at hnat
      rw [ite_run, bind_of_ok (margin_run _ _)] at h
      split at h
      case isTrue hblock =>
        cases h
        rw [if_pos hblock] at hnat
        exact hnat
      case isFalse hblock =>
        cases h
        rw [if_neg hblock] at hnat
        exact hnat
    case isFalse hc =>
      -- No body follows, and the blanks after the arguments are given back.
      cases h
      have hc' : r.starts (fun c => isHorizontal c || c == ':') = false := by
        cases r with
        | nil => rfl
        | cons c r => simp_all
      unfold State.config
      dsimp only
      rw [hr]
      rw [show (s1.advance blanks.length).indentation = s.indentation from hk.indentation,
        show (s1.advance blanks.length).host = s.host from hk.host]
      exact .plain ht hn ha hargs hb hc'

/-- A control sequence that is read in a line is in the grammar (`parse_block_control`). -/
lemma lineControl_sound (hI : inner.Sound G) {level : Nat} {out : Text}
    (h : lineControl S inner level s = .ok out s') :
    Control S G level (s.advance 1).config out s'.config := by
  rw [lineControl, bind_of_ok (skip_run 1 _)] at h
  obtain ⟨name, s1, hn, h⟩ := bind_ok h
  obtain ⟨hn, hk⟩ := controlName_sound hn
  have hk1 : (s.advance 1).config = ⟨(s.advance 1).cursor.rest, s1.indentation, s1.host⟩ := by
    rw [State.config, hk.indentation, hk.host]
  rw [hk1]
  cases hd : S.registry.find? name with
  | none =>
    rw [hd] at h
    exact nativeControl_sound hI hn hd h
  | some d =>
    rw [hd] at h
    cases d with
    | command c =>
      obtain ⟨values, hv, hg, hk'⟩ := customCommand_sound hI h
      rw [State.config, hk'.indentation, hk'.host]
      exact .command hn hd hv hg
    | environment e => exact customEnvironment_sound hI hn hd h

/-- A line that is read is in the grammar (`scan_line`). -/
lemma lineLoop_sound (hI : inner.Sound G) {level n : Nat} {stop : Bool} {out : Text}
    (hn : s.cursor.rest.length ≤ n) (h : lineLoop S inner level stop n s = .ok out s') :
    Line S G level stop s.config out s'.config := by
  induction n generalizing s out with
  | zero =>
    cases h
    refine .done ?_
    have h0 : (s'.config).rest = [] := List.eq_nil_of_length_eq_zero (Nat.le_zero.1 hn)
    rw [h0]
    rfl
  | succ n ih =>
    obtain ⟨w, r, ht, hw, hr, hs, hsr⟩ := skipWhile_ok (fun c => !endsLineRun c) s
    rw [lineLoop, skipUntil, bind_of_ok hs, bind_of_ok (peek_run _), hsr] at h
    have hk : s.config = ⟨w ++ r, s.indentation, s.host⟩ := by rw [State.config, ht]
    have hk1 : (s.advance w.length).config = ⟨r, s.indentation, s.host⟩ := by
      rw [State.config, hsr]; rfl
    rw [hk]
    cases r with
    | nil =>
      cases h
      rw [hk1]
      exact .run_done hw rfl
    | cons c r =>
      have h1 : ((s.advance w.length).advance 1).cursor.rest = r := State.advance_one hsr
      have hl : ((s.advance w.length).advance 1).cursor.rest.length ≤ n :=
        h1 ▸ State.length_le_of_run ht hn
      simp only [List.head?_cons, ite_run] at h
      split at h
      case isTrue hc =>
        cases h
        rw [hk1]
        exact .run_done hw (by rcases hc with rfl | ⟨rfl, rfl⟩ <;> simp)
      case isFalse hns =>
        split at h
        case isTrue hc =>
          subst hc
          rw [bind_of_ok (skip_run 1 _)] at h
          obtain ⟨note, s2, hc, h⟩ := bind_ok h
          obtain ⟨more, s3, hm, h⟩ := bind_ok h
          cases h
          obtain ⟨v, r', rfl, hv, hvn, hle, hr', hkept⟩ := comment_sound hc
          obtain rfl : r = v ++ r' := by rw [h1] at hv; exact hv
          have hm := ih (by rw [hr']; rw [h1] at hl; simp at hl; omega) hm
          rw [State.config, hr', hkept.indentation, hkept.host] at hm
          simpa using Line.run hw (.comment (by simpa using hns) hvn hle hm)
        split at h
        case isTrue hc =>
          subst hc
          obtain ⟨text, s2, hc, h⟩ := bind_ok h
          obtain ⟨more, s3, hm, h⟩ := bind_ok h
          cases h
          have hle := hI.onward.lineControl_length_le hc
          have hc := lineControl_sound hI hc
          rw [State.config, h1] at hc
          simpa using Line.run hw (.control hc (ih (Nat.le_trans hle hl) hm))
        split at h
        case isTrue hc =>
          subst hc
          rw [bind_of_ok (skip_run 1 _)] at h
          obtain ⟨body, s2, hg, h⟩ := bind_ok h
          obtain ⟨more, s3, hm, h⟩ := bind_ok h
          cases h
          have hle := (hI.onward.group _).length_le hg
          obtain ⟨hg, hkept⟩ := hI.group hg
          have hm := ih (Nat.le_trans hle hl) hm
          rw [State.config, hkept.indentation, hkept.host] at hm
          rw [h1] at hg
          simpa using Line.run hw (.group hg hm)
        split at h
        · cases h
        · cases h

end Scan

/-- A level above a sound one is sound. -/
lemma Level.Sound.above {S : Setup σ} {inner : Level σ} {G : Grammar σ} (hI : inner.Sound G) :
    (Level.above S inner).Sound (Grammar.above S G) where
  onward := hI.onward.above
  group h := Scan.groupLoop_sound hI h
  brackets h := Scan.bracketText_sound hI h
  line h := Scan.lineLoop_sound hI (Nat.le_refl _) h
  ends h := h.atLineEnd

/-- What is read with some room for nesting is in the grammar with that room. -/
theorem Level.ofRoom_sound (S : Setup σ) (n : Nat) :
    (Level.ofRoom S n).Sound (Grammar.ofRoom S n) := by
  induction n with
  | zero =>
    exact { onward := Level.ofRoom_onward S 0, group := nofun, brackets := nofun, line := nofun,
            ends := nofun }
  | succ n ih => exact ih.above

/-- What the outermost level reads is in the grammar. -/
lemma Level.outermost_sound (S : Setup σ) :
    (Level.outermost S).Sound (Grammar.ofRoom S maxNesting) :=
  Level.ofRoom_sound S maxNesting

namespace Scan

open Grammar

variable {inner : Level σ} {G : Grammar σ} {s s' : State σ} {out : Text}

/-- A block that is read at the level of its first line is in the grammar (`parse_block`). -/
lemma block_sound (hI : inner.Sound G) (h : block inner s = .ok out s') :
    WholeBlock G s.config out s'.config := by
  obtain ⟨b, r, hbr, hb, hs, hsr⟩ := skipBlankLines_ok s
  rw [block, bind_of_ok hs, bind_of_ok (isFinished_run _), ite_run, hsr] at h
  unfold State.config
  rw [hbr]
  cases r with
  | nil =>
    cases h
    rw [hsr, List.append_nil]
    exact .blank (by simpa using hb)
  | cons c r =>
    rw [List.isEmpty_cons, if_neg Bool.false_ne_true] at h
    obtain ⟨level, s1, hi, h⟩ := bind_ok h
    obtain ⟨j, hl, rfl⟩ := indentLevel_ok hi
    obtain ⟨text, s2, hlines, h⟩ := bind_ok h
    cases h
    have hlines := blockLoop_sound hI (Nat.le_refl _) hlines
    unfold State.config at hlines
    dsimp only at hlines
    rw [hsr] at hl hlines
    exact .lines hb (List.cons_ne_nil c r) hl hlines

/-- Blocks that are read to the end of the source are in the grammar. -/
lemma fragmentLoop_sound (hI : inner.Sound G) {n : Nat} (hn : s.cursor.rest.length ≤ n)
    (h : fragmentLoop inner n s = .ok out s') : Fragment G s.config out s'.config := by
  induction n generalizing s out with
  | zero =>
    have hle := hI.onward.block.length_le h
    have h0 : s'.cursor.rest = [] := List.eq_nil_of_length_eq_zero (by omega)
    have hb := block_sound hI h
    rw [State.config_eq h0] at hb ⊢
    exact .last hb
  | succ n ih =>
    obtain ⟨text, s1, hs, h⟩ := bind_ok h
    have hle := hI.onward.block.length_le hs
    have hb := block_sound hI hs
    have he := hb.atLineEnd
    rw [bind_of_ok (isFinished_run _), ite_run] at h
    cases hr : s1.cursor.rest with
    | nil =>
      rw [hr] at h
      cases h
      rw [State.config_eq hr] at hb ⊢
      exact .last hb
    | cons c t =>
      rw [State.config_eq hr] at hb he
      obtain rfl : c = '\n' := by simpa using he
      rw [hr, if_neg nofun, bind_of_ok (skip_run 1 _)] at h
      obtain ⟨more, s2, hm, h⟩ := bind_ok h
      cases h
      have h1 : (s1.advance 1).cursor.rest = t := State.advance_one hr
      rw [hr, List.length_cons] at hle
      have hm := ih (by rw [h1]; omega) hm
      rw [State.config_eq h1] at hm
      exact .more hb hm

/-- A fragment that is read is in the grammar (`translate_fragment`). -/
lemma fragment_sound (hI : inner.Sound G) (h : fragment inner s = .ok out s') :
    Fragment G s.config out s'.config :=
  fragmentLoop_sound hI (Nat.le_refl _) h

end Scan

end IndentTex
