import IndentTex.Proofs.Grammar.Shifting
import IndentTex.Proofs.Grammar.SingleLine
import IndentTex.Proofs.Nesting
import IndentTex.Proofs.Request

/-!
# The bodies of registered environments

A registered environment that becomes the body of another environment stands one level deeper. If
its reading is flat, all registered environments inside it are given the same bodies there. It is given
the same body itself, unless this is a line of the source that gives several lines: nothing takes the
margin off such a body. If the environment is all on one line, it is enough that the environments inside
it give lines, and then its body is the same whatever commands put out.

To say which bodies are given, environments report them: each one hands its body to the executor
before it is expanded, and the executor keeps a list of what is reported.
-/

namespace IndentTex

open Text

variable {σ τ α β : Type} {u : Text}

/-! ### Reports -/

/-- A call for code among reports, which name no interpreter. -/
def Call.forCode (c : Call) : Call :=
  ⟨some (match c.interpreter with
    | none => []
    | some i => '=' :: i), c.body⟩

/-- The expansion whose calls are told from reports. -/
def Expansion.forCode : Expansion → Expansion
  | text output => .text output
  | error e => .error e
  | execute call next => .execute call.forCode fun answer => (next answer).forCode

/-- The executor that keeps a list of what is reported, and hands all calls for code on. -/
def Executor.reporting (x : Executor σ) : Executor (σ × List Text) where
  answer call host :=
    match call.interpreter with
    | none => (.ok [], (host.1, host.2 ++ [call.body]))
    | some i =>
      let answer := x.answer ⟨if i.isEmpty then none else some i.tail, call.body⟩ host.1
      (answer.1, (answer.2, host.2))

/-- The environment that reports its body before it is expanded. -/
def Environment.reporting (e : Environment) : Environment :=
  { e with
    generate := fun unit body values =>
      .execute ⟨none, body⟩ fun _ => (e.generate unit body values).forCode }

/-- The definition that reports its body, if it is an environment. -/
def Definition.reporting : Definition → Definition
  | command c => command c
  | environment e => environment e.reporting

/-- The registry whose environments report their bodies. -/
def Registry.reporting (r : Registry) : Registry := r.map id .reporting

/-- The setup whose environments report their bodies. -/
def Setup.reporting (S : Setup σ) : Setup (σ × List Text) :=
  ⟨S.registry.reporting, S.executor.reporting⟩

/-- The bodies that registered environments are given while a fragment is translated, each when the
environment is expanded. -/
def Translator.bodies (t : Translator σ) (source : Text) : List Text :=
  ((Scan.fragment (.outermost t.setup.reporting)).final
    (.start source (t.start t.files, []))).host.2

/-- What a name stands for, with reports. -/
lemma Registry.find?_reporting (r : Registry) (name : Text) :
    r.reporting.find? name = (r.find? name).map .reporting :=
  find?_map (fun _ => rfl) (fun _ => rfl) r name

/-- What a name stands for in a translation with reports. -/
lemma Translator.find?_reporting {t : Translator σ} {name : Text} {o : Option Definition}
    (h : t.registry.find? name = o) :
    t.setup.reporting.registry.find? name = o.map .reporting := by
  rw [← h]
  exact t.registry.find?_reporting name

/-- A call for code is answered as it would be, and nothing is reported. -/
lemma Executor.answer_forCode (x : Executor σ) (call : Call) (host : σ × List Text) :
    x.reporting.answer call.forCode host =
      ((x.answer call host.1).1, ((x.answer call host.1).2, host.2)) := by
  obtain ⟨_ | i, body⟩ := call <;> rfl

/-- Different calls for code are told apart among reports, too. -/
lemma Call.forCode_inj {c d : Call} : c.forCode = d.forCode ↔ c = d := by
  obtain ⟨_ | i, body⟩ := c <;> obtain ⟨_ | j, body'⟩ := d <;> simp [forCode]

/-- Expansions agree among reports as they do without them. -/
lemma Expansion.forCode_agree (accept : Text → Bool) (x y : Expansion) :
    (x.agree accept y).forCode = x.forCode.agree accept y.forCode := by
  induction x generalizing y with
  | text a =>
    cases y with
    | text b =>
      change ((text a).agree accept (text b)).forCode = (text a).agree accept (text b)
      rw [agree]
      split <;> rfl
    | error | execute => rfl
  | error e => rfl
  | execute call next ih =>
    cases y with
    | text | error => rfl
    | execute call' next' =>
      change ((execute call next).agree accept (execute call' next')).forCode =
        (execute call.forCode fun answer => (next answer).forCode).agree accept
          (execute call'.forCode fun answer => (next' answer).forCode)
      rw [agree, agree]
      by_cases hcall : call = call'
      · rw [if_pos hcall, if_pos (Call.forCode_inj.2 hcall), forCode]
        exact congrArg _ (funext fun answer => ih answer (next' answer))
      · rw [if_neg hcall, if_neg (mt Call.forCode_inj.1 hcall), forCode]

/-- Calls for code leave the list of reports alone. -/
lemma Expansion.run_forCode (x : Executor σ) (e : Expansion) (host : σ × List Text) :
    e.forCode.run x.reporting host = ((e.run x host.1).1, ((e.run x host.1).2, host.2)) := by
  induction e generalizing host with
  | text | error => rfl
  | execute call next ih =>
    rw [forCode, run, run, x.answer_forCode]
    exact ih _ _

/-- An environment reports its body, and goes on as it would. -/
lemma Environment.run_reporting (x : Executor σ) (e : Environment) (unit body : Text)
    (values : List (Option Text)) (host : σ × List Text) :
    (e.reporting.generate unit body values).run x.reporting host =
      (((e.generate unit body values).run x host.1).1,
        (((e.generate unit body values).run x host.1).2, host.2 ++ [body])) := by
  change (e.generate unit body values).forCode.run x.reporting (host.1, host.2 ++ [body]) = _
  exact Expansion.run_forCode x _ _

/-- An environment that reports its body is checked before it does so. -/
lemma Environment.generate_reporting_flat (checks : Checks) (e : Environment) (unit body : Text)
    (values : List (Option Text)) :
    (e.reporting.flat u checks).generate unit body values =
      if checks.body body && checks.values e.params values then
        (e.flat u checks).reporting.generate unit body values
      else .error .uneven := by
  rw [generate_flat]
  change (if checks.body body && checks.values e.params values then _ else _) = _
  split
  case isFalse => rfl
  case isTrue hcheck =>
    change Expansion.agree _ (.execute ⟨none, body⟩ _) (.execute ⟨none, body⟩ _) =
      Expansion.execute ⟨none, body⟩ fun _ => ((e.flat u checks).generate unit body values).forCode
    rw [Expansion.agree, if_pos rfl, generate_flat, if_pos hcheck, Expansion.forCode_agree]

namespace Lockstep

/-- The lockstep of a run with the run whose environments report their bodies. -/
abbrev reported (σ : Type) : Lockstep σ (σ × List Text) := alongside (fun h p => h = p.1) fun _ => True

/-- An environment runs in lockstep with the one that reports its body. -/
lemma reported_environment (x : Executor σ) (e : Environment) (unit body : Text)
    (values : List (Option Text)) (p : σ × List Text) :
    (reported σ).Outcomes ((e.generate unit body values).run x p.1)
      ((e.reporting.generate unit body values).run x.reporting p) := by
  rw [Environment.run_reporting]
  generalize (e.generate unit body values).run x p.1 = a
  obtain ⟨output, h⟩ := a
  cases output with
  | ok t => exact .ok t rfl
  | error e => exact .error trivial rfl

/-- A command runs in lockstep with itself. -/
lemma reported_command (c : Command) (values : List (Option Text)) :
    (reported σ).Outputs (c.generate values) (c.generate values) := by
  cases c.generate values with
  | ok t => exact .ok t
  | error e => exact .error trivial

/-- Definitions run in lockstep with those that report the bodies. -/
lemma reported_setups (S : Setup σ) : (reported σ).Setups S S.reporting := by
  intro name
  change (reported σ).Definitions _ _ (S.registry.find? name) (S.registry.reporting.find? name)
  rw [Registry.find?_reporting]
  cases S.registry.find? name with
  | none => exact .none
  | some d =>
    cases d with
    | command c => exact .command rfl rfl (reported_command c)
    | environment e =>
      refine .environment rfl rfl rfl fun unit body values h p hp => ?_
      subst hp
      exact reported_environment S.executor e unit body values p

/-- Checked definitions run in lockstep with those that report the bodies, too. -/
lemma reported_flat (S : Setup σ) (checks : Checks) :
    (reported σ).Setups (S.flat u checks) (S.reporting.flat u checks) := by
  intro name
  change (reported σ).Definitions _ _ ((S.registry.flat u checks).find? name)
    ((S.registry.reporting.flat u checks).find? name)
  rw [Registry.find?_flat, Registry.find?_flat, Registry.find?_reporting]
  split
  · exact .command rfl rfl (reported_command _)
  cases S.registry.find? name with
  | none => exact .none
  | some d =>
    cases d with
    | command c => exact .command rfl rfl (reported_command (c.flat checks))
    | environment e =>
      refine .environment rfl rfl rfl fun unit body values h p hp => ?_
      subst hp
      rw [Environment.generate_reporting_flat]
      split
      case isTrue => exact reported_environment S.executor (e.flat u checks) unit body values p
      case isFalse hcheck =>
        rw [Environment.generate_flat, if_neg hcheck]
        exact .error trivial rfl

/-! ### Flat readings are readings -/

/-- States in lockstep have the same configuration. -/
lemma config_eq_of_alongside {excused : Cause → Prop} {s s' : State σ}
    (h : (alongside Eq excused).Related s s') : s.config = s'.config := by
  rw [State.config, State.config, show s.cursor = s'.cursor from h.cursor, h.indentation_eq,
    show s.host = s'.host from h.host]

/-- The lockstep of a flat reading with a reading without the checks. -/
abbrev unchecked (σ : Type) : Lockstep σ σ := alongside Eq fun _ => True

/-- Checked definitions that succeed run in lockstep with those without the checks. -/
lemma unchecked_setups (S : Setup σ) (checks : Checks) :
    (unchecked σ).Setups (S.flat u checks) S := by
  intro name
  change (unchecked σ).Definitions _ _ ((S.registry.flat u checks).find? name)
    (S.registry.find? name)
  rw [Registry.find?_flat]
  split
  · exact .refused rfl fun _ => ⟨_, rfl, trivial⟩
  cases S.registry.find? name with
  | none => exact .none
  | some d =>
    cases d with
    | command c =>
      refine .command rfl rfl fun values => ?_
      cases hg : (c.flat checks).generate values with
      | error e => exact .excused trivial
      | ok t =>
        rw [(Command.generate_flat_ok hg).1]
        exact .ok t
    | environment e =>
      refine .environment rfl rfl rfl fun unit body values h h' hh => ?_
      subst hh
      change (unchecked σ).Outcomes
        (((e.flat u checks).generate unit body values).run S.executor h) _
      generalize ha : ((e.flat u checks).generate unit body values).run S.executor h = a
      obtain ⟨output, h'⟩ := a
      cases output with
      | error e => exact .excused trivial
      | ok t =>
        rw [(Environment.run_flat_ok ha).2.1]
        exact .ok t rfl

/-- A checked reader that succeeds runs in lockstep with one without the check. -/
lemma Sim.unchecked {L : Lockstep σ τ} (hL : L.excused .strayIndentation) {m : Scan σ Text}
    {m' : Scan τ Text} (h : L.Sim Eq m m') (accept : Text → Bool) :
    L.Sim Eq (Scan.checked accept m) m' := by
  rw [← bind_pure m']
  refine h.bindEq fun text => ?_
  split
  · exact .pure rfl
  · exact fun _ _ _ => .excused hL _

/-- Flat levels run in lockstep with levels without the checks. -/
lemma unchecked_flatRoom (S : Setup σ) (n level : Nat) :
    (unchecked σ).Levels (.flatRoom u S n level) (.ofRoom S n) := by
  induction n generalizing level with
  | zero => exact .ofRoom (unchecked_setups (u := u) S (.ofLevel level)) 0
  | succ n ih =>
    have h (level : Nat) := (ih level).above (unchecked_setups (u := u) S (.ofLevel level))
    exact { group := fun close => ((h level).group close).unchecked trivial _
            brackets := (h level).brackets
            line := fun level stop => ((h level).line level stop).unchecked trivial _ }

/-- Steady levels run in lockstep with levels without the checks. -/
lemma unchecked_steady (S : Setup σ) (single : Bool) (n : Nat) :
    (unchecked σ).Levels (.steady u S single n) (.ofRoom S n) := by
  cases single with
  | true => exact .ofRoom (unchecked_setups S .singleLine) n
  | false => exact unchecked_flatRoom S n 0

end Lockstep

/-! ### Runs up to an expansion -/

/-- Every configuration is that of a state. -/
lemma Config.exists_state (k : Config σ) : ∃ s : State σ, s.config = k :=
  ⟨{ State.start k.rest k.host with indentation := k.indentation }, rfl⟩

namespace Scan

open Grammar

/-- From every state with configuration `k`, `m` comes to a run of `x` with configuration `k'`, and
goes on from there. -/
def ComesTo (m : Scan σ α) (k : Config σ) (x : Scan σ β) (k' : Config σ) : Prop :=
  ∀ s : State σ, s.config = k → ∃ (s' : State σ) (f : β → Scan σ α), s'.config = k' ∧
    m s = (x >>= f) s'

namespace ComesTo

variable {γ : Type} {m : Scan σ α} {g : α → Scan σ γ} {x : Scan σ β} {k k₁ k' : Config σ} {a : α}

/-- A reader comes to itself. -/
lemma refl (x : Scan σ β) (k : Config σ) : ComesTo x k x k :=
  fun s hs => ⟨s, pure, hs, by rw [bind_pure]⟩

/-- What comes after a reader does not matter for what it comes to. -/
lemma bind (hm : ComesTo m k x k') : ComesTo (m >>= g) k x k' := by
  intro s hs
  obtain ⟨s', f, hs', hrun⟩ := hm s hs
  refine ⟨s', fun b => f b >>= g, hs', ?_⟩
  rw [bind_run, hrun, ← bind_run, bind_assoc]

/-- A reader that succeeds, and what comes after it. -/
lemma after (hm : Reads m k a k₁) (hg : ComesTo (g a) k₁ x k') : ComesTo (m >>= g) k x k' := by
  intro s hs
  obtain ⟨s₁, hrun, hs₁⟩ := hm s hs
  rw [bind_of_ok hrun]
  exact hg s₁ hs₁

/-- A look at the state. -/
lemma look {f : State σ → Scan σ γ} (hf : ∀ s : State σ, s.config = k → ComesTo (f s) k x k') :
    ComesTo (get >>= f) k x k' := by
  intro s hs
  rw [bind_of_ok (get_run s)]
  exact hf s hs s hs

/-- A mark at the place that is reached. -/
lemma mark {f : Cursor → Scan σ γ} (hf : ∀ c, ComesTo (f c) k x k') :
    ComesTo (Scan.mark >>= f) k x k' := by
  intro s hs
  rw [bind_of_ok (mark_run s)]
  exact hf _ s hs

/-- A loop that has something to read. -/
lemma bounded {loop : Nat → Scan σ α} (hl : ∀ n, ComesTo (loop (n + 1)) k x k')
    (hk : k.rest ≠ []) : ComesTo (Scan.bounded loop) k x k' := by
  intro s hs
  obtain ⟨n, hn⟩ := Nat.exists_eq_succ_of_ne_zero (mt List.eq_nil_of_length_eq_zero hk)
  have hlength : s.cursor.rest.length = n + 1 := by
    rw [← hs] at hn
    exact hn
  rw [bounded_run, hlength]
  exact hl n s hs

end ComesTo

variable {S : Setup σ} {inner : Level σ} {G : Grammar σ} {x : Scan σ β} {k : Config σ}
  {t r name : Text} {i j : Indentation} {h h' : σ} {level : Nat}

/-- An environment without arguments is expanded when its body has been read. -/
lemma lineControl_comesTo (hI : inner.Complete G) {e : Environment} (hne : name ≠ [])
    (ha : name.all isAlphabetic) (hd : S.registry.find? name = some (.environment e))
    (hp : e.params = []) {body : Body}
    (hb : CustomBody G level e.raw ⟨r, i, h⟩ body ⟨t, j, h'⟩) :
    ComesTo (lineControl S inner level) ⟨'\\' :: (name ++ ':' :: r), i, h⟩
      (expand S.executor (e.generate j.unitText (dedented level j body) [])) ⟨t, j, h'⟩ := by
  have hname : ControlName (name ++ ':' :: r) name (':' :: r) :=
    .word hne ha (by rw [starts_cons, isAlphabetic_colon])
  refine .after (.skip 1) (.after (controlName_complete hname) ?_)
  rw [hd]
  dsimp only [customEnvironment]
  rw [hp]
  refine .after (arguments_complete hI .nil) (.after (Reads.skipWhile (w := []) rfl (by rfl))
    (.after .peek (.after (.skip 1) (.after (customBody_complete hI hb) (.look fun s hs => ?_)))))
  obtain ⟨-, rfl, -⟩ := State.config_eq_iff.1 hs
  exact (ComesTo.refl _ _).bind

/-- A line that is blank up to a control sequence. -/
lemma line_comesTo {w : Text} (hw : w.isBlankLine)
    (hc : ComesTo (lineControl S inner level) ⟨'\\' :: t, i, h⟩ x k) :
    ComesTo ((Level.above S inner).line level false) ⟨w ++ '\\' :: t, i, h⟩ x k := by
  refine .bounded (fun n => ?_) (by simp)
  exact .after (.skipWhile (run_of_isBlankLine hw) (by rfl)) (.after .peek hc.bind)

/-- The first line of a block. -/
lemma blockLines_comesTo (hl : ComesTo (inner.line level false) ⟨t, i, h⟩ x k) (ht : t ≠ []) :
    ComesTo (blockLines inner level) ⟨t, i, h⟩ x k :=
  .bounded (fun _ => hl.bind) ht

/-- An environment without a definition and without arguments whose body is a block. -/
lemma native_comesTo (hI : inner.Complete G) (hne : name ≠ []) (ha : name.all isAlphabetic)
    (hd : S.registry.find? name = none) {blank : Text} {k₁ : Config σ}
    (he : Enter level ⟨'\n' :: r, i, h⟩ blank k₁)
    (hl : ComesTo (blockLines inner (level + 1)) k₁ x k) :
    ComesTo (lineControl S inner level) ⟨'\\' :: (name ++ ':' :: '\n' :: r), i, h⟩ x k := by
  have hname : ControlName (name ++ ':' :: '\n' :: r) name (':' :: '\n' :: r) :=
    .word hne ha (by rw [starts_cons, isAlphabetic_colon])
  have hargs : ArgumentText G ([] ++ ':' :: '\n' :: r) [] ([] ++ ':' :: '\n' :: r) :=
    .stop rfl (by simp [show isHorizontal ':' = false by decide])
  refine .after (.skip 1) (.after (controlName_complete hname) ?_)
  rw [hd]
  dsimp only [nativeControl]
  rw [if_pos ha]
  refine .after (.bounded (argumentTextLoop_complete hI (Nat.le_refl _) hargs)) (.mark fun _ => ?_)
  refine .after (Reads.skipWhile (w := []) rfl (by rfl)) (.after .peek (.after (.skip 1) ?_))
  have hbody : ComesTo (environmentBody inner level) ⟨'\n' :: r, i, h⟩ x k :=
    .after (Reads.skipWhile (w := []) rfl (by rfl)) (.after .peek
      (.after (enterBlock_complete he) hl.bind))
  exact hbody.bind.bind

/-- A fragment that starts with a line that is not blank. -/
lemma fragment_comesTo {c : Char} (hc : isBlank c = false)
    (hl : ComesTo (blockLines inner 0) ⟨c :: t, .unset, h⟩ x k) :
    ComesTo (fragment inner) ⟨c :: t, .unset, h⟩ x k := by
  have hh : isHorizontal c = false := by rw [isHorizontal, hc, Bool.false_and]
  have hblank : Text.blankLines ([] ++ c :: t) = [] :=
    blankLines_of_text (w := []) rfl hh (ne_newline_of_isBlank hc) t
  have hlevel : Indentation.levelOf ((c :: t).takeWhile isHorizontal) .unset = .ok 0 .unset := by
    rw [takeWhile_of_starts (show starts isHorizontal (c :: t) = false from hh)]
    rfl
  refine .bounded (fun n => ?_) (List.cons_ne_nil _ _)
  have hblock : ComesTo (block inner) ⟨[] ++ c :: t, .unset, h⟩ x k :=
    .after (.skipBlankLines hblank) (.after .isFinished (.after (.indentLevel hlevel) hl.bind))
  exact hblock.bind

end Scan

/-! ### The end of a fragment -/

namespace Text

/-- What can follow the last line of a fragment on that line: nothing, or a comment. -/
def IsEnding (t : Text) : Prop := '\n' ∉ t ∧ (t = [] ∨ t.starts (· == '%'))

/-- The lines after a newline are not the first one. -/
lemma mem_splitLines_tail {x y l : Text} (hl : l ∈ splitLines y) :
    l ∈ (splitLines (x ++ '\n' :: y)).tail := by
  obtain ⟨l', ls, hx⟩ := List.exists_cons_of_ne_nil (splitLines_ne_nil x)
  rw [splitLines_append_newline, hx]
  exact List.mem_append_right ls hl

/-- A text of indented lines that are not blank. -/
lemma takeWhile_ne_nil_of_indented (hu : Indentation.IsUnit u) {t : Text}
    (ht : ∀ l ∈ splitLines t, u <+: l ∧ l.isBlankLine = false) :
    t.blankLines = [] ∧ t.takeWhile isHorizontal ≠ [] := by
  rcases blank_cases t with hb | ⟨w, r, hw, rfl⟩ | ⟨w, c, r, hw, hc, hn, rfl⟩
  · rw [splitLines_of_notMem (newline_notMem_of_isBlankLine hb)] at ht
    exact absurd hb (by simp [ht t List.mem_cons_self])
  · rw [splitLines_line (newline_notMem_of_isBlankLine hw)] at ht
    exact absurd hw (by simp [ht w List.mem_cons_self])
  · refine ⟨blankLines_of_text hw hc hn r, ?_⟩
    obtain ⟨l, ls, hr⟩ := List.exists_cons_of_ne_nil (splitLines_ne_nil r)
    have hcr : splitLines (c :: r) = (c :: l) :: ls := by rw [splitLines, if_neg hn, hr]
    rw [splitLines_append (newline_notMem_of_isBlankLine hw) hcr] at ht
    rw [takeWhile_run hw (show starts isHorizontal (c :: r) = false from hc)]
    rintro rfl
    -- The line starts both with the unit and with a character that is not blank.
    obtain ⟨⟨v, hv⟩, -⟩ := ht _ List.mem_cons_self
    obtain ⟨b, u', rfl⟩ := List.exists_cons_of_ne_nil hu.ne_nil
    obtain ⟨rfl, -⟩ := List.cons.inj hv
    have hh := List.all_eq_true.1 hu.isBlankLine b List.mem_cons_self
    rw [hc] at hh
    cases hh

end Text

namespace Grammar

variable {S : Setup σ} {G : Grammar σ} {t r text out : Text} {i j : Indentation} {h h' : σ}
  {level n : Nat} {k k' : Config σ}

/-- What follows a control sequence on the last line of a fragment is copied. -/
lemma Line.ending (ht : t.IsEnding) (hc : Control S G level ⟨r, i, h⟩ text ⟨t, j, h'⟩) :
    Line S G level false ⟨'\\' :: r, i, h⟩ (text ++ t) ⟨[], j, h'⟩ := by
  refine .control hc ?_
  obtain ⟨hn, rfl | hp⟩ := ht
  · exact .done rfl
  · cases t with
    | nil => cases hp
    | cons c note =>
      obtain rfl : c = '%' := by simpa using hp
      rw [List.mem_cons, not_or] at hn
      have hl : Line S G level false ⟨'%' :: (note ++ []), j, h'⟩ ('%' :: note ++ []) ⟨[], j, h'⟩ :=
        .comment rfl hn.2 rfl (.done rfl)
      rwa [List.append_nil, List.append_nil] at hl

/-- The first line of a fragment that starts with a control sequence, and what comes after it. -/
lemma Fragment.exists_control (hf : Fragment (ofRoom S (n + 1)) ⟨'\\' :: r, i, h⟩ out k) :
    ∃ (text rest : Text) (k₁ k₂ k₃ : Config σ) (o : Option Text),
      Control S (ofRoom S n) 0 ⟨r, i, h⟩ text k₁ ∧ Line S (ofRoom S n) 0 false k₁ rest k₂ ∧
      NextLine 0 k₂ o k₃ := by
  have hblank : Text.blankLines ('\\' :: r) = [] :=
    blankLines_of_text (w := []) rfl (by decide) (by decide) r
  -- A fragment starts with a block, and this block is at level 0.
  obtain ⟨text, k', hblock⟩ : ∃ text k', Block ((ofRoom S (n + 1)).line 0 false) 0
      ⟨'\\' :: r, i, h⟩ text k' := by
    obtain ⟨text, k', hb⟩ : ∃ text k', WholeBlock (ofRoom S (n + 1)) ⟨'\\' :: r, i, h⟩ text k' := by
      cases hf with
      | last hb => exact ⟨_, _, hb⟩
      | more hb _ => exact ⟨_, _, hb⟩
    generalize hr : '\\' :: r = t at hb hblank
    cases hb with
    | blank hb =>
      rw [hblank] at hb
      rw [← hb] at hr
      cases hr
    | lines hb _ hlevel hblock =>
      rw [hblank] at hb
      subst hb
      rw [List.nil_append] at hr
      subst hr
      cases hlevel
      exact ⟨_, _, hblock⟩
  -- Its first line starts with the control sequence.
  obtain ⟨text, k₂, k₃, o, hl, hx⟩ : ∃ text k₂ k₃ o,
      Line S (ofRoom S n) 0 false ⟨'\\' :: r, i, h⟩ text k₂ ∧ NextLine 0 k₂ o k₃ := by
    cases hblock with
    | last hl hx => exact ⟨_, _, _, _, hl, hx⟩
    | more hl hx _ => exact ⟨_, _, _, _, hl, hx⟩
  cases hl with
  | done hd => cases hd
  | char hc => cases hc
  | control hc hl => exact ⟨_, _, _, _, _, _, hc, hl, hx⟩

/-- A line that has come to its end, up to a comment. -/
lemma Line.eq_of_end (hl : Line S G level false k out k')
    (hk : k.rest.atLineEnd || k.rest.starts (· == '%')) :
    ∃ w : Text, w.IsEnding ∧ k = ⟨w ++ k'.rest, k'.indentation, k'.host⟩ := by
  cases hl with
  | done => exact ⟨[], ⟨by simp, Or.inl rfl⟩, rfl⟩
  | @char c _ _ _ _ _ hc _ =>
    obtain ⟨hn, hp⟩ : c ≠ '\n' ∧ c ≠ '%' := by
      constructor <;> rintro rfl <;> exact absurd hc (by decide)
    exact absurd hk (by simp [hn, hp])
  | @comment note r out i h k _ hn hr hl =>
    cases hl with
    | done => exact ⟨'%' :: note, ⟨by simp [hn], Or.inr rfl⟩, rfl⟩
    | @char c _ _ _ _ _ hc _ =>
      have hc' : c ≠ '\n' := by
        rintro rfl
        exact absurd hc (by decide)
      exact absurd hr (by simp [hc'])
    | comment | control | group => cases hr
  | control | group => exact absurd hk (by simp)

/-- After a line at level 0 that only indented lines can follow there is nothing. -/
lemma NextLine.rest_eq_nil {o : Option Text} (hu : Indentation.IsUnit u)
    (hx : NextLine 0 k o k')
    (hlines : ∀ y, k.rest = '\n' :: y → ∀ l ∈ splitLines y, u <+: l ∧ l.isBlankLine = false) :
    k.rest = [] := by
  cases hx with
  | finished => rfl
  | lower _ _ _ hlt => exact absurd hlt (Nat.not_lt_zero _)
  | @trailing t i h ht =>
    obtain ⟨hb, hne⟩ := takeWhile_ne_nil_of_indented hu (hlines t rfl)
    rw [← ht, hb] at hne
    exact absurd rfl hne
  | @same blank r i j h hb _ hlevel =>
    obtain ⟨hb', hne⟩ := takeWhile_ne_nil_of_indented hu (hlines (blank ++ r) rfl)
    obtain rfl : blank = [] := hb.symm.trans hb'
    exact absurd (Indentation.eq_nil_of_levelOf hlevel) hne

end Grammar

namespace Scan

open Grammar

variable {m : Scan σ α} {k k' : Config σ} {t : Text} {j : Indentation} {h : σ}

/-- A reader gives one result and one configuration. -/
lemma Reads.unique {a b : α} {k₁ k₂ : Config σ} (h₁ : Reads m k a k₁) (h₂ : Reads m k b k₂) :
    a = b ∧ k₁ = k₂ := by
  obtain ⟨s, hs⟩ := k.exists_state
  obtain ⟨s₁, hs₁, rfl⟩ := h₁ s hs
  obtain ⟨s₂, hs₂, rfl⟩ := h₂ s hs
  rw [hs₁] at hs₂
  cases hs₂
  exact ⟨rfl, rfl⟩

/-- The state of the executor after a run whose last call for it is a given expansion. -/
lemma ComesTo.final_host {x : Executor σ} {expansion : Expansion}
    (hm : ComesTo m k (expand x expansion) ⟨t, j, h⟩)
    (hok : ∀ out h', expansion.run x h = (.ok out, h') → ∃ a k', Reads m k a k' ∧ k'.host = h')
    {s : State σ} (hs : s.config = k) : (m.final s).host = (expansion.run x h).2 := by
  generalize hrun : expansion.run x h = p at hok
  obtain ⟨output, h'⟩ := p
  cases output with
  | ok out =>
    obtain ⟨a, k', hr, rfl⟩ := hok out h' rfl
    obtain ⟨s', hs', rfl⟩ := hr s hs
    rw [final, hs']
    rfl
  | error e =>
    obtain ⟨s', f, hs', hrun'⟩ := hm s hs
    obtain ⟨-, -, rfl⟩ := State.config_eq_iff.1 hs'
    have hx : expand x expansion s' = .error (e.orAt s'.cursor.location) { s' with host := h' } := by
      unfold expand
      rw [hrun]
      rfl
    rw [final, hrun', bind_run, hx]

end Scan

/-! ### An environment alone and in the body of another -/

/-- There are no blank lines before an indented control sequence. -/
lemma blankLines_control (hu : Indentation.IsUnit u) (t : Text) :
    Text.blankLines ([] ++ (u ++ '\\' :: t)) = [] :=
  blankLines_of_text hu.isBlankLine (by decide) (by decide) t

/-- The unit before a control sequence. -/
lemma levelOf_control (hu : Indentation.IsUnit u) (t : Text) :
    Indentation.levelOf ((u ++ '\\' :: t).takeWhile isHorizontal) .unset = .ok 1 (.ofUnit u) := by
  rw [takeWhile_run hu.isBlankLine (by rfl)]
  exact Indentation.levelOf_unset hu

/-- What is left after a body is the end of what there was. -/
lemma Grammar.CustomBody.exists_append {S : Setup σ} {n level : Nat} {e : Environment}
    {k k' : Config σ} {body : Scan.Body} (hb : CustomBody (ofRoom S n) level e.raw k body k') :
    ∃ x, k.rest = x ++ k'.rest := by
  obtain ⟨s, rfl⟩ := k.exists_state
  obtain ⟨s', hs', rfl⟩ := Scan.customBody_complete (Level.ofRoom_complete S n) hb s rfl
  have honward : Scan.Onward (Scan.customBody (Level.ofRoom S n) e level) :=
    fun start i => (Level.ofRoom_onward S n start i).customBody rfl level
  obtain ⟨x, hx, -⟩ := honward.reaches hs'
  exact ⟨x, hx⟩

section Alone

open Grammar Scan

variable {S : Setup σ} {e : Environment} {name w r t : Text} {i j : Indentation} {h h' h'' : σ}
  {n level : Nat} {body : Scan.Body} {out : Text}
  (hne : name ≠ []) (ha : name.all isAlphabetic)
  (hd : S.registry.find? name = some (.environment e)) (hp : e.params = [])

include hne ha hd hp

/-- An environment without arguments. -/
lemma Grammar.Control.environment_bare {G : Grammar σ}
    (hb : CustomBody G level e.raw ⟨r, i, h⟩ body ⟨t, j, h'⟩)
    (hrun : (e.generate j.unitText (dedented level j body) []).run S.executor h' = (.ok out, h'')) :
    Control S G level ⟨name ++ ':' :: r, i, h⟩ (indentTail (j.margin level) out) ⟨t, j, h''⟩ := by
  have hname : ControlName (name ++ ':' :: r) name (':' :: r) :=
    .word hne ha (by rw [starts_cons, isAlphabetic_colon])
  have hargs : Arguments G e.params (':' :: r) [] ([] ++ ':' :: r) := by
    rw [hp]
    exact .nil
  exact .environment hname hd hargs rfl hb hrun

/-- A fragment that is an environment comes to its expansion. -/
lemma Scan.fragment_comesTo_alone
    (hb : CustomBody (ofRoom S (n + 1)) 0 e.raw ⟨r, .unset, h⟩ body ⟨t, j, h'⟩) :
    ComesTo (fragment (.ofRoom S (n + 2))) ⟨'\\' :: (name ++ ':' :: r), .unset, h⟩
      (expand S.executor (e.generate j.unitText (dedented 0 j body) [])) ⟨t, j, h'⟩ :=
  fragment_comesTo (by decide) (blockLines_comesTo (line_comesTo (w := []) rfl
    (lineControl_comesTo (Level.ofRoom_complete S (n + 1)) hne ha hd hp hb)) (List.cons_ne_nil _ _))

/-- A fragment with the environment in the body of another one comes to its expansion. -/
lemma Scan.fragment_comesTo_nested (hu : Indentation.IsUnit u) (hw : w ≠ []) (hwa : w.all isAlphabetic)
    (hwd : S.registry.find? w = none)
    (hb : CustomBody (ofRoom S n) 1 e.raw ⟨r, .ofUnit u, h⟩ body ⟨t, j, h'⟩) :
    ComesTo (fragment (.ofRoom S (n + 2)))
      ⟨'\\' :: (w ++ ':' :: '\n' :: (u ++ '\\' :: (name ++ ':' :: r))), .unset, h⟩
      (expand S.executor (e.generate j.unitText (dedented 1 j body) [])) ⟨t, j, h'⟩ := by
  have henter := Enter.newline (h := h) (blankLines_control hu (name ++ ':' :: r)) (by simp)
    (levelOf_control hu _)
  refine fragment_comesTo (by decide) (blockLines_comesTo (line_comesTo (w := []) rfl ?_)
    (List.cons_ne_nil _ _))
  refine native_comesTo (Level.ofRoom_complete S (n + 1)) hw hwa hwd henter
    (blockLines_comesTo (line_comesTo hu.isBlankLine ?_) (by simp))
  exact lineControl_comesTo (Level.ofRoom_complete S n) hne ha hd hp hb

/-- Where the expansion succeeds, so does the fragment that is the environment. -/
lemma Scan.fragment_reads_alone (ht : t.IsEnding)
    (hb : CustomBody (ofRoom S (n + 1)) 0 e.raw ⟨r, .unset, h⟩ body ⟨t, j, h'⟩)
    (hrun : (e.generate j.unitText (dedented 0 j body) []).run S.executor h' = (.ok out, h'')) :
    ∃ o k, Reads (fragment (.ofRoom S (n + 2))) ⟨'\\' :: (name ++ ':' :: r), .unset, h⟩ o k ∧
      k.host = h'' := by
  have hl : Line S (ofRoom S (n + 1)) 0 false ⟨'\\' :: (name ++ ':' :: r), .unset, h⟩ _ _ :=
    .ending ht (.environment_bare hne ha hd hp hb hrun)
  exact ⟨_, _, fragment_complete (Level.ofRoom_complete S (n + 2)) (.of_line hl), rfl⟩

/-- Where the expansion succeeds, so does the fragment with the environment in the body of another
one. -/
lemma Scan.fragment_reads_nested (hu : Indentation.IsUnit u) (hw : w ≠ []) (hwa : w.all isAlphabetic)
    (hwd : S.registry.find? w = none) (ht : t.IsEnding)
    (hb : CustomBody (ofRoom S n) 1 e.raw ⟨r, .ofUnit u, h⟩ body ⟨t, j, h'⟩)
    (hrun : (e.generate j.unitText (dedented 1 j body) []).run S.executor h' = (.ok out, h'')) :
    ∃ o k, Reads (fragment (.ofRoom S (n + 2)))
      ⟨'\\' :: (w ++ ':' :: '\n' :: (u ++ '\\' :: (name ++ ':' :: r))), .unset, h⟩ o k ∧
      k.host = h'' := by
  have hl : Line S (ofRoom S n) 1 false ⟨u ++ '\\' :: (name ++ ':' :: r), .ofUnit u, h⟩ _ _ :=
    .run (run_of_isBlankLine hu.isBlankLine) (.ending ht (.environment_bare hne ha hd hp hb hrun))
  have hf := Fragment.native (n := n + 1) hw hwa hwd (blankLines_control hu _) (by simp)
    (levelOf_control hu _) (.last hl .finished)
  exact ⟨_, _, fragment_complete (Level.ofRoom_complete S (n + 2)) hf, rfl⟩

/-- Where only indented lines follow the line that opens an environment, all of them belong to its
body. -/
lemma isEnding_of_fragment (hu : Indentation.IsUnit u)
    (hb : CustomBody (ofRoom S (n + 1)) 0 e.raw ⟨r, .unset, h⟩ body ⟨t, j, h'⟩)
    (hend : t.atLineEnd || t.starts (· == '%'))
    (hlines : ∀ l ∈ (splitLines ('\\' :: name ++ ':' :: r)).tail, u <+: l ∧ l.isBlankLine = false)
    {s s' : State σ} (hs : s.config = ⟨'\\' :: (name ++ ':' :: r), .unset, h⟩)
    (hok : fragment (.ofRoom S (n + 2)) s = .ok out s') : t.IsEnding := by
  -- The environment is expanded, and the rest of its line is read from there.
  obtain ⟨s₁, f, hs₁, hrun⟩ := fragment_comesTo_alone hne ha hd hp hb s hs
  obtain ⟨-, -, hhost⟩ := State.config_eq_iff.1 hs₁
  obtain ⟨o, s₂, hx, -⟩ := bind_ok (hrun.symm.trans hok)
  obtain ⟨hx, -, -⟩ := expand_ok hx
  rw [hhost] at hx
  have hc := Control.environment_bare hne ha hd hp hb hx
  have hf := fragment_sound (Level.ofRoom_sound S (n + 2)) hok
  rw [hs] at hf
  obtain ⟨text, rest, k₁, k₂, k₃, o', hc', hl, hnext⟩ := hf.exists_control
  have hC := Level.ofRoom_complete S (n + 1)
  obtain ⟨-, rfl⟩ := (lineControl_complete hC hc).unique (lineControl_complete hC hc')
  obtain ⟨v, hv, hk⟩ := hl.eq_of_end hend
  have htv : t = v ++ k₂.rest := congrArg Config.rest hk
  obtain ⟨x, hrx⟩ : ∃ x, r = x ++ t := hb.exists_append
  -- No further line of the source is at level 0.
  have hnil : k₂.rest = [] := by
    refine hnext.rest_eq_nil hu fun y hy l hl => hlines l ?_
    have hsplit : '\\' :: name ++ ':' :: r = ('\\' :: name ++ ':' :: (x ++ v)) ++ '\n' :: y := by
      rw [hrx, htv, hy]
      simp
    rw [hsplit]
    exact mem_splitLines_tail hl
  rw [hnil, List.append_nil] at htv
  exact htv ▸ hv

end Alone

/-- Whatever the room, a line that a comment ends comes to its end or to a comment. -/
lemma Grammar.ofRoom_stops {S : Setup σ} {n level : Nat} {k k' : Config σ} {out : Text}
    (hl : (ofRoom S n).line level true k out k') : k'.rest.atLineEnd || k'.rest.starts (· == '%') := by
  cases n with
  | zero => cases hl
  | succ n => exact Line.stops hl

/-- A body that is read steadily is read one level deeper, where the environment is given the same line
or block. -/
lemma Grammar.CustomBody.nest_of_steady {S : Setup σ} {e : Environment} {n : Nat} {text : Text}
    {single : Bool} {s fin : State σ} (hu : Indentation.IsUnit u) (hs : s.indentation = .unset)
    (hsingle : single = true → '\n' ∉ s.cursor.rest)
    (hrun : Scan.customBody (.steady u S single n) e 0 s = .ok text fin)
    (hfin : fin.indentation.Fits u 0) :
    ∃ body, CustomBody (ofRoom S n) 1 e.raw (s.config.nest u false) body (fin.config.nest u false) ∧
      if single || text.isLineOrBlock then dedented 1 (.ofUnit u) body = text
      else Shift u [] false text (dedented 1 (.ofUnit u) body) := by
  cases single with
  | true =>
    obtain ⟨body, hb, rfl⟩ := Scan.customBody_sound (Level.ofRoom_sound _ n) hrun
    obtain ⟨hb', hfin', hline⟩ := hb.deepen (ofRoom_deepens (S.flat_tames .singleLine) n)
      ⟨hsingle rfl, hs⟩
    refine ⟨body, ?_, ?_⟩
    · rw [hfin'.nest_eq, Config.OnLine.nest_eq ⟨hsingle rfl, hs⟩]
      exact hb'
    · rw [Bool.true_or, if_pos rfl, dedented_of_line hline, dedented_of_line hline]
  | false =>
    obtain ⟨body, hb, rfl⟩ := Scan.customBody_sound (Level.flatRoom_sound S n) hrun
    obtain ⟨body', hb', hd⟩ := hb.shift hu (flatRoom_shifts hu S n 0) (Or.inr ⟨hs, rfl⟩) hfin
    exact ⟨body', hb', hd⟩

/-- A body that is read steadily is read without the checks and with more room, up to the end of its
line or a comment. -/
lemma Grammar.CustomBody.of_steady {S : Setup σ} {e : Environment} {n : Nat} {text : Text}
    {single : Bool} {s fin : State σ}
    (hrun : Scan.customBody (.steady u S single n) e 0 s = .ok text fin) :
    (∃ body, CustomBody (ofRoom S (n + 1)) 0 e.raw s.config body fin.config ∧
      dedented 0 fin.indentation body = text) ∧
    (fin.config.rest.atLineEnd || fin.config.rest.starts (· == '%')) := by
  obtain ⟨s₁, hs₁, hr₁⟩ := ((Lockstep.unchecked_steady S single n).customBody rfl 0).ok
    ⟨rfl, rfl, trivial, rfl⟩ hrun
  obtain ⟨s₂, hs₂, hr₂⟩ := ((Lockstep.alongside_ofRoom S n).customBody rfl 0).ok
    ⟨rfl, rfl, trivial, rfl⟩ hs₁
  obtain ⟨body, hb, hd⟩ := Scan.customBody_sound (Level.ofRoom_sound S (n + 1)) hs₂
  have hconfig := (Lockstep.config_eq_of_alongside hr₁).trans (Lockstep.config_eq_of_alongside hr₂)
  rw [← hconfig] at hb
  rw [show s₂.indentation = fin.indentation from congrArg Config.indentation hconfig.symm] at hd
  exact ⟨⟨body, hb, hd.symm⟩, hb.stops ofRoom_stops⟩

namespace Translator

open Grammar Scan

section Reports

variable {t : Translator σ} {e : Environment} {name r rest : Text} {j : Indentation}
  {h : σ × List Text} {n : Nat} {body : Scan.Body} (hne : name ≠ []) (ha : name.all isAlphabetic)
  (hd : t.registry.find? name = some (.environment e)) (hp : e.params = []) (hrest : rest.IsEnding)

include hne ha hd hp hrest

/-- The bodies in a fragment that is a single environment: that of the environment is the last one. -/
lemma bodies_alone (hb : CustomBody (ofRoom t.setup.reporting (maxNesting - 1)) 0 e.raw
      ⟨r, .unset, (t.start t.files, [])⟩ body ⟨rest, j, h⟩) :
    t.bodies ('\\' :: name ++ ':' :: r) = h.2 ++ [dedented 0 j body] := by
  have hdr := find?_reporting hd
  have hfinal := (fragment_comesTo_alone hne ha hdr hp hb).final_host
    (fun _ _ => fragment_reads_alone hne ha hdr hp hrest hb)
    (s := .start ('\\' :: name ++ ':' :: r) (t.start t.files, [])) rfl
  have hrun := Environment.run_reporting t.executor e j.unitText (dedented 0 j body) [] h
  exact congrArg Prod.snd (hfinal.trans (congrArg Prod.snd hrun))

/-- The bodies where the environment is all of the body of another one. -/
lemma bodies_within {w : Text} (hu : Indentation.IsUnit u) (hw : w ≠ []) (hwa : w.all isAlphabetic)
    (hwd : t.registry.find? w = none)
    (hb : CustomBody (ofRoom t.setup.reporting (maxNesting - 2)) 1 e.raw
      ⟨r, .ofUnit u, (t.start t.files, [])⟩ body ⟨rest, j, h⟩) :
    t.bodies ('\\' :: w ++ ':' :: '\n' :: (u ++ '\\' :: (name ++ ':' :: r))) =
      h.2 ++ [dedented 1 j body] := by
  have hdr := find?_reporting hd
  have hwr := find?_reporting hwd
  have hfinal := (fragment_comesTo_nested hne ha hdr hp hu hw hwa hwr hb).final_host
    (fun _ _ => fragment_reads_nested hne ha hdr hp hu hw hwa hwr hrest hb)
    (s := .start ('\\' :: w ++ ':' :: '\n' :: (u ++ '\\' :: (name ++ ':' :: r)))
      (t.start t.files, [])) rfl
  have hrun := Environment.run_reporting t.executor e j.unitText (dedented 1 j body) [] h
  exact congrArg Prod.snd (hfinal.trans (congrArg Prod.snd hrun))

end Reports

/-- A registered environment without parameters whose body is read steadily with room for one more
level, where it becomes the body of another environment: all environments inside it are given the
same bodies, and so is the environment itself if its body is a block or a line, or if it is all on one
line of the source. Any other one-line body with newlines is the same up to the margin. -/
theorem bodies_nested (t : Translator σ) {e : Environment} {u w name r out body : Text}
    {single : Bool} (hu : Indentation.IsUnit u) (hw : w ≠ []) (hwa : w.all isAlphabetic)
    (hwd : t.registry.find? w = none) (hne : name ≠ []) (ha : name.all isAlphabetic)
    (hd : t.registry.find? name = some (.environment e)) (hp : e.params = [])
    (hlines : ∀ l ∈ (splitLines ('\\' :: name ++ ':' :: r)).tail, u <+: l ∧ l.isBlankLine = false)
    (hok : t.translateFragment ('\\' :: name ++ ':' :: r) = .ok out) {fin : State σ}
    (hsingle : single = true → '\n' ∉ r)
    (hsteady : customBody (.steady u t.setup single (maxNesting - 2)) e 0
      (.start r (t.start t.files)) = .ok body fin)
    (hunit : fin.indentation.unit = none ∨ fin.indentation.unit = some u) :
    ∃ inside body', t.bodies ('\\' :: name ++ ':' :: r) = inside ++ [body] ∧
      t.bodies ('\\' :: w ++ ':' :: '\n' :: indented u ('\\' :: name ++ ':' :: r)) =
        inside ++ [body'] ∧
      if single || body.isLineOrBlock then body' = body else Shift u [] false body body' := by
  have hrel (source : Text) : (Lockstep.reported σ).Related (.start source (t.start t.files))
      (.start source (t.start t.files, [])) := ⟨rfl, rfl, trivial, rfl⟩
  -- Both readings succeed with reports, too.
  have hraw : e.raw = e.reporting.raw := rfl
  obtain ⟨fin', hsteady', hfin⟩ := ((Lockstep.Levels.steady (Lockstep.reported_flat t.setup) single
    _).customBody hraw 0).ok (hrel r) hsteady
  obtain ⟨s, hs⟩ := run_eq_ok.1 hok
  obtain ⟨s', hs', -⟩ := (Lockstep.Levels.outermost (Lockstep.reported_setups t.setup)).fragment.ok
    (hrel _) hs
  have hfits : fin'.indentation.Fits u 0 := by
    rw [← hfin.indentation_eq]
    rcases hunit with h | h
    · exact Or.inr ⟨congrArg Indentation.mk h, rfl⟩
    · exact Or.inl (congrArg Indentation.mk h)
  obtain ⟨⟨b, hb, hdb⟩, hend⟩ := CustomBody.of_steady hsteady'
  obtain ⟨b', hb', hdb'⟩ := CustomBody.nest_of_steady hu rfl hsingle hsteady' hfits
  have hrest := isEnding_of_fragment (e := e.reporting) hne ha (find?_reporting hd) hp hu hb hend
    hlines rfl hs'
  have halone : t.bodies ('\\' :: name ++ ':' :: r) = fin'.host.2 ++ [body] := by
    rw [← hdb]
    exact bodies_alone hne ha hd hp hrest hb
  refine ⟨fin'.host.2, dedented 1 (.ofUnit u) b', halone, ?_, hdb'⟩
  have hconfig : fin'.config.nest u false = ⟨fin'.cursor.rest, .ofUnit u, fin'.host⟩ := by
    rw [Config.nest, State.config, indent_of_notMem hrest.1]
  rw [hconfig] at hb'
  have hsource : indented u ('\\' :: name ++ ':' :: r) =
      u ++ '\\' :: (name ++ ':' :: indent u false r) := by
    rw [indented_eq (newline_notMem_of_isBlankLine hu.isBlankLine), List.cons_append,
      indent_cons (by decide), indent_line_append (newline_notMem_of_isAlphabetic ha),
      indent_cons (by decide)]
    rfl
  rw [hsource]
  exact bodies_within hne ha hd hp hrest hu hw hwa hwd hb'

/-- An environment that gives the unit and its body in angle brackets. -/
def frame : Environment where
  name := "frame".toList
  params := []
  raw := false
  generate unit body _ := .text ('<' :: unit ++ body ++ ['>'])

/-- An environment that gives the same whatever its unit and its body are. -/
def mark : Environment where
  name := "mark".toList
  params := []
  raw := false
  generate _ _ _ := .text ['*']

/-- A translator with the environments, with a command that gives two lines and with one that indents
the second line. -/
def framing : Translator Unit :=
  .ofRegistry ((((Registry.empty.insert (.environment frame)).insert (.environment mark)).insert
    (.command ⟨"pair".toList, [], fun _ => .ok "a\nb".toList⟩)).insert
    (.command ⟨"hang".toList, [], fun _ => .ok "a\n  b".toList⟩))

/-- A block with a comment, a group over two lines, a registered environment with a block, one with two
lines on its line, and a block. An environment on one line, with a command that indents and an
environment to which the unit does not matter. -/
theorem bodies_nested_frame :
    framing.bodies ("\\w:\n  \\frame: % n\n    \\x[[y\n      z]]\n    \\frame:\n      \\pair z\n".toList ++
        "    \\frame: \\pair z\n    \\x:\n      t".toList) =
      ["\na\nb z\n".toList, "a\nb z".toList,
        "\n% n\n\\x[[y\n  z]]\n<  \na\nb z\n>\n<  a\nb z>\n".toList ++
          "\\begin\x7bx\x7d\n  t\n\\end\x7bx\x7d\n".toList] ∧
    framing.bodies "\\w:\n  \\frame: \\hang \\mark: x".toList = ["x".toList, "a\n  b *".toList] := by
  have hunit : Indentation.IsUnit [' ', ' '] := ⟨by decide, by decide⟩
  constructor
  · let r : Text := " % n\n  \\x[[y\n    z]]\n  \\frame:\n    \\pair z\n".toList ++
      "  \\frame: \\pair z\n  \\x:\n    t".toList
    let body : Text := "\n% n\n\\x[[y\n  z]]\n<  \na\nb z\n>\n<  a\nb z>\n".toList ++
      "\\begin\x7bx\x7d\n  t\n\\end\x7bx\x7d\n".toList
    obtain ⟨fin, hsteady, hfin⟩ : ∃ fin, customBody (.steady [' ', ' '] framing.setup false
        (maxNesting - 2)) frame 0 (.start r ()) = .ok body fin ∧
          fin.indentation.unit = some [' ', ' '] := exists_of_run (by decide +kernel)
    have hok : framing.translateFragment ('\\' :: frame.name ++ ':' :: r) =
        .ok ('<' :: ' ' :: ' ' :: body ++ ['>']) :=
      translateFragment_of_toOption (by decide +kernel)
    obtain ⟨inside, body', halone, hnested, hsame⟩ := bodies_nested framing (w := ['w']) hunit
      (by decide) (by decide +kernel) (by decide +kernel) (by decide) (by decide +kernel) rfl rfl
      (by decide +kernel) hok (fun h => absurd h Bool.false_ne_true) hsteady (Or.inr hfin)
    have hblock : (false || body.isLineOrBlock) = true := by decide +kernel
    have hsource : '\\' :: ['w'] ++ ':' :: '\n' :: indented [' ', ' '] ('\\' :: frame.name ++ ':' :: r) =
        "\\w:\n  \\frame: % n\n    \\x[[y\n      z]]\n    \\frame:\n      \\pair z\n".toList ++
          "    \\frame: \\pair z\n    \\x:\n      t".toList := by
      decide +kernel
    have hvalue : framing.bodies ('\\' :: frame.name ++ ':' :: r) =
        ["\na\nb z\n".toList, "a\nb z".toList, body] := by
      decide +kernel
    rw [if_pos hblock] at hsame
    rw [hsame, ← halone, hvalue, hsource] at hnested
    exact hnested
  · let r : Text := " \\hang \\mark: x".toList
    let body : Text := "a\n  b *".toList
    obtain ⟨fin, hsteady, hfin⟩ : ∃ fin, customBody (.steady [' ', ' '] framing.setup true
        (maxNesting - 2)) frame 0 (.start r ()) = .ok body fin ∧ fin.indentation.unit = none :=
      exists_of_run (by decide +kernel)
    have hok : framing.translateFragment ('\\' :: frame.name ++ ':' :: r) =
        .ok ('<' :: body ++ ['>']) := translateFragment_of_toOption (by decide +kernel)
    obtain ⟨inside, body', halone, hnested, rfl⟩ := bodies_nested framing (w := ['w']) hunit
      (by decide) (by decide +kernel) (by decide +kernel) (by decide) (by decide +kernel) rfl rfl
      (by decide +kernel) hok (fun _ => by decide +kernel) hsteady (Or.inl hfin)
    have hsource : '\\' :: ['w'] ++ ':' :: '\n' :: indented [' ', ' '] ('\\' :: frame.name ++ ':' :: r) =
        "\\w:\n  \\frame: \\hang \\mark: x".toList := by
      decide +kernel
    have hvalue : framing.bodies ('\\' :: frame.name ++ ':' :: r) = ["x".toList, body] := by
      decide +kernel
    rw [← halone, hvalue, hsource] at hnested
    exact hnested

/-- A one-line body with a block in it depends on the margin of the block. -/
theorem not_bodies_nested : ¬ ∀ (t : Translator Unit) (e : Environment) (u w name r out : Text)
    (fin : State Unit), Indentation.IsUnit u → w ≠ [] → w.all isAlphabetic →
    t.registry.find? w = none → name ≠ [] → name.all isAlphabetic →
    t.registry.find? name = some (.environment e) → e.raw = false → e.params = [] →
    '\x7b' ∉ '\\' :: name ++ ':' :: r → '\x7d' ∉ '\\' :: name ++ ':' :: r →
    (∀ l ∈ splitLines ('\\' :: name ++ ':' :: r),
      l.isBlankLine = false ∧ l.getLast? ≠ some '\\') →
    (∀ l ∈ (splitLines ('\\' :: name ++ ':' :: r)).tail, u <+: l) →
    fragment (.ofRoom t.setup (maxNesting - 1))
      (.start ('\\' :: name ++ ':' :: r) (t.start t.files)) = .ok out fin →
    fin.indentation.unit = none ∨ fin.indentation.unit = some u →
    (t.bodies ('\\' :: w ++ ':' :: '\n' :: indented u ('\\' :: name ++ ':' :: r))).getLast? =
      (t.bodies ('\\' :: name ++ ':' :: r)).getLast? := by
  intro hall
  let r : Text := " \\x:\n  t".toList
  obtain ⟨fin, hrun, hunit⟩ : ∃ fin, fragment (.ofRoom framing.setup (maxNesting - 1))
      (.start ('\\' :: frame.name ++ ':' :: r) ()) =
        .ok "<  \\begin\x7bx\x7d\n  t\n\\end\x7bx\x7d>".toList fin ∧
      fin.indentation.unit = some [' ', ' '] := exists_of_run (by decide +kernel)
  have hsame := hall framing frame [' ', ' '] ['w'] frame.name r _ fin ⟨by decide, by decide⟩
    (by decide) (by decide +kernel) (by decide +kernel) (by decide) (by decide +kernel) rfl rfl rfl
    (by decide +kernel) (by decide +kernel) (by decide +kernel) (by decide +kernel) hrun
    (Or.inr hunit)
  have halone : framing.bodies ('\\' :: frame.name ++ ':' :: r) =
      ["\\begin\x7bx\x7d\n  t\n\\end\x7bx\x7d".toList] := by
    decide +kernel
  have hnested : framing.bodies
      ('\\' :: ['w'] ++ ':' :: '\n' :: indented [' ', ' '] ('\\' :: frame.name ++ ':' :: r)) =
      ["\\begin\x7bx\x7d\n    t\n  \\end\x7bx\x7d".toList] := by
    decide +kernel
  rw [halone, hnested] at hsame
  exact absurd (Option.some.inj hsame) (by decide +kernel)

end Translator

end IndentTex
