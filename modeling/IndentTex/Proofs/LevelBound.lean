import IndentTex.Proofs.Depth
import IndentTex.Proofs.Position

/-!
# Bounds on levels

Levels are counted without a bound. A level fits (`State.fits`) if it is zero or if its margin takes
no more bytes than the source. Then it can be counted in words that can count the bytes of the source
and one more, and so can the level below it and the size of its margin (`State.fits_lt`).

All levels that a run comes to fit, if the one that it was asked for does. `Level.guarded` refuses to
read a line at a level that does not fit, and `Request.run_guarded` says that it never has to: every
request ends as it ends without the guards.
-/

namespace IndentTex

variable {σ α β : Type} {s s' : State σ} {level : Nat}

/-! ### Levels that fit -/

namespace State

/-- Whether a level is zero or has a margin that takes no more bytes than the source. -/
def fits (s : State σ) (level : Nat) : Bool :=
  level == 0 || s.indentation.unit.any fun u =>
    !u.isEmpty && level * u.byteSize ≤ s.cursor.text.byteSize

/-- What it takes for a level to fit. -/
lemma fits_iff : s.fits level ↔ level = 0 ∨ ∃ u, s.indentation.unit = some u ∧ u ≠ [] ∧
    level * u.byteSize ≤ s.cursor.text.byteSize := by
  simp [fits, Option.any_eq_true]

/-- A level that fits stays so while the text and the unit are the same. -/
lemma fits_of_keeps (hs : s.fits level) (ht : s'.cursor.text = s.cursor.text)
    (hk : s.indentation.Keeps s'.indentation) : s'.fits level := by
  rw [fits_iff] at hs ⊢
  rcases hs with hs | ⟨u, hu, hne, hle⟩
  · exact Or.inl hs
  · exact Or.inr ⟨u, hk u hu, hne, ht ▸ hle⟩

/-- A level that fits fits in every later state. -/
lemma Later.fits (h : s.Later s') (hs : s.fits level) : s'.fits level :=
  fits_of_keeps hs h.reaches.text_eq h.keeps

end State

/-- A text repeated takes as many times its bytes. -/
lemma Text.byteSize_times (t : Text) (n : Nat) : (t.times n).byteSize = n * t.byteSize := by
  induction n with
  | zero => simp [Text.times, Text.byteSize]
  | succ n ih => rw [Indentation.times_succ, Text.byteSize_append, ih, Nat.succ_mul, Nat.add_comm]

/-- Where the size of the source is less than the greatest number of a word, a level that fits can be
counted in such words, and so can the level below it and the size of its margin. -/
theorem State.fits_lt {greatest : Nat} (hs : s.fits level)
    (hsize : s.cursor.text.byteSize < greatest) :
    level + 1 ≤ greatest ∧ (s.indentation.margin level).byteSize < greatest := by
  rcases fits_iff.1 hs with rfl | ⟨u, hu, hne, hle⟩
  · have hzero : (s.indentation.margin 0).byteSize = 0 := rfl
    omega
  · have hpos : 0 < u.byteSize := Nat.pos_of_ne_zero fun h => hne (Text.byteSize_eq_zero.1 h)
    have hlevel : level ≤ level * u.byteSize := Nat.le_mul_of_pos_right level hpos
    rw [Indentation.margin, Indentation.unitText, hu, Option.getD_some, Text.byteSize_times]
    omega

/-- The margin of a level that was measured takes as many bytes as the indentation. -/
lemma Indentation.mul_of_levelOf {indent : Text} {i j : Indentation}
    (h : levelOf indent i = .ok level j) :
    level = 0 ∨ ∃ u, j.unit = some u ∧ u ≠ [] ∧ level * u.byteSize = indent.byteSize := by
  rw [levelOf_run] at h
  repeat' split at h
  case isFalse.isTrue =>
    cases h
    exact Or.inl rfl
  case isFalse.isFalse.isFalse.isFalse hne hhead hmod =>
    cases h
    refine Or.inr ⟨_, rfl, ?_, Nat.div_mul_cancel (Nat.dvd_of_mod_eq_zero (Decidable.not_not.1 hmod))⟩
    -- an empty unit would not start as the indentation does
    intro hunit
    rw [hunit] at hhead
    exact hhead fun heq => hne (List.head?_eq_none_iff.1 heq)
  all_goals cases h

namespace Scan

/-- A level that was measured fits, since its margin stands in the source. -/
lemma fits_of_indentLevel (h : indentLevel s = .ok level s') : s'.fits level := by
  obtain ⟨j, hl, rfl⟩ := indentLevel_ok h
  have hsize : Text.byteSize (s.cursor.rest.takeWhile isHorizontal) ≤ s.cursor.text.byteSize := by
    have hprefix := List.takeWhile_prefix isHorizontal (l := s.cursor.rest)
    have hrest := Text.byteSize_le_of_prefix hprefix
    rw [Cursor.text, Text.byteSize_append]
    omega
  rw [State.fits_iff]
  rcases Indentation.mul_of_levelOf hl with hzero | ⟨u, hu, hne, heq⟩
  · exact Or.inl hzero
  · exact Or.inr ⟨u, hu, hne, heq ▸ hsize⟩

/-- Below the line that opens an environment, the level of its block fits. -/
lemma fits_of_enterBlock {blank : Text} (h : enterBlock level s = .ok blank s') :
    s'.fits (level + 1) := by
  unfold enterBlock at h
  obtain ⟨_, s₁, -, h⟩ := bind_ok h
  obtain ⟨finished, s₂, -, h⟩ := bind_ok h
  split at h
  · cases h
  · obtain ⟨next, s₃, hlevel, h⟩ := bind_ok h
    split at h
    case isTrue hnext =>
      cases h
      exact hnext ▸ fits_of_indentLevel hlevel
    case isFalse => cases h

/-- A reader that never goes back leaves a level that fits so. -/
lemma Onward.fits {m : Scan σ α} {a : α} (hm : Onward m) (h : m s = .ok a s')
    (hs : s.fits level) : s'.fits level :=
  State.fits_of_keeps hs (hm.reaches h).text_eq fun _ hu => hm.unit_eq h hu

/-- After a literal block, the level of its lines fits. -/
lemma fits_of_rawBody {body : Body} (h : rawBody level s = .ok body s') (hb : body.block) :
    s'.fits (level + 1) := by
  obtain ⟨_, s₁, -, h⟩ := bind_ok h
  obtain ⟨next, s₂, -, h⟩ := bind_ok h
  cases next with
  | none => cases h
  | some c =>
    dsimp only at h
    split at h
    · obtain ⟨blank, s₃, henter, h⟩ := bind_ok h
      obtain ⟨lines, s₄, hlines, h⟩ := bind_ok h
      cases h
      exact Onward.fits (fun _ _ => .rawLines _) hlines (fits_of_enterBlock henter)
    · obtain ⟨line, s₃, -, h⟩ := bind_ok h
      cases h
      cases hb

/-- After a block, the level of its lines fits. -/
lemma fits_of_environmentBody {inner : Level σ} (ho : inner.Onward) {body : Body}
    (h : environmentBody inner level s = .ok body s') (hb : body.block) :
    s'.fits (level + 1) := by
  obtain ⟨_, s₁, -, h⟩ := bind_ok h
  obtain ⟨next, s₂, -, h⟩ := bind_ok h
  cases next with
  | none => cases h
  | some c =>
    dsimp only at h
    split at h
    · obtain ⟨blank, s₃, henter, h⟩ := bind_ok h
      obtain ⟨lines, s₄, hlines, h⟩ := bind_ok h
      cases h
      exact (ho.blockLines _).fits hlines (fits_of_enterBlock henter)
    split at h
    · obtain ⟨_, s₃, -, h⟩ := bind_ok h
      obtain ⟨note, s₄, -, h⟩ := bind_ok h
      obtain ⟨blank, s₅, henter, h⟩ := bind_ok h
      obtain ⟨margin, s₆, hmargin, h⟩ := bind_ok h
      obtain ⟨lines, s₇, hlines, h⟩ := bind_ok h
      cases h
      cases hmargin
      exact (ho.blockLines _).fits hlines (fits_of_enterBlock henter)
    · obtain ⟨line, s₃, -, h⟩ := bind_ok h
      cases h
      cases hb

/-- The margin that is taken off the lines of a block, literal or not, is that of a level that
fits. -/
theorem fits_of_body {inner : Level σ} (ho : inner.Onward) {isRaw : Bool} {body : Body}
    (h : (if isRaw then rawBody level else environmentBody inner level) s = .ok body s')
    (hb : body.block) : s'.fits (level + 1) := by
  cases isRaw with
  | true => exact fits_of_rawBody h hb
  | false => exact fits_of_environmentBody ho h hb

/-! ### Readers that agree -/

/-- Readers that do the same wherever a level fits. -/
def AgreeAt (level : Nat) (m m' : Scan σ α) : Prop := ∀ s, s.fits level → m s = m' s

namespace AgreeAt

variable {m m' : Scan σ α} {f f' : α → Scan σ β} {next : Nat}

/-- A reader agrees with itself. -/
lemma refl (level : Nat) (m : Scan σ α) : AgreeAt level m m := fun _ _ => rfl

/-- Readers agree if their first steps do, which lead to where another level fits, and their rests
do there. -/
lemma bindTo (hm : AgreeAt level m m')
    (hnext : ∀ s a s', s.fits level → m s = .ok a s' → s'.fits next)
    (hf : ∀ a, AgreeAt next (f a) (f' a)) : AgreeAt level (m >>= f) (m' >>= f') := by
  intro s hs
  rw [bind_run, bind_run, ← hm s hs]
  cases hrun : m s with
  | ok a s' => exact hf a s' (hnext s a s' hs hrun)
  | error e s' => rfl

/-- Readers agree if their first steps do, which never go back, and their rests do. -/
lemma bind (hm : AgreeAt level m m') (ho : Onward m) (hf : ∀ a, AgreeAt level (f a) (f' a)) :
    AgreeAt level (m >>= f) (m' >>= f') :=
  hm.bindTo (fun _ _ _ hs h => ho.fits h hs) hf

/-- Readers with the same first step agree if their rests do. -/
lemma step (ho : Onward m) (hf : ∀ a, AgreeAt level (f a) (f' a)) :
    AgreeAt level (m >>= f) (m >>= f') :=
  (refl level m).bind ho hf

/-- Readers whose first steps agree, and that go on in the same way, agree. -/
lemma first (hm : AgreeAt level m m') : AgreeAt level (m >>= f) (m' >>= f) := by
  intro s hs
  rw [bind_run, bind_run, hm s hs]

/-- Level 0 fits everywhere. -/
lemma eq (h : AgreeAt 0 m m') : m = m' :=
  funext fun s => h s (State.fits_iff.2 (Or.inl rfl))

/-- Loops agree if their rounds do. -/
lemma bounded {loop loop' : Nat → Scan σ α} (h : ∀ n, AgreeAt level (loop n) (loop' n)) :
    AgreeAt level (bounded loop) (bounded loop') :=
  fun s hs => h s.cursor.rest.length s hs

end AgreeAt

end Scan

/-! ### Runs that are the same -/

namespace Lockstep

/-- Every reader keeps in step with itself. -/
lemma Sim.equal_refl (m : Scan σ α) : (equal Eq).Sim Eq m m := by
  intro s t r
  obtain rfl : s = t := by
    have hs := r.eq_withHost
    rw [r.host] at hs
    exact hs
  have hself (s : State σ) : (equal Eq).Related s s := ⟨rfl, rfl, rfl, rfl⟩
  cases m s with
  | ok a s' => exact ⟨rfl, hself s'⟩
  | error e s' => exact Or.inr ⟨rfl, hself s'⟩

/-- Readers that keep in step from equal states to equal states are the same. -/
lemma Sim.eq {m m' : Scan σ α} (h : (equal Eq).Sim Eq m m') : m = m' := by
  funext s
  obtain ⟨t, t', r, heq⟩ := (h s s ⟨rfl, rfl, rfl, rfl⟩).exists_related
  have ht : t' = t := by
    rw [r.eq_withHost, r.host]
    rfl
  rw [heq id ht, Scan.onState_id]

/-- Every output corresponds to itself. -/
lemma Outputs.equal_refl (x : Except Error Text) : (equal (σ := σ) Eq).Outputs x x := by
  cases x with
  | ok t => exact .ok t
  | error e => exact .error rfl

/-- Every setup corresponds to itself. -/
lemma equal_setups (S : Setup σ) : (equal Eq).Setups S S := by
  refine fun name => .equal (fun v h h' hh => ?_) _
  rw [hh]
  exact ⟨rfl, rfl⟩

end Lockstep

/-- Levels that read groups alike, and lines wherever their level fits. -/
structure Level.Agree (inner inner' : Level σ) : Prop where
  groups : (Lockstep.equal Eq).Groups inner inner'
  line (level : Nat) (stop : Bool) :
    Scan.AgreeAt level (inner.line level stop) (inner'.line level stop)

namespace Level.Agree

open Scan (AgreeAt)

variable {S : Setup σ} {inner inner' : Level σ}

section Readers

variable (h : inner.Agree inner') (ho : inner.Onward)

include h

include ho

/-- Blocks agree. -/
lemma blockLines (level : Nat) :
    AgreeAt level (Scan.blockLines inner level) (Scan.blockLines inner' level) := by
  refine .bounded fun n => ?_
  rw [Scan.blockLoop_eq_linesLoop, Scan.blockLoop_eq_linesLoop]
  induction n with
  | zero => exact h.line level false
  | succ n ih =>
    refine (h.line level false).bind (ho.line level false) fun text => ?_
    refine .step (Scan.nextLine_onward level) fun next => ?_
    cases next with
    | none => exact .refl level _
    | some blank => exact ih.first

/-- Bodies of environments agree: the level of a block is measured before its first line. -/
lemma environmentBody (level : Nat) :
    AgreeAt level (Scan.environmentBody inner level) (Scan.environmentBody inner' level) := by
  refine .step (fun _ _ => .skipWhile _) fun _ => .step (fun _ _ => .peek) fun next => ?_
  cases next with
  | none => exact .refl level _
  | some c =>
    have henter : ∀ s blank s', State.fits (σ := σ) s level →
        Scan.enterBlock level s = .ok blank s' → s'.fits (level + 1) :=
      fun _ _ _ _ hs => Scan.fits_of_enterBlock hs
    dsimp only
    split
    · exact (AgreeAt.refl level _).bindTo henter fun blank => (h.blockLines ho _).first
    split
    · refine .step (fun _ _ => .skip 1) fun _ => .step (fun _ _ => .comment) fun note => ?_
      refine (AgreeAt.refl level _).bindTo henter fun blank => ?_
      exact .step (fun _ _ => .margin _) fun _ => (h.blockLines ho _).first
    · exact (h.line level true).first

/-- Registered environments agree. -/
lemma customEnvironment (e : Environment) (level : Nat) :
    AgreeAt level (Scan.customEnvironment S inner e level)
      (Scan.customEnvironment S inner' e level) := by
  unfold Scan.customEnvironment
  rw [← (h.groups.arguments e.name e.params).eq]
  refine .step (fun start i => (ho start i).arguments _ _) fun values => ?_
  refine .step (fun _ _ => .skipWhile _) fun _ => .step (fun _ _ => .peek) fun next => ?_
  cases next with
  | none => exact .refl level _
  | some c =>
    dsimp only
    split
    · refine .step (fun _ _ => .skip 1) fun _ => AgreeAt.first ?_
      refine AgreeAt.first ?_
      split
      · exact .refl level _
      · exact h.environmentBody ho level
    · exact .refl level _

/-- Control sequences without a definition agree. -/
lemma nativeControl (name : Text) (level : Nat) :
    AgreeAt level (Scan.nativeControl inner name level)
      (Scan.nativeControl inner' name level) := by
  unfold Scan.nativeControl
  rw [← h.groups.argumentText.eq]
  split
  · refine .step (fun start i => (ho start i).argumentText) fun args => ?_
    refine .step .mark fun start => ?_
    refine .step (fun _ _ => .skipWhile _) fun _ => .step (fun _ _ => .peek) fun next => ?_
    split
    · refine .step (fun _ _ => .skip 1) fun _ => AgreeAt.first ?_
      exact (h.environmentBody ho level).first
    · exact .refl level _
  · exact .refl level _

/-- Control sequences in lines agree. -/
lemma lineControl (level : Nat) :
    AgreeAt level (Scan.lineControl S inner level) (Scan.lineControl S inner' level) := by
  refine .step (fun _ _ => .skip 1) fun _ => .step (fun _ _ => .controlName) fun name => ?_
  rcases S.registry.find? name with _ | c | e
  · exact h.nativeControl ho name level
  · have hcommand : Scan.customCommand inner c = Scan.customCommand inner' c :=
      (h.groups.customCommand rfl rfl fun _ => .equal_refl _).eq
    exact fun s _ => congrFun hcommand s
  · exact h.customEnvironment ho e level

/-- Lines agree. -/
lemma lineLoop (level : Nat) (stop : Bool) (n : Nat) :
    AgreeAt level (Scan.lineLoop S inner level stop n)
      (Scan.lineLoop S inner' level stop n) := by
  rw [Scan.lineLoop_eq_lineLoopWith, Scan.lineLoop_eq_lineLoopWith, (h.groups.group _).eq]
  have hcontrol : Scan.Onward (Scan.lineControl S inner level) :=
    fun start i => (ho start i).lineControl (Lockstep.onward_setups start i S) level
  have hgroup : Scan.Onward (inner'.group '\x7d') :=
    (h.groups.group _).eq ▸ ho.group _
  induction n with
  | zero => exact .refl level _
  | succ n ih =>
    refine .step (fun _ _ => .skipWhile _) fun plain => .step (fun _ _ => .peek) fun next => ?_
    cases next with
    | none => exact .refl level _
    | some c =>
      dsimp only
      split
      · exact .refl level _
      split
      · exact .step (fun _ _ => .skip 1) fun _ => .step (fun _ _ => .comment) fun _ => ih.first
      split
      · exact (h.lineControl ho level).bind hcontrol fun _ => ih.first
      split
      · exact .step (fun _ _ => .skip 1) fun _ => .step hgroup fun _ => ih.first
      · exact .refl level _

/-- A block is the same, since its level is measured before its first line. -/
lemma block : Scan.block inner = Scan.block inner' := by
  refine AgreeAt.eq (.step (fun _ _ => .skipBlankLines) fun blank => ?_)
  refine .step (fun _ _ => .isFinished) fun finished => ?_
  split
  · exact .refl 0 _
  · intro s _
    rw [Scan.bind_run, Scan.bind_run]
    cases hlevel : Scan.indentLevel s with
    | ok level s' => exact (h.blockLines ho level).first s' (Scan.fits_of_indentLevel hlevel)
    | error e s' => rfl

/-- Fragments are the same. -/
lemma fragment : Scan.fragment inner = Scan.fragment inner' := by
  refine congrArg Scan.bounded (funext fun n => ?_)
  induction n with
  | zero => exact h.block ho
  | succ n ih => rw [Scan.fragmentLoop, Scan.fragmentLoop, h.block ho, ih]

/-- Documents are the same, whose lines are at level 0. -/
lemma document : Scan.document inner = Scan.document inner' := by
  unfold Scan.document Scan.documentBody
  rw [(h.blockLines ho 0).eq]

/-- Sources with a preamble are the same, whose lines are at level 0. -/
lemma root : Scan.root inner = Scan.root inner' := by
  have hline : Scan.preambleLine inner = Scan.preambleLine inner' := by
    unfold Scan.preambleLine
    rw [(h.line 0 false).eq]
  refine congrArg Scan.bounded (funext fun n => ?_)
  induction n with
  | zero => rfl
  | succ n ih => rw [Scan.rootLoop, Scan.rootLoop, h.document ho, hline, ih]

/-- Levels agree if those below them do. -/
lemma above : (Level.above S inner).Agree (Level.above S inner') where
  groups := h.groups.above (Lockstep.equal_setups S).commands
  line level stop := .bounded (h.lineLoop ho level stop)

end Readers

end Level.Agree

/-! ### Guards -/

namespace Level

/-- The level that refuses to read a line at a level that does not fit. -/
def guarded (inner : Level σ) : Level σ :=
  { inner with line := fun level stop s =>
      if s.fits level then inner.line level stop s else Scan.raise .internal s }

/-- The level with room for `n` further ones, all of them guarded. -/
def guardedRoom (S : Setup σ) : Nat → Level σ
  | 0 => exhausted.guarded
  | n + 1 => (above S (guardedRoom S n)).guarded

/-- Guards make no difference where the level fits. -/
lemma Agree.guarded {inner inner' : Level σ} (h : inner.Agree inner') :
    inner.Agree inner'.guarded where
  groups := ⟨h.groups.group, h.groups.brackets⟩
  line level stop s hs := by
    rw [h.line level stop s hs, Level.guarded]
    dsimp only
    rw [if_pos hs]

/-- Levels agree with guarded ones. -/
lemma agree_guardedRoom (S : Setup σ) (n : Nat) : (ofRoom S n).Agree (guardedRoom S n) := by
  induction n with
  | zero =>
    refine Agree.guarded ⟨⟨fun _ => .equal_refl _, .equal_refl _⟩, fun level stop => ?_⟩
    exact .refl level _
  | succ n ih => exact (ih.above (ofRoom_onward S n)).guarded

end Level

/-- The level that a request is for. -/
def Request.level? : {α : Type} → Request α → Option Nat
  | _, blockLines level => some level
  | _, line level _ => some level
  | _, lineControl level => some level
  | _, nativeControl _ level => some level
  | _, customEnvironment _ level => some level
  | _, environmentBody level => some level
  | _, rawBody level => some level
  | _, _ => none

/-- Guards never refuse anything: a request whose level fits, or that has none, ends as it ends
without them. -/
theorem Request.run_guarded (S : Setup σ) (n : Nat) (r : Request α) (s : State σ)
    (h : ∀ level, r.level? = some level → s.fits level) :
    r.run S (.guardedRoom S n) s = r.run S (.ofRoom S n) s := by
  have hinner := Level.agree_guardedRoom S n
  have ho := Level.ofRoom_onward S n
  have hcommands := (Lockstep.equal_setups S).commands
  symm
  cases r with
  | controlName => rfl
  | argumentControl => exact congrFun (hinner.groups.argumentControl hcommands).eq s
  | comment => rfl
  | group close => exact congrFun (hinner.groups.group close).eq s
  | optionalArgument isRaw => exact congrFun (hinner.groups.optionalArgument isRaw).eq s
  | requiredArgument name isRaw => exact congrFun (hinner.groups.requiredArgument name isRaw).eq s
  | arguments name params => exact congrFun (hinner.groups.arguments name params).eq s
  | brackets => exact congrFun hinner.groups.brackets.eq s
  | argumentText => exact congrFun hinner.groups.argumentText.eq s
  | customCommand c =>
    exact congrFun (hinner.groups.customCommand rfl rfl fun _ => .equal_refl _).eq s
  | blockLines level => exact hinner.blockLines ho level s (h level rfl)
  | line level stop => exact hinner.line level stop s (h level rfl)
  | lineControl level => exact hinner.lineControl ho level s (h level rfl)
  | nativeControl name level => exact hinner.nativeControl ho name level s (h level rfl)
  | customEnvironment v level => exact hinner.customEnvironment ho v level s (h level rfl)
  | environmentBody level => exact hinner.environmentBody ho level s (h level rfl)
  | rawBody level => rfl
  | block => exact congrFun (hinner.block ho) s
  | document => exact congrFun (hinner.document ho) s
  | root => exact congrFun (hinner.root ho) s
  | fragment => exact congrFun (hinner.fragment ho) s

end IndentTex
