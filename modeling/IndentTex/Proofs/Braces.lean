import IndentTex.Proofs.Composition
import IndentTex.Proofs.Consumption
import IndentTex.Proofs.EntryPoints

/-!
# Braces on a line

On a line without control sequences and comments the scanner goes down one level for every opening
brace and up for every closing one, and it has a limited number of levels. The same is said here with a
counter alone: `Text.braceFault?` goes through a text from left to right and finds the first brace that
is out of place. `State.Tallies` relates what the scanner has read to what the counter has seen. Step
by step the two agree, so that the counter decides what becomes of the line
(`Translator.translateFragment_braces`).
-/

namespace IndentTex

variable {σ : Type}

/-! ### The counter -/

namespace Text

/-- The first fault of the braces in a text that starts at `offset` with `depth` braces open: its cause
and its place. -/
def braceFault? (depth offset : Nat) : Text → Option (Cause × Nat)
  | [] => if depth = 0 then none else some (.unclosedGroup '\x7d', offset)
  | c :: t =>
    if c = '\x7b' then
      if depth + 1 = maxNesting then some (.nestingTooDeep, offset + 1)
      else braceFault? (depth + 1) (offset + 1) t
    else if c = '\x7d' then
      if depth = 0 then some (.unexpectedBrace, offset)
      else braceFault? (depth - 1) (offset + 1) t
    else braceFault? depth (offset + c.utf8Size) t

/-- Nothing but plain text and braces, on one line. -/
def OnlyBraces (t : Text) : Prop := ∀ c ∈ t, c ≠ '\\' ∧ c ≠ '%' ∧ c ≠ '\n'

variable {t u w r : Text} {d o : Nat}

/-- The end of a text with no active characters but braces is such a text. -/
lemma OnlyBraces.of_append (h : OnlyBraces (t ++ u)) : OnlyBraces u :=
  fun c hc => h c (by simp [hc])

/-- Characters other than braces are passed over. -/
lemma braceFault?_plain (hw : ∀ c ∈ w, c ≠ '\x7b' ∧ c ≠ '\x7d') :
    braceFault? d o (w ++ r) = braceFault? d (o + w.byteSize) r := by
  induction w generalizing o with
  | nil => rfl
  | cons c w ih =>
    obtain ⟨ho, hc⟩ := hw c (by simp)
    rw [List.cons_append, braceFault?, if_neg ho, if_neg hc, ih fun a ha => hw a (by simp [ha]),
      byteSize, Nat.add_assoc]

end Text

/-! ### The counter and the scanner -/

namespace State

variable {s s' s'' : State σ} {d d' d'' : Nat} {w w' r : Text} {e : Error}

/-- The first fault of the braces that are still to be read. -/
def braceFault? (s : State σ) (depth : Nat) : Option (Cause × Nat) :=
  s.cursor.rest.braceFault? depth s.cursor.offset

/-- Reading `w` takes the counter from `d` to `d'`. -/
structure Tallies (d d' : Nat) (s : State σ) (w : Text) (s' : State σ) : Prop where
  consumes : s.Consumes w s'
  fault_eq : s.braceFault? d = s'.braceFault? d'

/-- The error is the first fault of the braces. -/
def HasFault (s : State σ) (d : Nat) (e : Error) : Prop :=
  ∃ cause offset, s.braceFault? d = some (cause, offset) ∧
    e = ⟨cause, some (.ofOffset s.cursor.text offset)⟩

namespace Tallies

/-- Tallies are taken one after the other. -/
lemma trans (h : s.Tallies d d' w s') (h' : s'.Tallies d' d'' w' s'') :
    s.Tallies d d'' (w ++ w') s'' :=
  ⟨h.consumes.trans h'.consumes, h.fault_eq.trans h'.fault_eq⟩

/-- A fault that is found later is found. -/
lemma hasFault (h : s.Tallies d d' w s') (he : s'.HasFault d' e) : s.HasFault d e := by
  obtain ⟨cause, offset, hf, rfl⟩ := he
  exact ⟨cause, offset, h.fault_eq.trans hf, by rw [h.consumes.text_eq]⟩

/-- Characters other than braces do not change the depth. -/
lemma plain (hs : s.cursor.rest = w ++ r) (hw : ∀ c ∈ w, c ≠ '\x7b' ∧ c ≠ '\x7d') :
    s.Tallies d d w (s.advance w.length) := by
  have hc := Consumes.of_rest hs
  refine ⟨hc, ?_⟩
  have hrest : (s.advance w.length).cursor.rest = r := by simp [hs]
  rw [braceFault?, braceFault?, hc.offset_eq, hrest, hs, Text.braceFault?_plain hw]

/-- An opening brace leads one level deeper. -/
lemma opens (hs : s.cursor.rest = '\x7b' :: r) (hd : d + 1 ≠ maxNesting) :
    s.Tallies d (d + 1) ['\x7b'] (s.advance 1) := by
  have hc : s.Consumes ['\x7b'] (s.advance 1) := .of_rest hs
  refine ⟨hc, ?_⟩
  rw [braceFault?, braceFault?, hc.offset_eq, advance_one hs, hs, Text.braceFault?, if_pos rfl,
    if_neg hd]
  rfl

/-- A closing brace leads one level back. -/
lemma closes (hs : s.cursor.rest = '\x7d' :: r) : s.Tallies (d + 1) d ['\x7d'] (s.advance 1) := by
  have hc : s.Consumes ['\x7d'] (s.advance 1) := .of_rest hs
  refine ⟨hc, ?_⟩
  rw [braceFault?, braceFault?, hc.offset_eq, advance_one hs, hs, Text.braceFault?,
    if_neg (by decide), if_pos rfl, if_neg (Nat.succ_ne_zero d)]
  rfl

end Tallies

/-- A fault at the cursor. -/
lemma hasFault_raise {cause : Cause} (h : s.braceFault? d = some (cause, s.cursor.offset)) :
    s.HasFault d ⟨cause, some s.cursor.location⟩ :=
  ⟨cause, _, h, rfl⟩

/-- The outcome of a run from `s` that reads the text `wrap out` where it gives `out`: either it takes
the counter from `d` to `d'`, or it fails at the first fault. -/
def Tallied (d d' : Nat) (wrap : Text → Text) (s : State σ) :
    EStateM.Result Error (State σ) Text → Prop
  | .ok out s' => s.Tallies d d' (wrap out) s'
  | .error e _ => s.HasFault d e

/-- What is tallied after a first part is tallied with it. -/
lemma Tallied.after {wrap wrap' : Text → Text} {res : EStateM.Result Error (State σ) Text}
    (h : s.Tallies d d' w s') (hres : s'.Tallied d' d'' wrap res) (hw : ∀ t, wrap' t = w ++ wrap t) :
    s.Tallied d d'' wrap' res := by
  cases res with
  | error e _ => exact h.hasFault hres
  | ok out s'' =>
    rw [Tallied, hw]
    exact h.trans hres

end State

/-- A level that agrees with the counter on braces in which `d` others are open. -/
def Level.Tallies (d : Nat) (inner : Level σ) : Prop :=
  ∀ (s : State σ) (r : Text), s.cursor.rest = '\x7b' :: r → r.OnlyBraces →
    s.Tallied d d (fun body => '\x7b' :: body ++ ['\x7d']) (inner.group '\x7d' (s.advance 1))

namespace Scan

open State

variable {S : Setup σ} {inner : Level σ} {s s₁ : State σ} {d d' n : Nat} {plain r : Text}

/-- A round of a loop that comes to an opening brace. -/
lemma tallied_round (hI : inner.Tallies d) (hplain : s.Tallies d d plain s₁)
    (hs : s₁.cursor.rest = '\x7b' :: r) (hr : r.OnlyBraces) (hn : s.cursor.rest.length ≤ n + 1)
    {loop : Scan σ Text} {wrap : Text → Text} (hwrap : ∀ u t, wrap (u ++ t) = u ++ wrap t)
    (hloop : ∀ s' : State σ, s'.cursor.rest.length ≤ n → s'.cursor.rest.OnlyBraces →
      s'.Tallied d d' wrap (loop s')) :
    s.Tallied d d' wrap
      ((do
        skip 1
        let body ← inner.group '\x7d'
        return plain ++ '\x7b' :: body ++ '\x7d' :: (← loop)) s₁) := by
  have hgroup := hI s₁ r hs hr
  rw [bind_of_ok (skip_run 1 s₁), bind_run]
  cases hg : inner.group '\x7d' (s₁.advance 1) with
  | error e s' =>
    rw [hg] at hgroup
    exact hplain.hasFault hgroup
  | ok body s' =>
    rw [hg] at hgroup
    have hread := hplain.trans hgroup
    have hrest := hread.consumes.rest_eq
    have hrest' := hgroup.consumes.rest_eq
    have hshort : s'.cursor.rest.length ≤ n := by
      rw [hrest] at hn
      simp at hn
      omega
    have honly : s'.cursor.rest.OnlyBraces := by
      rw [hs] at hrest'
      obtain rfl := (List.cons.inj hrest').2
      exact hr.of_append
    have hmore := hloop s' hshort honly
    dsimp only
    rw [bind_run]
    cases hl : loop s' with
    | error e s'' =>
      rw [hl] at hmore
      exact hread.hasFault hmore
    | ok out s'' =>
      rw [hl] at hmore
      have hall := hread.trans hmore
      rw [← hwrap] at hall
      simpa [Tallied] using hall

/-- A run of plain characters has no braces in it. -/
lemma ne_brace_of_all {p : Char → Bool} (hopen : p '\x7b') (hclose : p '\x7d')
    (hp : plain.all fun c => !p c) : ∀ c ∈ plain, c ≠ '\x7b' ∧ c ≠ '\x7d' := by
  intro c hc
  have hnot := List.all_eq_true.1 hp c hc
  constructor
  · rintro rfl
    simp [hopen] at hnot
  · rintro rfl
    simp [hclose] at hnot

/-- A group is tallied up to its closing brace. -/
lemma groupLoop_tallied (hI : inner.Tallies (d + 1)) (hn : s.cursor.rest.length ≤ n)
    (hs : s.cursor.rest.OnlyBraces) :
    s.Tallied (d + 1) d (· ++ ['\x7d']) (groupLoop S inner '\x7d' n s) := by
  -- The braces inside belong to the level below, so the induction is on the rounds of the loop alone.
  induction n generalizing s with
  | zero =>
    have hnil : s.cursor.rest = [] := List.eq_nil_of_length_eq_zero (Nat.le_zero.1 hn)
    exact hasFault_raise (by rw [State.braceFault?, hnil]; rfl)
  | succ n ih =>
    obtain ⟨w, r, ht, hw, hr, hskip, hsr⟩ := skipWhile_ok (fun c => !endsGroupRun '\x7d' c) s
    have hplain : s.Tallies (d + 1) (d + 1) w (s.advance w.length) :=
      .plain ht (ne_brace_of_all (by decide) (by decide) hw)
    rw [groupLoop, skipUntil, bind_of_ok hskip, bind_of_ok (peek_run _), hsr]
    cases r with
    | nil => exact hplain.hasFault (hasFault_raise (by rw [State.braceFault?, hsr]; rfl))
    | cons c r =>
      rw [ht] at hs
      have honly := hs.of_append
      obtain ⟨hback, hpercent, -⟩ := honly c (by simp)
      by_cases hclose : c = '\x7d'
      · subst hclose
        exact hplain.trans (.closes hsr)
      · obtain rfl : c = '\x7b' := by simpa [endsGroupRun, hclose, hback, hpercent] using hr
        exact tallied_round hI hplain hsr (honly.of_append (t := ['\x7b'])) hn
          (fun u t => List.append_assoc ..) fun s' => ih

/-- A line is tallied up to its end. -/
lemma lineLoop_tallied (hI : inner.Tallies 0) (hn : s.cursor.rest.length ≤ n)
    (hs : s.cursor.rest.OnlyBraces) (level : Nat) :
    s.Tallied 0 0 id (lineLoop S inner level false n s) := by
  induction n generalizing s with
  | zero => exact ⟨⟨List.nil_prefix, by simp⟩, rfl⟩
  | succ n ih =>
    obtain ⟨w, r, ht, hw, hr, hskip, hsr⟩ := skipWhile_ok (fun c => !endsLineRun c) s
    have hplain : s.Tallies 0 0 w (s.advance w.length) :=
      .plain ht (ne_brace_of_all (by decide) (by decide) hw)
    rw [lineLoop, skipUntil, bind_of_ok hskip, bind_of_ok (peek_run _), hsr]
    cases r with
    | nil => exact hplain
    | cons c r =>
      rw [ht] at hs
      have honly := hs.of_append
      obtain ⟨hback, hpercent, hnewline⟩ := honly c (by simp)
      by_cases hclose : c = '\x7d'
      · subst hclose
        exact hplain.hasFault (hasFault_raise (by rw [State.braceFault?, hsr]; rfl))
      · obtain rfl : c = '\x7b' := by
          simpa [endsLineRun, hclose, hback, hpercent, hnewline] using hr
        exact tallied_round hI hplain hsr (honly.of_append (t := ['\x7b'])) hn (fun _ _ => rfl)
          fun s' => ih

end Scan

namespace Level

open State

/-- The levels count down where the braces are counted up. -/
lemma ofRoom_tallies (S : Setup σ) {n d : Nat} (hd : d + n + 1 = maxNesting) :
    (ofRoom S n).Tallies d := by
  induction n generalizing d with
  | zero =>
    -- No level is left. The brace has been read by then, so the error stands behind it.
    intro s r hs _
    have hc : s.Consumes ['\x7b'] (s.advance 1) := .of_rest hs
    refine ⟨.nestingTooDeep, (s.advance 1).cursor.offset, ?_, ?_⟩
    · rw [hc.offset_eq, State.braceFault?, hs, Text.braceFault?, if_pos rfl, if_pos hd]
      rfl
    · rw [← hc.text_eq]
      rfl
  | succ n ih =>
    intro s r hs hr
    have hopens : s.Tallies d (d + 1) ['\x7b'] (s.advance 1) := .opens hs (by omega)
    have hinner : (ofRoom S n).Tallies (d + 1) := ih (by omega)
    have hrest := advance_one hs
    exact (Scan.groupLoop_tallied hinner (Nat.le_refl _) (hrest ▸ hr)).after hopens fun _ => rfl

end Level

namespace Scan

open State

variable {S : Setup σ} {s : State σ}

/-- A line of braces and plain text is read to the end of the source. -/
lemma line_tallied (S : Setup σ) (hs : s.cursor.rest.OnlyBraces) (level : Nat) :
    s.Tallied 0 0 id ((Level.outermost S).line level false s) :=
  lineLoop_tallied (Level.ofRoom_tallies S (n := maxNesting - 1) rfl) (Nat.le_refl _) hs level

/-- A block of one line of braces and plain text is copied, or it fails at the first fault. -/
lemma blockLines_braces (S : Setup σ) (hs : s.cursor.rest.OnlyBraces) (level : Nat) :
    (∃ s', blockLines (.outermost S) level s = .ok s.cursor.rest s' ∧ s'.cursor.rest = [] ∧
      s.braceFault? 0 = none) ∨
    ∃ e s', blockLines (.outermost S) level s = .error e s' ∧ s.HasFault 0 e := by
  have hI := Level.outermost_sound S
  have hline := line_tallied S hs level
  rw [blockLines_unfold hI, bind_run]
  cases hl : (Level.outermost S).line level false s with
  | error e s' =>
    rw [hl] at hline
    exact Or.inr ⟨e, s', rfl, hline⟩
  | ok out s' =>
    rw [hl] at hline
    obtain ⟨hconsumes, hfault⟩ : s.Tallies 0 0 out s' := hline
    have hrest := hconsumes.rest_eq
    have hend : s'.cursor.rest.atLineEnd := hI.ends (hI.line hl)
    -- There is no newline at which the line could have ended.
    have hnil : s'.cursor.rest = [] := by
      cases ht : s'.cursor.rest with
      | nil => rfl
      | cons c t =>
        rw [hrest, ht] at hs
        rw [ht] at hend
        exact absurd (by simpa using hend) (hs c (by simp)).2.2
    refine Or.inl ⟨s', ?_, hnil, ?_⟩
    · dsimp only
      rw [bind_of_ok (nextLine_end hnil level), hrest, hnil, List.append_nil]
      rfl
    · rw [hfault, State.braceFault?, hnil]
      rfl

end Scan

namespace Translator

open Scan

/-- A line without control sequences and comments that is not indented is decided by counting its
braces. It is copied if they match. Otherwise the first of these events is the error: a brace closes
nothing, a brace opens while one less than the limit are open, or the text ends with braces open. -/
theorem translateFragment_braces (t : Translator σ) {s : Text}
    (hs : ∀ c ∈ s, c ≠ '\\' ∧ c ≠ '%' ∧ c ≠ '\n') (hh : s.starts isHorizontal = false) :
    (t.translateFragment s =
      match s.braceFault? 0 0 with
      | none => .ok s
      | some (cause, offset) => .error ⟨cause, some (.ofOffset s offset)⟩) ∧
    [Cause.unexpectedBrace, .nestingTooDeep, .unclosedGroup '\x7d'].map
        (fun cause => (cause.kind, cause.message)) =
      [(.invalidSyntax, "Unexpected `\x7d`".toList), (.invalidSyntax, "Nesting too deep".toList),
        (.unexpectedEof, "Missing closing `\x7d`".toList)] := by
  refine ⟨?_, by decide +kernel⟩
  cases s with
  | nil => exact run_eq_ok.2 ⟨_, fragmentLoop_blank rfl 0⟩
  | cons c s =>
    have hblank : ([] ++ c :: s : Text).blankLines = [] :=
      Text.blankLines_of_text (w := []) rfl hh (hs c (by simp)).2.2 s
    have hfragment := fragment_unindented (Level.outermost_sound t.setup)
      (s := .start (c :: s) (t.start t.files)) rfl hblank (List.cons_ne_nil c s) hh
    rw [List.length_nil, State.advance_zero] at hfragment
    rcases blockLines_braces (s := .start (c :: s) (t.start t.files)) t.setup hs 0 with
      ⟨s', hb, hnil, hfault⟩ | ⟨e, s', hb, cause, offset, hfault, rfl⟩
    · have hnone : Text.braceFault? 0 0 (c :: s) = none := hfault
      simp only [hb, hnil, List.append_nil, List.nil_append] at hfragment
      rw [hnone]
      exact run_eq_ok.2 ⟨_, hfragment⟩
    · have hsome : Text.braceFault? 0 0 (c :: s) = some (cause, offset) := hfault
      rw [hb] at hfragment
      rw [hsome]
      exact run_eq_error.2 ⟨s', hfragment⟩

/-- A brace that closes nothing after a character of two bytes, as many braces as can be nested, one
more, and one that is not closed. -/
theorem translateFragment_braces_limit :
    let t : Translator Unit := .ofRegistry .empty
    let early := ['a', '\x7b', 'é', '\x7d', '\x7d', '\x7b']
    let nested := List.replicate 127 '\x7b' ++ List.replicate 127 '\x7d'
    let deep := List.replicate 128 '\x7b'
    (∀ c ∈ early, c ≠ '\\' ∧ c ≠ '%' ∧ c ≠ '\n') ∧ Text.starts isHorizontal early = false ∧
    t.translateFragment early = .error ⟨.unexpectedBrace, some (.ofOffset early 5)⟩ ∧
    t.translateFragment nested = .ok nested ∧
    t.translateFragment deep = .error ⟨.nestingTooDeep, some (.ofOffset deep 128)⟩ ∧
    t.translateFragment ['\x7b', 'a'] =
      .error ⟨.unclosedGroup '\x7d', some (.ofOffset ['\x7b', 'a'] 2)⟩ := by
  intro t early nested deep
  have hearly : ∀ c ∈ early, c ≠ '\\' ∧ c ≠ '%' ∧ c ≠ '\n' := by simp [early]
  have hnested : ∀ c ∈ nested, c ≠ '\\' ∧ c ≠ '%' ∧ c ≠ '\n' := by
    intro c hc
    rcases List.mem_append.1 hc with hc | hc
    · rw [List.eq_of_mem_replicate hc]
      decide
    · rw [List.eq_of_mem_replicate hc]
      decide
  have hdeep : ∀ c ∈ deep, c ≠ '\\' ∧ c ≠ '%' ∧ c ≠ '\n' := by simp [deep]
  have hcount : Text.braceFault? 0 0 nested = none := by decide +kernel
  have hlimit : Text.braceFault? 0 0 deep = some (.nestingTooDeep, 128) := by decide +kernel
  refine ⟨hearly, rfl, (translateFragment_braces t hearly rfl).1, ?_, ?_,
    (translateFragment_braces t (by simp) rfl).1⟩
  · rw [(translateFragment_braces t hnested rfl).1, hcount]
  · rw [(translateFragment_braces t hdeep rfl).1, hlimit]

end Translator

end IndentTex
