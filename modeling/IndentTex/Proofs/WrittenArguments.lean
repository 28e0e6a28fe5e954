import IndentTex.Proofs.RawArgument
import IndentTex.Proofs.Resolution

/-!
# Written arguments are read as they are resolved

Arguments can be matched with slots as a list, or written one after the other and read by the slots.
One lemma for each case of `Argument.fill` says what a slot reads in front of the written arguments.
The main result, `Scan.arguments_written`, follows them through all slots: the arguments resolve to
some values if and only if the slots read these values and all of what is written.
-/

namespace IndentTex

namespace Argument

/-- An argument whose content has no character with a meaning of its own. -/
def IsPlain (a : Argument) : Prop :=
  ∀ c ∈ a.content, c ∉ ['\n', '\x7b', '\x7d', '[', ']', '\\', '%']

namespace IsPlain

variable {a : Argument}

/-- The characters of a plain argument are none of the special ones. -/
lemma ne (ha : a.IsPlain) {c : Char} (hc : c ∈ a.content) :
    c ≠ '\n' ∧ c ≠ '\x7b' ∧ c ≠ '\x7d' ∧ c ≠ '[' ∧ c ≠ ']' ∧ c ≠ '\\' ∧ c ≠ '%' := by
  simpa using ha c hc

/-- A plain argument is a plain run of a group. -/
lemma all_group (ha : a.IsPlain) : a.content.all fun c => !Scan.endsGroupRun '\x7d' c := by
  rw [List.all_eq_true]
  intro c hc
  simp [Scan.endsGroupRun, ha.ne hc]

/-- A plain argument is a plain run of brackets. -/
lemma all_bracket (ha : a.IsPlain) : a.content.all fun c => !Scan.endsBracketRun c := by
  rw [List.all_eq_true]
  intro c hc
  simp [Scan.endsBracketRun, ha.ne hc]

/-- A plain argument is raw content. -/
lemma rawContent {close : Char} (ha : a.IsPlain) (hclose : close = '\x7d' ∨ close = ']')
    (oneLine : Bool) : RawContent close oneLine a.content := by
  have hne : ∀ c ∈ a.content, c ≠ '\\' ∧ c ≠ close ∧ c ≠ '\n' := by
    intro c hc
    rcases hclose with rfl | rfl <;> simp [ha.ne hc]
  generalize a.content = b at hne
  induction b with
  | nil => exact .nil
  | cons c b ih =>
    obtain ⟨hslash, hc, hline⟩ := hne c List.mem_cons_self
    exact .char hslash hc (fun _ => hline) (ih fun c hc => hne c (List.mem_cons_of_mem _ hc))

end IsPlain

/-- Arguments are written one after the other. -/
lemma writeAll_cons (a : Argument) (args : List Argument) :
    writeAll ((a :: args).map some) = a.written ++ writeAll (args.map some) := by
  simp [writeAll]

/-- What is written starts with the delimiter of its first argument. -/
lemma head?_writeAll (a : Argument) (args : List Argument) (rest : Text) :
    ((writeAll ((a :: args).map some) ++ rest).dropWhile isHorizontal).head? =
      some (if a.optional then '[' else '\x7b') := by
  rw [writeAll_cons, written]
  cases a.optional <;> rfl

end Argument

namespace Scan

open Argument

variable {σ : Type} {S : Setup σ} {n : Nat} {s s' : State σ} {b t name rest : Text} {slot : Slot}
  {params : Params} {a : Argument} {args : List Argument} {values : List (Option Text)}

/-! ### Plain contents -/

/-- A plain text before a closing brace is a group. -/
lemma group_plain (hb : b.all fun c => !endsGroupRun '\x7d' c)
    (hs : s.cursor.rest = b ++ '\x7d' :: t) :
    (Level.ofRoom S (n + 1)).group '\x7d' s = .ok b (s.advance (b.length + 1)) := by
  have hplain : s.cursor.rest.takeWhile (fun c => !endsGroupRun '\x7d' c) = b := by
    rw [hs]
    exact Text.takeWhile_run hb (by rfl)
  change groupLoop S (.ofRoom S n) '\x7d' s.cursor.rest.length s = _
  rw [show s.cursor.rest.length = b.length + t.length + 1 by simp [hs, Nat.add_assoc], groupLoop,
    skipUntil, bind_of_ok (skipWhile_run _ s), hplain, bind_of_ok (peek_run _),
    State.rest_advance hs]
  dsimp only [List.head?_cons]
  rw [if_pos rfl, bind_of_ok (skip_run 1 _), State.advance_advance]
  rfl

/-- A plain text before a closing bracket is the inside of brackets. -/
lemma brackets_plain (hb : b.all fun c => !endsBracketRun c) (hs : s.cursor.rest = b ++ ']' :: t) :
    (Level.ofRoom S (n + 1)).brackets s = .ok (some b) (s.advance (b.length + 1)) := by
  have hplain : s.cursor.rest.takeWhile (fun c => !endsBracketRun c) = b := by
    rw [hs]
    exact Text.takeWhile_run hb (by rfl)
  have hloop : bounded (bracketLoop S (.ofRoom S n)) s = .ok (some b) (s.advance (b.length + 1)) := by
    rw [bounded_run, show s.cursor.rest.length = b.length + t.length + 1 by simp [hs, Nat.add_assoc],
      bracketLoop, skipUntil, bind_of_ok (skipWhile_run _ s), hplain, bind_of_ok (peek_run _),
      State.rest_advance hs]
    dsimp only [List.head?_cons]
    rw [if_neg (by decide), if_pos rfl, bind_of_ok (skip_run 1 _), State.advance_advance]
    rfl
  change bracketText S (.ofRoom S n) s = _
  rw [bracketText, bind_of_ok (mark_run s), orBack, bind_of_ok hloop]
  rfl

/-! ### What a slot reads -/

/-- A brace argument is read by a required slot, raw or not. -/
lemma requiredArgument_written (name : Text) (isRaw : Bool) (ha : a.IsPlain)
    (hbrace : a.optional = false) (hs : s.cursor.rest = a.written ++ t) :
    requiredArgument (.ofRoom S (n + 1)) name isRaw s =
      .ok a.content (s.advance a.written.length) := by
  have hw : a.written = '\x7b' :: a.content ++ ['\x7d'] := by rw [written, hbrace]; rfl
  rw [hw] at hs ⊢
  cases isRaw with
  | true => exact requiredArgument_raw_ok _ name (.unspaced (ha.rawContent (.inl rfl) false)) hs
  | false =>
    have hs : s.cursor.rest = [] ++ '\x7b' :: (a.content ++ '\x7d' :: t) := by simpa using hs
    rw [requiredArgument_open _ name false hs rfl, if_neg (by decide),
      group_plain ha.all_group (State.advance_one (State.rest_advance hs)),
      advance_enclosed s [] a.content '\x7b' '\x7d']
    rfl

/-- A bracket argument is read by an optional slot, raw or not. -/
lemma optionalArgument_written (isRaw : Bool) (ha : a.IsPlain) (hbracket : a.optional)
    (hs : s.cursor.rest = a.written ++ t) :
    optionalArgument (.ofRoom S (n + 1)) isRaw s =
      .ok (some a.content) (s.advance a.written.length) := by
  have hw : a.written = '[' :: a.content ++ [']'] := by rw [written, hbracket]; rfl
  rw [hw] at hs ⊢
  cases isRaw with
  | true => exact optionalArgument_raw_ok _ (.unspaced (ha.rawContent (.inr rfl) true)) hs
  | false =>
    have hs : s.cursor.rest = [] ++ '[' :: (a.content ++ ']' :: t) := by simpa using hs
    rw [optionalArgument_open _ false hs rfl, if_neg (by decide), orBack,
      bind_of_ok (brackets_plain ha.all_bracket (State.advance_one (State.rest_advance hs))),
      advance_enclosed s [] a.content '[' ']']
    rfl

/-- A slot takes the next argument if it is of its kind. -/
lemma argument_taken (S : Setup σ) (n : Nat) (name : Text) (ha : a.IsPlain)
    (hslot : slot.optional = a.optional) (hs : s.cursor.rest = a.written ++ t) :
    argument (.ofRoom S (n + 1)) name slot s = .ok (some a.content) (s.advance a.written.length) := by
  rw [argument, hslot, ite_run]
  split
  · next h => exact optionalArgument_written slot.raw ha h hs
  · next h => rw [map_run, requiredArgument_written name slot.raw ha (by simpa using h) hs]

/-- An optional slot stays empty where no bracket is next. -/
lemma argument_absent (inner : Level σ) (name : Text) (hslot : slot.optional)
    (h : (s.cursor.rest.dropWhile isHorizontal).head? ≠ some '[') :
    argument inner name slot s = .ok none s := by
  rw [argument, if_pos hslot, optionalArgument_absent inner slot.raw h]

/-- A required slot fails where no brace is next. -/
lemma argument_missing (inner : Level σ) (name : Text) (hslot : ¬ slot.optional)
    (h : (s.cursor.rest.dropWhile isHorizontal).head? ≠ some '\x7b') :
    ∃ e s', argument inner name slot s = .error e s' := by
  obtain ⟨e, s', he, -⟩ := requiredArgument_absent inner name slot.raw h
  exact ⟨e, s', by rw [argument, if_neg hslot, map_run, he]⟩

/-! ### What all slots read -/

/-- Where the first slot reads its value, the rest of the slots has to agree with the rest of the
matching. -/
lemma arguments_cons_iff {inner : Level σ} {slots : Params} {value : Option Text} {s₁ fin : State σ}
    {matched : Except Cause (List (Option Text))} (h : argument inner name slot s = .ok value s₁)
    (hmore : ∀ more, arguments inner name slots s₁ = .ok more s' ∧ s'.cursor.rest = rest ↔
      matched = .ok more ∧ s' = fin) :
    arguments inner name (slot :: slots) s = .ok values s' ∧ s'.cursor.rest = rest ↔
      matched.map (value :: ·) = .ok values ∧ s' = fin := by
  rw [arguments, bind_of_ok h, map_eq_ok]
  constructor
  · rintro ⟨hrun, hrest⟩
    obtain ⟨more, s₂, hread, hpure⟩ := bind_ok hrun
    cases hpure
    obtain ⟨hmatched, hfin⟩ := (hmore more).1 ⟨hread, hrest⟩
    exact ⟨⟨more, hmatched, rfl⟩, hfin⟩
  · rintro ⟨⟨more, hmatched, rfl⟩, hfin⟩
    obtain ⟨hread, hrest⟩ := (hmore more).2 ⟨hmatched, hfin⟩
    exact ⟨by rw [bind_of_ok hread]; rfl, hrest⟩

/-- Arguments fail as their first one does. -/
lemma arguments_cons_error {inner : Level σ} {slots : Params} {e : Error} {s₁ : State σ}
    (h : argument inner name slot s = .error e s₁) :
    arguments inner name (slot :: slots) s = .error e s₁ := by
  rw [arguments, bind_run, h]

/-- The slots read the values that the arguments are matched to, and do not reach the end of what is
written otherwise. -/
lemma arguments_iff_fill (hargs : ∀ a ∈ args, a.IsPlain)
    (hbracket : (rest.dropWhile isHorizontal).head? ≠ some '[')
    (hbrace : (rest.dropWhile isHorizontal).head? ≠ some '\x7b')
    (hs : s.cursor.rest = writeAll (args.map some) ++ rest) :
    arguments (.ofRoom S (n + 1)) name params s = .ok values s' ∧ s'.cursor.rest = rest ↔
      fill name params args = .ok values ∧ s' = s.advance (writeAll (args.map some)).length := by
  fun_induction fill name params args generalizing s values with
  | case1 =>
    constructor
    · rintro ⟨hread, -⟩
      cases hread
      exact ⟨rfl, rfl⟩
    · rintro ⟨hfill, rfl⟩
      cases hfill
      exact ⟨rfl, hs⟩
  | case2 a args =>
    -- All slots are used up, so the written arguments stay in front of the rest.
    refine ⟨?_, by simp⟩
    rintro ⟨hread, hrest⟩
    cases hread
    rw [writeAll_cons, hrest, written] at hs
    have hlength := congrArg List.length hs
    split at hlength <;> simp at hlength <;> omega
  | case3 slot slots hslot ih =>
    have hnext : (s.cursor.rest.dropWhile isHorizontal).head? ≠ some '[' := hs ▸ hbracket
    exact arguments_cons_iff (argument_absent _ name hslot hnext) fun _ => ih hargs hs
  | case4 slot slots hslot =>
    have hnext : (s.cursor.rest.dropWhile isHorizontal).head? ≠ some '\x7b' := hs ▸ hbrace
    obtain ⟨e, s₁, he⟩ := argument_missing (.ofRoom S (n + 1)) name hslot hnext
    simp [arguments_cons_error he]
  | case5 slot slots a args hslot ih =>
    rw [writeAll_cons, List.append_assoc] at hs
    have htaken := argument_taken S n name (hargs a List.mem_cons_self) hslot hs
    rw [writeAll_cons, List.length_append, ← State.advance_advance]
    exact arguments_cons_iff htaken fun _ =>
      ih (fun b hb => hargs b (List.mem_cons_of_mem a hb)) (State.rest_advance hs)
  | case6 slot slots a args hne hslot ih =>
    have hnext : (s.cursor.rest.dropWhile isHorizontal).head? ≠ some '[' := by
      rw [hs, head?_writeAll, if_neg (by simpa [hslot] using hne)]
      decide
    exact arguments_cons_iff (argument_absent _ name hslot hnext) fun _ => ih hargs hs
  | case7 slot slots a args hne hslot =>
    have hnext : (s.cursor.rest.dropWhile isHorizontal).head? ≠ some '\x7b' := by
      rw [hs, head?_writeAll, if_pos (by simpa [hslot] using hne)]
      decide
    obtain ⟨e, s₁, he⟩ := argument_missing (.ofRoom S (n + 1)) name hslot hnext
    simp [arguments_cons_error he]

/-- Written arguments are read as they are resolved: they resolve to some values if and only if the
slots read these values and stop just behind what is written, whatever the state. Nothing but the
cursor changes on the way. -/
theorem arguments_written (S : Setup σ) (n : Nat) (name : Text) (params : Params)
    (args : List Argument) (rest : Text) (s : State σ) (hargs : ∀ a ∈ args, a.IsPlain)
    (hbracket : (rest.dropWhile isHorizontal).head? ≠ some '[')
    (hbrace : (rest.dropWhile isHorizontal).head? ≠ some '\x7b')
    (hs : s.cursor.rest = writeAll (args.map some) ++ rest) (values : List (Option Text)) :
    (resolve name params args = .ok values ↔
      ∃ s', arguments (.ofRoom S (n + 1)) name params s = .ok values s' ∧ s'.cursor.rest = rest) ∧
    ∀ s', arguments (.ofRoom S (n + 1)) name params s = .ok values s' → s'.cursor.rest = rest →
      s.Consumes (writeAll (args.map some)) s' := by
  refine ⟨⟨fun h => ?_, fun ⟨s', hread, hrest⟩ => ?_⟩, fun s' hread hrest => ?_⟩
  · exact ⟨_, (arguments_iff_fill hargs hbracket hbrace hs).2 ⟨resolve_eq_ok.1 h, rfl⟩⟩
  · exact resolve_eq_ok.2 ((arguments_iff_fill hargs hbracket hbrace hs).1 ⟨hread, hrest⟩).1
  · obtain ⟨-, rfl⟩ := (arguments_iff_fill hargs hbracket hbrace hs).1 ⟨hread, hrest⟩
    exact .of_rest hs

/-- A bracket argument and two brace arguments, the last of them empty. -/
def threeArguments : List Argument := [bracketed ['a'], required [' ', 'b'], required []]

/-- Two optional slots, the second one raw, two required ones, the first one raw, and an optional
one. -/
def fiveSlots : Params :=
  [⟨true, false⟩, ⟨true, true⟩, ⟨false, true⟩, ⟨false, false⟩, ⟨true, false⟩]

/-- Two slots stay empty, and the blank before the rest is left. -/
theorem arguments_written_three :
    let S : Setup Unit := ⟨.empty, .unavailable⟩
    let source := writeAll (threeArguments.map some) ++ [' ', ':']
    let values := [some ['a'], none, some [' ', 'b'], some [], none]
    resolve [] fiveSlots threeArguments = .ok values ∧
      (∃ s', arguments (.outermost S) [] fiveSlots (.start source ()) = .ok values s' ∧
        s'.cursor.rest = [' ', ':']) ∧
      ∀ s', arguments (.outermost S) [] fiveSlots (.start source ()) = .ok values s' →
        s'.cursor.rest = [' ', ':'] →
        State.Consumes (.start source ()) (writeAll (threeArguments.map some)) s' := by
  intro S source values
  have hargs : ∀ a ∈ threeArguments, a.IsPlain := by
    simp [threeArguments, bracketed, required, IsPlain]
  have hwritten := arguments_written S 127 [] fiveSlots threeArguments [' ', ':'] (.start source ())
    hargs (by decide) (by decide) rfl values
  exact ⟨rfl, hwritten.1.1 rfl, hwritten.2⟩

end Scan

end IndentTex
