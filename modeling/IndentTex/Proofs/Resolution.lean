import IndentTex.Argument
import Mathlib.Data.List.FinRange
import Mathlib.Data.List.ReduceOption
import Mathlib.Order.Fin.Basic

/-!
# Arguments and their slots

Arguments are matched with slots from left to right, without looking ahead. An `Assignment` is any way
to place all arguments that keeps their order. The main result, `Argument.resolve_leftmost`, says that
the matching succeeds whenever there is an assignment at all, that it then finds the leftmost one, and
with which errors it ends otherwise.
-/

namespace IndentTex.Argument

variable {name : Text} {slot : Slot} {slots params : Params} {a : Argument} {args : List Argument}

/-! ### Assignments -/

/-- A way to place arguments in slots that keeps their order. Bracket arguments go to optional slots and
brace arguments to required ones, and no required slot is left empty. -/
structure Assignment (params : Params) (args : List Argument) where
  slot : Fin args.length → Fin params.length
  strictMono : StrictMono slot
  fits (i : Fin args.length) : (params.get (slot i)).optional = (args.get i).optional
  filled (j : Fin params.length) : (params.get j).optional = false → ∃ i, slot i = j

namespace Assignment

/-- The value of every slot: the content of the argument that is placed there, if there is one. -/
def values (A : Assignment params args) : List (Option Text) :=
  List.ofFn fun j =>
    ((List.finRange args.length).find? fun i => A.slot i = j).map fun i => (args.get i).content

/-- No argument is further to the left in another assignment. -/
def IsLeftmost (A : Assignment params args) : Prop :=
  ∀ (B : Assignment params args) (i : Fin args.length), A.slot i ≤ B.slot i

/-- Without slots there is room for no argument. -/
def nil : Assignment [] [] where
  slot := Fin.elim0
  strictMono := fun i => i.elim0
  fits := fun i => i.elim0
  filled := fun j => j.elim0

/-- The first argument goes to the first slot. -/
def take (A : Assignment slots args) (h : slot.optional = a.optional) :
    Assignment (slot :: slots) (a :: args) where
  slot := Fin.cases 0 fun i => (A.slot i).succ
  strictMono := by
    intro i j hij
    cases j using Fin.cases with
    | zero => exact absurd hij (Fin.not_lt_zero i)
    | succ j =>
      cases i using Fin.cases with
      | zero => exact Fin.succ_pos _
      | succ i => exact Fin.succ_lt_succ_iff.2 (A.strictMono (Fin.succ_lt_succ_iff.1 hij))
  fits := by
    intro i
    cases i using Fin.cases with
    | zero => exact h
    | succ i => exact A.fits i
  filled := by
    intro j hj
    cases j using Fin.cases with
    | zero => exact ⟨0, rfl⟩
    | succ j =>
      obtain ⟨i, rfl⟩ := A.filled j hj
      exact ⟨i.succ, rfl⟩

/-- The first slot stays empty. -/
def pass (A : Assignment slots args) (h : slot.optional = true) : Assignment (slot :: slots) args where
  slot i := (A.slot i).succ
  strictMono := fun _ _ hij => Fin.succ_lt_succ_iff.2 (A.strictMono hij)
  fits := A.fits
  filled := by
    intro j hj
    cases j using Fin.cases with
    | zero => exact absurd (h.symm.trans hj) (by decide)
    | succ j =>
      obtain ⟨i, rfl⟩ := A.filled j hj
      exact ⟨i, rfl⟩

/-- The other arguments, where the first one is a bracket argument. -/
def tail (A : Assignment params (a :: args)) (h : a.optional = true) : Assignment params args where
  slot i := A.slot i.succ
  strictMono := fun _ _ hij => A.strictMono (Fin.succ_lt_succ_iff.2 hij)
  fits i := A.fits i.succ
  filled := by
    intro j hj
    obtain ⟨i, rfl⟩ := A.filled j hj
    cases i using Fin.cases with
    | zero => exact absurd (h.symm.trans ((A.fits 0).symm.trans hj)) (by decide)
    | succ i => exact ⟨i, rfl⟩

/-! ### The first slot -/

/-- The first slot is filled with the first argument or with none. -/
lemma first_cases (B : Assignment (slot :: slots) (a :: args)) :
    B.slot 0 = 0 ∨ ∀ i, B.slot i ≠ 0 := by
  by_cases h : B.slot 0 = 0
  · exact Or.inl h
  · refine Or.inr fun i hi => h ?_
    have hle := B.strictMono.monotone (Fin.zero_le i)
    rw [hi] at hle
    exact Fin.le_zero_iff.1 hle

/-- An assignment that fills the first slot, without that slot. -/
def untake (B : Assignment (slot :: slots) (a :: args)) (h : B.slot 0 = 0) :
    Assignment slots args where
  slot i := (B.slot i.succ).pred (h ▸ (B.strictMono i.succ_pos).ne')
  strictMono := fun _ _ hij => Fin.pred_lt_pred_iff.2 (B.strictMono (Fin.succ_lt_succ_iff.2 hij))
  fits := by
    intro i
    have hfits := B.fits i.succ
    rw [← Fin.succ_pred (B.slot i.succ) (h ▸ (B.strictMono i.succ_pos).ne')] at hfits
    exact hfits
  filled := by
    intro j hj
    obtain ⟨i, hi⟩ := B.filled j.succ hj
    cases i using Fin.cases with
    | zero => exact absurd (h.symm.trans hi) (Fin.succ_ne_zero j).symm
    | succ i => exact ⟨i, by simp [hi]⟩

/-- An assignment that leaves the first slot empty, without that slot. -/
def unpass (B : Assignment (slot :: slots) args) (h : ∀ i, B.slot i ≠ 0) :
    Assignment slots args where
  slot i := (B.slot i).pred (h i)
  strictMono := fun _ _ hij => Fin.pred_lt_pred_iff.2 (B.strictMono hij)
  fits := by
    intro i
    have hfits := B.fits i
    rw [← Fin.succ_pred (B.slot i) (h i)] at hfits
    exact hfits
  filled := by
    intro j hj
    obtain ⟨i, hi⟩ := B.filled j.succ hj
    exact ⟨i, by simp [hi]⟩

/-- Only optional slots stay empty. -/
lemma optional_of_ne_zero (B : Assignment (slot :: slots) args) (h : ∀ i, B.slot i ≠ 0) :
    slot.optional = true := by
  cases ho : slot.optional with
  | true => rfl
  | false =>
    obtain ⟨i, hi⟩ := B.filled 0 ho
    exact absurd hi (h i)

/-- The first slot stays empty if the first argument does not go there. -/
lemma ne_zero_of_head (B : Assignment (slot :: slots) args)
    (h : ∀ a ∈ args.head?, slot.optional ≠ a.optional) (i : Fin args.length) : B.slot i ≠ 0 := by
  cases args with
  | nil => exact i.elim0
  | cons a args =>
    rcases B.first_cases with h0 | hne
    · have hfits := B.fits 0
      rw [h0] at hfits
      exact absurd hfits (h a rfl)
    · exact hne i

/-- The other arguments, where the first one may go to the first slot. If it does not go there, it can be
left out, since it takes an optional slot further to the right. -/
lemma exists_tail (B : Assignment (slot :: slots) (a :: args)) (h : slot.optional = a.optional) :
    ∃ A : Assignment slots args, ∀ i, (A.slot i).succ = B.slot i.succ := by
  rcases B.first_cases with h0 | hne
  · exact ⟨B.untake h0, fun i => by rw [untake, Fin.succ_pred]⟩
  · have ho : a.optional = true := h ▸ B.optional_of_ne_zero hne
    exact ⟨(B.unpass hne).tail ho, fun i => by rw [tail, unpass, Fin.succ_pred]⟩

/-! ### The leftmost assignment -/

/-- An assignment that takes an argument where it can is leftmost if the rest is. -/
lemma take_isLeftmost {A : Assignment slots args} (hA : A.IsLeftmost)
    (h : slot.optional = a.optional) : (A.take h).IsLeftmost := by
  intro B i
  cases i using Fin.cases with
  | zero => exact Fin.zero_le _
  | succ i =>
    obtain ⟨A', hA'⟩ := B.exists_tail h
    calc (A.slot i).succ
      _ ≤ (A'.slot i).succ := Fin.succ_le_succ_iff.2 (hA A' i)
      _ = B.slot i.succ := hA' i

/-- An assignment that passes over a slot where it must is leftmost if the rest is. -/
lemma pass_isLeftmost {A : Assignment slots args} (hA : A.IsLeftmost) (h : slot.optional = true)
    (hargs : ∀ a ∈ args.head?, slot.optional ≠ a.optional) : (A.pass h).IsLeftmost := by
  intro B i
  have hle := Fin.succ_le_succ_iff.2 (hA (B.unpass (B.ne_zero_of_head hargs)) i)
  rwa [unpass, Fin.succ_pred] at hle

/-- The value of a slot that takes an argument is its content. -/
lemma values_take (A : Assignment slots args) (h : slot.optional = a.optional) :
    (A.take h).values = some a.content :: A.values := by
  have hnot : ∀ j : Fin slots.length, ¬ (0 : Fin (slots.length + 1)) = j.succ :=
    fun j => (Fin.succ_ne_zero j).symm
  unfold values
  simp [List.ofFn_succ, take, List.finRange_succ, hnot, List.find?_map, Function.comp_def]

/-- A slot that is passed over has no value. -/
lemma values_pass (A : Assignment slots args) (h : slot.optional = true) :
    (A.pass h).values = none :: A.values := by
  unfold values
  simp [List.ofFn_succ, pass]

end Assignment

/-! ### Matching from left to right -/

/-- Matching arguments with slots from left to right leads from `slots` and `args` to what is left of
them: a slot takes the next argument if that is of its sort, and an optional slot is passed over if no
bracket argument is next. -/
inductive Matching : Params → List Argument → Params → List Argument → Prop where
  | refl {slots : Params} {args : List Argument} : Matching slots args slots args
  | take {slot : Slot} {slots slots' : Params} {a : Argument} {args args' : List Argument} :
    slot.optional = a.optional → Matching slots args slots' args' →
    Matching (slot :: slots) (a :: args) slots' args'
  | pass {slot : Slot} {slots slots' : Params} {args args' : List Argument} :
    slot.optional = true → (∀ a ∈ args.head?, a.optional = false) →
    Matching slots args slots' args' → Matching (slot :: slots) args slots' args'

/-- The matching comes to a required slot when no argument is left. -/
def RunsOut (params : Params) (args : List Argument) : Prop :=
  ∃ slot slots, slot.optional = false ∧ Matching params args (slot :: slots) []

/-- Arguments run out after a slot that takes one if they run out for the rest. -/
lemma runsOut_take (h : slot.optional = a.optional) :
    RunsOut (slot :: slots) (a :: args) ↔ RunsOut slots args := by
  constructor
  · rintro ⟨slot', slots', hr, hm⟩
    cases hm with
    | take _ hm => exact ⟨slot', slots', hr, hm⟩
    | pass ho ha => exact absurd (ho.symm.trans (h.trans (ha a rfl))) (by decide)
  · rintro ⟨slot', slots', hr, hm⟩
    exact ⟨slot', slots', hr, .take h hm⟩

/-- Arguments run out after a slot that is passed over if they run out for the rest. -/
lemma runsOut_pass (h : slot.optional = true) (hargs : ∀ a ∈ args.head?, a.optional = false) :
    RunsOut (slot :: slots) args ↔ RunsOut slots args := by
  constructor
  · rintro ⟨slot', slots', hr, hm⟩
    cases hm with
    | refl => exact absurd (h.symm.trans hr) (by decide)
    | take ho hm => exact absurd (h.symm.trans (ho.trans (hargs _ rfl))) (by decide)
    | pass _ _ hm => exact ⟨slot', slots', hr, hm⟩
  · rintro ⟨slot', slots', hr, hm⟩
    exact ⟨slot', slots', hr, .pass h hargs hm⟩

/-! ### What is found -/

variable {values : List (Option Text)} {cause : Cause}

/-- A function of values is applied where there are some. -/
lemma map_eq_ok {x : Except Cause (List (Option Text))} {f : List (Option Text) → List (Option Text)} :
    x.map f = .ok values ↔ ∃ vs, x = .ok vs ∧ f vs = values := by
  cases x <;> simp [Except.map]

/-- A function of values leaves an error alone. -/
lemma map_eq_error {x : Except Cause (List (Option Text))}
    {f : List (Option Text) → List (Option Text)} : x.map f = .error cause ↔ x = .error cause := by
  cases x <;> simp [Except.map]

/-- The matching finds the leftmost assignment. -/
lemma fill_ok (h : fill name params args = .ok values) :
    ∃ A : Assignment params args, values = A.values ∧ A.IsLeftmost := by
  fun_induction fill name params args generalizing values with
  | case1 =>
    cases h
    exact ⟨.nil, rfl, fun _ i => i.elim0⟩
  | case2 | case4 | case7 => cases h
  | case3 slot slots ho ih =>
    obtain ⟨vs, hvs, rfl⟩ := map_eq_ok.1 h
    obtain ⟨A, rfl, hA⟩ := ih hvs
    exact ⟨A.pass ho, (A.values_pass ho).symm, A.pass_isLeftmost hA ho (by simp)⟩
  | case5 slot slots a args hs ih =>
    obtain ⟨vs, hvs, rfl⟩ := map_eq_ok.1 h
    obtain ⟨A, rfl, hA⟩ := ih hvs
    exact ⟨A.take hs, (A.values_take hs).symm, A.take_isLeftmost hA hs⟩
  | case6 slot slots a args hs ho ih =>
    obtain ⟨vs, hvs, rfl⟩ := map_eq_ok.1 h
    obtain ⟨A, rfl, hA⟩ := ih hvs
    refine ⟨A.pass ho, (A.values_pass ho).symm, A.pass_isLeftmost hA ho ?_⟩
    rintro _ ⟨⟩
    exact hs

/-- The present values are the contents of the arguments. -/
lemma fill_reduceOption (h : fill name params args = .ok values) :
    values.reduceOption = args.map content := by
  fun_induction fill name params args generalizing values with
  | case1 =>
    cases h
    rfl
  | case2 | case4 | case7 => cases h
  | case3 _ _ _ ih | case6 _ _ _ _ _ _ ih =>
    obtain ⟨vs, hvs, rfl⟩ := map_eq_ok.1 h
    rw [List.reduceOption_cons_of_none, ih hvs]
  | case5 _ _ _ _ _ ih =>
    obtain ⟨vs, hvs, rfl⟩ := map_eq_ok.1 h
    rw [List.reduceOption_cons_of_some, ih hvs, List.map_cons]

/-- Where there is an assignment, the matching does not fail. -/
lemma exists_fill (name : Text) (B : Assignment params args) :
    ∃ values, fill name params args = .ok values := by
  fun_induction fill name params args with
  | case1 => exact ⟨[], rfl⟩
  | case2 => exact (B.slot 0).elim0
  | case3 slot slots ho ih =>
    obtain ⟨vs, hvs⟩ := ih (B.unpass fun i => i.elim0)
    exact ⟨_, map_eq_ok.2 ⟨vs, hvs, rfl⟩⟩
  | case4 slot slots ho => exact absurd (B.optional_of_ne_zero fun i => i.elim0) ho
  | case5 slot slots a args hs ih =>
    obtain ⟨A, -⟩ := B.exists_tail hs
    obtain ⟨vs, hvs⟩ := ih A
    exact ⟨_, map_eq_ok.2 ⟨vs, hvs, rfl⟩⟩
  | case6 slot slots a args hs ho ih =>
    have hne := B.ne_zero_of_head (by rintro _ ⟨⟩; exact hs)
    obtain ⟨vs, hvs⟩ := ih (B.unpass hne)
    exact ⟨_, map_eq_ok.2 ⟨vs, hvs, rfl⟩⟩
  | case7 slot slots a args hs ho =>
    have hne := B.ne_zero_of_head (by rintro _ ⟨⟩; exact hs)
    exact absurd (B.optional_of_ne_zero hne) ho

/-- The matching fails for want of an argument exactly if it runs out of arguments. -/
lemma fill_error (h : fill name params args = .error cause) :
    (cause.kind = .missingArgument ∧ RunsOut params args) ∨
      (cause.kind = .invalidSyntax ∧ ¬ RunsOut params args) := by
  fun_induction fill name params args with
  | case1 => cases h
  | case2 =>
    cases h
    refine Or.inr ⟨rfl, ?_⟩
    rintro ⟨slot, slots, -, hm⟩
    cases hm
  | case3 slot slots ho ih =>
    rw [runsOut_pass ho (by simp)]
    exact ih (map_eq_error.1 h)
  | case4 slot slots ho =>
    cases h
    exact Or.inl ⟨rfl, slot, slots, by simpa using ho, .refl⟩
  | case5 slot slots a args hs ih =>
    rw [runsOut_take hs]
    exact ih (map_eq_error.1 h)
  | case6 slot slots a args hs ho ih =>
    have ha : a.optional = false := by simpa [ho] using hs
    rw [runsOut_pass ho (by simpa using ha)]
    exact ih (map_eq_error.1 h)
  | case7 slot slots a args hs ho =>
    cases h
    refine Or.inr ⟨rfl, ?_⟩
    rintro ⟨slot', slots', -, hm⟩
    cases hm with
    | take hs' => exact hs hs'
    | pass ho' => exact ho ho'

/-- The check of the numbers refuses nothing that can be matched. -/
lemma resolve_eq_ok : resolve name params args = .ok values ↔ fill name params args = .ok values := by
  constructor
  · intro h
    rw [resolve] at h
    split at h
    · cases h
    · exact h
  · intro h
    obtain ⟨A, rfl, -⟩ := fill_ok h
    have hle := A.values.reduceOption_length_le
    rw [fill_reduceOption h, List.length_map, Assignment.values, List.length_ofFn] at hle
    rw [resolve, if_neg (Nat.not_lt.2 hle), h]

/-- Arguments are resolved exactly if they can be placed in the slots at all. Each slot then has a
value or none, the values are the contents of the arguments in their order, and no argument could be
placed further to the left. Otherwise there are too many arguments or one is of the wrong sort, or, if
the matching runs out of arguments, one is missing. -/
theorem resolve_leftmost (name : Text) (params : Params) (args : List Argument) :
    ((∃ values, resolve name params args = .ok values) ↔ Nonempty (Assignment params args)) ∧
    (∀ values, resolve name params args = .ok values →
      values.length = params.length ∧ values.reduceOption = args.map content ∧
      ∃ A : Assignment params args, values = A.values ∧
        ∀ (B : Assignment params args) (i : Fin args.length), A.slot i ≤ B.slot i) ∧
    ∀ cause, resolve name params args = .error cause →
      (params.length < args.length → cause.kind = .invalidSyntax) ∧
      (args.length ≤ params.length →
        (cause.kind = .missingArgument ↔ RunsOut params args) ∧
        (cause.kind = .invalidSyntax ↔ ¬ RunsOut params args)) := by
  refine ⟨⟨?_, ?_⟩, ?_, ?_⟩
  · rintro ⟨values, h⟩
    obtain ⟨A, -⟩ := fill_ok (resolve_eq_ok.1 h)
    exact ⟨A⟩
  · rintro ⟨A⟩
    obtain ⟨values, h⟩ := exists_fill name A
    exact ⟨values, resolve_eq_ok.2 h⟩
  · intro values h
    have hfill := resolve_eq_ok.1 h
    obtain ⟨A, rfl, hA⟩ := fill_ok hfill
    exact ⟨List.length_ofFn, fill_reduceOption hfill, A, rfl, hA⟩
  · intro cause h
    rw [resolve] at h
    split at h
    case isTrue hlt =>
      cases h
      exact ⟨fun _ => rfl, fun hle => absurd hlt (Nat.not_lt.2 hle)⟩
    case isFalse hle =>
      refine ⟨fun hlt => absurd hlt hle, fun _ => ?_⟩
      rcases fill_error h with ⟨hk, hr⟩ | ⟨hk, hr⟩ <;> simp [hk, hr]

/-- A bracket argument that has two optional slots to choose from takes the first one. Alone it leaves a
required slot without an argument, and one slot is too few for two arguments. -/
theorem resolve_leftmost_bracket :
    (∃ A : Assignment [⟨true, false⟩, ⟨true, true⟩, ⟨false, false⟩]
        [bracketed ['a'], required ['b']],
      A.values = [some ['a'], none, some ['b']] ∧
      ∀ (B : Assignment [⟨true, false⟩, ⟨true, true⟩, ⟨false, false⟩]
        [bracketed ['a'], required ['b']]) (i : Fin 2), A.slot i ≤ B.slot i) ∧
    (∃ cause, resolve ['n'] [⟨true, false⟩, ⟨false, false⟩] [bracketed ['a']] = .error cause ∧
      cause.kind = .missingArgument) ∧
    (∃ cause, resolve ['n'] [⟨false, false⟩] [required ['b'], bracketed ['a']] = .error cause ∧
      cause.kind = .invalidSyntax) := by
  refine ⟨?_, ⟨_, rfl, ?_⟩, ⟨_, rfl, ?_⟩⟩
  · obtain ⟨-, -, A, hA, hleft⟩ := (resolve_leftmost ['n'] [⟨true, false⟩, ⟨true, true⟩, ⟨false, false⟩]
      [bracketed ['a'], required ['b']]).2.1 [some ['a'], none, some ['b']] rfl
    exact ⟨A, hA.symm, hleft⟩
  · exact ((resolve_leftmost ['n'] [⟨true, false⟩, ⟨false, false⟩] [bracketed ['a']]).2.2 _ rfl).2
      (by decide) |>.1.2 ⟨_, _, rfl, .take rfl .refl⟩
  · exact ((resolve_leftmost ['n'] [⟨false, false⟩] [required ['b'], bracketed ['a']]).2.2 _ rfl).1
      (by decide)

end IndentTex.Argument
