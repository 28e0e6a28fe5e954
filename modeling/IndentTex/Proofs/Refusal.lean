import IndentTex.Proofs.Depth
import IndentTex.Proofs.Nesting

/-!
# Runs that need no executor

A run whose executor refuses every call stops at the first call, for the default definitions hand the
failure on. Up to there it goes like the run with any other executor. So whatever it ends with, unless
it is that failure, every run ends with, and none of them makes a call.
-/

namespace IndentTex

variable {σ τ α : Type}

/-- The value or the error with which a run ends. -/
def Scan.result (m : Scan σ α) (s : State σ) : Except Error α :=
  match m s with
  | .ok a _ => .ok a
  | .error e _ => .error e

namespace Lockstep

/-- Runs that keep in step end alike, unless the first of them ends with an excused error. -/
lemma Sim.ends {L : Lockstep σ τ} (hL : ∀ {e e' : Error} {c c' : Cursor}, L.error e c e' c' → e = e')
    {m : Scan σ α} {m' : Scan τ α} (hm : L.Sim Eq m m') {s : State σ} {t : State τ}
    (hr : L.Related s t) (hs : ∀ e, m.result s = .error e → ¬ L.excused e.cause) :
    m'.result t = m.result s ∧ L.Related (m.final s) (m'.final t) := by
  have ha := hm s t hr
  unfold Scan.result at hs ⊢
  unfold Scan.final
  cases hms : m s with
  | ok a s' =>
    cases hmt : m' t with
    | ok b t' =>
      rw [hms, hmt] at ha
      obtain ⟨rfl, hr'⟩ := ha
      exact ⟨rfl, hr'⟩
    | error e t' =>
      rw [hms, hmt] at ha
      exact ha.elim
  | error e s' =>
    rw [hms] at ha hs
    have hexcused := hs e rfl
    cases hmt : m' t with
    | ok b t' =>
      rw [hmt] at ha
      exact absurd ha hexcused
    | error e' t' =>
      rw [hmt] at ha
      obtain ⟨he, hr'⟩ := ha.resolve_left hexcused
      exact ⟨congrArg Except.error (hL he).symm, hr'⟩

/-- The lockstep of two runs that differ in the states of their executors only, until the first of
them stops for want of something to execute code with. -/
def untilRefused (host : σ → τ → Prop) : Lockstep σ τ :=
  { equal host with excused := fun cause => cause.kind = .dependencyError }

/-- The default definitions correspond to themselves as long as nothing has to be executed. -/
lemma untilRefused_setups (y : Executor τ) (start : τ) :
    (untilRefused fun _ h => h = start).Setups ⟨.defaults, .unavailable⟩ ⟨.defaults, y⟩ := by
  intro name
  change (untilRefused _).Definitions _ _ (Registry.defaults.find? name)
    (Registry.defaults.find? name)
  cases hd : Registry.defaults.find? name with
  | none => exact .none
  | some d =>
    obtain ⟨-, rfl | rfl | rfl | rfl | rfl⟩ := Registry.defaults_cases hd
    · exact .command rfl rfl fun _ => .ok _
    · exact .command rfl rfl fun _ => .ok _
    · exact .environment rfl rfl rfl fun _ _ _ _ _ _ => .excused rfl
    · exact .command rfl rfl fun _ => .ok _
    · exact .environment rfl rfl rfl fun _ _ _ _ _ hh => .ok _ hh

end Lockstep

/-- Without an executor a request ends as it does with any executor, which is then left alone, or it
stops for want of one. -/
lemma Request.result_of_refused (y : Executor τ) (start : τ) {r : Request α}
    (hr : r.definition? = none) {source : Text}
    (h : ∀ e, (r.run ⟨.defaults, .unavailable⟩ (.outermost ⟨.defaults, .unavailable⟩)).result
      (.start source ()) = .error e → e.kind ≠ .dependencyError) :
    (r.run ⟨.defaults, y⟩ (.outermost ⟨.defaults, y⟩)).result (.start source start) =
        (r.run ⟨.defaults, .unavailable⟩ (.outermost ⟨.defaults, .unavailable⟩)).result
          (.start source ()) ∧
      ((r.run ⟨.defaults, y⟩ (.outermost ⟨.defaults, y⟩)).final (.start source start)).host =
        start := by
  have hsetups := Lockstep.untilRefused_setups y start
  have hnone : (Lockstep.untilRefused fun _ h => h = start).Definitions Executor.unavailable y
      r.definition? r.definition? := hr ▸ .none
  have hsim := (Lockstep.Levels.outermost hsetups).request hsetups r hnone
  have hrelated : (Lockstep.untilRefused fun _ h => h = start).Related (State.start source ())
      (.start source start) := ⟨rfl, rfl, rfl, rfl⟩
  have hends := hsim.ends (fun he => he) hrelated h
  exact ⟨hends.1, hends.2.host⟩

namespace Translator

open Scan

/-- The calls that the executor gets while a request reads a source, whether it succeeds or fails. -/
def callsOf (t : Translator σ) (r : Request α) (source : Text) : List Call :=
  ((r.run t.setup.recording (.outermost t.setup.recording)).final
    (.start source (t.start t.files, []))).host.2

/-- The translator with the default definitions and with files, but without an executor. -/
def withoutExecutor (files : FileEnv) : Translator Unit := { defaults with files := files }

/-- A translation gives the result of its run. -/
lemma run_eq_result (t : Translator σ) (reader : Level σ → Scan σ Text) (source : Text) :
    t.run reader source =
      (reader (.outermost t.setup)).result (.start source (t.start t.files)) := by
  unfold run result
  cases reader (.outermost t.setup) (.start source (t.start t.files)) <;> rfl

/-- What comes of a request without an executor comes of it with any executor, without a call. -/
lemma run_of_withoutExecutor {t : Translator σ} (ht : t.registry = .defaults) {files : FileEnv}
    {source : Text} {r : Request Text} (hr : r.definition? = none) {x : Except Error Text}
    (hx : (withoutExecutor files).run (r.run (withoutExecutor files).setup) source = x)
    (hkind : ∀ e, x = .error e → e.kind ≠ .dependencyError) :
    t.run (r.run t.setup) source = x ∧ t.callsOf r source = [] := by
  obtain ⟨registry, own, executor, start⟩ := t
  obtain rfl : registry = .defaults := ht
  subst hx
  rw [run_eq_result] at hkind
  rw [run_eq_result, run_eq_result]
  refine ⟨(r.result_of_refused executor (start own) hr hkind).1, ?_⟩
  -- The list of calls is part of the state of an executor that is left alone.
  have hcalls := (r.result_of_refused executor.recording (start own, []) hr hkind).2
  exact congrArg Prod.snd hcalls

/-- What comes of a source without an executor comes of it with any executor, and there is no call;
only where code cannot be executed nothing is said. -/
theorem translate_of_withoutExecutor (t : Translator σ) (ht : t.registry = .defaults)
    (files : FileEnv) (source : Text) :
    ((∀ out, (withoutExecutor files).translate source = .ok out →
        t.translate source = .ok out ∧ t.callsOf .root source = []) ∧
      ∀ e, (withoutExecutor files).translate source = .error e → e.kind ≠ .dependencyError →
        t.translate source = .error e ∧ t.callsOf .root source = []) ∧
    (∀ out, (withoutExecutor files).translateFragment source = .ok out →
        t.translateFragment source = .ok out ∧ t.callsOf .fragment source = []) ∧
      ∀ e, (withoutExecutor files).translateFragment source = .error e →
        e.kind ≠ .dependencyError →
        t.translateFragment source = .error e ∧ t.callsOf .fragment source = [] := by
  have hok : ∀ out e, (.ok out : Except Error Text) = .error e → e.kind ≠ .dependencyError :=
    nofun
  have herror : ∀ e : Error, e.kind ≠ .dependencyError →
      ∀ e', (.error e : Except Error Text) = .error e' → e'.kind ≠ .dependencyError := by
    rintro e hkind _ ⟨⟩
    exact hkind
  refine ⟨⟨fun out h => ?_, fun e h hkind => ?_⟩, fun out h => ?_, fun e h hkind => ?_⟩
  · exact run_of_withoutExecutor (r := .root) ht rfl h (hok out)
  · exact run_of_withoutExecutor (r := .root) ht rfl h (herror e hkind)
  · exact run_of_withoutExecutor (r := .fragment) ht rfl h (hok out)
  · exact run_of_withoutExecutor (r := .fragment) ht rfl h (herror e hkind)

/-- Code in a comment and in a group is not executed, and a group that is left open is found whatever
there is to execute code with. -/
theorem translate_of_withoutExecutor_comment :
    (splicing ['z']).translate "===\n% \\pysplice: x\n\x7b\\pysplice: y\x7d".toList =
      .ok ("\\begin\x7bdocument\x7d\n% \\pysplice: x\n\x7b\\pysplice: y\x7d\n".toList ++
        "\\end\x7bdocument\x7d".toList) ∧
    (splicing ['z']).callsOf .root "===\n% \\pysplice: x\n\x7b\\pysplice: y\x7d".toList = [] ∧
    (splicing ['z']).translateFragment "\x7b\n\\pysplice: y".toList =
      .error ⟨.unclosedGroup '\x7d', some ⟨14, 2, 13⟩⟩ := by
  obtain ⟨hok, -⟩ := (translate_of_withoutExecutor (splicing ['z']) rfl []
    "===\n% \\pysplice: x\n\x7b\\pysplice: y\x7d".toList).1
  obtain ⟨-, herror⟩ := (translate_of_withoutExecutor (splicing ['z']) rfl []
    "\x7b\n\\pysplice: y".toList).2
  have hplain := hok ("\\begin\x7bdocument\x7d\n% \\pysplice: x\n\x7b\\pysplice: y\x7d\n".toList ++
    "\\end\x7bdocument\x7d".toList) (run_of_toOption (by decide +kernel))
  exact ⟨hplain.1, hplain.2, (herror _ (by rfl) (by decide)).1⟩

end Translator

end IndentTex
