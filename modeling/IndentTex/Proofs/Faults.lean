import IndentTex.Proofs.EntryPoints
import IndentTex.Proofs.Request

/-!
# Errors of a run

What the errors of all requests have in common, from what the errors of the definitions have. An error
is placed where the run has stopped (`Translator.error_location`), and it is never the one for a case
that cannot arise (`Translator.kind_ne_internalError`).
-/

namespace IndentTex

variable {σ α : Type}

/-- Definitions leave it to the run to place their errors. -/
def Faults.located : Faults where
  given e := e.location = none
  fault e c := e.location = some c.location
  raised _ _ := rfl
  placed c h := by
    unfold Error.orAt
    rw [h]

/-- No error is the one for a case that cannot arise. -/
def Faults.possible : Faults where
  given e := e.kind ≠ .internalError
  fault e _ := e.kind ≠ .internalError
  raised _ h := h
  placed c h := by
    unfold Error.orAt
    split <;> exact h

/-- A default definition fails only where the executor does. -/
lemma Registry.defaults_gives (x : Executor σ) {P : Error → Prop}
    (hP : ∀ f, P (.ofCause (.failed f))) : Setup.Gives ⟨.defaults, x⟩ P := by
  intro name d hd
  obtain ⟨-, rfl | rfl | rfl | rfl | rfl⟩ := defaults_cases hd
  · exact nofun
  · exact nofun
  · intro unit body values h e he
    change ((Expansion.executing _ body _).run x h).1 = .error e at he
    unfold Expansion.executing Expansion.run at he
    cases hx : x.answer ⟨(value values 0).map Text.trim, body⟩ h with
    | mk answer h' =>
      rw [hx] at he
      cases answer with
      | ok output => cases he
      | error f =>
        cases he
        exact hP f
  · exact nofun
  · exact nofun

/-- After a run up to a character with the property `p`, such a character is next. -/
lemma Scan.skipUntil_next {p : Char → Bool} {s s' : State σ} {w : Text} {c : Char}
    (h : skipUntil p s = .ok w s') (hc : s'.cursor.peek = some c) : p c := by
  cases h
  rw [Cursor.peek, Cursor.advance_rest] at hc
  change (s.cursor.rest.drop (s.cursor.rest.takeWhile _).length).head? = some c at hc
  rw [Text.drop_takeWhile] at hc
  simpa using Text.of_head?_dropWhile hc

namespace Translator

variable {t : Translator σ} {F : Faults} {source : Text} {e : Error}

/-- Where a source cannot be translated, the error is as errors are, at a cursor in the source. -/
lemma exists_fault (ht : t.setup.Gives F.given)
    (h : t.translate source = .error e ∨ t.translateFragment source = .error e) :
    ∃ c : Cursor, c.text = source ∧ F.fault e c := by
  have hrun : ∀ r : Request Text, r.definition? = none →
      (∃ s', r.run t.setup (.outermost t.setup) (.start source (t.start t.files)) = .error e s') →
      ∃ c : Cursor, c.text = source ∧ F.fault e c := by
    rintro r hr ⟨s', hs⟩
    have hlater := r.later t.setup maxNesting (.start source (t.start t.files))
    unfold Scan.final at hlater
    rw [show r.run t.setup (.ofRoom t.setup maxNesting) _ = .error e s' from hs] at hlater
    refine ⟨s'.cursor, hlater.reaches.text_eq, r.fault ht ?_ hs⟩
    intro d hd
    rw [hr] at hd
    cases hd
  rcases h with h | h
  · exact hrun .root rfl (run_eq_error.1 h)
  · exact hrun .fragment rfl (run_eq_error.1 h)

/-- If definitions leave it to the run to place their errors, every error of a request is placed where
the request has stopped, and a source that cannot be translated has an error at a boundary within
it. -/
theorem error_location (t : Translator σ) (ht : t.setup.Gives fun e => e.location = none) :
    (∀ {α : Type} (r : Request α) (n : Nat) (s s' : State σ) (e : Error),
      r.Gives t.executor (fun e => e.location = none) →
      r.run t.setup (.ofRoom t.setup n) s = .error e s' →
        e.location = some (.ofOffset s.cursor.text s'.cursor.offset)) ∧
    ∀ (source : Text) (e : Error),
      t.translate source = .error e ∨ t.translateFragment source = .error e →
        ∃ l, e.location = some l ∧ l = .ofOffset source l.offset ∧ source.IsBoundary l.offset ∧
          l.offset ≤ source.byteSize := by
  constructor
  · intro α r n s s' e hr h
    have hlater := r.later t.setup n s
    unfold Scan.final at hlater
    rw [h] at hlater
    rw [← hlater.reaches.text_eq]
    exact r.fault (F := .located) ht hr h
  · intro source e h
    obtain ⟨c, rfl, hc⟩ := exists_fault (F := .located) ht h
    have hboundary := c.isBoundary_offset
    have hoffset : c.location.offset = c.offset := hboundary.ofOffset
    refine ⟨c.location, hc, ?_, ?_, ?_⟩
    · rw [hoffset]
      rfl
    · rw [hoffset]
      exact hboundary
    · rw [hoffset]
      exact hboundary.le_byteSize

/-- Code that cannot be executed is reported in the source, and a group that is left open at the
end. -/
theorem error_location_splice :
    (∃ e, defaults.translateFragment "é\\pysplice: x".toList = .error e ∧
      ∃ l, e.location = some l ∧ l = .ofOffset "é\\pysplice: x".toList l.offset ∧
        Text.IsBoundary "é\\pysplice: x".toList l.offset ∧
        l.offset ≤ Text.byteSize "é\\pysplice: x".toList) ∧
    ∃ e s', (Request.group ']').run defaults.setup (.ofRoom defaults.setup 2)
        (.start ['é', '\x7b', '\x7d'] ()) = .error e s' ∧
      e.location = some (.ofOffset ['é', '\x7b', '\x7d'] s'.cursor.offset) := by
  have ht : defaults.setup.Gives fun e => e.location = none :=
    Registry.defaults_gives .unavailable fun _ => rfl
  have hnone : (defaults.translateFragment "é\\pysplice: x".toList).toOption = none := by
    decide +kernel
  have hgroup : (Request.group ']').run defaults.setup (.ofRoom defaults.setup 2)
      (.start ['é', '\x7b', '\x7d'] ()) = .error ⟨.unclosedGroup ']', some ⟨4, 1, 4⟩⟩
        ((State.start ['é', '\x7b', '\x7d'] ()).advance 3) := rfl
  constructor
  · cases hsource : defaults.translateFragment "é\\pysplice: x".toList with
    | ok out =>
      rw [hsource] at hnone
      cases hnone
    | error e => exact ⟨e, rfl, (error_location defaults ht).2 _ _ (Or.inr hsource)⟩
  · exact ⟨_, _, hgroup, (error_location defaults ht).1 (.group ']') 2 _ _ _ nofun hgroup⟩

/-- If no definition gives an internal error, no request does, whatever character closes a group: the
character after a plain run in a group, in brackets or in a line is always one of those that are dealt
with there. -/
theorem kind_ne_internalError (t : Translator σ)
    (ht : t.setup.Gives fun e => e.kind ≠ .internalError) :
    (∀ {α : Type} (r : Request α) (n : Nat) (s s' : State σ) (e : Error),
      r.Gives t.executor (fun e => e.kind ≠ .internalError) →
      r.run t.setup (.ofRoom t.setup n) s = .error e s' → e.kind ≠ .internalError) ∧
    (∀ (source : Text) (e : Error),
      t.translate source = .error e ∨ t.translateFragment source = .error e →
        e.kind ≠ .internalError) ∧
    (∀ (s s' : State σ) (close : Char) (w : Text) (c : Char),
      Scan.skipUntil (Scan.endsGroupRun close) s = .ok w s' → s'.cursor.peek = some c →
        c = close ∨ c = '\x7d' ∨ c = '\x7b' ∨ c = '\\' ∨ c = '%') ∧
    (∀ (s s' : State σ) (w : Text) (c : Char),
      Scan.skipUntil Scan.endsBracketRun s = .ok w s' → s'.cursor.peek = some c →
        (c = '\n' ∨ c = '%') ∨ c = ']' ∨ c = '\x7d' ∨ c = '\x7b' ∨ c = '[' ∨ c = '\\') ∧
    ∀ (s s' : State σ) (w : Text) (c : Char),
      Scan.skipUntil Scan.endsLineRun s = .ok w s' → s'.cursor.peek = some c →
        c = '\n' ∨ c = '%' ∨ c = '\\' ∨ c = '\x7b' ∨ c = '\x7d' := by
  refine ⟨?_, ?_, ?_, ?_, ?_⟩
  · intro α r n s s' e hr h
    exact r.fault (F := .possible) ht hr h
  · intro source e h
    obtain ⟨c, -, he⟩ := exists_fault (F := .possible) ht h
    exact he
  · intro s s' close w c h hc
    have hends := Scan.skipUntil_next h hc
    simp only [Scan.endsGroupRun, Bool.or_eq_true, decide_eq_true_eq] at hends
    rcases hends with (((h | h) | h) | h) | h <;> simp [h]
  · intro s s' w c h hc
    have hends := Scan.skipUntil_next h hc
    simp only [Scan.endsBracketRun, Bool.or_eq_true, decide_eq_true_eq] at hends
    rcases hends with (((((h | h) | h) | h) | h) | h) | h <;> simp [h]
  · intro s s' w c h hc
    have hends := Scan.skipUntil_next h hc
    simp only [Scan.endsLineRun, Bool.or_eq_true, decide_eq_true_eq] at hends
    rcases hends with (((h | h) | h) | h) | h <;> simp [h]

/-- A group that is closed by a percent sign, with a brace before it that closes nothing, and a
preamble that is a text. -/
theorem kind_ne_internalError_percent :
    let group : State Unit := .start "a\x7d%".toList ()
    (∃ e s', (Request.group '%').run defaults.setup (.ofRoom defaults.setup 2) group = .error e s' ∧
      e.kind ≠ .internalError) ∧
    ∃ e, defaults.translate "text".toList = .error e ∧ e.kind ≠ .internalError := by
  intro group
  have ht : defaults.setup.Gives fun e => e.kind ≠ .internalError :=
    Registry.defaults_gives .unavailable nofun
  have hgroup : (Request.group '%').run defaults.setup (.ofRoom defaults.setup 2) group =
      .error ⟨.unexpectedBrace, some ⟨1, 1, 2⟩⟩ (group.advance 1) := rfl
  have htext : defaults.translate "text".toList =
      .error ⟨.textInPreamble, some ⟨0, 1, 1⟩⟩ := rfl
  refine ⟨⟨_, _, hgroup, ?_⟩, _, htext, ?_⟩
  · exact (kind_ne_internalError defaults ht).1 (.group '%') 2 _ _ _ nofun hgroup
  · exact (kind_ne_internalError defaults ht).2.1 _ _ (Or.inl htext)

end Translator

end IndentTex
