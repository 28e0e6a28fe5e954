import IndentTex.Proofs.Depth
import IndentTex.Proofs.Relocation

/-!
# Sessions

A session takes requests one after the other. A request that fails leaves the state as it is at that
moment, and the next one goes on from there. `Session.take_follows` says what one request keeps, and
`Session.takeAll_follows` that any number of them keeps it. The main result,
`Session.takeAll_invariant`, says what can be relied on at any time: where the cursor is, which units
there can be, how deep the session is nested and what never changes back.
-/

namespace IndentTex

variable {σ τ α : Type}

/-- The state after requests that are carried out one after the other. -/
def Request.runAll (S : Setup σ) (inner : Level σ) (requests : List (Σ α, Request α))
    (s : State σ) : State σ :=
  requests.foldl (fun s r => (r.2.run S inner).final s) s

/-- A source that is read by requests: what is fixed, and the state with its counters. -/
structure Session (σ : Type) where
  setup : Setup σ
  state : State (Counted σ)

namespace Session

/-- The session at the start of a source, with an indentation unit or without one. -/
def start (setup : Setup σ) (source : Text) (i : Indentation) (host : σ) : Session σ :=
  ⟨setup, { State.start source ⟨0, 0, host⟩ with indentation := i }⟩

/-- The state without its counters. -/
def plain (x : Session σ) : State σ := x.state.withHost x.state.host.host

/-- How deep the session is nested. -/
def depth (x : Session σ) : Nat := x.state.host.depth

/-- How deep the session has been nested. -/
def deepest (x : Session σ) : Nat := x.state.host.deepest

/-- The session after a request, which may fail. -/
def take (x : Session σ) (r : Σ α, Request α) : Session σ :=
  { x with state := (r.2.run x.setup.counted (.nesting x.setup)).final x.state }

/-- The session after requests, each of which may fail. -/
def takeAll (x : Session σ) (requests : List (Σ α, Request α)) : Session σ := requests.foldl take x

/-- A session that reads `source`, with a valid unit and within the limit of nesting. -/
structure IsSound (source : Text) (x : Session σ) : Prop where
  text_eq : x.state.cursor.text = source
  isValid : x.state.indentation.IsValid
  depth_le : x.depth ≤ maxNesting
  deepest_le : x.deepest ≤ maxNesting

/-- What a session has from an earlier one. -/
structure Follows (x y : Session σ) : Prop where
  setup_eq : y.setup = x.setup
  depth_eq : y.depth = x.depth
  deepest_le : x.deepest ≤ maxNesting → y.deepest ≤ maxNesting
  later : x.plain.Later y.plain

variable {x y z : Session σ} {source : Text}

/-- A session is sound at its start. -/
lemma isSound_start (setup : Setup σ) (source : Text) {i : Indentation} (hi : i.IsValid)
    (host : σ) : (start setup source i host).IsSound source :=
  ⟨rfl, hi, Nat.zero_le _, Nat.zero_le _⟩

/-- A session follows itself. -/
lemma Follows.refl (x : Session σ) : x.Follows x := ⟨rfl, rfl, id, .refl _⟩

/-- A session that follows one that follows another follows the latter. -/
lemma Follows.trans (h : x.Follows y) (h' : y.Follows z) : x.Follows z where
  setup_eq := h'.setup_eq.trans h.setup_eq
  depth_eq := h'.depth_eq.trans h.depth_eq
  deepest_le hm := h'.deepest_le (h.deepest_le hm)
  later := h.later.trans h'.later

/-- A session stays sound. -/
lemma IsSound.follows (hx : x.IsSound source) (h : x.Follows y) : y.IsSound source where
  text_eq := h.later.reaches.text_eq.trans hx.text_eq
  isValid := h.later.isValid hx.isValid
  depth_le := h.depth_eq ▸ hx.depth_le
  deepest_le := h.deepest_le hx.deepest_le

/-- A request changes the state as it does without counters, and the depth is as it was. -/
lemma take_plain (hx : x.IsSound source) (r : Σ α, Request α) :
    (x.take r).plain =
        (r.2.run x.setup (.ofRoom x.setup (maxNesting - x.depth))).final x.plain ∧
      (x.take r).depth = x.depth ∧ (x.take r).deepest ≤ maxNesting := by
  obtain ⟨deepest, hle, hrun⟩ :=
    Request.run_nesting x.setup r.2 x.plain hx.depth_le hx.deepest_le
  have hstate : (x.take r).state =
      ((r.2.run x.setup (.ofRoom x.setup (maxNesting - x.depth))).final x.plain).counted x.depth
        deepest := by
    rw [show x.plain.counted x.depth x.deepest = x.state from rfl] at hrun
    unfold take Scan.final
    rw [hrun]
    cases r.2.run x.setup (.ofRoom x.setup (maxNesting - x.depth)) x.plain <;> rfl
  unfold plain depth Session.deepest
  rw [hstate]
  exact ⟨rfl, rfl, hle⟩

/-- What one request keeps. -/
theorem take_follows (hx : x.IsSound source) (r : Σ α, Request α) : x.Follows (x.take r) := by
  obtain ⟨hplain, hdepth, hdeepest⟩ := take_plain hx r
  refine ⟨rfl, hdepth, fun _ => hdeepest, ?_⟩
  rw [hplain]
  exact r.2.later x.setup _ x.plain

/-- What any number of requests keeps. -/
theorem takeAll_follows (hx : x.IsSound source) (requests : List (Σ α, Request α)) :
    x.Follows (x.takeAll requests) := by
  induction requests generalizing x with
  | nil => exact .refl x
  | cons r requests ih =>
    have hr := take_follows hx r
    exact hr.trans (ih (hx.follows hr))

/-- The requests end in the state in which they end without counters. -/
lemma takeAll_plain (hx : x.IsSound source) (requests : List (Σ α, Request α)) :
    (x.takeAll requests).plain =
      Request.runAll x.setup (.ofRoom x.setup (maxNesting - x.depth)) requests x.plain := by
  induction requests generalizing x with
  | nil => rfl
  | cons r requests ih =>
    have hr := take_follows hx r
    have hrest := ih (hx.follows hr)
    rw [hr.setup_eq, hr.depth_eq, (take_plain hx r).1] at hrest
    exact hrest

end Session

/-- A unit can be cut after its first byte, and it has one. -/
lemma Indentation.IsUnit.isBoundary_one {u : Text} (hu : IsUnit u) :
    u.IsBoundary 1 ∧ u.byteSize ≠ 0 := by
  obtain ⟨a, m, ha, rfl⟩ := hu.exists_replicate
  refine ⟨⟨List.replicate 1 a, List.replicate m a, ?_, byteSize_replicate ha 1⟩, ?_⟩
  · rw [List.replicate_append_replicate, Nat.add_comm]
  · rw [byteSize_replicate ha]
    exact Nat.succ_ne_zero m

namespace Session

variable {x : Session σ} {source : Text}

/-- After any requests, failed ones among them, the cursor is on a boundary within the source; the
unit, if there is one, is spaces or tabs, and is never replaced; the session is as deep as before and
has never been deeper than the limit; the definitions are the same; and a document that has begun
does not end. Without counters the same requests lead to the same state. -/
theorem takeAll_invariant (hx : x.IsSound source) (before after : List (Σ α, Request α)) :
    let y := x.takeAll before
    let z := x.takeAll (before ++ after)
    (z.state.cursor.offset ≤ source.byteSize ∧ source.IsBoundary z.state.cursor.offset) ∧
    (∀ u, z.state.indentation.unit = some u →
      Indentation.IsUnit u ∧ u.IsBoundary 1 ∧ u.byteSize ≠ 0) ∧
    (∀ u, y.state.indentation.unit = some u → z.state.indentation.unit = some u) ∧
    (z.depth = x.depth ∧ z.deepest ≤ maxNesting) ∧
    z.setup.registry = x.setup.registry ∧
    (y.state.inDocument → z.state.inDocument) ∧
    z.plain = Request.runAll x.setup (.ofRoom x.setup (maxNesting - x.depth)) (before ++ after)
      x.plain := by
  intro y z
  have hy : x.Follows y := takeAll_follows hx before
  have hyz : y.Follows z := by
    have hz : z = y.takeAll after := List.foldl_append
    rw [hz]
    exact takeAll_follows (hx.follows hy) after
  have hz := hx.follows (hy.trans hyz)
  have hboundary : source.IsBoundary z.state.cursor.offset := by
    rw [← hz.text_eq]
    exact z.state.cursor.isBoundary_offset
  refine ⟨⟨hboundary.le_byteSize, hboundary⟩, ?_, hyz.later.keeps, ?_, ?_, hyz.later.inDocument,
    takeAll_plain hx _⟩
  · intro u hu
    have hunit := hz.isValid u hu
    exact ⟨hunit, hunit.isBoundary_one⟩
  · exact ⟨(hy.trans hyz).depth_eq, hz.deepest_le⟩
  · rw [(hy.trans hyz).setup_eq]

/-- A session on a source with a block that is indented by a tab. -/
def tabbed : Session Unit :=
  start ⟨.empty, .unavailable⟩ ['\t', 'é', '\n', '\x7d'] .unset ()

/-- A block sets the unit, and after an argument that is missing a group can still be read. -/
theorem takeAll_invariant_tab :
    (tabbed.takeAll [⟨_, .block⟩]).state.indentation.unit = some ['\t'] ∧
    ∃ z, z = tabbed.takeAll
        ([⟨_, .block⟩] ++ [⟨_, .requiredArgument ['f'] false⟩, ⟨_, .group '\x7d'⟩]) ∧
      z.state.indentation.unit = some ['\t'] ∧ z.depth = 0 ∧ z.deepest ≤ maxNesting ∧
      z.state.cursor.offset ≤ 5 := by
  have hx : tabbed.IsSound ['\t', 'é', '\n', '\x7d'] :=
    isSound_start _ _ Indentation.isValid_unset ()
  have hunit : (tabbed.takeAll [⟨_, .block⟩]).state.indentation.unit = some ['\t'] := by
    decide +kernel
  obtain ⟨⟨hle, -⟩, -, hkept, ⟨hdepth, hdeepest⟩, -⟩ := takeAll_invariant hx [⟨_, .block⟩]
    [⟨_, .requiredArgument ['f'] false⟩, ⟨_, .group '\x7d'⟩]
  exact ⟨hunit, _, rfl, hkept _ hunit, hdepth, hdeepest, hle⟩

end Session

end IndentTex
