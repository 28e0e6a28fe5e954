import IndentTex.Proofs.Consumption
import IndentTex.Proofs.Grammar.Completeness
import IndentTex.Proofs.Passage
import Mathlib.Data.List.Infix

/-!
# Brackets on a line

An optional argument has to close on its line, and brackets inside it are told apart only one level
deep: an inner bracket ends with the next one that closes, whatever opens before it, and it is looked
for beyond the end of the line. What that comes to on a line without braces, control sequences and
comments is said here with texts alone.

A text is `Bracketed` if every inner bracket in it is closed. Unless the line ends inside an inner
bracket, a probe for an optional argument stays on its line and never fails; if it does end there, the
probe goes on behind the line or fails (`Scan.optionalArgument_on_line`). Of balanced brackets it finds
the inside if they are nested at most one deep, and only then (`Scan.optionalArgument_balanced`).
-/

namespace IndentTex

variable {σ : Type}

/-! ### Texts -/

namespace Text

/-- The inside of brackets with every inner bracket closed. What opens inside of an inner bracket does
not count. -/
inductive Bracketed : Text → Prop where
  | nil : Bracketed []
  | char {c : Char} {t : Text} : c ≠ '[' → c ≠ ']' → Bracketed t → Bracketed (c :: t)
  | inner {v t : Text} : ']' ∉ v → Bracketed t → Bracketed ('[' :: v ++ ']' :: t)

/-- `HasArgument t b r`: the text starts with an argument in brackets, with `b` inside and `r` behind
it. -/
def HasArgument (t b r : Text) : Prop :=
  ∃ blanks : Text, blanks.isBlankLine ∧ Bracketed b ∧ t = blanks ++ '[' :: b ++ ']' :: r

/-- The text starts with a bracket and ends inside an inner one. -/
def EndsInside (t : Text) : Prop :=
  ∃ blanks b v : Text, blanks.isBlankLine ∧ Bracketed b ∧ ']' ∉ v ∧ t = blanks ++ '[' :: b ++ '[' :: v

/-- Arguments in brackets, one after the other. -/
inductive BracketArguments : Text → Prop where
  | nil : BracketArguments []
  | cons {t b r : Text} : HasArgument t b r → BracketArguments r → BracketArguments t

variable {b t : Text}

/-- Bracketed texts after one another are bracketed. -/
lemma Bracketed.append (hb : Bracketed b) (ht : Bracketed t) : Bracketed (b ++ t) := by
  induction hb with
  | nil => exact ht
  | char ho hc _ ih => exact .char ho hc ih
  | inner hv _ ih => simpa using Bracketed.inner hv ih

/-- A text has all its brackets closed, ends inside an inner bracket, or has a bracket that closes the
outer one. -/
lemma bracketed_cases (t : Text) :
    Bracketed t ∨ (∃ b v, Bracketed b ∧ ']' ∉ v ∧ t = b ++ '[' :: v) ∨
      ∃ b r, Bracketed b ∧ t = b ++ ']' :: r := by
  generalize hn : t.length = n
  induction n using Nat.strongRecOn generalizing t with
  | _ n ih =>
    subst hn
    -- A bracketed beginning makes no difference.
    have hbegin : ∀ {p u : Text}, Bracketed p → u.length < (p ++ u).length →
        t = p ++ u → Bracketed t ∨ (∃ b v, Bracketed b ∧ ']' ∉ v ∧ t = b ++ '[' :: v) ∨
          ∃ b r, Bracketed b ∧ t = b ++ ']' :: r := by
      rintro p u hp hlt rfl
      rcases ih u.length hlt u rfl with hu | ⟨b, v, hb, hv, rfl⟩ | ⟨b, r, hb, rfl⟩
      · exact Or.inl (hp.append hu)
      · exact Or.inr (Or.inl ⟨p ++ b, v, hp.append hb, hv, by simp⟩)
      · exact Or.inr (Or.inr ⟨p ++ b, r, hp.append hb, by simp⟩)
    cases t with
    | nil => exact Or.inl .nil
    | cons c t =>
      by_cases hclose : c = ']'
      · exact Or.inr (Or.inr ⟨[], t, .nil, by rw [hclose, List.nil_append]⟩)
      by_cases hopen : c = '['
      · subst hopen
        by_cases hmem : ']' ∈ t
        · obtain ⟨v, u, rfl, hv⟩ := List.eq_append_cons_of_mem hmem
          refine hbegin (u := u) (.inner hv .nil) ?_ (by simp)
          simp
          omega
        · exact Or.inr (Or.inl ⟨[], t, .nil, hmem, rfl⟩)
      · exact hbegin (.char hopen hclose .nil) (by simp) (by rfl)

/-- A run ends where the first character stands that does not belong to it. -/
lemma run_unique {p : Char → Bool} {w r w' r' : Text} (hw : w.all p) (hr : r.starts p = false)
    (hw' : w'.all p) (hr' : r'.starts p = false) (h : w ++ r = w' ++ r') : r = r' := by
  rw [← dropWhile_run hw hr, h, dropWhile_run hw' hr']

/-- A bracketed text that starts with another character goes on bracketed. -/
lemma Bracketed.of_cons {c : Char} (hc : c ≠ '[') (h : Bracketed (c :: t)) :
    c ≠ ']' ∧ Bracketed t := by
  cases h with
  | char _ hc ht => exact ⟨hc, ht⟩
  | inner => exact absurd rfl hc

/-- What follows a pair of brackets in a bracketed text is bracketed. -/
lemma Bracketed.of_inner {v : Text} (hv : ']' ∉ v) (h : Bracketed ('[' :: v ++ ']' :: t)) :
    Bracketed t := by
  generalize he : '[' :: v ++ ']' :: t = u at h
  cases h with
  | nil => cases he
  | char ho =>
    cases he
    exact absurd rfl ho
  | @inner v' t' hv' ht =>
    have hrest := run_unique (all_ne_of_notMem hv) (by simp) (all_ne_of_notMem hv') (by simp) (List.cons.inj he).2
    exact (List.cons.inj hrest).2 ▸ ht

/-- A bracket that closes the outer one is not part of the inside. -/
lemma Bracketed.not_append (hb : Bracketed b) (r : Text) : ¬ Bracketed (b ++ ']' :: r) := by
  induction hb with
  | nil => exact fun h => (h.of_cons (by decide)).1 rfl
  | char ho _ _ ih => exact fun h => ih (h.of_cons ho).2
  | inner hv _ ih =>
    intro h
    rw [List.append_assoc, List.cons_append] at h
    exact ih (h.of_inner hv)

/-- What a line starts with, as far as brackets go. -/
inductive BracketStart : Text → Prop where
  | absent {blanks u : Text} : blanks.isBlankLine →
    u.starts (fun c => isHorizontal c || c == '[') = false → BracketStart (blanks ++ u)
  | unclosed {blanks b : Text} : blanks.isBlankLine → Bracketed b → BracketStart (blanks ++ '[' :: b)
  | inside {t : Text} : EndsInside t → BracketStart t
  | argument {t b r : Text} : HasArgument t b r → BracketStart t

/-- Every text starts in one of the ways that a probe for brackets tells apart. -/
lemma bracketStart (t : Text) : BracketStart t := by
  have hb : isBlankLine (t.takeWhile isHorizontal) := List.all_takeWhile
  have hs := starts_dropWhile isHorizontal t
  rw [← t.takeWhile_append_dropWhile (p := isHorizontal)]
  generalize t.takeWhile isHorizontal = blanks at hb ⊢
  cases hu : t.dropWhile isHorizontal with
  | nil => exact .absent hb rfl
  | cons c w =>
    rw [hu] at hs
    by_cases hc : c = '['
    · subst hc
      rcases bracketed_cases w with hw | ⟨b, v, hw, hv, rfl⟩ | ⟨b, r, hw, rfl⟩
      · exact .unclosed hb hw
      · exact .inside ⟨blanks, b, v, hb, hw, hv, by simp⟩
      · exact .argument (r := r) ⟨blanks, hb, hw, by simp⟩
    · exact .absent hb (by simpa [hc] using hs)

/-- The brackets of an argument stand right after the blanks. -/
lemma HasArgument.of_blanks {blanks u r : Text} (hb : blanks.isBlankLine)
    (hu : u.starts isHorizontal = false) (h : HasArgument (blanks ++ u) b r) :
    Bracketed b ∧ u = '[' :: b ++ ']' :: r := by
  obtain ⟨blanks', hb', hbr, he⟩ := h
  rw [List.append_assoc] at he
  exact ⟨hbr, run_unique hb hu hb' (by rfl) he⟩

/-- A text that does not start with one of many characters does not start with one of fewer. -/
lemma starts_imp {p q : Char → Bool} {u : Text} (hqp : ∀ c, q c → p c) (hu : u.starts p = false) :
    u.starts q = false := by
  cases u with
  | nil => rfl
  | cons c u =>
    rw [starts_cons, Bool.eq_false_iff] at hu ⊢
    exact fun hq => hu (hqp c hq)

/-- There is no argument where none is opened. -/
lemma not_hasArgument_absent {blanks u : Text} (hb : blanks.isBlankLine)
    (hu : u.starts (fun c => isHorizontal c || c == '[') = false) (b r : Text) :
    ¬ HasArgument (blanks ++ u) b r := by
  intro h
  obtain ⟨-, rfl⟩ := h.of_blanks hb (starts_imp (by simp_all) hu)
  cases hu

/-- There is no argument where brackets are not closed. -/
lemma not_hasArgument_unclosed {blanks w : Text} (hb : blanks.isBlankLine) (hw : Bracketed w)
    (b r : Text) : ¬ HasArgument (blanks ++ '[' :: w) b r := by
  intro h
  obtain ⟨hbr, he⟩ := h.of_blanks hb (by rfl)
  obtain rfl : w = b ++ ']' :: r := (List.cons.inj he).2
  exact hbr.not_append r hw

/-- A text that ends with a closing bracket does not end inside an inner one. -/
lemma not_endsInside {u r : Text} (h : t ++ [']'] = u ++ r) : ¬ r.EndsInside := by
  rintro ⟨blanks, b, v, -, -, hv, rfl⟩
  rcases List.eq_nil_or_concat v with rfl | ⟨v, c, rfl⟩
  · rw [← List.append_assoc] at h
    cases List.append_inj_right' h rfl
  · have hlast : t ++ [']'] = u ++ (blanks ++ '[' :: b) ++ '[' :: v ++ [c] := by simp [h]
    cases List.append_inj_right' hlast rfl
    simp at hv

end Text

namespace Grammar

variable {registry : Registry} {S : Setup σ} {G : Grammar σ} {b t r : Text}

/-- Levels that read an inner bracket without braces, control sequences and comments. -/
def ReadsInner (G : Grammar σ) : Prop :=
  ∀ v r : Text, ']' ∉ v → (∀ c ∈ v, isActive c = false) → G.group ']' (v ++ ']' :: r) v r

/-- A level with room for one more reads inner brackets. -/
lemma ofRoom_readsInner (S : Setup σ) (n : Nat) : (ofRoom S (n + 1)).ReadsInner := by
  intro v r hv ha
  have hrun : v.all fun c => !Scan.endsGroupRun ']' c := by
    rw [List.all_eq_true]
    intro c hc
    have hne : c ≠ ']' := fun he => hv (he ▸ hc)
    have hactive := ha c hc
    simp_all [Scan.endsGroupRun, isActive]
  have hgroup : Group S.registry (ofRoom S n) ']' (v ++ ']' :: r) (v ++ []) r := .run hrun .close
  rwa [List.append_nil] at hgroup

/-- The inside of brackets, up to what follows it. -/
lemma Brackets.bracketed {o : Option Text} (hb : b.Bracketed)
    (hp : ∀ c ∈ b, isActive c = false ∧ c ≠ '\n') (hG : '[' ∈ b → G.ReadsInner)
    (h : Brackets registry G t o r) : Brackets registry G (b ++ t) (o.map (b ++ ·)) r := by
  induction hb with
  | nil => simpa using h
  | @char c _ ho hc _ ih =>
    have hplain : Scan.endsBracketRun c = false := by
      have hactive := hp c (by simp)
      simp_all [Scan.endsBracketRun, isActive]
    have hrest := ih (fun a ha => hp a (by simp [ha])) fun ha => hG (by simp [ha])
    simpa [Function.comp_def] using Brackets.char hplain hrest
  | @inner v t' hv _ ih =>
    have hinner := hG (by simp) v (t' ++ t) hv fun a ha => (hp a (by simp [ha])).1
    have hrest := ih (fun a ha => hp a (by simp [ha])) fun ha => hG (by simp [ha])
    simpa [Function.comp_def] using Brackets.brackets hinner hrest

/-- Brackets that are closed. -/
lemma brackets_closed (hb : b.Bracketed) (hp : ∀ c ∈ b, isActive c = false ∧ c ≠ '\n')
    (hG : '[' ∈ b → G.ReadsInner) (r : Text) :
    (above S G).brackets (b ++ ']' :: r) (some b) r :=
  ⟨r, by simpa using Brackets.bracketed hb hp hG .close, rfl⟩

/-- Brackets that are not closed on their line. -/
lemma brackets_unclosed (hb : b.Bracketed) (hp : ∀ c ∈ b, isActive c = false ∧ c ≠ '\n')
    (hG : '[' ∈ b → G.ReadsInner) (ht : t.atLineEnd) :
    (above S G).brackets (b ++ t) none (b ++ t) :=
  ⟨t, Brackets.bracketed hb hp hG (.stop (by rw [ht]; rfl)), rfl⟩

/-- A beginning without brackets that close and without active characters is part of the group. -/
lemma Group.of_run {v : Text} (hv : ']' ∉ v) (ha : ∀ c ∈ v, isActive c = false)
    (h : Group registry G ']' (v ++ t) b r) : ∃ b', b = v ++ b' ∧ Group registry G ']' t b' r := by
  induction v generalizing b with
  | nil => exact ⟨b, rfl, h⟩
  | cons c v ih =>
    have hc := ha c (by simp)
    -- The rest gets a name, for a comment would split it elsewhere.
    obtain ⟨u, hu⟩ : ∃ u, v ++ t = u := ⟨_, rfl⟩
    rw [List.cons_append, hu] at h
    cases h with
    | close => simp at hv
    | char _ hrest =>
      rw [← hu] at hrest
      obtain ⟨b', rfl, hb'⟩ := ih (fun hm => hv (by simp [hm])) (fun a hm => ha a (by simp [hm])) hrest
      exact ⟨b', rfl, hb'⟩
    | group | control | comment => cases hc

/-- A group that is closed at once is empty. -/
lemma Group.of_close (h : Group registry G ']' (']' :: t) b r) : b = [] ∧ r = t := by
  cases h with
  | close => exact ⟨rfl, rfl⟩
  | char hc => cases hc

/-- The inside of brackets is read first, and what follows it after that. -/
lemma Brackets.of_bracketed {o : Option Text} (hb : b.Bracketed)
    (hp : ∀ c ∈ b, isActive c = false ∧ c ≠ '\n') (h : Brackets registry (above S G) (b ++ t) o r) :
    ∃ o', o = o'.map (b ++ ·) ∧ Brackets registry (above S G) t o' r := by
  induction hb generalizing o with
  | nil => exact ⟨o, by simp, h⟩
  | @char c _ ho hc _ ih =>
    have hplain := hp c (by simp)
    cases h with
    | stop hstop => simp_all [isActive]
    | close => exact absurd rfl hc
    | char _ hrest =>
      obtain ⟨o', rfl, ho'⟩ := ih (fun a ha => hp a (by simp [ha])) hrest
      exact ⟨o', by simp [Function.comp_def], ho'⟩
    | brackets => exact absurd rfl ho
    | group | control => cases hplain.1
  | @inner v t' hv _ ih =>
    rw [List.append_assoc, List.cons_append, List.cons_append] at h
    cases h with
    | stop hstop => cases hstop
    | char hc => cases hc
    | brackets hinner hrest =>
      have hgroup : Group S.registry G ']' _ _ _ := hinner
      obtain ⟨b', rfl, hclose⟩ := hgroup.of_run hv fun a ha => (hp a (by simp [ha])).1
      obtain ⟨rfl, rfl⟩ := hclose.of_close
      obtain ⟨o', rfl, ho'⟩ := ih (fun a ha => hp a (by simp [ha])) hrest
      exact ⟨o', by simp [Function.comp_def], ho'⟩

/-- A group that goes on at the end of a line goes on behind it, and there is something behind it that
may close it. -/
lemma Group.beyond_line {tail : Text} (ht : tail.atLineEnd)
    (h : Group registry G ']' tail b r) :
    '\n' ∈ b ∧ ¬ ∀ c ∈ tail, isActive c = false ∧ c ≠ ']' := by
  constructor
  · cases tail with
    | nil => cases h
    | cons c tail =>
      obtain rfl : c = '\n' := by simpa using ht
      obtain ⟨b', rfl, -⟩ := Group.of_run (v := ['\n']) (by decide) (by simp [isActive]) h
      simp
  · intro hopen
    rw [← List.append_nil tail] at h
    obtain ⟨b', -, hend⟩ := h.of_run (fun hm => (hopen _ hm).2 rfl) fun c hc => (hopen c hc).1
    cases hend

/-- The inside of brackets on a line that ends inside an inner bracket. -/
lemma Brackets.beyond_line {o : Option Text} {v tail : Text} (hb : b.Bracketed) (hv : ']' ∉ v)
    (hp : ∀ c ∈ b ++ '[' :: v, isActive c = false ∧ c ≠ '\n') (ht : tail.atLineEnd)
    (h : Brackets registry (above S G) (b ++ '[' :: v ++ tail) o r) :
    (∀ x, o = some x → '\n' ∈ x) ∧ ¬ ∀ c ∈ tail, isActive c = false ∧ c ≠ ']' := by
  rw [List.append_assoc] at h
  obtain ⟨o, rfl, hinside⟩ := h.of_bracketed hb fun c hc => hp c (by simp [hc])
  rw [List.cons_append] at hinside
  cases hinside with
  | stop hstop => cases hstop
  | char hc => cases hc
  | brackets hinner =>
    have hgroup : Group S.registry G ']' _ _ _ := hinner
    obtain ⟨body, rfl, hbeyond⟩ := hgroup.of_run hv fun c hc => (hp c (by simp [hc])).1
    obtain ⟨hnewline, hclosed⟩ := hbeyond.beyond_line ht
    refine ⟨?_, hclosed⟩
    intro x hx
    simp only [Option.map_eq_some_iff] at hx
    obtain ⟨_, ⟨_, _, rfl⟩, rfl⟩ := hx
    simp [hnewline]

/-- The brackets of an optional argument stand right after the blanks. -/
lemma Optional.of_blanks {o : Option Text} {blanks : Text} (hb : blanks.isBlankLine)
    (h : Optional (above S G) false (blanks ++ '[' :: t) o r) :
    ∃ r', Brackets S.registry G t o r' := by
  generalize hu : blanks ++ '[' :: t = u at h
  cases h with
  | absent hb' hr =>
    have hrest := Text.run_unique hb (by rfl) hb' (Text.starts_imp (by simp_all) hr) hu
    rw [← hrest] at hr
    cases hr
  | brackets hb' hbrackets | bracketsOpen hb' hbrackets =>
    obtain rfl := (List.cons.inj (Text.run_unique hb (by rfl) hb' (by rfl) hu)).2
    obtain ⟨r', hr', -⟩ := hbrackets
    exact ⟨r', hr'⟩

/-- A closed argument is read as such. -/
lemma Brackets.of_closed {o : Option Text} (hb : b.Bracketed)
    (hp : ∀ c ∈ b, isActive c = false ∧ c ≠ '\n')
    (h : Brackets registry (above S G) (b ++ ']' :: t) o r) : o = some b ∧ r = t := by
  obtain ⟨o, rfl, hclose⟩ := h.of_bracketed hb hp
  cases hclose with
  | stop hstop => cases hstop
  | close => simp
  | char hc => cases hc

/-- The brackets after a control sequence stand right after the blanks. -/
lemma ArgumentText.of_blanks {args blanks : Text} (hb : blanks.isBlankLine)
    (h : ArgumentText (above S G) (blanks ++ '[' :: t) args r) :
    (args = [] ∧ ∃ r', Brackets S.registry G t none r') ∨
      ∃ body r' args', args = blanks ++ '[' :: body ++ ']' :: args' ∧
        Brackets S.registry G t (some body) r' ∧ ArgumentText (above S G) r' args' r := by
  generalize hu : blanks ++ '[' :: t = u at h
  cases h with
  | stop hb' hr =>
    have hrest := Text.run_unique hb (by rfl) hb' (Text.starts_imp (by simp_all) hr) hu
    rw [← hrest] at hr
    cases hr
  | group hb' => cases (List.cons.inj (Text.run_unique hb (by rfl) hb' (by rfl) hu)).1
  | bracketsOpen hb' hbrackets =>
    obtain rfl := (List.cons.inj (Text.run_unique hb (by rfl) hb' (by rfl) hu)).2
    obtain ⟨r', hr', -⟩ := hbrackets
    exact Or.inl ⟨rfl, r', hr'⟩
  | brackets hb' hbrackets hrest =>
    obtain rfl := (List.cons.inj (Text.run_unique hb (by rfl) hb' (by rfl) hu)).2
    obtain rfl := List.append_cancel_right hu
    obtain ⟨r', hr', rfl⟩ := hbrackets
    exact Or.inr ⟨_, _, _, rfl, hr', hrest⟩

/-- An optional argument on a line that ends inside an inner bracket. -/
lemma Optional.beyond_line {o : Option Text} {line tail : Text} (hin : line.EndsInside)
    (hline : ∀ c ∈ line, isActive c = false ∧ c ≠ '\n') (ht : tail.atLineEnd)
    (h : Optional (above S (above S G)) false (line ++ tail) o r) :
    (∀ x, o = some x → '\n' ∈ x) ∧ ¬ ∀ c ∈ tail, isActive c = false ∧ c ≠ ']' := by
  obtain ⟨blanks, b, v, hb, hbr, hv, rfl⟩ := hin
  simp only [List.append_assoc, List.cons_append] at h
  obtain ⟨r', hr'⟩ := h.of_blanks hb
  exact Brackets.beyond_line hbr hv (fun c hc => hline c (by simp_all)) ht (by simpa using hr')

/-- The arguments on a line that ends inside an inner bracket of the last one. -/
lemma ArgumentText.beyond_line {args line out tail : Text} (hargs : Text.BracketArguments args)
    (hin : line.EndsInside) (hline : ∀ c ∈ args ++ line, isActive c = false ∧ c ≠ '\n')
    (ht : tail.atLineEnd) (h : ArgumentText (above S (above S G)) (args ++ line ++ tail) out r) :
    (out = args ∨ '\n' ∈ out) ∧ ¬ ∀ c ∈ tail, isActive c = false ∧ c ≠ ']' := by
  induction hargs generalizing out with
  | nil =>
    obtain ⟨blanks, b, v, hb, hbr, hv, rfl⟩ := hin
    simp only [List.append_assoc, List.cons_append, List.nil_append] at h
    have hplain : ∀ c ∈ b ++ '[' :: v, isActive c = false ∧ c ≠ '\n' :=
      fun c hc => hline c (by simp_all)
    rcases h.of_blanks hb with ⟨rfl, r', hr'⟩ | ⟨body, r', out, rfl, hr', -⟩
    · exact ⟨Or.inl rfl, (Brackets.beyond_line hbr hv hplain ht (by simpa using hr')).2⟩
    · obtain ⟨hnewline, hclosed⟩ := Brackets.beyond_line hbr hv hplain ht (by simpa using hr')
      exact ⟨Or.inr (by simp [hnewline body rfl]), hclosed⟩
  | cons harg _ ih =>
    obtain ⟨blanks, hb, hbr, rfl⟩ := harg
    simp only [List.append_assoc, List.cons_append] at h
    rcases h.of_blanks hb with ⟨-, r', hr'⟩ | ⟨body, r', out, rfl, hr', hrest⟩
    · cases (hr'.of_closed hbr fun c hc => hline c (by simp [hc])).1
    · obtain ⟨hbody, rfl⟩ := hr'.of_closed hbr fun c hc => hline c (by simp [hc])
      obtain rfl := Option.some.inj hbody
      obtain ⟨hout, hclosed⟩ := ih (fun c hc => hline c (by simp_all)) (by simpa using hrest)
      refine ⟨?_, hclosed⟩
      rcases hout with rfl | hnewline
      · exact Or.inl rfl
      · exact Or.inr (by simp [hnewline])

/-- On a line, a text that does not start with a character does not start with it before the end of
the line either. -/
lemma starts_lineEnd {p : Char → Bool} {u tail : Text} (hu : u.starts p = false)
    (hp : p '\n' = false) (ht : tail.atLineEnd) : (u ++ tail).starts p = false := by
  cases u with
  | cons c u => exact hu
  | nil =>
    cases tail with
    | nil => rfl
    | cons c tail =>
      obtain rfl : c = '\n' := by simpa using ht
      exact hp

/-- An optional argument on a line that does not end inside an inner bracket. -/
lemma optional_on_line (hG : G.ReadsInner) {line tail : Text}
    (hline : ∀ c ∈ line, isActive c = false ∧ c ≠ '\n') (ht : tail.atLineEnd)
    (hin : ¬ line.EndsInside) :
    (∃ b r, line.HasArgument b r ∧ Optional (above S G) false (line ++ tail) (some b) (r ++ tail)) ∨
      ((∀ b r, ¬ line.HasArgument b r) ∧
        Optional (above S G) false (line ++ tail) none (line ++ tail)) := by
  cases line.bracketStart with
  | inside h => exact absurd h hin
  | @absent blanks u hb hu =>
    refine Or.inr ⟨Text.not_hasArgument_absent hb hu, ?_⟩
    rw [List.append_assoc]
    exact .absent hb (starts_lineEnd hu (by decide) ht)
  | @unclosed blanks b hb hbr =>
    refine Or.inr ⟨Text.not_hasArgument_unclosed hb hbr, ?_⟩
    have hbrackets := brackets_unclosed (S := S) hbr (fun c hc => hline c (by simp [hc]))
      (fun _ => hG) ht
    simpa using Optional.bracketsOpen hb hbrackets
  | @argument _ b r h =>
    obtain ⟨blanks, hb, hbr, rfl⟩ := id h
    have hbrackets := brackets_closed (S := S) hbr (fun c hc => hline c (by simp [hc]))
      (fun _ => hG) (r ++ tail)
    exact Or.inl ⟨b, r, h, by simpa using Optional.brackets hb hbrackets⟩

/-- The arguments on a line on which none of them ends inside an inner bracket. -/
lemma argumentText_on_line (hG : G.ReadsInner) {line tail : Text}
    (hline : ∀ c ∈ line, isActive c = false ∧ c ≠ '\n') (ht : tail.atLineEnd)
    (hin : ∀ args r, Text.BracketArguments args → line = args ++ r → ¬ r.EndsInside) :
    ∃ args r, Text.BracketArguments args ∧ line = args ++ r ∧ (∀ b r', ¬ r.HasArgument b r') ∧
      ArgumentText (above S G) (line ++ tail) args (r ++ tail) := by
  generalize hn : line.length = n
  induction n using Nat.strongRecOn generalizing line with
  | _ n ih =>
    subst hn
    cases line.bracketStart with
    | inside h => exact absurd h (hin [] _ .nil rfl)
    | @absent blanks u hb hu =>
      refine ⟨[], blanks ++ u, .nil, rfl, Text.not_hasArgument_absent hb hu, ?_⟩
      have hstart : u.starts (fun c => isHorizontal c || c == '\x7b' || c == '[') = false := by
        cases u with
        | nil => rfl
        | cons c u =>
          have hactive := (hline c (by simp)).1
          simp_all [isActive]
      rw [List.append_assoc]
      exact .stop hb (starts_lineEnd hstart (by decide) ht)
    | @unclosed blanks b hb hbr =>
      refine ⟨[], _, .nil, rfl, Text.not_hasArgument_unclosed hb hbr, ?_⟩
      have hbrackets := brackets_unclosed (S := S) hbr (fun c hc => hline c (by simp [hc]))
        (fun _ => hG) ht
      simpa using ArgumentText.bracketsOpen hb hbrackets
    | @argument _ b r h =>
      obtain ⟨blanks, hb, hbr, rfl⟩ := h
      obtain ⟨args, r, hargs, rfl, hno, htext⟩ := ih r.length (by simp; omega)
        (fun c hc => hline c (by simp [hc]))
        (fun args r' ha he => hin (blanks ++ '[' :: b ++ ']' :: args) r'
          (.cons ⟨blanks, hb, hbr, rfl⟩ ha) (by simp [he])) rfl
      have hbrackets := brackets_closed (S := S) hbr (fun c hc => hline c (by simp [hc]))
        (fun _ => hG) (args ++ r ++ tail)
      refine ⟨blanks ++ '[' :: b ++ ']' :: args, r, .cons ⟨blanks, hb, hbr, rfl⟩ hargs, by simp, hno,
        ?_⟩
      simpa using ArgumentText.brackets hb hbrackets htext

end Grammar

/-! ### Lines -/

namespace Cursor

variable {c : Cursor} {w tail : Text}

/-- Nothing behind the line closes a bracket. -/
def EndsOpen (c : Cursor) : Prop :=
  ∀ tail, c.rest = c.restOfLine ++ tail → ∀ a ∈ tail, isActive a = false ∧ a ≠ ']'

/-- The rest of the line has no active characters in it, and `tail` follows it. -/
structure OnPlainLine (c : Cursor) (tail : Text) : Prop where
  rest_eq : c.rest = c.restOfLine ++ tail
  atLineEnd : tail.atLineEnd
  plain : ∀ a ∈ c.restOfLine, isActive a = false ∧ a ≠ '\n'

end Cursor

namespace Scan

open Grammar

variable {S : Setup σ} {n : Nat} {s : State σ} {r : Text}

/-- An optional argument of the grammar is read from every state. -/
lemma optionalArgument_of_optional {isRaw : Bool} {v : Option Text}
    (h : Optional (ofRoom S n) isRaw s.cursor.rest v r) :
    ∃ s', optionalArgument (.ofRoom S n) isRaw s = .ok v s' ∧ s'.cursor.rest = r := by
  obtain ⟨s', hs, hk⟩ := optionalArgument_complete (Level.ofRoom_complete S n) h s rfl
  exact ⟨s', hs, (State.config_eq_iff.1 hk).1⟩

/-- Arguments of the grammar are read from every state. -/
lemma argumentText_of_argumentText {args : Text}
    (h : ArgumentText (ofRoom S n) s.cursor.rest args r) :
    ∃ s', argumentText (.ofRoom S n) s = .ok args s' ∧ s'.cursor.rest = r := by
  have hloop := argumentTextLoop_complete (i := s.indentation) (h := s.host)
    (Level.ofRoom_complete S n) (Nat.le_refl _) h
  obtain ⟨s', hs, hk⟩ := Reads.bounded hloop s rfl
  exact ⟨s', hs, (State.config_eq_iff.1 hk).1⟩

/-- A line without active characters is plain. -/
lemma exists_onPlainLine (hline : ∀ a ∈ s.cursor.restOfLine, isActive a = false) :
    ∃ tail, s.cursor.OnPlainLine tail := by
  obtain ⟨tail, hrest, hend, -⟩ := skipLine_ok s
  refine ⟨tail, hrest, hend, fun a ha => ⟨hline a ha, ?_⟩⟩
  simpa using List.all_eq_true.1 List.all_takeWhile a ha

/-- A request that reads a part of the line stays on it. -/
lemma consumes_line {α : Type} (q : Request α) {s' : State σ} {a : α} {w tail : Text}
    (hl : s.cursor.OnPlainLine tail) (hm : Moves (q.run S (.ofRoom S n)))
    (h : q.run S (.ofRoom S n) s = .ok a s') (hline : s.cursor.restOfLine = w ++ r)
    (hs' : s'.cursor.rest = r ++ tail) : s.Consumes w s' ∧ s'.cursor.restOfLine = r := by
  refine ⟨q.consumes hm h ?_, Cursor.restOfLine_eq hs' ?_ hl.atLineEnd⟩
  · rw [hl.rest_eq, hline, hs', List.append_assoc]
  · intro hr
    exact (hl.plain '\n' (by simp [hline, hr])).2 rfl

/-- A probe on a line that does not end inside an inner bracket. -/
lemma optionalArgument_on_plain {m : Nat} {tail : Text} (hl : s.cursor.OnPlainLine tail)
    (hin : ¬ s.cursor.restOfLine.EndsInside) :
    (∃ b w r s', s.cursor.restOfLine.HasArgument b r ∧ s.cursor.restOfLine = w ++ r ∧
      optionalArgument (.ofRoom S (m + 2)) false s = .ok (some b) s' ∧ s.Consumes w s' ∧
      s'.cursor.restOfLine = r) ∨
    ((∀ b r, ¬ s.cursor.restOfLine.HasArgument b r) ∧
      optionalArgument (.ofRoom S (m + 2)) false s = .ok none s) := by
  have hG := ofRoom_readsInner S m
  rcases optional_on_line (S := S) hG hl.plain hl.atLineEnd hin with ⟨b, r, harg, ho⟩ | ⟨hno, ho⟩
  · rw [← hl.rest_eq] at ho
    obtain ⟨s', hs, hr⟩ := optionalArgument_of_optional (n := m + 2) ho
    obtain ⟨blanks, -, -, he⟩ := id harg
    have hsplit : s.cursor.restOfLine = blanks ++ '[' :: b ++ [']'] ++ r := by simp [he]
    obtain ⟨hc, hstay⟩ := consumes_line (.optionalArgument false) hl
      ((Level.ofRoom_moves S (m + 2)).optionalArgument false) hs hsplit hr
    exact Or.inl ⟨b, _, r, s', harg, hsplit, hs, hc, hstay⟩
  · rw [← hl.rest_eq] at ho
    obtain ⟨s', hs, -⟩ := optionalArgument_of_optional (n := m + 2) ho
    exact Or.inr ⟨hno, by rw [hs, optionalArgument_none hs]⟩

/-- A probe on a line that ends inside an inner bracket. -/
lemma optionalArgument_beyond {m : Nat} {tail : Text} (hl : s.cursor.OnPlainLine tail)
    (hin : s.cursor.restOfLine.EndsInside) :
    (∀ b s', optionalArgument (.ofRoom S (m + 2)) false s = .ok (some b) s' → '\n' ∈ b) ∧
      (s.cursor.EndsOpen → ∃ e s', optionalArgument (.ofRoom S (m + 2)) false s = .error e s') := by
  have hbeyond : ∀ {v s'}, optionalArgument (.ofRoom S (m + 2)) false s = .ok v s' →
      (∀ b, v = some b → '\n' ∈ b) ∧ ¬ ∀ c ∈ tail, isActive c = false ∧ c ≠ ']' := by
    intro v s' hs
    have ho := (optionalArgument_sound (Level.ofRoom_sound S (m + 2)) hs).1
    rw [hl.rest_eq] at ho
    exact Optional.beyond_line hin hl.plain hl.atLineEnd ho
  refine ⟨fun b s' hs => (hbeyond hs).1 b rfl, fun hopen => ?_⟩
  cases hs : optionalArgument (.ofRoom S (m + 2)) false s with
  | ok v s' => exact absurd (hopen tail hl.rest_eq) (hbeyond hs).2
  | error e s' => exact ⟨e, s', rfl⟩

/-- The probes for arguments on a line on which none of them ends inside an inner bracket. -/
lemma argumentText_on_plain {m : Nat} {tail : Text} (hl : s.cursor.OnPlainLine tail)
    (hin : ∀ args r, Text.BracketArguments args → s.cursor.restOfLine = args ++ r → ¬ r.EndsInside) :
    ∃ args r s', Text.BracketArguments args ∧ s.cursor.restOfLine = args ++ r ∧
      argumentText (.ofRoom S (m + 2)) s = .ok args s' ∧ s.Consumes args s' ∧
      s'.cursor.restOfLine = r ∧ ∀ b r', ¬ r.HasArgument b r' := by
  obtain ⟨args, r, hargs, hsplit, hno, ht⟩ :=
    argumentText_on_line (S := S) (ofRoom_readsInner S m) hl.plain hl.atLineEnd hin
  rw [← hl.rest_eq] at ht
  obtain ⟨s', hs, hr⟩ := argumentText_of_argumentText (n := m + 2) ht
  obtain ⟨hc, hstay⟩ := consumes_line .argumentText hl (Level.ofRoom_moves S (m + 2)).argumentText hs
    hsplit hr
  exact ⟨args, r, s', hargs, hsplit, hs, hc, hstay, hno⟩

/-- The probes for arguments on a line that ends inside an inner bracket of one of them. -/
lemma argumentText_beyond {m : Nat} {tail args : Text} (hl : s.cursor.OnPlainLine tail)
    (hargs : Text.BracketArguments args) (hsplit : s.cursor.restOfLine = args ++ r)
    (hin : r.EndsInside) :
    (∀ out s', argumentText (.ofRoom S (m + 2)) s = .ok out s' → out = args ∨ '\n' ∈ out) ∧
      (s.cursor.EndsOpen → ∃ e s', argumentText (.ofRoom S (m + 2)) s = .error e s') := by
  have hbeyond : ∀ {out s'}, argumentText (.ofRoom S (m + 2)) s = .ok out s' →
      (out = args ∨ '\n' ∈ out) ∧ ¬ ∀ c ∈ tail, isActive c = false ∧ c ≠ ']' := by
    intro out s' hs
    have ht := (argumentTextLoop_sound (Level.ofRoom_sound S (m + 2)) (Nat.le_refl _) hs).1
    rw [hl.rest_eq, hsplit] at ht
    exact ArgumentText.beyond_line hargs hin (fun c hc => hl.plain c (hsplit ▸ hc)) hl.atLineEnd ht
  refine ⟨fun out s' hs => (hbeyond hs).1, fun hopen => ?_⟩
  cases hs : argumentText (.ofRoom S (m + 2)) s with
  | ok out s' => exact absurd (hopen tail hl.rest_eq) (hbeyond hs).2
  | error e s' => exact ⟨e, s', rfl⟩

/-- On a line without braces, control sequences and comments, with room for two more levels: unless the
line ends inside an inner bracket, a probe for an optional argument finds what the line starts with and
stays on the line, or it finds nothing and leaves the state as it was. On a line that ends inside an
inner bracket it finds nothing but what goes on behind the line, and it fails if the bracket is not
closed there. The same goes for the probes for arguments in brackets that follow a control sequence. -/
theorem optionalArgument_on_line (S : Setup σ) {n : Nat} (hn : 2 ≤ n) (s : State σ)
    (hline : ∀ c ∈ s.cursor.restOfLine, isActive c = false) :
    (¬ s.cursor.restOfLine.EndsInside →
      (∃ b w r s', s.cursor.restOfLine.HasArgument b r ∧ s.cursor.restOfLine = w ++ r ∧
        optionalArgument (.ofRoom S n) false s = .ok (some b) s' ∧ s.Consumes w s' ∧
        s'.cursor.restOfLine = r) ∨
      ((∀ b r, ¬ s.cursor.restOfLine.HasArgument b r) ∧
        optionalArgument (.ofRoom S n) false s = .ok none s)) ∧
    (s.cursor.restOfLine.EndsInside →
      (∀ b s', optionalArgument (.ofRoom S n) false s = .ok (some b) s' → '\n' ∈ b) ∧
      (s.cursor.EndsOpen → ∃ e s', optionalArgument (.ofRoom S n) false s = .error e s')) ∧
    ((∀ args r, Text.BracketArguments args → s.cursor.restOfLine = args ++ r → ¬ r.EndsInside) →
      ∃ args r s', Text.BracketArguments args ∧ s.cursor.restOfLine = args ++ r ∧
        argumentText (.ofRoom S n) s = .ok args s' ∧ s.Consumes args s' ∧
        s'.cursor.restOfLine = r ∧ ∀ b r', ¬ r.HasArgument b r') ∧
    ∀ args r, Text.BracketArguments args → s.cursor.restOfLine = args ++ r → r.EndsInside →
      (∀ out s', argumentText (.ofRoom S n) s = .ok out s' → out = args ∨ '\n' ∈ out) ∧
      (s.cursor.EndsOpen → ∃ e s', argumentText (.ofRoom S n) s = .error e s') := by
  obtain ⟨m, rfl⟩ : ∃ m, n = m + 2 := ⟨n - 2, by omega⟩
  obtain ⟨tail, hl⟩ := exists_onPlainLine hline
  exact ⟨optionalArgument_on_plain hl, optionalArgument_beyond hl, argumentText_on_plain hl,
    fun _ _ => argumentText_beyond hl⟩

/-- A text without active characters is plain. -/
lemma isPlain_of_all {t : Text} (h : t.all fun c => !isActive c) : ∀ c ∈ t, isActive c = false :=
  fun c hc => by simpa using List.all_eq_true.1 h c hc

/-- Brackets in brackets, closed on their line. -/
def nestedBrackets : State Unit := .start ['[', 'a', '[', 'b', ']', ']', '\n', ']'] ()

/-- Brackets in brackets that are not closed. -/
def openBrackets : State Unit := .start ['[', 'a', '[', 'b'] ()

/-- Brackets in brackets, closed on the next line. -/
def splitBrackets : State Unit := .start ['[', 'a', '[', 'b', '\n', 'c', ']', ']'] ()

/-- The three ways in which a line with brackets can go on. -/
theorem optionalArgument_on_line_nested :
    let S : Setup Unit := ⟨.empty, .unavailable⟩
    (¬ nestedBrackets.cursor.restOfLine.EndsInside ∧
      ∃ b w r s', nestedBrackets.cursor.restOfLine.HasArgument b r ∧
        nestedBrackets.cursor.restOfLine = w ++ r ∧
        optionalArgument (.ofRoom S 2) false nestedBrackets = .ok (some b) s' ∧
        nestedBrackets.Consumes w s' ∧ s'.cursor.restOfLine = r) ∧
    (∃ args r s', Text.BracketArguments args ∧ nestedBrackets.cursor.restOfLine = args ++ r ∧
      argumentText (.ofRoom S 2) nestedBrackets = .ok args s' ∧ nestedBrackets.Consumes args s' ∧
      s'.cursor.restOfLine = r ∧ ∀ b r', ¬ r.HasArgument b r') ∧
    (openBrackets.cursor.restOfLine.EndsInside ∧ openBrackets.cursor.EndsOpen ∧
      (∃ e s', optionalArgument (.ofRoom S 2) false openBrackets = .error e s') ∧
      ∃ e s', argumentText (.ofRoom S 2) openBrackets = .error e s') ∧
    splitBrackets.cursor.restOfLine.EndsInside ∧
      ∃ b s', optionalArgument (.ofRoom S 2) false splitBrackets = .ok (some b) s' ∧ '\n' ∈ b := by
  intro S
  have hinside : Text.EndsInside ['[', 'a', '[', 'b'] :=
    ⟨[], ['a'], ['b'], rfl, .char (by decide) (by decide) .nil, by decide, rfl⟩
  have hnested := optionalArgument_on_line S (Nat.le_refl 2) nestedBrackets (isPlain_of_all rfl)
  have hopen := optionalArgument_on_line S (Nat.le_refl 2) openBrackets (isPlain_of_all rfl)
  have hsplit := optionalArgument_on_line S (Nat.le_refl 2) splitBrackets (isPlain_of_all rfl)
  have hends : openBrackets.cursor.EndsOpen := by
    intro tail htail a ha
    have hnil : ['[', 'a', '[', 'b'] ++ [] = ['[', 'a', '[', 'b'] ++ tail := htail
    rw [← List.append_cancel_left hnil] at ha
    cases ha
  have hclosed : ∀ u r, nestedBrackets.cursor.restOfLine = u ++ r → ¬ r.EndsInside :=
    fun u r h => Text.not_endsInside (t := ['[', 'a', '[', 'b', ']']) h
  refine ⟨⟨hclosed [] _ rfl, ?_⟩, hnested.2.2.1 fun args r _ => hclosed args r,
    ⟨hinside, hends, (hopen.2.1 hinside).2 hends, (hopen.2.2.2 [] _ .nil rfl hinside).2 hends⟩,
    hinside, ?_⟩
  · rcases hnested.1 (hclosed [] _ rfl) with hfound | ⟨-, hnone⟩
    · exact hfound
    · cases hnone
  · have hrun : ∃ b s', optionalArgument (.ofRoom S 2) false splitBrackets = .ok (some b) s' :=
      ⟨_, _, rfl⟩
    obtain ⟨b, s', hs⟩ := hrun
    exact ⟨b, s', hs, (hsplit.2.1 hinside).1 b s' hs⟩

/-- A probe may fail, and it may find an argument that goes on behind the line. -/
theorem not_optionalArgument_on_line :
    (¬ ∀ (S : Setup Unit) (n : Nat) (s : State Unit), (∀ name, S.registry.command? name = none) →
      2 ≤ n → (∀ c ∈ s.cursor.restOfLine, isActive c = false) →
      ∃ v s', optionalArgument (.ofRoom S n) false s = .ok v s') ∧
    ¬ ∀ (S : Setup Unit) (n : Nat) (s s' : State Unit) (b : Text),
      (∀ name, S.registry.command? name = none) → 2 ≤ n →
      (∀ c ∈ s.cursor.restOfLine, isActive c = false) →
      optionalArgument (.ofRoom S n) false s = .ok (some b) s' → '\n' ∉ b := by
  let S : Setup Unit := ⟨.empty, .unavailable⟩
  have hrun : optionalArgument (.ofRoom S 2) false splitBrackets =
    .ok (some ['a', '[', 'b', '\n', 'c', ']']) (splitBrackets.advance 8) := rfl
  constructor
  · intro hall
    obtain ⟨v, s', hs⟩ := hall S 2 openBrackets (fun _ => rfl) (Nat.le_refl 2) (isPlain_of_all rfl)
    cases hs
  · intro hall
    exact absurd (hall S 2 splitBrackets _ _ (fun _ => rfl) (Nat.le_refl 2) (isPlain_of_all rfl) hrun)
      (by decide)

end Scan

/-! ### Balanced brackets -/

namespace Text

variable {b t u : Text} {k : Nat}

/-- No bracket closes before it opens, and all of them close. -/
structure IsBalanced (b : Text) : Prop where
  count_le : ∀ p, p <+: b → p.count ']' ≤ p.count '['
  count_eq : b.count '[' = b.count ']'

/-- At most `k` brackets are open at a time. -/
def NestsWithin (k : Nat) (b : Text) : Prop :=
  ∀ p, p <+: b → p.count '[' ≤ p.count ']' + k

instance (b : Text) : Decidable b.IsBalanced :=
  decidable_of_iff ((∀ p ∈ b.inits, p.count ']' ≤ p.count '[') ∧ b.count '[' = b.count ']')
    ⟨fun h => ⟨fun p hp => h.1 p ((List.mem_inits p b).2 hp), h.2⟩,
      fun h => ⟨fun p hp => h.count_le p ((List.mem_inits p b).1 hp), h.count_eq⟩⟩

instance (k : Nat) (b : Text) : Decidable (b.NestsWithin k) :=
  decidable_of_iff (∀ p ∈ b.inits, p.count '[' ≤ p.count ']' + k)
    (forall_congr' fun p => by rw [List.mem_inits])

/-- A beginning of a text is nested no deeper than the text. -/
lemma NestsWithin.of_isPrefix (h : NestsWithin k b) (ht : t <+: b) : NestsWithin k t :=
  fun p hp => h p (hp.trans ht)

/-- A beginning that closes what it opens counts for itself. -/
lemma nestsWithin_append (hu : u.count '[' = u.count ']') :
    NestsWithin k (u ++ t) ↔ NestsWithin k u ∧ NestsWithin k t := by
  constructor
  · intro h
    refine ⟨h.of_isPrefix (u.prefix_append t), fun p hp => ?_⟩
    have hle := h (u ++ p) (List.prefix_append_right_inj u |>.2 hp)
    rw [List.count_append, List.count_append] at hle
    omega
  · rintro ⟨hbegin, hend⟩ p hp
    rcases List.prefix_or_prefix_of_prefix hp (u.prefix_append t) with hpu | ⟨q, rfl⟩
    · exact hbegin p hpu
    · have hle := hend q ((List.prefix_append_right_inj u).1 hp)
      rw [List.count_append, List.count_append]
      omega

/-- A text is nested no deeper than it has opening brackets. -/
lemma nestsWithin_of_count_le (h : b.count '[' ≤ k) : NestsWithin k b := by
  intro p hp
  have hle := hp.sublist.count_le '['
  omega

/-- A bracketed text has no more closing brackets than opening ones. -/
lemma Bracketed.count_le (hb : Bracketed b) : b.count ']' ≤ b.count '[' := by
  induction hb with
  | nil => exact Nat.le_refl _
  | char ho hc _ ih => simpa [List.count_cons, ho, hc] using ih
  | @inner v t hv _ ih =>
    have hnone := List.count_eq_zero.2 hv
    simp [hnone]
    omega

/-- A balanced part can be left out before a text is checked for balance. -/
lemma count_eq_iff_append (hu : u.count '[' = u.count ']') (hk : NestsWithin k u)
    (ht : t.count '[' = t.count ']' ↔ NestsWithin k t) :
    (u ++ t).count '[' = (u ++ t).count ']' ↔ NestsWithin k (u ++ t) := by
  rw [nestsWithin_append hu, List.count_append, List.count_append, hu, Nat.add_left_cancel_iff, ht]
  exact (and_iff_right hk).symm

/-- A text with every inner bracket closed closes all brackets if they are nested at most one deep,
and only then. -/
lemma Bracketed.count_eq_iff (hb : Bracketed b) :
    b.count '[' = b.count ']' ↔ NestsWithin 1 b := by
  induction hb with
  | nil => simp [NestsWithin]
  | @char c t ho hc _ ih =>
    exact count_eq_iff_append (u := [c]) (by simp [ho, hc])
      (nestsWithin_of_count_le (by simp [ho])) ih
  | @inner v t hv ht ih =>
    have hnone := List.count_eq_zero.2 hv
    by_cases ho : '[' ∈ v
    · -- What opens inside of the inner bracket is not closed by it.
      have hpos := List.count_pos_iff.2 ho
      refine iff_of_false ?_ fun h => ?_
      · have hle := ht.count_le
        simp [hnone]
        omega
      · have hle := h ('[' :: v) (List.prefix_append _ _)
        simp [hnone] at hle
        omega
    · have hzero := List.count_eq_zero.2 ho
      rw [List.append_cons ('[' :: v)]
      exact count_eq_iff_append (by simp [hnone, hzero])
        (nestsWithin_of_count_le (by simp [hzero])) ih

/-- The inside of balanced brackets ends with them if they are nested at most one deep, and before
them if not. -/
lemma IsBalanced.bracketed_cases (hb : b.IsBalanced) :
    (NestsWithin 1 b ∧ Bracketed b) ∨
      (¬ NestsWithin 1 b ∧ ∃ b' r, Bracketed b' ∧ b = b' ++ ']' :: r) := by
  rcases Text.bracketed_cases b with hall | ⟨b', v, hb', hv, rfl⟩ | ⟨b', r, hb', rfl⟩
  · exact Or.inl ⟨hall.count_eq_iff.1 hb.count_eq, hall⟩
  · have hle := hb'.count_le
    have heq := hb.count_eq
    simp [List.count_eq_zero.2 hv] at heq
    omega
  · refine Or.inr ⟨fun hone => ?_, b', r, hb', rfl⟩
    -- What closes too early would have nothing that opens it.
    have heq := hb'.count_eq_iff.2 (hone.of_isPrefix (List.prefix_append _ _))
    have hle := hb.count_le (b' ++ [']']) ⟨r, by simp⟩
    simp at hle
    omega

/-- Without room for inner brackets there are none. -/
lemma IsBalanced.one_le (hb : b.IsBalanced) (hk : NestsWithin k b) (ho : '[' ∈ b) : 1 ≤ k := by
  obtain ⟨u, r, rfl⟩ := List.append_of_mem ho
  have hopen := hk (u ++ ['[']) ⟨r, by simp⟩
  have hle := hb.count_le u (List.prefix_append _ _)
  simp at hopen
  omega

end Text

namespace Scan

open Grammar

variable {S : Setup σ} {s : State σ} {b r : Text}

/-- A bracketed text without active characters is an optional argument. -/
lemma optionalArgument_bracketed {m : Nat} (hb : b.Bracketed)
    (hp : ∀ c ∈ b, isActive c = false ∧ c ≠ '\n') (hm : '[' ∈ b → 1 ≤ m)
    (hs : s.cursor.rest = '[' :: b ++ ']' :: r) :
    ∃ s', optionalArgument (.ofRoom S (m + 1)) false s = .ok (some b) s' ∧
      s.Consumes ('[' :: b ++ [']']) s' := by
  have hG : '[' ∈ b → (ofRoom S m).ReadsInner := by
    intro ho
    obtain ⟨m, rfl⟩ : ∃ i, m = i + 1 := ⟨m - 1, by have := hm ho; omega⟩
    exact ofRoom_readsInner S m
  have hread : Optional (ofRoom S (m + 1)) false ([] ++ '[' :: (b ++ ']' :: r)) (some b) r :=
    .brackets rfl (brackets_closed hb hp hG r)
  rw [List.nil_append, ← List.cons_append, ← hs] at hread
  obtain ⟨s', hs', hr⟩ := optionalArgument_of_optional hread
  refine ⟨s', hs', (Request.optionalArgument false).consumes
    ((Level.ofRoom_moves S (m + 1)).optionalArgument false) hs' ?_⟩
  rw [hs, hr, List.append_assoc, List.singleton_append]

/-- Balanced brackets without braces, control sequences and comments on their line: if the inner ones
are nested at most one deep, a probe for an optional argument finds all of the inside and stops behind
the bracket that closes it. If they are nested deeper, it stops at a bracket before that. -/
theorem optionalArgument_balanced (S : Setup σ) {n k : Nat} {s : State σ} {b rest : Text}
    (hb : b.IsBalanced) (hp : ∀ c ∈ b, isActive c = false ∧ c ≠ '\n') (hk : b.NestsWithin k)
    (hn : k < n) (hs : s.cursor.rest = '[' :: b ++ ']' :: rest) :
    (b.NestsWithin 1 → ∃ s', optionalArgument (.ofRoom S n) false s = .ok (some b) s' ∧
      s.Consumes ('[' :: b ++ [']']) s') ∧
    (¬ b.NestsWithin 1 → ∃ b' r s', b'.Bracketed ∧ b = b' ++ ']' :: r ∧
      optionalArgument (.ofRoom S n) false s = .ok (some b') s' ∧
      s.Consumes ('[' :: b' ++ [']']) s') := by
  obtain ⟨m, rfl⟩ : ∃ m, n = m + 1 := ⟨n - 1, by omega⟩
  have hm : '[' ∈ b → 1 ≤ m := fun ho => by
    have := hb.one_le hk ho
    omega
  rcases hb.bracketed_cases with ⟨hone, hbr⟩ | ⟨hdeep, b', r, hbr, rfl⟩
  · exact ⟨fun _ => optionalArgument_bracketed hbr hp hm hs, absurd hone⟩
  · refine ⟨fun hone => absurd hone hdeep, fun _ => ?_⟩
    obtain ⟨s', hs', hc⟩ := optionalArgument_bracketed (S := S) (m := m) hbr
      (fun c hc => hp c (by simp [hc])) (fun ho => hm (by simp [ho]))
      (r := r ++ ']' :: rest) (by simpa using hs)
    exact ⟨b', r, s', hbr, rfl, hs', hc⟩

/-- Brackets nested one deep in the outer ones. -/
def shallowBrackets : State Unit := .start ['[', 'a', '[', 'b', ']', ']', 'c'] ()

/-- Brackets nested two deep in the outer ones. -/
def deepBrackets : State Unit :=
  .start ['[', 'a', '[', 'b', '[', 'c', ']', 'd', ']', 'e', ']', 'f'] ()

/-- Brackets that are read as an argument, and brackets that are nested too deeply for that. -/
theorem optionalArgument_balanced_deep :
    let S : Setup Unit := ⟨.empty, .unavailable⟩
    let shallow := ['a', '[', 'b', ']']
    let deep := ['a', '[', 'b', '[', 'c', ']', 'd', ']', 'e']
    (Text.NestsWithin 1 shallow ∧
      ∃ s', optionalArgument (.ofRoom S 3) false shallowBrackets = .ok (some shallow) s' ∧
        shallowBrackets.Consumes ('[' :: shallow ++ [']']) s') ∧
    Text.IsBalanced deep ∧ ¬ Text.NestsWithin 1 deep ∧ Text.NestsWithin 2 deep ∧
      ∃ b' r s', Text.Bracketed b' ∧ deep = b' ++ ']' :: r ∧
        optionalArgument (.ofRoom S 3) false deepBrackets = .ok (some b') s' ∧
        deepBrackets.Consumes ('[' :: b' ++ [']']) s' := by
  intro S shallow deep
  have hshallow : Text.NestsWithin 1 shallow := by decide
  have hdeep : ¬ Text.NestsWithin 1 deep := by decide
  have hbalanced : Text.IsBalanced deep := by decide
  have htwo : Text.NestsWithin 2 deep := by decide
  have hs : shallowBrackets.cursor.rest = '[' :: shallow ++ ']' :: ['c'] := rfl
  have hs' : deepBrackets.cursor.rest = '[' :: deep ++ ']' :: ['f'] := rfl
  refine ⟨⟨hshallow, ?_⟩, hbalanced, hdeep, htwo, ?_⟩
  · exact (optionalArgument_balanced S (by decide) (by simp [shallow, isActive]) hshallow (by decide)
      hs).1 hshallow
  · exact (optionalArgument_balanced S hbalanced (by simp [deep, isActive]) htwo (by decide)
      hs').2 hdeep

/-- Brackets nested two deep in the outer ones are not told apart. -/
theorem not_optionalArgument_balanced : ¬ ∀ (S : Setup Unit) (n k : Nat) (s : State Unit)
    (b rest : Text), (∀ name, S.registry.command? name = none) → b.IsBalanced →
    (∀ c ∈ b, isActive c = false ∧ c ≠ '\n') → b.NestsWithin k → k < n →
    s.cursor.rest = '[' :: b ++ ']' :: rest →
    ∃ s', optionalArgument (.ofRoom S n) false s = .ok (some b) s' ∧ s'.cursor.rest = rest := by
  intro hall
  let S : Setup Unit := ⟨.empty, .unavailable⟩
  obtain ⟨s', hs, -⟩ := hall S 3 2 deepBrackets ['a', '[', 'b', '[', 'c', ']', 'd', ']', 'e'] ['f']
    (fun _ => rfl) (by decide) (by simp [isActive]) (by decide) (by decide) rfl
  have hrun : optionalArgument (.ofRoom S 3) false deepBrackets =
    .ok (some ['a', '[', 'b', '[', 'c', ']', 'd']) (deepBrackets.advance 9) := rfl
  rw [hrun] at hs
  cases hs

end Scan

end IndentTex
