import IndentTex.Proofs.Passage

/-!
# Markup is properly nested

Markup is read as tokens: control sequences, comments, braces, and the two markers of environments.
It is properly nested if every closing token closes what was opened last and nothing stays open.
The main result is that the output of a translator without definitions is properly nested, if the
source has no markers of its own.

A piece of output is cut into tokens in the same way wherever it stands, as long as what follows it
does not go on with its last control word or comment, and this is what `Passage` keeps track of.
-/

namespace IndentTex

namespace Markup

/-! ### Tokens -/

/-- The parts that markup is read as. -/
inductive Token where
  /-- The marker at the beginning of an environment. -/
  | opening (name : Text)
  /-- The marker at the end of an environment. -/
  | closing (name : Text)
  | leftBrace
  | rightBrace
  | control (name : Text)
  | comment (note : Text)
  | char (c : Char)
  deriving DecidableEq, Repr

/-- A text in braces, and what follows it. -/
def braced? : Text → Option (Text × Text)
  | '\x7b' :: t =>
    match t.dropWhile (· != '\x7d') with
    | [] => none
    | _ :: r => some (t.takeWhile (· != '\x7d'), r)
  | _ => none

/-- The name of the control sequence that a backslash before the text starts: letters, as many as
there are, or one other character. -/
def controlName (t : Text) : Text :=
  if t.starts isAlphabetic then t.takeWhile isAlphabetic else t.take 1

/-- The tokens for the control sequences that mark environments. -/
def marker? (name : Text) : Option (Text → Token) :=
  if name = "begin".toList then some .opening
  else if name = "end".toList then some .closing
  else none

/-- The token that a backslash before the text starts, and what follows it. -/
def controlToken (t : Text) : Token × Text :=
  let rest := t.drop (controlName t).length
  match marker? (controlName t), braced? rest with
  | some marker, some (name, r) => (marker name, r)
  | _, _ => (.control (controlName t), rest)

/-- The token that a character before the text starts, and what follows it. -/
def nextToken (c : Char) (t : Text) : Token × Text :=
  if c = '\\' then controlToken t
  else if c = '%' then (.comment (t.takeWhile (· != '\n')), t.dropWhile (· != '\n'))
  else if c = '\x7b' then (.leftBrace, t)
  else if c = '\x7d' then (.rightBrace, t)
  else (.char c, t)

/-- A name in braces leaves no more than there was. -/
lemma braced?_length_le {t n r : Text} (h : braced? t = some (n, r)) : r.length ≤ t.length := by
  unfold braced? at h
  split at h
  case h_1 t =>
    split at h
    · cases h
    case h_2 r' hr =>
      cases h
      have hle := (t.dropWhile_sublist (· != '\x7d')).length_le
      rw [hr, List.length_cons] at hle
      rw [List.length_cons]
      omega
  case h_2 => cases h

/-- A control token leaves no more than there was. -/
lemma controlToken_length_le (t : Text) : (controlToken t).2.length ≤ t.length := by
  have hrest : (t.drop (controlName t).length).length ≤ t.length := by simp
  unfold controlToken
  dsimp only
  split
  case h_1 hb => exact Nat.le_trans (braced?_length_le hb) hrest
  case h_2 => exact hrest

/-- A token leaves no more than there was. -/
lemma nextToken_length_le (c : Char) (t : Text) : (nextToken c t).2.length ≤ t.length := by
  unfold nextToken
  split
  · exact controlToken_length_le t
  split
  · exact (t.dropWhile_sublist _).length_le
  split
  · exact Nat.le_refl _
  split <;> exact Nat.le_refl _

/-- The tokens of a text. -/
def tokens : Text → List Token
  | [] => []
  | c :: t => (nextToken c t).1 :: tokens (nextToken c t).2
termination_by t => t.length
decreasing_by exact Nat.lt_succ_of_le (nextToken_length_le c t)

/-! ### Nesting -/

/-- What a token opens and another one closes. -/
inductive Pair where
  | environment (name : Text)
  | brace
  deriving DecidableEq, Repr

/-- Whether every closing token closes what was opened last and nothing stays open. The stack holds
what is open before the tokens, last one first. -/
def closesAll (stack : List Pair) : List Token → Bool
  | [] => stack.isEmpty
  | .opening name :: ts => closesAll (.environment name :: stack) ts
  | .leftBrace :: ts => closesAll (.brace :: stack) ts
  | .closing name :: ts => stack.head? = some (.environment name) && closesAll stack.tail ts
  | .rightBrace :: ts => stack.head? = some .brace && closesAll stack.tail ts
  | .control _ :: ts | .comment _ :: ts | .char _ :: ts => closesAll stack ts

/-- Whether a text is properly nested. -/
def isNested (t : Text) : Bool := closesAll [] (tokens t)

-- A comment hides the marker behind it.
example : isNested "\\begin\x7ba\x7d%\\end\x7ba\x7d".toList = false := by decide +kernel

/-! ### Single tokens -/

/-- The first token of a text comes before those of the rest. -/
lemma tokens_cons (c : Char) (t : Text) :
    tokens (c :: t) = (nextToken c t).1 :: tokens (nextToken c t).2 := by
  rw [tokens]

/-- A character that is not active is a token. -/
lemma tokens_char {c : Char} (hc : isActive c = false) (x : Text) :
    tokens (c :: x) = .char c :: tokens x := by
  simp only [isActive, Bool.or_eq_false_iff, decide_eq_false_iff_not] at hc
  rw [tokens_cons, nextToken, if_neg hc.1.1.1, if_neg hc.2, if_neg hc.1.1.2, if_neg hc.1.2]

/-- An opening brace is a token. -/
lemma tokens_leftBrace (x : Text) : tokens ('\x7b' :: x) = .leftBrace :: tokens x :=
  tokens_cons _ x

/-- A closing brace is a token. -/
lemma tokens_rightBrace (x : Text) : tokens ('\x7d' :: x) = .rightBrace :: tokens x :=
  tokens_cons _ x

/-- A comment up to the end of its line is a token. -/
lemma tokens_comment {note x : Text} (hn : '\n' ∉ note) (hx : x.EndsLine) :
    tokens ('%' :: (note ++ x)) = .comment note :: tokens x := by
  have hall := Text.all_ne_of_notMem hn
  have hend : x.starts (fun c => c != '\n') = false := by
    cases x with
    | nil => rfl
    | cons c x => simpa [Text.EndsLine] using hx
  have htoken : nextToken '%' (note ++ x) = (.comment note, x) := by
    rw [nextToken, if_neg (by decide), if_pos rfl, Text.takeWhile_run hall hend,
      Text.dropWhile_run hall hend]
  rw [tokens_cons, htoken]

/-- A character that is not alphabetic is a name by itself. -/
lemma controlName_symbol {c : Char} (hc : isAlphabetic c = false) (x : Text) :
    controlName (c :: x) = [c] := by
  simp [controlName, hc]

/-- A run of alphabetic characters is a name where the word ends. -/
lemma controlName_word {name x : Text} (hne : name ≠ []) (ha : name.all isAlphabetic)
    (hx : x.EndsWord) : controlName (name ++ x) = name := by
  cases name with
  | nil => exact absurd rfl hne
  | cons c name =>
    have hc : isAlphabetic c := List.all_eq_true.1 ha c List.mem_cons_self
    rw [controlName, List.cons_append, Text.starts_cons, if_pos hc, ← List.cons_append,
      Text.takeWhile_run ha hx]

/-- A control sequence that is no marker. -/
lemma tokens_control {name x : Text} (hn : controlName (name ++ x) = name)
    (hm : marker? name = none) : tokens ('\\' :: (name ++ x)) = .control name :: tokens x := by
  have htoken : nextToken '\\' (name ++ x) = (.control name, x) := by
    rw [nextToken, if_pos rfl, controlToken, hn, hm, List.drop_left]
  rw [tokens_cons, htoken]

/-- A marker. -/
lemma tokens_marker {word name x : Text} {marker : Text → Token} (hne : word ≠ [])
    (ha : word.all isAlphabetic) (hm : marker? word = some marker) (hn : '\x7d' ∉ name) :
    tokens ('\\' :: (word ++ '\x7b' :: (name ++ '\x7d' :: x))) = marker name :: tokens x := by
  have hword : controlName (word ++ '\x7b' :: (name ++ '\x7d' :: x)) = word :=
    controlName_word hne ha (show isAlphabetic '\x7b' = false by decide +kernel)
  have hall := Text.all_ne_of_notMem hn
  have hbraced : braced? ('\x7b' :: (name ++ '\x7d' :: x)) = some (name, x) := by
    rw [braced?, Text.dropWhile_run hall rfl, Text.takeWhile_run hall rfl]
  have htoken : nextToken '\\' (word ++ '\x7b' :: (name ++ '\x7d' :: x)) = (marker name, x) := by
    rw [nextToken, if_pos rfl, controlToken, hword, hm, List.drop_left, hbraced]
  rw [tokens_cons, htoken]

/-! ### Balanced tokens -/

/-- Tokens that close all that they open, and nothing else. -/
def Balanced (ts : List Token) : Prop :=
  ∀ stack us, closesAll stack (ts ++ us) = closesAll stack us

namespace Balanced

variable {ts us : List Token}

/-- No tokens are balanced. -/
lemma nil : Balanced [] := fun _ _ => rfl

/-- Balanced tokens after balanced tokens are balanced. -/
lemma append (ht : Balanced ts) (hu : Balanced us) : Balanced (ts ++ us) := by
  intro stack vs
  rw [List.append_assoc, ht, hu]

/-- A control token is balanced. -/
lemma control (name : Text) : Balanced [.control name] := fun _ _ => rfl

/-- A comment is balanced. -/
lemma comment (note : Text) : Balanced [.comment note] := fun _ _ => rfl

/-- A character is balanced. -/
lemma char (c : Char) : Balanced [.char c] := fun _ _ => rfl

/-- Balanced tokens between braces are balanced. -/
lemma braces (ht : Balanced ts) : Balanced (.leftBrace :: ts ++ [.rightBrace]) := by
  intro stack us
  rw [List.cons_append, List.cons_append, closesAll, List.append_assoc, ht]
  simp [closesAll]

/-- Balanced tokens between the markers of an environment are balanced. -/
lemma environment (ht : Balanced ts) (name : Text) :
    Balanced (.opening name :: ts ++ [.closing name]) := by
  intro stack us
  rw [List.cons_append, List.cons_append, closesAll, List.append_assoc, ht]
  simp [closesAll]

end Balanced

end Markup

open Markup

/-! ### Passages -/

/-- Text without markers of environments. -/
structure Unmarked (s : Text) : Prop where
  opening : ¬ "\\begin".toList <:+: s
  closing : ¬ "\\end".toList <:+: s

/-- The tokens of an output, which do not depend on what follows it if that has the given property.
The comments among them are those of the source. -/
structure Reading (P : Text → Prop) (s out : Text) (ts : List Token) : Prop where
  tokens_append {x : Text} : P x → tokens (out ++ x) = ts ++ tokens x
  balanced : Balanced ts
  comments {note : Text} : .comment note ∈ ts → note <:+: s

namespace Reading

variable {P Q : Text → Prop} {s out out' : Text} {ts ts' : List Token}

/-- Two readings make up one if the second text may follow the first. -/
lemma append (h : Reading P s out ts) (h' : Reading Q s out' ts')
    (hx : ∀ x, Q x → P (out' ++ x)) : Reading Q s (out ++ out') (ts ++ ts') where
  tokens_append {x} hq := by
    rw [List.append_assoc, h.tokens_append (hx x hq), h'.tokens_append hq, List.append_assoc]
  balanced := h.balanced.append h'.balanced
  comments hn := (List.mem_append.1 hn).elim h.comments h'.comments

/-- A character that is not active has its token. -/
lemma char {c : Char} (hc : isActive c = false) : Reading P s [c] [.char c] where
  tokens_append {x} _ := tokens_char hc x
  balanced := .char c
  comments hn := by simp at hn

/-- Blanks have their tokens. -/
lemma blanks {w : Text} (hw : w.all isBlank) : Reading P s w (w.map .char) := by
  induction w with
  | nil => exact ⟨fun _ => rfl, .nil, nofun⟩
  | cons c w ih =>
    rw [List.all_cons, Bool.and_eq_true] at hw
    exact append (P := fun _ => True) (char (isActive_of_isBlank hw.1)) (ih hw.2) fun _ _ => trivial

/-- A reading between braces. -/
lemma braces (h : Reading Text.EndsWord s out ts) :
    Reading P s ('\x7b' :: out ++ ['\x7d']) (.leftBrace :: ts ++ [.rightBrace]) where
  tokens_append {x} _ := by
    have hx : Text.EndsWord ('\x7d' :: x) := show isAlphabetic '\x7d' = false by decide +kernel
    rw [List.cons_append, List.cons_append, tokens_leftBrace, List.append_assoc,
      List.singleton_append, h.tokens_append hx, tokens_rightBrace]
    simp
  balanced := h.balanced.braces
  comments hn := h.comments (by simpa using hn)

/-- An environment around a text that can stand before a backslash. -/
lemma environment {name args body : Text} (hn : name.all isAlphabetic)
    (h : Reading (fun x => ∃ r, x = '\\' :: r) s (args ++ body) ts) :
    Reading P s (Markup.environment name args body) (.opening name :: ts ++ [.closing name]) where
  tokens_append {x} _ := by
    have hbrace : '\x7d' ∉ name := by
      intro hb
      have ha := List.all_eq_true.1 hn _ hb
      revert ha
      decide +kernel
    have hopen := @tokens_marker "begin".toList name
      (args ++ body ++ '\\' :: ("end".toList ++ '\x7b' :: (name ++ '\x7d' :: x))) .opening
      (by decide) (by decide +kernel) rfl hbrace
    have hclose := @tokens_marker "end".toList name x .closing
      (by decide) (by decide +kernel) rfl hbrace
    rw [h.tokens_append ⟨_, rfl⟩, hclose] at hopen
    have heq : Markup.environment name args body ++ x =
        '\\' :: ("begin".toList ++ '\x7b' :: (name ++ '\x7d' :: (args ++ body ++
          '\\' :: ("end".toList ++ '\x7b' :: (name ++ '\x7d' :: x))))) := by
      rw [Markup.environment_eq]
      simp
    rw [heq, hopen]
    simp
  balanced := h.balanced.environment name
  comments hn := h.comments (by simpa using hn)

end Reading

/-- A name in an unmarked source is no marker. -/
lemma Unmarked.marker?_eq_none {s name : Text} (hs : Unmarked s) (h : '\\' :: name <:+: s) :
    marker? name = none := by
  unfold marker?
  split
  case isTrue hn =>
    subst hn
    exact absurd h hs.opening
  case isFalse =>
    split
    case isTrue hn =>
      subst hn
      exact absurd h hs.closing
    case isFalse => rfl

/-- A copied text of an unmarked source has a reading. -/
lemma Copied.exists_reading {P : Text → Prop} {s w : Text} (h : Copied P w) (hs : Unmarked s)
    (hw : w <:+: s) : ∃ ts, Reading P s w ts := by
  induction h with
  | nil => exact ⟨[], fun _ => rfl, .nil, nofun⟩
  | char hc => exact ⟨_, .char hc⟩
  | @symbol _ c hc =>
    refine ⟨[.control [c]], ?_, .control _, by simp⟩
    intro x _
    exact @tokens_control [c] x (controlName_symbol hc x) (hs.marker?_eq_none hw)
  | @word _ name hne ha hx =>
    refine ⟨[.control name], ?_, .control _, by simp⟩
    intro x hp
    exact tokens_control (controlName_word hne ha (hx x hp)) (hs.marker?_eq_none hw)
  | @comment _ note hn hx =>
    refine ⟨[.comment note], ?_, .comment _, ?_⟩
    · intro x hp
      exact tokens_comment hn (hx x hp)
    · intro n hn
      obtain rfl : n = note := by simpa using hn
      exact (List.suffix_cons '%' n).isInfix.trans hw
  | @group _ body _ ih =>
    have hbody : body <:+: '\x7b' :: body ++ ['\x7d'] := ⟨['\x7b'], ['\x7d'], rfl⟩
    obtain ⟨ts, ht⟩ := ih (hbody.trans hw)
    exact ⟨_, ht.braces⟩
  | @append _ _ v w _ _ hx ih ih' =>
    obtain ⟨ts, ht⟩ := ih ((List.prefix_append v w).isInfix.trans hw)
    obtain ⟨ts', ht'⟩ := ih' ((List.suffix_append v w).isInfix.trans hw)
    exact ⟨_, ht.append ht' hx⟩

/-- The output of a passage from a text without markers has tokens of its own, which are
balanced. -/
lemma Passage.exists_reading {P : Text → Prop} {names : List Text} {s v out : Text}
    (h : Passage P names v out) (hs : Unmarked s) (hv : v <:+: s) : ∃ ts, Reading P s out ts := by
  induction h with
  | copied hw => exact hw.exists_reading hs hv
  | @append _ _ _ _ v v' _ _ _ _ hx ih ih' =>
    obtain ⟨ts, ht⟩ := ih ((List.prefix_append v v').isInfix.trans hv)
    obtain ⟨ts', ht'⟩ := ih' ((List.suffix_append v v').isInfix.trans hv)
    exact ⟨_, ht.append ht' hx⟩
  | @environment _ Q name args gap gap' lead trail v out _ _ ha hargs _ _ hlead htrail hQ _ ih =>
    have hargsIn : args <:+: '\\' :: name ++ args ++ gap ++ ':' :: gap' ++ v :=
      ⟨'\\' :: name, gap ++ ':' :: gap' ++ v, by simp⟩
    obtain ⟨ts, ht⟩ := hargs.exists_reading hs (hargsIn.trans hv)
    obtain ⟨us, hu⟩ := ih ((List.suffix_append _ v).isInfix.trans hv)
    -- The arguments, the blanks before the body, the body and the blanks after it.
    have hbody := hu.append (.blanks htrail) (Q := fun x => ∃ r, x = '\\' :: r)
      (by rintro x ⟨r, rfl⟩; exact hQ r)
    have hlead' := Reading.append (P := fun _ => True) (.blanks hlead) hbody fun _ _ => trivial
    have hall := ht.append hlead' fun _ _ => trivial
    rw [← List.append_assoc lead] at hall
    exact ⟨_, hall.environment ha⟩

/-- The output of a document without markers is made of balanced tokens. -/
lemma DocumentPassage.exists_reading {s out : Text} (h : DocumentPassage s out) (hs : Unmarked s) :
    ∃ ts, Reading (fun _ => True) s out ts := by
  obtain @⟨_, _, p, p', d, b, b', trailing, -, hp, -, hb, ht, -⟩ := h
  obtain ⟨ts, hp⟩ := hp.exists_reading hs ⟨[], d ++ '\n' :: b ++ trailing, by simp⟩
  obtain ⟨us, hb⟩ := hb.exists_reading hs ⟨p ++ d ++ ['\n'], trailing, by simp⟩
  have hend := hb.append (.char (c := '\n') (by decide)) (Q := fun x => ∃ r, x = '\\' :: r)
    fun _ _ => rfl
  have hbody := Reading.append (P := fun _ => True) (.char (c := '\n') (by decide)) hend
    fun _ _ => trivial
  have hdocument : Reading (fun _ => True) _ (Markup.environment "document".toList [] _) _ :=
    .environment (by decide +kernel) hbody
  exact ⟨_, (hp.append hdocument fun _ _ => trivial).append (.blanks ht) fun _ _ => trivial⟩

/-- An output that is read as balanced tokens is properly nested. -/
lemma Reading.isNested {P : Text → Prop} {s out : Text} {ts : List Token} (h : Reading P s out ts)
    (hP : P []) : tokens out = ts ∧ isNested out := by
  have ht : tokens out = ts := by simpa [tokens] using h.tokens_append hP
  refine ⟨ht, ?_⟩
  have hall := h.balanced [] []
  rw [List.append_nil] at hall
  rw [Markup.isNested, ht, hall]
  rfl

namespace Translator

variable {σ : Type}

/-- Without definitions, and without markers in the source, the output is properly nested, and no
end of an environment stands in a comment. -/
theorem isNested_of_unmarked (t : Translator σ) (ht : t.registry = .empty) {s out : Text}
    (hb : ¬ "\\begin".toList <:+: s) (he : ¬ "\\end".toList <:+: s)
    (h : t.translate s = .ok out ∨ t.translateFragment s = .ok out) :
    isNested out ∧ ∀ note, .comment note ∈ tokens out → ¬ "\\end".toList <:+: note := by
  obtain ⟨ts, hts, hnested, hcomments⟩ : ∃ ts, tokens out = ts ∧ isNested out ∧
      ∀ note, .comment note ∈ ts → note <:+: s := by
    rcases h with h | h
    · obtain ⟨ts, hr⟩ := (documentPassage_of_translate ht h).exists_reading ⟨hb, he⟩
      exact ⟨ts, (hr.isNested trivial).1, (hr.isNested trivial).2, fun _ => hr.comments⟩
    · obtain ⟨names, hp⟩ := passage_of_translateFragment ht h
      obtain ⟨ts, hr⟩ := hp.exists_reading ⟨hb, he⟩ (List.infix_refl s)
      exact ⟨ts, (hr.isNested rfl).1, (hr.isNested rfl).2, fun _ => hr.comments⟩
  refine ⟨hnested, fun note hn hend => he (hend.trans (hcomments note ?_))⟩
  rwa [← hts]

/-- An environment in the preamble with comments, one of which has a brace, and an escape in the
document. -/
theorem isNested_of_unmarked_comments :
    isNested ("\\begin\x7ba\x7d\x7bb\x7d\n %c \x7d\n \\begin\x7bd\x7de\\end\x7bd\x7d%f\n".toList ++
      "\\end\x7ba\x7d\n\\begin\x7bdocument\x7d\n\\%\n\\end\x7bdocument\x7d\n".toList) ∧
    ∀ note, .comment note ∈ tokens
        ("\\begin\x7ba\x7d\x7bb\x7d\n %c \x7d\n \\begin\x7bd\x7de\\end\x7bd\x7d%f\n".toList ++
          "\\end\x7ba\x7d\n\\begin\x7bdocument\x7d\n\\%\n\\end\x7bdocument\x7d\n".toList) →
      ¬ "\\end".toList <:+: note :=
  isNested_of_unmarked (.ofRegistry .empty) rfl
    (s := "\\a\x7bb\x7d: %c \x7d\n \\d: e%f\n===\n\\%\n".toList) (by decide +kernel)
    (by decide +kernel) (Or.inl (run_of_toOption (by decide +kernel)))

end Translator

end IndentTex
