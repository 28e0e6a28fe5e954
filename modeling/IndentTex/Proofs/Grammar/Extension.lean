import IndentTex.Proofs.Grammar

/-!
# More lines after a text

What is read from a text is read in the same way when the text goes on with further lines, as long as
these do not start with an indentation. The end of the text and the end of its last line are the same
to every rule: no rule looks further than that, except the end of a block. A block below level 0 ends
before the further lines, since they start at level 0.
-/

namespace IndentTex

variable {σ : Type} {x : Text}

/-- The configuration with more text to read. -/
def Config.extend (k : Config σ) (x : Text) : Config σ := { k with rest := k.rest ++ x }

namespace Text

/-- A newline and lines that do not start with an indentation. -/
inductive Further : Text → Prop where
  | blank {t : Text} : t.blankLines = t → Further ('\n' :: t)
  | lines {blank r : Text} : (blank ++ r).blankLines = blank → r ≠ [] →
    r.starts isHorizontal = false → Further ('\n' :: (blank ++ r))

/-- Further lines come after a newline. -/
lemma Further.exists_cons (hx : Further x) : ∃ t, x = '\n' :: t := by
  cases hx <;> exact ⟨_, rfl⟩

/-- An unindented text behind a newline makes further lines. -/
lemma Further.of_isUnindented {t : Text} (ht : t.isUnindented) : Further ('\n' :: t) := by
  rcases isUnindented_cases ht with hb | ⟨blank, r, rfl, hb, hne, hr⟩
  · exact .blank hb
  · exact .lines hb hne hr

/-- Further lines do not go on with a run that newlines are not part of. -/
lemma Further.starts_append (hx : Further x) {p : Char → Bool} (hp : p '\n' = false) {t : Text}
    (ht : t.starts p = false) : (t ++ x).starts p = false := by
  obtain ⟨y, rfl⟩ := hx.exists_cons
  cases t with
  | nil => exact hp
  | cons c t => exact ht

/-- Further lines come at the end of a line. -/
lemma Further.atLineEnd_append (hx : Further x) {t : Text} (ht : t.atLineEnd) :
    (t ++ x).atLineEnd := by
  obtain ⟨y, rfl⟩ := hx.exists_cons
  cases t with
  | nil => rfl
  | cons c t => exact ht

/-- The blank lines and the indentation before a line that is not blank stay the same. -/
lemma blankLines_extend {blank r : Text} (hb : (blank ++ r).blankLines = blank) (hr : r ≠ [])
    (x : Text) : (blank ++ (r ++ x)).blankLines = blank ∧
      (r ++ x).takeWhile isHorizontal = r.takeWhile isHorizontal := by
  obtain ⟨hblank, w, c, r, hw, hc, hn, rfl⟩ := exists_text_of_blankLines hb hr
  constructor
  · rw [List.append_assoc, List.cons_append]
    exact hblank.blankLines_text hw hc hn _
  · have hs : ∀ t : Text, starts isHorizontal (c :: t) = false := fun _ => hc
    rw [List.append_assoc, List.cons_append, takeWhile_run hw (hs _), takeWhile_run hw (hs _)]

end Text

/-- A level whose rules do not notice further lines. -/
structure Grammar.Extends (G : Grammar σ) (x : Text) : Prop where
  group {close : Char} {t out r : Text} : G.group close t out r →
    G.group close (t ++ x) out (r ++ x)
  brackets {t r : Text} {out : Option Text} : G.brackets t out r →
    G.brackets (t ++ x) out (r ++ x)
  line {level : Nat} {stop : Bool} {k k' : Config σ} {out : Text} :
    G.line level stop k out k' → G.line level stop (k.extend x) out (k'.extend x)

namespace Grammar

variable {S : Setup σ} {G : Grammar σ} {t r : Text}

/-- Further lines do not change a name. -/
lemma ControlName.extend {name : Text} (hx : Text.Further x) (hn : ControlName t name r) :
    ControlName (t ++ x) name (r ++ x) := by
  cases hn with
  | word hne ha hr =>
    rw [List.append_assoc]
    exact .word hne ha (hx.starts_append (by decide) hr)
  | symbol hc => exact .symbol hc

/-- Further lines do not change an optional argument. -/
lemma Optional.extend (hx : Text.Further x) (hG : G.Extends x) {raw : Bool} {value : Option Text}
    (hv : Optional G raw t value r) : Optional G raw (t ++ x) value (r ++ x) := by
  cases hv with
  | absent hb hr =>
    rw [List.append_assoc]
    exact .absent hb (hx.starts_append (by decide) hr)
  | raw hb hv =>
    have hv' := Scan.rawText?_append hv x
    simp only [List.append_assoc, List.cons_append] at hv' ⊢
    exact .raw hb hv'
  | rawOpen hb hv =>
    obtain ⟨y, rfl⟩ := hx.exists_cons
    rw [List.append_assoc, List.cons_append]
    exact .rawOpen hb (Scan.rawText?_none (by decide) hv y)
  | brackets hb hv =>
    rw [List.append_assoc, List.cons_append]
    exact .brackets hb (hG.brackets hv)
  | bracketsOpen hb hv =>
    rw [List.append_assoc, List.cons_append]
    exact .bracketsOpen hb (hG.brackets hv)

/-- Further lines do not change a required argument. -/
lemma Required.extend (hG : G.Extends x) {raw : Bool} {value : Text}
    (hv : Required G raw t value r) : Required G raw (t ++ x) value (r ++ x) := by
  cases hv with
  | raw hb hv =>
    have hv' := Scan.rawText?_append hv x
    simp only [List.append_assoc, List.cons_append] at hv' ⊢
    exact .raw hb hv'
  | group hb hg =>
    rw [List.append_assoc, List.cons_append]
    exact .group hb (hG.group hg)

/-- Further lines do not change arguments. -/
lemma Arguments.extend (hx : Text.Further x) (hG : G.Extends x) {params : Params}
    {values : List (Option Text)} (hv : Arguments G params t values r) :
    Arguments G params (t ++ x) values (r ++ x) := by
  induction hv with
  | nil => exact .nil
  | optional ho hv _ ih => exact .optional ho (hv.extend hx hG) ih
  | required ho hv _ ih => exact .required ho (hv.extend hG) ih

/-- Further lines do not change a control sequence in an argument. -/
lemma ArgumentControl.extend {registry : Registry} (hx : Text.Further x) (hG : G.Extends x)
    {out : Text} (hc : ArgumentControl registry G t out r) :
    ArgumentControl registry G (t ++ x) out (r ++ x) := by
  cases hc with
  | native hn hf => exact .native (hn.extend hx) hf
  | command hn hf hv hg => exact .command (hn.extend hx) hf (hv.extend hx hG) hg

/-- Further lines do not change a group. -/
lemma Group.extend {registry : Registry} {close : Char} (hx : Text.Further x) (hG : G.Extends x)
    {out : Text} (hg : Group registry G close t out r) :
    Group registry G close (t ++ x) out (r ++ x) := by
  induction hg with
  | close => exact .close
  | char hc _ ih => exact .char hc ih
  | group hne hb _ ih => exact .group hne (hG.group hb) ih
  | control hne hc _ ih => exact .control hne (hc.extend hx hG) ih
  | comment hne hn hr _ ih =>
    rw [List.cons_append, List.append_assoc]
    exact .comment hne hn (hx.atLineEnd_append hr) ih

/-- Further lines do not change brackets, which must close on their line. -/
lemma Brackets.extend {registry : Registry} (hx : Text.Further x) (hG : G.Extends x)
    {out : Option Text} (hb : Brackets registry G t out r) :
    Brackets registry G (t ++ x) out (r ++ x) := by
  induction hb with
  | @stop t hs =>
    refine .stop ?_
    cases t with
    | nil =>
      obtain ⟨y, rfl⟩ := hx.exists_cons
      rfl
    | cons c t => exact hs
  | close => exact .close
  | char hc _ ih => exact .char hc ih
  | group hg _ ih => exact .group (hG.group hg) ih
  | brackets hg _ ih => exact .brackets (hG.group hg) ih
  | control hc _ ih => exact .control (hc.extend hx hG) ih

/-- Further lines do not change copied arguments. -/
lemma ArgumentText.extend (hx : Text.Further x) (hG : G.Extends x) {out : Text}
    (ha : ArgumentText G t out r) : ArgumentText G (t ++ x) out (r ++ x) := by
  induction ha with
  | stop hb hr =>
    rw [List.append_assoc]
    exact .stop hb (hx.starts_append (by decide) hr)
  | bracketsOpen hb hg =>
    rw [List.append_assoc, List.cons_append]
    exact .bracketsOpen hb (hG.brackets hg)
  | group hb hg _ ih =>
    rw [List.append_assoc, List.cons_append]
    exact .group hb (hG.group hg) ih
  | brackets hb hg _ ih =>
    rw [List.append_assoc, List.cons_append]
    exact .brackets hb (hG.brackets hg) ih

/-! ### Lines and blocks -/

/-- Whether a block at a level ends before further lines. -/
def EndsBefore (level : Nat) (x : Text) : Prop :=
  0 < level ∨ ∃ t : Text, x = '\n' :: t ∧ t.blankLines = t

variable {level : Nat} {k k' : Config σ} {out : Text}

/-- Further lines at a lower level end a block where it has ended before. -/
lemma NextLine.extend (hx : Text.Further x) (hl : EndsBefore level x) {o : Option Text}
    (hn : NextLine level k o k') : NextLine level (k.extend x) o (k'.extend x) := by
  cases hn with
  | @finished i h =>
    -- The block ended with the text. Now it ends at the newline, before blank lines or at level 0.
    rcases hl with hl | ⟨t, rfl, hb⟩
    · cases hx with
      | blank hb => exact .trailing hb
      | lines hb hne hr =>
        have htake := Text.takeWhile_of_starts hr
        exact .lower hb hne (by rw [htake]; rfl) hl
    · exact .trailing hb
  | @trailing t i h ht =>
    have happend := Text.blankLines_append_newline ht
    rcases hl with hl | ⟨y, rfl, hb⟩
    · cases hx with
      | @blank y hb => exact .trailing ((happend y).trans (by rw [hb]; rfl))
      | @lines blank r hb hne hr =>
        have htake := Text.takeWhile_of_starts hr
        have hblank := happend (blank ++ r)
        rw [hb] at hblank
        have hlower : NextLine level ⟨'\n' :: ((t ++ '\n' :: blank) ++ r), i, h⟩ none
            ⟨'\n' :: ((t ++ '\n' :: blank) ++ r), i, h⟩ :=
          .lower (by simpa using hblank) hne (by rw [htake]; rfl) hl
        simpa [Config.extend] using hlower
    · exact .trailing ((happend y).trans (by rw [hb]; rfl))
  | lower hb hne hi hlt =>
    obtain ⟨hb', htake⟩ := Text.blankLines_extend hb hne x
    simp only [Config.extend, List.cons_append, List.append_assoc]
    exact .lower hb' (by simp [hne]) (htake ▸ hi) hlt
  | same hb hne hi =>
    obtain ⟨hb', htake⟩ := Text.blankLines_extend hb hne x
    simp only [Config.extend, List.cons_append, List.append_assoc]
    exact .same hb' (by simp [hne]) (htake ▸ hi)

/-- The next line of a block stays the same, whatever its level. -/
lemma NextLine.extend_some {blank : Text} (x : Text) (hn : NextLine level k (some blank) k') :
    NextLine level (k.extend x) (some blank) (k'.extend x) := by
  cases hn with
  | same hb hne hi =>
    obtain ⟨hb', htake⟩ := Text.blankLines_extend hb hne x
    simp only [Config.extend, List.cons_append, List.append_assoc]
    exact .same hb' (by simp [hne]) (htake ▸ hi)

/-- Further lines at a lower level do not change a block. -/
lemma Block.extend {line : Config σ → Text → Config σ → Prop} (hx : Text.Further x)
    (hl : EndsBefore level x)
    (hline : ∀ {k out k'}, line k out k' → line (k.extend x) out (k'.extend x))
    (hb : Block line level k out k') : Block line level (k.extend x) out (k'.extend x) := by
  induction hb with
  | last h hn => exact .last (hline h) (hn.extend hx hl)
  | more h hn _ ih => exact .more (hline h) (hn.extend hx hl) ih

/-- Further lines do not change where a block starts. -/
lemma Enter.extend {blank : Text} (x : Text) (he : Enter level k blank k') :
    Enter level (k.extend x) blank (k'.extend x) := by
  cases he with
  | mk hb hne hi =>
    obtain ⟨hb', htake⟩ := Text.blankLines_extend hb hne x
    simp only [Config.extend, List.append_assoc]
    exact .mk hb' (by simp [hne]) (htake ▸ hi)

/-- Further lines do not change a literal line. -/
lemma RawLine.extend (hx : Text.Further x) (hl : RawLine k out k') :
    RawLine (k.extend x) out (k'.extend x) := by
  cases hl with
  | mk hn hr =>
    simp only [Config.extend, List.append_assoc]
    exact .mk hn (hx.atLineEnd_append hr)

/-- Further lines do not change a body. -/
lemma EnvironmentBody.extend (hx : Text.Further x) (hG : G.Extends x) {body : Scan.Body}
    (hb : EnvironmentBody G level k body k') :
    EnvironmentBody G level (k.extend x) body (k'.extend x) := by
  cases hb with
  | oneLine hb hc hn hp hl =>
    simp only [Config.extend, List.append_assoc, List.cons_append]
    exact .oneLine hb hc hn hp (hG.line hl)
  | block hb he hl =>
    simp only [Config.extend, List.append_assoc, List.cons_append]
    exact .block hb (he.extend x) (hl.extend hx (Or.inl (Nat.succ_pos _)) hG.line)
  | comment hb hn hr he hl =>
    have hc := EnvironmentBody.comment hb hn (hx.atLineEnd_append hr) (he.extend x)
      (hl.extend hx (Or.inl (Nat.succ_pos _)) hG.line)
    simpa only [Config.extend, List.append_assoc, List.cons_append] using hc

/-- Further lines do not change a literal body. -/
lemma RawBody.extend (hx : Text.Further x) {body : Scan.Body} (hb : RawBody level k body k') :
    RawBody level (k.extend x) body (k'.extend x) := by
  cases hb with
  | oneLine hb hc hn hl =>
    simp only [Config.extend, List.append_assoc, List.cons_append]
    exact .oneLine hb hc hn (hl.extend hx)
  | block hb he hl =>
    simp only [Config.extend, List.append_assoc, List.cons_append]
    exact .block hb (he.extend x) (hl.extend hx (Or.inl (Nat.succ_pos _)) (·.extend hx))

/-- Further lines do not change the body of a registered environment. -/
lemma CustomBody.extend (hx : Text.Further x) (hG : G.Extends x) {raw : Bool} {body : Scan.Body}
    (hb : CustomBody G level raw k body k') :
    CustomBody G level raw (k.extend x) body (k'.extend x) := by
  cases hb with
  | raw hb => exact .raw (hb.extend hx)
  | interpreted hb => exact .interpreted (hb.extend hx hG)

/-- Further lines do not change a control sequence. -/
lemma Control.extend (hx : Text.Further x) (hG : G.Extends x) (hc : Control S G level k out k') :
    Control S G level (k.extend x) out (k'.extend x) := by
  cases hc with
  | command hn hd hv hg => exact .command (hn.extend hx) hd (hv.extend hx hG) hg
  | environment hn hd hv hb hbody hrun =>
    have hv' := hv.extend hx hG
    rw [List.append_assoc, List.cons_append] at hv'
    exact .environment (hn.extend hx) hd hv' hb (hbody.extend hx hG) hrun
  | symbol hn hd ha => exact .symbol (hn.extend hx) hd ha
  | plain hn hd ha hargs hb hr =>
    have hargs' := hargs.extend hx hG
    rw [List.append_assoc] at hargs'
    simp only [Config.extend, List.append_assoc]
    exact .plain (hn.extend hx) hd ha hargs' hb (hx.starts_append (by decide) hr)
  | native hn hd ha hargs hb hbody =>
    have hargs' := hargs.extend hx hG
    rw [List.append_assoc, List.cons_append] at hargs'
    exact .native (hn.extend hx) hd ha hargs' hb (hbody.extend hx hG)

/-- Further lines do not change a line. -/
lemma Line.extend (hx : Text.Further x) (hG : G.Extends x) {stop : Bool}
    (hl : Line S G level stop k out k') :
    Line S G level stop (k.extend x) out (k'.extend x) := by
  induction hl with
  | @done k hd =>
    refine .done ?_
    obtain ⟨t, i, h⟩ := k
    cases t with
    | nil =>
      obtain ⟨y, rfl⟩ := hx.exists_cons
      rfl
    | cons c t => exact hd
  | char hc _ ih => exact .char hc ih
  | comment hs hn hr _ ih =>
    simp only [Config.extend, List.cons_append, List.append_assoc] at ih ⊢
    exact .comment hs hn (hx.atLineEnd_append hr) ih
  | control hc _ ih => exact .control (hc.extend hx hG) ih
  | group hg _ ih => exact .group (hG.group hg) ih

/-- A level above one that does not notice further lines does not notice them. -/
lemma Extends.above (hx : Text.Further x) (hG : G.Extends x) : (above S G).Extends x where
  group hg := hg.extend hx hG
  brackets := by
    rintro t r out ⟨r', hb, rfl⟩
    refine ⟨r' ++ x, hb.extend hx hG, ?_⟩
    split <;> rfl
  line hl := hl.extend hx hG

/-- No level notices further lines. -/
theorem ofRoom_extends (S : Setup σ) (hx : Text.Further x) (n : Nat) : (ofRoom S n).Extends x := by
  induction n with
  | zero => exact { group := nofun, brackets := nofun, line := nofun }
  | succ n ih => exact ih.above hx

end Grammar

end IndentTex
