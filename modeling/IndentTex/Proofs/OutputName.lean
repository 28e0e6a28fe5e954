import IndentTex.CommandLine.OutputName
import IndentTex.Proofs.Text

/-!
# Where the output goes

The default name of an output file is made in two steps. The first one takes the ending off the name
of the source file, which leaves its stem (`IsStem`). The second one replaces the ending of the stem
by the extension, and so loses what follows a point within the stem. The main result,
`CommandLine.defaultOutput_stem`, says which stems are kept, what becomes of the others, and which
source files get one and the same output.
-/

namespace IndentTex

variable {path part name : Text}

/-! ### Paths of one part -/

/-- A path without separators is a single part. -/
lemma pathParts_of_notMem (h : '/' ∉ path) : pathParts path = [path] := by
  induction path with
  | nil => rfl
  | cons c path ih =>
    rw [List.mem_cons, not_or] at h
    rw [pathParts, if_neg (Ne.symm h.1), ih h.2]

/-- The parts of a path have no separators. -/
lemma separator_notMem_of_mem_pathParts (h : part ∈ pathParts path) : '/' ∉ part := by
  induction path generalizing part with
  | nil =>
    obtain rfl : part = [] := by simpa [pathParts] using h
    exact List.not_mem_nil
  | cons c path ih =>
    rw [pathParts] at h
    split at h
    case isTrue =>
      rcases List.mem_cons.1 h with rfl | h
      · exact List.not_mem_nil
      · exact ih h
    case isFalse hc =>
      cases hp : pathParts path with
      | nil =>
        obtain rfl : part = [c] := by simpa [hp] using h
        simpa using Ne.symm hc
      | cons p ps =>
        rw [hp] at h ih
        rcases List.mem_cons.1 h with rfl | h
        · simpa [Ne.symm hc] using ih List.mem_cons_self
        · exact ih (List.mem_cons_of_mem p h)

/-- One or two points, which stand for a directory. -/
def IsPoints (name : Text) : Prop := name = ['.'] ∨ name = ['.', '.']

instance (name : Text) : Decidable (IsPoints name) := inferInstanceAs (Decidable (_ ∨ _))

/-- A file name is a part of a path that is not empty and does not stand for a directory. -/
lemma fileName?_eq_some (h : fileName? path = some name) :
    '/' ∉ name ∧ name ≠ [] ∧ ¬ IsPoints name := by
  unfold fileName? at h
  split at h
  case h_1 last hlast =>
    split at h
    case isTrue => cases h
    case isFalse hparent =>
      cases h
      obtain ⟨hmem, hidle⟩ := List.mem_filter.1 (List.mem_of_getLast? hlast)
      simp only [isIdlePart, Bool.not_eq_true', Bool.or_eq_false_iff,
        decide_eq_false_iff_not] at hidle
      refine ⟨separator_notMem_of_mem_pathParts hmem, ?_, ?_⟩
      · simpa using hidle.1
      · rintro (hpoint | hpoints)
        · exact hidle.2 hpoint
        · exact hparent hpoints
  case h_2 => cases h

/-- A path of one part is the name of a file, unless it stands for a directory. -/
lemma fileName?_of_notMem (h : '/' ∉ name) (hne : name ≠ []) :
    fileName? name = if IsPoints name then none else some name := by
  by_cases hpoint : name = ['.']
  · subst hpoint
    rfl
  · have hidle : isIdlePart name = false := by simp [isIdlePart, hne, hpoint]
    simp [fileName?, pathWay, pathParts_of_notMem h, hidle, IsPoints, hpoint]

namespace CommandLine

variable {source source' extension w v e : Text}

/-! ### Stems -/

/-- The stem of a file name: what stands before its last point, or all of a name that has no point
except perhaps as its first character. -/
inductive IsStem : Text → Text → Prop where
  | cut {w e : Text} : w ≠ [] → '.' ∉ e → IsStem (w ++ '.' :: e) w
  | whole {name : Text} : '.' ∉ name.tail → IsStem name name

/-- The stem ends before the last point. -/
lemma stem_cut (hw : w ≠ []) (he : '.' ∉ e) : stem (w ++ '.' :: e) = w := by
  have hrest : (w ++ '.' :: e).reverse.dropWhile (· != '.') = '.' :: w.reverse := by
    have hall := Text.all_ne_of_notMem (w := e.reverse) (by simpa using he)
    rw [List.reverse_append, List.reverse_cons, List.append_assoc]
    exact Text.dropWhile_run hall rfl
  obtain ⟨c, w, rfl⟩ := List.exists_cons_of_ne_nil hw
  simp only [stem, hrest, List.tail_cons, List.reverse_reverse]

/-- A name without a point, but for its first character, is its stem. -/
lemma stem_whole (h : '.' ∉ name.tail) : stem name = name := by
  have hrest : (name.reverse.dropWhile (· != '.')).tail = [] := by
    cases name with
    | nil => rfl
    | cons c t =>
      have hall := Text.all_ne_of_notMem (w := t.reverse) (by simpa using h)
      rw [List.reverse_cons, List.dropWhile_append_of_pos (by simpa using hall)]
      by_cases hc : c = '.' <;> simp [hc]
  simp only [stem, hrest, List.reverse_nil]

/-- Every name has one stem. -/
lemma isStem_iff : IsStem name w ↔ w = stem name := by
  constructor
  · rintro (⟨hw, he⟩ | h)
    · exact (stem_cut hw he).symm
    · exact (stem_whole h).symm
  · rintro rfl
    by_cases h : '.' ∈ name.tail
    · obtain ⟨c, t, rfl⟩ := List.exists_cons_of_ne_nil (l := name) (by rintro rfl; simp at h)
      -- the last point of the name is the first one from its end
      obtain ⟨e, u, ht, he⟩ := List.eq_append_cons_of_mem (List.mem_reverse.2 h)
      rw [List.tail_cons, List.reverse_eq_iff, List.reverse_append, List.reverse_cons] at ht
      have hname : c :: t = (c :: u.reverse) ++ '.' :: e.reverse := by simp [ht]
      rw [hname, stem_cut (List.cons_ne_nil _ _) (by simpa using he)]
      exact .cut (List.cons_ne_nil _ _) (by simpa using he)
    · rw [stem_whole h]
      exact .whole h

/-- The stem of a name is one. -/
lemma isStem_stem (name : Text) : IsStem name (stem name) := isStem_iff.2 rfl

/-- A name has one stem. -/
lemma IsStem.unique (hw : IsStem name w) (hv : IsStem name v) : w = v :=
  (isStem_iff.1 hw).trans (isStem_iff.1 hv).symm

/-- The stem is a beginning of the name. -/
lemma IsStem.isPrefix (h : IsStem name w) : w <+: name := by
  cases h with
  | cut => exact List.prefix_append _ _
  | whole => exact List.prefix_rfl

/-- The stem of a name is not empty. -/
lemma IsStem.ne_nil (h : IsStem name w) (hne : name ≠ []) : w ≠ [] := by
  cases h with
  | cut hw _ => exact hw
  | whole => exact hne

/-- The stems that stay as they are when their own ending is taken off, and that name a file. -/
def IsPlain (w : Text) : Prop := w ≠ ['.'] ∧ '.' ∉ w.tail

instance (w : Text) : Decidable (IsPlain w) := inferInstanceAs (Decidable (_ ∧ _))

/-- A plain name is not made of points. -/
lemma IsPlain.not_isPoints (h : IsPlain w) : ¬ IsPoints w := by
  rintro (rfl | rfl)
  · exact h.1 rfl
  · exact h.2 List.mem_cons_self

/-- A stem that names a file is plain if it is its own stem. -/
lemma isPlain_iff (hw : ¬ IsPoints w) (hv : IsStem w v) : IsPlain w ↔ v = w := by
  constructor
  · intro h
    exact hv.unique (.whole h.2)
  · intro hself
    refine ⟨fun hpoint => hw (Or.inl hpoint), ?_⟩
    cases hv with
    | cut => simp at hself
    | whole h => exact h

/-! ### Names of outputs -/

/-- A name that is made of points takes no extension. -/
lemma withExtension_isPoints (hw : IsPoints w) (extension : Text) :
    withExtension w extension = w := by
  rcases hw with rfl | rfl <;> rfl

/-- The extension of a name comes after its stem. -/
lemma withExtension_stem (hs : '/' ∉ w) (hne : w ≠ []) (hw : ¬ IsPoints w) (hv : IsStem w v)
    (he : extension ≠ []) : withExtension w extension = v ++ '.' :: extension := by
  have hempty : extension.isEmpty = false := by simpa using he
  rw [withExtension, fileName?_of_notMem hs hne, if_neg hw, isStem_iff.1 hv, hempty]
  rfl

/-- The output is named after the stem of the source. -/
lemma defaultOutput?_eq (hname : fileName? source = some name) (hw : IsStem name w)
    (hs : '/' ∉ extension) :
    defaultOutput? source extension = some (withExtension w extension) := by
  have hcontains : extension.contains '/' = false := by simpa using hs
  rw [defaultOutput?, hcontains, hname, isStem_iff.1 hw]
  rfl

/-- A stem that stands for a directory is the name of the output itself. -/
lemma defaultOutput?_of_isPoints (hname : fileName? source = some name) (hw : IsStem name w)
    (hs : '/' ∉ extension) (hp : IsPoints w) : defaultOutput? source extension = some w := by
  rw [defaultOutput?_eq hname hw hs, withExtension_isPoints hp]

/-- The ending of any other stem is replaced. -/
lemma defaultOutput?_of_isStem (hname : fileName? source = some name) (hw : IsStem name w)
    (he : extension ≠ []) (hs : '/' ∉ extension) (hp : ¬ IsPoints w) (hv : IsStem w v) :
    defaultOutput? source extension = some (v ++ '.' :: extension) := by
  obtain ⟨hsep, hne, -⟩ := fileName?_eq_some hname
  have hsep : '/' ∉ w := fun h => hsep (hw.isPrefix.subset h)
  rw [defaultOutput?_eq hname hw hs, withExtension_stem hsep (hw.ne_nil hne) hp hv he]

/-- A name with an extension does not stand for a directory. -/
lemma ne_of_isPoints (hw : IsPoints w) (hv : v ≠ []) (he : extension ≠ []) :
    w ≠ v ++ '.' :: extension := by
  rintro rfl
  have hlength : 3 ≤ (v ++ '.' :: extension).length := by
    have hv := List.length_pos_iff.2 hv
    have he := List.length_pos_iff.2 he
    rw [List.length_append, List.length_cons]
    omega
  rcases hw with h | h <;> rw [h] at hlength <;> simp at hlength

/-- Source files get the same output if they have the same stem, or stems that name files and have
the same stem in turn. -/
lemma defaultOutput?_eq_iff {name' w' : Text} (hname : fileName? source = some name)
    (hw : IsStem name w) (hname' : fileName? source' = some name') (hw' : IsStem name' w')
    (he : extension ≠ []) (hs : '/' ∉ extension) :
    defaultOutput? source extension = defaultOutput? source' extension ↔
      w = w' ∨ (¬ IsPoints w ∧ ¬ IsPoints w' ∧ ∃ v, IsStem w v ∧ IsStem w' v) := by
  have hne := hw.ne_nil (fileName?_eq_some hname).2.1
  have hne' := hw'.ne_nil (fileName?_eq_some hname').2.1
  have hv := isStem_stem w
  have hv' := isStem_stem w'
  by_cases hp : IsPoints w
  · rw [defaultOutput?_of_isPoints hname hw hs hp]
    by_cases hp' : IsPoints w'
    · rw [defaultOutput?_of_isPoints hname' hw' hs hp', Option.some.injEq]
      simp [hp]
    · rw [defaultOutput?_of_isStem hname' hw' he hs hp' hv', Option.some.injEq]
      refine iff_of_false (ne_of_isPoints hp (hv'.ne_nil hne') he) ?_
      rintro (rfl | ⟨h, -⟩)
      · exact hp' hp
      · exact h hp
  · rw [defaultOutput?_of_isStem hname hw he hs hp hv]
    by_cases hp' : IsPoints w'
    · rw [defaultOutput?_of_isPoints hname' hw' hs hp', Option.some.injEq]
      refine iff_of_false (ne_of_isPoints hp' (hv.ne_nil hne) he).symm ?_
      rintro (rfl | ⟨-, h, -⟩)
      · exact hp hp'
      · exact h hp'
    · rw [defaultOutput?_of_isStem hname' hw' he hs hp' hv', Option.some.injEq,
        List.append_left_inj]
      constructor
      · intro h
        exact Or.inr ⟨hp, hp', stem w, hv, h ▸ hv'⟩
      · rintro (rfl | ⟨-, -, v, hu, hu'⟩)
        · rfl
        · exact (hv.unique hu).trans (hu'.unique hv')

/-- The output for a source file is called by the stem of its name with the extension if and only if
the stem is plain. A stem of points is the name of the output itself, and any other stem gives its
own ending away for the extension. So two source files get the same output not only if they have the
same stem, but also if their stems differ only in their endings. -/
theorem defaultOutput_stem {source name extension w : Text} (hname : fileName? source = some name)
    (hw : IsStem name w) (he : extension ≠ []) (hs : '/' ∉ extension) :
    (defaultOutput? source extension = some (w ++ '.' :: extension) ↔ IsPlain w) ∧
    (IsPoints w → defaultOutput? source extension = some w) ∧
    (¬ IsPoints w → ∀ v, IsStem w v →
      defaultOutput? source extension = some (v ++ '.' :: extension)) ∧
    ∀ source' name' w', fileName? source' = some name' → IsStem name' w' →
      (defaultOutput? source extension = defaultOutput? source' extension ↔
        w = w' ∨ (¬ IsPoints w ∧ ¬ IsPoints w' ∧ ∃ v, IsStem w v ∧ IsStem w' v)) := by
  refine ⟨?_, defaultOutput?_of_isPoints hname hw hs,
    fun hp v hv => defaultOutput?_of_isStem hname hw he hs hp hv,
    fun _ _ _ hname' hw' => defaultOutput?_eq_iff hname hw hname' hw' he hs⟩
  by_cases hp : IsPoints w
  · have hne := hw.ne_nil (fileName?_eq_some hname).2.1
    rw [defaultOutput?_of_isPoints hname hw hs hp, Option.some.injEq]
    exact iff_of_false (ne_of_isPoints hp hne he) fun h => h.not_isPoints hp
  · have hv := isStem_stem w
    rw [defaultOutput?_of_isStem hname hw he hs hp hv, Option.some.injEq, List.append_left_inj]
    exact (isPlain_iff hp hv).symm

/-- The stem `a.b` loses its ending, and so does `a.c`. -/
theorem defaultOutput_stem_points :
    fileName? "in/a.b.hltex".toList = some "a.b.hltex".toList ∧
      IsStem "a.b.hltex".toList "a.b".toList ∧ ¬ IsPlain "a.b".toList ∧
      defaultOutput? "in/a.b.hltex".toList "tex".toList = some "a.tex".toList ∧
      defaultOutput? "in/a.b.hltex".toList "tex".toList =
        defaultOutput? "a.c.hltex".toList "tex".toList := by
  have hname : fileName? "in/a.b.hltex".toList = some "a.b.hltex".toList := by decide
  have hname' : fileName? "a.c.hltex".toList = some "a.c.hltex".toList := by decide
  have hw : IsStem "a.b.hltex".toList "a.b".toList := isStem_iff.2 (by decide)
  have hw' : IsStem "a.c.hltex".toList "a.c".toList := isStem_iff.2 (by decide)
  have hv : IsStem "a.b".toList "a".toList := isStem_iff.2 (by decide)
  have hv' : IsStem "a.c".toList "a".toList := isStem_iff.2 (by decide)
  have hext : "tex".toList ≠ [] := by decide
  obtain ⟨-, -, hout, heq⟩ := defaultOutput_stem hname hw hext (by decide)
  exact ⟨hname, hw, by decide, hout (by decide) _ hv,
    (heq _ _ _ hname' hw').2 (Or.inr ⟨by decide, by decide, _, hv, hv'⟩)⟩

/-- The output is not always called by the stem, and source files with different stems do not always
get different outputs. -/
theorem not_defaultOutput_stem :
    (¬ ∀ source name extension w : Text, fileName? source = some name → IsStem name w →
      extension ≠ [] → '/' ∉ extension →
      defaultOutput? source extension = some (w ++ '.' :: extension)) ∧
    ¬ ∀ source source' name name' extension w w' : Text, fileName? source = some name →
      IsStem name w → fileName? source' = some name' → IsStem name' w' → w ≠ w' →
      extension ≠ [] → '/' ∉ extension →
      defaultOutput? source extension ≠ defaultOutput? source' extension := by
  have hname : fileName? "a.b.hltex".toList = some "a.b.hltex".toList := by decide
  have hw : IsStem "a.b.hltex".toList "a.b".toList := isStem_iff.2 (by decide)
  have hname' : fileName? "a.c.hltex".toList = some "a.c.hltex".toList := by decide
  have hw' : IsStem "a.c.hltex".toList "a.c".toList := isStem_iff.2 (by decide)
  constructor
  · intro hall
    exact absurd (hall _ _ "tex".toList _ hname hw (by decide) (by decide)) (by decide)
  · intro hall
    exact hall _ _ _ _ "tex".toList _ _ hname hw hname' hw' (by decide) (by decide) (by decide)
      (by decide)

end CommandLine

end IndentTex
