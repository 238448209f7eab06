import CallTracer.Proofs.DeclarationLayout
import CallTracer.Proofs.FunctionList
import CallTracer.Proofs.HeaderLines
/-! The layout of the texts that a generation reads. Line ends of either kind, blanks around lines
and the extent of blanks between words make no difference to its artifacts and to what is logged,
and none to a failure but for the column that it names and the line that it quotes. -/
namespace CallTracer

namespace Text

/-- What a line can end with. -/
def lineEnds : List Text := [['\n'], ['\r', '\n']]

/-- Lines, without their line ends, that differ in layout only: in their runs of blanks and, unless
they are blank, in the blanks around them. -/
inductive Relined : Text → Text → Prop
  | respaced {l l' : Text} (h : Respaced l l') : Relined l l'
  | padded {before before' l l' behind behind' : Text} (hb : IsPadding before)
    (hb' : IsPadding before') (h : Respaced l l') (ne : trimStart l ≠ []) (he : IsPadding behind)
    (he' : IsPadding behind') : Relined (before ++ l ++ behind) (before' ++ l' ++ behind')

/-- Texts that differ in the layout of their lines only. -/
inductive Relaid : Text → Text → Prop
  | last {l l' : Text} (h : Relined l l') : Relaid l l'
  | line {l l' ending ending' s s' : Text} (h : Relined l l') (he : ending ∈ lineEnds)
    (he' : ending' ∈ lineEnds) (hs : Relaid s s') :
    Relaid (l ++ ending ++ s) (l' ++ ending' ++ s')

variable {l l' s t ending : Text}

theorem IsPadding.not_mem_newline (h : IsPadding s) : '\n' ∉ s := fun hm => (h _ hm).2 rfl

theorem trim_dropReturn (l : Text) : trim (dropReturn l) = trim l := by
  rcases dropReturn_append l with h | h
  · rw [h]
  · conv => rhs; rw [← h]
    rw [trim_append_blank _ (by decide)]

/-- A line end of either kind ends a line that is the same without the blanks around it. -/
theorem exists_lines_append (hl : '\n' ∉ l) (he : ending ∈ lineEnds) (s : Text) :
    ∃ r, lines (l ++ ending ++ s) = r :: lines s ∧ trim r = trim l := by
  rcases List.mem_pair.1 he with rfl | rfl
  · refine ⟨dropReturn l, ?_, trim_dropReturn l⟩
    rw [List.append_assoc]
    exact lines_append s hl
  · have hl' : '\n' ∉ l ++ ['\r'] := by simp [hl]
    refine ⟨dropReturn (l ++ ['\r']), ?_, ?_⟩
    · have := lines_append s hl'
      simpa using this
    · rw [trim_dropReturn, trim_append_blank _ (by decide)]

namespace Relined

theorem not_mem_newline (h : Relined l l') : '\n' ∉ l ∧ '\n' ∉ l' := by
  cases h with
  | respaced h => exact h.not_mem_newline
  | padded hb hb' h _ he he' =>
    simp only [List.mem_append, not_or]
    exact ⟨⟨⟨hb.not_mem_newline, h.not_mem_newline.1⟩, he.not_mem_newline⟩,
      ⟨⟨hb'.not_mem_newline, h.not_mem_newline.2⟩, he'.not_mem_newline⟩⟩

/-- Without the blanks around them only runs of blanks are different. -/
theorem respaced_trim (h : Relined l l') : Respaced (trim l) (trim l') := by
  cases h with
  | respaced h => exact h.trim
  | padded hb hb' h ne he he' =>
    have ne' := mt h.trimStart.eq_nil_iff.2 ne
    rw [trim_padding hb he ne, trim_padding hb' he' ne']
    exact h.trim

theorem eq_nil_iff (h : Relined l l') : l = [] ↔ l' = [] := by
  cases h with
  | respaced h => exact h.eq_nil_iff
  | @padded _ _ l l' _ _ _ _ h ne =>
    have hne : l ≠ [] := by
      rintro rfl
      exact ne rfl
    have hne' := mt h.eq_nil_iff.2 hne
    simp [hne, hne']

end Relined

/-- The lines of texts that differ in layout only are the same but for blanks. -/
theorem Relaid.forall₂_lines (h : Relaid s t) :
    List.Forall₂ (fun l l' => Respaced (trim l) (trim l')) (lines s) (lines t) := by
  induction h with
  | @last l l' h =>
    obtain ⟨hl, hl'⟩ := h.not_mem_newline
    by_cases hnil : l = []
    · rw [hnil, h.eq_nil_iff.1 hnil, lines_nil]
      exact .nil
    · rw [lines_of_not_mem hl hnil, lines_of_not_mem hl' (mt h.eq_nil_iff.2 hnil)]
      exact .cons h.respaced_trim .nil
  | @line l l' ending ending' s s' h he he' _ ih =>
    obtain ⟨hl, hl'⟩ := h.not_mem_newline
    obtain ⟨r, hlines, hr⟩ := exists_lines_append hl he s
    obtain ⟨r', hlines', hr'⟩ := exists_lines_append hl' he' s'
    rw [hlines, hlines']
    refine .cons ?_ ih
    rw [hr, hr']
    exact h.respaced_trim

end Text

namespace Selection

variable {line line' : Text} {lines lines' : List Text}

/-- A line of a function list is read by its words alone. -/
theorem readLine_congr (h : Text.words line = Text.words line') (number : Nat) :
    readLine number line = readLine number line' := by
  have hcomment : ∀ s, "//".toList.isPrefixOf (Text.trimStart s) =
      (Text.words s).head?.any ("//".toList.isPrefixOf ·) :=
    Text.isPrefixOf_trimStart (by decide) (List.all_eq_true.1 (by decide))
  unfold readLine
  rw [hcomment, hcomment, h]

theorem readLines_congr (h : List.Forall₂ (fun l l' => Text.words l = Text.words l') lines lines')
    (s : Selection) (number : Nat) : readLines s number lines = readLines s number lines' := by
  induction h generalizing s number with
  | nil => rfl
  | cons hline _ ih => simp only [readLines, readLine_congr hline, ih]

theorem read_of_relaid {list list' : Text} (h : Text.Relaid list list') :
    read list = read list' := by
  exact readLines_congr (h.forall₂_lines.imp fun _ _ hline => hline.words_eq_of_trim) empty 1

end Selection

/-- The failure without what the layout of a text can change of it. -/
def Failure.withoutLayout : Failure → Failure
  | stage s cause => stage s cause.withoutLayout
  | declarationOnLine line cause => declarationOnLine line cause.withoutLayout
  | declaration fault => declaration fault.withoutLayout
  | f => f

/-- Failures with the same chain of causes, whatever the layout of the texts. -/
def Failure.Same (f g : Failure) : Prop := f.withoutLayout = g.withoutLayout

namespace Report

variable {α β γ δ : Type} {R : α → β → Prop} {S : γ → δ → Prop} {x : Report α} {y : Report β}

/-- Computations with the same log whose values or failures correspond to each other. -/
structure Alike (R : α → β → Prop) (x : Report α) (y : Report β) : Prop where
  records : x.records = y.records
  outcome : Outcome.Alike Failure.Same R x.outcome y.outcome

theorem Alike.refl (x : Report α) : Alike Eq x x :=
  ⟨rfl, .refl (E := Failure.Same) (fun _ => rfl) x.outcome⟩

theorem Alike.bind {f : α → Report γ} {g : β → Report δ} (h : Alike R x y)
    (hf : ∀ a b, R a b → Alike S (f a) (g b)) : Alike S (x >>= f) (y >>= g) := by
  obtain ⟨records, outcome⟩ := x
  obtain ⟨records', outcome'⟩ := y
  obtain ⟨rfl : records = records', houtcome⟩ := h
  cases houtcome with
  | error he => exact ⟨rfl, .error he⟩
  | ok hab =>
    have hnext := hf _ _ hab
    exact ⟨congrArg (records ++ ·) hnext.records, hnext.outcome⟩

theorem Alike.wrap (h : Alike R x y) {f : Failure → Failure}
    (hf : ∀ e e', Failure.Same e e' → Failure.Same (f e) (f e')) :
    Alike R (x.wrap f) (y.wrap f) := ⟨h.records, h.outcome.mapError hf⟩

theorem alike_foldlM {A B : Type} {Q : A → B → Prop} {f : β → A → Report β} {g : β → B → Report β}
    (hf : ∀ b a a', Q a a' → Alike Eq (f b a) (g b a')) {as : List A} {bs : List B}
    (h : List.Forall₂ Q as bs) (b : β) : Alike Eq (as.foldlM f b) (bs.foldlM g b) := by
  induction h generalizing b with
  | nil => exact .refl _
  | cons hab _ ih =>
    rw [List.foldlM_cons, List.foldlM_cons]
    refine (hf b _ _ hab).bind ?_
    rintro next _ rfl
    exact ih next

end Report

namespace Header

variable {marker : Text} {selection : Selection} {d d' : Nat × Text}

/-- Declarations on lines of the same number that differ in their blanks only. -/
def Respaced (d d' : Nat × Text) : Prop := d.1 = d'.1 ∧ Text.Respaced d.2 d'.2

theorem forall₂_respaced_declarations {header header' : Text} (h : Text.Relaid header header')
    (marker : Text) :
    List.Forall₂ Respaced (declarations marker header) (declarations marker header') := by
  rw [declarations_eq, declarations_eq]
  refine forall₂_numbered (h.forall₂_lines.imp fun l l' hline => ?_) 1
  rw [declared?, declared?, hline.words_eq_of_trim]
  split
  · exact .some fun _ => ⟨rfl, hline⟩
  · exact .none

theorem alike_located {α β : Type} {R : α → β → Prop} {x : Except Declaration.Fault α}
    {y : Except Declaration.Fault β} (h : Outcome.Alike Declaration.Fault.Same R x y)
    (number : Nat) : Report.Alike R (located number x) (located number y) := by
  refine ⟨rfl, h.mapError fun e e' hsame => ?_⟩
  exact congrArg (fun fault => Failure.declarationOnLine number (.declaration fault)) hsame

theorem alike_addDeclaration (h : Respaced d d') (found : Registry Signature) :
    Report.Alike Eq (addDeclaration marker selection found d)
      (addDeclaration marker selection found d') := by
  obtain ⟨hnumber, htext⟩ := h
  unfold addDeclaration
  rw [hnumber]
  refine (alike_located (Declaration.alike_readHead htext marker) d'.1).bind ?_
  intro head head' hhead
  rw [hhead.name]
  split
  · refine (alike_located (Declaration.alike_finish hhead) d'.1).bind ?_
    rintro s _ rfl
    exact .refl _
  · exact .refl _

theorem alike_signatures {header header' : Text} (h : Text.Relaid header header')
    (marker : Text) (selection : Selection) :
    Report.Alike Eq (signatures header marker selection)
      (signatures header' marker selection) := by
  have hds := forall₂_respaced_declarations h marker
  simp only [signatures, hds.length_eq]
  have hfold := Report.alike_foldlM (Q := Respaced) (f := addDeclaration marker selection)
    (fun found _ _ hd => alike_addDeclaration hd found) hds Registry.empty
  refine hfold.bind ?_
  rintro found _ rfl
  exact .refl _

end Header

namespace Artifacts

variable {list list' header header' : Text}

theorem alike_generate (hl : Text.Relaid list list') (hh : Text.Relaid header header')
    (options : Options) :
    Report.Alike Eq (generate list header options) (generate list' header' options) := by
  rw [generate_eq, generate_eq, Selection.read_of_relaid hl]
  refine (Report.Alike.refl _).bind ?_
  rintro selection _ rfl
  refine ((Header.alike_signatures hh options.marker selection).wrap fun e e' hsame => ?_).bind ?_
  · exact congrArg (Failure.stage .input) hsame
  · rintro signatures _ rfl
    exact .refl _

/-- Layout does not matter: texts that differ in nothing else lead to the same artifacts and the
same log, or to failures of the same kind on the same line. -/
theorem generate_of_relaid (hl : Text.Relaid list list') (hh : Text.Relaid header header')
    (options : Options) :
    (∀ a, (generate list header options).outcome = .ok a ↔
      (generate list' header' options).outcome = .ok a) ∧
    (∀ f, (generate list header options).outcome = .error f →
      ∃ g, (generate list' header' options).outcome = .error g ∧
        g.withoutLayout = f.withoutLayout) ∧
    (generate list header options).records = (generate list' header' options).records := by
  obtain ⟨hrecords, houtcome⟩ := alike_generate hl hh options
  generalize (generate list header options).outcome = x,
    (generate list' header' options).outcome = y at houtcome ⊢
  cases houtcome with
  | ok h =>
    subst h
    exact ⟨fun a => Iff.rfl, nofun, hrecords⟩
  | @error f g h =>
    refine ⟨fun a => iff_of_false nofun nofun, ?_, hrecords⟩
    intro f' hf'
    cases hf'
    exact ⟨g, rfl, h.symm⟩

/-- The same failure on the same line, in a column that is another one. -/
theorem generate_of_relaid_unexpected_character :
    let list := "glClear\n".toList
    let list' := "  glClear\r\n".toList
    let header := "GLAPI void glClear (GLbitfield mask[2]);\n".toList
    let header' := "\tGLAPI   void glClear (GLbitfield mask[2]);\r\n".toList
    let failure := fun column => Failure.stage .input
      (.declarationOnLine 1 (.declaration (.badCharacter ⟨'[', column⟩)))
    (generate list header .standard).outcome = .error (failure 36) ∧
      (generate list' header' .standard).outcome = .error (failure 38) ∧
      (∀ a, (generate list header .standard).outcome = .ok a ↔
        (generate list' header' .standard).outcome = .ok a) ∧
      (∀ f, (generate list header .standard).outcome = .error f →
        ∃ g, (generate list' header' .standard).outcome = .error g ∧
          g.withoutLayout = f.withoutLayout) ∧
      (generate list header .standard).records = (generate list' header' .standard).records := by
  intro list list' header header' failure
  have hend : Text.Relaid [] [] := .last (.respaced .nil)
  have hl : Text.Relaid ([] ++ "glClear".toList ++ [] ++ ['\n'] ++ [])
      ("  ".toList ++ "glClear".toList ++ [] ++ ['\r', '\n'] ++ []) :=
    .line (.padded (by decide) (by decide) (.refl (by decide)) (by decide) (by decide) (by decide))
      (by decide) (by decide) hend
  have hwords : Text.Respaced
      ("GLAPI".toList ++ ([' '] ++ "void glClear (GLbitfield mask[2]);".toList))
      ("GLAPI".toList ++ ("   ".toList ++ "void glClear (GLbitfield mask[2]);".toList)) :=
    .append (.refl (by decide)) (.run (by decide) (by decide) (by decide) (by decide)
      (.refl (by decide)))
  have hh : Text.Relaid ([] ++ _ ++ [] ++ ['\n'] ++ []) (['\t'] ++ _ ++ [] ++ ['\r', '\n'] ++ []) :=
    .line (.padded (by decide) (by decide) hwords (by decide) (by decide) (by decide))
      (by decide) (by decide) hend
  exact ⟨by decide +kernel, by decide +kernel, generate_of_relaid hl hh .standard⟩

end Artifacts
end CallTracer
