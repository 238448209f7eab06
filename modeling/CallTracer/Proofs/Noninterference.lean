import CallTracer.Proofs.FunctionList
import CallTracer.Proofs.HeaderLines
/-! What a generation does not look at: lines of the header that are no declarations, and what
stands behind the first parenthesis of declarations whose names are not selected. No outcome depends
on them, not even a failure with its line number, and nothing that is logged does. -/
namespace CallTracer
open Outcome

namespace Declaration

variable {opening rest marker : Text} {head : Head}

/-- What stands behind the first parenthesis has no part in the head. -/
theorem readHead_replace (hopen : '(' ∉ opening)
    (h : readHead (opening ++ '(' :: rest) marker = .ok head) (rest' : Text) :
    readHead (opening ++ '(' :: rest') marker = .ok { head with rest := rest' } := by
  obtain ⟨hsource, hhead, ts, hts, hof⟩ := readHead_eq_ok_iff.1 h
  have hopening : opening = head.opening := by
    rw [← (Text.takeWhile_append_of_not_mem rest hopen).1, hsource,
      (Text.takeWhile_append_of_not_mem head.rest hhead).1]
  refine readHead_eq_ok_iff.2 ⟨by rw [hopening], hhead, ts, hts, ?_⟩
  exact headOfTokens_eq_ok_iff.2 (headOfTokens_eq_ok_iff.1 hof)

end Declaration

namespace Text

/-- Of a text with a parenthesis the blanks before it and those behind it are trimmed apart. -/
theorem trim_cut (opening rest : Text) :
    trim (opening ++ '(' :: rest) = trimStart opening ++ '(' :: trimEnd rest := by
  have hopen : trimEnd ['('] = ['('] := by decide
  have hrest : trimEnd ('(' :: rest) = '(' :: trimEnd rest := by
    rw [← List.singleton_append, trimEnd_append, hopen]
    split
    · rename_i hblank
      rw [hblank]
    · rfl
  rw [trim, trimStart_cut, trimEnd_append, hrest, if_neg (List.cons_ne_nil _ _)]

/-- Whether a text begins with a given word is seen before the first parenthesis, if none is in the
word. -/
theorem head?_words_cut {word : Text} (hword : '(' ∉ word) (opening rest rest' : Text)
    (h : (words (opening ++ '(' :: rest)).head? = some word) :
    (words (opening ++ '(' :: rest')).head? = some word := by
  have hopen : isBlank '(' = false := by decide
  have hcons : ∀ r, trimStart opening ++ '(' :: r ≠ [] := by simp
  rw [head?_words, trimStart_cut, if_neg (hcons _), List.takeWhile_append] at h ⊢
  split at h
  · rw [Option.some.injEq] at h
    refine absurd ?_ hword
    rw [← h]
    simp [hopen]
  · rename_i hlength
    rw [if_neg hlength]
    exact h

end Text

namespace Header

variable {marker line line' : Text} {selection : Selection} {found : Registry Signature}

/-- Two lines of a header that make no difference: the same line twice, two lines that do not begin
with the marker, or two declarations that differ only behind the parenthesis and declare a name that
is not selected. -/
inductive Indistinguishable (marker : Text) (selection : Selection) : Text → Text → Prop
  | same (line : Text) : Indistinguishable marker selection line line
  | ignored {line line' : Text} (h : (Text.words line).head? ≠ some marker)
    (h' : (Text.words line').head? ≠ some marker) : Indistinguishable marker selection line line'
  | notSelected {opening : Text} {head : Declaration.Head} (rest rest' : Text)
    (isOpening : '(' ∉ opening)
    (isHead : Declaration.readHead (Text.trim (opening ++ '(' :: rest)) marker = .ok head)
    (isNotSelected : head.name ∉ selection.names) :
    Indistinguishable marker selection (opening ++ '(' :: rest) (opening ++ '(' :: rest')

/-- Two declarations that any scan goes past in the same way. -/
def SameStep (marker : Text) (selection : Selection) (d d' : Nat × Text) : Prop :=
  ∀ found, addDeclaration marker selection found d = addDeclaration marker selection found d'

theorem SameStep.of_not_selected {d d' : Nat × Text} {head head' : Declaration.Head}
    (h : Declaration.readHead d.2 marker = .ok head)
    (h' : Declaration.readHead d'.2 marker = .ok head') (hname : head.name ∉ selection.names)
    (hname' : head'.name ∉ selection.names) : SameStep marker selection d d' := by
  intro found
  rw [addDeclaration_of_not_selected h hname, addDeclaration_of_not_selected h' hname']

/-- Indistinguishable lines both declare nothing, or both something that is the same to a scan. -/
theorem Indistinguishable.declared? (h : Indistinguishable marker selection line line') :
    Option.Rel (fun d d' => ∀ number, SameStep marker selection (number, d) (number, d'))
      (declared? marker line) (declared? marker line') := by
  cases h with
  | same =>
    cases Header.declared? marker line with
    | none => exact .none
    | some d => exact .some fun _ _ => rfl
  | ignored h h' =>
    rw [Header.declared?, Header.declared?, if_neg h, if_neg h']
    exact .none
  | @notSelected opening head rest rest' isOpening isHead isNotSelected =>
    -- The marker is an identifier and so has no parenthesis: behind the first one no first word
    -- becomes or ceases to be the marker.
    have hmarker : '(' ∉ marker :=
      Identifier.not_mem_of_isValid (Declaration.isValid_of_readHead isHead) rfl
    have htrimmed : '(' ∉ Text.trimStart opening := fun hm =>
      isOpening ((List.dropWhile_sublist _).mem hm)
    by_cases hfirst : (Text.words (opening ++ '(' :: rest)).head? = some marker
    · have hfirst' := Text.head?_words_cut hmarker opening rest rest' hfirst
      rw [Header.declared?, Header.declared?, if_pos hfirst, if_pos hfirst']
      have isHead' := isHead
      rw [Text.trim_cut] at isHead'
      have hreplaced := Declaration.readHead_replace htrimmed isHead' (Text.trimEnd rest')
      rw [← Text.trim_cut] at hreplaced
      exact .some fun _ => SameStep.of_not_selected isHead hreplaced isNotSelected isNotSelected
    · have hfirst' : (Text.words (opening ++ '(' :: rest')).head? ≠ some marker := fun h =>
        hfirst (Text.head?_words_cut hmarker opening rest' rest h)
      rw [Header.declared?, Header.declared?, if_neg hfirst, if_neg hfirst']
      exact .none

theorem forall₂_declarations {header header' : Text}
    (h : List.Forall₂ (Indistinguishable marker selection) (Text.split '\n' header)
      (Text.split '\n' header')) :
    List.Forall₂ (SameStep marker selection) (declarations marker header)
      (declarations marker header') := by
  rw [declarations_eq_split, declarations_eq_split]
  exact forall₂_numbered (h.imp fun _ _ hline => hline.declared?) 1

theorem foldlM_congr {ds ds' : List (Nat × Text)}
    (h : List.Forall₂ (SameStep marker selection) ds ds') :
    ds.foldlM (addDeclaration marker selection) found =
      ds'.foldlM (addDeclaration marker selection) found := by
  induction h generalizing found with
  | nil => rfl
  | cons hd _ ih =>
    rw [List.foldlM_cons, List.foldlM_cons, hd found]
    exact bind_congr fun _ => ih

theorem signatures_congr {header header' : Text}
    (h : List.Forall₂ (Indistinguishable marker selection) (Text.split '\n' header)
      (Text.split '\n' header')) :
    signatures header marker selection = signatures header' marker selection := by
  have hds := forall₂_declarations h
  simp only [signatures, foldlM_congr hds, hds.length_eq]

end Header

/-- Text that is not selected has no influence: two headers whose lines are pairwise
indistinguishable for the names that a function list selects lead to the same outcome and the same
log, whether the generation succeeds or fails. -/
theorem Artifacts.generate_congr {list header header' : Text} {options : Options}
    (h : ∀ selection, (Selection.read list).outcome = .ok selection →
      List.Forall₂ (Header.Indistinguishable options.marker selection) (Text.split '\n' header)
        (Text.split '\n' header')) :
    generate list header options = generate list header' options := by
  rw [generate_eq, generate_eq]
  refine Report.bind_congr_of_ok fun selection hselection => ?_
  rw [Report.outcome_wrap, mapError_eq_ok_iff] at hselection
  rw [ofHeader, ofHeader, Header.signatures_congr (h selection hselection)]

/-- A comment becomes a definition, a declaration that is not selected one that cannot be read, and
the failure is that of the third line before and after. -/
theorem Artifacts.generate_congr_failure :
    let list := "glClear\n".toList
    let header :=
      "// GL\nGLAPI void glFoo (GLint x);\nGLAPI void glClear (GLbitfield, );\n".toList
    let header' := "#define GLAPI\r\nGLAPI void glFoo (GLint x[2], (;\n".toList ++
      "GLAPI void glClear (GLbitfield, );\n".toList
    generate list header .standard = generate list header' .standard ∧
      (generate list header .standard).outcome =
        .error (.stage .input (.declarationOnLine 3 (.declaration
          (.malformed "GLAPI void glClear (GLbitfield, );".toList .incompleteParameter)))) := by
  intro list header header'
  refine ⟨generate_congr fun selection hselection => ?_, by decide +kernel⟩
  have hlines : Text.split '\n' header = ["// GL".toList,
      "GLAPI void glFoo ".toList ++ '(' :: "GLint x);".toList,
      "GLAPI void glClear (GLbitfield, );".toList, []] := by decide +kernel
  have hlines' : Text.split '\n' header' = ["#define GLAPI\r".toList,
      "GLAPI void glFoo ".toList ++ '(' :: "GLint x[2], (;".toList,
      "GLAPI void glClear (GLbitfield, );".toList, []] := by decide +kernel
  have hhead : (Declaration.readHead
      (Text.trim ("GLAPI void glFoo ".toList ++ '(' :: "GLint x);".toList))
      "GLAPI".toList).toOption.any (·.name = "glFoo".toList) = true := by decide +kernel
  obtain ⟨head, hread, hname⟩ := exists_ok_of_any hhead
  have hnotSelected : head.name ∉ selection.names := by
    rw [Selection.mem_names_of_read hselection, of_decide_eq_true hname]
    decide +kernel
  rw [hlines, hlines']
  exact .cons (.ignored (by decide +kernel) (by decide +kernel))
    (.cons (.notSelected _ _ (by decide) hread hnotSelected)
      (.cons (.same _) (.cons (.same _) .nil)))

end CallTracer
