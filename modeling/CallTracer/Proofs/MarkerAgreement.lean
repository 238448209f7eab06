import CallTracer.Proofs.DeclarationFaults
import CallTracer.Proofs.HeaderFaults
import CallTracer.Proofs.Respacing
/-! The marker is recognised twice: as the first word of a line, which makes the line a declaration,
and as the first token of the declaration. The two agree about every marker that is an identifier,
and with any other no declaration can be read. -/
namespace CallTracer
open Outcome

namespace Token

variable {w s : Text} {ts : List Token}

/-- A longest run of characters other than blanks is one of characters of names, if it consists of
them. -/
theorem takeWhile_isPart_eq (h : ∀ c ∈ s.takeWhile (!Text.isBlank ·), Identifier.isPart c) :
    s.takeWhile Identifier.isPart = s.takeWhile (!Text.isBlank ·) := by
  induction s with
  | nil => rfl
  | cons c s ih =>
    by_cases hc : Text.isBlank c
    · simp [hc, Identifier.isPart_of_isBlank hc]
    · have hpos : (!Text.isBlank c) = true := by simp [hc]
      rw [List.takeWhile_cons_of_pos (p := (!Text.isBlank ·)) hpos] at h ⊢
      obtain ⟨hpart, hs⟩ := List.forall_mem_cons.1 h
      rw [List.takeWhile_cons_of_pos hpart, ih hs]

/-- The first token of a text is its first word, if this is an identifier. -/
theorem head?_of_read (hw : Identifier.isValid w) (h : (Text.words s).head? = some w)
    (hts : read s = .ok ts) : ts.head? = some (.name w) := by
  induction s with
  | nil => simp at h
  | cons c s ih =>
    by_cases hc : Text.isBlank c
    · rw [Text.words_blank hc] at h
      exact ih h ((read_blank_cons hc).1 hts)
    · rw [Text.words_of_not_blank (eq_false_of_ne_true hc), List.head?_cons, Option.some.injEq] at h
      subst h
      simp only [Identifier.isValid_cons, Bool.and_eq_true, List.all_eq_true] at hw
      rw [read, readFrom_start hw.1] at hts
      obtain ⟨us, -, rfl⟩ := map_eq_ok_iff.1 hts
      rw [List.head?_cons, takeWhile_isPart_eq hw.2]

end Token

namespace Declaration

variable {source marker opening rest : Text} {ts : List Token}

/-- A marker that is an identifier and stands before all other words of a text stands before all
other tokens of the head too. -/
theorem head?_of_head?_words (hmarker : Identifier.isValid marker)
    (h : (Text.words (opening ++ '(' :: rest)).head? = some marker)
    (hts : Token.read opening = .ok ts) : ts.head? = some (.name marker) := by
  have hparen : '(' ∉ marker := Identifier.not_mem_of_isValid hmarker (by decide)
  exact Token.head?_of_read hmarker (Text.head?_words_opening hparen opening rest h) hts

theorem readHead_ne_missingMarker (hmarker : Identifier.isValid marker)
    (h : (Text.words source).head? = some marker) (m : Text) :
    readHead source marker ≠ .error (.missingMarker m) := by
  intro herror
  by_cases hcut : '(' ∈ source
  · obtain ⟨opening, rest, rfl, hopen⟩ := List.eq_append_cons_of_mem hcut
    rw [readHead_cut_eq_error_iff hopen] at herror
    rcases herror with ⟨bad, -, heq⟩ | ⟨ts, hts, herror⟩
    · cases heq
    · rcases fault_of_headOfTokens herror with ⟨-, hhead⟩ | ⟨reason, heq⟩
      · exact hhead (head?_of_head?_words hmarker h hts)
      · cases heq
  · rw [readHead_of_not_mem hcut] at herror
    cases herror

theorem finish_ne_missingMarker (head : Head) (m : Text) :
    head.finish ≠ .error (.missingMarker m) := by
  rw [ne_eq, finish_eq_error_iff]
  rintro (⟨bad, -, heq⟩ | ⟨ts, -, reason, -, heq⟩) <;> cases heq

end Declaration

namespace Header

variable {header marker line : Text} {selection : Selection} {d : Nat × Text} {e : Failure}
  {found : Registry Signature}

/-- The text of a declaration has the marker as its first word, as its line has. -/
theorem head?_words_of_mem_declarations (h : d ∈ declarations marker header) :
    (Text.words d.2).head? = some marker := by
  obtain ⟨i, line, -, -, hword, htrim⟩ := (areDeclarations marker header).mem_iff _ _ |>.1 h
  rw [← htrim, Text.words_trim, hword]

theorem declarations_eq_nil_iff : declarations marker header = [] ↔
    ∀ line ∈ Text.lines header, (Text.words line).head? ≠ some marker := by
  rw [← List.map_eq_nil_iff (f := Prod.snd), map_snd_declarations, List.filterMap_eq_nil_iff]
  refine forall₂_congr fun line _ => ?_
  rw [declared?]
  split <;> simp_all

theorem missingMarker_mem_iff {number : Nat} {fault : Declaration.Fault} {m : Text} :
    .declaration (.missingMarker m) ∈ .declarationOnLine number (.declaration fault) ::
        (Failure.declarationOnLine number (.declaration fault)).causes ↔
      fault = .missingMarker m := by
  simp [Failure.causes, eq_comm]

/-- If the marker is an identifier no scan stops because it is missing. -/
theorem missingMarker_not_mem (hmarker : Identifier.isValid marker)
    (h : (signatures header marker selection).outcome = .error e) (m : Text) :
    .declaration (.missingMarker m) ∉ e :: e.causes := by
  obtain ⟨earlier, d, later, hds, -, hstops⟩ := signatures_eq_error_iff.1 h
  have hmem : d ∈ declarations marker header := by simp [hds]
  have hword := head?_words_of_mem_declarations hmem
  cases hstops with
  | head hfault =>
    rw [missingMarker_mem_iff]
    rintro rfl
    exact Declaration.readHead_ne_missingMarker hmarker hword m hfault
  | parameters isHead isSelected hfault =>
    rw [missingMarker_mem_iff]
    rintro rfl
    exact Declaration.finish_ne_missingMarker _ m hfault
  | repeated => simp [Failure.causes]

/-- If the marker is no identifier nothing can be read. -/
theorem signatures_eq_ok_iff_of_not_isValid (hmarker : ¬Identifier.isValid marker) :
    (signatures header marker selection).outcome = .ok found ↔
      declarations marker header = [] ∧ found = Registry.empty := by
  constructor
  · intro h
    have hreadable := (exists_signatures_iff.1 ⟨found, h⟩).1
    have hnone : declarations marker header = [] := by
      rw [List.eq_nil_iff_forall_not_mem]
      intro d hd
      obtain ⟨head, hhead, -⟩ := hreadable d hd
      exact hmarker (Declaration.isValid_of_readHead hhead)
    unfold signatures at h
    rw [hnone] at h
    cases h
    exact ⟨hnone, rfl⟩
  · rintro ⟨hnone, rfl⟩
    unfold signatures
    rw [hnone]
    rfl

/-- The two recognitions of the marker agree. If it is an identifier it is the first token of every
line that has it as its first word, as far as the line can be read, and no scan fails because it is
missing. If it is none, what has it as its first word cannot be read, and a scan succeeds exactly if
there is no such line, without a signature. -/
theorem marker_recognized (header marker : Text) (selection : Selection) :
    (Identifier.isValid marker →
      (∀ line ∈ Text.lines header, (Text.words line).head? = some marker →
        ∀ opening rest ts, Text.trim line = opening ++ '(' :: rest → '(' ∉ opening →
          Token.read opening = .ok ts → ts.head? = some (.name marker)) ∧
      ∀ e, (signatures header marker selection).outcome = .error e →
        ∀ m, .declaration (.missingMarker m) ∉ e :: e.causes) ∧
    (¬Identifier.isValid marker →
      ∀ found, (signatures header marker selection).outcome = .ok found ↔
        (∀ line ∈ Text.lines header, (Text.words line).head? ≠ some marker) ∧
          found = Registry.empty) := by
  refine ⟨fun hmarker => ⟨?_, fun e he m => missingMarker_not_mem hmarker he m⟩,
    fun hmarker found => ?_⟩
  · intro line hline hword opening rest ts htrim _ hts
    rw [← Text.words_trim, htrim] at hword
    exact Declaration.head?_of_head?_words hmarker hword hts
  · rw [signatures_eq_ok_iff_of_not_isValid hmarker, declarations_eq_nil_iff]

/-- A marker that is a decoration too, on a line that it stands on twice and on one without a name,
and a marker with a parenthesis, behind which the declaration is cut. -/
theorem marker_recognized_two_markers :
    let header := "extern extern glF (GLint x);\n\textern * (void);\nGLAPI( void glF (void);".toList
    let selection := Selection.empty.insert "glF".toList
    let fault : Failure := .declarationOnLine 2 (.declaration
      (.malformed "extern * (void);".toList .noName))
    (Identifier.isValid "extern".toList ∧
      (signatures header "extern".toList selection).outcome = .error fault ∧
      ∀ m, .declaration (.missingMarker m) ∉ fault :: fault.causes) ∧
    ¬Identifier.isValid "GLAPI(".toList ∧
      ∀ found, (signatures header "GLAPI(".toList selection).outcome ≠ .ok found := by
  intro header selection fault
  have hvalid : Identifier.isValid "extern".toList := by decide
  have hinvalid : ¬Identifier.isValid "GLAPI(".toList := by decide
  have hfails : (signatures header "extern".toList selection).outcome.map (fun _ => ()) =
      .error fault := by decide +kernel
  rw [map_eq_error_iff] at hfails
  have hline : ∃ line ∈ Text.lines header, (Text.words line).head? = some "GLAPI(".toList := by
    decide +kernel
  refine ⟨⟨hvalid, hfails, ?_⟩, hinvalid, fun found hfound => ?_⟩
  · exact ((marker_recognized header "extern".toList selection).1 hvalid).2 fault hfails
  · obtain ⟨line, hmem, hword⟩ := hline
    obtain ⟨hnone, -⟩ :=
      ((marker_recognized header "GLAPI(".toList selection).2 hinvalid found).1 hfound
    exact hnone line hmem hword

end Header
end CallTracer
