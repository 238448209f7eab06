import CallTracer.Proofs.Format
import CallTracer.Proofs.GenerationSuccess
/-! The announcements of the stubs. Their formats have an item for each parameter, and the values
behind the format belong to the same parameters; but for a type without values the item is empty
while the value is there. -/
namespace CallTracer
open Outcome Lexeme

section

variable {f : TracedFunction} {p : TracedParameter} {function n s : Text} {us : List Lexeme}

/-- The parts of a format that announces a function, around the items of its parameters. -/
def FormatPart.announcing (function : Text) (items : List (List FormatPart)) : List FormatPart :=
  ofText (function ++ ['(']) ++ List.intercalate (ofText ", ".toList) items ++
    ofText ")\\n".toList

theorem Lexeme.unescaped_of_isValid (h : Identifier.isValid n) : Unescaped n := by
  intro c hc
  have hpart := Identifier.all_isPart_of_isValid h c hc
  refine ⟨?_, ?_, ?_⟩
  all_goals
    rintro rfl
    exact absurd hpart (by decide)

theorem Statement.formatOf?_format (h : Identifier.isValid function)
    (parameters : List TracedParameter) : formatOf? (format function parameters) =
      some (FormatPart.announcing function (parameters.map (·.type.directive.item))) := by
  have hname := unescaped_of_isValid h
  have hopen : Unescaped ['('] := by decide
  have hend : formatInside? ")\\n\"".toList = some (FormatPart.ofText ")\\n".toList) := by
    decide +kernel
  unfold format
  split
  · rename_i hempty
    have hclosed : formatInside? "()\\n\"".toList = some (FormatPart.ofText "()\\n".toList) := by
      decide +kernel
    rw [List.isEmpty_iff.1 hempty, List.cons_append, formatOf?_open, formatInside?_append hname,
      hclosed, FormatPart.announcing]
    simp [FormatPart.ofText]
  · have hcut : "(\" \"".toList = ['('] ++ "\" \"".toList := rfl
    have hdirectives : parameters.map (·.type.directive.text) =
        (parameters.map (·.type.directive)).map Directive.text := by
      rw [List.map_map]
      rfl
    rw [List.cons_append, List.cons_append, List.cons_append, formatOf?_open, List.append_assoc,
      List.append_assoc, formatInside?_append hname, hcut, List.append_assoc,
      formatInside?_append hopen, formatInside?_reopen, hdirectives, Directive.formatInside?_join,
      hend, FormatPart.announcing]
    simp [Function.comp_def]

/-- A name in parentheses behind other lexemes. -/
theorem Lexeme.read_applied (hs : read s = some us) (hn : Identifier.isValid n) :
    read (s ++ '(' :: n ++ [')']) = some (us ++ (.mark '(' :: [.name n] ++ [.mark ')'])) := by
  have hclose : read [')'] = some [.mark ')'] := by decide +kernel
  have hopen : read ('(' :: n) = some (.mark '(' :: [.name n]) := by
    rw [read, readFrom_mark rfl (by decide) rfl]
    exact congrArg (Option.map _) (read_name hn)
  rw [List.append_assoc]
  exact read_append hs rfl (read_append hopen rfl hclose)

theorem Lexeme.isArgument_applied (h : IsArgument us) (n : Text) :
    IsArgument (us ++ (.mark '(' :: [.name n] ++ [.mark ')'])) :=
  h.append (isArgument_of_no_mark (by simp)).parenthesized

/-- The expression for a parameter is one argument. -/
theorem Conversion.exists_read_apply (c : Conversion) (h : Identifier.isValid n) :
    ∃ ls, read (c.apply n) = some ls ∧ IsArgument ls := by
  have hcast : ∀ us : List Lexeme, (∀ l ∈ us, ∀ c, l ≠ .mark c) →
      IsArgument (.mark '(' :: us ++ [.mark ')']) := fun us hus =>
    (isArgument_of_no_mark hus).parenthesized
  cases c with
  | asIs => exact ⟨_, read_name h, isArgument_of_no_mark (by simp)⟩
  | enumName =>
    exact ⟨_, read_applied (read_name (by decide)) h,
      isArgument_applied (isArgument_of_no_mark (by simp)) n⟩
  | widenUnsigned =>
    have hread : read "(unsigned int)".toList = some
        (.mark '(' :: [.name "unsigned".toList, .name "int".toList] ++ [.mark ')']) := by
      decide +kernel
    exact ⟨_, read_applied hread h, isArgument_applied (hcast _ (by simp)) n⟩
  | widenSigned =>
    have hread : read "(int)".toList =
        some (.mark '(' :: [.name "int".toList] ++ [.mark ')']) := by decide +kernel
    exact ⟨_, read_applied hread h, isArgument_applied (hcast _ (by simp)) n⟩

theorem TracedParameter.exists_read_values {ps : List TracedParameter}
    (h : ∀ p ∈ ps, Identifier.isValid p.name) : ∃ values,
      List.Forall₂ (fun p value => Lexeme.read p.value = some value) ps values ∧
        ∀ value ∈ values, IsArgument value := by
  induction ps with
  | nil => exact ⟨[], .nil, List.forall_mem_nil _⟩
  | cons p ps ih =>
    obtain ⟨hp, hps⟩ := List.forall_mem_cons.1 h
    obtain ⟨value, hread, hargument⟩ := p.type.conversion.exists_read_apply hp
    obtain ⟨values, hreads, harguments⟩ := ih hps
    exact ⟨value :: values, .cons hread hreads, List.forall_mem_cons.2 ⟨hargument, harguments⟩⟩

theorem Lexeme.read_printf (s : Text) : Lexeme.read ("printf".toList ++ '(' :: s) =
    (Lexeme.read s).map ([.name "printf".toList, .mark '('] ++ ·) := by
  rw [Lexeme.read, readFrom_append (read_name (by decide)) rfl, Lexeme.read,
    readFrom_mark rfl (by decide) rfl, Option.map_map]
  rfl

/-- The announcement of a function is a call whose arguments are its format and its values. -/
theorem Statement.callArguments?_announce (h : f.Named) : ∃ format values,
    callArguments? "printf".toList (announce f.name f.parameters).print =
        some (format :: values) ∧
      Lexeme.format? format =
        some (FormatPart.announcing f.name (f.parameters.map (·.type.directive.item))) ∧
      List.Forall₂ (fun p value => Lexeme.read p.value = some value) f.parameters values := by
  obtain ⟨format, hformat, hparts⟩ :=
    Option.bind_eq_some_iff.1 (formatOf?_format h.function f.parameters)
  obtain ⟨values, hreads, hvalues⟩ := TracedParameter.exists_read_values h.parameters
  have hjoin : Lexeme.read (Text.join ", ".toList (Statement.format f.name f.parameters ::
      f.parameters.map TracedParameter.value)) =
        some (List.intercalate [.mark ','] (format :: values)) :=
    read_join (.cons hformat (List.forall₂_map_left_iff.2 hreads))
  have hclose : Lexeme.read ");".toList = some [.mark ')', .mark ';'] := by decide +kernel
  have hcall : Lexeme.read (Statement.announce f.name f.parameters).print =
      some (.name "printf".toList :: .mark '(' ::
        (List.intercalate [.mark ','] (format :: values) ++ [.mark ')', .mark ';'])) :=
    (Lexeme.read_printf _).trans (congrArg (Option.map _) (read_append hjoin rfl hclose))
  have harguments := arguments?_intercalate hvalues
    (isArgument_of_no_mark (not_mark_of_format? hparts)) [.mark ';']
  exact ⟨format, values, callArguments?_of_read hcall harguments, hparts, hreads⟩

end

/-- Whether an item of a format is what the catalogue has for the type of a parameter. It is one
conversion directive exactly if the type has values. -/
structure IsItem (p : Parameter) (item : List FormatPart) : Prop where
  catalogued : ∃ text, (Api.formatFor p.type).outcome = .ok text ∧
    formatOf? (Text.inQuotes text) = some item
  directive : FormatPart.IsDirective item ↔ p.type ≠ "void".toList

/-- Whether an expression is what the catalogue makes of the name of a parameter. -/
def IsValue (p : Parameter) (value : List Lexeme) : Prop :=
  ∃ text, (Api.valueFor p.type p.name).outcome = .ok text ∧ Lexeme.read text = some value

/-- Whether a statement announces the call of a function: its format puts the items between the
parentheses behind the name, and for each parameter there are one item and one value. -/
structure Announces (s : Signature) (statement : Text) (items : List (List FormatPart))
    (values : List (List Lexeme)) : Prop where
  call : ∃ format, callArguments? "printf".toList statement = some (format :: values) ∧
    Lexeme.format? format = some (FormatPart.announcing s.name items)
  items : List.Forall₂ IsItem s.parameters items
  values : List.Forall₂ IsValue s.parameters values

/-- Of the types that can be spelled only `void` has no directive. -/
theorem KnownType.directive_ne_none_iff {t : KnownType} (h : t.spelling ≠ []) :
    t.directive ≠ .none ↔ t.spelling ≠ "void".toList := by
  have hall : ∀ u ∈ all, u.spelling ≠ [] →
      (u.directive ≠ .none ↔ u.spelling ≠ "void".toList) := by decide +kernel
  exact hall t (mem_all t) h

theorem TracedParameter.outcome_resolveType (p : TracedParameter) :
    (Api.resolveType p.parameter.type).outcome = .ok p.type := Api.resolveType_eq_ok_iff.2 rfl

theorem TracedParameter.isItem {p : TracedParameter} (h : p.parameter.WellFormed) :
    IsItem p.parameter p.type.directive.item := by
  refine ⟨⟨p.type.directive.text, ?_, p.type.directive.formatOf?_text⟩, ?_⟩
  · rw [Api.formatFor, Report.outcome_bind, p.outcome_resolveType]
    rfl
  · rw [Directive.isDirective_item]
    exact KnownType.directive_ne_none_iff h.type_ne_nil

theorem TracedParameter.isValue {p : TracedParameter} {value : List Lexeme}
    (h : Lexeme.read p.value = some value) : IsValue p.parameter value := by
  refine ⟨p.value, ?_, h⟩
  rw [Api.valueFor, Report.outcome_bind, p.outcome_resolveType]
  rfl

theorem TracedFunction.exists_announces {f : TracedFunction} (h : f.signature.WellFormed) :
    ∃ items values,
      Announces f.signature (Statement.announce f.name f.parameters).print items values := by
  obtain ⟨format, values, hcall, hformat, hvalues⟩ :=
    Statement.callArguments?_announce (named_of_signature h)
  have hitems : ∀ p ∈ f.parameters, IsItem p.parameter p.type.directive.item := fun p hp =>
    TracedParameter.isItem (h.parameters _ (List.mem_map_of_mem hp))
  refine ⟨_, values, ⟨format, hcall, hformat⟩, ?_, ?_⟩
  · exact List.forall₂_map_left_iff.2 (List.forall₂_map_right_iff.2 (List.forall₂_same.2 hitems))
  · exact List.forall₂_map_left_iff.2 (hvalues.imp fun _ _ => TracedParameter.isValue)

namespace Artifacts

variable {list header : Text} {options : Options} {a : Artifacts}

/-- Whenever a generation succeeds, each stub announces the declaration that it was made for, in the
first statement of its body. -/
theorem announces_of_generate (h : (generate list header options).outcome = .ok a) :
    ∃ selection, (Selection.read list).outcome = .ok selection ∧
      List.Forall₂ (fun s stub => ∃ statement rest items values,
          stub.print =
            Text.unlines (stub.opening :: "\x7b".toList :: ('\t' :: statement) :: rest) ∧
          Announces s statement items values)
        (Header.selected options.marker selection header) a.traceSource.stubs := by
  refine forall₂_stubs_of_generate h fun f hwell => ?_
  obtain ⟨items, values, hannounces⟩ := f.exists_announces hwell
  exact ⟨_, _, items, values, rfl, hannounces⟩

/-- A value for an enumeration, two with the macro and a pointer. -/
theorem announces_of_generate_four_parameters :
    let list := "glBufferSubData".toList
    let header := "GLAPI void APIENTRY glBufferSubData (GLenum target, GLintptr offset, ".toList ++
      "GLsizeiptr size, const void *data);\n".toList
    ∃ a, (generate list header .standard).outcome = .ok a ∧ a.traceSource.stubs.length = 1 ∧
      ∃ selection, (Selection.read list).outcome = .ok selection ∧
        List.Forall₂ (fun s stub => ∃ statement rest items values,
            stub.print =
              Text.unlines (stub.opening :: "\x7b".toList :: ('\t' :: statement) :: rest) ∧
            Announces s statement items values)
          (Header.selected Options.standard.marker selection header) a.traceSource.stubs := by
  intro list header
  have hone : (generate list header .standard).outcome.toOption.any
      (·.traceSource.stubs.length = 1) = true := by decide +kernel
  obtain ⟨a, ha, hlength⟩ := exists_ok_of_any hone
  exact ⟨a, ha, of_decide_eq_true hlength, announces_of_generate ha⟩

/-- A named parameter of type `void` is no failure. Its item is empty and its value is there, so the
only directive of the format stands against two values. -/
theorem announcement_of_named_void :
    let list := "glV".toList
    let header := "GLAPI void APIENTRY glV (void v, GLfloat x);\n".toList
    let statement := "printf(\"glV(\" \", %f)\\n\", v, x);".toList
    (generate list header .standard).outcome.toOption.any (fun a =>
        a.traceSource.stubs.map (·.body.head?.map Statement.print) = [some statement]) ∧
      callArguments? "printf".toList statement = some
        [[.literal "glV(".toList, .literal ", %f)\\n".toList], [.name "v".toList],
          [.name "x".toList]] ∧
      FormatPart.ofText "glV(, %f)\\n".toList =
        FormatPart.announcing "glV".toList [[], FormatPart.ofText "%f".toList] ∧
      ¬FormatPart.IsDirective [] :=
  ⟨by decide +kernel, by decide +kernel, by decide, fun h => nomatch h⟩

end Artifacts
end CallTracer
