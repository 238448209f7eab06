import CallTracer.Artifact.Stub
import CallTracer.Proofs.MemberAccess
import CallTracer.Proofs.Resolution
/-! The text of a stub: its lines, and the member accesses that its statements make. -/
namespace CallTracer
open Text

/-- The names of a traced function are identifiers. -/
structure TracedFunction.Named (f : TracedFunction) : Prop where
  function : Identifier.isValid f.name
  parameters : ∀ p ∈ f.parameters, Identifier.isValid p.name

theorem TracedFunction.named_of_signature {f : TracedFunction} (h : f.signature.WellFormed) :
    f.Named :=
  ⟨h.name_valid, fun _ hp => (h.parameters _ (List.mem_map_of_mem hp)).name_valid⟩

namespace Stub

/-- The lines of a stub behind the first. -/
def block (s : Stub) : List Text :=
  "\x7b".toList :: s.body.map (fun b => '\t' :: b.print) ++ ["\x7d".toList, []]

theorem print_eq (s : Stub) : s.print = unlines (s.opening :: s.block) := rfl

end Stub

theorem KnownType.plain_spelling (t : KnownType) : Plain t.spelling := by
  have h : ∀ u ∈ all, Plain u.spelling := by decide +kernel
  exact h t (mem_all t)

theorem KnownType.not_mem_spelling (t : KnownType) : '(' ∉ t.spelling := by
  have h : ∀ u ∈ all, '(' ∉ u.spelling := by decide +kernel
  exact h t (mem_all t)

theorem Directive.plain_text (d : Directive) : Plain d.text := by
  cases d <;> decide

theorem TracedParameter.plain_value {p : TracedParameter} (h : Identifier.isValid p.name) :
    Plain p.value := by
  have hname := plain_of_isValid h
  unfold value Conversion.apply
  split <;> simp only [plain_append, plain_cons, hname, and_true] <;> decide

variable {f : TracedFunction} {naming : Naming}

theorem Statement.plain_format (h : f.Named) : Plain (format f.name f.parameters) := by
  have hname := plain_of_isValid h.function
  have hdirectives : Plain (join ", ".toList (f.parameters.map (·.type.directive.text))) :=
    plain_join (by decide) (List.forall_mem_map.2 fun p _ => p.type.directive.plain_text)
  unfold format
  split
  · simp only [plain_append, plain_cons, hname, and_true]
    decide
  · simp only [plain_append, plain_cons, hname, hdirectives, and_true]
    decide

theorem Statement.plain_announce (h : f.Named) : Plain (announce f.name f.parameters).print := by
  have hjoin : Plain (join ", ".toList
      (format f.name f.parameters :: f.parameters.map TracedParameter.value)) := by
    refine plain_join (by decide) (List.forall_mem_cons.2 ⟨plain_format h, ?_⟩)
    exact List.forall_mem_map.2 fun p hp => TracedParameter.plain_value (h.parameters p hp)
  change Plain ("printf(".toList ++ _ ++ ");".toList)
  simp only [plain_append, hjoin, and_true]
  decide

namespace Signature

/-- The same signature under the name of its stub. -/
def renamed (s : Signature) (stubPrefix : Text) : Signature :=
  { s with name := stubPrefix ++ s.name }

/-- What stands before the forwarded call: a declaration of the variable that keeps its result. -/
def keeping (s : Signature) : Text :=
  if s.returnsVoid then [] else s.result ++ " const r = ".toList

/-- What stands behind the name of the forwarded function: the parameters as they are declared. -/
def passing (s : Signature) : Text :=
  '(' :: join ", ".toList (s.parameters.map Parameter.name) ++ ");".toList

/-- The line that gives the kept result back. -/
def returning (s : Signature) : List Text :=
  if s.returnsVoid then [] else ["\treturn r;".toList]

/-- The lines of a wrapper behind the first. -/
def wrapping (s : Signature) (announcement : Text) : List Text :=
  ["\x7b".toList, '\t' :: announcement,
    '\t' :: s.keeping ++ (apiHook ++ '.' :: (s.name ++ s.passing)), '\t' :: checkStatement] ++
    s.returning ++ ["\x7d".toList, []]

/-- The variable that keeps a result sets the forwarded call off from what stands before it. -/
theorem endsName_keeping (s : Signature) : Token.endsName ('\t' :: s.keeping).reverse := by
  unfold keeping
  split
  · rfl
  · rw [← List.cons_append, List.reverse_append]
    rfl

theorem plain_returning (s : Signature) : ∀ l ∈ s.returning, Plain l := by
  unfold returning
  split
  · exact List.forall_mem_nil _
  · exact List.forall_mem_singleton.2 (by decide)

theorem plain_keeping (f : TracedFunction) : Plain f.signature.keeping := by
  unfold keeping
  split
  · exact plain_nil
  · exact plain_append.2 ⟨f.result.plain_spelling, by decide⟩

theorem plain_passing (h : f.Named) : Plain f.signature.passing := by
  have hnames : ∀ n ∈ f.signature.parameters.map Parameter.name, Plain n := by
    simp only [TracedFunction.signature, List.map_map]
    exact List.forall_mem_map.2 fun p hp => plain_of_isValid (h.parameters p hp)
  exact plain_append.2 ⟨plain_cons.2 ⟨by decide, plain_join (by decide) hnames⟩, by decide⟩

theorem isLine_wrapping (h : f.Named) : ∀ l ∈ f.signature.wrapping
    (Statement.announce f.name f.parameters).print, IsLine l := by
  have hannounce : IsLine ('\t' :: (Statement.announce f.name f.parameters).print) :=
    (plain_cons.2 ⟨by decide, Statement.plain_announce h⟩).isLine
  have hbefore : '\n' ∉ '\t' :: f.signature.keeping ++ (apiHook ++ '.' :: f.name) := by
    simp [(plain_keeping f).not_mem '\n' rfl, (plain_of_isValid h.function).not_mem '\n' rfl]
    decide
  have hforward : IsLine ('\t' :: f.signature.keeping ++
      (apiHook ++ '.' :: (f.signature.name ++ f.signature.passing))) := by
    have := isLine_append hbefore (plain_passing h).isLine (by simp [passing])
    simpa using this
  rw [wrapping, List.forall_mem_append, List.forall_mem_append]
  refine ⟨⟨?_, fun l hl => (plain_returning _ l hl).isLine⟩, ?_⟩
  · exact List.forall_mem_cons.2 ⟨by decide, List.forall_mem_cons.2 ⟨hannounce,
      List.forall_mem_cons.2 ⟨hforward, List.forall_mem_singleton.2 (by decide)⟩⟩⟩
  · exact List.forall_mem_cons.2 ⟨by decide, List.forall_mem_singleton.2 (by decide)⟩

end Signature

namespace KnownType

/-- Both types without values are written `void` where a type is needed. -/
theorem void_or_spelling (t : KnownType) : (if t.isVoid then "void".toList else t.spelling) =
    if t.spelling.isEmpty then "void".toList else t.spelling := by
  rw [isVoid_eq]
  by_cases he : t.spelling.isEmpty
  · simp [he]
  · rw [if_neg he, eq_false_of_ne_true he, Bool.false_or]
    split
    · rename_i hv
      exact (eq_of_beq hv).symm
    · rfl

end KnownType

namespace Stub

theorem print_keep (type : Text) (c : Call) : (Statement.keep type resultName c).print =
    type ++ " const r = ".toList ++ c.print ++ [';'] := by
  have hdeclare : " const r = ".toList = " const ".toList ++ resultName ++ " = ".toList := rfl
  rw [hdeclare, ← List.append_assoc type, ← List.append_assoc type]
  rfl

theorem print_call (f : TracedFunction) :
    (call f).print ++ [';'] = apiHook ++ '.' :: (f.name ++ f.signature.passing) := by
  simp [Call.print, call, Signature.passing, TracedFunction.signature, Function.comp_def,
    TracedParameter.parameter]

/-- A stub goes on as a wrapper of the signature that its function stands for. -/
theorem block_eq (naming : Naming) (f : TracedFunction) : (ofFunction naming f).block =
    f.signature.wrapping (Statement.announce f.name f.parameters).print := by
  have hforward := print_call f
  unfold block ofFunction bodyOf Signature.wrapping Signature.keeping Signature.returning resultType
  rw [TracedFunction.signature_returnsVoid]
  cases f.returnsVoid with
  | true =>
    change [_, _, '\t' :: ((call f).print ++ [';']), _, _, _] = _
    rw [hforward]
    rfl
  | false =>
    simp only [Bool.false_eq_true, if_false, List.map_cons, List.map_nil, print_keep]
    rw [List.append_assoc _ (call f).print, hforward]
    rfl

theorem isLine_block (naming : Naming) (h : f.Named) :
    ∀ l ∈ (ofFunction naming f).block, IsLine l := by
  rw [block_eq]
  exact Signature.isLine_wrapping h

/-- A stub begins like the signature that its function stands for, but for the name. -/
theorem opening_eq (naming : Naming) (f : TracedFunction) :
    (ofFunction naming f).opening = (f.signature.renamed naming.stubPrefix).print := by
  have hresult : resultType f =
      if f.signature.result.isEmpty then "void".toList else f.signature.result :=
    f.result.void_or_spelling
  have hparameters : (f.parameters.map fun p => p.type.spelling ++ ' ' :: p.name) =
      f.signature.parameters.map Parameter.print := by
    simp only [TracedFunction.signature, List.map_map]
    rfl
  unfold opening ofFunction
  simp only [hresult, hparameters]
  rfl

theorem not_mem_resultType (f : TracedFunction) : '(' ∉ resultType f := by
  unfold resultType
  split
  · decide
  · exact f.result.not_mem_spelling

theorem plain_resultType (f : TracedFunction) : Plain (resultType f) := by
  unfold resultType
  split
  · decide
  · exact f.result.plain_spelling

theorem plain_parameters (h : f.Named) : Plain (join ", ".toList
    (f.parameters.map fun p => p.type.spelling ++ ' ' :: p.name)) :=
  plain_join (by decide) (List.forall_mem_map.2 fun p hp => plain_append.2
    ⟨p.type.plain_spelling, plain_cons.2 ⟨by decide, plain_of_isValid (h.parameters p hp)⟩⟩)

theorem isLine_opening (hn : '\n' ∉ naming.stubPrefix) (h : f.Named) :
    IsLine (ofFunction naming f).opening := by
  have hparameters : Plain ('(' :: join ", ".toList
      (f.parameters.map fun p => p.type.spelling ++ ' ' :: p.name) ++ [')']) :=
    plain_append.2 ⟨plain_cons.2 ⟨by decide, plain_parameters h⟩, by decide⟩
  have hbefore : '\n' ∉ resultType f ++ ' ' :: (naming.stubPrefix ++ f.name) := by
    simp [(plain_resultType f).not_mem '\n' rfl, hn,
      (plain_of_isValid h.function).not_mem '\n' rfl]
  have := isLine_append hbefore hparameters.isLine (by simp)
  simpa [opening, ofFunction] using this

/-- The first line of a stub, however it is prefixed. -/
theorem head?_lines_print (hn : '\n' ∉ naming.stubPrefix) (h : f.Named) :
    (lines (ofFunction naming f).print).head? =
      some (f.signature.renamed naming.stubPrefix).print := by
  rw [print_eq, unlines_cons, lines_append_newline (isLine_opening hn h), opening_eq]
  rfl

end Stub

namespace Signature

/-- A wrapper makes two accesses, both to the saved functions: the forwarded one and the query of
the error state, in this order. -/
theorem memberAccesses_wrapping (h : f.Named) :
    memberAccesses (unlines (f.signature.wrapping (Statement.announce f.name f.parameters).print)) =
      [(apiHook, f.name), (apiHook, errorQuery)] := by
  have hannounce : Plain ('\t' :: (Statement.announce f.name f.parameters).print) :=
    plain_cons.2 ⟨by decide, Statement.plain_announce h⟩
  have hkeeping : Plain ('\t' :: f.signature.keeping) :=
    plain_cons.2 ⟨by decide, plain_keeping f⟩
  have hhook : Identifier.isValid apiHook := by decide
  have hforward := memberAccesses_access (hkeeping.not_mem '.' rfl) (endsName_keeping f.signature)
    hhook h.function ((plain_passing h).not_mem '.' rfl) rfl
  have hcheck : memberAccesses ('\t' :: checkStatement) = [(apiHook, errorQuery)] := by decide
  have hreturning : f.signature.returning.flatMap memberAccesses = [] :=
    List.flatMap_eq_nil_iff.2 fun l hl => memberAccesses_of_plain (plain_returning _ l hl)
  rw [memberAccesses_unlines, wrapping, List.flatMap_append, List.flatMap_append, hreturning]
  simp only [List.flatMap_cons, List.flatMap_nil, memberAccesses_of_plain hannounce,
    TracedFunction.signature_name, hforward, hcheck]
  rfl

end Signature
end CallTracer
