import CallTracer.Artifact.TraceSource
import CallTracer.Proofs.BlockLines
import CallTracer.Proofs.StubText
/-! The text of a trace source, read back. Whatever the generated symbols are called, it is a
preamble, the stubs and the two tables, and the blocks of these tell what a stub accesses and what
is in a table. Where the symbols are called by names, the lines of the whole text tell the functions
that it defines and the entries of its tables. -/
namespace CallTracer
open Identifier (not_mem_of_isPart)
open Text

/-- A stub as a text: a result, a name with the prefix of stubs and the parameters on one line, and
a block with two accesses, the one that forwards and the query of the error state. -/
structure IsStub (stubPrefix name text : Text) : Prop where
  heading : ∃ result parameters : Text, '(' ∉ result ∧ Plain result ∧ Plain parameters ∧
    IsBlock (result ++ ' ' :: (stubPrefix ++ name) ++ '(' :: parameters ++ [')']) text
  accesses : memberAccesses (unlines (lastBlock text)) = [(apiHook, name), (apiHook, errorQuery)]

/-- A table as a text: a heading and a block with the entries. -/
structure IsTable (heading entryMacro : Text) (names : List Text) (text : Text) : Prop where
  heading : IsBlock heading text
  entries : entries entryMacro (lastBlock text) = names

namespace Naming

/-- The lines before the one that declares the saved copy of the real functions. -/
def includes : List Text :=
  ["#include <string>".toList, "#include <inttypes.h>".toList, [], "namespace".toList,
    "\x7b".toList]

/-- The lines between that one and the stubs. -/
def declarations : List Text :=
  ["\x7d // namespace".toList, [], "using PFNGETGLPROC = void* (const char*);".toList, [],
    "#define E2S( en ) Enum2String( en ).c_str()".toList,
    "extern std::string Enum2String( GLenum e );".toList, []]

/-- The lines before the stubs. -/
def preamble (n : Naming) : List Text :=
  includes ++ ('\t' :: n.apiType ++ " apiHook;".toList) :: declarations

/-- The lines before the block of the table that hooks the stubs in. -/
def hookHeading (n : Naming) : Text :=
  "#define INJECT(S) api->S = &".toList ++ n.stubPrefix ++ "##S;".toList ++ '\n' :: '\n' ::
    ("void ".toList ++ n.injectFunction ++ '(' :: n.apiType ++ "* api)".toList)

/-- The lines before the block of the table that loads the real functions. -/
def loaderHeading (n : Naming) : Text :=
  "#define LOAD_GL_FUNC(func) api->func = ( decltype(api->func) )GetGLProc(#func);".toList ++
    '\n' :: '\n' :: ("void ".toList ++ n.loaderFunction ++ '(' :: n.apiType ++
      "* api, PFNGETGLPROC GetGLProc)".toList)

/-- Names that are parts of identifiers, and a type on one line without parentheses. -/
structure Legible (n : Naming) : Prop where
  stubPrefix : ∀ c ∈ n.stubPrefix, Identifier.isPart c
  injectFunction : ∀ c ∈ n.injectFunction, Identifier.isPart c
  loaderFunction : ∀ c ∈ n.loaderFunction, Identifier.isPart c
  apiType : '\n' ∉ n.apiType ∧ '(' ∉ n.apiType

theorem legible_standard : standard.Legible where
  stubPrefix := List.all_eq_true.1 (by decide)
  injectFunction := List.all_eq_true.1 (by decide)
  loaderFunction := List.all_eq_true.1 (by decide)
  apiType := by decide

variable {n : Naming}

theorem Legible.isLine_preamble (h : n.Legible) : ∀ l ∈ n.preamble, IsLine l := by
  have htype : IsLine ('\t' :: n.apiType ++ " apiHook;".toList) :=
    isLine_append (fun hmem => (List.mem_cons.1 hmem).elim (by decide) h.apiType.1) (by decide)
      (by decide)
  have hincludes : ∀ l ∈ includes, IsLine l := by decide
  have hdeclarations : ∀ l ∈ declarations, IsLine l := by decide
  exact List.forall_mem_append.2 ⟨hincludes, List.forall_mem_cons.2 ⟨htype, hdeclarations⟩⟩

theorem Legible.entries_preamble (h : n.Legible) {entryMacro : Text}
    (hm : ∀ c ∈ entryMacro, Identifier.isPart c) : Text.entries entryMacro n.preamble = [] := by
  have hincludes : ∀ l ∈ includes, l.head? ≠ some '\t' := by decide
  have hdeclarations : ∀ l ∈ declarations, l.head? ≠ some '\t' := by decide
  have hparen : '(' ∉ '\t' :: n.apiType ++ " apiHook;".toList := fun hmem =>
    (List.mem_append.1 hmem).elim
      (fun hmem => (List.mem_cons.1 hmem).elim (by decide) h.apiType.2) (by decide)
  have hspace : ' ' ∈ stem ('\t' :: n.apiType ++ " apiHook;".toList) := by
    rw [stem_of_not_mem hparen]
    exact List.mem_append_right _ List.mem_cons_self
  exact List.filterMap_eq_nil_iff.2 (List.forall_mem_append.2
    ⟨fun l hl => entryOn?_of_head _ (hincludes l hl), List.forall_mem_cons.2
      ⟨entryOn?_of_mem_stem hm hspace (by decide) rfl,
        fun l hl => entryOn?_of_head _ (hdeclarations l hl)⟩⟩)

theorem defined_preamble (n : Naming) : defined n.preamble = [] := by
  have hnext : (('\t' :: n.apiType ++ " apiHook;".toList) :: declarations).head? ≠
      some "\x7b".toList :=
    fun heq => absurd (List.head_eq_of_cons_eq (Option.some.inj heq)) (by decide)
  have hincludes : defined includes = [] := by decide
  rw [preamble, defined_append hnext, hincludes, defined_of_not_mem (by decide), List.nil_append]

end Naming

/-- What the text of a trace source holds. -/
structure Layout where
  /-- For each stub the function that it is for, and its text. -/
  stubs : List (Text × Text)
  hooked : List Text
  loaded : List Text

/-- The functions that have a stub. -/
def Layout.stubbed (l : Layout) : List Text := l.stubs.map Prod.fst

/-- A text that is a preamble, the stubs and the two tables, and that is read as such. -/
structure IsTraceSource (naming : Naming) (l : Layout) (text : Text) : Prop where
  parts : ∃ hook loader : Text,
    text = unlines naming.preamble ++ (l.stubs.map Prod.snd).flatten ++ hook ++ loader ∧
      IsTable naming.hookHeading "INJECT".toList l.hooked hook ∧
      IsTable naming.loaderHeading "LOAD_GL_FUNC".toList l.loaded loader
  stubs : ∀ s ∈ l.stubs, IsStub naming.stubPrefix s.1 s.2
  functions : naming.Legible → defined (lines text) =
    l.stubbed.map (naming.stubPrefix ++ ·) ++ [naming.injectFunction, naming.loaderFunction]
  hooks : naming.Legible → entries "INJECT".toList (lines text) = l.hooked
  loads : naming.Legible → entries "LOAD_GL_FUNC".toList (lines text) = l.loaded

/-- Whatever a text is read as, it is read in one way only. -/
theorem IsTraceSource.unique {naming : Naming} {k l : Layout} {text : Text}
    (hk : IsTraceSource naming k text) (hl : IsTraceSource naming l text) (h : naming.Legible) :
    k.stubbed = l.stubbed ∧ k.hooked = l.hooked ∧ k.loaded = l.loaded := by
  have hfunctions := (hk.functions h).symm.trans (hl.functions h)
  refine ⟨?_, (hk.hooks h).symm.trans (hl.hooks h), (hk.loads h).symm.trans (hl.loads h)⟩
  exact List.map_injective_iff.2 (List.append_right_injective naming.stubPrefix)
    (List.append_cancel_right hfunctions)

/-- A macro that no statement of a stub uses. -/
structure IsEntryMacro (entryMacro : Text) : Prop where
  isPart : ∀ c ∈ entryMacro, Identifier.isPart c
  ne_printf : "printf".toList ≠ entryMacro
  ne_assert : "assert".toList ≠ entryMacro

theorem isEntryMacro_inject : IsEntryMacro "INJECT".toList :=
  ⟨List.all_eq_true.1 (by decide), by decide, by decide⟩

theorem isEntryMacro_load : IsEntryMacro "LOAD_GL_FUNC".toList :=
  ⟨List.all_eq_true.1 (by decide), by decide, by decide⟩

/-- What stands on the line of the forwarded call before the arguments. -/
theorem Signature.stem_forward {f : TracedFunction} (h : f.Named) :
    stem ('\t' :: f.signature.keeping ++
      (apiHook ++ '.' :: (f.signature.name ++ f.signature.passing))) =
    '\t' :: f.signature.keeping ++ (apiHook ++ '.' :: f.name) := by
  have hkeeping : '(' ∉ f.signature.keeping := by
    unfold keeping
    split
    · exact List.not_mem_nil
    · exact fun hmem => (List.mem_append.1 hmem).elim f.result.not_mem_spelling (by decide)
  have hbefore : '(' ∉ '\t' :: f.signature.keeping ++ (apiHook ++ '.' :: f.name) := by
    simp [hkeeping, Identifier.not_mem_of_isValid h.function (c := '(') rfl]
    decide
  have := stem_append hbefore (join ", ".toList (f.signature.parameters.map Parameter.name) ++
    ");".toList)
  simpa [passing] using this

namespace Stub

variable {f : TracedFunction} {naming : Naming} {entryMacro : Text}

/-- The lines of a stub. -/
def lines (s : Stub) : List Text := s.opening :: s.block

/-- The lines of a stub between its braces. -/
def statements (s : Stub) : List Text := s.body.map fun b => '\t' :: b.print

theorem print_block (s : Stub) : s.print =
    s.opening ++ '\n' :: unlines ("\x7b".toList :: s.statements ++ ["\x7d".toList, []]) :=
  unlines_cons _ _

theorem isLine_statements (naming : Naming) (h : f.Named) :
    ∀ l ∈ (ofFunction naming f).statements, IsLine l ∧ l.head? = some '\t' := fun l hl => by
  refine ⟨isLine_block naming h l (List.mem_cons_of_mem _ (List.mem_append_left _ hl)), ?_⟩
  obtain ⟨b, -, rfl⟩ := List.mem_map.1 hl
  rfl

/-- The stub of a function is one, whatever its name begins with. -/
theorem isStub_print (naming : Naming) (h : f.Named) :
    IsStub naming.stubPrefix f.name (ofFunction naming f).print := by
  have hstatements := isLine_statements naming h
  have hblock : memberAccesses (unlines (ofFunction naming f).block) =
      memberAccesses (unlines (ofFunction naming f).statements) := by
    have hends : ["\x7d".toList, []].flatMap memberAccesses = [] := by decide
    rw [memberAccesses_unlines, memberAccesses_unlines, block, List.cons_append,
      List.flatMap_cons, List.flatMap_append, hends, List.append_nil]
    rfl
  constructor
  case heading =>
    refine ⟨_, _, not_mem_resultType f, plain_resultType f, plain_parameters h, ?_⟩
    rw [print_block]
    exact isBlock_of_lines _ hstatements
  case accesses =>
    rw [print_block, lastBlock_eq _ hstatements, ← hblock, block_eq]
    exact Signature.memberAccesses_wrapping h

/-- The name of a stub stands before the first parenthesis of its first line. -/
theorem stem_opening (hp : ∀ c ∈ naming.stubPrefix, Identifier.isPart c) (h : f.Named) :
    stem (ofFunction naming f).opening = resultType f ++ ' ' :: (naming.stubPrefix ++ f.name) := by
  have hsymbol : '(' ∉ naming.stubPrefix ++ f.name := fun hmem =>
    (List.mem_append.1 hmem).elim (not_mem_of_isPart hp rfl)
      (Identifier.not_mem_of_isValid h.function rfl)
  have hbefore : '(' ∉ resultType f ++ ' ' :: (naming.stubPrefix ++ f.name) := fun hmem =>
    (List.mem_append.1 hmem).elim (not_mem_resultType f)
      fun hmem => (List.mem_cons.1 hmem).elim (by decide) hsymbol
  have hline : (ofFunction naming f).opening = (resultType f ++ ' ' ::
      (naming.stubPrefix ++ f.name)) ++ '(' :: (join ", ".toList
        (f.parameters.map fun p => p.type.spelling ++ ' ' :: p.name) ++ [')']) :=
    List.append_assoc _ _ _
  rw [hline, stem_append hbefore]

theorem leftParen_mem_opening (naming : Naming) (f : TracedFunction) :
    '(' ∈ (ofFunction naming f).opening :=
  List.mem_append_left _ (List.mem_append_right _ List.mem_cons_self)

theorem defined_lines (hp : ∀ c ∈ naming.stubPrefix, Identifier.isPart c) (h : f.Named) :
    defined (ofFunction naming f).lines = [naming.stubPrefix ++ f.name] := by
  have hline := leftParen_mem_opening naming f
  have hsymbol : ∀ c ∈ naming.stubPrefix ++ f.name, Identifier.isPart c :=
    List.forall_mem_append.2 ⟨hp, Identifier.all_isPart_of_isValid h.function⟩
  have hends : Token.endsName (resultType f ++ [' ']).reverse := by
    rw [List.reverse_append]
    rfl
  refine (defined_block hline (isLine_statements naming h)).trans ?_
  rw [stem_opening hp h, List.append_cons, lastName_append hends, lastName_of_isPart hsymbol]

/-- No line of a stub applies a macro, since what its statements call is none. -/
theorem entries_lines (hm : IsEntryMacro entryMacro)
    (hp : ∀ c ∈ naming.stubPrefix, Identifier.isPart c) (h : f.Named) :
    Text.entries entryMacro (ofFunction naming f).lines = [] := by
  have hopening : entryOn? entryMacro (ofFunction naming f).opening = none := by
    refine entryOn?_of_mem_stem hm.isPart ?_ (show ' ' ≠ '\t' by decide) rfl
    rw [stem_opening hp h]
    exact List.mem_append_right _ List.mem_cons_self
  have hparen : '(' ∉ entryMacro := not_mem_of_isPart hm.isPart rfl
  have hannounce : entryOn? entryMacro
      ('\t' :: (Statement.announce f.name f.parameters).print) = none :=
    entryOn?_eq_none hparen fun heq => hm.ne_printf (List.tail_eq_of_cons_eq heq)
  have hcheck : entryOn? entryMacro ('\t' :: checkStatement) = none :=
    entryOn?_eq_none hparen fun heq => hm.ne_assert (List.tail_eq_of_cons_eq heq)
  have hforward : entryOn? entryMacro ('\t' :: f.signature.keeping ++
      (apiHook ++ '.' :: (f.signature.name ++ f.signature.passing))) = none := by
    refine entryOn?_of_mem_stem hm.isPart ?_ (show '.' ≠ '\t' by decide) rfl
    rw [Signature.stem_forward h]
    exact List.mem_append_right _ (List.mem_append_right _ List.mem_cons_self)
  have hreturning : ∀ l ∈ f.signature.returning, entryOn? entryMacro l = none := by
    unfold Signature.returning
    split
    · exact List.forall_mem_nil _
    · exact List.forall_mem_singleton.2
        (entryOn?_of_mem_stem hm.isPart (show ' ' ∈ _ by decide) (by decide) rfl)
  refine List.filterMap_eq_nil_iff.2 (List.forall_mem_cons.2 ⟨hopening, ?_⟩)
  rw [block_eq, Signature.wrapping, List.forall_mem_append, List.forall_mem_append]
  refine ⟨⟨?_, hreturning⟩, ?_⟩
  · exact List.forall_mem_cons.2 ⟨entryOn?_of_head _ (by decide), List.forall_mem_cons.2
      ⟨hannounce, List.forall_mem_cons.2 ⟨hforward, List.forall_mem_singleton.2 hcheck⟩⟩⟩
  · exact List.forall_mem_cons.2 ⟨entryOn?_of_head _ (by decide), List.forall_mem_singleton.2
      (entryOn?_of_head _ (by decide))⟩

end Stub

namespace Table

variable {t : Table} {entryMacro : Text}

/-- The lines of a table between its braces. -/
def statements (t : Table) : List Text :=
  t.preparation.map ('\t' :: ·) ++ t.entries.map t.entryLine

/-- A table whose entries can be told from its other statements. -/
structure Distinct (t : Table) : Prop where
  entryMacro : ∀ c ∈ t.entryMacro, Identifier.isPart c
  preparation : ∀ l ∈ t.preparation, IsLine ('\t' :: l) ∧ ' ' ∈ stem l
  entries : ∀ n ∈ t.entries, Identifier.isValid n

theorem print_eq (t : Table) : t.print = (t.definition ++ '\n' :: '\n' :: t.opening) ++
    '\n' :: unlines ("\x7b".toList :: t.statements ++ ["\x7d".toList, []]) := by
  simp [print, statements, List.append_assoc]

theorem isLine_entryLine (h : t.Distinct) {n : Text} (hn : n ∈ t.entries) :
    IsLine (t.entryLine n) := by
  have hmacro : Plain t.entryMacro :=
    List.all_eq_true.2 fun c hc => isPlainChar_of_isPart (h.entryMacro c hc)
  refine Plain.isLine (plain_append.2 ⟨plain_append.2 ⟨plain_cons.2 ⟨by decide, hmacro⟩,
    plain_cons.2 ⟨by decide, plain_of_isValid (h.entries n hn)⟩⟩, by decide⟩)

theorem isLine_statements (h : t.Distinct) :
    ∀ l ∈ t.statements, IsLine l ∧ l.head? = some '\t' := by
  refine List.forall_mem_append.2 ⟨List.forall_mem_map.2 fun l hl => ?_,
    List.forall_mem_map.2 fun n hn => ?_⟩
  · exact ⟨(h.preparation l hl).1, rfl⟩
  · exact ⟨isLine_entryLine h hn, rfl⟩

theorem entryOn?_preparation (h : t.Distinct) (hm : ∀ c ∈ entryMacro, Identifier.isPart c)
    {l : Text} (hl : l ∈ t.preparation) : entryOn? entryMacro ('\t' :: l) = none :=
  entryOn?_of_mem_stem hm (List.mem_cons_of_mem _ (h.preparation l hl).2) (by decide) rfl

theorem entries_statements (h : t.Distinct) :
    Text.entries t.entryMacro t.statements = t.entries := by
  have hentry : ∀ n ∈ t.entries, entryOn? t.entryMacro (t.entryLine n) = some n := fun n hn =>
    entryOn?_entryLine (not_mem_of_isPart h.entryMacro rfl)
      (Identifier.not_mem_of_isValid (h.entries n hn) rfl)
  have hpreparation : (t.preparation.map ('\t' :: ·)).filterMap (entryOn? t.entryMacro) = [] :=
    List.filterMap_eq_nil_iff.2
      (List.forall_mem_map.2 fun l hl => entryOn?_preparation h h.entryMacro hl)
  rw [Text.entries, statements, List.filterMap_append, hpreparation, List.nil_append,
    List.filterMap_map]
  exact (List.filterMap_congr hentry).trans List.filterMap_some

/-- The entries of a table are not those of another. -/
theorem entries_statements_of_ne (h : t.Distinct) (hm : ∀ c ∈ entryMacro, Identifier.isPart c)
    (hne : t.entryMacro ≠ entryMacro) : Text.entries entryMacro t.statements = [] := by
  refine List.filterMap_eq_nil_iff.2 (List.forall_mem_append.2
    ⟨List.forall_mem_map.2 fun l hl => entryOn?_preparation h hm hl,
      List.forall_mem_map.2 fun n hn => ?_⟩)
  refine entryOn?_eq_none (not_mem_of_isPart hm rfl) fun heq => hne ?_
  have hmacro : '(' ∉ '\t' :: t.entryMacro := by simpa using not_mem_of_isPart h.entryMacro rfl
  rw [entryLine, List.append_assoc] at heq
  exact List.tail_eq_of_cons_eq ((stem_append hmacro _).symm.trans heq)

theorem isTable_print (h : t.Distinct) :
    IsTable (t.definition ++ '\n' :: '\n' :: t.opening) t.entryMacro t.entries t.print := by
  have hstatements := isLine_statements h
  rw [print_eq]
  exact ⟨isBlock_of_lines _ hstatements, by rw [lastBlock_eq _ hstatements, entries_statements h]⟩

/-- The lines of a table. -/
def lines (t : Table) : List Text :=
  t.definition :: [] :: t.opening :: "\x7b".toList :: t.statements ++ ["\x7d".toList, []]

theorem unlines_lines (t : Table) : unlines t.lines = t.print := by
  simp [print, lines, statements]

/-- A table whose lines can be told apart. -/
structure Legible (t : Table) : Prop extends t.Distinct where
  definition : IsLine t.definition ∧ t.definition.head? ≠ some '\t'
  opening : IsLine t.opening ∧ t.opening.head? ≠ some '\t' ∧ '(' ∈ t.opening

theorem Legible.isLine (h : t.Legible) : ∀ l ∈ t.lines, IsLine l := by
  refine List.forall_mem_append.2 ⟨List.forall_mem_cons.2 ⟨h.definition.1, List.forall_mem_cons.2
    ⟨by decide, List.forall_mem_cons.2 ⟨h.opening.1, List.forall_mem_cons.2 ⟨by decide, ?_⟩⟩⟩⟩, ?_⟩
  · exact fun l hl => (isLine_statements h.toDistinct l hl).1
  · exact List.forall_mem_cons.2 ⟨by decide, List.forall_mem_singleton.2 (by decide)⟩

/-- All entries on the lines of a table are among its statements. -/
theorem Legible.entries_lines (h : t.Legible) (entryMacro : Text) :
    Text.entries entryMacro t.lines = Text.entries entryMacro t.statements := by
  have hends : Text.entries entryMacro ["\x7d".toList, []] = [] := by
    rw [Text.entries, List.filterMap_eq_nil_iff]
    exact List.forall_mem_cons.2 ⟨entryOn?_of_head _ (by decide),
      List.forall_mem_singleton.2 (entryOn?_of_head _ (by decide))⟩
  unfold Text.entries at hends ⊢
  rw [lines, List.cons_append, List.filterMap_cons_none (entryOn?_of_head _ h.definition.2),
    List.cons_append, List.filterMap_cons_none (entryOn?_of_head _ (by decide)), List.cons_append,
    List.filterMap_cons_none (entryOn?_of_head _ h.opening.2.1), List.cons_append,
    List.filterMap_cons_none (entryOn?_of_head _ (by decide)), List.filterMap_append, hends,
    List.append_nil]

/-- A table is the body of one function. -/
theorem Legible.defined_lines (h : t.Legible) : defined t.lines = [lastName (stem t.opening)] := by
  have hopening : t.opening ≠ "\x7b".toList := by
    intro heq
    exact absurd (heq ▸ h.opening.2.2) (by decide)
  rw [lines, List.cons_append, List.cons_append, List.cons_append, List.cons_append,
    defined_cons_of_ne (by decide), defined_cons_of_ne hopening,
    defined_block h.opening.2.2 (isLine_statements h.toDistinct)]

section

variable {naming : Naming} {names : List Text}

theorem distinct_hook (hn : ∀ n ∈ names, Identifier.isValid n) (naming : Naming) :
    (hook naming names).Distinct where
  entryMacro := isEntryMacro_inject.isPart
  preparation := List.forall_mem_singleton.2 (by decide)
  entries n h := hn n (List.mem_of_mem_filter h)

theorem distinct_loader (hn : ∀ n ∈ names, Identifier.isValid n) (naming : Naming) :
    (loader naming names).Distinct where
  entryMacro := isEntryMacro_load.isPart
  preparation := List.forall_mem_nil _
  entries := hn

theorem isTable_hook (hn : ∀ n ∈ names, Identifier.isValid n) (naming : Naming) :
    IsTable naming.hookHeading "INJECT".toList (names.filter (· != errorQuery))
      (hook naming names).print :=
  isTable_print (distinct_hook hn naming)

theorem isTable_loader (hn : ∀ n ∈ names, Identifier.isValid n) (naming : Naming) :
    IsTable naming.loaderHeading "LOAD_GL_FUNC".toList names (loader naming names).print :=
  isTable_print (distinct_loader hn naming)

/-- The line that the function of a table begins with. -/
theorem isLine_function {function behind : Text} (hf : '\n' ∉ function)
    (ht : '\n' ∉ naming.apiType) (hb : IsLine behind) (hne : behind ≠ []) :
    IsLine ("void ".toList ++ function ++ '(' :: naming.apiType ++ behind) := by
  refine isLine_append ?_ hb hne
  intro h
  rcases List.mem_append.1 h with h | h
  · exact (List.mem_append.1 h).elim (by decide) hf
  · exact (List.mem_cons.1 h).elim (by decide) ht

/-- The function of a table is named before the first parenthesis of that line. -/
theorem lastName_stem {function : Text} (h : ∀ c ∈ function, Identifier.isPart c) (type : Text)
    (behind : Text) :
    lastName (stem ("void ".toList ++ function ++ '(' :: type ++ behind)) = function := by
  have hbefore : '(' ∉ "void ".toList ++ function := fun hmem =>
    (List.mem_append.1 hmem).elim (by decide) (not_mem_of_isPart h rfl)
  rw [List.append_assoc]
  exact (congrArg lastName (stem_append hbefore _)).trans
    ((lastName_append (by decide) function).trans (lastName_of_isPart h))

theorem legible_hook (hn : ∀ n ∈ names, Identifier.isValid n) (h : naming.Legible) :
    (hook naming names).Legible where
  toDistinct := distinct_hook hn naming
  definition := by
    have hhead : (hook naming names).definition.head? = some '#' := rfl
    refine ⟨isLine_append ?_ (by decide) (by decide), by rw [hhead]; decide⟩
    exact fun hmem => (List.mem_append.1 hmem).elim (by decide) (not_mem_of_isPart h.stubPrefix rfl)
  opening := by
    have hhead : (hook naming names).opening.head? = some 'v' := rfl
    refine ⟨?_, by rw [hhead]; decide, ?_⟩
    · exact isLine_function (not_mem_of_isPart h.injectFunction rfl) h.apiType.1 (by decide)
        (by decide)
    · exact List.mem_append_left _ (List.mem_append_right _ List.mem_cons_self)

theorem legible_loader (hn : ∀ n ∈ names, Identifier.isValid n) (h : naming.Legible) :
    (loader naming names).Legible where
  toDistinct := distinct_loader hn naming
  definition := by
    have hfixed : (loader naming names).definition = (loader .standard []).definition := rfl
    rw [hfixed]
    decide
  opening := by
    have hhead : (loader naming names).opening.head? = some 'v' := rfl
    refine ⟨?_, by rw [hhead]; decide, ?_⟩
    · exact isLine_function (not_mem_of_isPart h.loaderFunction rfl) h.apiType.1 (by decide)
        (by decide)
    · exact List.mem_append_left _ (List.mem_append_right _ List.mem_cons_self)

end

end Table

namespace TraceSource

variable {naming : Naming} {fs : List TracedFunction} {names : List Text}
  (hf : ∀ f ∈ fs, f.Named) (hn : ∀ n ∈ names, Identifier.isValid n)

/-- The lines of a trace source. -/
def lines (naming : Naming) (fs : List TracedFunction) (names : List Text) : List Text :=
  naming.preamble ++ (fs.flatMap fun f => (Stub.ofFunction naming f).lines) ++
    (Table.hook naming names).lines ++ (Table.loader naming names).lines

theorem preamble_eq (naming : Naming) : preamble naming.apiType = unlines naming.preamble := by
  have htype : '\t' :: naming.apiType ++ ' ' :: apiHook ++ [';'] =
      '\t' :: naming.apiType ++ " apiHook;".toList := List.append_assoc _ _ _
  rw [preamble, htype]
  rfl

theorem unlines_lines (naming : Naming) (fs : List TracedFunction) (names : List Text) :
    unlines (lines naming fs names) = print ⟨naming.apiType, fs.map (Stub.ofFunction naming),
      .hook naming names, .loader naming names⟩ := by
  rw [lines, unlines_append, unlines_append, unlines_append, unlines_flatMap, Table.unlines_lines,
    Table.unlines_lines, print, List.flatMap_map, preamble_eq]
  rfl

section

include hf hn

variable {entryMacro : Text}

theorem isLine_lines (h : naming.Legible) : ∀ l ∈ lines naming fs names, IsLine l := by
  have hprefix : '\n' ∉ naming.stubPrefix := not_mem_of_isPart h.stubPrefix rfl
  refine List.forall_mem_append.2 ⟨List.forall_mem_append.2 ⟨List.forall_mem_append.2
    ⟨h.isLine_preamble, ?_⟩, (Table.legible_hook hn h).isLine⟩, (Table.legible_loader hn h).isLine⟩
  intro l hl
  obtain ⟨f, hmem, hl⟩ := List.mem_flatMap.1 hl
  exact List.forall_mem_cons.2
    ⟨Stub.isLine_opening hprefix (hf f hmem), Stub.isLine_block naming (hf f hmem)⟩ l hl

theorem entries_lines (h : naming.Legible) (hm : IsEntryMacro entryMacro) :
    entries entryMacro (lines naming fs names) =
      entries entryMacro (Table.hook naming names).statements ++
        entries entryMacro (Table.loader naming names).statements := by
  have hstubs : entries entryMacro (fs.flatMap fun f => (Stub.ofFunction naming f).lines) = [] := by
    refine List.filterMap_eq_nil_iff.2 fun l hl => ?_
    obtain ⟨f, hmem, hl⟩ := List.mem_flatMap.1 hl
    exact List.filterMap_eq_nil_iff.1 (Stub.entries_lines hm h.stubPrefix (hf f hmem)) l hl
  have hpreamble := h.entries_preamble hm.isPart
  have hhook := (Table.legible_hook hn h).entries_lines entryMacro
  have hloader := (Table.legible_loader hn h).entries_lines entryMacro
  unfold entries at hstubs hpreamble hhook hloader ⊢
  rw [lines, List.filterMap_append, List.filterMap_append, List.filterMap_append, hpreamble, hstubs,
    hhook, hloader, List.nil_append, List.nil_append]

end

/-- The functions that stubs define, before lines that begin with something else than a block. -/
theorem defined_stubs (hf : ∀ f ∈ fs, f.Named) (h : naming.Legible) {ms : List Text}
    (hms : ms.head? ≠ some "\x7b".toList) :
    let ls := (fs.flatMap fun f => (Stub.ofFunction naming f).lines) ++ ms
    defined ls = (fs.map TracedFunction.name).map (naming.stubPrefix ++ ·) ++ defined ms ∧
      ls.head? ≠ some "\x7b".toList := by
  induction fs with
  | nil => exact ⟨rfl, hms⟩
  | cons f fs ih =>
    obtain ⟨hnamed, hfs⟩ := List.forall_mem_cons.1 hf
    obtain ⟨hdefined, hhead⟩ := ih hfs
    have hopening : (Stub.ofFunction naming f).opening ≠ "\x7b".toList := fun heq =>
      absurd (heq ▸ Stub.leftParen_mem_opening naming f) (by decide)
    refine ⟨?_, fun heq => hopening (Option.some.inj heq)⟩
    rw [List.flatMap_cons, List.append_assoc, defined_append hhead, hdefined,
      Stub.defined_lines h.stubPrefix hnamed]
    rfl

theorem defined_lines (hf : ∀ f ∈ fs, f.Named) (hn : ∀ n ∈ names, Identifier.isValid n)
    (h : naming.Legible) :
    defined (lines naming fs names) = (fs.map TracedFunction.name).map (naming.stubPrefix ++ ·) ++
      [naming.injectFunction, naming.loaderFunction] := by
  have hhook : ((Table.hook naming names).lines ++ (Table.loader naming names).lines).head? ≠
      some "\x7b".toList := fun heq =>
    absurd (show some '#' = some '\x7b' from congrArg List.head? (Option.some.inj heq)) (by decide)
  have hloader : (Table.loader naming names).lines.head? ≠ some "\x7b".toList := fun heq =>
    absurd (show some '#' = some '\x7b' from congrArg List.head? (Option.some.inj heq)) (by decide)
  have htables : defined ((Table.hook naming names).lines ++ (Table.loader naming names).lines) =
      [naming.injectFunction, naming.loaderFunction] := by
    rw [defined_append hloader, (Table.legible_hook hn h).defined_lines,
      (Table.legible_loader hn h).defined_lines]
    exact congrArg₂ (fun s t => [s, t]) (Table.lastName_stem h.injectFunction _ _)
      (Table.lastName_stem h.loaderFunction _ _)
  obtain ⟨hdefined, hhead⟩ := defined_stubs hf h hhook
  rw [lines, List.append_assoc, List.append_assoc, defined_append hhead, naming.defined_preamble,
    hdefined, htables, List.nil_append]

/-- What is printed is a trace source that holds what it is made of. -/
theorem isTraceSource_print (naming : Naming) (hf : ∀ f ∈ fs, f.Named)
    (hn : ∀ n ∈ names, Identifier.isValid n) :
    IsTraceSource naming ⟨fs.map fun f => (f.name, (Stub.ofFunction naming f).print),
        names.filter (· != errorQuery), names⟩
      (print ⟨naming.apiType, fs.map (Stub.ofFunction naming), .hook naming names,
        .loader naming names⟩) := by
  have hlines : naming.Legible → Text.lines (print ⟨naming.apiType,
      fs.map (Stub.ofFunction naming), .hook naming names, .loader naming names⟩) =
      lines naming fs names := fun h => by
    rw [← unlines_lines, lines_unlines (isLine_lines hf hn h)]
  constructor
  case parts =>
    refine ⟨_, _, ?_, Table.isTable_hook hn naming, Table.isTable_loader hn naming⟩
    rw [print, preamble_eq, List.flatMap_map, List.flatMap_def, List.map_map]
    rfl
  case stubs =>
    refine List.forall_mem_map.2 fun f hmem => ?_
    exact Stub.isStub_print naming (hf f hmem)
  case functions =>
    intro h
    have hstubbed : (fs.map fun f => (f.name, (Stub.ofFunction naming f).print)).map Prod.fst =
        fs.map TracedFunction.name := List.map_map
    rw [hlines h, defined_lines hf hn h, Layout.stubbed, hstubbed]
  case hooks =>
    intro h
    have hothers := Table.entries_statements_of_ne (Table.distinct_loader hn naming)
      isEntryMacro_inject.isPart
      (fun heq => absurd (show "LOAD_GL_FUNC".toList = _ from heq) (by decide))
    rw [hlines h, entries_lines hf hn h isEntryMacro_inject, hothers, List.append_nil]
    exact Table.entries_statements (Table.distinct_hook hn naming)
  case loads =>
    intro h
    have hothers := Table.entries_statements_of_ne (Table.distinct_hook hn naming)
      isEntryMacro_load.isPart (fun heq => absurd (show "INJECT".toList = _ from heq) (by decide))
    rw [hlines h, entries_lines hf hn h isEntryMacro_load, hothers, List.nil_append]
    exact Table.entries_statements (Table.distinct_loader hn naming)

end TraceSource

end CallTracer
