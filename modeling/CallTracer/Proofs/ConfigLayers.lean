import CallTracer.Proofs.ConfigFile
import CallTracer.Proofs.Containment
import CallTracer.Proofs.RegistryEntries
/-! The settings of a run, which come in layers: the arguments over the configuration file over the
standard. Every field is taken from the first layer that has it. -/
namespace CallTracer.CommandLine
open Config Json

/-- What the configuration file gives to fields, in any order: nothing if there is none, and what
its members say if it holds an object. -/
inductive FileGives (w : World) : Option Text → List (Field × Option Text) → Prop
  | missing : FileGives w none []
  | object {path s ms known given} (holds : w.tree.read path = .ok s) (object : IsObject ms s)
      (members : Given ms known) (order : known.Perm given) : FileGives w (some path) given

/-- What the first of three layers has. -/
def layered {α : Type} (argument file : Option α) (standard : α) : α :=
  argument.getD (file.getD standard)

/-- A configuration of which each field is the value of its own argument, or else the one that the
file gives, or else the standard one. The names of generated symbols have no arguments. -/
structure Layered (a : Arguments) (given : List (Field × Option Text)) (c : Config) : Prop where
  functionList : c.functionList =
    layered a.functionList (given.lookup .functionList).join "funcs_list.txt".toList
  header : c.header = layered a.header (given.lookup .header).join "glcorearb.h".toList
  traceOutput : c.traceOutput = layered (a.output.map some) (given.lookup .traceOutput) none
  structOutput : c.structOutput =
    layered a.structOutput (given.lookup .structOutput).join "GLAPI.h".toList
  marker : c.options.marker = layered a.marker (given.lookup .marker).join "GLAPI".toList
  stubPrefix : c.options.naming.stubPrefix =
    layered none (given.lookup .stubPrefix).join "GLTracer_".toList
  apiType : c.options.naming.apiType = layered none (given.lookup .apiType).join "GL4API".toList
  injectFunction : c.options.naming.injectFunction =
    layered none (given.lookup .injectFunction).join "InjectAPITracer4".toList
  loaderFunction : c.options.naming.loaderFunction =
    layered none (given.lookup .loaderFunction).join "GetAPI4".toList

variable {a : Arguments} {given given' : List (Field × Option Text)} {w : World} {c : Config}
  {f : Field}

theorem lookup_of_perm (h : given.Perm given') (hmet : (given.map Prod.fst).Nodup) (f : Field) :
    given.lookup f = given'.lookup f := by
  have hmet' : (given'.map Prod.fst).Nodup := (h.map Prod.fst).nodup_iff.1 hmet
  refine Option.ext fun value => ?_
  rw [Registry.lookup_eq_some_iff_mem hmet, Registry.lookup_eq_some_iff_mem hmet', h.mem_iff]

/-- One argument changes one field. -/
theorem get_overrideField (a : Arguments) (c : Config) (e f : Field) :
    (((a.override? e).map (c.put e)).getD c).get f =
      if e = f then ((a.override? f).map some).getD (c.get f) else c.get f := by
  cases ht : a.override? e with
  | none =>
    split
    · rename_i hf
      rw [← hf, ht]
      rfl
    · rfl
  | some t =>
    rw [Option.map_some, Option.getD_some, get_put]
    split
    · rename_i hf
      rw [← hf, ht]
      rfl
    · rfl

theorem get_override (a : Arguments) (c : Config) (f : Field) :
    (a.override c).get f = ((a.override? f).map some).getD (c.get f) := by
  have hfold : ∀ (fs : List Field) (c : Config), fs.Nodup →
      (fs.foldl (fun c f => ((a.override? f).map (c.put f)).getD c) c).get f =
        if f ∈ fs then ((a.override? f).map some).getD (c.get f) else c.get f := by
    intro fs
    induction fs with
    | nil => exact fun _ _ => rfl
    | cons e fs ih =>
      intro c hfs
      rw [List.nodup_cons] at hfs
      rw [List.foldl_cons, ih _ hfs.2, get_overrideField]
      by_cases hf : e = f
      · subst hf
        simp [hfs.1]
      · simp [hf, Ne.symm hf]
  rw [Arguments.override, hfold _ c Field.nodup_all, if_pos (Field.mem_all f)]

/-- A field that is never null, taken from the first layer that has it. -/
theorem eq_layered {t standard : Text} {argument : Option Text} {file : Option (Option Text)}
    (hfile : file ≠ some none)
    (h : some t = (argument.map some).getD (file.getD (some standard))) :
    t = layered argument file.join standard := by
  cases argument with
  | some value => exact Option.some.inj h
  | none =>
    cases file with
    | none => exact Option.some.inj h
    | some value =>
      cases value with
      | none => exact absurd rfl hfile
      | some value => exact Option.some.inj h

theorem layered_override (hmet : (given.map Prod.fst).Nodup)
    (hnull : ∀ g ∈ given, g.2 = none → g.1.isOptional) :
    Layered a given (a.override (standard.setAll given)) := by
  have hfields : ∀ f, (a.override (standard.setAll given)).get f =
      ((a.override? f).map some).getD ((given.lookup f).getD (standard.get f)) := fun f => by
    rw [get_override, get_setAll hmet hnull]
  have hfile : ∀ f : Field, f.isOptional = false → given.lookup f ≠ some none := by
    intro f hf h
    obtain ⟨before, after, hgiven, -⟩ := List.lookup_eq_some_iff.1 h
    rw [hnull (f, none) (by simp [hgiven]) rfl] at hf
    cases hf
  constructor
  case traceOutput => exact hfields .traceOutput
  case functionList => exact eq_layered (hfile .functionList rfl) (hfields .functionList)
  case header => exact eq_layered (hfile .header rfl) (hfields .header)
  case structOutput => exact eq_layered (hfile .structOutput rfl) (hfields .structOutput)
  case marker => exact eq_layered (hfile .marker rfl) (hfields .marker)
  case stubPrefix => exact eq_layered (hfile .stubPrefix rfl) (hfields .stubPrefix)
  case apiType => exact eq_layered (hfile .apiType rfl) (hfields .apiType)
  case injectFunction => exact eq_layered (hfile .injectFunction rfl) (hfields .injectFunction)
  case loaderFunction => exact eq_layered (hfile .loaderFunction rfl) (hfields .loaderFunction)

theorem FileGives.isOptional {config : Option Text} (h : FileGives w config given) :
    ∀ g ∈ given, g.2 = none → g.1.isOptional := by
  cases h with
  | missing => simp
  | object _ _ members order => exact fun g hg => members.isOptional g (order.mem_iff.2 hg)

/-- The order in which fields are set does not count. -/
theorem setAll_of_perm (h : given.Perm given') (hmet : (given.map Prod.fst).Nodup)
    (hnull : ∀ g ∈ given, g.2 = none → g.1.isOptional) : c.setAll given = c.setAll given' := by
  apply ext_get
  intro f
  rw [get_setAll hmet hnull, get_setAll ((h.map Prod.fst).nodup_iff.1 hmet)
    (fun g hg => hnull g (h.mem_iff.2 hg)), lookup_of_perm h hmet]

theorem reportIn_settings (hfile : FileGives w a.config given)
    (hmet : (given.map Prod.fst).Nodup) :
    (a.settings World.host).reportIn w = pure (a.override (standard.setAll given)) := by
  rw [Arguments.settings_eq]
  generalize a.config = config at hfile
  cases hfile with
  | missing => rfl
  | @object path s ms known _ holds object members order =>
    have hknown := (order.map Prod.fst).nodup_iff.2 hmet
    have hload := reportIn_load holds (read_of_object object members hknown)
    rw [Run.reportIn_bind, Run.reportIn_wrap, hload,
      setAll_of_perm order hknown members.isOptional]
    rfl

/-- The settings can be made over every file that holds an object of known and unknown members, and
each of their fields is taken from its own layers. -/
theorem settings_layered (hfile : FileGives w a.config given)
    (hmet : (given.map Prod.fst).Nodup) :
    ∃ c, (a.settings World.host).reportIn w = pure c ∧ (a.settings World.host).after w = w ∧
      Layered a given c :=
  ⟨_, reportIn_settings hfile hmet, a.passive_settings w,
    layered_override hmet hfile.isOptional⟩

/-- A file that names two fields, one of them null, with an unknown member between; and arguments
for one of the fields and for another. -/
theorem settings_layered_two_fields :
    let file := "\x7b\"header\" : \"a\\u00e9.h\",".toList ++
      " \"x\":[true, \x7b\x7d], \"trace_output\":null\x7d".toList
    let w : World := { World.initial with
      tree := FileTree.initial.put ["work".toList, "c.json".toList]
        (.file (String.ofList file).toUTF8) }
    let a := { Arguments.empty with
      config := some "c.json".toList, output := some "T.h".toList, marker := some "API".toList }
    let given := [(Field.traceOutput, none), (Field.header, some "aé.h".toList)]
    FileGives w a.config given ∧ (given.map Prod.fst).Nodup ∧
      ∃ c, (a.settings World.host).reportIn w = pure c ∧
        (a.settings World.host).after w = w ∧ Layered a given c := by
  intro file w a given
  have hread : w.tree.read "c.json".toList = .ok file := FileTree.read_of_resolve rfl
  have hspace : Blanks [' '] := by decide
  have hending : Spells ".h".toList ".h".toList := spells_self (by simp)
  have hname : Spells "a\\u00e9.h".toList "aé.h".toList :=
    .plain (by decide) (by decide) (by decide)
      (.unit (u := "00e9".toList) (.digits rfl rfl rfl rfl) rfl rfl hending)
  have htrue : Derives .value "true".toList := .word (by simp)
  have hnull : Derives .value "null".toList := .word (by simp)
  have hempty : Derives .value "\x7b\x7d".toList := .empty (b := .object) blanks_nil
  have hlist : Derives .value "[true, \x7b\x7d]".toList :=
    .bracket (.more (.listed blanks_nil htrue blanks_nil)
      (.last (.listed hspace hempty blanks_nil)))
  have hheaderKey : Spells "header".toList "header".toList := spells_self (by simp)
  have hheader := IsMember.parts (m := ⟨Field.header.key, quoted "a\\u00e9.h".toList⟩) blanks_nil
    hheaderKey hspace hspace (.string hname.quotable) blanks_nil
  have hunknownKey : Spells ['x'] ['x'] := spells_self (by simp)
  have hunknown := IsMember.parts (m := ⟨['x'], "[true, \x7b\x7d]".toList⟩) hspace hunknownKey
    blanks_nil blanks_nil hlist blanks_nil
  have htraceKey : Spells "trace_output".toList "trace_output".toList := spells_self (by simp)
  have htrace := IsMember.parts (m := ⟨Field.traceOutput.key, "null".toList⟩) hspace htraceKey
    blanks_nil blanks_nil hnull blanks_nil
  have hobject : IsObject _ file :=
    .braces blanks_nil (.members (.more hheader (.more hunknown (.last htrace)))) blanks_nil
  have hgiven : Given
      [⟨Field.header.key, quoted "a\\u00e9.h".toList⟩, ⟨['x'], "[true, \x7b\x7d]".toList⟩,
        ⟨Field.traceOutput.key, "null".toList⟩] given.reverse :=
    .known rfl (.text hname)
      (.unknown (fun f => by cases f <;> decide) (.known rfl (.null rfl) .nothing))
  have hfile : FileGives w a.config given :=
    .object hread hobject hgiven (List.reverse_perm given)
  have hmet : (given.map Prod.fst).Nodup := by decide
  exact ⟨hfile, hmet, settings_layered hfile hmet⟩

end CallTracer.CommandLine
