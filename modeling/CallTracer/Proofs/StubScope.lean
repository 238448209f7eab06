import CallTracer.Proofs.GenerationSuccess
/-! What the names in the body of a stub denote. The parameters bear the names that the header gives
them, the variable for the result and the saved functions have fixed names, and nothing keeps these
apart. Where they are different a stub forwards the call and gives its result back. -/
namespace CallTracer

/-- What a name in the body of a stub denotes. -/
inductive Entity
  /-- What the file declares under this name. -/
  | outside (name : Text)
  | parameter (position : Nat)
  /-- A variable of the body, which keeps the result of a call. -/
  | kept (name : Text)
  deriving DecidableEq, Repr

/-- The names that a function declares, the latest first. -/
abbrev Scope := List (Text × Entity)

namespace Scope

variable {names : List Text} {n : Text}

def denotes (scope : Scope) (n : Text) : Entity := (scope.lookup n).getD (.outside n)

/-- Names as parameters, of which the first has the given position. -/
def parametersFrom (position : Nat) : List Text → Scope
  | [] => []
  | n :: names => (n, .parameter position) :: parametersFrom (position + 1) names

def ofParameters (names : List Text) : Scope := parametersFrom 0 names

theorem denotes_cons_self (scope : Scope) (n : Text) (e : Entity) :
    denotes ((n, e) :: scope) n = e := by
  simp [denotes]

theorem denotes_cons_of_ne {m : Text} (h : n ≠ m) (scope : Scope) (e : Entity) :
    denotes ((m, e) :: scope) n = scope.denotes n := by
  have hne : (n == m) = false := beq_false_of_ne h
  rw [denotes, List.lookup_cons, hne]
  rfl

theorem denotes_parametersFrom_of_mem (h : n ∈ names) (position : Nat) :
    ∃ i, (parametersFrom position names).denotes n = .parameter i := by
  induction names generalizing position with
  | nil => exact absurd h List.not_mem_nil
  | cons m names ih =>
    by_cases heq : n = m
    · exact ⟨position, heq ▸ denotes_cons_self _ n _⟩
    · obtain ⟨i, hi⟩ := ih ((List.mem_cons.1 h).resolve_left heq) (position + 1)
      exact ⟨i, (denotes_cons_of_ne heq _ _).trans hi⟩

theorem denotes_parametersFrom_of_not_mem (h : n ∉ names) (position : Nat) :
    (parametersFrom position names).denotes n = .outside n := by
  induction names generalizing position with
  | nil => rfl
  | cons m names ih =>
    obtain ⟨hne, hnot⟩ := List.ne_and_not_mem_of_not_mem_cons h
    exact (denotes_cons_of_ne hne _ _).trans (ih hnot (position + 1))

/-- A name reaches what is outside exactly if no parameter bears it. -/
theorem denotes_ofParameters_eq_outside_iff :
    (ofParameters names).denotes n = .outside n ↔ n ∉ names := by
  refine ⟨fun h hn => ?_, fun h => denotes_parametersFrom_of_not_mem h 0⟩
  obtain ⟨i, hi⟩ := denotes_parametersFrom_of_mem hn 0
  rw [ofParameters, hi] at h
  cases h

theorem map_denotes_parametersFrom (h : names.Nodup) (position : Nat) :
    names.map (parametersFrom position names).denotes =
      (List.range' position names.length).map .parameter := by
  induction names generalizing position with
  | nil => rfl
  | cons m names ih =>
    obtain ⟨hm, hnames⟩ := List.nodup_cons.1 h
    have hrest : ∀ n ∈ names, denotes (parametersFrom position (m :: names)) n =
        (parametersFrom (position + 1) names).denotes n := fun n hn =>
      denotes_cons_of_ne (ne_of_mem_of_not_mem hn hm) _ _
    rw [List.map_cons, List.map_congr_left hrest, ih hnames, List.length_cons, List.range'_succ,
      List.map_cons]
    exact congrArg (· :: _) (denotes_cons_self _ m _)

/-- Different names denote the parameters in their order. -/
theorem map_denotes_ofParameters (h : names.Nodup) :
    names.map (ofParameters names).denotes = (List.range names.length).map .parameter := by
  rw [List.range_eq_range']
  exact map_denotes_parametersFrom h 0

end Scope

/-- What a statement does, with what its names denote. A call puts its result into a variable or
leaves it. -/
inductive Action
  | announce (values : List Entity)
  | call (target : Option Text) (holder : Entity) (function : Text) (arguments : List Entity)
  | giveBack (value : Entity)
  deriving DecidableEq, Repr

/-- What a call takes its function from. -/
def Action.holder? : Action → Option Entity
  | call _ holder _ _ => some holder
  | _ => none

/-- What forwarding a call consists of: it is announced, made and followed by the check of the error
state, both through the same holder, and a result is kept and given back. -/
def Action.forwarding (holder : Entity) (function : Text) (arguments : List Entity)
    (returnsVoid : Bool) : List Action :=
  .announce arguments ::
    if returnsVoid then [.call none holder function arguments, .call none holder errorQuery []]
    else [.call (some Stub.resultName) holder function arguments, .call none holder errorQuery [],
      .giveBack (.kept Stub.resultName)]

namespace Statement

variable {scope : Scope} {s : Statement} {body : List Statement} {n : Text}

def declared? : Statement → Option Text
  | keep _ name _ => some name
  | _ => none

/-- The scope in which a statement stands: a variable is declared from its own initial value on. -/
def enter (scope : Scope) (s : Statement) : Scope :=
  match s.declared? with
  | some n => (n, .kept n) :: scope
  | none => scope

def action (scope : Scope) : Statement → Action
  | announce _ parameters => .announce (parameters.map fun p => scope.denotes p.name)
  | forward c =>
    .call none (scope.denotes apiHook) c.function (c.arguments.map scope.denotes)
  | keep _ name c =>
    .call (some name) (scope.denotes apiHook) c.function (c.arguments.map scope.denotes)
  | check => .call none (scope.denotes apiHook) errorQuery []
  | giveBack name => .giveBack (scope.denotes name)

/-- Statements with the scopes in which they stand. -/
def placed (scope : Scope) : List Statement → List (Scope × Statement)
  | [] => []
  | s :: body => (s.enter scope, s) :: placed (s.enter scope) body

/-- A statement changes what is denoted by no name but the one that it declares. -/
theorem denotes_enter (h : s.declared? ≠ some n) :
    (s.enter scope).denotes n = scope.denotes n := by
  unfold enter
  split
  · rename_i m hm
    refine Scope.denotes_cons_of_ne ?_ _ _
    rintro rfl
    exact h hm
  · rfl

/-- What no statement declares denotes the same all the way through. -/
theorem denotes_of_mem_placed (h : ∀ s ∈ body, s.declared? ≠ some n) {p : Scope × Statement}
    (hp : p ∈ placed scope body) : p.1.denotes n = scope.denotes n := by
  induction body generalizing scope with
  | nil => exact absurd hp List.not_mem_nil
  | cons s body ih =>
    obtain ⟨hs, hbody⟩ := List.forall_mem_cons.1 h
    rcases List.mem_cons.1 hp with rfl | hp
    · exact denotes_enter hs
    · exact (ih hbody hp).trans (denotes_enter hs)

theorem holder_of_action {holder : Entity} (h : holder ∈ (s.action scope).holder?) :
    holder = scope.denotes apiHook := by
  cases s <;> simp_all [action, Action.holder?]

theorem map_snd_placed (scope : Scope) (body : List Statement) :
    (placed scope body).map Prod.snd = body := by
  induction body generalizing scope with
  | nil => rfl
  | cons s body ih => exact congrArg (s :: ·) (ih _)

end Statement

namespace Stub

/-- The names that a stub declares in the scope of its function. -/
def declared (s : Stub) : List Text :=
  s.parameters.map TracedParameter.name ++ s.body.filterMap Statement.declared?

def placed (s : Stub) : List (Scope × Statement) :=
  Statement.placed (.ofParameters (s.parameters.map TracedParameter.name)) s.body

/-- What the statements of a stub do, one after the other. -/
def actions (s : Stub) : List Action := s.placed.map fun (scope, s) => s.action scope

end Stub

namespace Signature

def parameterNames (s : Signature) : List Text := s.parameters.map Parameter.name

/-- What forwarding a function consists of: its parameters are passed, in their order, to the one of
the saved functions that has its name. -/
def forwarding (s : Signature) : List Action :=
  Action.forwarding (.outside apiHook) s.name ((List.range s.parameters.length).map .parameter)
    s.returnsVoid

end Signature

/-- What the names of a stub denote, for parameters with different names: which names clash, and
what is done when none does. -/
structure Scoped (s : Signature) (stub : Stub) : Prop where
  declared : stub.declared =
    s.parameterNames ++ if s.returnsVoid then [] else [Stub.resultName]
  nodup_iff : stub.declared.Nodup ↔ s.returnsVoid ∨ Stub.resultName ∉ s.parameterNames
  outside_iff : ∀ n, n ≠ Stub.resultName → ∀ p ∈ stub.placed,
    p.1.denotes n = .outside n ↔ n ∉ s.parameterNames
  saved_iff : (∀ action ∈ stub.actions, ∀ holder ∈ action.holder?, holder = .outside apiHook) ↔
    apiHook ∉ s.parameterNames
  actions : apiHook ∉ s.parameterNames → s.returnsVoid ∨ Stub.resultName ∉ s.parameterNames →
    stub.actions = s.forwarding

namespace Stub

variable {naming : Naming} {f : TracedFunction}

theorem parameterNames_signature (f : TracedFunction) :
    f.signature.parameterNames = f.parameters.map TracedParameter.name := by
  simp [Signature.parameterNames, TracedFunction.signature, TracedParameter.parameter]

theorem declared_ofFunction (naming : Naming) (f : TracedFunction) :
    (ofFunction naming f).declared =
      f.signature.parameterNames ++ if f.signature.returnsVoid then [] else [resultName] := by
  rw [TracedFunction.signature_returnsVoid, parameterNames_signature]
  unfold declared ofFunction bodyOf
  cases f.returnsVoid <;> rfl

theorem declared?_bodyOf {n : Text} (h : n ≠ resultName) (f : TracedFunction) :
    ∀ s ∈ bodyOf f, s.declared? ≠ some n := by
  unfold bodyOf
  cases f.returnsVoid <;> simp [Statement.declared?, Ne.symm h]

theorem denotes_of_mem_placed {n : Text} (h : n ≠ resultName) {p : Scope × Statement}
    (hp : p ∈ (ofFunction naming f).placed) :
    p.1.denotes n = (Scope.ofParameters f.signature.parameterNames).denotes n := by
  rw [parameterNames_signature]
  exact Statement.denotes_of_mem_placed (declared?_bodyOf h f) hp

/-- Every stub makes a call that takes its function from what `apiHook` denotes, and no call takes
it from anything else. -/
theorem holder_iff (naming : Naming) (f : TracedFunction) (e : Entity) :
    (∀ action ∈ (ofFunction naming f).actions, ∀ holder ∈ action.holder?, holder = e) ↔
      (Scope.ofParameters f.signature.parameterNames).denotes apiHook = e := by
  have hplaced : ∀ p ∈ (ofFunction naming f).placed, p.1.denotes apiHook =
      (Scope.ofParameters f.signature.parameterNames).denotes apiHook := fun p hp =>
    denotes_of_mem_placed (by decide) hp
  constructor
  · intro h
    have hcheck : .check ∈ (ofFunction naming f).body := by
      unfold ofFunction bodyOf
      cases f.returnsVoid <;> simp
    rw [← Statement.map_snd_placed (.ofParameters _) (ofFunction naming f).body] at hcheck
    obtain ⟨⟨scope, s⟩, hp, rfl⟩ := List.mem_map.1 hcheck
    rw [← hplaced _ hp]
    exact h _ (List.mem_map_of_mem hp) _ rfl
  · rintro rfl action haction holder hholder
    obtain ⟨p, hp, rfl⟩ := List.mem_map.1 haction
    rw [Statement.holder_of_action hholder, hplaced p hp]

/-- In any scope a body forwards its function, unless the variable for the result takes the name of
a parameter. -/
theorem map_action_placed_bodyOf (scope : Scope)
    (h : f.returnsVoid ∨ resultName ∉ f.parameters.map TracedParameter.name) :
    (Statement.placed scope (bodyOf f)).map (fun (scope, s) => s.action scope) =
      Action.forwarding (scope.denotes apiHook) f.name
        ((f.parameters.map TracedParameter.name).map scope.denotes) f.returnsVoid := by
  unfold bodyOf Action.forwarding
  rw [List.map_map]
  cases hvoid : f.returnsVoid with
  | true =>
    simp only [if_true, Statement.placed, Statement.enter, Statement.declared?, Statement.action,
      List.map_cons, List.map_nil, call, List.map_map, Function.comp_def]
  | false =>
    have hr : resultName ∉ f.parameters.map TracedParameter.name :=
      h.resolve_left (by simp [hvoid])
    have hsame : ∀ n, n ≠ resultName →
        Scope.denotes ((resultName, .kept resultName) :: scope) n = scope.denotes n :=
      fun n hn => Scope.denotes_cons_of_ne hn _ _
    have harguments : (f.parameters.map TracedParameter.name).map
        (Scope.denotes ((resultName, .kept resultName) :: scope)) =
          (f.parameters.map TracedParameter.name).map scope.denotes :=
      List.map_congr_left fun n hn => hsame n (ne_of_mem_of_not_mem hn hr)
    simp only [Bool.false_eq_true, if_false, Statement.placed, Statement.enter,
      Statement.declared?, Statement.action, List.map_cons, List.map_nil, call, harguments,
      hsame apiHook (by decide), Scope.denotes_cons_self, List.map_map, Function.comp_def]

/-- Where nothing clashes a stub does what forwarding its function consists of. -/
theorem actions_ofFunction (hnodup : f.signature.parameterNames.Nodup)
    (hhook : apiHook ∉ f.signature.parameterNames)
    (hresult : f.signature.returnsVoid ∨ resultName ∉ f.signature.parameterNames) :
    (ofFunction naming f).actions = f.signature.forwarding := by
  have houtside := Scope.denotes_ofParameters_eq_outside_iff.2 hhook
  have hparameters := Scope.map_denotes_ofParameters hnodup
  rw [parameterNames_signature] at houtside hparameters hresult
  rw [TracedFunction.signature_returnsVoid] at hresult
  have hlength : f.signature.parameters.length =
      (f.parameters.map TracedParameter.name).length := by
    rw [← parameterNames_signature, Signature.parameterNames, List.length_map]
  rw [Signature.forwarding, hlength, ← hparameters, ← houtside,
    TracedFunction.signature_returnsVoid]
  exact map_action_placed_bodyOf _ hresult

theorem scoped_ofFunction (naming : Naming) (h : f.signature.parameterNames.Nodup) :
    Scoped f.signature (ofFunction naming f) := by
  refine ⟨declared_ofFunction naming f, ?_, fun n hn p hp => ?_, ?_, actions_ofFunction h⟩
  · rw [declared_ofFunction]
    cases f.signature.returnsVoid with
    | true => simpa using h
    | false => simp [List.nodup_append, h, List.forall_mem_ne']
  · rw [denotes_of_mem_placed hn hp, Scope.denotes_ofParameters_eq_outside_iff]
  · rw [holder_iff, Scope.denotes_ofParameters_eq_outside_iff]

end Stub

namespace Artifacts

variable {list header : Text} {options : Options} {a : Artifacts}

/-- Whenever a generation succeeds, the stub of each declaration whose parameters have different
names declares these names and that of the variable for a result. It declares no name twice unless
it has a result and the header uses the name of that variable, it calls the saved functions unless
the header uses their name, and where it does neither it forwards the call and gives the result
back. -/
theorem scoped_of_generate (h : (generate list header options).outcome = .ok a) :
    ∃ selection, (Selection.read list).outcome = .ok selection ∧
      List.Forall₂ (fun s stub => s.parameterNames.Nodup → Scoped s stub)
        (Header.selected options.marker selection header) a.traceSource.stubs :=
  forall₂_stubs_of_generate h fun _ _ hnodup => Stub.scoped_ofFunction options.naming hnodup

/-- A function with a result and two parameters, and one without either. -/
theorem scoped_of_generate_two_functions :
    let list := "glFenceSync\nglFlush\n".toList
    let header :=
      "GLAPI GLsync glFenceSync (GLenum condition, GLbitfield flags);\nGLAPI void glFlush();".toList
    ∃ a, (generate list header .standard).outcome = .ok a ∧ a.traceSource.stubs.length = 2 ∧
      ∃ selection, (Selection.read list).outcome = .ok selection ∧
        List.Forall₂ Scoped (Header.selected Options.standard.marker selection header)
          a.traceSource.stubs := by
  intro list header
  have htwo : (generate list header .standard).outcome.toOption.any
      (·.traceSource.stubs.length = 2) = true := by decide +kernel
  have hdifferent : (Selection.read list).outcome.toOption.all (fun selection =>
      ∀ s ∈ Header.selected Options.standard.marker selection header, s.parameterNames.Nodup) =
        true := by decide +kernel
  obtain ⟨a, ha, hlength⟩ := Outcome.exists_ok_of_any htwo
  obtain ⟨selection, hl, hstubs⟩ := scoped_of_generate ha
  rw [hl] at hdifferent
  have hnodup := (List.forall₂_and_left _ _).2 ⟨of_decide_eq_true hdifferent, hstubs⟩
  exact ⟨a, ha, of_decide_eq_true hlength, selection, hl, hnodup.imp fun _ _ h => h.2 h.1⟩

/-- A generation succeeds for parameters with either of the fixed names. One stub declares the name
of its parameter again for its result, the other calls into its parameter. -/
theorem scope_of_fixed_names :
    let list := "glF\nglG\n".toList
    let header :=
      "GLAPI GLenum APIENTRY glF (GLint r);\nGLAPI void APIENTRY glG (GLuint apiHook);\n".toList
    (generate list header .standard).outcome.toOption.any fun a =>
      a.traceSource.stubs.map (fun s => s.parameters.map TracedParameter.name) =
          [["r".toList], ["apiHook".toList]] ∧
        a.traceSource.stubs.map Stub.declared =
          [["r".toList, "r".toList], ["apiHook".toList]] ∧
        a.traceSource.stubs.map (fun s => s.actions.filterMap Action.holder?) =
          [[.outside apiHook, .outside apiHook], [.parameter 0, .parameter 0]] := by
  decide +kernel

end Artifacts
end CallTracer
