import CallTracer.Proofs.Saving
/-! What a run of the command line leaves alone. Until the artifacts are made nothing is written, a
trace source that cannot be written keeps the struct from being written, and no file changes but
those that the settings name for the outputs. -/
namespace CallTracer

/-- Whether a failure is one to read the configuration or an input, or to resolve a type. -/
def Failure.precedesWriting : Failure → Bool
  | .configRead .. | .stage .input _ | .stage .types _ => true
  | _ => false

theorem Failure.precedesWriting_of_wrap {α : Type} {x : Except Failure α}
    {wrap : Failure → Failure} {f : Failure} (hwrap : ∀ g, (wrap g).precedesWriting)
    (h : x.mapError wrap = .error f) : f.precedesWriting := by
  cases x with
  | ok a => cases h
  | error g =>
    rw [Outcome.mapError_error, Except.error.injEq] at h
    exact h ▸ hwrap g

theorem Failure.not_precedesWriting_of_isOfOutput {f : Failure} (h : f.isOfOutput) :
    f.precedesWriting = false := by
  unfold isOfOutput at h
  split at h
  · rfl
  · rfl
  · cases h

theorem passive_readInput (path : Text) : (readInput World.host path).Passive :=
  Run.passive_ask_read path _

namespace Artifacts

variable {c : Config} {w : World} {f : Failure}

theorem passive_load (c : Config) : (load World.host c).Passive := by
  have hread : ∀ {α : Type} (path : Text) (f : Text → Report α),
      (readInput World.host path >>= fun text => Run.ofReport (f text)).Passive :=
    fun path f => (passive_readInput path).bind fun text => Run.passive_ofReport _
  refine ((hread _ _).wrap _).bind fun selection => ?_
  exact ((hread _ _).wrap _).bind fun signatures => Run.passive_ofReport _

theorem precedesWriting_of_load
    (h : ((load World.host c).reportIn w).outcome = .error f) : f.precedesWriting := by
  unfold load at h
  simp only [Run.reportIn_bind, Report.outcome_bind, Outcome.bind_eq_error_iff] at h
  rcases h with h | ⟨selection, -, h | ⟨signatures, -, h⟩⟩
  · exact Failure.precedesWriting_of_wrap (fun g => rfl) h
  · exact Failure.precedesWriting_of_wrap (fun g => rfl) h
  · rw [Run.reportIn_ofReport] at h
    simp only [ofSignatures, Report.outcome_bind, Outcome.bind_eq_error_iff] at h
    rcases h with h | ⟨-, -, h | ⟨api, -, h | ⟨traceSource, -, h⟩⟩⟩
    · cases h
    · exact Failure.precedesWriting_of_wrap (fun g => rfl) h
    · cases h
    · cases h

end Artifacts

namespace CommandLine

/-- The failures of a run that does not get as far as writing: the settings cannot be read, or the
artifacts cannot be made. -/
inductive Unprepared (a : Arguments) (w : World) : Failure → Prop
  | settings {f} (failed : ((a.settings World.host).reportIn w).outcome = .error f) :
      Unprepared a w f
  | artifacts {c f} (settings : ((a.settings World.host).reportIn w).outcome = .ok c)
      (failed : ((Artifacts.load World.host c).reportIn w).outcome = .error f) : Unprepared a w f

/-- What a run gets as far as writing with. -/
structure Prepared (a : Arguments) (w : World) (c : Config) (artifacts : Artifacts) : Prop where
  settings : ((a.settings World.host).reportIn w).outcome = .ok c
  artifacts : ((Artifacts.load World.host c).reportIn w).outcome = .ok artifacts

variable {a : Arguments} {c : Config} {artifacts : Artifacts} {w : World} {f : Failure}
  {path : Text}

theorem Arguments.passive_settings (a : Arguments) : (a.settings World.host).Passive := by
  rw [settings_eq]
  refine .bind ?_ fun c => Run.passive_pure _
  cases a.config with
  | none => exact Run.passive_pure _
  | some path =>
    exact .wrap (.bind (Run.passive_ask_read path _) fun text => Run.passive_ofReport _) _

theorem Arguments.precedesWriting_of_settings
    (h : ((a.settings World.host).reportIn w).outcome = .error f) : f.precedesWriting := by
  rw [settings_eq, Run.reportIn_bind, Report.outcome_bind, Outcome.bind_eq_error_iff] at h
  rcases h with h | ⟨c, -, h⟩
  · cases hconfig : a.config with
    | none =>
      rw [hconfig] at h
      cases h
    | some path =>
      rw [hconfig] at h
      exact Failure.precedesWriting_of_wrap (fun g => rfl) h
  · cases h

theorem prepared_or_unprepared (a : Arguments) (w : World) :
    (∃ c artifacts, Prepared a w c artifacts) ∨ ∃ f, Unprepared a w f := by
  cases hc : ((a.settings World.host).reportIn w).outcome with
  | error f => exact .inr ⟨f, .settings hc⟩
  | ok c =>
    cases ha : ((Artifacts.load World.host c).reportIn w).outcome with
    | error f => exact .inr ⟨f, .artifacts hc ha⟩
    | ok artifacts => exact .inl ⟨c, artifacts, hc, ha⟩

theorem Unprepared.precedesWriting (h : Unprepared a w f) : f.precedesWriting := by
  cases h with
  | settings failed => exact Arguments.precedesWriting_of_settings failed
  | artifacts _ failed => exact Artifacts.precedesWriting_of_load failed

theorem Unprepared.execute (hwork : a.standardConfig = none) (h : Unprepared a w f) :
    ((execute World.host a).reportIn w).outcome = .error f ∧
      (execute World.host a).after w = w := by
  unfold CommandLine.execute
  rw [hwork]
  cases h with
  | settings failed =>
    constructor
    · simp [failed]
    · simp [failed, a.passive_settings w]
  | artifacts settings failed =>
    constructor
    · simp [settings, failed, a.passive_settings w]
    · simp [settings, failed, a.passive_settings w, Artifacts.passive_load _ w]

theorem Prepared.execute (hwork : a.standardConfig = none) (h : Prepared a w c artifacts) :
    ((execute World.host a).reportIn w).outcome =
        ((artifacts.save World.host c).reportIn w).outcome ∧
      (execute World.host a).after w = (artifacts.save World.host c).after w := by
  unfold CommandLine.execute
  rw [hwork]
  constructor
  · simp [h.settings, h.artifacts, a.passive_settings w, Artifacts.passive_load _ w]
  · simp [h.settings, h.artifacts, a.passive_settings w, Artifacts.passive_load _ w]

theorem saveStandard_cases (path : Text) (w : World) :
    (∃ tree, w.tree.write path Config.standard.print = .ok tree ∧
      ((saveStandard World.host path).reportIn w).outcome = .ok () ∧
      (saveStandard World.host path).after w = { w with tree }) ∨
    ∃ f, ((saveStandard World.host path).reportIn w).outcome = .error (.configWrite path f) ∧
      (saveStandard World.host path).after w = w := by
  unfold saveStandard
  rcases w.write_cases path Config.standard.print with ⟨tree, hwrite, h⟩ | ⟨f, h⟩
  · exact .inl ⟨tree, hwrite, by simp [h], by simp [h]⟩
  · exact .inr ⟨f, by simp [h], by simp [h]⟩

/-- What a run leaves alone, given what it reports and the world after it. -/
structure Contained (a : Arguments) (w : World) (r : Report Unit) (w' : World) : Prop where
  /-- A failure of the settings or of the artifacts ends the run, and shows what it is. -/
  unprepared : a.standardConfig = none → ∀ f, Unprepared a w f →
    r.outcome = .error f ∧ f.precedesWriting
  /-- Nothing is written in a run that fails so. -/
  unchanged : ∀ f, r.outcome = .error f → f.precedesWriting →
    w' = w ∧ ∀ env, (exitOf env a r).status = 255
  /-- Nothing is written in a run that fails to write the trace source. -/
  untraced : a.standardConfig = none → ∀ c artifacts f, Prepared a w c artifacts →
    ((Artifacts.saveTrace World.host c artifacts.traceSource.print).reportIn w).outcome =
      .error f → r.outcome = .error f ∧ w' = w
  /-- Only the outputs change, whether the run fails or not. -/
  confined : a.standardConfig = none → ∀ l, w'.tree.find? l ≠ w.tree.find? l →
    ∃ c, ((a.settings World.host).reportIn w).outcome = .ok c ∧ Artifacts.IsOutput c w'.tree l
  /-- Where the standard configuration is asked for, only the file for it changes. -/
  standard : ∀ path, a.standardConfig = some path → w'.printed = w.printed ∧
    ∀ l, w'.tree.find? l ≠ w.tree.find? l → w'.tree.Leads path l
  /-- Nothing is read then, and no other argument counts. -/
  unread : ∀ path, a.standardConfig = some path →
    ∀ (m : Type → Type) [Monad m] (host : Host m) (read : Text → m (Except FileFault Text))
      (b : Arguments), b.standardConfig = some path →
      execute { host with read } b = execute host a

theorem Unprepared.not_prepared (h : Unprepared a w f) : ¬Prepared a w c artifacts := by
  intro hp
  cases h with
  | settings failed => cases hp.settings.symm.trans failed
  | artifacts settings failed =>
    cases hp.settings.symm.trans settings
    cases hp.artifacts.symm.trans failed

theorem status_of_error {r : Report Unit} (h : r.outcome = .error f) (env : Environment) :
    (exitOf env a r).status = 255 := by
  simp only [exitOf, h]

theorem Unprepared.contained (hwork : a.standardConfig = none) (h : Unprepared a w f) :
    Contained a w ((CommandLine.execute World.host a).reportIn w)
      ((CommandLine.execute World.host a).after w) where
  unprepared _ g hg := ⟨hg.execute hwork |>.1, hg.precedesWriting⟩
  unchanged g hg _ := ⟨(h.execute hwork).2, status_of_error hg⟩
  untraced _ _ _ _ hp _ := absurd hp h.not_prepared
  confined _ l hl := absurd (by rw [(h.execute hwork).2]) hl
  standard _ hpath := by cases hwork.symm.trans hpath
  unread _ hpath := by cases hwork.symm.trans hpath

theorem Prepared.contained (hwork : a.standardConfig = none) (h : Prepared a w c artifacts) :
    Contained a w ((CommandLine.execute World.host a).reportIn w)
      ((CommandLine.execute World.host a).after w) := by
  obtain ⟨houtcome, hafter⟩ := h.execute hwork
  have hended := Artifacts.saveEnded c artifacts.traceSource.print artifacts.apiStruct.print w
  constructor
  case unprepared => exact fun _ f hf => absurd h hf.not_prepared
  case unchanged =>
    intro f hf hearly
    -- Once the artifacts are made, every failure is one to write them.
    have hend := houtcome.symm.trans hf
    rw [Artifacts.save] at hend
    rw [hend] at hended
    rw [Failure.not_precedesWriting_of_isOfOutput hended.isOfOutput] at hearly
    cases hearly
  case untraced =>
    intro _ c artifacts f hp hfailed
    obtain ⟨houtcome, hafter⟩ := hp.execute hwork
    rw [houtcome, hafter]
    exact Artifacts.saveTexts_of_error hfailed
  case confined =>
    intro _ l hl
    rw [hafter] at hl ⊢
    exact ⟨c, h.settings, hended.isOutput hl⟩
  case standard => exact fun _ hpath => by cases hwork.symm.trans hpath
  case unread => exact fun _ hpath => by cases hwork.symm.trans hpath

theorem execute_of_standard {m : Type → Type} [Monad m] (host : Host m)
    (h : a.standardConfig = some path) : execute host a = saveStandard host path := by
  unfold execute
  rw [h]

theorem contained_of_standard (h : a.standardConfig = some path) :
    Contained a w ((execute World.host a).reportIn w) ((execute World.host a).after w) := by
  have hrun := execute_of_standard World.host h
  constructor
  case unprepared => exact fun hwork => by cases hwork.symm.trans h
  case unchanged =>
    intro f hf hearly
    rw [hrun] at hf
    rcases saveStandard_cases path w with ⟨tree, -, hok, -⟩ | ⟨fault, herror, -⟩
    · cases hok.symm.trans hf
    · cases herror.symm.trans hf
      cases hearly
  case untraced => exact fun hwork => by cases hwork.symm.trans h
  case confined => exact fun hwork => by cases hwork.symm.trans h
  case standard =>
    intro p hp
    cases h.symm.trans hp
    rw [hrun]
    rcases saveStandard_cases path w with ⟨tree, hwrite, -, hafter⟩ | ⟨fault, -, hafter⟩
    · rw [hafter]
      exact ⟨rfl, fun l hl => FileTree.leads_of_find?_ne hwrite hl⟩
    · rw [hafter]
      exact ⟨rfl, fun l hl => absurd rfl hl⟩
  case unread =>
    intro p hp m _ host read b hb
    cases h.symm.trans hp
    rw [execute_of_standard _ hb, execute_of_standard host h]
    rfl

/-- A run that fails before it writes changes nothing, one that fails at the trace source leaves the
struct, and any other changes its outputs at most. -/
theorem execute_contained (a : Arguments) (w : World) :
    Contained a w ((execute World.host a).reportIn w) ((execute World.host a).after w) := by
  cases hstandard : a.standardConfig with
  | none =>
    rcases prepared_or_unprepared a w with ⟨c, artifacts, h⟩ | ⟨f, h⟩
    · exact h.contained hstandard
    · exact h.contained hstandard
  | some path => exact contained_of_standard hstandard

end CommandLine
end CallTracer
