import CallTracer.Proofs.FileWriting
import CallTracer.Proofs.WorldRun
/-! Saving the two artifacts: what is in the surroundings afterwards. A save that succeeds has put
the struct where the configuration wants it, and the trace source too unless both outputs are one
file, which then holds the struct alone. -/
namespace CallTracer

namespace World

variable (w : World) (path text : Text)

theorem write_cases : (∃ tree, w.tree.write path text = .ok tree ∧
      w.write path text = (.ok (), { w with tree })) ∨
    ∃ f, w.write path text = (.error f, w) := by
  unfold write
  cases h : w.tree.write path text with
  | ok tree => exact .inl ⟨tree, rfl, rfl⟩
  | error f => exact .inr ⟨f, rfl⟩

theorem print_cases : w.print text = (.ok (), { w with printed := w.printed ++ text }) ∨
    ∃ f, w.print text = (.error f, w) := by
  unfold print
  split
  · cases text with
    | nil => exact .inl (by rw [List.append_nil]; rfl)
    | cons d text => exact .inr ⟨.noSpace, rfl⟩
  · exact .inl rfl

end World

/-- Whether a failure is one to write an artifact. -/
def Failure.isOfOutput : Failure → Bool
  | .stage .output _ | .standardOutput _ => true
  | _ => false

namespace Artifacts

variable {c : Config} {traceSource apiStruct : Text} {w w' : World}

theorem writeFile_cases (path text : Text) (w : World) :
    (∃ tree, w.tree.write path text = .ok tree ∧
      ((writeFile World.host path text).reportIn w).outcome = .ok () ∧
      (writeFile World.host path text).after w = { w with tree }) ∨
    ∃ f, ((writeFile World.host path text).reportIn w).outcome =
        .error (.stage .output (.outputFile path f)) ∧
      (writeFile World.host path text).after w = w := by
  unfold writeFile
  rcases w.write_cases path text with ⟨tree, hwrite, h⟩ | ⟨f, h⟩
  · exact .inl ⟨tree, hwrite, by simp [h], by simp [h]⟩
  · exact .inr ⟨f, by simp [h], by simp [h]⟩

theorem printTrace_cases (text : Text) (w : World) :
    (((printTrace World.host text).reportIn w).outcome = .ok () ∧
      (printTrace World.host text).after w = { w with printed := w.printed ++ text }) ∨
    ∃ f, ((printTrace World.host text).reportIn w).outcome = .error (.standardOutput f) ∧
      (printTrace World.host text).after w = w := by
  unfold printTrace
  rcases w.print_cases text with h | ⟨f, h⟩
  · exact .inl ⟨by simp [h], by simp [h]⟩
  · exact .inr ⟨f, by simp [h], by simp [h]⟩

/-- The world after a text was put where a configuration wants the trace source. -/
inductive TraceSaved (c : Config) (text : Text) (w : World) : World → Prop
  | filed {path tree} (named : c.traceOutput = some path)
      (wrote : w.tree.write path text = .ok tree) : TraceSaved c text w { w with tree }
  | printed (unnamed : c.traceOutput = none) :
      TraceSaved c text w { w with printed := w.printed ++ text }

theorem saveTrace_cases (c : Config) (text : Text) (w : World) :
    (((saveTrace World.host c text).reportIn w).outcome = .ok () ∧
      TraceSaved c text w ((saveTrace World.host c text).after w)) ∨
    ∃ f, ((saveTrace World.host c text).reportIn w).outcome = .error f ∧
      f.isOfOutput ∧ (saveTrace World.host c text).after w = w := by
  unfold saveTrace
  cases hc : c.traceOutput with
  | some path =>
    rcases writeFile_cases path text w with ⟨tree, hwrite, hok, hafter⟩ | ⟨f, herror, hafter⟩
    · exact .inl ⟨hok, hafter ▸ .filed hc hwrite⟩
    · exact .inr ⟨_, herror, rfl, hafter⟩
  | none =>
    rcases printTrace_cases text w with ⟨hok, hafter⟩ | ⟨f, herror, hafter⟩
    · exact .inl ⟨hok, hafter ▸ .printed hc⟩
    · exact .inr ⟨_, herror, rfl, hafter⟩

/-- How saving two texts may end, and in which world: with the first not written, with the second
not written, or with both written. -/
inductive SaveEnded (c : Config) (traceSource apiStruct : Text) (w : World) :
    Except Failure Unit → World → Prop
  | untraced {f} (output : f.isOfOutput) : SaveEnded c traceSource apiStruct w (.error f) w
  | traced {w₁ f} (trace : TraceSaved c traceSource w w₁) (output : f.isOfOutput) :
      SaveEnded c traceSource apiStruct w (.error f) w₁
  | saved {w₁ tree} (trace : TraceSaved c traceSource w w₁)
      (wrote : w₁.tree.write c.structOutput apiStruct = .ok tree) :
      SaveEnded c traceSource apiStruct w (.ok ()) { w₁ with tree }

theorem saveEnded (c : Config) (traceSource apiStruct : Text) (w : World) :
    SaveEnded c traceSource apiStruct w
      ((saveTexts World.host c traceSource apiStruct).reportIn w).outcome
      ((saveTexts World.host c traceSource apiStruct).after w) := by
  unfold saveTexts
  rw [Run.reportIn_bind, Run.after_bind, Report.outcome_bind]
  rcases saveTrace_cases c traceSource w with ⟨hok, htrace⟩ | ⟨f, herror, houtput, hafter⟩
  · generalize (saveTrace World.host c traceSource).after w = w₁ at htrace
    simp only [hok, Outcome.bind_ok]
    rcases writeFile_cases c.structOutput apiStruct w₁ with
      ⟨tree, hwrite, hok, hafter⟩ | ⟨f, herror, hafter⟩
    · rw [hok, hafter]
      exact .saved htrace hwrite
    · rw [herror, hafter]
      exact .traced htrace rfl
  · simp only [herror, hafter]
    exact .untraced houtput

theorem SaveEnded.isOfOutput {f : Failure}
    (h : SaveEnded c traceSource apiStruct w (.error f) w') : f.isOfOutput := by
  cases h with
  | untraced output => exact output
  | traced trace output => exact output

/-- Where the trace source cannot be written nothing is. -/
theorem saveTexts_of_error {f : Failure}
    (h : ((saveTrace World.host c traceSource).reportIn w).outcome = .error f) :
    ((saveTexts World.host c traceSource apiStruct).reportIn w).outcome = .error f ∧
      (saveTexts World.host c traceSource apiStruct).after w = w := by
  unfold saveTexts
  rw [Run.reportIn_bind, Run.after_bind, Report.outcome_bind]
  rcases saveTrace_cases c traceSource w with ⟨hok, -⟩ | ⟨f, -, -, hafter⟩
  · cases hok.symm.trans h
  · simp only [h, hafter, Outcome.bind_error, and_self]

/-- Whether a location is where an output of a configuration leads. -/
def IsOutput (c : Config) (t : FileTree) (l : Location) : Prop :=
  (∃ path, c.traceOutput = some path ∧ t.Leads path l) ∨ t.Leads c.structOutput l

theorem TraceSaved.isOutput {l : Location} (h : TraceSaved c traceSource w w')
    (hl : w'.tree.find? l ≠ w.tree.find? l) : IsOutput c w'.tree l := by
  cases h with
  | filed named wrote => exact .inl ⟨_, named, FileTree.leads_of_find?_ne wrote hl⟩
  | printed unnamed => exact absurd rfl hl

/-- However a save ends, what it changed is at its outputs. -/
theorem SaveEnded.isOutput {outcome : Except Failure Unit} {l : Location}
    (h : SaveEnded c traceSource apiStruct w outcome w')
    (hl : w'.tree.find? l ≠ w.tree.find? l) : IsOutput c w'.tree l := by
  cases h with
  | untraced => exact absurd rfl hl
  | traced trace => exact trace.isOutput hl
  | @saved w₁ tree trace wrote =>
    by_cases hsecond : tree.find? l = w₁.tree.find? l
    · rcases trace.isOutput (hsecond ▸ hl) with ⟨path, hpath, hfirst⟩ | hfirst
      · exact .inl ⟨path, hpath, hfirst.write wrote⟩
      · exact .inr (hfirst.write wrote)
    · exact .inr (FileTree.leads_of_find?_ne wrote hsecond)

/-- What the two outputs of a configuration have received after two texts were saved there. Where
both are one file, the text of the struct is all that is left. -/
structure Delivered (c : Config) (traceSource apiStruct : Text) (w w' : World) : Prop where
  struct_received : w'.tree.Received c.structOutput apiStruct
  printed : c.traceOutput = none → w'.printed = w.printed ++ traceSource
  filed : ∀ path, c.traceOutput = some path →
    ¬w'.tree.SameFile path c.structOutput → w'.tree.Received path traceSource
  lost : ∀ path, c.traceOutput = some path →
    w'.tree.SameFile path c.structOutput → w'.tree.Received path apiStruct

theorem SaveEnded.delivered (h : SaveEnded c traceSource apiStruct w (.ok ()) w') :
    Delivered c traceSource apiStruct w w' := by
  cases h with | saved htrace hwrite =>
  have hstruct := FileTree.received_of_write hwrite
  cases htrace with
  | @filed p tree hnamed hfirst =>
    obtain ⟨l, hl⟩ := FileTree.leads_of_write hfirst
    have hl' := hl.write hwrite
    refine ⟨hstruct, by simp [hnamed], fun path hpath hother => ?_, fun path hpath hsame => ?_⟩
    · obtain rfl : p = path := Option.some.inj (hnamed.symm.trans hpath)
      exact (FileTree.received_of_write hfirst).write hl hwrite fun hs => hother ⟨l, hl', hs⟩
    · obtain rfl : p = path := Option.some.inj (hnamed.symm.trans hpath)
      exact hsame.received hstruct
  | printed hunnamed =>
    refine ⟨hstruct, fun _ => rfl, ?_, ?_⟩ <;> simp [hunnamed]

theorem TraceSaved.workingDirectory_eq (h : TraceSaved c traceSource w w') :
    w'.tree.workingDirectory = w.tree.workingDirectory := by
  cases h with
  | filed named wrote => exact FileTree.workingDirectory_of_write wrote
  | printed unnamed => rfl

/-- Where the trace source is to go to the file of the struct under its name from the root, it is
lost in every world. -/
theorem SaveEnded.lost_of_absolute (h : SaveEnded c traceSource apiStruct w (.ok ()) w')
    (hproper : FileTree.Proper w.tree.workingDirectory)
    (hrelative : c.structOutput.head? ≠ some '/')
    (hcheck : FileTree.check (w.tree.absolute c.structOutput) = .ok ())
    (hnamed : c.traceOutput = some (w.tree.absolute c.structOutput)) :
    w'.tree.Received (w.tree.absolute c.structOutput) apiStruct := by
  refine h.delivered.lost _ hnamed ?_
  cases h with | saved htrace hwrite =>
  obtain ⟨l, hl⟩ := FileTree.leads_of_write hwrite
  have hwork := (FileTree.workingDirectory_of_write hwrite).trans htrace.workingDirectory_eq
  rw [FileTree.absolute, ← hwork] at hcheck ⊢
  rw [← hwork] at hproper
  exact FileTree.sameFile_absolute hproper hrelative hcheck hl

/-- A save that succeeds leaves the struct where the configuration wants it. It leaves the trace
source on standard output, or in its file if that is not the one of the struct. -/
theorem delivered_of_saveTexts
    (h : ((saveTexts World.host c traceSource apiStruct).reportIn w).outcome = .ok ()) :
    Delivered c traceSource apiStruct w
      ((saveTexts World.host c traceSource apiStruct).after w) := by
  have hended := saveEnded c traceSource apiStruct w
  rw [h] at hended
  exact hended.delivered

/-- Two files that are not there yet, of which the first is named from the root and with a detour
through the parent of the working directory. -/
theorem delivered_of_saveTexts_two_files :
    let c := { Config.standard with traceOutput := some "/dev/../work/.././work/T.h".toList }
    let save := saveTexts World.host c "one".toList "two".toList
    (save.reportIn .initial).outcome = .ok () ∧
      ¬(save.after .initial).tree.SameFile "/dev/../work/.././work/T.h".toList c.structOutput ∧
      Delivered c "one".toList "two".toList .initial (save.after .initial) := by
  intro c save
  have hok : (save.reportIn .initial).outcome = .ok () := rfl
  refine ⟨hok, ?_, delivered_of_saveTexts hok⟩
  rintro ⟨l, ⟨n, hn, -⟩, ⟨k, hk, -⟩⟩
  cases hn
  cases hk

/-- One file for both outputs, under the same name or one with a detour, from the root or through
the parent of the working directory: the save succeeds, and the trace source is gone. -/
theorem saveTexts_to_one_file :
    let lost (path : Text) :=
      let c := { Config.standard with traceOutput := some path }
      let save := saveTexts World.host c "one".toList "two".toList
      (save.reportIn .initial).outcome = .ok () ∧
        (save.after .initial).tree.read path = .ok "two".toList
    lost "GLAPI.h".toList ∧ lost "./GLAPI.h".toList ∧ lost "/work/GLAPI.h".toList ∧
      lost "../work/GLAPI.h".toList := by
  refine ⟨⟨rfl, ?_⟩, ⟨rfl, ?_⟩, ⟨rfl, ?_⟩, rfl, ?_⟩
  all_goals exact FileTree.read_of_resolve (l := ["work".toList, "GLAPI.h".toList]) rfl

end Artifacts
end CallTracer
