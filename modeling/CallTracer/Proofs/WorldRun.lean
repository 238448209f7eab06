import CallTracer.CommandLine.Execution
import CallTracer.Proofs.Outcome
/-! Runs in surroundings that are kept in memory: what a run reports, and the surroundings after
it. -/
namespace CallTracer
open Outcome

namespace Run

variable {α β : Type}

/-- What a run in a world reports. -/
def reportIn (x : Run (StateM World) α) (w : World) : Report α := (x w).1

/-- The world after a run in it. -/
def after (x : Run (StateM World) α) (w : World) : World := (x w).2

@[simp] theorem reportIn_pure (a : α) (w : World) :
    (pure a : Run (StateM World) α).reportIn w = pure a := rfl

@[simp] theorem after_pure (a : α) (w : World) :
    (pure a : Run (StateM World) α).after w = w := rfl

@[simp] theorem reportIn_ofReport (r : Report α) (w : World) :
    (ofReport r : Run (StateM World) α).reportIn w = r := rfl

@[simp] theorem after_ofReport (r : Report α) (w : World) :
    (ofReport r : Run (StateM World) α).after w = w := rfl

@[simp] theorem reportIn_note (level : Log.Level) (origin : Log.Origin) (text : Text) (w : World) :
    (note level origin text : Run (StateM World) Unit).reportIn w =
      Report.note level origin text := rfl

@[simp] theorem after_note (level : Log.Level) (origin : Log.Origin) (text : Text) (w : World) :
    (note level origin text : Run (StateM World) Unit).after w = w := rfl

@[simp] theorem reportIn_wrap (f : Failure → Failure) (x : Run (StateM World) α) (w : World) :
    (x.wrap f).reportIn w = (x.reportIn w).wrap f := rfl

@[simp] theorem after_wrap (f : Failure → Failure) (x : Run (StateM World) α) (w : World) :
    (x.wrap f).after w = x.after w := rfl

theorem bind_apply (x : Run (StateM World) α) (f : α → Run (StateM World) β) (w : World) :
    (x >>= f) w = match (x.reportIn w).outcome with
      | .error e => (⟨(x.reportIn w).records, .error e⟩, x.after w)
      | .ok a =>
        (⟨(x.reportIn w).records ++ ((f a).reportIn (x.after w)).records,
          ((f a).reportIn (x.after w)).outcome⟩, (f a).after (x.after w)) := by
  change (match (x.reportIn w).outcome with
    | .error e => (pure ⟨(x.reportIn w).records, .error e⟩ : StateM World (Report β))
    | .ok a => do
      let q ← show StateM World (Report β) from f a
      return ⟨(x.reportIn w).records ++ q.records, q.outcome⟩) (x.after w) = _
  cases (x.reportIn w).outcome <;> rfl

@[simp] theorem reportIn_bind (x : Run (StateM World) α) (f : α → Run (StateM World) β)
    (w : World) :
    (x >>= f).reportIn w = x.reportIn w >>= fun a => (f a).reportIn (x.after w) := by
  rw [reportIn, bind_apply]
  cases h : (x.reportIn w).outcome <;> simp only [bind, h]

@[simp] theorem after_bind (x : Run (StateM World) α) (f : α → Run (StateM World) β) (w : World) :
    (x >>= f).after w =
      match (x.reportIn w).outcome with
      | .error _ => x.after w
      | .ok a => (f a).after (x.after w) := by
  rw [after, bind_apply]
  cases (x.reportIn w).outcome <;> rfl

/-- Whether a run changes nothing, whatever the world it is made in. -/
def Passive (x : Run (StateM World) α) : Prop := ∀ w, x.after w = w

theorem passive_pure (a : α) : (pure a : Run (StateM World) α).Passive := fun _ => rfl

theorem passive_ofReport (r : Report α) : (ofReport r : Run (StateM World) α).Passive :=
  fun _ => rfl

theorem Passive.wrap {x : Run (StateM World) α} (h : x.Passive) (f : Failure → Failure) :
    (x.wrap f).Passive := h

theorem Passive.bind {x : Run (StateM World) α} {f : α → Run (StateM World) β} (h : x.Passive)
    (hf : ∀ a, (f a).Passive) : (x >>= f).Passive := by
  intro w
  rw [after_bind]
  cases (x.reportIn w).outcome with
  | error e => exact h w
  | ok a => exact (hf a _).trans (h w)

theorem ask_apply (x : StateM World (Except FileFault α)) (failure : FileFault → Failure)
    (w : World) : ask x failure w = (.ofExcept ((x w).1.mapError failure), (x w).2) := by
  rcases h : x w with ⟨r, w'⟩
  cases r with
  | ok a =>
    simp only [ask, bind, StateT.bind, h]
    rfl
  | error f =>
    simp only [ask, bind, StateT.bind, h]
    rfl

variable (path text : Text) (failure : FileFault → Failure) (w : World)

@[simp] theorem reportIn_ask_read : (ask (World.host.read path) failure).reportIn w =
    .ofExcept ((w.tree.read path).mapError failure) :=
  congrArg Prod.fst (ask_apply _ failure w)

theorem passive_ask_read : (ask (World.host.read path) failure).Passive :=
  fun w => congrArg Prod.snd (ask_apply _ failure w)

@[simp] theorem reportIn_ask_write : (ask (World.host.write path text) failure).reportIn w =
    .ofExcept ((w.write path text).1.mapError failure) :=
  congrArg Prod.fst (ask_apply _ failure w)

@[simp] theorem after_ask_write : (ask (World.host.write path text) failure).after w =
    (w.write path text).2 :=
  congrArg Prod.snd (ask_apply _ failure w)

@[simp] theorem reportIn_ask_print : (ask (World.host.print text) failure).reportIn w =
    .ofExcept ((w.print text).1.mapError failure) :=
  congrArg Prod.fst (ask_apply _ failure w)

@[simp] theorem after_ask_print : (ask (World.host.print text) failure).after w =
    (w.print text).2 :=
  congrArg Prod.snd (ask_apply _ failure w)

end Run
end CallTracer
