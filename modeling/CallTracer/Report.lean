import CallTracer.Failure
import CallTracer.Log
/-! Computations that keep a log and may fail. -/
namespace CallTracer

/-- What a computation logged, in order, and its value or why it has none. -/
structure Report (α : Type) where
  records : List Log.Record
  outcome : Except Failure α

namespace Report

instance : Monad Report where
  pure a := ⟨[], .ok a⟩
  bind x f :=
    match x.outcome with
    | .error e => ⟨x.records, .error e⟩
    | .ok a =>
      let y := f a
      ⟨x.records ++ y.records, y.outcome⟩

def fail {α : Type} (f : Failure) : Report α := ⟨[], .error f⟩

def note (level : Log.Level) (origin : Log.Origin) (text : Text) : Report Unit :=
  ⟨[⟨level, origin, text⟩], .ok ()⟩

def ofExcept {α : Type} (x : Except Failure α) : Report α := ⟨[], x⟩

/-- The same report with a failure wrapped into another. -/
def wrap {α : Type} (f : Failure → Failure) (x : Report α) : Report α :=
  ⟨x.records, x.outcome.mapError f⟩

@[simp] theorem records_pure {α : Type} (a : α) : (pure a : Report α).records = [] := rfl

@[simp] theorem outcome_pure {α : Type} (a : α) : (pure a : Report α).outcome = .ok a := rfl

@[simp] theorem outcome_bind {α β : Type} (x : Report α) (f : α → Report β) :
    (x >>= f).outcome = x.outcome >>= fun a => (f a).outcome := by
  cases x with
  | mk r o => cases o <;> rfl

@[simp] theorem outcome_fail {α : Type} (f : Failure) :
    (fail f : Report α).outcome = .error f := rfl

@[simp] theorem records_fail {α : Type} (f : Failure) : (fail f : Report α).records = [] := rfl

@[simp] theorem outcome_note (l : Log.Level) (o : Log.Origin) (t : Text) :
    (note l o t).outcome = .ok () := rfl

@[simp] theorem records_note (l : Log.Level) (o : Log.Origin) (t : Text) :
    (note l o t).records = [⟨l, o, t⟩] := rfl

@[simp] theorem outcome_ofExcept {α : Type} (x : Except Failure α) :
    (ofExcept x).outcome = x := rfl

@[simp] theorem records_ofExcept {α : Type} (x : Except Failure α) :
    (ofExcept x).records = [] := rfl

@[simp] theorem outcome_wrap {α : Type} (f : Failure → Failure) (x : Report α) :
    (wrap f x).outcome = x.outcome.mapError f := rfl

@[simp] theorem records_wrap {α : Type} (f : Failure → Failure) (x : Report α) :
    (wrap f x).records = x.records := rfl

theorem records_bind_ok {α β : Type} {x : Report α} {a : α} (h : x.outcome = .ok a)
    (f : α → Report β) : (x >>= f).records = x.records ++ (f a).records := by
  cases x
  simp only at h
  subst h
  rfl

theorem records_bind_error {α β : Type} {x : Report α} {e : Failure} (h : x.outcome = .error e)
    (f : α → Report β) : (x >>= f).records = x.records := by
  cases x
  simp only at h
  subst h
  rfl

@[ext] theorem ext {α : Type} {x y : Report α} (hr : x.records = y.records)
    (ho : x.outcome = y.outcome) : x = y := by
  cases x
  cases y
  simp_all

instance : LawfulMonad Report := LawfulMonad.mk' Report
  (fun x => by
    apply ext
    · cases x with
      | mk r o => cases o <;> simp [Functor.map]
    · cases x with
      | mk r o => cases o <;> rfl)
  (fun a f => by
    apply ext
    · simp [bind, pure]
    · rfl)
  (fun x f g => by
    cases x with
    | mk r o =>
      cases o with
      | error e => rfl
      | ok a =>
        apply ext
        · cases h : (f a).outcome <;> simp [bind, h]
        · cases h : (f a).outcome <;> simp [bind, h])

end Report
end CallTracer
