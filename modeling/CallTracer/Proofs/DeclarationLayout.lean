import CallTracer.Proofs.Outcome
import CallTracer.Proofs.Respacing
import CallTracer.Declaration
/-! Declarations whose texts are respaced are read alike: to the same signature, or to the same
fault but for the text that it quotes and the column that it names. -/
namespace CallTracer

namespace Outcome

variable {ε ε' ζ ζ' α β γ δ : Type} {E : ε → ε' → Prop} {R : α → β → Prop}

/-- Outcomes that are both values or both failures, which correspond to each other. -/
inductive Alike (E : ε → ε' → Prop) (R : α → β → Prop) : Except ε α → Except ε' β → Prop
  | ok {a : α} {b : β} (h : R a b) : Alike E R (.ok a) (.ok b)
  | error {e : ε} {e' : ε'} (h : E e e') : Alike E R (.error e) (.error e')

theorem Alike.bind {x : Except ε α} {y : Except ε' β} {f : α → Except ε γ} {g : β → Except ε' δ}
    {S : γ → δ → Prop} (h : Alike E R x y) (hf : ∀ a b, R a b → Alike E S (f a) (g b)) :
    Alike E S (x >>= f) (y >>= g) := by
  cases h with
  | ok h => exact hf _ _ h
  | error h => exact .error h

theorem Alike.mapError {x : Except ε α} {y : Except ε' β} {F : ζ → ζ' → Prop} {f : ε → ζ}
    {g : ε' → ζ'} (h : Alike E R x y) (hf : ∀ e e', E e e' → F (f e) (g e')) :
    Alike F R (x.mapError f) (y.mapError g) := by
  cases h with
  | ok h => exact .ok h
  | error h => exact .error (hf _ _ h)

theorem Alike.refl {E : ε → ε → Prop} (hE : ∀ e, E e e) (x : Except ε α) : Alike E Eq x x := by
  cases x with
  | error e => exact .error (hE e)
  | ok a => exact .ok rfl

/-- Outcomes that only a part of their failures tells apart are alike. -/
theorem Alike.of_mapError_eq {x : Except ε α} {y : Except ε' α} {f : ε → ζ} {g : ε' → ζ}
    (h : x.mapError f = y.mapError g) : Alike (fun e e' => f e = g e') Eq x y := by
  cases x with
  | error e =>
    cases y with
    | error e' => exact .error (Except.error.inj h)
    | ok b => cases h
  | ok a =>
    cases y with
    | error e' => cases h
    | ok b => exact .ok (Except.ok.inj h)

end Outcome

namespace Declaration
open Outcome

/-- The fault without the text that it quotes and the column that it names. -/
def Fault.withoutLayout : Fault → Fault
  | badCharacter bad => badCharacter ⟨bad.char, 0⟩
  | malformed _ reason => malformed [] reason
  | missingMarker marker => missingMarker marker

/-- Faults of one kind, whatever the layout of the text. -/
def Fault.Same (f g : Fault) : Prop := f.withoutLayout = g.withoutLayout

/-- Heads that differ in the layout of the text only. -/
structure Head.Same (h h' : Head) : Prop where
  name : h.name = h'.name
  result : h.result = h'.result
  rest : Text.Respaced h.rest h'.rest

variable {s t : Text}

theorem alike_readFrom (h : Text.Respaced s t) (column column' : Nat) :
    Alike Fault.Same Eq ((Token.readFrom column s).mapError .badCharacter)
      ((Token.readFrom column' t).mapError .badCharacter) := by
  have hchar : (Token.readFrom column s).mapError BadCharacter.char =
      (Token.readFrom column' t).mapError BadCharacter.char := by
    rw [Token.mapError_char_readFrom, Token.mapError_char_readFrom, Token.outline_of_respaced h]
  refine (Alike.of_mapError_eq hchar).mapError fun bad bad' heq => ?_
  rw [Fault.Same, Fault.withoutLayout, heq, Fault.withoutLayout]

theorem alike_headOfTokens (source source' marker : Text) (ts : List Token) :
    Alike Fault.Same Eq (headOfTokens source marker ts) (headOfTokens source' marker ts) := by
  unfold headOfTokens
  split
  · split
    · exact .error rfl
    · split
      · exact .error rfl
      · dsimp only
        split
        · exact .ok rfl
        · exact .error rfl
  · exact .error rfl

theorem alike_readHead (h : Text.Respaced s t) (marker : Text) :
    Alike Fault.Same Head.Same (readHead s marker) (readHead t marker) := by
  have hp : ∀ c, Text.isBlank c → (c != '(') = true := fun c hc => by
    rw [bne_iff_ne]
    rintro rfl
    exact absurd hc (by decide)
  obtain ⟨htake, hdrop⟩ := h.span_of_blank hp
  unfold readHead
  cases hs : s.dropWhile (· != '(') with
  | nil =>
    rw [hs] at hdrop
    rw [hdrop.eq_nil_iff.1 rfl]
    exact .error rfl
  | cons c rest =>
    have hc : c = '(' := by
      have := List.head?_dropWhile_not (· != '(') s
      simpa [hs] using this
    subst hc
    rw [hs] at hdrop
    obtain ⟨rest', ht, hrest⟩ := hdrop.exists_cons (by decide)
    rw [ht]
    refine (alike_readFrom htake 1 1).bind ?_
    rintro ts _ rfl
    refine (alike_headOfTokens s t marker ts).bind ?_
    rintro ⟨name, result⟩ _ rfl
    exact .ok ⟨rfl, rfl, hrest⟩

theorem alike_finish {h h' : Head} (hsame : h.Same h') :
    Alike Fault.Same Eq h.finish h'.finish := by
  refine (alike_readFrom hsame.rest _ _).bind ?_
  rintro ts _ rfl
  have hparameters : Alike Fault.Same Eq
      ((parametersOfTokens ts).mapError (Fault.malformed h.source))
      ((parametersOfTokens ts).mapError (Fault.malformed h'.source)) := by
    refine (Alike.refl (E := Eq) (fun _ => rfl) (parametersOfTokens ts)).mapError ?_
    rintro reason _ rfl
    rfl
  refine hparameters.bind ?_
  rintro parameters _ rfl
  rw [hsame.name, hsame.result]
  exact .ok rfl

end Declaration
end CallTracer
