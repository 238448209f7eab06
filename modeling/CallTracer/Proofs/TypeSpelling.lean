import CallTracer.Proofs.Canonical
/-! Canonical spellings of types lose nothing but layout: the tokens are read back from them, so
types with the same spelling are the same, and what is spelled once is not changed by being read and
spelled again. -/
namespace CallTracer.Token
open Outcome

variable {s : Text} {ts us : List Token}

/-- Writes a token behind what is written so far: a star joins it, any other token is set off from
it by one space. -/
def write (written : Text) : Token → Text
  | .star => written ++ ['*']
  | u => if written.isEmpty then u.text else written ++ ' ' :: u.text

/-- A text with its tokens spelled anew. -/
def respell (s : Text) : Except BadCharacter Text := (read s).map spell

/-- Tokens are spelled by writing one behind the other. -/
theorem append_spellAfter (written : Text) (ts : List Token) :
    written ++ spellAfter (!written.isEmpty) ts = ts.foldl write written := by
  induction ts generalizing written with
  | nil => simp [spellAfter]
  | cons u ts ih =>
    rw [List.foldl_cons, ← ih (write written u)]
    cases u with
    | star =>
      have hne : (written ++ ['*']).isEmpty = false := by cases written <;> rfl
      simp [spellAfter, write, hne]
    | _ => cases written <;> simp [spellAfter, write]

theorem spell_eq_foldl (ts : List Token) : spell ts = ts.foldl write [] := append_spellAfter [] ts

/-- A spelling grows with every further token by what this one writes. -/
theorem spell_concat (ts : List Token) (u : Token) : spell (ts ++ [u]) = write (spell ts) u := by
  rw [spell_eq_foldl, spell_eq_foldl, List.foldl_append, List.foldl_cons, List.foldl_nil]

theorem spell_injective (hts : IsTypeTokens ts) (hus : IsTypeTokens us)
    (h : spell ts = spell us) : ts = us := by
  have hread := read_spell hts
  rw [h, read_spell hus, Except.ok.injEq] at hread
  exact hread.symm

theorem isTypeTokens_of_read (h : read s = .ok ts) (htype : ∀ u ∈ ts, u.isTypePart) :
    IsTypeTokens ts := fun u hu => ⟨htype u hu, isValid_of_mem_readFrom h u hu⟩

theorem respell_of_read (h : read s = .ok ts) : respell s = .ok (spell ts) := by
  rw [respell, h, map_ok]

/-- Names and stars are known by their spelling. Each is written behind those before it, all of them
are read back, and so types with the same spelling are the same. Of a text in any layout it is the
normal form: when the spelling is read and spelled again, nothing changes. -/
theorem spell_lossless :
    (∀ ts u, spell (ts ++ [u]) = write (spell ts) u) ∧
    (∀ ts, IsTypeTokens ts → read (spell ts) = .ok ts) ∧
    (∀ ts us, IsTypeTokens ts → IsTypeTokens us → spell ts = spell us → ts = us) ∧
    ∀ s ts, read s = .ok ts → (∀ u ∈ ts, u.isTypePart) →
      respell s = .ok (spell ts) ∧ respell (spell ts) = .ok (spell ts) := by
  refine ⟨spell_concat, fun ts hts => read_spell hts, fun ts us => spell_injective,
    fun s ts hs htype => ⟨respell_of_read hs, ?_⟩⟩
  exact respell_of_read (read_spell (isTypeTokens_of_read hs htype))

/-- Stars behind names, behind each other and before a name, in a text with more blanks than are
needed. -/
theorem spell_lossless_pointers :
    let ts : List Token := [.name "const".toList, .name "x2".toList, .star, .star,
      .name "const".toList, .star]
    let s := "\tconst x2 * *const\u00a0*".toList
    spell ts = "const x2** const*".toList ∧ IsTypeTokens ts ∧ read (spell ts) = .ok ts ∧
      (∀ us, IsTypeTokens us → spell ts = spell us → ts = us) ∧
      read s = .ok ts ∧ respell s = .ok (spell ts) ∧ respell (spell ts) = .ok (spell ts) := by
  intro ts s
  have hts : IsTypeTokens ts := by
    have hall : ∀ u ∈ ts, u.isTypePart ∧ u.isValid := by decide
    exact hall
  have hs : read s = .ok ts := by decide +kernel
  obtain ⟨-, hread, hinjective, hagain⟩ := spell_lossless
  exact ⟨by decide, hts, hread ts hts, fun us => hinjective ts us hts, hs,
    hagain s ts hs fun u hu => (hts u hu).1⟩

end CallTracer.Token
