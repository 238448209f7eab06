import CallTracer.Text.Order
import Mathlib.Tactic.SplitIfs
/-! The order of texts is the order of their bytes in UTF-8. -/
namespace CallTracer.Text

/-- The bytes of a text in UTF-8. -/
def bytes (s : Text) : List UInt8 := s.flatMap String.utf8EncodeChar

/-- Strictly ascending by bytes. -/
def Ascending (ss : List Text) : Prop :=
  ss.Pairwise fun s t => List.Lex (· < ·) s.bytes t.bytes

/-- Of two characters the one with the smaller number has the smaller bytes, whatever follows. -/
theorem lex_utf8EncodeChar {a b : Char} (h : a.toNat < b.toNat) (s t : List UInt8) :
    List.Lex (· < ·) (String.utf8EncodeChar a ++ s) (String.utf8EncodeChar b ++ t) := by
  have ha : a.val.toNat = a.toNat := rfl
  have hb : b.val.toNat = b.toNat := rfl
  have hmax : b.toNat < 0x110000 := by
    rcases b.valid with h | h <;> omega
  have hbyte : ∀ n < 256, (UInt8.ofNat n).toNat = n := fun n hn => Nat.mod_eq_of_lt hn
  have htop : ∀ n < 0x110000, n / 262144 % 8 = n / 262144 := fun n hn => by omega
  have hdiv : ∀ n : Nat, n / 64 / 64 = n / 4096 ∧ n / 4096 / 64 = n / 262144 := fun n =>
    ⟨Nat.div_div_eq_div_mul n 64 64, Nat.div_div_eq_div_mul n 4096 64⟩
  have hdiva := hdiv a.toNat
  have hdivb := hdiv b.toNat
  clear hdiv
  unfold String.utf8EncodeChar
  simp only [ha, hb]
  -- One case for each pair of lengths; a longer encoding begins with a greater byte.
  split_ifs
  all_goals
    simp (disch := omega) only [List.cons_append, List.nil_append, List.cons_lex_cons_iff,
      UInt8.lt_iff_toNat_lt, ← UInt8.toNat_inj, hbyte, htop]
    omega

theorem lex_append_left {r : UInt8 → UInt8 → Prop} {s t : List UInt8} (u : List UInt8)
    (h : List.Lex r s t) : List.Lex r (u ++ s) (u ++ t) := by
  induction u with
  | nil => exact h
  | cons a u ih => exact .cons ih

theorem lex_bytes_of_before {s t : Text} (h : s.before t) :
    List.Lex (· < ·) s.bytes t.bytes := by
  induction t generalizing s with
  | nil => simp at h
  | cons b t ih =>
    cases s with
    | nil =>
      obtain ⟨c, u, hu⟩ := List.exists_cons_of_ne_nil (String.utf8EncodeChar_ne_nil (c := b))
      simp only [bytes, List.flatMap_nil, List.flatMap_cons, hu]
      exact .nil
    | cons a s =>
      rw [bytes, bytes, List.flatMap_cons, List.flatMap_cons]
      rcases before_cons.1 h with hlt | ⟨heq, hst⟩
      · exact lex_utf8EncodeChar hlt _ _
      · obtain rfl : a = b := Char.toNat_inj.1 heq
        exact lex_append_left _ (ih hst)

theorem before_iff_lex_bytes {s t : Text} :
    s.before t ↔ List.Lex (· < ·) s.bytes t.bytes := by
  refine ⟨lex_bytes_of_before, fun h => ?_⟩
  rcases before_trichotomy s t with hst | rfl | hts
  · exact hst
  · exact absurd h (List.lex_irrefl (fun a => UInt8.lt_irrefl a) _)
  · exact absurd h (List.lex_asymm (fun hab => UInt8.lt_asymm hab) (lex_bytes_of_before hts))

theorem ascending_iff {ss : List Text} : Ascending ss ↔ ss.Pairwise fun s t => s.before t := by
  simp only [Ascending, before_iff_lex_bytes]

theorem Ascending.nodup {ss : List Text} (h : Ascending ss) : ss.Nodup := by
  refine (ascending_iff.1 h).imp fun hst heq => ?_
  rw [heq, before_irrefl] at hst
  exact Bool.noConfusion hst

end CallTracer.Text
