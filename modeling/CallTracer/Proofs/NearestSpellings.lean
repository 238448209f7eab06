import CallTracer.Proofs.ByteOrder
import CallTracer.Proofs.EditScripts
import CallTracer.Suggestion
/-! The spellings that are proposed for a text are those of the catalogue that the fewest edits lead
to it from, in one order whatever their number. -/
namespace CallTracer.Suggestion
open EditDistance

/-- Whether a spelling stands before another among those proposed for a text: it is at a smaller
distance, or at the same one and its bytes come first. -/
def Nearer (text a b : Text) : Prop :=
  distance a text < distance b text ∨
    distance a text = distance b text ∧ List.Lex (· < ·) a.bytes b.bytes

/-- All spellings of the catalogue, the nearest first. -/
def ranked (text : Text) : List Text :=
  (Sorting.sort Candidate.atMost (candidates text)).map Candidate.spelling

variable {text a : Text} {count : Nat}

theorem closest_eq_take (text : Text) (count : Nat) :
    closest text count = (ranked text).take count :=
  List.map_take

theorem perm_ranked (text : Text) : (ranked text).Perm (KnownType.all.map KnownType.spelling) := by
  have h := (Sorting.perm_sort Candidate.atMost (candidates text)).map Candidate.spelling
  rwa [candidates, List.map_map] at h

theorem nodup_ranked (text : Text) : (ranked text).Nodup :=
  (perm_ranked text).nodup_iff.2 KnownType.nodup_spellings

theorem mem_ranked_iff : a ∈ ranked text ↔ ∃ t : KnownType, t.spelling = a := by
  rw [(perm_ranked text).mem_iff, List.mem_map]
  exact exists_congr fun t => and_iff_right t.mem_all

theorem distance_of_mem_candidates {c : Candidate} (h : c ∈ candidates text) :
    c.distance = distance c.spelling text := by
  obtain ⟨t, -, rfl⟩ := List.mem_map.1 h
  rfl

/-- Two candidates with different spellings have but one order. -/
theorem nearer_of_atMost {c d : Candidate} (hc : c ∈ candidates text) (hd : d ∈ candidates text)
    (hle : c.atMost d) (hne : c.spelling ≠ d.spelling) :
    Nearer text c.spelling d.spelling := by
  simp only [Candidate.atMost, Bool.or_eq_true, Bool.and_eq_true, decide_eq_true_eq, beq_iff_eq,
    distance_of_mem_candidates hc, distance_of_mem_candidates hd] at hle
  rcases hle with hlt | ⟨heq, hle⟩
  · exact .inl hlt
  · exact .inr ⟨heq, Text.lex_bytes_of_before ((Text.atMost_iff.1 hle).resolve_right hne)⟩

theorem pairwise_ranked (text : Text) : (ranked text).Pairwise (Nearer text) := by
  have hsorted := Sorting.pairwise_sort Candidate.atMost_trans Candidate.atMost_total
    (candidates text)
  have hdistinct := List.pairwise_map.1 (nodup_ranked text)
  have hmem := fun c => (Sorting.perm_sort Candidate.atMost (candidates text)).mem_iff (a := c)
  refine List.pairwise_map.2 ((hsorted.and hdistinct).imp_of_mem fun hc hd h => ?_)
  exact nearer_of_atMost ((hmem _).1 hc) ((hmem _).1 hd) h.1 h.2

/-- Nothing stands before the text itself. -/
theorem not_nearer_self : ¬Nearer text a text := by
  rintro (h | ⟨heq, hlex⟩)
  · rw [distance_self] at h
    exact Nat.not_lt_zero _ h
  · rw [distance_self, distance_eq_zero_iff] at heq
    subst heq
    exact List.lex_irrefl (fun b => UInt8.lt_irrefl b) _ hlex

theorem head?_ranked_iff :
    (ranked text).head? = some text ↔ ∃ t : KnownType, t.spelling = text := by
  have hiff : text ∈ ranked text ↔ ∃ t : KnownType, t.spelling = text := mem_ranked_iff
  rw [← hiff]
  refine ⟨List.mem_of_mem_head?, fun hmem => ?_⟩
  have hpairwise := pairwise_ranked text
  cases hranked : ranked text with
  | nil =>
    rw [hranked] at hmem
    cases hmem
  | cons first rest =>
    rw [hranked] at hmem hpairwise
    rcases List.mem_cons.1 hmem with rfl | hmem
    · rfl
    · exact absurd ((List.pairwise_cons.1 hpairwise).1 text hmem) not_nearer_self

theorem nearer_of_not_mem_closest {t : KnownType} (ht : t.spelling ∉ closest text count)
    (ha : a ∈ closest text count) : Nearer text a t.spelling := by
  have hpairwise := pairwise_ranked text
  have hmem : t.spelling ∈ ranked text := mem_ranked_iff.2 ⟨t, rfl⟩
  rw [closest_eq_take] at ht ha
  rw [← List.take_append_drop count (ranked text)] at hpairwise hmem
  have hdropped := (List.mem_append.1 hmem).resolve_left ht
  exact (List.pairwise_append.1 hpairwise).2.2 a ha _ hdropped

/-- What is proposed for a text: as many spellings of the catalogue as are asked for and it has, all
different, the nearest first and before every other one. A greater number only adds to them, and the
first is the text itself exactly if that is in the catalogue. Distances count edits. -/
theorem closest_exact (text : Text) (count : Nat) :
    (closest text count).length = min count KnownType.all.length ∧
    (closest text count).Nodup ∧
    (∀ a ∈ closest text count, ∃ t : KnownType, t.spelling = a) ∧
    (closest text count).Pairwise (Nearer text) ∧
    (∀ t : KnownType, t.spelling ∉ closest text count →
      ∀ a ∈ closest text count, Nearer text a t.spelling) ∧
    (∀ more, count ≤ more → closest text count <+: closest text more) ∧
    (1 ≤ count →
      ((closest text count).head? = some text ↔ ∃ t : KnownType, t.spelling = text)) ∧
    ∀ a, IsLeast {n | Edits n a text} (distance a text) := by
  refine ⟨?_, ?_, ?_, ?_, fun t ht a ha => nearer_of_not_mem_closest ht ha, fun more hmore => ?_,
    fun hcount => ?_, fun a => isLeast_distance a text⟩
  · rw [closest_eq_take, List.length_take, (perm_ranked text).length_eq, List.length_map]
  · rw [closest_eq_take]
    exact (nodup_ranked text).take
  · intro a ha
    rw [closest_eq_take] at ha
    exact mem_ranked_iff.1 (List.mem_of_mem_take ha)
  · rw [closest_eq_take]
    exact (pairwise_ranked text).take
  · rw [closest_eq_take, closest_eq_take]
    exact List.take_prefix_take_left hmore
  · rw [closest_eq_take, List.head?_take, if_neg (Nat.ne_of_gt hcount)]
    exact head?_ranked_iff

/-- Two spellings are one edit away; of those that are two edits away the one with the smallest bytes
is taken. -/
theorem closest_exact_ties :
    let text := "GLints".toList
    closest text 3 = ["GLint".toList, "GLint*".toList, "GLint64".toList] ∧
      Nearer text "GLint64".toList KnownType.uint.spelling ∧
      (1 ≤ 3 ∧ ((closest text 3).head? = some text ↔ ∃ t : KnownType, t.spelling = text)) := by
  intro text
  have hclosest : closest text 3 = ["GLint".toList, "GLint*".toList, "GLint64".toList] := by
    decide +kernel
  obtain ⟨-, -, -, -, houtside, -, hhead, -⟩ := closest_exact text 3
  refine ⟨hclosest, houtside .uint ?_ _ ?_, by decide, hhead (by decide)⟩
  · rw [hclosest]
    decide
  · simp [hclosest]

end CallTracer.Suggestion
