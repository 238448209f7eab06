import CallTracer.Registry
/-! What a registry holds: values under different names, in the order in which they were added. -/
namespace CallTracer.Registry

variable {α : Type} {r q : Registry α} {entries : List (Text × α)} {name : Text}

/-- The registry holds the values of the entries in their order, each under its own name; the
positions are those in the storage, the latest first. -/
structure Holds (r : Registry α) (entries : List (Text × α)) : Prop where
  values : r.toList = entries.map Prod.snd
  positions : r.positions = (entries.map Prod.fst).zipIdx.reverse
  nodup : (entries.map Prod.fst).Nodup

theorem holds_empty : (empty : Registry α).Holds [] := ⟨rfl, rfl, .nil⟩

theorem holds_empty_map (entry : α → Text × α) :
    (empty : Registry α).Holds (([] : List α).map entry) := holds_empty

theorem Holds.contains_iff (h : r.Holds entries) :
    r.contains name ↔ name ∈ entries.map Prod.fst := by
  have hmap := List.zipIdx_map_fst 0 (entries.map Prod.fst)
  rw [contains, position?, h.positions, List.lookup_isSome_iff]
  conv => rhs; rw [← hmap]
  simp only [List.mem_reverse, beq_iff_eq, List.mem_map]
  constructor
  · rintro ⟨p, hp, hname⟩
    exact ⟨p, hp, hname.symm⟩
  · rintro ⟨p, hp, hname⟩
    exact ⟨p, hp, hname.symm⟩

/-- Under different keys every entry is found. -/
theorem lookup_eq_some_iff_mem {κ β : Type} [BEq κ] [LawfulBEq κ] {l : List (κ × β)} {key : κ}
    {value : β} (h : (l.map Prod.fst).Nodup) : l.lookup key = some value ↔ (key, value) ∈ l := by
  rw [List.lookup_eq_some_iff]
  constructor
  · rintro ⟨before, after, rfl, -⟩
    simp
  · intro hm
    obtain ⟨before, after, rfl⟩ := List.append_of_mem hm
    refine ⟨before, after, rfl, fun p hp => ?_⟩
    rw [List.map_append, List.nodup_append] at h
    exact bne_iff_ne.2 (h.2.2 p.1 (List.mem_map_of_mem hp) key (.head _)).symm

theorem lookup_eq_none_iff_not_mem {l : List (Text × α)} :
    l.lookup name = none ↔ name ∉ l.map Prod.fst := by
  rw [List.lookup_eq_none_iff]
  simp only [bne_iff_ne, List.mem_map, not_exists, not_and]
  exact ⟨fun h p hp heq => h p hp heq.symm, fun h p hp heq => h p hp heq.symm⟩

theorem Holds.mem_positions_iff (h : r.Holds entries) {i : Nat} :
    (name, i) ∈ r.positions ↔ (entries.map Prod.fst)[i]? = some name := by
  rw [h.positions, List.mem_reverse, List.mem_zipIdx_iff_getElem?]

theorem Holds.position?_eq_some_iff (h : r.Holds entries) {i : Nat} :
    r.position? name = some i ↔ (entries.map Prod.fst)[i]? = some name := by
  have hnames : (r.positions.map Prod.fst).Nodup := by
    rw [h.positions, List.map_reverse, List.zipIdx_map_fst]
    exact (List.reverse_perm _).nodup_iff.2 h.nodup
  rw [position?, lookup_eq_some_iff_mem hnames, h.mem_positions_iff]

/-- A value is found exactly under its own name. -/
theorem Holds.get?_eq_some_iff (h : r.Holds entries) {value : α} :
    r.get? name = some value ↔ (name, value) ∈ entries := by
  have hvalues : ∀ i : Nat, r.values[i]? = (entries.map Prod.snd)[i]? := fun i => by
    rw [← h.values, toList, Array.getElem?_toList]
  simp only [get?, Option.bind_eq_bind, Option.bind_eq_some_iff, h.position?_eq_some_iff, hvalues,
    List.getElem?_map, Option.map_eq_some_iff, List.mem_iff_getElem?]
  constructor
  · rintro ⟨i, ⟨p, hp, rfl⟩, q, hq, rfl⟩
    rw [hp, Option.some.injEq] at hq
    exact ⟨i, by rw [hp, hq]⟩
  · rintro ⟨i, hi⟩
    exact ⟨i, ⟨(name, value), hi, rfl⟩, (name, value), hi, rfl⟩

theorem Holds.get?_eq_lookup (h : r.Holds entries) : r.get? name = entries.lookup name := by
  ext value
  rw [h.get?_eq_some_iff, lookup_eq_some_iff_mem h.nodup]

theorem Holds.size_values (h : r.Holds entries) : r.values.size = entries.length := by
  rw [← Array.length_toList, ← toList, h.values, List.length_map]

section

variable {key : α → Text} {l : List α} (h : r.Holds (l.map fun a => (key a, a)))

include h

/-- Where values have keys of their own, what is found agrees with what is listed. -/
theorem Holds.get?_iff_of_keys {value : α} :
    r.get? name = some value ↔ value ∈ l ∧ key value = name := by
  rw [h.get?_eq_some_iff, List.mem_map]
  constructor
  · rintro ⟨a, ha, heq⟩
    cases heq
    exact ⟨ha, rfl⟩
  · rintro ⟨hv, rfl⟩
    exact ⟨value, hv, rfl⟩

theorem Holds.contains_iff_of_keys : r.contains name ↔ ∃ a ∈ l, key a = name := by
  rw [h.contains_iff, List.map_map, List.mem_map]
  rfl

end

/-- A value is added exactly under a name that is not taken, behind the others. -/
theorem Holds.insert?_eq_some (h : r.Holds entries) {value : α}
    (hq : r.insert? name value = some q) :
    name ∉ entries.map Prod.fst ∧ q.Holds (entries ++ [(name, value)]) := by
  unfold insert? at hq
  split at hq
  · cases hq
  · rename_i hc
    cases hq
    rw [h.contains_iff] at hc
    refine ⟨hc, ?_, ?_, ?_⟩
    · rw [toList, Array.toList_push, List.map_append, ← h.values]
      rfl
    · have hsize : r.values.size = (entries.map Prod.fst).length := by
        rw [h.size_values, List.length_map]
      rw [List.map_append, List.zipIdx_append, List.reverse_append, h.positions, hsize]
      simp
    · rw [List.map_append, List.nodup_append]
      refine ⟨h.nodup, by simp, fun a ha b hb => ?_⟩
      rintro rfl
      obtain rfl : a = name := by simpa using hb
      exact hc ha

theorem Holds.insert (h : r.Holds entries) (value : α) (hname : name ∉ entries.map Prod.fst) :
    (r.insert name value).Holds (entries ++ [(name, value)]) := by
  have hc : ¬ r.contains name = true := fun hc => hname (h.contains_iff.1 hc)
  have hq : r.insert? name value = some (r.insert name value) := by
    simp [Registry.insert, insert?, hc]
  exact (h.insert?_eq_some hq).2

end CallTracer.Registry
