import CallTracer.Proofs.RegistryEntries
import Mathlib.Logic.Basic
import Mathlib.Logic.ExistsUnique
/-! Sequences of inserts. Whatever names come in whatever order, a registry answers as a list of all
entries would in which the first value of every name wins, and its positions are those of the
storage, each of them that of one name. -/
namespace CallTracer.Registry

variable {α : Type} {r : Registry α} {kept entries : List (Text × α)} {name : Text}

/-- The registry after entries are inserted one after the other. -/
def insertAll (r : Registry α) (entries : List (Text × α)) : Registry α :=
  entries.foldl (fun r entry => r.insert entry.1 entry.2) r

/-- For each of these inserts whether it is accepted. -/
def answers (r : Registry α) : List (Text × α) → List Bool
  | [] => []
  | entry :: entries =>
    (r.insert? entry.1 entry.2).isSome :: (r.insert entry.1 entry.2).answers entries

/-- A list of entries in which the first value of every name is kept. -/
def keepFirst (kept : List (Text × α)) (entry : Text × α) : List (Text × α) :=
  if (kept.map Prod.fst).contains entry.1 then kept else kept ++ [entry]

/-- What the answers to the inserts of entries and the registry after them have to be for the first
value of every name to win. -/
structure FirstWins (entries : List (Text × α)) (answers : List Bool) (r : Registry α) : Prop where
  answered : answers.length = entries.length
  accepted : ∀ earlier entry later, entries = earlier ++ entry :: later →
    (answers[earlier.length]? = some true ↔ entry.1 ∉ earlier.map Prod.fst)
  values : r.toList = ((entries.zip answers).filter Prod.snd).map fun answered => answered.1.2
  size : r.size = answers.count true
  contains_iff : ∀ name, r.contains name ↔ name ∈ entries.map Prod.fst
  get?_eq : ∀ name, r.get? name = entries.lookup name
  inside : ∀ name i, (name, i) ∈ r.positions → i < r.values.size
  owned : ∀ i < r.values.size, ∃! name, (name, i) ∈ r.positions
  found : ∀ name i, r.position? name = some i → ∃ h : i < r.values.size, r.get? name = r.values[i]

theorem keepFirst_of_mem {entry : Text × α} (h : entry.1 ∈ kept.map Prod.fst) :
    keepFirst kept entry = kept := if_pos (List.contains_iff_mem.2 h)

theorem keepFirst_of_not_mem {entry : Text × α} (h : entry.1 ∉ kept.map Prod.fst) :
    keepFirst kept entry = kept ++ [entry] := if_neg (mt List.contains_iff_mem.1 h)

theorem insertAll_append (r : Registry α) (earlier later : List (Text × α)) :
    r.insertAll (earlier ++ later) = (r.insertAll earlier).insertAll later :=
  List.foldl_append

theorem answers_append (r : Registry α) (earlier later : List (Text × α)) :
    r.answers (earlier ++ later) =
      r.answers earlier ++ (r.insertAll earlier).answers later := by
  induction earlier generalizing r with
  | nil => rfl
  | cons entry earlier ih => exact congrArg _ (ih (r.insert entry.1 entry.2))

@[simp] theorem length_answers (r : Registry α) (entries : List (Text × α)) :
    (r.answers entries).length = entries.length := by
  induction entries generalizing r with
  | nil => rfl
  | cons entry entries ih => exact congrArg (· + 1) (ih (r.insert entry.1 entry.2))

/-- One insert: the registry keeps what the list of the first values keeps. -/
theorem Holds.insert_keepFirst (h : r.Holds kept) (entry : Text × α) :
    (r.insert entry.1 entry.2).Holds (keepFirst kept entry) := by
  by_cases hname : entry.1 ∈ kept.map Prod.fst
  · rwa [keepFirst_of_mem hname, insert_of_contains (h.contains_iff.2 hname)]
  · rw [keepFirst_of_not_mem hname]
    exact h.insert entry.2 hname

theorem Holds.insertAll (h : r.Holds kept) (entries : List (Text × α)) :
    (r.insertAll entries).Holds (entries.foldl keepFirst kept) := by
  induction entries generalizing r kept with
  | nil => exact h
  | cons entry entries ih => exact ih (h.insert_keepFirst entry)

/-- The entries that are kept are those whose inserts are accepted. -/
theorem Holds.foldl_keepFirst (h : r.Holds kept) (entries : List (Text × α)) :
    entries.foldl keepFirst kept =
      kept ++ ((entries.zip (r.answers entries)).filter Prod.snd).map Prod.fst := by
  induction entries generalizing r kept with
  | nil => simp
  | cons entry entries ih =>
    rw [List.foldl_cons, ih (h.insert_keepFirst entry), answers, isSome_insert?,
      List.zip_cons_cons]
    by_cases hname : entry.1 ∈ kept.map Prod.fst
    · rw [keepFirst_of_mem hname, h.contains_iff.2 hname, List.filter_cons_of_neg (by simp)]
    · have hc : r.contains entry.1 = false := by
        rwa [← Bool.not_eq_true, h.contains_iff]
      rw [keepFirst_of_not_mem hname, hc, List.filter_cons_of_pos rfl, List.map_cons,
        List.append_assoc, List.singleton_append]

/-- A later value of a name that is there is not found. -/
theorem lookup_keepFirst (kept : List (Text × α)) (entry : Text × α) :
    (keepFirst kept entry).lookup name = (kept ++ [entry]).lookup name := by
  by_cases hmem : entry.1 ∈ kept.map Prod.fst
  · rw [keepFirst_of_mem hmem, List.lookup_append]
    cases hkept : kept.lookup name with
    | some value => rfl
    | none =>
      have hne : name ≠ entry.1 := by
        rintro rfl
        exact lookup_eq_none_iff_not_mem.1 hkept hmem
      rw [List.lookup_cons, beq_false_of_ne hne]
      rfl
  · rw [keepFirst_of_not_mem hmem]

theorem lookup_foldl_keepFirst (kept entries : List (Text × α)) :
    (entries.foldl keepFirst kept).lookup name = (kept ++ entries).lookup name := by
  induction entries generalizing kept with
  | nil => rw [List.foldl_nil, List.append_nil]
  | cons entry entries ih =>
    rw [List.foldl_cons, ih, List.lookup_append, lookup_keepFirst, ← List.lookup_append,
      List.append_assoc, List.singleton_append]

theorem mem_names_foldl_keepFirst (kept entries : List (Text × α)) :
    name ∈ (entries.foldl keepFirst kept).map Prod.fst ↔ name ∈ (kept ++ entries).map Prod.fst := by
  rw [← not_iff_not, ← lookup_eq_none_iff_not_mem, ← lookup_eq_none_iff_not_mem,
    lookup_foldl_keepFirst]

section

variable (h : r.Holds kept)

include h

theorem Holds.lt_of_mem_positions {i : Nat} (hi : (name, i) ∈ r.positions) :
    i < r.values.size := by
  obtain ⟨hlt, -⟩ := List.getElem?_eq_some_iff.1 (h.mem_positions_iff.1 hi)
  rwa [List.length_map, ← h.size_values] at hlt

theorem Holds.existsUnique_of_lt {i : Nat} (hi : i < r.values.size) :
    ∃! name, (name, i) ∈ r.positions := by
  have hlt : i < (kept.map Prod.fst).length := by rwa [List.length_map, ← h.size_values]
  refine ⟨(kept.map Prod.fst)[i], ?_, fun n hn => ?_⟩
  · exact h.mem_positions_iff.2 (List.getElem?_eq_getElem hlt)
  · have hname := h.mem_positions_iff.1 hn
    rw [List.getElem?_eq_getElem hlt, Option.some.injEq] at hname
    exact hname.symm

/-- The value of a name is the one in the storage at its position. -/
theorem Holds.get?_eq_getElem {i : Nat} (hi : r.position? name = some i) :
    ∃ hlt : i < r.values.size, r.get? name = r.values[i] := by
  have hmem : (name, i) ∈ r.positions := by
    rwa [h.mem_positions_iff, ← h.position?_eq_some_iff]
  have hlt := h.lt_of_mem_positions hmem
  refine ⟨hlt, ?_⟩
  rw [get?, hi, Option.bind_eq_bind, Option.bind_some, Array.getElem?_eq_getElem hlt]

end

theorem holds_insertAll (entries : List (Text × α)) :
    (empty.insertAll entries).Holds (entries.foldl keepFirst []) := holds_empty.insertAll entries

theorem contains_insertAll (entries : List (Text × α)) :
    (empty.insertAll entries).contains name ↔ name ∈ entries.map Prod.fst := by
  rw [(holds_insertAll entries).contains_iff, mem_names_foldl_keepFirst, List.nil_append]

/-- An insert is accepted exactly if its name did not come before. -/
theorem getElem?_answers (earlier : List (Text × α)) (entry : Text × α)
    (later : List (Text × α)) :
    ((empty : Registry α).answers (earlier ++ entry :: later))[earlier.length]? = some true ↔
      entry.1 ∉ earlier.map Prod.fst := by
  have hlength := length_answers (empty : Registry α) earlier
  rw [answers_append, List.getElem?_append_right (Nat.le_of_eq hlength), hlength, Nat.sub_self,
    answers, List.getElem?_cons_zero, isSome_insert?, Option.some.injEq, Bool.not_eq_true',
    ← Bool.not_eq_true, contains_insertAll]

/-- The values in their order are those of the accepted inserts. -/
theorem toList_insertAll (entries : List (Text × α)) :
    (empty.insertAll entries).toList =
      ((entries.zip ((empty : Registry α).answers entries)).filter Prod.snd).map
        fun answered => answered.1.2 := by
  rw [(holds_insertAll entries).values, holds_empty.foldl_keepFirst, List.nil_append, List.map_map]
  rfl

theorem length_filter_zip {β : Type} {as : List β} {bs : List Bool}
    (h : bs.length = as.length) : ((as.zip bs).filter Prod.snd).length = bs.count true := by
  have hsnd : (as.zip bs).map Prod.snd = bs := List.map_snd_zip (Nat.le_of_eq h)
  calc ((as.zip bs).filter Prod.snd).length
      = (as.zip bs).countP ((· == true) ∘ Prod.snd) := by
        rw [List.countP_eq_length_filter]
        congr 2
        funext p
        exact (beq_true p.2).symm
    _ = ((as.zip bs).map Prod.snd).count true := List.countP_map.symm
    _ = bs.count true := by rw [hsnd]

/-- Inserts into an empty registry, of any names in any order and with any repetitions, refine a
list in which the first value of every name wins; an insert that is rejected changes nothing. -/
theorem firstWins_insertAll (entries : List (Text × α)) :
    FirstWins entries ((empty : Registry α).answers entries) (empty.insertAll entries) ∧
      ∀ entry, entry.1 ∈ entries.map Prod.fst →
        (empty : Registry α).insertAll (entries ++ [entry]) = empty.insertAll entries := by
  have hholds := holds_insertAll entries
  refine ⟨?_, fun entry hentry => ?_⟩
  · exact {
      answered := length_answers empty entries
      accepted := by
        rintro earlier entry later rfl
        exact getElem?_answers earlier entry later
      values := toList_insertAll entries
      size := by
        rw [size_eq_length, toList_insertAll, List.length_map,
          length_filter_zip (length_answers empty entries)]
      contains_iff := fun _ => contains_insertAll entries
      get?_eq := fun _ => by
        rw [hholds.get?_eq_lookup, lookup_foldl_keepFirst, List.nil_append]
      inside := fun _ _ hi => hholds.lt_of_mem_positions hi
      owned := fun _ hi => hholds.existsUnique_of_lt hi
      found := fun _ _ hi => hholds.get?_eq_getElem hi }
  · rw [insertAll_append]
    exact insert_of_contains ((contains_insertAll entries).2 hentry) entry.2

/-- Three inserts under two names, the third under the name of the first. -/
theorem firstWins_insertAll_two_names :
    let entries := [("glViewport".toList, 1), ("glClear".toList, 2)]
    let entry := ("glViewport".toList, 3)
    (empty : Registry Nat).answers (entries ++ [entry]) = [true, true, false] ∧
      FirstWins (entries ++ [entry]) ((empty : Registry Nat).answers (entries ++ [entry]))
        (empty.insertAll (entries ++ [entry])) ∧
      entry.1 ∈ entries.map Prod.fst ∧
      (empty : Registry Nat).insertAll (entries ++ [entry]) = empty.insertAll entries := by
  intro entries entry
  have hmem : entry.1 ∈ entries.map Prod.fst := by decide
  exact ⟨by decide, (firstWins_insertAll (entries ++ [entry])).1, hmem,
    (firstWins_insertAll entries).2 entry hmem⟩

end CallTracer.Registry
