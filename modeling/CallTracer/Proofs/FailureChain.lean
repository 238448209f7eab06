import CallTracer.Failure
/-! Which failures count as unknown types: those from which the way down the causes, through
failures of resolution only, comes to an unknown type. A failure of another kind ends the way, and
an unknown type below it is not seen. -/
namespace CallTracer.Failure

/-- From the failure an unknown type is reached by asking for one cause after the other, where only
failures of resolution have been passed. -/
inductive LeadsTo (spelling : Text) : Failure → Prop
  | found : LeadsTo spelling (.unknownType spelling)
  | through {f c : Failure} (resolution : f.isResolution) (isCause : f.cause? = some c)
      (rest : LeadsTo spelling c) : LeadsTo spelling f

variable {f c g : Failure} {spelling other : Text} {above below : List Failure}

theorem unknownType?_of_cause? (hf : f.isResolution) (hc : f.cause? = some c)
    (hplace : c ≠ .place) : f.unknownType? = c.unknownType? := by
  cases f with
  | function | resultType | parameter =>
    cases hc
    rfl
  | unknownType =>
    cases hc
    exact absurd rfl hplace
  | _ => cases hf

theorem LeadsTo.ne_place (h : f.LeadsTo spelling) : f ≠ .place := by
  rintro rfl
  cases h with
  | through resolution => cases resolution

theorem LeadsTo.unknownType? (h : f.LeadsTo spelling) : f.unknownType? = some spelling := by
  induction h with
  | found => rfl
  | through resolution isCause rest ih =>
    rw [unknownType?_of_cause? resolution isCause rest.ne_place, ih]

theorem leadsTo_of_unknownType? (h : f.unknownType? = some spelling) : f.LeadsTo spelling := by
  induction f with
  | unknownType other =>
    cases h
    exact .found
  | function _ c ih | resultType c ih | parameter _ c ih => exact .through rfl rfl (ih h)
  | _ => cases h

theorem unknownType?_eq_some_iff : f.unknownType? = some spelling ↔ f.LeadsTo spelling :=
  ⟨leadsTo_of_unknownType?, LeadsTo.unknownType?⟩

/-- The two questions descend in step. -/
theorem isUnknownType_eq_isSome (f : Failure) : f.isUnknownType = f.unknownType?.isSome := by
  induction f with
  | function _ c ih | resultType c ih | parameter _ c ih => exact ih
  | _ => rfl

/-- Nothing but failures of resolution stands before an unknown type that counts. -/
theorem LeadsTo.isResolution_of_above (h : f.LeadsTo spelling)
    (hchain : f :: f.causes = above ++ .unknownType other :: below) (hg : g ∈ above) :
    g.isResolution := by
  induction h generalizing above with
  | found =>
    cases above with
    | nil => cases hg
    | cons a above =>
      -- The unknown type has its place alone below it.
      cases above with
      | nil => cases hchain
      | cons b above => simp [causes] at hchain
  | through resolution isCause rest ih =>
    rw [causes_eq, isCause] at hchain
    cases above with
    | nil => cases hg
    | cons a above =>
      obtain ⟨rfl, hrest⟩ := List.cons_eq_cons.1 hchain
      rcases List.mem_cons.1 hg with rfl | hg
      · exact resolution
      · exact ih hrest hg

/-- The two questions that a failure answers about unknown types agree, whatever the failure: both
find the unknown type that the way down the causes leads to through failures of resolution, and
neither finds one below a failure of another kind. -/
theorem unknown_type_found (f : Failure) :
    (f.isUnknownType ↔ f.unknownType?.isSome) ∧
    (f.isUnknownType ↔ ∃ spelling, f.LeadsTo spelling) ∧
    (∀ spelling, f.unknownType? = some spelling ↔ f.LeadsTo spelling) ∧
    (∀ spelling, (stage .types f).unknownTypeOfRun? = some spelling ↔ f.LeadsTo spelling) ∧
    ∀ above other below, f :: f.causes = above ++ .unknownType other :: below →
      (∃ g ∈ above, g.isResolution = false) → f.isUnknownType = false ∧ f.unknownType? = none := by
  have hexists : f.isUnknownType ↔ ∃ spelling, f.LeadsTo spelling := by
    simp only [isUnknownType_eq_isSome, Option.isSome_iff_exists, unknownType?_eq_some_iff]
  refine ⟨by rw [isUnknownType_eq_isSome], hexists, fun _ => unknownType?_eq_some_iff,
    fun _ => unknownType?_eq_some_iff, fun above other below hchain => ?_⟩
  rintro ⟨g, hg, hother⟩
  have hnone : ∀ spelling, ¬f.LeadsTo spelling := fun spelling hleads => by
    rw [hleads.isResolution_of_above hchain hg] at hother
    cases hother
  refine ⟨Bool.eq_false_iff.2 fun h => ?_, Option.eq_none_iff_forall_ne_some.2 fun spelling h => ?_⟩
  · obtain ⟨spelling, hleads⟩ := hexists.1 h
    exact hnone spelling hleads
  · exact hnone spelling (unknownType?_eq_some_iff.1 h)

/-- The same unknown type seen through two failures of resolution, and hidden below another kind. -/
theorem unknown_type_found_hidden :
    let seen := Failure.function "glMake".toList (.resultType (.unknownType "GLhandleARB".toList))
    let between := Failure.otherBecause "no second attempt".toList seen
    let hidden := Failure.function "glMake".toList between
    seen.unknownType? = some "GLhandleARB".toList ∧
      hidden :: hidden.causes = hidden :: between :: seen :: seen.causes ∧
      hidden.isUnknownType = false ∧ hidden.unknownType? = none := by
  intro seen between hidden
  have hchain : hidden :: hidden.causes =
      [hidden, between, seen, .resultType (.unknownType "GLhandleARB".toList)] ++
        .unknownType "GLhandleARB".toList :: [.place] := rfl
  exact ⟨((unknown_type_found seen).2.2.1 _).2 (.through rfl rfl (.through rfl rfl .found)), rfl,
    (unknown_type_found hidden).2.2.2.2 _ _ _ hchain ⟨between, by simp, rfl⟩⟩

end CallTracer.Failure
