import CallTracer.Proofs.JsonSkipping
import CallTracer.Proofs.WorldRun
import Mathlib.Data.List.Nodup
import Mathlib.Data.List.TakeWhile
/-! Configuration files that hold an object. Its members set the fields that they name, in whatever
order they stand; what no field is named by is passed over. -/
namespace CallTracer

namespace Json

/-- A member of an object: its name, and its value as it is written. -/
structure Member where
  name : Text
  value : Text

/-- The texts that are a member, with the blanks around it. A name is a text, so that escaped
surrogates come in pairs in it. -/
inductive IsMember (m : Member) : Text → Prop
  | parts {before raw between inner after} (before_blanks : Blanks before)
      (named : Spells raw m.name) (between_blanks : Blanks between) (inner_blanks : Blanks inner)
      (value : Derives .value m.value) (after_blanks : Blanks after) :
      IsMember m (before ++ (quoted raw ++ (between ++ ':' :: (inner ++ (m.value ++ after)))))

/-- One or more members, with commas between. -/
inductive AreMembers : List Member → Text → Prop
  | last {m s} (member : IsMember m s) : AreMembers [m] s
  | more {m ms s t} (member : IsMember m s) (rest : AreMembers ms t) :
      AreMembers (m :: ms) (s ++ ',' :: t)

/-- What stands between the braces of an object. -/
inductive IsContent : List Member → Text → Prop
  | empty {s} (blanks : Blanks s) : IsContent [] s
  | members {ms s} (members : AreMembers ms s) : IsContent ms s

/-- A text that is an object with some members, and blanks around it. -/
inductive IsObject (ms : List Member) : Text → Prop
  | braces {before s after} (before_blanks : Blanks before) (content : IsContent ms s)
      (after_blanks : Blanks after) :
      IsObject ms (before ++ '\x7b' :: (s ++ '\x7d' :: after))

end Json

namespace Config
open Json

/-- The values that a field takes, as they are written and as what they set it to: a text, or null
if the field may be null. -/
inductive Field.Takes (f : Field) : Text → Option Text → Prop
  | text {raw t} (content : Spells raw t) : f.Takes (quoted raw) (some t)
  | null (optional : f.isOptional) : f.Takes "null".toList none

/-- What members say of the fields, each in its place among them. -/
inductive Given : List Member → List (Field × Option Text) → Prop
  | nothing : Given [] []
  | unknown {m ms given} (unknown : ∀ f : Field, m.name ≠ f.key) (rest : Given ms given) :
      Given (m :: ms) given
  | known {m ms f v given} (named : m.name = f.key) (value : f.Takes m.value v)
      (rest : Given ms given) : Given (m :: ms) ((f, v) :: given)

/-- The configuration with some fields set one after the other. -/
def setAll (c : Config) (given : List (Field × Option Text)) : Config :=
  given.foldl (fun c g => c.set g.1 g.2) c

/-- What stands before a member that is read: nothing, or what is left behind the last one. -/
inductive Lead : Bool → Text → Prop
  | first : Lead true []
  | later {after} (blanks : Blanks after) : Lead false (after ++ [','])

variable {ms : List Member} {given : List (Field × Option Text)} {c : Config} {d d' : Draft}
  {f : Field} {v : Option Text} {first : Bool} {s r lead before raw name value between inner rest
  : Text}

theorem readKey?_of_lead (h : Lead first lead) (hbefore : Blanks before) (hname : Spells raw name)
    (rest : Text) :
    readKey? first (lead ++ (before ++ (quoted raw ++ rest))) = .ok (some name, rest) := by
  have hread : readString (raw ++ ('"' :: rest)) = .ok (name, rest) := hname.readString rest
  have hquoted : quoted raw ++ rest = '"' :: (raw ++ '"' :: rest) := by simp [quoted]
  rw [hquoted]
  cases h with
  | first =>
    rw [List.nil_append, readKey?, skipBlank_append_cons hbefore rfl]
    simp [hread, Except.map]
  | @later after hafter =>
    rw [List.append_assoc, List.singleton_append, readKey?, skipBlank_append_cons hafter rfl]
    simp [skipBlank_append_cons hbefore (c := '"') rfl, hread, Except.map]

theorem readKey?_closing (first : Bool) (hbefore : Blanks before) (rest : Text) :
    readKey? first (before ++ '\x7d' :: rest) = .ok (none, rest) := by
  rw [readKey?, skipBlank_append_cons hbefore rfl]
  rfl

theorem readColon_append (h : Blanks between) (rest : Text) :
    readColon (between ++ ':' :: rest) = .ok rest := by
  rw [readColon, skipBlank_append_cons h rfl]
  rfl

theorem Field.Takes.readValue (h : f.Takes value v) (hinner : Blanks inner) (rest : Text) :
    readValue f (inner ++ (value ++ rest)) = .ok (v, rest) := by
  cases h with
  | @text raw t content =>
    have hquoted : quoted raw ++ rest = '"' :: (raw ++ '"' :: rest) := by simp [quoted]
    rw [hquoted, Config.readValue, skipBlank_append_cons hinner rfl]
    simp [content.readString, Except.map, lift]
  | null optional =>
    have hnull : skipBlank (inner ++ ("null".toList ++ rest)) = 'n' :: ("ull".toList ++ rest) :=
      skipBlank_append_cons hinner rfl _
    rw [Config.readValue, hnull]
    simp [optional, readWord, Except.map, lift]

/-- What is read of a member that no field is named by. -/
theorem readMember_unknown (hname : ∀ f : Field, name ≠ f.key) (hbetween : Blanks between)
    (hinner : Blanks inner) (hvalue : Derives .value value) (hrest : Stops rest) (d : Draft) :
    readMember d name (between ++ ':' :: (inner ++ (value ++ rest))) = .ok (d, rest) := by
  have hkey : Field.ofKey? name = none := by
    rw [Field.ofKey?, List.find?_eq_none]
    intro f _ hf
    exact hname f (of_decide_eq_true hf).symm
  unfold readMember
  rw [hkey]
  simp [readColon_append hbetween, hvalue.skipValue hinner hrest, lift, bind, Except.bind, pure,
    Except.pure]

/-- What is read of a member that names a field. -/
theorem readMember_known (hvalue : f.Takes value v) (hmet : f ∉ d.met)
    (hbetween : Blanks between) (hinner : Blanks inner) (rest : Text) :
    readMember d f.key (between ++ ':' :: (inner ++ (value ++ rest))) =
      .ok (⟨d.config.set f v, f :: d.met⟩, rest) := by
  unfold readMember
  rw [Field.ofKey?_key]
  simp [hmet, readColon_append hbetween, hvalue.readValue hinner, lift, bind, Except.bind, pure,
    Except.pure]

theorem readMembers_member (hkey : readKey? first s = .ok (some name, r))
    (hmember : readMember d name r = .ok (d', rest)) :
    readMembers d first s = readMembers d' false rest := by
  rw [readMembers.eq_def d first s]
  split
  · rename_i hk
    cases hkey.symm.trans hk
  · rename_i hk
    cases hkey.symm.trans hk
  · rename_i hk
    cases hkey.symm.trans hk
    split
    · rename_i hm
      cases hmember.symm.trans hm
    · rename_i hm
      cases hmember.symm.trans hm
      rfl

theorem readMembers_closing (first : Bool) (hbefore : Blanks before) (rest : Text) (d : Draft) :
    readMembers d first (before ++ '\x7d' :: rest) = .ok (d.config, rest) := by
  have hkey := readKey?_closing first hbefore rest
  rw [readMembers]
  split
  · rename_i hk
    cases hkey.symm.trans hk
  · rename_i hk
    cases hkey.symm.trans hk
    rfl
  · rename_i hk
    cases hkey.symm.trans hk

/-- One member more is read: what the remaining members give completes what is drafted then. -/
theorem exists_readMembers_member {m : Member} (hm : IsMember m s) (hgiven : Given (m :: ms) given)
    (hmet : (given.map Prod.fst ++ d.met).Nodup) (hlead : Lead first lead) (hrest : Stops rest) :
    ∃ d' given' after, Blanks after ∧
      readMembers d first (lead ++ (s ++ rest)) = readMembers d' false (after ++ rest) ∧
      Given ms given' ∧ (given'.map Prod.fst ++ d'.met).Nodup ∧
      d'.config.setAll given' = d.config.setAll given := by
  obtain @⟨before, raw, between, inner, after, hbefore, hname, hbetween, hinner, hvalue,
    hafter⟩ := hm
  have hkey := readKey?_of_lead hlead hbefore hname
    (between ++ ':' :: (inner ++ (m.value ++ (after ++ rest))))
  have htext : before ++ (quoted raw ++ (between ++ ':' :: (inner ++ (m.value ++ after)))) ++ rest =
      before ++ (quoted raw ++ (between ++ ':' :: (inner ++ (m.value ++ (after ++ rest))))) := by
    simp only [List.append_assoc, List.cons_append]
  rw [htext]
  cases hgiven with
  | unknown unknown hgiven =>
    refine ⟨d, given, after, hafter, readMembers_member hkey ?_, hgiven, hmet, rfl⟩
    exact readMember_unknown unknown hbetween hinner hvalue (hrest.append hafter) d
  | @known _ _ f v given name takes hgiven =>
    rw [List.map_cons, List.cons_append, List.nodup_cons] at hmet
    have hf : f ∉ d.met := fun h => hmet.1 (List.mem_append_right _ h)
    rw [name] at hkey
    refine ⟨⟨d.config.set f v, f :: d.met⟩, given, after, hafter, readMembers_member hkey ?_,
      hgiven, ?_, rfl⟩
    · exact readMember_known takes hf hbetween hinner _
    · rw [List.nodup_middle, List.nodup_cons]
      exact hmet

/-- The members of an object are read one after the other, up to its end. -/
theorem readMembers_of_given (h : AreMembers ms s) (hgiven : Given ms given)
    (hmet : (given.map Prod.fst ++ d.met).Nodup) (hlead : Lead first lead) (rest : Text) :
    readMembers d first (lead ++ (s ++ '\x7d' :: rest)) = .ok (d.config.setAll given, rest) := by
  -- No field that is still given has been met, so that no member is refused as a duplicate.
  induction h generalizing d given first lead with
  | last member =>
    have hstops : Stops ('\x7d' :: rest) := stops_closing .object rest
    obtain ⟨d', given', after, hafter, hread, hgiven', -, hset⟩ :=
      exists_readMembers_member member hgiven hmet hlead hstops
    cases hgiven'
    rw [hread, ← hset]
    exact readMembers_closing false hafter rest d'
  | @more m ms s t member _ ih =>
    obtain ⟨d', given', after, hafter, hread, hgiven', hmet', hset⟩ :=
      exists_readMembers_member member hgiven hmet hlead (stops_comma (t ++ '\x7d' :: rest))
    have hcomma : after ++ ',' :: (t ++ '\x7d' :: rest) =
        after ++ [','] ++ (t ++ '\x7d' :: rest) := by simp
    rw [List.append_assoc, List.cons_append, hread, hcomma, ih hgiven' hmet' (.later hafter), hset]

theorem readMembers_content (h : IsContent ms s) (hgiven : Given ms given)
    (hmet : (given.map Prod.fst).Nodup) (rest : Text) :
    readMembers ⟨c, []⟩ true (s ++ '\x7d' :: rest) = .ok (c.setAll given, rest) := by
  cases h with
  | empty blanks =>
    cases hgiven
    exact readMembers_closing true blanks rest ⟨c, []⟩
  | members members =>
    exact readMembers_of_given (d := ⟨c, []⟩) members hgiven (by simpa using hmet) .first rest

/-- A configuration file that holds an object sets what its members give, over the standard. -/
theorem read_of_object (h : IsObject ms s) (hgiven : Given ms given)
    (hmet : (given.map Prod.fst).Nodup) : read s = .ok (standard.setAll given) := by
  obtain @⟨before, s, after, hbefore, content, hafter⟩ := h
  have hblank : skipBlank (before ++ '\x7b' :: (s ++ '\x7d' :: after)) =
      '\x7b' :: (s ++ '\x7d' :: after) := skipBlank_append_cons hbefore rfl _
  have hend : skipBlank after = [] := List.dropWhile_eq_nil_iff.2 hafter
  rw [read, hblank]
  simp [readMembers_content content hgiven hmet, readEnd, hend, bind, Except.bind]

theorem reportIn_load {w : World} {path : Text} (hread : w.tree.read path = .ok s)
    (h : read s = .ok c) : (load World.host path).reportIn w = pure c := by
  simp only [load, Run.reportIn_bind, Run.reportIn_ask_read, hread]
  exact congrArg (fun r => Report.ofExcept (r.mapError Failure.config)) h

theorem get_set (h : v = none → f.isOptional) (g : Field) :
    (c.set f v).get g = if f = g then v else c.get g := by
  cases v with
  | some t => exact get_put c f g t
  | none =>
    cases f
    case traceOutput => cases g <;> rfl
    all_goals cases h rfl

theorem Field.Takes.isOptional (h : f.Takes value none) : f.isOptional := by
  cases h with
  | null optional => exact optional

theorem Given.isOptional (h : Given ms given) : ∀ g ∈ given, g.2 = none → g.1.isOptional := by
  induction h with
  | nothing => simp
  | unknown _ _ ih => exact ih
  | known _ takes _ ih =>
    intro g hg hnone
    rcases List.mem_cons.1 hg with rfl | hg
    · cases hnone
      exact takes.isOptional
    · exact ih g hg hnone

/-- Each field is what it is set to, or else what it was. -/
theorem get_setAll (hmet : (given.map Prod.fst).Nodup)
    (hnull : ∀ g ∈ given, g.2 = none → g.1.isOptional) (f : Field) :
    (c.setAll given).get f = (given.lookup f).getD (c.get f) := by
  induction given generalizing c with
  | nil => rfl
  | cons g given ih =>
    obtain ⟨e, v⟩ := g
    rw [List.map_cons, List.nodup_cons] at hmet
    have hset := get_set (c := c) (hnull (e, v) List.mem_cons_self) f
    have hrest := ih (c := c.set e v) hmet.2 fun g hg => hnull g (List.mem_cons_of_mem _ hg)
    change ((c.set e v).setAll given).get f = _
    rw [hrest, hset, List.lookup_cons]
    by_cases hf : e = f
    · subst hf
      have hlookup : given.lookup e = none := by
        rw [List.lookup_eq_none_iff]
        rintro g hg
        rw [bne_iff_ne]
        rintro rfl
        exact hmet.1 (List.mem_map.2 ⟨g, hg, rfl⟩)
      simp [hlookup]
    · simp [hf, beq_eq_false_iff_ne.2 (Ne.symm hf)]

end Config
end CallTracer
