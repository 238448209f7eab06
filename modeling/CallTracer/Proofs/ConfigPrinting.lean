import CallTracer.Config.Printer
import CallTracer.Proofs.ConfigFile
import CallTracer.Proofs.Saving
/-! A configuration that is written is read again as it was, whatever characters are in it. -/
namespace CallTracer

namespace Json

variable {raw text : Text}

theorem isUnit_of_control {c : Char} (h : c.toNat < 0x20) :
    IsUnit ['0', '0', hexDigit (c.toNat / 16), hexDigit (c.toNat % 16)] c.toNat := by
  have hunit := IsUnit.digits (a := '0') (b := '0') (k := 0) (l := 0) rfl rfl
    (hexDigit?_hexDigit (n := c.toNat / 16) (by omega))
    (hexDigit?_hexDigit (n := c.toNat % 16) (by omega))
  have hvalue : ((0 * 16 + 0) * 16 + c.toNat / 16) * 16 + c.toNat % 16 = c.toNat := by omega
  rwa [hvalue] at hunit

/-- The printed form of a character spells it. -/
theorem spells_escapeChar (c : Char) (h : Spells raw text) :
    Spells (escapeChar c ++ raw) (c :: text) := by
  unfold escapeChar
  split
  -- All but the last case are the characters with a short escape.
  case h_8 _ hquote hbackslash _ _ _ _ _ =>
    split
    · rename_i hcontrol
      have hleading : isLeading c.toNat = false := by simp [isLeading]; omega
      have htrailing : isTrailing c.toNat = false := by simp [isTrailing]; omega
      have hspells := h.unit (isUnit_of_control hcontrol) hleading htrailing
      rwa [Char.ofNat_toNat] at hspells
    · rename_i hplain
      exact .plain (Nat.not_lt.1 hplain) hquote hbackslash h
  all_goals exact .escape rfl h

theorem spells_escaped (s : Text) : Spells (s.flatMap escapeChar) s := by
  induction s with
  | nil => exact .done
  | cons c s ih => exact spells_escapeChar c ih

theorem printString_eq (s : Text) : printString s = quoted (s.flatMap escapeChar) := by
  simp [printString, quoted, Text.inQuotes]

theorem derives_printValue (v : Option Text) : Derives .value (printValue v) := by
  cases v with
  | none => exact .word (by simp [printValue])
  | some s =>
    rw [printValue, printString_eq]
    exact .string (spells_escaped s).quotable

/-- A member of an object that is printed. -/
def Member.ofPair (p : Text × Option Text) : Member := ⟨p.1, printValue p.2⟩

theorem isMember_printMember (p : Text × Option Text) {after : Text} (h : Blanks after) :
    IsMember (.ofPair p) ('\n' :: (printMember p ++ after)) := by
  have hbefore : Blanks "\n  ".toList := by decide
  have hinner : Blanks [' '] := by decide
  have hmember := IsMember.parts (m := .ofPair p) hbefore (spells_escaped p.1)
    blanks_nil hinner (derives_printValue p.2) h
  simpa [printMember, printString_eq, Member.ofPair] using hmember

/-- Members that are printed, with a line break before each and one behind the last. -/
theorem areMembers_printMembers (p : Text × Option Text) (ps : List (Text × Option Text)) :
    AreMembers ((p :: ps).map .ofPair)
      ('\n' :: (Text.join ",\n".toList ((p :: ps).map printMember) ++ ['\n'])) := by
  induction ps generalizing p with
  | nil => exact .last (isMember_printMember p (by decide))
  | cons q ps ih =>
    have hmember := isMember_printMember p blanks_nil
    have hmore := AreMembers.more hmember (ih q)
    have hjoin : Text.join ",\n".toList ((p :: q :: ps).map printMember) =
        printMember p ++ (",\n".toList ++
          Text.join ",\n".toList ((q :: ps).map printMember)) := by
      simp [Text.join]
    rw [hjoin]
    simpa using hmore

theorem isObject_printObject (ps : List (Text × Option Text)) :
    IsObject (ps.map .ofPair) (printObject ps) := by
  have hcontent : IsContent (ps.map .ofPair)
      ('\n' :: (Text.join ",\n".toList (ps.map printMember) ++ ['\n'])) := by
    cases ps with
    | nil => exact .empty (by decide)
    | cons p ps => exact .members (areMembers_printMembers p ps)
  have hobject := IsObject.braces blanks_nil hcontent blanks_nil
  simpa [printObject] using hobject

end Json

namespace Config
open Json

theorem takes_printValue (c : Config) (f : Field) : f.Takes (printValue (c.get f)) (c.get f) := by
  cases h : c.get f with
  | some t =>
    rw [printValue, printString_eq]
    exact .text (spells_escaped t)
  | none =>
    refine .null ?_
    cases f <;> first | rfl | cases h

/-- What the members of a printed configuration say of the fields. -/
theorem given_print (c : Config) :
    Given (Field.all.map fun f => .ofPair (f.key, c.get f))
      (Field.all.map fun f => (f, c.get f)) := by
  induction Field.all with
  | nil => exact .nothing
  | cons f fs ih => exact .known rfl (takes_printValue c f) ih

theorem setAll_all (c d : Config) : d.setAll (Field.all.map fun f => (f, c.get f)) = c := by
  apply ext_get
  intro f
  rw [get_setAll]
  · have hlookup : (Field.all.map fun f => (f, c.get f)).lookup f = some (c.get f) := by
      cases f <;> rfl
    rw [hlookup, Option.getD_some]
  · rw [List.map_map]
    exact Field.nodup_all
  · exact (given_print c).isOptional

theorem read_of_printed (c : Config) : read c.print = .ok c := by
  have hobject := isObject_printObject (Field.all.map fun f => (f.key, c.get f))
  rw [List.map_map] at hobject
  have hmet : ((Field.all.map fun f => (f, c.get f)).map Prod.fst).Nodup := by
    rw [List.map_map]
    exact Field.nodup_all
  exact (read_of_object hobject (given_print c) hmet).trans (congrArg Except.ok (setAll_all c _))

theorem print_ne_nil (c : Config) : c.print ≠ [] := by
  simp [print, printObject]

/-- A configuration is what is read of the text printed of it, and what is loaded from where it was
saved to, unless that is the device that keeps nothing. -/
theorem load_saved (c : Config) : read c.print = .ok c ∧
    ∀ (path : Text) (w : World), ((save World.host path c).reportIn w).outcome = .ok () →
      ¬w.tree.Discards path →
        (load World.host path).reportIn ((save World.host path c).after w) = pure c := by
  refine ⟨read_of_printed c, fun path w hsaved hkeeps => ?_⟩
  unfold save at hsaved ⊢
  rw [Run.after_ask_write]
  rw [Run.reportIn_ask_write, Report.outcome_ofExcept] at hsaved
  rcases w.write_cases path c.print with ⟨tree, hwrite, h⟩ | ⟨f, h⟩
  · rw [h]
    exact reportIn_load (FileTree.read_of_write hwrite c.print_ne_nil hkeeps) (read_of_printed c)
  · rw [h] at hsaved
    cases hsaved

/-- Quotes, backslashes, control characters and others, and an empty path for an output. -/
theorem load_saved_special_characters :
    let c := { Config.standard with
      header := "\"\\/\x00\x08\x1f\x7f\r\n\té€".toList
      traceOutput := some [] }
    ((save World.host "c.json".toList c).reportIn .initial).outcome = .ok () ∧
      ¬World.initial.tree.Discards "c.json".toList ∧
      read c.print = .ok c ∧
      (load World.host "c.json".toList).reportIn
        ((save World.host "c.json".toList c).after .initial) = pure c := by
  intro c
  have hsaved : ((save World.host "c.json".toList c).reportIn .initial).outcome = .ok () := rfl
  have hkeeps : ¬World.initial.tree.Discards "c.json".toList := by
    rintro ⟨l, hl⟩
    cases hl
  exact ⟨hsaved, hkeeps, (load_saved c).1, (load_saved c).2 _ _ hsaved hkeeps⟩

end Config
end CallTracer
