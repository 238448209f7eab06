import CallTracer.KnownType
import CallTracer.Proofs.Lexeme
/-! What a format says once its literals are put together: characters and macros, and which of them
are one conversion directive. -/
namespace CallTracer

/-- A part of a format: a character of a literal, or the macro for the conversion of 64 bits. -/
inductive FormatPart
  | char (c : Char)
  | wide
  deriving DecidableEq, Repr

namespace FormatPart

/-- A text as a part of a format. -/
def ofText (s : Text) : List FormatPart := s.map char

@[simp] theorem ofText_append (s t : Text) : ofText (s ++ t) = ofText s ++ ofText t :=
  List.map_append

/-- What may stand between the percent sign and the letter of a conversion. -/
def lengths : List Text := [[], "hh".toList, "h".toList, "l".toList, "ll".toList, "j".toList,
  "z".toList, "t".toList, "L".toList]

/-- The letters of the conversions that show a value. -/
def letters : Text := "diuoxXfFeEgGaAcsp".toList

/-- One conversion directive. The macro stands for its length and letter. -/
inductive IsDirective : List FormatPart → Prop
  | letter {length : Text} {c : Char} (hlength : length ∈ lengths) (hc : c ∈ letters) :
    IsDirective (char '%' :: ofText length ++ [char c])
  | wide : IsDirective [char '%', wide]

end FormatPart

namespace Lexeme

variable {s t content : Text} {ls us : List Lexeme} {ps : List FormatPart}

/-- The format that lexemes put together, if they are literals and the macro. -/
def format? : List Lexeme → Option (List FormatPart)
  | [] => some []
  | .literal content :: ls => (format? ls).map (FormatPart.ofText content ++ ·)
  | .name n :: ls => if n = "PRId64".toList then (format? ls).map (.wide :: ·) else none
  | .mark _ :: _ => none

theorem not_mark_of_format? (h : format? ls = some ps) : ∀ l ∈ ls, ∀ c, l ≠ .mark c := by
  induction ls generalizing ps with
  | nil => exact List.forall_mem_nil _
  | cons l ls ih =>
    cases l with
    | name n =>
      rw [format?] at h
      split at h
      · obtain ⟨qs, hqs, -⟩ := Option.map_eq_some_iff.1 h
        exact List.forall_mem_cons.2 ⟨fun _ => Lexeme.noConfusion, ih hqs⟩
      · cases h
    | literal content =>
      obtain ⟨qs, hqs, -⟩ := Option.map_eq_some_iff.1 h
      exact List.forall_mem_cons.2 ⟨fun _ => Lexeme.noConfusion, ih hqs⟩
    | mark c => cases h

/-- The format of what stands behind an opening quote. -/
def formatInside? (s : Text) : Option (List FormatPart) := (readFrom (some []) s).bind format?

/-- The format of a text that consists of literals and the macro. -/
def formatOf? (s : Text) : Option (List FormatPart) := (read s).bind format?

/-- What is already read of a literal only stands before its format. -/
theorem format?_readFrom_append (before content s : Text) :
    (readFrom (some (before ++ content)) s).bind format? =
      ((readFrom (some content) s).bind format?).map (FormatPart.ofText before ++ ·) := by
  generalize hopened : some content = opened
  fun_induction readFrom opened s generalizing content with
  | case2 =>
    cases hopened
    simp [readFrom]
  | case3 =>
    cases hopened
    simp [readFrom]
  | case4 content s ih =>
    cases hopened
    rw [readFrom]
    cases readFrom none s with
    | none => rfl
    | some ls => cases h : format? ls <;> simp [format?, h]
  | case5 content c s ih =>
    cases hopened
    rw [readFrom, List.append_assoc, ih _ rfl]
  | case6 content c s hn hq hpair ih =>
    cases hopened
    rw [readFrom, List.append_assoc, ih _ rfl]
    · exact hn
    · exact hq
    · exact hpair
  | _ => cases hopened

theorem formatInside?_append (h : Unescaped s) (t : Text) :
    formatInside? (s ++ t) = (formatInside? t).map (FormatPart.ofText s ++ ·) := by
  have := format?_readFrom_append s [] t
  rw [List.append_nil] at this
  rw [formatInside?, readFrom_content h, List.nil_append, this]
  rfl

theorem formatOf?_open (s : Text) : formatOf? ('"' :: s) = formatInside? s := by
  rw [formatOf?, read, readFrom_open]
  rfl

/-- A literal that ends and begins again is not interrupted. -/
theorem formatInside?_reopen (s : Text) :
    formatInside? ("\" \"".toList ++ s) = formatInside? s := by
  have hread : readFrom (some []) ("\" \"".toList ++ s) =
      (readFrom (some []) s).map (.literal [] :: ·) := by
    change readFrom (some []) ('"' :: ' ' :: '"' :: s) = _
    rw [readFrom, readFrom_blank rfl, readFrom_open]
  rw [formatInside?, hread, Option.bind_map, formatInside?]
  refine congrArg _ (funext fun ls => ?_)
  simp [format?, FormatPart.ofText]

/-- The macro stands between a literal that ends and one that begins. -/
theorem formatInside?_wide (s : Text) : formatInside? ("%\" PRId64\"".toList ++ s) =
    (formatInside? s).map ([.char '%', .wide] ++ ·) := by
  have hread : readFrom (some []) ("%\" PRId64\"".toList ++ s) =
      (readFrom (some []) s).map ([.literal ['%'], .name "PRId64".toList] ++ ·) := by
    have hname : readFrom none ("PRId64".toList ++ '"' :: s) =
        (readFrom none ('"' :: s)).map ([.name "PRId64".toList] ++ ·) :=
      readFrom_append (read_name (by decide)) rfl
    change readFrom (some []) ('%' :: '"' :: ' ' :: ("PRId64".toList ++ '"' :: s)) = _
    rw [readFrom, readFrom, readFrom_blank rfl, hname, readFrom_open, Option.map_map]
    · rfl
    · decide
    · decide
    · exact fun _ _ he => absurd he (by decide)
  rw [formatInside?, hread, Option.bind_map, formatInside?]
  cases readFrom (some []) s with
  | none => rfl
  | some ls => cases h : format? ls <;> simp [format?, h, FormatPart.ofText]

end Lexeme

namespace Directive

/-- The item of a format that a directive is. -/
def item : Directive → List FormatPart
  | wide => [.char '%', .wide]
  | d => FormatPart.ofText d.text

theorem formatInside?_text (d : Directive) (s : Text) :
    Lexeme.formatInside? (d.text ++ s) = (Lexeme.formatInside? s).map (d.item ++ ·) := by
  cases d with
  | wide => exact Lexeme.formatInside?_wide s
  | _ => exact Lexeme.formatInside?_append (by decide) s

/-- Between quotes the text of a directive is its item alone. -/
theorem formatOf?_text (d : Directive) :
    Lexeme.formatOf? (Text.inQuotes d.text) = some d.item := by
  have hend : Lexeme.formatInside? ['"'] = some [] := by decide +kernel
  rw [Text.inQuotes, List.cons_append, Lexeme.formatOf?_open, formatInside?_text, hend]
  simp

/-- The item of a directive is one conversion, unless it belongs to a type without values. -/
theorem isDirective_item (d : Directive) : FormatPart.IsDirective d.item ↔ d ≠ none := by
  have hletter : ∀ l ∈ FormatPart.lengths, ∀ c ∈ FormatPart.letters,
      FormatPart.IsDirective (.char '%' :: FormatPart.ofText l ++ [.char c]) :=
    fun l hl c hc => .letter hl hc
  cases d with
  | none => exact iff_of_false (fun h => nomatch h) fun h => h rfl
  | string => exact iff_of_true (hletter [] (by decide) 's' (by decide)) Directive.noConfusion
  | unsigned => exact iff_of_true (hletter [] (by decide) 'u' (by decide)) Directive.noConfusion
  | signed => exact iff_of_true (hletter [] (by decide) 'i' (by decide)) Directive.noConfusion
  | floating => exact iff_of_true (hletter [] (by decide) 'f' (by decide)) Directive.noConfusion
  | size => exact iff_of_true (hletter ['z'] (by decide) 'u' (by decide)) Directive.noConfusion
  | wide => exact iff_of_true .wide Directive.noConfusion
  | hexadecimal =>
    exact iff_of_true (hletter [] (by decide) 'x' (by decide)) Directive.noConfusion
  | pointer => exact iff_of_true (hletter [] (by decide) 'p' (by decide)) Directive.noConfusion

/-- Directives with commas between them are their items with commas between them. -/
theorem formatInside?_join (ds : List Directive) (s : Text) :
    Lexeme.formatInside? (Text.join ", ".toList (ds.map text) ++ s) =
      (Lexeme.formatInside? s).map
        (List.intercalate (FormatPart.ofText ", ".toList) (ds.map item) ++ ·) := by
  induction ds with
  | nil => exact Option.map_id'.symm
  | cons d ds ih =>
    cases ds with
    | nil => simpa [Text.join] using formatInside?_text d s
    | cons e ds =>
      have hcomma : Lexeme.Unescaped ", ".toList := by decide
      rw [List.map_cons, List.map_cons, Text.join, ← List.map_cons, List.append_assoc,
        List.append_assoc, formatInside?_text, Lexeme.formatInside?_append hcomma, ih,
        Option.map_map, Option.map_map]
      refine congrArg (Option.map · _) (funext fun ps => ?_)
      simp [List.intercalate_cons_cons]

end Directive
end CallTracer
