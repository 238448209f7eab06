import CallTracer.Proofs.MemberAccess
import Mathlib.Data.List.Basic
/-! Generated source read line by line: the block that a text ends with, the names that a macro is
applied to, and the functions that the lines define. -/
namespace CallTracer.Text
open Identifier (not_mem_of_isPart)

variable {s t line : Text} {ls : List Text}

/-- The lines that begin with a tab before the brace that closes a text. -/
def lastBlock (text : Text) : List Text :=
  (((lines text).reverse.dropWhile fun l => l.isEmpty || l == "\x7d".toList).takeWhile
    (·.head? = some '\t')).reverse

/-- Whether a text is a heading and a block below it. -/
def IsBlock (heading text : Text) : Prop :=
  text = heading ++ '\n' :: unlines ("\x7b".toList :: lastBlock text ++ ["\x7d".toList, []])

/-- What stands on a line before the first parenthesis. -/
def stem (line : Text) : Text := line.takeWhile (· != '(')

/-- The name on a line that applies a macro to it. -/
def entryOn? (entryMacro line : Text) : Option Text :=
  let name := ((line.dropWhile (· != '(')).drop 1).takeWhile (· != ')')
  if line = '\t' :: entryMacro ++ '(' :: name ++ ");".toList then some name else none

/-- The names that a macro is applied to on some lines. -/
def entries (entryMacro : Text) (ls : List Text) : List Text := ls.filterMap (entryOn? entryMacro)

/-- The functions that some lines define: each has its parameters in parentheses on one line, and a
brace opens on the next. -/
def defined : List Text → List Text
  | line :: next :: rest =>
    if line.contains '(' && next == "\x7b".toList then
      lastName (stem line) :: defined (next :: rest)
    else defined (next :: rest)
  | _ => []

theorem lines_append_line (s t : Text) :
    lines (s ++ '\n' :: t) = lines (s ++ ['\n']) ++ lines t := by
  induction s using induction_lines with
  | last s hs => rw [lines_append t hs, lines_append [] hs, lines_nil, List.singleton_append]
  | line s r hs ih =>
    rw [List.append_assoc, List.append_assoc, List.cons_append, List.cons_append,
      lines_append _ hs, lines_append _ hs, ih]
    rfl

theorem unlines_flatMap {α : Type} (f : α → List Text) (as : List α) :
    unlines (as.flatMap f) = as.flatMap fun a => unlines (f a) :=
  List.flatMap_assoc

/-- Whatever stands above a block, its lines are read back. -/
theorem lastBlock_eq (heading : Text) {block : List Text}
    (h : ∀ l ∈ block, IsLine l ∧ l.head? = some '\t') :
    lastBlock (heading ++ '\n' :: unlines ("\x7b".toList :: block ++ ["\x7d".toList, []])) =
      block := by
  have hlines : lines (unlines ("\x7b".toList :: block ++ ["\x7d".toList, []])) =
      "\x7b".toList :: block ++ ["\x7d".toList, []] := by
    refine lines_unlines (List.forall_mem_append.2 ⟨List.forall_mem_cons.2 ⟨by decide, ?_⟩, ?_⟩)
    · exact fun l hl => (h l hl).1
    · exact List.forall_mem_cons.2 ⟨by decide, List.forall_mem_singleton.2 (by decide)⟩
  have hreverse : ("\x7b".toList :: block ++ ["\x7d".toList, []]).reverse =
      [] :: "\x7d".toList :: (block.reverse ++ ["\x7b".toList]) := by simp
  have htab : ∀ l ∈ block.reverse, (decide (l.head? = some '\t')) = true := fun l hl =>
    decide_eq_true (h l (List.mem_reverse.1 hl)).2
  generalize hbefore : (lines (heading ++ ['\n'])).reverse = before
  -- Neither a line with a tab nor the opening brace is one that closes the block.
  have hstop : (block.reverse ++ ["\x7b".toList] ++ before).dropWhile
      (fun l => l.isEmpty || l == "\x7d".toList) = block.reverse ++ ["\x7b".toList] ++ before := by
    cases hb : block.reverse with
    | nil => rfl
    | cons l ls =>
      obtain ⟨l, rfl⟩ : ∃ cs, l = '\t' :: cs :=
        List.head?_eq_some_iff.1 (h l (List.mem_reverse.1 (hb ▸ List.mem_cons_self))).2
      rfl
  rw [lastBlock, lines_append_line, hlines, List.reverse_append, hreverse, hbefore,
    List.cons_append, List.cons_append, List.dropWhile_cons_of_pos rfl,
    List.dropWhile_cons_of_pos rfl, hstop, List.append_assoc, List.takeWhile_append_of_pos htab,
    List.singleton_append, List.takeWhile_cons_of_neg (by decide), List.append_nil,
    List.reverse_reverse]

theorem isBlock_of_lines (heading : Text) {block : List Text}
    (h : ∀ l ∈ block, IsLine l ∧ l.head? = some '\t') :
    IsBlock heading
      (heading ++ '\n' :: unlines ("\x7b".toList :: block ++ ["\x7d".toList, []])) := by
  rw [IsBlock, lastBlock_eq heading h]

/-- An entry begins with a tab. -/
theorem entryOn?_of_head (entryMacro : Text) (h : line.head? ≠ some '\t') :
    entryOn? entryMacro line = none := by
  refine if_neg fun hline => h ?_
  rw [hline]
  rfl

theorem stem_append (h : '(' ∉ s) (t : Text) : stem (s ++ '(' :: t) = s :=
  (takeWhile_append_of_not_mem t h).1

theorem stem_of_not_mem (h : '(' ∉ s) : stem s = s := by
  refine List.takeWhile_eq_self_iff.2 fun c hc => ?_
  rw [bne_iff_ne]
  rintro rfl
  exact h hc

section

variable {entryMacro name : Text}

theorem entryOn?_entryLine (hm : '(' ∉ entryMacro) (hn : ')' ∉ name) :
    entryOn? entryMacro ('\t' :: entryMacro ++ '(' :: name ++ ");".toList) = some name := by
  have hm' : '(' ∉ '\t' :: entryMacro := by simpa using hm
  have hline : '\t' :: entryMacro ++ '(' :: name ++ ");".toList =
      ('\t' :: entryMacro) ++ '(' :: (name ++ ')' :: [';']) := by simp
  rw [entryOn?, hline, (takeWhile_append_of_not_mem _ hm').2, List.drop_one, List.tail_cons,
    (takeWhile_append_of_not_mem [';'] hn).1, if_pos hline.symm]

/-- Nothing but the macro stands before the parenthesis of an entry. -/
theorem entryOn?_eq_none (hm : '(' ∉ entryMacro) (h : stem line ≠ '\t' :: entryMacro) :
    entryOn? entryMacro line = none := by
  refine if_neg fun hline => h ?_
  rw [hline, List.append_assoc]
  exact stem_append (by simpa using hm) _

/-- No entry has anything but a name before the parenthesis. -/
theorem entryOn?_of_mem_stem {c : Char} (hm : ∀ d ∈ entryMacro, Identifier.isPart d)
    (hc : c ∈ stem line) (htab : c ≠ '\t') (hpart : Identifier.isPart c = false) :
    entryOn? entryMacro line = none := by
  refine entryOn?_eq_none (not_mem_of_isPart hm rfl) fun heq => ?_
  rw [heq] at hc
  exact not_mem_of_isPart hm hpart ((List.mem_cons.1 hc).resolve_left htab)

end

theorem defined_cons_of_ne {next : Text} (h : next ≠ "\x7b".toList) (l : Text) (ls : List Text) :
    defined (l :: next :: ls) = defined (next :: ls) := by
  rw [defined, beq_eq_false_iff_ne.2 h, Bool.and_false, if_neg Bool.false_ne_true]

theorem defined_cons_of_mem {l : Text} (h : '(' ∈ l) (ls : List Text) :
    defined (l :: "\x7b".toList :: ls) = lastName (stem l) :: defined ("\x7b".toList :: ls) := by
  rw [defined, List.contains_iff_mem.2 h, Bool.true_and, if_pos (beq_self_eq_true _)]

theorem defined_append {ms : List Text} (h : ms.head? ≠ some "\x7b".toList) (ls : List Text) :
    defined (ls ++ ms) = defined ls ++ defined ms := by
  induction ls with
  | nil => rfl
  | cons l ls ih =>
    cases ls with
    | nil =>
      cases ms with
      | nil => rfl
      | cons m ms => exact defined_cons_of_ne (fun hm => h (congrArg some hm)) l ms
    | cons l' ls =>
      rw [List.cons_append] at ih
      rw [List.cons_append, List.cons_append, defined, defined, ih]
      split <;> rfl

theorem defined_of_not_mem (h : "\x7b".toList ∉ ls) (l : Text) : defined (l :: ls) = [] := by
  induction ls generalizing l with
  | nil => rfl
  | cons l' ls ih =>
    obtain ⟨hne, hls⟩ := not_or.1 (mt List.mem_cons.2 h)
    rw [defined_cons_of_ne (Ne.symm hne), ih hls]

/-- A block under a line with a parenthesis is the body of one function. -/
theorem defined_block (hline : '(' ∈ line) {block : List Text}
    (h : ∀ l ∈ block, IsLine l ∧ l.head? = some '\t') :
    defined (line :: "\x7b".toList :: (block ++ ["\x7d".toList, []])) = [lastName (stem line)] := by
  have hrest : "\x7b".toList ∉ block ++ ["\x7d".toList, []] := by
    intro hmem
    rcases List.mem_append.1 hmem with hmem | hmem
    · exact absurd (h _ hmem).2 (by decide)
    · exact absurd hmem (by decide)
  rw [defined_cons_of_mem hline, defined_of_not_mem hrest]

end CallTracer.Text
