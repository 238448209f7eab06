import CallTracer.FileTree
import CallTracer.Proofs.LineText
/-! What a write to a tree of files leaves behind: the bytes stand where the path leads, and
everything else, the ways through the tree included, is as it was. -/
namespace CallTracer

namespace Text

variable {separator : Char}

theorem not_mem_of_mem_split {s part : Text} (h : part ∈ split separator s) :
    separator ∉ part := by
  induction s using induction_parts separator with
  | last s hs =>
    rw [split_of_not_mem hs, List.mem_singleton] at h
    exact h ▸ hs
  | part s t hs ih =>
    rw [split_append t hs] at h
    rcases List.mem_cons.1 h with rfl | h
    · exact hs
    · exact ih h

theorem join_append_cons (sep part : Text) (before rest : List Text) :
    join sep (before ++ part :: rest) = before.flatMap (· ++ sep) ++ join sep (part :: rest) := by
  induction before with
  | nil => rfl
  | cons p before ih =>
    cases before with
    | nil => simp [join]
    | cons q before =>
      rw [List.flatMap_cons, List.append_assoc, ← ih]
      rfl

theorem join_split (separator : Char) (s : Text) : join [separator] (split separator s) = s := by
  induction s using induction_parts separator with
  | last s hs => rw [split_of_not_mem hs, join]
  | part s t hs ih =>
    obtain ⟨part, parts, ht⟩ := List.exists_cons_of_ne_nil (split_ne_nil separator t)
    rw [split_append t hs, ht, join, ← ht, ih, List.append_assoc]
    rfl

theorem join_cons_replicate (part : Text) (k : ℕ) :
    join [separator] (part :: List.replicate k []) = part ++ List.replicate k separator := by
  induction k generalizing part with
  | zero => simp [join]
  | succ k ih =>
    rw [List.replicate_succ, join, ih]
    simp [List.replicate_succ]

end Text

theorem Node.eq_directory {n : Node} (h : n.isDirectory) : n = .directory := by
  cases n <;> first | rfl | cases h

namespace FileTree

/-- The way from a directory along some names: through directories to one of them, to something
else that is there, or to a name that is free. -/
inductive Way (t : FileTree) : Location → List Text → Target → Prop
  | stay {here} : Way t here [] (.existing here .directory)
  | turn {here name names target} (relative : isRelative name)
      (rest : Way t (step here name) names target) : Way t here (name :: names) target
  | enter {here name names target} (proper : isRelative name = false)
      (short : Text.byteLength name ≤ maxNameLength)
      (found : t.find? (here ++ [name]) = some .directory)
      (rest : Way t (here ++ [name]) names target) : Way t here (name :: names) target
  | stop {here name n} (proper : isRelative name = false)
      (short : Text.byteLength name ≤ maxNameLength) (found : t.find? (here ++ [name]) = some n)
      (closed : n.isDirectory = false) : Way t here [name] (.existing (here ++ [name]) n)
  | free {here name k} (proper : isRelative name = false)
      (short : Text.byteLength name ≤ maxNameLength) (missing : t.find? (here ++ [name]) = none) :
      Way t here (name :: List.replicate k []) (.free (here ++ [name]))

/-- What a write may do to a tree: a file with the bytes stands where the path leads, nothing is
written to a device without space, or the bytes are gone in the device that keeps none. -/
inductive Written (t : FileTree) (path : Text) (bytes : ByteArray) : FileTree → Prop
  | file {l} (free : t.find? l ≠ some .directory)
      (leads : (t.put l (.file bytes)).resolve path = .ok (.existing l (.file bytes))) :
      Written t path bytes (t.put l (.file bytes))
  | nothing {l} (empty : bytes.isEmpty) (leads : t.resolve path = .ok (.existing l .fullDevice)) :
      Written t path bytes t
  | discarded {l} (leads : t.resolve path = .ok (.existing l .nullDevice)) :
      Written t path bytes t

variable {t t' : FileTree} {path : Text} {names : List Text} {here l m : Location} {name : Text}
  {n : Node} {target : Target} {bytes : ByteArray}

theorem lookup_filter_ne {nodes : List (Location × Node)} (h : m ≠ l) :
    (nodes.filter (·.1 != l)).lookup m = nodes.lookup m := by
  induction nodes with
  | nil => rfl
  | cons entry nodes ih =>
    obtain ⟨k, node⟩ := entry
    by_cases hk : k = l
    · subst hk
      simpa [List.lookup_cons, beq_eq_false_iff_ne.2 h] using ih
    · simp [List.lookup_cons, hk, ih]

/-- Neither the working directory nor one around it is at a location without directory. -/
theorem not_isPrefix_workingDirectory (hl : t.find? l ≠ some .directory) :
    ¬l <+: t.workingDirectory := by
  intro h
  rw [find?, if_pos (List.isPrefixOf_iff_prefix.2 h)] at hl
  exact hl rfl

theorem find?_put (hl : t.find? l ≠ some .directory) (n : Node) (m : Location) :
    (t.put l n).find? m = if m = l then some n else t.find? m := by
  have hwork := mt List.isPrefixOf_iff_prefix.1 (not_isPrefix_workingDirectory hl)
  unfold find? put
  by_cases hm : m = l
  · subst hm
    simp [hwork]
  · rw [if_neg hm]
    split
    · rfl
    · rw [List.lookup_cons, beq_eq_false_iff_ne.2 hm]
      exact lookup_filter_ne hm

theorem way_of_follow (h : t.follow here .directory names = .ok target) :
    t.Way here names target := by
  induction names generalizing here with
  | nil =>
    rw [follow, Except.ok.injEq] at h
    exact h ▸ .stay
  | cons name names ih =>
    rw [follow, if_neg (by decide)] at h
    split at h
    · rename_i hrelative
      exact .turn hrelative (ih h)
    · rename_i hproper
      rw [Bool.not_eq_true] at hproper
      split at h
      · cases h
      · rename_i hshort
        rw [Nat.not_lt] at hshort
        split at h
        · rename_i n hfound
          by_cases hn : n.isDirectory
          · rw [Node.eq_directory hn] at hfound h
            exact .enter hproper hshort hfound (ih h)
          · cases names with
            | nil =>
              rw [follow, Except.ok.injEq] at h
              exact h ▸ .stop hproper hshort hfound (Bool.eq_false_iff.2 hn)
            | cons next names =>
              rw [follow, if_pos (by simp [hn])] at h
              cases h
        · rename_i hmissing
          split at h
          · rename_i hslashes
            rw [Except.ok.injEq] at h
            have hnames : names = List.replicate names.length [] :=
              List.eq_replicate_of_mem fun part hp => by
                simpa using List.all_eq_true.1 hslashes part hp
            rw [hnames]
            exact h ▸ .free hproper hshort hmissing
          · cases h

theorem Way.follow (h : t.Way here names target) :
    t.follow here .directory names = .ok target := by
  induction h with
  | stay => rfl
  | turn relative rest ih =>
    rw [FileTree.follow, if_neg (by decide), if_pos relative, ih]
  | enter proper short found rest ih =>
    rw [FileTree.follow, if_neg (by decide), if_neg (by simp [proper]),
      if_neg (Nat.not_lt.2 short), found]
    exact ih
  | stop proper short found closed =>
    rw [FileTree.follow, if_neg (by decide), if_neg (by simp [proper]),
      if_neg (Nat.not_lt.2 short), found]
    rfl
  | free proper short missing =>
    rw [FileTree.follow, if_neg (by decide), if_neg (by simp [proper]),
      if_neg (Nat.not_lt.2 short), missing]
    simp

theorem walk_eq_ok_iff : t.walk path = .ok target ↔
    path ≠ [] ∧ t.Way (t.start path) (Text.split '/' path) target := by
  unfold walk
  cases path with
  | nil => simp
  | cons c path => exact ⟨fun h => ⟨by simp, way_of_follow h⟩, fun h => h.2.follow⟩

theorem resolve_eq_ok_iff : t.resolve path = .ok target ↔
    check path = .ok () ∧ path ≠ [] ∧ t.Way (t.start path) (Text.split '/' path) target := by
  unfold resolve
  cases check path with
  | error f => simp [bind, Except.bind]
  | ok u => simpa [bind, Except.bind] using walk_eq_ok_iff

/-- The path from the root to where a path from the working directory leads. -/
def absolute (t : FileTree) (path : Text) : Text :=
  '/' :: (t.workingDirectory.flatMap (· ++ ['/']) ++ path)

/-- Names that can be followed to a directory. -/
def Proper (l : Location) : Prop :=
  ∀ name ∈ l, '/' ∉ name ∧ isRelative name = false ∧ Text.byteLength name ≤ maxNameLength

/-- The names of the working directory lead to it. -/
theorem follow_workingDirectory {before after : Location} (hproper : Proper after)
    (h : before ++ after = t.workingDirectory) (names : List Text) :
    t.follow before .directory (after ++ names) =
      t.follow t.workingDirectory .directory names := by
  induction after generalizing before with
  | nil => rw [← h, List.append_nil, List.nil_append]
  | cons name after ih =>
    obtain ⟨⟨-, hname, hshort⟩, hafter⟩ := List.forall_mem_cons.1 hproper
    rw [List.append_cons] at h
    have hfound : t.find? (before ++ [name]) = some .directory := by
      rw [find?, if_pos (List.isPrefixOf_iff_prefix.2 ⟨after, h⟩)]
    rw [List.cons_append, follow, if_neg (by decide), if_neg (by simp [hname]),
      if_neg (Nat.not_lt.2 hshort), hfound]
    exact ih hafter h

/-- A path from the working directory and the one from the root reach the same location. -/
theorem walk_absolute (hproper : Proper t.workingDirectory) (hne : path ≠ [])
    (hrelative : path.head? ≠ some '/') : t.walk (t.absolute path) = t.walk path := by
  have hsplit : ∀ l : Location, Proper l →
      Text.split '/' (l.flatMap (· ++ ['/']) ++ path) = l ++ Text.split '/' path := by
    intro l hl
    induction l with
    | nil => rfl
    | cons name l ih =>
      obtain ⟨⟨hslash, -⟩, hl⟩ := List.forall_mem_cons.1 hl
      rw [List.flatMap_cons, List.append_assoc, List.append_assoc, List.singleton_append,
        Text.split_append _ hslash, ih hl]
      rfl
  have hroot : t.start (t.absolute path) = [] := rfl
  have hwork : t.start path = t.workingDirectory := if_neg hrelative
  rw [walk, walk, if_neg (by simp [absolute]), if_neg (by simpa using hne), hroot, hwork, absolute,
    Text.split, if_pos rfl, hsplit _ hproper]
  exact follow_workingDirectory hproper (List.nil_append _) _

theorem isPrefix_start (t : FileTree) (path : Text) : t.start path <+: t.workingDirectory := by
  unfold start
  split
  · exact List.nil_prefix
  · exact List.prefix_rfl

theorem not_isPrefix_start (hl : t.find? l ≠ some .directory) (path : Text) :
    ¬l <+: t.start path :=
  fun h => not_isPrefix_workingDirectory hl (h.trans (t.isPrefix_start path))

theorem ne_of_not_isPrefix (h : ¬l <+: here) : here ≠ l := by
  rintro rfl
  exact h (List.prefix_refl here)

theorem not_isPrefix_step (h : ¬l <+: here) (name : Text) : ¬l <+: step here name := by
  unfold step
  split
  · exact fun hbelow => h (hbelow.trans (List.dropLast_prefix here))
  · exact h

theorem not_isPrefix_enter (h : ¬l <+: here) (hl : t.find? l ≠ some .directory)
    (found : t.find? (here ++ [name]) = some .directory) : ¬l <+: here ++ [name] := by
  rw [List.prefix_concat_iff, not_or]
  refine ⟨?_, h⟩
  rintro rfl
  exact hl found

/-- A file put where no directory is shows at the ends of ways and nowhere else. -/
theorem Way.put (hl : t.find? l ≠ some .directory) (bytes : ByteArray) (here_free : ¬l <+: here)
    (h : t.Way here names (.existing m n)) :
    (t.put l (.file bytes)).Way here names
      (.existing m (if m = l then .file bytes else n)) := by
  generalize htarget : Target.existing m n = target at h
  -- `here` stays outside `l` all along the way, since it would have to go through `l` as a
  -- directory.
  induction h with
  | stay =>
    cases htarget
    rw [if_neg (ne_of_not_isPrefix here_free)]
    exact .stay
  | turn relative rest ih =>
    exact .turn relative (ih (not_isPrefix_step here_free _) htarget)
  | enter proper short found rest ih =>
    have hfree := not_isPrefix_enter here_free hl found
    refine .enter proper short ?_ (ih hfree htarget)
    rw [find?_put hl, if_neg (ne_of_not_isPrefix hfree), found]
  | stop proper short found closed =>
    cases htarget
    refine .stop proper short ?_ ?_
    · rw [find?_put hl, found]
      split <;> rfl
    · split
      · rfl
      · exact closed
  | free => cases htarget

/-- A file put under a free name is at the end of the way that led to the name. -/
theorem Way.put_free (hl : t.find? l ≠ some .directory) (bytes : ByteArray)
    (here_free : ¬l <+: here) (last : names.getLast? ≠ some []) (h : t.Way here names (.free l)) :
    (t.put l (.file bytes)).Way here names (.existing l (.file bytes)) := by
  generalize htarget : Target.free l = target at h
  induction h with
  | stay => cases htarget
  | turn relative rest ih =>
    refine .turn relative (ih (not_isPrefix_step here_free _) ?_ htarget)
    exact fun h => last (by simp [List.getLast?_cons, h])
  | enter proper short found rest ih =>
    have hfree := not_isPrefix_enter here_free hl found
    refine .enter proper short ?_ (ih hfree ?_ htarget)
    · rw [find?_put hl, if_neg (ne_of_not_isPrefix hfree), found]
    · exact fun h => last (by simp [List.getLast?_cons, h])
  | stop => cases htarget
  | @free here name k proper short missing =>
    cases htarget
    obtain rfl : k = 0 := by
      by_contra hk
      apply last
      simp [List.getLast?_cons, List.getLast?_replicate, hk]
    refine .stop proper short ?_ rfl
    rw [find?_put hl, if_pos rfl]

/-- What is not a directory is at the location that the way leads to. -/
theorem Way.find?_eq (h : t.Way here names (.existing l n)) (closed : n.isDirectory = false) :
    t.find? l = some n := by
  generalize htarget : Target.existing l n = target at h
  induction h with
  | stay =>
    cases htarget
    cases closed
  | turn relative rest ih | enter proper short found rest ih => exact ih htarget
  | stop proper short found closed =>
    cases htarget
    exact found
  | free => cases htarget

/-- A free name is the last one but for empty ones. -/
theorem Way.exists_free_name (h : t.Way here names (.free l)) :
    t.find? l = none ∧ ∃ around before name k, names = before ++ name :: List.replicate k [] ∧
      isRelative name = false ∧ l = around ++ [name] := by
  generalize htarget : Target.free l = target at h
  induction h with
  | stay | stop => cases htarget
  | @turn _ step _ _ relative rest ih | @enter _ step _ _ proper short found rest ih =>
    obtain ⟨hfound, around, before, name, k, hnames, hproper, hl⟩ := ih htarget
    exact ⟨hfound, around, step :: before, name, k, by rw [hnames]; rfl, hproper, hl⟩
  | @free here name k proper short missing =>
    cases htarget
    exact ⟨missing, here, [], name, k, rfl, proper, rfl⟩

/-- A path with a slash behind the name of something is one of a directory. -/
theorem slashedIn?_isSome {before : List Text} {k : ℕ}
    (h : Text.split '/' path = before ++ name :: List.replicate (k + 1) [])
    (hname : '/' ∉ name) (hproper : isRelative name = false) : (slashedIn? path).isSome := by
  generalize hrest : (before.flatMap (· ++ ['/'])).reverse = rest
  have hreverse : path.reverse = '/' :: (List.replicate k '/' ++ (name.reverse ++ rest)) := by
    rw [← Text.join_split '/' path, h, Text.join_append_cons,
      Text.join_cons_replicate, ← hrest, List.reverse_append, List.reverse_append,
      List.reverse_replicate, List.replicate_succ, List.append_assoc, List.cons_append]
  have hslash : ∀ c ∈ name.reverse, (c != '/') = true := fun c hc => by
    rw [bne_iff_ne]
    rintro rfl
    exact hname (List.mem_reverse.1 hc)
  have htake : (name.reverse ++ rest).takeWhile (· != '/') = name.reverse := by
    have hempty : rest.takeWhile (· != '/') = [] := by
      rw [← hrest]
      rcases List.eq_nil_or_concat before with rfl | ⟨init, last, rfl⟩ <;> simp
    rw [List.takeWhile_append_of_pos hslash, hempty, List.append_nil]
  have hdrop : (List.replicate k '/' ++ (name.reverse ++ rest)).dropWhile (· = '/') =
      name.reverse ++ rest := by
    obtain ⟨c, cs, hc⟩ := List.exists_cons_of_ne_nil (l := name.reverse) (by
      rw [Ne, List.reverse_eq_nil_iff]
      rintro rfl
      cases hproper)
    have hne : c ≠ '/' := by simpa using hslash c (by simp [hc])
    rw [List.dropWhile_append_of_pos (by simp), hc, List.cons_append,
      List.dropWhile_cons_of_neg (by simpa using hne)]
  simp [slashedIn?, hreverse, hdrop, htake, hproper]

theorem destination_eq_ok_iff : t.destination path = .ok target ↔
    slashedIn? path = none ∧ t.resolve path = .ok target := by
  unfold destination resolve
  cases check path with
  | error f => simp [bind, Except.bind]
  | ok u =>
    cases hs : slashedIn? path with
    | none => simp [bind, Except.bind]
    | some around =>
      cases hw : t.walk around with
      | error f => simp [bind, Except.bind, hw]
      | ok m => cases m <;> simp [bind, Except.bind, hw]

/-- A file put where no directory is changes no path but in what it leads to. -/
theorem resolve_put (hl : t.find? l ≠ some .directory) (bytes : ByteArray)
    (h : t.resolve path = .ok (.existing m n)) :
    (t.put l (.file bytes)).resolve path =
      .ok (.existing m (if m = l then .file bytes else n)) := by
  obtain ⟨hcheck, hne, hway⟩ := resolve_eq_ok_iff.1 h
  exact resolve_eq_ok_iff.2 ⟨hcheck, hne, hway.put hl bytes (not_isPrefix_start hl path)⟩

theorem written_of_free (hslash : slashedIn? path = none)
    (h : t.resolve path = .ok (.free l)) : t.Written path bytes (t.put l (.file bytes)) := by
  obtain ⟨hcheck, hne, hway⟩ := resolve_eq_ok_iff.1 h
  obtain ⟨hmissing, around, before, name, k, hparts, hproper, rfl⟩ := hway.exists_free_name
  have hname : '/' ∉ name :=
    Text.not_mem_of_mem_split (s := path) (by rw [hparts]; simp)
  have hl : t.find? (around ++ [name]) ≠ some .directory := by simp [hmissing]
  -- With slashes behind the free name the path would have been refused.
  obtain rfl : k = 0 := by
    by_contra hk
    obtain ⟨j, rfl⟩ := Nat.exists_eq_succ_of_ne_zero hk
    simpa [hslash] using slashedIn?_isSome hparts hname hproper
  have hlast : (Text.split '/' path).getLast? ≠ some [] := by
    rw [hparts, List.replicate_zero, List.getLast?_concat, Ne, Option.some.injEq]
    rintro rfl
    cases hproper
  exact .file hl (resolve_eq_ok_iff.2
    ⟨hcheck, hne, hway.put_free hl bytes (not_isPrefix_start hl path) hlast⟩)

theorem written_of_writeBytes (h : t.writeBytes path bytes = .ok t') :
    t.Written path bytes t' := by
  unfold writeBytes at h
  split at h
  · cases h
  · rename_i l hfree
    obtain ⟨hslash, hresolve⟩ := destination_eq_ok_iff.1 hfree
    rw [Except.ok.injEq] at h
    exact h ▸ written_of_free hslash hresolve
  · cases h
  · rename_i l hdevice
    split at h
    · rename_i hempty
      rw [Except.ok.injEq] at h
      exact h ▸ .nothing hempty (destination_eq_ok_iff.1 hdevice).2
    · cases h
  · rename_i l hdevice
    rw [Except.ok.injEq] at h
    exact h ▸ .discarded (destination_eq_ok_iff.1 hdevice).2
  · rename_i l old hfile
    obtain ⟨-, hresolve⟩ := destination_eq_ok_iff.1 hfile
    obtain ⟨-, -, hway⟩ := resolve_eq_ok_iff.1 hresolve
    have hl : t.find? l ≠ some .directory := by simp [hway.find?_eq rfl]
    rw [Except.ok.injEq] at h
    refine h ▸ .file hl ?_
    rw [resolve_put hl bytes hresolve, if_pos rfl]

/-- Whether a path leads to a location, where a file or a device is. -/
def Leads (t : FileTree) (path : Text) (l : Location) : Prop :=
  ∃ n, t.resolve path = .ok (.existing l n) ∧ n.isDirectory = false

/-- Whether two paths lead to one location. -/
def SameFile (t : FileTree) (p q : Text) : Prop := ∃ l, t.Leads p l ∧ t.Leads q l

/-- Whether a path leads to the device that keeps nothing. -/
def Discards (t : FileTree) (path : Text) : Prop :=
  ∃ l, t.resolve path = .ok (.existing l .nullDevice)

/-- What becomes of a text that is put where a path leads: it can be read there, or it is empty and
the path leads to a device without space, which takes nothing else, or it is gone, since the path
leads to the device that keeps none. -/
inductive Received (t : FileTree) (path text : Text) : Prop
  | kept (reads : t.read path = .ok text)
  | nothing {l : Location} (empty : text = [])
      (leads : t.resolve path = .ok (.existing l .fullDevice))
  | discarded (discards : t.Discards path)

theorem SameFile.resolve_eq {p q : Text} (h : t.SameFile p q) : t.resolve p = t.resolve q := by
  obtain ⟨l, ⟨n, hn, hclosed⟩, ⟨k, hk, hclosed'⟩⟩ := h
  obtain ⟨-, -, hway⟩ := resolve_eq_ok_iff.1 hn
  obtain ⟨-, -, hway'⟩ := resolve_eq_ok_iff.1 hk
  have hnode : some n = some k := (hway.find?_eq hclosed).symm.trans (hway'.find?_eq hclosed')
  rw [hn, hk, Option.some.inj hnode]

/-- What is reached from the working directory is the same file under its name from the root. -/
theorem sameFile_absolute (hproper : Proper t.workingDirectory) (hrelative : path.head? ≠ some '/')
    (hcheck : check (t.absolute path) = .ok ()) (h : t.Leads path l) :
    t.SameFile (t.absolute path) path := by
  obtain ⟨n, hn, hclosed⟩ := h
  obtain ⟨-, hne, hway⟩ := resolve_eq_ok_iff.1 hn
  have hwalk := walk_eq_ok_iff.2 ⟨hne, hway⟩
  rw [← walk_absolute hproper hne hrelative, walk_eq_ok_iff] at hwalk
  exact ⟨l, ⟨n, resolve_eq_ok_iff.2 ⟨hcheck, hwalk⟩, hclosed⟩, ⟨n, hn, hclosed⟩⟩

theorem read_congr {p : Text} (h : t'.resolve p = t.resolve path) : t'.read p = t.read path := by
  rw [read, read, h]

theorem fromUTF8?_toUTF8 (s : String) : String.fromUTF8? s.toUTF8 = some s := by
  unfold String.fromUTF8?
  rw [dif_pos]
  rfl

theorem read_of_resolve {text : Text}
    (h : t.resolve path = .ok (.existing l (.file (String.ofList text).toUTF8))) :
    t.read path = .ok text := by
  simp only [read, h, fromUTF8?_toUTF8, String.toList_ofList]

section

variable {text other : Text}

theorem written_of_write (h : t.write path text = .ok t') :
    t.Written path (String.ofList text).toUTF8 t' := written_of_writeBytes h

theorem workingDirectory_of_write (h : t.write path text = .ok t') :
    t'.workingDirectory = t.workingDirectory := by
  cases written_of_write h with
  | file free leads | nothing empty leads | discarded leads => rfl

theorem received_of_write (h : t.write path text = .ok t') : t'.Received path text := by
  cases written_of_write h with
  | file free leads => exact .kept (read_of_resolve leads)
  | nothing empty leads => exact .nothing (by simpa [ByteArray.isEmpty] using empty) leads
  | discarded leads => exact .discarded ⟨_, leads⟩

/-- A text that is written is read back, unless it is empty or put where nothing is kept. -/
theorem read_of_write (h : t.write path text = .ok t') (hne : text ≠ [])
    (hkeeps : ¬t.Discards path) : t'.read path = .ok text := by
  cases written_of_write h with
  | file free leads => exact read_of_resolve leads
  | nothing empty leads => exact absurd (by simpa [ByteArray.isEmpty] using empty) hne
  | discarded leads => exact absurd ⟨_, leads⟩ hkeeps

theorem leads_of_write (h : t.write path text = .ok t') : ∃ l, t'.Leads path l := by
  cases written_of_write h with
  | file free leads | nothing empty leads | discarded leads => exact ⟨_, _, leads, rfl⟩

/-- A write changes no path but in what it leads to. -/
theorem Leads.write {p : Text} (hp : t.Leads p l) (h : t.write path text = .ok t') :
    t'.Leads p l := by
  obtain ⟨n, hn, hclosed⟩ := hp
  cases written_of_write h with
  | file free leads =>
    refine ⟨_, resolve_put free _ hn, ?_⟩
    split
    · rfl
    · exact hclosed
  | nothing empty leads | discarded leads => exact ⟨n, hn, hclosed⟩

/-- A write changes only what its path leads to. -/
theorem leads_of_find?_ne (h : t.write path text = .ok t') (hl : t'.find? l ≠ t.find? l) :
    t'.Leads path l := by
  cases written_of_write h with
  | @file m free leads =>
    rw [find?_put free] at hl
    obtain rfl : l = m := by
      by_contra hm
      exact hl (if_neg hm)
    exact ⟨_, leads, rfl⟩
  | nothing empty leads | discarded leads => exact absurd rfl hl

theorem Received.congr {p : Text} (h : t'.resolve p = t.resolve path)
    (hreceived : t.Received path text) : t'.Received p text := by
  cases hreceived with
  | kept reads => exact .kept ((read_congr h).trans reads)
  | nothing empty leads => exact .nothing empty (h.trans leads)
  | discarded discards => exact .discarded (discards.imp fun l hl => h.trans hl)

theorem SameFile.received {p q : Text} (h : t.SameFile p q) (hq : t.Received q text) :
    t.Received p text :=
  hq.congr h.resolve_eq

/-- What is received elsewhere stays there. -/
theorem Received.write {p : Text} (hreceived : t.Received p other) (hp : t.Leads p l)
    (h : t.write path text = .ok t') (hl : ¬t'.Leads path l) : t'.Received p other := by
  obtain ⟨n, hn, -⟩ := hp
  refine hreceived.congr ?_
  cases written_of_write h with
  | @file m free leads =>
    have hm : l ≠ m := by
      rintro rfl
      exact hl ⟨_, leads, rfl⟩
    rw [resolve_put free _ hn, if_neg hm, hn]
  | nothing empty leads | discarded leads => rfl

end

end FileTree
end CallTracer
