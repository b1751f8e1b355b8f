import Thaum.Library.KeyedRows
import Thaum.Library.PyText

/-!
# Configuration files as `configparser` reads them

A file is read line by line. A header starts a section, a line with a delimiter sets an
option of it, and a line that is indented deeper than its option continues the value.
Blank lines belong to the value as well, comment lines to nothing. Names of options are
read in lower case. A section or an option given twice, a line before the first header and
a line that is none of these raise.

The options of a section are those of `DEFAULT` and its own, with references to other
options filled in. Names of options are lowered letter by letter, which is what `str.lower`
does for names in ASCII.
-/

namespace PyIni

open PyText KeyedRows

/-- An option, with the lines of its value. -/
abbrev OptionLines := Text × List Text

/-- The sections read so far, the one that is being read, whether its last option can be
continued, and the indentation of the last header or option. -/
structure Reading where
  sections : List (Text × List OptionLines)
  current : Option (Text × List OptionLines)
  continues : Bool
  indent : Nat

namespace Reading

/-- Nothing has been read. -/
def start : Reading := { sections := [], current := none, continues := false, indent := 0 }

/-- All sections, the one that is being read last. -/
def all (reading : Reading) : List (Text × List OptionLines) :=
  reading.sections ++ reading.current.toList

end Reading

/-- The last option gets one more line. -/
def addLine (line : Text) : List OptionLines → List OptionLines
  | [] => []
  | [(name, lines)] => [(name, lines ++ [line])]
  | option :: rest => option :: addLine line rest

/-- A line that goes on with a value, where there is one. -/
def Reading.continue (reading : Reading) (line : Text) : Reading :=
  if reading.continues then
    { reading with current := reading.current.map fun part => (part.1, addLine line part.2) }
  else reading

/-- `SECTCRE`: the header between the first bracket and the last. -/
def sectionHeader (value : Text) : Option Text :=
  match value with
  | '[' :: rest =>
    let header := (rest.rdropWhile (· != ']')).dropLast
    if header = [] then none else some header
  | _ => none

/-- What stands between an option and its value. -/
def isDelimiter (c : Char) : Bool := c == '=' || c == ':'

/-- `OPTCRE`: the option and the value around the first delimiter. -/
def optionLine (value : Text) : Option (Text × Text) :=
  match value.dropWhile fun c => !isDelimiter c with
  | [] => none
  | _ :: rest =>
    let name := rstrip (value.takeWhile fun c => !isDelimiter c)
    if name = [] then none else some (lower name, strip rest)

/-- Start a section; only `DEFAULT` can be started again. -/
def Reading.enter (reading : Reading) (indent : Nat) (name : Text) : Option Reading :=
  match get Prod.fst name reading.all with
  | none =>
    some { sections := reading.all, current := some (name, []), continues := false, indent }
  | some again =>
    if name = "DEFAULT".toList then
      some
        { sections := reading.all.filter fun part => part.1 != name
          current := some again, continues := false, indent }
    else none

/-- Set an option of the section that is being read. -/
def Reading.set (reading : Reading) (indent : Nat) (name value : Text) : Option Reading :=
  match reading.current with
  | none => none
  | some (header, options) =>
    match get Prod.fst name options with
    | some _ => none
    | none =>
      some
        { reading with
          current := some (header, options ++ [(name, [value])]), continues := true, indent }

/-- One line of the file; `none` where the file does not parse. -/
def readLine (reading : Reading) (line : Text) : Option Reading :=
  let value := strip line
  let indent := (line.takeWhile isSpace).length
  if value = [] then some (reading.continue [])
  else if value.head? = some '#' ∨ value.head? = some ';' then some reading
  else if reading.continues ∧ reading.indent < indent then some (reading.continue value)
  else
    match sectionHeader value with
    | some name => reading.enter indent name
    | none => (optionLine value).bind fun option => reading.set indent option.1 option.2

/-- The sections of a file whose line ends have been made `\n`, with the lines of every value
joined. -/
def read (text : Text) : Option (List (Text × List (Text × Text))) :=
  ((text.splitOn '\n').foldlM readLine Reading.start).map fun reading =>
    reading.all.map fun part =>
      (part.1, part.2.map fun option => (option.1, rstrip (['\n'].intercalate option.2)))

/-- Fill in references, with at most `fuel` characters and references to go; `none` where
that raises. -/
def fillIn (value : Text → Option Text) : (fuel : Nat) → Text → Option Text
  | _, [] => some []
  | 0, _ => none
  | fuel + 1, '%' :: '%' :: rest => (fillIn value fuel rest).map fun filled => '%' :: filled
  | fuel + 1, '%' :: '(' :: rest =>
    let name := rest.takeWhile (· != ')')
    match rest.dropWhile (· != ')') with
    | ')' :: 's' :: after =>
      if name = [] then none
      else (value (lower name)).bind fun text => (fillIn value fuel after).map (text ++ ·)
    | _ => none
  | _, '%' :: _ => none
  | fuel + 1, c :: rest => (fillIn value fuel rest).map fun filled => c :: filled

/-- `BasicInterpolation`, down to a depth of references in references. -/
def interpolate (options : List (Text × Text)) : (depth : Nat) → Text → Option Text
  | 0, text => if '%' ∈ text then none else some text
  | depth + 1, text =>
    fillIn (fun name => (options.lookup name).bind (interpolate options depth)) text.length text

/-- `items` of a section that the file has. -/
def items (sections : List (Text × List (Text × Text))) (name : Text) :
    Option (List (Text × Text)) :=
  let defaults := (sections.lookup "DEFAULT".toList).getD []
  let options :=
    ((sections.lookup name).getD []).foldl (fun out option => put Prod.fst option out) defaults
  options.mapM fun option => (interpolate options 10 option.2).map fun value => (option.1, value)

/-- `has_section`. -/
def hasSection (sections : List (Text × List (Text × Text))) (name : Text) : Bool :=
  name != "DEFAULT".toList && (sections.lookup name).isSome

/-- A file of one section, one option a line. -/
def written (name : Text) (options : List (Text × Text)) : Text :=
  '[' :: (name ++ ']' :: '\n' ::
    options.flatMap fun option => option.1 ++ '=' :: (option.2 ++ ['\n']))

/-- An option that is written on a line as it is read: the name and the value are trimmed,
the name is no comment or header, and nothing refers to other options. -/
structure Plain (option : Text × Text) : Prop where
  named : option.1 ≠ []
  trimmed : Trimmed option.1
  name : ∀ c ∈ option.1, isDelimiter c = false ∧ c ≠ '\n'
  first : ∀ c ∈ option.1.head?, c ≠ '#' ∧ c ≠ ';' ∧ c ≠ '['
  value : Trimmed option.2
  oneLine : '\n' ∉ option.2
  literal : '%' ∉ option.2

variable {name text line : Text} {option : Text × Text} {options : List (Text × Text)}
  {reading : Reading}

/-- The option of a plain line is read back: its name has no delimiter, so the first one is that of
the line. -/
theorem optionLine_plain (plain : Plain option) :
    optionLine (option.1 ++ '=' :: option.2) = some (lower option.1, option.2) := by
  have others : ∀ c ∈ option.1, (!isDelimiter c) = true := fun c listed => by
    simp [(plain.name c listed).1]
  have delimits : isDelimiter '=' = true := by decide
  have front : (option.1 ++ '=' :: option.2).takeWhile (fun c => !isDelimiter c) = option.1 := by
    simp [List.takeWhile_append_of_pos others, delimits]
  have back : (option.1 ++ '=' :: option.2).dropWhile (fun c => !isDelimiter c) =
      '=' :: option.2 := by
    simp [List.dropWhile_append_of_pos others, delimits]
  have trimmed : rstrip option.1 = option.1 := by
    have whole : rstrip (lstrip option.1) = option.1 := plain.trimmed
    rwa [plain.trimmed.lstrip_eq] at whole
  have value : strip option.2 = option.2 := plain.value
  simp [optionLine, front, back, trimmed, plain.named, value]

/-- The name of a plain option does not start with a blank. -/
theorem head_solid (plain : Plain option) : ∀ c ∈ option.1.head?, isSpace c = false := by
  have ends := (strip_ends option.1).1
  rwa [show strip option.1 = option.1 from plain.trimmed] at ends

/-- A plain line is trimmed, and it is neither a comment nor a header, so that it sets an option. -/
theorem line_solid (plain : Plain option) :
    Trimmed (option.1 ++ '=' :: option.2) ∧ ∃ c rest, option.1 ++ '=' :: option.2 = c :: rest ∧
      isSpace c = false ∧ c ≠ '#' ∧ c ≠ ';' ∧ c ≠ '[' := by
  obtain ⟨c, rest, isName⟩ := List.exists_cons_of_ne_nil plain.named
  have solid := head_solid plain c (by simp [isName])
  refine ⟨trimmed_of_ends _ ?_ ?_, c, rest ++ '=' :: option.2, by simp [isName], solid,
    plain.first c (by simp [isName])⟩
  · intro d isHead
    have same : c = d := by simpa [isName] using isHead
    exact same ▸ solid
  · intro d isLast
    cases value : option.2 with
    | nil =>
      have same : '=' = d := by simpa [value] using isLast
      exact same ▸ (by decide)
    | cons e others =>
      have ends := (strip_ends option.2).2
      rw [show strip option.2 = option.2 from plain.value] at ends
      apply ends
      rw [value] at isLast ⊢
      simpa [List.getLast?_append, List.getLast?_cons_cons] using isLast

/-- A plain line sets its option, without indentation. -/
theorem readLine_option (plain : Plain option) (reading : Reading) :
    readLine reading (option.1 ++ '=' :: option.2) =
      reading.set 0 (lower option.1) option.2 := by
  obtain ⟨trimmed, c, rest, starts, solid, notHash, notSemicolon, notBracket⟩ := line_solid plain
  have value : strip (option.1 ++ '=' :: option.2) = option.1 ++ '=' :: option.2 := trimmed
  have unindented : ((option.1 ++ '=' :: option.2).takeWhile isSpace).length = 0 := by
    simp [starts, solid]
  have noHeader : sectionHeader (option.1 ++ '=' :: option.2) = none := by
    rw [starts, sectionHeader]
    simp [notBracket]
  simp only [readLine, value, unindented, Nat.not_lt_zero, and_false, if_false, noHeader,
    optionLine_plain plain, Option.bind_some]
  rw [starts]
  simp [notHash, notSemicolon]

/-- A header opens its section in an empty file. -/
theorem readLine_header (named : name ≠ []) :
    readLine Reading.start ('[' :: (name ++ [']'])) =
      some { sections := [], current := some (name, []), continues := false, indent := 0 } := by
  have value : strip ('[' :: (name ++ [']'])) = '[' :: (name ++ [']']) := by
    apply trimmed_of_ends
    · intro c isHead
      have same : '[' = c := by simpa using isHead
      exact same ▸ (by decide)
    · intro c isLast
      rw [← List.cons_append, List.getLast?_concat] at isLast
      exact Option.some.inj isLast ▸ (by decide)
  have header : sectionHeader ('[' :: (name ++ [']'])) = some name := by
    have kept : (name ++ [']']).rdropWhile (· != ']') = name ++ [']'] :=
      List.rdropWhile_concat_neg _ _ _ (by simp)
    simp [sectionHeader, kept, named]
  have unindented : ('[' :: (name ++ [']'])).takeWhile isSpace = [] := by
    simp [show isSpace '[' = false by decide]
  simp [readLine, value, header, unindented, Reading.start, Reading.enter, Reading.all,
    KeyedRows.get]

/-- An option as it is stored after its line. -/
def stored (option : Text × Text) : OptionLines := (lower option.1, [option.2])

/-- The lines of plain options, and the blank one after the last line end. The induction is on the
options, with those that are read already in front; the names are distinct, so none is refused. -/
theorem readLines_options (name : Text) (plain : ∀ option ∈ options, Plain option)
    (done : List OptionLines)
    (distinct : ((done ++ options.map stored).map Prod.fst).Nodup) (continues : Bool)
    (filled : continues = !done.isEmpty) :
    (((options.flatMap fun option => option.1 ++ '=' :: (option.2 ++ ['\n'])).splitOn '\n').foldlM
        readLine { sections := [], current := some (name, done), continues, indent := 0 }).map
        Reading.all =
      some [(name, addLine [] (done ++ options.map stored))] := by
  induction options generalizing done continues with
  | nil =>
    subst filled
    cases done with
    | nil => rfl
    | cons first others =>
      simp [readLine, Reading.continue, Reading.all]
  | cons option rest inductionHypothesis =>
    obtain ⟨first, others⟩ := List.forall_mem_cons.mp plain
    have parts : ((option :: rest).flatMap fun option =>
        option.1 ++ '=' :: (option.2 ++ ['\n'])) = (option.1 ++ '=' :: option.2) ++
        '\n' :: rest.flatMap fun option => option.1 ++ '=' :: (option.2 ++ ['\n']) := by simp
    have noEnd : '\n' ∉ option.1 ++ '=' :: option.2 := by
      simp only [List.mem_append, List.mem_cons, not_or]
      exact ⟨fun listed => (first.name _ listed).2 rfl, by decide, first.oneLine⟩
    have fresh : get Prod.fst (lower option.1) done = none := by
      rw [get_none_iff]
      intro other listed same
      have apart := List.disjoint_of_nodup_append (List.map_append ▸ distinct)
      exact apart (List.mem_map_of_mem listed) (by simp [stored, same])
    rw [parts, List.splitOn_append_cons_self_of_not_mem noEnd, List.foldlM_cons,
      readLine_option first]
    have again := inductionHypothesis others (done ++ [stored option])
      (by simpa [List.append_assoc] using distinct) true (by simp)
    simpa [Reading.set, fresh, stored] using again

/-- A blank line at the end adds a line end. -/
theorem intercalate_blank (first : Text) (others : List Text) :
    ['\n'].intercalate (first :: others ++ [[]]) =
      ['\n'].intercalate (first :: others) ++ ['\n'] := by
  induction others generalizing first with
  | nil => simp [List.intercalate_cons_cons]
  | cons second rest inductionHypothesis =>
    have further := inductionHypothesis second
    rw [List.cons_append] at further
    rw [List.cons_append, List.cons_append, List.intercalate_cons_cons, further,
      List.intercalate_cons_cons, List.append_assoc, List.append_assoc, List.append_assoc]

/-- One more blank line changes no value, as blanks at the end of values are taken off. -/
theorem joined_addLine (lines : List OptionLines) :
    (addLine [] lines).map (fun option => (option.1, rstrip (['\n'].intercalate option.2))) =
      lines.map fun option => (option.1, rstrip (['\n'].intercalate option.2)) := by
  induction lines using addLine.induct with
  | case1 => rfl
  | case2 name lines =>
    have blank : rstrip (['\n'].intercalate (lines ++ [[]])) =
        rstrip (['\n'].intercalate lines) := by
      cases lines with
      | nil => rfl
      | cons first others =>
        rw [intercalate_blank]
        exact rstrip_append_blank _ (by decide)
    simp [addLine, blank]
  | case3 option rest notLast inductionHypothesis =>
    rw [addLine, List.map_cons, List.map_cons, inductionHypothesis]
    exact notLast

/-- A file of plain options is read back, with the names in lower case. The header opens the
section, and the lines behind it set one option each. -/
theorem read_written (named : name ≠ []) (single : '\n' ∉ name)
    (plain : ∀ option ∈ options, Plain option)
    (distinct : (options.map fun option => lower option.1).Nodup) :
    read (written name options) =
      some [(name, options.map fun option => (lower option.1, option.2))] := by
  have noEnd : '\n' ∉ '[' :: (name ++ [']']) := by simp [single]
  have parts : written name options = ('[' :: (name ++ [']'])) ++
      '\n' :: options.flatMap fun option => option.1 ++ '=' :: (option.2 ++ ['\n']) := by
    simp [written]
  have unset : (([] ++ options.map stored).map Prod.fst).Nodup := by
    simpa [stored, Function.comp_def] using distinct
  have lines := readLines_options name plain [] unset false rfl
  have values : (options.map stored).map
      (fun option => (option.1, rstrip (['\n'].intercalate option.2))) =
      options.map fun option => (lower option.1, option.2) := by
    rw [List.map_map]
    refine List.map_congr_left fun option listed => ?_
    have trimmed : rstrip (lstrip option.2) = option.2 := (plain option listed).value
    rw [(plain option listed).value.lstrip_eq] at trimmed
    simp [stored, trimmed]
  obtain ⟨reading, isRead, isAll⟩ := Option.map_eq_some_iff.mp lines
  rw [read, parts, List.splitOn_append_cons_self_of_not_mem noEnd, List.foldlM_cons,
    readLine_header named]
  simp only [Option.bind_eq_bind, Option.bind_some]
  rw [isRead, Option.map_some, isAll, List.map_singleton, joined_addLine, List.nil_append, values]

/-- A value without references is what it is, and needs no more fuel than it has characters. -/
theorem fillIn_literal (value : Text → Option Text) (literal : '%' ∉ text) :
    fillIn value text.length text = some text := by
  induction text with
  | nil => rfl
  | cons c rest inductionHypothesis =>
    simp only [List.mem_cons, not_or] at literal
    have plain : c ≠ '%' := fun same => literal.1 same.symm
    simp [fillIn, plain, inductionHypothesis literal.2]

/-- A text without references is filled in with itself at any depth. -/
theorem interpolate_literal (depth : Nat) (literal : '%' ∉ text) :
    interpolate options depth text = some text := by
  cases depth with
  | zero => simp [interpolate, literal]
  | succ depth => exact fillIn_literal _ literal

/-- A list that a fallible function leaves as it is, entry by entry, is left as it is. -/
theorem mapM_same {α : Type} {f : α → Option α} {xs : List α} (same : ∀ x ∈ xs, f x = some x) :
    xs.mapM f = some xs := by
  induction xs with
  | nil => rfl
  | cons x rest inductionHypothesis =>
    obtain ⟨first, others⟩ := List.forall_mem_cons.mp same
    simp [first, inductionHypothesis others]

/-- The options of a section of plain options, where the names are in lower case. -/
theorem items_written (plain : ∀ option ∈ options, Plain option)
    (apart : name ≠ "DEFAULT".toList)
    (distinct : (options.map fun option => lower option.1).Nodup) :
    items [(name, options.map fun option => (lower option.1, option.2))] name =
      some (options.map fun option => (lower option.1, option.2)) := by
  have noDefaults : [(name, options.map fun option => (lower option.1, option.2))].lookup
      "DEFAULT".toList = none := by
    rw [List.lookup_cons, beq_eq_false_iff_ne.mpr apart.symm]
    rfl
  have unset : Distinct Prod.fst (options.map fun option => (lower option.1, option.2)) := by
    simpa [Distinct, Function.comp_def] using distinct
  have once : (options.map fun option => (lower option.1, option.2)).foldl
      (fun out option => put Prod.fst option out) [] =
      options.map fun option => (lower option.1, option.2) := putAll_distinct unset
  have literal : ∀ option ∈ options.map (fun option => (lower option.1, option.2)),
      (interpolate (options.map fun option => (lower option.1, option.2)) 10 option.2).map
        (fun value => (option.1, value)) = some option := by
    rw [List.forall_mem_map]
    intro option listed
    rw [interpolate_literal 10 (plain option listed).literal]
    rfl
  simp only [items, noDefaults, List.lookup_cons_self, Option.getD_none, Option.getD_some, once]
  exact mapM_same literal

end PyIni
