import Thaum.Library.JsonText

/-!
# Templates of JSON values

A template is the text of a JSON value with holes in it. Its layout is a tree: the gaps
between the tokens, the strings and constants that stand in it, and the holes. Whatever is
written into the holes, as long as each is the text of one value, the whole is read as the
tree with these values in place of the holes.
-/

namespace JsonText

open PyText

/-- What stands in front of a token: nothing, or a new line and its indentation. -/
inductive Gap where
  | none : Gap
  | line : (indent : Nat) → Gap

/-- The blanks of a gap. -/
def Gap.text : Gap → Text
  | .none => []
  | .line indent => '\n' :: List.replicate indent ' '

/-- A piece of a template. -/
inductive Piece (Hole : Type) where
  | char : Char → Piece Hole
  | hole : Hole → Piece Hole

mutual

/-- The layout of a template. -/
inductive Layout (Hole : Type) where
  | hole : Hole → Layout Hole
  | str : Text → Layout Hole
  | bool : Bool → Layout Hole
  | arr : Items Hole → Layout Hole
  | obj : Members Hole → Layout Hole

/-- The items of an array, with the gap in front of each and of the bracket. -/
inductive Items (Hole : Type) where
  | last : Gap → Layout Hole → Gap → Items Hole
  | more : Gap → Layout Hole → Items Hole → Items Hole

/-- The members of an object, with the gap in front of each and of the brace. -/
inductive Members (Hole : Type) where
  | last : Gap → Text → Layout Hole → Gap → Members Hole
  | more : Gap → Text → Layout Hole → Members Hole → Members Hole

end

variable {Hole α : Type}

/-- A text that stands in the template as it is. -/
def literal (s : Text) : List (Piece Hole) := s.map .char

/-- How `true` and `false` are written. -/
def boolText (b : Bool) : Text := if b then "true".toList else "false".toList

/-- A name and the colon behind it. -/
def nameText (name : Text) : Text := dumpsStr (ofText name) ++ [':', ' ']

mutual

/-- The pieces of a layout. -/
def Layout.pieces : Layout Hole → List (Piece Hole)
  | .hole hole => [.hole hole]
  | .str s => literal (dumpsStr (ofText s))
  | .bool b => literal (boolText b)
  | .arr items => .char '[' :: items.pieces
  | .obj members => .char '{' :: members.pieces

def Items.pieces : Items Hole → List (Piece Hole)
  | .last front item behind =>
    literal front.text ++ (item.pieces ++ literal (behind.text ++ [']']))
  | .more front item others =>
    literal front.text ++ (item.pieces ++ .char ',' :: others.pieces)

def Members.pieces : Members Hole → List (Piece Hole)
  | .last front name item behind =>
    literal (front.text ++ nameText name) ++ (item.pieces ++ literal (behind.text ++ ['}']))
  | .more front name item others =>
    literal (front.text ++ nameText name) ++ (item.pieces ++ .char ',' :: others.pieces)

end

mutual

/-- The value of a layout, given the values of its holes. -/
def Layout.value (given : Hole → Value) : Layout Hole → Value
  | .hole hole => given hole
  | .str s => .str (ofText s)
  | .bool b => .bool b
  | .arr items => .arr (items.values given)
  | .obj members => .obj (members.values given)

def Items.values (given : Hole → Value) : Items Hole → List Value
  | .last _ item _ => [item.value given]
  | .more _ item others => item.value given :: others.values given

def Members.values (given : Hole → Value) : Members Hole → List (PyStr × Value)
  | .last _ name item _ => [(ofText name, item.value given)]
  | .more _ name item others => (ofText name, item.value given) :: others.values given

end

mutual

/-- How deep the arrays and objects nest. -/
def Layout.depth : Layout Hole → Nat
  | .hole _ | .str _ | .bool _ => 0
  | .arr items => items.depth + 1
  | .obj members => members.depth + 1

def Items.depth : Items Hole → Nat
  | .last _ item _ => item.depth
  | .more _ item others => max item.depth others.depth

def Members.depth : Members Hole → Nat
  | .last _ _ item _ => item.depth
  | .more _ _ item others => max item.depth others.depth

end

/-- The text of some pieces, given what is written into the holes. -/
def expand (fill : Hole → Text) (pieces : List (Piece Hole)) : Text :=
  pieces.flatMap fun
    | .char c => [c]
    | .hole hole => fill hole

/-- The text is read as the value whatever follows. -/
structure Delimited (item : Text → Scanned α) (text : Text) (value : α) : Prop where
  read : ∀ rest, item (text ++ rest) = .ok (value, rest)
  solid : ∃ c more, text = c :: more ∧ isBlank c = false ∧ c ≠ ']' ∧ c ≠ '}'

section Reading

variable {item : Text → Scanned α} {text rest : Text} {value : α} {closing : Char} {depth : Nat}
  {fill : Hole → Text} {given : Hole → Value}

@[simp] theorem expand_literal (s : Text) : expand fill (literal s) = s := by
  induction s with
  | nil => rfl
  | cons c s inductionHypothesis => exact congrArg (c :: ·) inductionHypothesis

@[simp] theorem expand_append (pieces others : List (Piece Hole)) :
    expand fill (pieces ++ others) = expand fill pieces ++ expand fill others :=
  List.flatMap_append

@[simp] theorem expand_char (c : Char) (pieces : List (Piece Hole)) :
    expand fill (.char c :: pieces) = c :: expand fill pieces := rfl

@[simp] theorem expand_hole (hole : Hole) : expand fill [.hole hole] = fill hole := by
  simp [expand]

/-- A gap is blank. -/
theorem Gap.blank (gap : Gap) : ∀ c ∈ gap.text, isBlank c = true := by
  cases gap with
  | none => simp [Gap.text]
  | line indent =>
    intro c listed
    rcases List.mem_cons.mp listed with rfl | spaces
    · rfl
    · rw [(List.mem_replicate.mp spaces).2]
      rfl

/-- The gap in front of a solid character is skipped, and nothing behind it. -/
theorem skipBlanks_gap (gap : Gap) {c : Char} (solid : isBlank c = false) (more : Text) :
    skipBlanks (gap.text ++ c :: more) = c :: more := by
  rw [skipBlanks, List.dropWhile_append_of_pos gap.blank]
  exact skipBlanks_solid solid

/-- The gap in front of a delimited text is skipped: such a text does not start with a blank. -/
theorem Delimited.skip (delimited : Delimited item text value) (gap : Gap) (rest : Text) :
    skipBlanks (gap.text ++ (text ++ rest)) = text ++ rest := by
  obtain ⟨c, more, rfl, solid, _⟩ := delimited.solid
  rw [List.cons_append]
  exact skipBlanks_gap gap solid _

/-- A delimited text closes no list, so a list that starts with one is not empty. -/
theorem Delimited.opens (delimited : Delimited item text value) (gap : Gap) (rest : Text) :
    (skipBlanks (gap.text ++ (text ++ rest))).head? ≠ some ']' ∧
      (skipBlanks (gap.text ++ (text ++ rest))).head? ≠ some '}' := by
  rw [delimited.skip]
  obtain ⟨c, more, rfl, _, noBracket, noBrace⟩ := delimited.solid
  exact ⟨fun same => noBracket (Option.some.inj same), fun same => noBrace (Option.some.inj same)⟩

/-- The last item of a list, with a gap on each side, and the bracket behind it. -/
theorem scanItems_last (delimited : Delimited item text value) (front behind : Gap)
    (solid : isBlank closing = false) (fuel : Nat) (rest : Text) :
    scanItems item closing (fuel + 1)
        (skipBlanks (front.text ++ (text ++ (behind.text ++ closing :: rest)))) =
      .ok ([value], rest) := by
  rw [delimited.skip, scanItems, delimited.read]
  dsimp only
  rw [skipBlanks_gap behind solid]
  dsimp only
  rw [if_pos rfl]

/-- An item with a comma behind it is followed by more items, which take what fuel is left. -/
theorem scanItems_more (delimited : Delimited item text value) (front : Gap)
    (noComma : closing ≠ ',') (fuel : Nat) (more : Text) :
    scanItems item closing (fuel + 1) (skipBlanks (front.text ++ (text ++ ',' :: more))) =
      (scanItems item closing fuel (skipBlanks more)).map fun (others, rest) =>
        (value :: others, rest) := by
  rw [delimited.skip, scanItems, delimited.read]
  dsimp only
  rw [skipBlanks_solid (by decide)]
  dsimp only
  rw [if_neg noComma.symm, if_pos rfl]

/-- A list that does not close at once is read by its items, given fuel enough. How much that is may
be found out later, as more of it changes nothing. -/
theorem scanList_items (shrinks : Shrinks item) {s : Text} {values : List α} {count : Nat}
    (opens : (skipBlanks s).head? ≠ some closing)
    (read : ∀ fuel, count ≤ fuel →
      scanItems item closing fuel (skipBlanks s) = .ok (values, rest)) :
    scanList item closing s = .ok (values, rest) := by
  rw [scanList, if_neg opens]
  have enough := read (count + (skipBlanks s).length + 1) (by omega)
  rw [← enough]
  exact scanItems_fuel shrinks (by omega) (by omega)

/-- A name with a delimited value is a delimited member. -/
theorem delimited_member (name : Text) (delimited : Delimited item text value) :
    Delimited (scanMember item) (nameText name ++ text) (ofText name, value) := by
  obtain ⟨front, isText, read⟩ := scanStr_dumps (ofText name)
  constructor
  · intro rest
    rw [nameText, isText, List.append_assoc, List.append_assoc, List.cons_append, scanMember, read]
    have skipped : skipBlanks (' ' :: (text ++ rest)) = text ++ rest := by
      obtain ⟨c, more, rfl, solid, _⟩ := delimited.solid
      exact skipBlanks_solid solid
    dsimp only [List.cons_append, List.nil_append]
    rw [skipBlanks_solid (by decide), joinSurrogates_text]
    change Except.map _ (item (skipBlanks (' ' :: (text ++ rest)))) = _
    rw [skipped, delimited.read]
    rfl
  · exact ⟨'"', _, by rw [nameText, isText]; rfl, by decide, by decide, by decide⟩

/-- The two constants are read as what they are. -/
theorem delimited_bool (b : Bool) : Delimited (scanValue depth) (boolText b) (.bool b) := by
  cases b with
  | false =>
    refine ⟨fun rest => ?_, ⟨'f', _, rfl, by decide, by decide, by decide⟩⟩
    change scanValue depth ('f' :: _) = _
    rw [scanValue_plain (by decide) (by decide) (by decide)]
    rfl
  | true =>
    refine ⟨fun rest => ?_, ⟨'t', _, rfl, by decide, by decide, by decide⟩⟩
    change scanValue depth ('t' :: _) = _
    rw [scanValue_plain (by decide) (by decide) (by decide)]
    rfl

/-- The way each unit is written is read back. -/
def Escapes (escape : CodePoint → Text) : Prop :=
  ∀ p, IsUnit p → ∀ rest, scanUnits (escape p ++ rest) =
    (scanUnits rest).map fun (units, rest) => (p :: units, rest)

/-- A string in quotation marks, its units written in some way. -/
def quoted (escape : CodePoint → Text) (s : PyStr) : Text :=
  '"' :: (units s).flatMap escape ++ ['"']

/-- Units that are each written so that they are read back are read back together. -/
theorem Escapes.read {escape : CodePoint → Text} (escapes : Escapes escape)
    (us : List CodePoint) (areUnits : ∀ p ∈ us, IsUnit p) (rest : Text) :
    scanUnits (us.flatMap escape ++ '"' :: rest) = .ok (us, rest) := by
  induction us with
  | nil => rfl
  | cons p us inductionHypothesis =>
    obtain ⟨first, others⟩ := List.forall_mem_cons.mp areUnits
    rw [List.flatMap_cons, List.append_assoc, escapes p first, inductionHypothesis others]
    rfl

/-- A text in quotation marks is delimited, whichever way its units are escaped. The template engine
escapes more of them than `json.dumps`. -/
theorem Escapes.delimited {escape : CodePoint → Text} (escapes : Escapes escape) (s : Text) :
    Delimited (scanValue depth) (quoted escape (ofText s)) (.str (ofText s)) := by
  constructor
  · intro rest
    rw [quoted, List.cons_append, List.cons_append, List.append_assoc, scanValue, scanStr]
    change Except.map _ (Except.map _ (scanUnits ((units (ofText s)).flatMap escape ++
      '"' :: rest))) = _
    rw [escapes.read _ (units_areUnits _)]
    change Except.ok (Value.str (joinSurrogates (units (ofText s))), rest) = _
    rw [joinSurrogates_text]
  · exact ⟨'"', _, rfl, by decide, by decide, by decide⟩

/-- The escapes of `json.dumps` are one such way. -/
theorem escapeUnit_escapes : Escapes escapeUnit := fun _ isUnit _ => scanUnits_escape isUnit

/-- What is written into the holes is read as their values, however deep they stand. -/
def Fills (fill : Hole → Text) (given : Hole → Value) : Prop :=
  ∀ hole depth, Delimited (scanValue depth) (fill hole) (given hole)

mutual

/-- A filled template is read as its layout with the values in it.

Proof: by recursion on the layout, together with its lists. A hole is what it was filled with, a
string or constant is read as itself, and a list is read item by item, one level deeper. -/
theorem Layout.delimited (fills : Fills fill given) {depth : Nat} :
    (layout : Layout Hole) → layout.depth ≤ depth →
      Delimited (scanValue depth) (expand fill layout.pieces) (layout.value given)
  | .hole hole, _ => by
    rw [Layout.pieces, expand_hole]
    exact fills hole depth
  | .str s, _ => by
    rw [Layout.pieces, expand_literal]
    exact escapeUnit_escapes.delimited s
  | .bool b, _ => by
    rw [Layout.pieces, expand_literal]
    exact delimited_bool b
  | .arr items, deep => by
    rw [Layout.depth] at deep
    obtain ⟨less, rfl⟩ : ∃ less, depth = less + 1 := ⟨depth - 1, by omega⟩
    rw [Layout.pieces, expand_char]
    refine ⟨fun rest => ?_, ⟨'[', _, rfl, by decide, by decide, by decide⟩⟩
    obtain ⟨count, opens, read⟩ := items.read fills (Nat.le_of_succ_le_succ deep) rest
    rw [List.cons_append, scanValue, scanList_items (scanValue_shrinks less) opens read]
    rfl
  | .obj members, deep => by
    rw [Layout.depth] at deep
    obtain ⟨less, rfl⟩ : ∃ less, depth = less + 1 := ⟨depth - 1, by omega⟩
    rw [Layout.pieces, expand_char]
    refine ⟨fun rest => ?_, ⟨'{', _, rfl, by decide, by decide, by decide⟩⟩
    obtain ⟨count, opens, read⟩ := members.read fills (Nat.le_of_succ_le_succ deep) rest
    rw [List.cons_append, scanValue,
      scanList_items (scanMember_shrinks (scanValue_shrinks less)) opens read]
    rfl

/-- The items of an array are read in order, given fuel enough. The list does not close in front of
them. -/
theorem Items.read (fills : Fills fill given) {depth : Nat} :
    (items : Items Hole) → items.depth ≤ depth → (rest : Text) →
      ∃ count, (skipBlanks (expand fill items.pieces ++ rest)).head? ≠ some ']' ∧
        ∀ fuel, count ≤ fuel → scanItems (scanValue depth) ']' fuel
          (skipBlanks (expand fill items.pieces ++ rest)) = .ok (items.values given, rest)
  | .last front item behind, deep, rest => by
    have delimited := item.delimited fills deep
    simp only [Items.pieces, expand_append, expand_literal, List.append_assoc,
      List.singleton_append]
    refine ⟨1, (delimited.opens front _).1, fun fuel enough => ?_⟩
    obtain ⟨less, rfl⟩ : ∃ less, fuel = less + 1 := ⟨fuel - 1, by omega⟩
    exact scanItems_last delimited front behind (by decide) less rest
  | .more front item others, deep, rest => by
    rw [Items.depth] at deep
    have delimited := item.delimited fills (Nat.le_trans (Nat.le_max_left _ _) deep)
    obtain ⟨count, _, read⟩ := others.read fills (Nat.le_trans (Nat.le_max_right _ _) deep) rest
    simp only [Items.pieces, expand_append, expand_literal, expand_char, List.append_assoc,
      List.cons_append]
    refine ⟨count + 1, (delimited.opens front _).1, fun fuel enough => ?_⟩
    obtain ⟨less, rfl⟩ : ∃ less, fuel = less + 1 := ⟨fuel - 1, by omega⟩
    rw [scanItems_more delimited front (by decide), read less (by omega)]
    rfl

/-- The members of an object are read in order, given fuel enough, each with the name that the
layout has for it. -/
theorem Members.read (fills : Fills fill given) {depth : Nat} :
    (members : Members Hole) → members.depth ≤ depth → (rest : Text) →
      ∃ count, (skipBlanks (expand fill members.pieces ++ rest)).head? ≠ some '}' ∧
        ∀ fuel, count ≤ fuel → scanItems (scanMember (scanValue depth)) '}' fuel
          (skipBlanks (expand fill members.pieces ++ rest)) = .ok (members.values given, rest)
  | .last front name item behind, deep, rest => by
    have delimited := delimited_member name (item.delimited fills deep)
    have parts : expand fill (Members.last front name item behind).pieces ++ rest =
        front.text ++ ((nameText name ++ expand fill item.pieces) ++
          (behind.text ++ '}' :: rest)) := by
      simp [Members.pieces]
    rw [parts]
    refine ⟨1, (delimited.opens front _).2, fun fuel enough => ?_⟩
    obtain ⟨less, rfl⟩ : ∃ less, fuel = less + 1 := ⟨fuel - 1, by omega⟩
    exact scanItems_last delimited front behind (by decide) less rest
  | .more front name item others, deep, rest => by
    rw [Members.depth] at deep
    have delimited := delimited_member name
      (item.delimited fills (Nat.le_trans (Nat.le_max_left _ _) deep))
    obtain ⟨count, _, read⟩ := others.read fills (Nat.le_trans (Nat.le_max_right _ _) deep) rest
    have parts : expand fill (Members.more front name item others).pieces ++ rest =
        front.text ++ ((nameText name ++ expand fill item.pieces) ++
          ',' :: (expand fill others.pieces ++ rest)) := by
      simp [Members.pieces]
    rw [parts]
    refine ⟨count + 1, (delimited.opens front _).2, fun fuel enough => ?_⟩
    obtain ⟨less, rfl⟩ : ∃ less, fuel = less + 1 := ⟨fuel - 1, by omega⟩
    rw [scanItems_more delimited front (by decide), read less (by omega)]
    rfl

end

/-- `json.loads` of a filled template, with blanks around it. What was written into the holes
appears in the holes and nowhere else. -/
theorem loads_layout (fills : Fills fill given) (layout : Layout Hole) {depth : Nat}
    (deep : layout.depth ≤ depth) {before after : Text}
    (blankBefore : ∀ c ∈ before, isBlank c = true) (blankAfter : ∀ c ∈ after, isBlank c = true) :
    loads depth (before ++ (expand fill layout.pieces ++ after)) = .ok (layout.value given) := by
  have delimited := layout.delimited fills deep
  have opens : skipBlanks (before ++ (expand fill layout.pieces ++ after)) =
      expand fill layout.pieces ++ after := by
    obtain ⟨c, more, isText, solid, _⟩ := delimited.solid
    rw [skipBlanks, List.dropWhile_append_of_pos blankBefore, isText]
    exact skipBlanks_solid solid
  have closes : skipBlanks after = [] := List.dropWhile_eq_nil_iff.mpr blankAfter
  rw [loads, opens, delimited.read]
  dsimp only
  rw [if_pos closes]

end Reading

end JsonText
