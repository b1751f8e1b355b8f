import Thaum.Library.JsonText
import Thaum.Library.PyBytes

/-!
# LDAP search filters

A filter is a text of parentheses: an item compares an attribute with an assertion
value, and `&`, `|` and `!` combine the filters that follow them. An assertion value
writes an octet as a character without a role in filters or as a backslash and two
hexadecimal digits, and an asterisk in it stands for any octets.

A list of filters is spelled by the texts of its filters one after the other. A text
spells at most one list, so a text that is put together from spellings means what its
parts mean and nothing else. Evaluation has three values, as an entry may lack what an
item asks for.
-/

namespace LdapFilter

open PyText PyBytes JsonText

/-- The characters of an attribute description. -/
def isAttributeChar (c : Char) : Bool := c.isAlphanum || c == '-' || c == '.' || c == ';'

/-- The characters before the `=` of an item. -/
def isRuleChar (c : Char) : Bool := isAttributeChar c || c == ':'

/-- The characters of a value that are not written as themselves. -/
def isReserved (c : Char) : Bool :=
  c == '\x00' || c == '(' || c == ')' || c == '*' || c == '\\'

/-- What an item asserts of an entry. -/
inductive Assertion where
  | equality : (attr : Text) → (value : Bytes) → Assertion
  | present : (attr : Text) → Assertion
  | substrings : (attr : Text) → (initial : Bytes) → (rest : List Bytes) → Assertion
  | approximate : (attr : Text) → (value : Bytes) → Assertion
  | atLeast : (attr : Text) → (value : Bytes) → Assertion
  | atMost : (attr : Text) → (value : Bytes) → Assertion
  | extensible : (rule : Text) → (value : Bytes) → Assertion

/-- A filter: an item, or an operator over the filters that follow it. -/
inductive SearchFilter where
  | item : Assertion → SearchFilter
  | and : List SearchFilter → SearchFilter
  | or : List SearchFilter → SearchFilter
  | not : SearchFilter → SearchFilter

/-- Put octets in front of the first piece. -/
def prepend (octets : Bytes) : List Bytes → List Bytes
  | [] => [octets]
  | piece :: rest => (octets ++ piece) :: rest

/-- The pieces of an assertion value between its asterisks. -/
def readPieces : Text → Option (List Bytes)
  | [] => some [[]]
  | '*' :: rest => (readPieces rest).map fun pieces => [] :: pieces
  | '\\' :: high :: low :: rest =>
    (hexValue high).bind fun first => (hexValue low).bind fun second =>
      (readPieces rest).map (prepend [UInt8.ofNat (first * 16 + second)])
  | c :: rest =>
    if isReserved c then none
    else (readPieces rest).map (prepend (String.utf8EncodeChar c))

/-- An assertion value without asterisks. -/
def readValue (text : Text) : Option Bytes :=
  match readPieces text with
  | some [value] => some value
  | _ => none

/-- An assertion of the pieces of its value. -/
def ofPieces (attr : Text) : List Bytes → Option Assertion
  | [] => none
  | [value] => some (.equality attr value)
  | [[], []] => some (.present attr)
  | initial :: rest => some (.substrings attr initial rest)

/-- The item between two parentheses. -/
def readItem (text : Text) : Option Assertion :=
  let attr := text.takeWhile isRuleChar
  let plain := attr != [] && attr.all isAttributeChar
  match text.dropWhile isRuleChar with
  | '=' :: value =>
    if plain then (readPieces value).bind (ofPieces attr)
    else if attr.getLast? = some ':' then (readValue value).map (.extensible attr)
    else none
  | '~' :: '=' :: value => if plain then (readValue value).map (.approximate attr) else none
  | '>' :: '=' :: value => if plain then (readValue value).map (.atLeast attr) else none
  | '<' :: '=' :: value => if plain then (readValue value).map (.atMost attr) else none
  | _ => none

/-- The filter that an operator makes of the filters after it. -/
def combine : Char → List SearchFilter → Option SearchFilter
  | '&', part :: rest => some (.and (part :: rest))
  | '|', part :: rest => some (.or (part :: rest))
  | '!', [part] => some (.not part)
  | _, _ => none

/-- The text spells the filters, one after the other. -/
inductive Spells : Text → List SearchFilter → Prop where
  | nil : Spells [] []
  | item {text rest : Text} {assertion : Assertion} {others : List SearchFilter} :
      readItem text = some assertion → Spells rest others →
      Spells ('(' :: (text ++ ')' :: rest)) (.item assertion :: others)
  | group {operator : Char} {text rest : Text} {parts others : List SearchFilter}
      {whole : SearchFilter} :
      Spells text parts → combine operator parts = some whole → Spells rest others →
      Spells ('(' :: operator :: (text ++ ')' :: rest)) (whole :: others)

/-- All of some three-valued conditions. -/
def allOf : List (Option Bool) → Option Bool
  | [] => some true
  | some false :: _ => some false
  | some true :: rest => allOf rest
  | none :: rest => if some false ∈ rest then some false else none

/-- Some of some three-valued conditions. -/
def someOf (values : List (Option Bool)) : Option Bool :=
  (allOf (values.map fun value => value.map Bool.not)).map Bool.not

mutual

/-- What a filter says of an entry whose items are assessed, `none` where it is
undefined. -/
def SearchFilter.value (assess : Assertion → Option Bool) : SearchFilter → Option Bool
  | .item assertion => assess assertion
  | .and parts => allOf (values assess parts)
  | .or parts => someOf (values assess parts)
  | .not part => (part.value assess).map Bool.not

/-- What each filter of a list says. -/
def values (assess : Assertion → Option Bool) : List SearchFilter → List (Option Bool)
  | [] => []
  | part :: rest => part.value assess :: values assess rest

end

/-- The text selects the entries that its filter is true of. -/
def Selects (assess : Assertion → Option Bool) (text : Text) : Prop :=
  ∃ filter, Spells text [filter] ∧ filter.value assess = some true

variable {text rest other : Text} {filters others parts : List SearchFilter} {c : Char}
  {assess : Assertion → Option Bool} {value : Bytes}

/-- A hexadecimal digit is no parenthesis. -/
theorem hexValue_plain {n : Nat} (digit : hexValue c = some n) : c ≠ '(' ∧ c ≠ ')' := by
  constructor
  · rintro rfl
    simp [hexValue] at digit
  · rintro rfl
    simp [hexValue] at digit

/-- The characters that a value writes as themselves, one by one. -/
theorem not_reserved_iff : isReserved c = false ↔
    c ≠ '\x00' ∧ c ≠ '(' ∧ c ≠ ')' ∧ c ≠ '*' ∧ c ≠ '\\' := by
  simp [isReserved, and_assoc]

/-- A value that can be read has no parenthesis in it, as those are written with a backslash. This
is what keeps a value inside its item. -/
theorem readPieces_plain {pieces : List Bytes} (found : readPieces text = some pieces) :
    '(' ∉ text ∧ ')' ∉ text := by
  induction text using readPieces.induct generalizing pieces with
  | case1 => simp
  | case2 rest inductionHypothesis =>
    rw [readPieces, Option.map_eq_some_iff] at found
    obtain ⟨later, read, _⟩ := found
    simpa using inductionHypothesis read
  | case3 high low rest inductionHypothesis =>
    simp only [readPieces, Option.bind_eq_some_iff, Option.map_eq_some_iff] at found
    obtain ⟨first, firstDigit, second, secondDigit, later, read, _⟩ := found
    obtain ⟨notOpen, notClose⟩ := inductionHypothesis read
    obtain ⟨highOpen, highClose⟩ := hexValue_plain firstDigit
    obtain ⟨lowOpen, lowClose⟩ := hexValue_plain secondDigit
    simp [notOpen, notClose, highOpen.symm, highClose.symm, lowOpen.symm, lowClose.symm]
  | case4 c rest noStar noEscape reserved =>
    rw [readPieces.eq_4 _ _ noStar noEscape, if_pos reserved] at found
    simp at found
  | case5 c rest noStar noEscape plain inductionHypothesis =>
    rw [readPieces.eq_4 _ _ noStar noEscape, if_neg plain, Option.map_eq_some_iff] at found
    obtain ⟨later, read, _⟩ := found
    obtain ⟨notOpen, notClose⟩ := inductionHypothesis read
    obtain ⟨_, isOpen, isClose, _, _⟩ := not_reserved_iff.mp (by simpa using plain)
    simp [notOpen, notClose, isOpen.symm, isClose.symm]

/-- A value without asterisks is its only piece. -/
theorem readValue_some (found : readValue text = some value) :
    readPieces text = some [value] := by
  unfold readValue at found
  split at found
  · simp_all
  · simp at found

/-- What is between the parentheses of an item: an attribute or a rule, a sign and a
value, without parentheses of its own. -/
structure ItemText (text attr sign value : Text) (pieces : List Bytes) : Prop where
  parts : text = attr ++ (sign ++ value)
  named : attr ≠ []
  rule : ∀ c ∈ attr, isRuleChar c = true
  signed : sign ∈ [['='], ['~', '='], ['>', '='], ['<', '=']]
  read : readPieces value = some pieces

/-- An item that can be read has the parts of one. -/
theorem readItem_text {assertion : Assertion} (found : readItem text = some assertion) :
    ∃ attr sign value pieces, ItemText text attr sign value pieces := by
  have rule : ∀ c ∈ text.takeWhile isRuleChar, isRuleChar c = true := fun c listed =>
    List.mem_takeWhile_imp listed
  have cut := (List.takeWhile_append_dropWhile (p := isRuleChar) (l := text)).symm
  simp only [readItem, Bool.and_eq_true, bne_iff_ne] at found
  generalize text.takeWhile isRuleChar = attr at *
  generalize text.dropWhile isRuleChar = after at *
  subst cut
  split at found
  · rename_i value
    split at found
    · rename_i plain
      obtain ⟨pieces, read, _⟩ := Option.bind_eq_some_iff.mp found
      exact ⟨attr, ['='], value, pieces, rfl, plain.1, rule, by simp, read⟩
    · split at found
      · rename_i isRule
        obtain ⟨octets, read, _⟩ := Option.map_eq_some_iff.mp found
        exact ⟨attr, ['='], value, _, rfl, by rintro rfl; simp at isRule, rule, by simp,
          readValue_some read⟩
      · simp at found
  · rename_i value
    split at found
    · rename_i plain
      obtain ⟨octets, read, _⟩ := Option.map_eq_some_iff.mp found
      exact ⟨attr, ['~', '='], value, _, rfl, plain.1, rule, by simp, readValue_some read⟩
    · simp at found
  · rename_i value
    split at found
    · rename_i plain
      obtain ⟨octets, read, _⟩ := Option.map_eq_some_iff.mp found
      exact ⟨attr, ['>', '='], value, _, rfl, plain.1, rule, by simp, readValue_some read⟩
    · simp at found
  · rename_i value
    split at found
    · rename_i plain
      obtain ⟨octets, read, _⟩ := Option.map_eq_some_iff.mp found
      exact ⟨attr, ['<', '='], value, _, rfl, plain.1, rule, by simp, readValue_some read⟩
    · simp at found
  · simp at found

/-- An item starts with no operator and contains no closing parenthesis, so its own closing
parenthesis is the first one behind it. -/
theorem ItemText.framed {attr sign value : Text} {pieces : List Bytes}
    (item : ItemText text attr sign value pieces) :
    ')' ∉ text ∧ ∃ c after, text = c :: after ∧ isRuleChar c = true := by
  constructor
  · have plain := (readPieces_plain item.read).2
    have rule : ')' ∉ attr := fun listed => absurd (item.rule _ listed) (by decide)
    have signed : ')' ∉ sign := by
      have := item.signed
      grind
    simp [item.parts, plain, rule, signed]
  · obtain ⟨c, after, rfl⟩ := List.exists_cons_of_ne_nil item.named
    exact ⟨c, after ++ (sign ++ value), by simp [item.parts], item.rule c (by simp)⟩

/-- An operator is no character that an item could start with. -/
theorem operator_not_rule {operator : Char} {whole : SearchFilter}
    (combined : combine operator parts = some whole) : isRuleChar operator = false := by
  unfold combine at combined
  split at combined
  · decide
  · decide
  · decide
  · simp at combined

/-- Texts that stop at the first occurrence of a character are cut there, whatever follows in each
of them. -/
theorem cut_unique {later after : Text} (absent : c ∉ text) (absentToo : c ∉ other)
    (same : text ++ c :: later = other ++ c :: after) : text = other ∧ later = after := by
  induction text generalizing other with
  | nil =>
    cases other with
    | nil => exact ⟨rfl, (List.cons.inj same).2⟩
    | cons d rest =>
      obtain ⟨rfl, _⟩ := List.cons.inj same
      simp at absentToo
  | cons d rest inductionHypothesis =>
    cases other with
    | nil =>
      obtain ⟨rfl, _⟩ := List.cons.inj same
      simp at absent
    | cons e further =>
      simp only [List.cons_append, List.cons.injEq] at same
      obtain ⟨rfl, sameRest⟩ := same
      simp only [List.mem_cons, not_or] at absent absentToo
      obtain ⟨rfl, rfl⟩ := inductionHypothesis absent.2 absentToo.2 sameRest
      exact ⟨rfl, rfl⟩

/-- A list of filters is spelled before what starts no filter in one way only.

Proof: by induction on the first spelling, with the cases of the second one. An item ends at its
first closing parenthesis; a group starts with an operator, which no item does, and its parts are
spelled before a closing parenthesis, where the induction applies. -/
theorem Spells.unique (spelled : Spells text filters) (again : Spells other others)
    (after later : Text) (ends : after.head? ≠ some '(') (endsToo : later.head? ≠ some '(')
    (same : text ++ after = other ++ later) : text = other ∧ filters = others := by
  induction spelled generalizing other others after later with
  | nil =>
    cases again with
    | nil => exact ⟨rfl, rfl⟩
    | item => simp [show after = _ from same] at ends
    | group => simp [show after = _ from same] at ends
  | item found tail inductionHypothesis =>
    obtain ⟨_, _, _, _, item⟩ := readItem_text found
    obtain ⟨plain, c, _, starts, ruled⟩ := item.framed
    cases again with
    | nil => simp [show later = _ from same.symm] at endsToo
    | item foundToo tailToo =>
      obtain ⟨_, _, _, _, itemToo⟩ := readItem_text foundToo
      simp only [List.cons_append, List.append_assoc, List.cons.injEq, true_and] at same
      obtain ⟨rfl, sameRest⟩ := cut_unique plain itemToo.framed.1 same
      obtain ⟨rfl, rfl⟩ := inductionHypothesis tailToo _ _ ends endsToo sameRest
      obtain rfl := Option.some.inj (found.symm.trans foundToo)
      exact ⟨rfl, rfl⟩
    | group inner combined tailToo =>
      have notRule := operator_not_rule combined
      simp only [starts, List.cons_append, List.cons.injEq, true_and] at same
      simp [← same.1, ruled] at notRule
  | group inner combined tail innerHypothesis inductionHypothesis =>
    cases again with
    | nil => simp [show later = _ from same.symm] at endsToo
    | item foundToo tailToo =>
      obtain ⟨_, _, _, _, item⟩ := readItem_text foundToo
      obtain ⟨_, c, _, starts, ruled⟩ := item.framed
      have notRule := operator_not_rule combined
      simp only [starts, List.cons_append, List.cons.injEq, true_and] at same
      simp [same.1, ruled] at notRule
    | group innerToo combinedToo tailToo =>
      simp only [List.cons_append, List.append_assoc, List.cons.injEq, true_and] at same
      obtain ⟨rfl, same⟩ := same
      obtain ⟨rfl, rfl⟩ := innerHypothesis innerToo _ _ (by simp) (by simp) same
      obtain rfl := Option.some.inj (combined.symm.trans combinedToo)
      have sameRest := (List.cons.inj (List.append_cancel_left same)).2
      obtain ⟨rfl, rfl⟩ := inductionHypothesis tailToo _ _ ends endsToo sameRest
      exact ⟨rfl, rfl⟩

/-- A text spells one list of filters at most. What a server makes of a search text is therefore no
matter of choice. -/
theorem Spells.filters_unique (spelled : Spells text filters) (again : Spells text others) :
    filters = others :=
  (spelled.unique again [] [] (by simp) (by simp) rfl).2

/-- Spellings one after the other spell the filters of both. -/
theorem Spells.append (spelled : Spells text filters) (further : Spells rest others) :
    Spells (text ++ rest) (filters ++ others) := by
  induction spelled with
  | nil => exact further
  | item found tail inductionHypothesis => simpa using Spells.item found inductionHypothesis
  | group inner combined tail innerHypothesis inductionHypothesis =>
    simpa using Spells.group inner combined inductionHypothesis

/-- What all of some conditions say is true exactly if each of them is; one that is undefined makes
it undefined, or false. -/
theorem allOf_true_iff {conditions : List (Option Bool)} :
    allOf conditions = some true ↔ ∀ condition ∈ conditions, condition = some true := by
  induction conditions with
  | nil => simp [allOf]
  | cons condition rest inductionHypothesis =>
    rcases condition with _ | _ | _
    · simp [allOf]
    · simp [allOf]
    · simp [allOf, inductionHypothesis]

/-- What all of some conditions say is false exactly if one of them is. -/
theorem allOf_false_iff {conditions : List (Option Bool)} :
    allOf conditions = some false ↔ some false ∈ conditions := by
  induction conditions with
  | nil => simp [allOf]
  | cons condition rest inductionHypothesis =>
    rcases condition with _ | _ | _
    · simp [allOf]
    · simp [allOf]
    · simp [allOf, inductionHypothesis]

/-- What some of some conditions say is true exactly if one of them is, undefined ones aside. -/
theorem someOf_true_iff {conditions : List (Option Bool)} :
    someOf conditions = some true ↔ some true ∈ conditions := by
  have flipped : ∀ (value : Option Bool) (truth : Bool),
      value.map Bool.not = some truth ↔ value = some !truth := by
    intro value truth
    cases value with
    | none => simp
    | some held => cases held <;> cases truth <;> simp
  rw [someOf, flipped, Bool.not_true, allOf_false_iff, List.mem_map]
  simp [flipped]

/-- What the filters of a list say, one by one. -/
theorem values_eq_map : values assess filters = filters.map (SearchFilter.value assess) := by
  induction filters with
  | nil => rfl
  | cons part rest inductionHypothesis => rw [values, inductionHypothesis, List.map_cons]

/-- A conjunction is true of an entry exactly if each of its parts is. -/
theorem and_true_iff : (SearchFilter.and parts).value assess = some true ↔
    ∀ part ∈ parts, part.value assess = some true := by
  rw [SearchFilter.value, values_eq_map, allOf_true_iff, List.forall_mem_map]

/-- A disjunction is true of an entry exactly if one of its parts is. -/
theorem or_true_iff : (SearchFilter.or parts).value assess = some true ↔
    ∃ part ∈ parts, part.value assess = some true := by
  rw [SearchFilter.value, values_eq_map, someOf_true_iff, List.mem_map]

/-- A text that spells a filter selects what the filter is true of, as it spells no other. -/
theorem selects_iff {filter : SearchFilter} (spelled : Spells text [filter]) :
    Selects assess text ↔ filter.value assess = some true := by
  constructor
  · rintro ⟨read, again, holds⟩
    obtain rfl := List.singleton_inj.mp (spelled.filters_unique again)
    exact holds
  · exact fun holds => ⟨filter, spelled, holds⟩

/-- A name that an item can start with. -/
structure AttributeName (attr : Text) : Prop where
  nonempty : attr ≠ []
  chars : ∀ c ∈ attr, isAttributeChar c = true

/-- Every text is written as an assertion value that stands for its octets. -/
def Escapes (escape : Text → Text) : Prop :=
  ∀ text, readValue (escape text) = some (encodeUtf8 text)

/-- An item with an escaped text compares with that text. The sign is found in front of the value,
as an attribute's name has none in it. -/
theorem readItem_equality {escape : Text → Text} {attr : Text} (escapes : Escapes escape)
    (named : AttributeName attr) (text : Text) :
    readItem (attr ++ '=' :: escape text) = some (.equality attr (encodeUtf8 text)) := by
  have rule : ∀ c ∈ attr, isRuleChar c = true := fun c listed => by
    simp [isRuleChar, named.chars c listed]
  have signed : isRuleChar '=' = false := by decide
  have plain : attr.all isAttributeChar = true := List.all_eq_true.mpr named.chars
  have front : (attr ++ '=' :: escape text).takeWhile isRuleChar = attr := by
    simp [List.takeWhile_append_of_pos rule, signed]
  have back : (attr ++ '=' :: escape text).dropWhile isRuleChar = '=' :: escape text := by
    simp [List.dropWhile_append_of_pos rule, signed]
  simp [readItem, front, back, named.nonempty, plain, readValue_some (escapes text), ofPieces]

/-- The filter of such an item. Nothing in the escaped text can close it or open another one. -/
theorem spells_equality {escape : Text → Text} {attr : Text} (escapes : Escapes escape)
    (named : AttributeName attr) (text : Text) :
    Spells ('(' :: (attr ++ '=' :: (escape text ++ [')'])))
      [.item (.equality attr (encodeUtf8 text))] := by
  simpa using Spells.item (readItem_equality escapes named text) Spells.nil

/-- A backslash and two digits for each octet. -/
def escapeOctets (octets : Bytes) : Text :=
  octets.flatMap fun octet => ['\\', hexDigit (octet.toNat / 16), hexDigit (octet.toNat % 16)]

/-- Escape the reserved characters, and those outside ASCII. -/
def escapeChars (text : Text) : Text :=
  text.flatMap fun c =>
    if isReserved c || !isAscii c then escapeOctets (String.utf8EncodeChar c) else [c]

/-- Escaped octets are read as what they are, in front of whatever follows. -/
theorem readPieces_octets (octets : Bytes) (read : readPieces text = some [value]) :
    readPieces (escapeOctets octets ++ text) = some [octets ++ value] := by
  induction octets with
  | nil => simpa [escapeOctets] using read
  | cons octet rest inductionHypothesis =>
    have small := octet.toNat_lt
    have whole : UInt8.ofNat (octet.toNat / 16 * 16 + octet.toNat % 16) = octet := by
      rw [Nat.div_add_mod']
      simp
    simp only [escapeOctets, List.flatMap_cons, List.cons_append, List.nil_append]
      at inductionHypothesis ⊢
    rw [readPieces, hexValue_hexDigit (by omega), hexValue_hexDigit (Nat.mod_lt _ (by decide)),
      inductionHypothesis]
    simp only [Option.bind_some, Option.map_some, prepend, whole, List.nil_append,
      List.cons_append]

/-- Escaping the reserved characters is a way of writing every text, so the assumption about
`escape_filter_chars` can be met. -/
theorem escapeChars_escapes : Escapes escapeChars := by
  intro text
  have read : readPieces (escapeChars text) = some [encodeUtf8 text] := by
    induction text with
    | nil => rfl
    | cons c rest inductionHypothesis =>
      rw [escapeChars, List.flatMap_cons, ← escapeChars]
      split
      · exact readPieces_octets _ inductionHypothesis
      · rename_i kept
        simp only [Bool.or_eq_true, not_or, Bool.not_eq_true] at kept
        obtain ⟨_, _, _, noStar, noEscape⟩ := not_reserved_iff.mp kept.1
        rw [List.singleton_append, readPieces.eq_4 _ _ noStar (by simp [noEscape]),
          inductionHypothesis]
        simp [kept.1, prepend, encodeUtf8]
  simp [readValue, read]

end LdapFilter
