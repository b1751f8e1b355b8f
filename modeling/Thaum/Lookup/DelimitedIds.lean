import Thaum.Lookup.LdapAd

/-!
# Platform ids on delimited lines

An attribute of the directory has one value for each platform id, `key<delimiter>id`.
`parse_platform_ids_from_ldap_entry` cuts each value at its first delimiter, trims the value
and both of its parts, and skips what has no delimiter, no key or no id. So the values of a
map are read back as the map, whatever lies between them.
-/

namespace Thaum.Lookup.LdapAd

open PyText PyJson KeyedRows

/-- The value for a platform id. -/
def encodeId (delimiter : Char) (id : Text × Text) : Text := id.1 ++ delimiter :: id.2

/-- A key that is trimmed and has no delimiter, and an id that is trimmed; neither is empty. -/
structure Encodable (delimiter : Char) (id : Text × Text) : Prop where
  keyGiven : id.1 ≠ []
  keyTrimmed : Trimmed id.1
  keyPlain : delimiter ∉ id.1
  idGiven : id.2 ≠ []
  idTrimmed : Trimmed id.2

/-- A value without a delimiter, or with a blank key or id at its first one. -/
def Malformed (delimiter : Char) (line : Text) : Prop :=
  delimiter ∉ line ∨ ∃ key id, line = key ++ delimiter :: id ∧ delimiter ∉ key ∧
    (strip key = [] ∨ strip id = [])

/-- The values with malformed ones inserted anywhere. -/
inductive Inserted (delimiter : Char) : (encoded lines : List Text) → Prop
  | nil : Inserted delimiter [] []
  | kept {encoded lines : List Text} (line : Text) (rest : Inserted delimiter encoded lines) :
      Inserted delimiter (line :: encoded) (line :: lines)
  | malformed {encoded lines : List Text} {line : Text} (bad : Malformed delimiter line)
      (rest : Inserted delimiter encoded lines) : Inserted delimiter encoded (line :: lines)

/-- One turn of the loop over the values. -/
def addLine (delimiter : Char) (out : List (Text × Text)) (line : Text) : List (Text × Text) :=
  let line := strip line
  if delimiter ∉ line then out
  else
    let key := strip (line.takeWhile fun c => c != delimiter)
    let id := strip ((line.dropWhile fun c => c != delimiter).drop 1)
    if key = [] ∨ id = [] then out else put Prod.fst (key, id) out

/-- The loop over the values as a fold of its turn. -/
theorem platformIdsOfLines_eq (delimiter : Char) (lines : List Text) :
    platformIdsOfLines delimiter lines = lines.foldl (addLine delimiter) [] := rfl

variable {delimiter : Char} {key id line : Text} {out : List (Text × Text)}

/-- Trimming stops on both sides at a character that is not blank, so the key keeps what is before
the delimiter and the id what is after it. -/
theorem strip_around (solid : isSpace delimiter = false) (key id : Text) :
    strip (key ++ delimiter :: id) = lstrip key ++ delimiter :: rstrip id := by
  have front : lstrip (key ++ delimiter :: id) = lstrip key ++ delimiter :: id := by
    by_cases blanks : key.all isSpace = true
    · have nothing : lstrip key = [] :=
        List.dropWhile_eq_nil_iff.mpr (List.all_eq_true.mp blanks)
      rw [lstrip_append _ blanks, nothing]
      exact List.dropWhile_cons_of_neg (by simp [solid])
    · refine lstrip_append_right (fun nothing => blanks ?_) _
      exact List.all_eq_true.mpr (List.dropWhile_eq_nil_iff.mp nothing)
  rw [strip, front, rstrip_append _ _ solid]

/-- Trimming what is trimmed on the left gives the trimmed text. -/
theorem strip_lstrip (s : Text) : strip (lstrip s) = strip s := by
  rw [strip, strip, lstrip, lstrip, List.dropWhile_idempotent]

/-- Trimming what is trimmed on the right gives the trimmed text. -/
theorem strip_rstrip (s : Text) : strip (rstrip s) = strip s := by
  rw [← lstrip_rstrip, ← lstrip_rstrip, rstrip, rstrip, List.rdropWhile_idempotent]

/-- A value is cut at its first delimiter. The key has none in it, so an id that has one is kept
whole. -/
theorem addLine_cut (solid : isSpace delimiter = false) (plain : delimiter ∉ key) (id : Text) :
    addLine delimiter out (key ++ delimiter :: id) =
      if strip key = [] ∨ strip id = [] then out
      else put Prod.fst (strip key, strip id) out := by
  have others : ∀ c ∈ lstrip key, (c != delimiter) = true := by
    intro c listed
    rw [bne_iff_ne]
    rintro rfl
    exact plain ((List.dropWhile_suffix _).mem listed)
  have before : (lstrip key ++ delimiter :: rstrip id).takeWhile (fun c => c != delimiter) =
      lstrip key := by
    rw [List.takeWhile_append_of_pos others, List.takeWhile_cons_of_neg (by simp),
      List.append_nil]
  have behind : (lstrip key ++ delimiter :: rstrip id).dropWhile (fun c => c != delimiter) =
      delimiter :: rstrip id := by
    rw [List.dropWhile_append_of_pos others, List.dropWhile_cons_of_neg (by simp)]
  have present : delimiter ∈ lstrip key ++ delimiter :: rstrip id :=
    List.mem_append_right _ List.mem_cons_self
  simp only [addLine, strip_around solid, before, behind, List.drop_succ_cons, List.drop_zero,
    strip_lstrip, strip_rstrip, not_not_intro present, if_false]

/-- The value of a platform id adds that id. -/
theorem addLine_encoded (solid : isSpace delimiter = false) {entry : Text × Text}
    (encodable : Encodable delimiter entry) :
    addLine delimiter out (encodeId delimiter entry) = put Prod.fst entry out := by
  have keyTrimmed : strip entry.1 = entry.1 := encodable.keyTrimmed
  have idTrimmed : strip entry.2 = entry.2 := encodable.idTrimmed
  rw [encodeId, addLine_cut solid encodable.keyPlain, keyTrimmed, idTrimmed,
    if_neg (not_or.mpr ⟨encodable.keyGiven, encodable.idGiven⟩)]

/-- A malformed value is skipped. -/
theorem addLine_malformed (solid : isSpace delimiter = false)
    (bad : Malformed delimiter line) : addLine delimiter out line = out := by
  rcases bad with none | ⟨key, id, rfl, plain, blank⟩
  · have noneLeft : delimiter ∉ strip line := by
      intro listed
      obtain ⟨leading, trailing, parts, -, -⟩ := strip_split line
      rw [parts] at none
      exact none (List.mem_append_left _ (List.mem_append_right _ listed))
    simp only [addLine, noneLeft, not_false_eq_true, if_true]
  · rw [addLine_cut solid plain, if_pos blank]

/-- Values that are left out because they are blank would have been skipped, so reading the
attribute first changes nothing. -/
theorem foldl_attributeStrings (lines : List Text) (out : List (Text × Text)) :
    (lines.filter fun value => strip value != []).foldl (addLine delimiter) out =
      lines.foldl (addLine delimiter) out := by
  induction lines generalizing out with
  | nil => rfl
  | cons line lines inductionHypothesis =>
    by_cases blank : strip line = []
    · have skipped : addLine delimiter out line = out := by simp [addLine, blank]
      rw [List.filter_cons_of_neg (by simp [blank]), List.foldl_cons, skipped,
        inductionHypothesis]
    · rw [List.filter_cons_of_pos (by simp [blank]), List.foldl_cons, List.foldl_cons,
        inductionHypothesis]

/-- The inserted values leave what the others give, by induction on where they were inserted. -/
theorem foldl_inserted (solid : isSpace delimiter = false) {encoded lines : List Text}
    (inserted : Inserted delimiter encoded lines) :
    lines.foldl (addLine delimiter) out = encoded.foldl (addLine delimiter) out := by
  induction inserted generalizing out with
  | nil => rfl
  | kept line rest inductionHypothesis => exact inductionHypothesis
  | malformed bad rest inductionHypothesis =>
    rw [List.foldl_cons, addLine_malformed solid bad, inductionHypothesis]

/-- The values of a map, in any order and with malformed values anywhere between them, are read as
the map.

Proof: the inserted and the blank values are turns that change nothing, so the loop runs over the
encoded ids alone. Each of them adds its id, and as the keys are distinct none replaces another;
what is read is the map in the order of the values. -/
theorem parsePlatformIds_encoded (rendering : Rendering) (loads : JsonLoads) {delimiter : Char}
    (offered : delimiter ∈ [':', '/', ',']) {attrName : Text} (named : strip attrName ≠ [])
    {ids ordered : List (Text × Text)} (distinct : Distinct Prod.fst ids)
    (encodable : ∀ entry ∈ ids, Encodable delimiter entry) (permuted : ordered.Perm ids)
    {entry : LdapEntry} {values : List Text} (stored : entry.values attrName = some values)
    (inserted : Inserted delimiter (ordered.map (encodeId delimiter)) values) :
    ∃ parsed, parsePlatformIds rendering loads (.delimited delimiter) attrName entry = some parsed ∧
      parsed.Perm ids := by
  have solid : isSpace delimiter = false := by
    have all : ∀ c ∈ [':', '/', ','], isSpace c = false := by decide
    exact all delimiter offered
  have folded : (ordered.map (encodeId delimiter)).foldl (addLine delimiter) [] =
      putAll Prod.fst ordered := by
    rw [List.foldl_map, putAll]
    apply List.foldl_ext
    intro out entry listed
    exact addLine_encoded solid (encodable entry (permuted.mem_iff.mp listed))
  have parsed : parsePlatformIds rendering loads (.delimited delimiter) attrName entry =
      some ordered := by
    have distinctToo : Distinct Prod.fst ordered :=
      (permuted.map Prod.fst).nodup_iff.mpr distinct
    rw [parsePlatformIds, if_neg named]
    simp only [attributeStringValues, stored, Option.getD_some, platformIdsOfLines_eq]
    rw [foldl_attributeStrings, foldl_inserted solid inserted, folded,
      putAll_distinct distinctToo]
  exact ⟨ordered, parsed, permuted⟩

section Example

/-- Three values of an entry, the second of them without an id. -/
def extensionEntry : LdapEntry where
  entryDn := []
  value := fun _ => []
  values := fun name =>
    if name = "ext".toList then
      some ["webex:x".toList, "jira: ".toList, "jira:acc:extra".toList]
    else none

/-- The value without an id is skipped, and an id may contain the delimiter. -/
theorem malformed_line_skipped :
    ∃ parsed, parsePlatformIds asciiRendering (fun _ => .decodeError) (.delimited ':')
        "ext".toList extensionEntry = some parsed ∧
      parsed.Perm [("jira".toList, "acc:extra".toList), ("webex".toList, "x".toList)] := by
  have bad : Malformed ':' "jira: ".toList :=
    .inr ⟨"jira".toList, " ".toList, rfl, by decide, .inr (by decide)⟩
  have distinct : Distinct Prod.fst
      [("jira".toList, "acc:extra".toList), ("webex".toList, "x".toList)] :=
    (by decide : (["jira".toList, "webex".toList] : List Text).Nodup)
  have encodable : ∀ entry ∈ [("jira".toList, "acc:extra".toList), ("webex".toList, "x".toList)],
      Encodable ':' entry :=
    List.forall_mem_cons.mpr
      ⟨⟨by decide, by decide, by decide, by decide, by decide⟩,
        List.forall_mem_singleton.mpr ⟨by decide, by decide, by decide, by decide, by decide⟩⟩
  exact parsePlatformIds_encoded _ _ (by decide) (by decide) distinct encodable
    (List.Perm.swap _ _ []) rfl (.kept _ (.malformed bad (.kept _ .nil)))

end Example

end Thaum.Lookup.LdapAd
