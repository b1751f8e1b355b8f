import Thaum.Admin.ClientRequest

/-!
# The message of the PowerShell client

`Set-ThaumLogLevel.ps1` joins the same lines as the endpoint and takes the second of its
timestamp from the same clock reading. It hands the second over as 64 bits, but the
parameter of `Build-CanonicalMessage` is an `[int]`, which has 32: from 2038 on, and before
1901, the conversion of the argument raises and nothing is signed.

The header is written in the culture of the process, with its calendar and the separator of
its times. Where these are not the ISO ones the endpoint reads another second, or none.

The text of a time and the capital letters are .NET's and are passed in. Nothing is assumed
of the text, and of the capitals what is documented of them.
-/

namespace Thaum.AdminLogLevel.Powershell

open PyText PyDatetime JsonText

/-- What the script has from .NET: `ToString('yyyy-MM-ddTHH:mm:ss')` of a second in UTC, in
the current culture, and `ToUpperInvariant`. -/
structure DotNet where
  timeText : (epoch : Int) → Text
  toUpperInvariant : Text → Text

/-- In the invariant culture ASCII letters have ASCII capitals. -/
structure DotNet.Documented (net : DotNet) : Prop where
  toUpperInvariant : ∀ s, (∀ c ∈ s, c.toNat < 128) → net.toUpperInvariant s = s.map Char.toUpper

/-- `Char.IsWhiteSpace`, which lacks the separators of ASCII. -/
def isWhiteSpace (c : Char) : Bool := isSpace c && !decide (28 ≤ c.toNat ∧ c.toNat ≤ 31)

/-- `Trim()`. -/
def trim (s : Text) : Text := (s.dropWhile isWhiteSpace).rdropWhile isWhiteSpace

/-- `-eq` of two strings, exact for ASCII letters. -/
def sameLetters (s t : Text) : Bool := s.map Char.toLower == t.map Char.toLower

/-- The conversion of an argument to `[int]`, `none` where it raises. -/
def toInt (n : Int) : Option Int :=
  if -2147483648 ≤ n ∧ n ≤ 2147483647 then some n else none

/-- `Build-CanonicalMessage`, `none` where an argument is not converted. -/
def buildCanonicalMessage (routeId : Text) (epochSec : Int) (nonceHex logLevelNorm : Text) :
    Option Bytes :=
  (toInt epochSec).map fun epochSec =>
    PyBytes.encodeUtf8 (['\n'].intercalate
      ["thaum-log-level-v1".toList, "POST".toList, '/' :: routeId ++ "/log-level".toList,
        (toString epochSec).toList, nonceHex, "loglevel=".toList ++ logLevelNorm,
        "v=1".toList, []])

variable (net : DotNet)

/-- `$canonicalLevel`. -/
def canonicalLevel (logLevel : Text) : Text :=
  let norm := net.toUpperInvariant (trim logLevel)
  if sameLetters norm "DEFAULT".toList then "DEFAULT".toList else norm

/-- `$tsIso`. -/
def timestamp (epoch : Int) : Text := net.timeText epoch ++ ['Z']

/-- The script builds the bytes that the endpoint builds for the second it reads from the
header of the script. -/
def SameBytes (host : Host) (routeId nonce logLevel : Text) (epoch : Int) : Prop :=
  ∃ parsed, parseIsoUtcEpochSeconds host (timestamp net epoch) = .epoch parsed ∧
    buildCanonicalMessage routeId epoch nonce (canonicalLevel net logLevel) =
      some (encodeUtf8 (AdminLogLevel.buildCanonicalMessage routeId parsed nonce
        (normalizeLoglevelToken logLevel)))

variable {net} {name raw : Text}

/-- A letter of a spelling of an ASCII word is ASCII, so that nothing has to be known of the culture
for it. -/
theorem spelled_ascii (spelled : SpelledAs (name.map Char.toLower) raw)
    (ascii : ∀ c ∈ name, c.toLower.toNat < 128) : ∀ c ∈ raw, c.toNat < 128 := by
  intro c listed
  have lowered : c.toLower ∈ name.map Char.toLower := spelled ▸ List.mem_map_of_mem listed
  obtain ⟨d, inName, same⟩ := List.mem_map.mp lowered
  by_cases capital : c.val ≥ 'A'.val ∧ c.val ≤ 'Z'.val
  · have greatest : c.toNat ≤ 90 := capital.2
    omega
  · rw [← toLower_other capital, ← same]
    exact ascii d inName

/-- The capitals of ASCII text are those of Python, letter by letter. -/
theorem upper_ascii {s : Text} (ascii : ∀ c ∈ s, c.toNat < 128) : upper s = s.map Char.toUpper := by
  have plain : ∀ special ∈ upperSpecial, 128 ≤ special.1.toNat := by decide
  rw [upper, ← List.flatMap_singleton' (s.map Char.toUpper), List.flatMap_map]
  apply List.flatMap_congr
  intro c listed
  have absent : upperSpecial.lookup c = none := by
    rw [List.lookup_eq_none_iff]
    intro special isSpecial
    rw [bne_iff_ne]
    rintro rfl
    have small := ascii _ listed
    have large := plain special isSpecial
    omega
  rw [upperChar, absent, Option.getD_none]

/-- A text without blanks is not trimmed. -/
theorem trim_solid {s : Text} (solid : ∀ c ∈ s, isSpace c = false) : trim s = s := by
  have kept : ∀ c ∈ s, isWhiteSpace c = false := fun c listed => by
    rw [isWhiteSpace, solid c listed, Bool.false_and]
  have front : s.dropWhile isWhiteSpace = s := by
    cases s with
    | nil => rfl
    | cons c rest =>
      exact List.dropWhile_cons_of_neg (by simp [kept c List.mem_cons_self])
  rw [trim, front, List.rdropWhile_eq_self_iff]
  intro nonempty
  simp [kept _ (List.getLast_mem nonempty)]

/-- Both sides make the same name of a level, whatever the case of its letters. The name of a level
has no blanks, so the two ways of trimming agree on it. -/
theorem canonicalLevel_token (documented : net.Documented) (listed : name ∈ levelNames)
    (spelled : SpelledAs (name.map Char.toLower) raw) :
    canonicalLevel net raw = normalizeLoglevelToken raw := by
  have letters : ∀ name ∈ levelNames, (∀ c ∈ name, c.toLower.toNat < 128) ∧
      (∀ c ∈ name.map Char.toLower, isSpace c = false) ∧
      (if sameLetters name "DEFAULT".toList then "DEFAULT".toList else name) = name := by
    decide
  obtain ⟨ascii, solidName, isDefault⟩ := letters name listed
  have solid := spelled_solid spelled solidName
  have capitals : upper raw = name := upper_spelled spelled (levelNames_capitals name listed)
  have trimmed : strip raw = raw :=
    trimmed_of_ends raw (fun c first => solid c (List.mem_of_mem_head? first))
      fun c last => solid c (List.mem_of_mem_getLast? last)
  have asciiRaw := spelled_ascii spelled ascii
  have upperCase : net.toUpperInvariant (trim raw) = name := by
    rw [trim_solid solid, documented.toUpperInvariant raw asciiRaw, ← upper_ascii asciiRaw,
      capitals]
  simp only [canonicalLevel, upperCase, isDefault, normalizeLoglevelToken, trimmed, capitals]

/-- A second is not changed by the rest of the message that it is signed in. -/
theorem message_second {routeId nonce level : Text} {epoch parsed : Int}
    (same : AdminLogLevel.buildCanonicalMessage routeId epoch nonce level =
      AdminLogLevel.buildCanonicalMessage routeId parsed nonce level) : epoch = parsed := by
  simp only [AdminLogLevel.buildCanonicalMessage, List.intercalate, List.intersperse,
    List.flatten_cons, List.append_cancel_left_eq, List.append_cancel_right_eq] at same
  rw [toString_intText, toString_intText] at same
  exact intText_inj same

/-- A culture that writes the ISO text of a second has it read back. The invariant culture is
one. -/
theorem iso_header {host : Host} {epoch : Int}
    (written : utcText epoch = some (net.timeText epoch)) :
    parseIsoUtcEpochSeconds host (timestamp net epoch) = .epoch epoch :=
  parseIso_utcText written

/-- For every second and every spelling of a level, in every culture, the script builds the
bytes of the endpoint exactly if the endpoint reads the second back from the header and the
second fits the 32 bits of the script's parameter.

Proof: the script converts the second or builds nothing. What it builds is the message of its
own second, and two messages that differ at most in their second are equal only where the
seconds are. -/
theorem same_bytes_iff (host : Host) (documented : net.Documented) (routeId nonce : Text)
    (listed : name ∈ levelNames) (spelled : SpelledAs (name.map Char.toLower) raw)
    (epoch : Int) :
    SameBytes net host routeId nonce raw epoch ↔
      parseIsoUtcEpochSeconds host (timestamp net epoch) = .epoch epoch ∧
        -2147483648 ≤ epoch ∧ epoch ≤ 2147483647 := by
  have level := canonicalLevel_token documented listed spelled
  constructor
  · rintro ⟨parsed, header, built⟩
    have fits : -2147483648 ≤ epoch ∧ epoch ≤ 2147483647 := by
      by_contra wide
      simp [buildCanonicalMessage, toInt, wide] at built
    rw [buildCanonicalMessage, toInt, if_pos fits, level] at built
    have second : epoch = parsed :=
      message_second (PyBytes.encodeUtf8_inj (Option.some.inj built))
    rw [← second] at header
    exact ⟨header, fits⟩
  · rintro ⟨header, fits⟩
    refine ⟨epoch, header, ?_⟩
    rw [buildCanonicalMessage, toInt, if_pos fits, level]
    rfl

section Example

/-- The script in the invariant culture. -/
def exampleNet : DotNet := ⟨fun epoch => (utcText epoch).getD [], fun s => s.map Char.toUpper⟩

/-- The script of the example behaves as it is documented. -/
theorem exampleNet_documented : exampleNet.Documented where
  toUpperInvariant := fun _ _ => rfl

/-- The script in fi-FI, where the parts of a time are separated by dots. -/
def finnishNet : DotNet :=
  { exampleNet with
    timeText := fun epoch => (exampleNet.timeText epoch).map fun c => if c = ':' then '.' else c }

/-- The script in th-TH, whose calendar is 543 years ahead. -/
def thaiNet : DotNet :=
  { exampleNet with
    timeText := fun epoch =>
      zeroPadded 4 ((dateOfOrdinal ((epoch + secondsBeforeEpoch).toNat / 86400)).year + 543) ++
        (exampleNet.timeText epoch).drop 4 }

/-- The first second that has no 32 bits, early in 2038, is expressed in the header and is
not signed. In a culture with dots or with years of its own a second of 2023 is not signed
for the endpoint either. -/
theorem year_2038_not_signed :
    utcText 2147483648 = some "2038-01-19T03:14:08".toList ∧
      ¬ SameBytes exampleNet exampleHost "operator".toList (List.replicate 32 '0')
        "DEBUG".toList 2147483648 ∧
      timestamp finnishNet 1700000000 = "2023-11-14T22.13.20Z".toList ∧
      ¬ SameBytes finnishNet exampleHost "operator".toList (List.replicate 32 '0')
        "DEBUG".toList 1700000000 ∧
      timestamp thaiNet 1700000000 = "2566-11-14T22:13:20Z".toList ∧
      ¬ SameBytes thaiNet exampleHost "operator".toList (List.replicate 32 '0')
        "DEBUG".toList 1700000000 := by
  refine ⟨by decide +kernel, ?_, by decide +kernel, ?_, by decide +kernel, ?_⟩
  · rintro ⟨parsed, -, built⟩
    cases built
  · rintro ⟨parsed, header, -⟩
    have refused : parseIsoUtcEpochSeconds exampleHost (timestamp finnishNet 1700000000) =
        .valueError := by decide +kernel
    cases refused.symm.trans header
  · rintro ⟨parsed, header, built⟩
    have later : parseIsoUtcEpochSeconds exampleHost (timestamp thaiNet 1700000000) =
        .epoch 18835452800 := by decide +kernel
    obtain rfl := IsoTime.epoch.inj (later.symm.trans header)
    have other := PyBytes.encodeUtf8_inj (Option.some.inj built)
    cases message_second other

/-- The second before it is signed alike in a culture that writes the ISO text. -/
theorem last_second_agrees :
    SameBytes exampleNet exampleHost "operator".toList (List.replicate 32 '0') "Debug".toList
      2147483647 := by
  have written : utcText 2147483647 = some (exampleNet.timeText 2147483647) := by
    decide +kernel
  exact (same_bytes_iff exampleHost exampleNet_documented _ _
    (by decide : "DEBUG".toList ∈ levelNames) (by decide) 2147483647).mpr
      ⟨iso_header written, by decide⟩

end Example

end Thaum.AdminLogLevel.Powershell
