import Thaum.Library.PyModels
import Thaum.Library.PyUrl

/-!
# Settings that name a secret

A setting holds a text or a reference to one: a scheme, a colon and what the scheme looks
up. The validators of such a setting take the `str` of whatever they are given, and this
also of what they made of it before; a secret shows no more than its mask then.

Resolving a reference is outside code.
-/

namespace Thaum.Settings

open PyText PyUrl PyModels

/-- The text starts with a scheme and a colon. -/
def isReference (schemes : List Text) (s : Text) : Bool :=
  schemes.any fun scheme => startsWith s (scheme ++ [':'])

/-- `resolve_secret` with the schemes it knows, `none` where it raises; a text that refers
to nothing is given back. -/
structure SecretResolver where
  schemes : List Text
  resolve : Text → Option Text
  solid : ∀ scheme ∈ schemes, ∀ c ∈ scheme, isControl c = false ∧ c ≠ ':'
  notHttps : ∀ scheme ∈ schemes, lower scheme ≠ "https".toList
  plain : ∀ s, isReference schemes s = false → resolve s = some s

/-- The outside code that settings go through. -/
structure Runtime where
  resolver : SecretResolver
  conversions : Conversions
  valueText : ValueText
  netlocAllowed : Text → Bool

variable (runtime : Runtime)

/-- `resolve_secret(text)`. -/
def Runtime.resolve (s : Text) : Option Text := runtime.resolver.resolve s

/-- The text refers to a secret. -/
def Runtime.refers (s : Text) : Bool := isReference runtime.resolver.schemes s

/-- `rstrip("/")`. -/
def rstripSlash (s : Text) : Text := s.rdropWhile (· == '/')

/-- The URL is one of `https` with a host and without user info. -/
def isHttps (url : Url) : Bool :=
  decide (lower url.scheme = "https".toList) && !url.hostname.isEmpty && !url.hasUserInfo

/-- `normalize_https_base_url`, `none` where it raises. -/
def normalizeHttpsBaseUrl (url : Text) : Option Text :=
  if strip url = [] then none
  else if (urlparse runtime.netlocAllowed (strip url)).any isHttps then
    some (rstripSlash (strip url))
  else none

/-- `_resolved_secret_before`, and the secret made of it. -/
def resolvedSecret (given : Value) : Option Value :=
  (runtime.resolve (pyStr runtime.valueText given)).map .secret

/-- `_optional_resolved_secret`. -/
def optionalResolvedSecret : Value → Option Value
  | .none => some .none
  | given =>
    let s := strip (pyStr runtime.valueText given)
    if s = [] then some .none else (runtime.resolve s).map .text

/-- `_normalize_site_url`. -/
def normalizeSiteUrl : Value → Option Value
  | .text s => if strip s = [] then some (.text s) else (normalizeHttpsBaseUrl runtime s).map .text
  | other => some other

variable {runtime} {s t : Text}

/-- A text is a base URL and the slashes after it. -/
theorem rstripSlash_split (s : Text) :
    ∃ slashes, s = rstripSlash s ++ slashes ∧ ∀ c ∈ slashes, c = '/' := by
  refine ⟨s.rtakeWhile (· == '/'), List.rdropWhile_append_rtakeWhile.symm, ?_⟩
  intro c listed
  rw [List.rtakeWhile, List.mem_reverse] at listed
  simpa using List.mem_takeWhile_imp listed

/-- Nothing more is taken off a second time. -/
theorem rstripSlash_rstripSlash (s : Text) : rstripSlash (rstripSlash s) = rstripSlash s :=
  List.rdropWhile_idempotent _ s

/-- A text that continues a reference is one, as only its front is looked at. -/
theorem isReference_append {schemes : List Text} (more : Text)
    (refers : isReference schemes s = true) : isReference schemes (s ++ more) = true := by
  obtain ⟨scheme, listed, starts⟩ := List.any_eq_true.mp refers
  refine List.any_eq_true.mpr ⟨scheme, listed, ?_⟩
  rw [startsWith, List.isPrefixOf_iff_prefix] at starts ⊢
  exact starts.trans (List.prefix_append s more)

/-- A URL of `https` refers to no secret, its scheme being none of the resolver's. -/
theorem https_plain (https : (urlparse runtime.netlocAllowed s).any isHttps = true) :
    runtime.refers s = false := by
  rw [Bool.eq_false_iff]
  intro refers
  obtain ⟨scheme, listed, starts⟩ := List.any_eq_true.mp refers
  rw [startsWith, List.isPrefixOf_iff_prefix] at starts
  obtain ⟨rest, rfl⟩ := starts
  obtain ⟨parsed, isParsed, isOne⟩ := (Option.any_eq_true _ _).mp https
  rw [List.append_assoc] at isParsed
  have https : lower parsed.scheme = "https".toList := by
    rw [isHttps, Bool.and_eq_true, Bool.and_eq_true] at isOne
    exact of_decide_eq_true isOne.1.1
  have schemed : parsed.scheme ≠ [] := by
    intro nothing
    rw [nothing] at https
    exact absurd https (by decide)
  rw [urlparse_scheme (runtime.resolver.solid scheme listed) isParsed schemed, lower_lower]
    at https
  exact runtime.resolver.notHttps scheme listed https

/-- Slashes after a base URL do not decide whether it is accepted, since they lie in its path. -/
theorem https_slashes {slashes : Text} (onlySlashes : ∀ c ∈ slashes, c = '/')
    (https : (urlparse runtime.netlocAllowed (s ++ slashes)).any isHttps = true) :
    (urlparse runtime.netlocAllowed s).any isHttps = true := by
  obtain ⟨parsed, isParsed, isOne⟩ := (Option.any_eq_true _ _).mp https
  have located : parsed.netloc ≠ [] := by
    intro nothing
    have noHost : parsed.hostname = [] := by
      rw [Url.hostname, nothing]
      rfl
    rw [isHttps, noHost] at isOne
    simp at isOne
  rw [urlparse_slashes onlySlashes isParsed located]
  exact isOne

/-- What normalizing gives: the trimmed text without the slashes at its end, where it is a URL of
`https`. -/
theorem normalizeHttpsBaseUrl_some {url base : Text} :
    normalizeHttpsBaseUrl runtime url = some base ↔ strip url ≠ [] ∧
      (urlparse runtime.netlocAllowed (strip url)).any isHttps = true ∧
        base = rstripSlash (strip url) := by
  rw [normalizeHttpsBaseUrl]
  split
  · rename_i blank
    simp [blank]
  · rename_i nonBlank
    split
    · rename_i https
      simp [nonBlank, https, eq_comm]
    · rename_i notHttps
      simp [notHttps]

/-- An optional secret of a text is what the trimmed text is resolved to, or null where it is
blank. -/
theorem optionalResolvedSecret_text : optionalResolvedSecret runtime (.text s) =
    if strip s = [] then some .none else (runtime.resolve (strip s)).map .text := rfl

/-- A text that starts with something other than a blank is its trimmed self and the blanks after
it. -/
theorem strip_front {c : Char} (solid : isSpace c = false) (rest : Text) :
    strip (c :: rest) ≠ [] ∧ ∃ blanks, c :: rest = strip (c :: rest) ++ blanks := by
  constructor
  · rw [Ne, strip_eq_nil_iff, List.all_cons, solid]
    exact Bool.false_ne_true
  · obtain ⟨leading, blanks, parts, before, _⟩ := strip_split (c :: rest)
    refine ⟨blanks, ?_⟩
    cases leading with
    | nil => exact parts
    | cons d leading =>
      rw [List.append_assoc, List.cons_append] at parts
      rw [List.all_cons, ← (List.cons.inj parts).1, solid] at before
      exact absurd before Bool.false_ne_true

/-- A base URL is accepted itself, refers to nothing and has no blank in front. Only blanks at its
end can make it differ from its trimmed self. -/
theorem base_accepted {url base : Text}
    (normalized : normalizeHttpsBaseUrl runtime url = some base) :
    strip base ≠ [] ∧ (urlparse runtime.netlocAllowed base).any isHttps = true ∧
      runtime.refers base = false ∧ ∃ blanks, base = strip base ++ blanks := by
  obtain ⟨nonBlank, https, rfl⟩ := normalizeHttpsBaseUrl_some.mp normalized
  obtain ⟨slashes, parts, onlySlashes⟩ := rstripSlash_split (strip url)
  rw [parts] at https
  have accepted := https_slashes onlySlashes https
  cases isBase : rstripSlash (strip url) with
  | nil =>
    rw [isBase] at accepted
    exact absurd accepted (by simp [urlparse, cleaned, splitScheme, netlocOf, isHttps]; decide)
  | cons c rest =>
    have solid : isSpace c = false := by
      apply (strip_ends url).1 c
      rw [parts, isBase]
      rfl
    obtain ⟨nonempty, front⟩ := strip_front solid rest
    rw [isBase] at accepted
    exact ⟨nonempty, accepted, https_plain accepted, front⟩

/-- A normalized site URL is read back as it is exactly if no blank is left at its end where slashes
were taken off. -/
theorem siteUrl_again {url base : Text}
    (normalized : normalizeHttpsBaseUrl runtime url = some base) :
    ((optionalResolvedSecret runtime (.text base)).bind (normalizeSiteUrl runtime) =
      some (.text base)) ↔ strip base = base := by
  obtain ⟨nonBlank, accepted, plain, blanks, parts⟩ := base_accepted normalized
  have stripPlain : runtime.refers (strip base) = false := by
    rw [Bool.eq_false_iff]
    intro refers
    rw [parts, Runtime.refers, isReference_append blanks refers] at plain
    exact absurd plain.symm Bool.false_ne_true
  have resolved : runtime.resolve (strip base) = some (strip base) :=
    runtime.resolver.plain (strip base) stripPlain
  have reread : optionalResolvedSecret runtime (.text base) = some (.text (strip base)) := by
    rw [optionalResolvedSecret_text, if_neg nonBlank, resolved]
    rfl
  rw [reread, Option.bind_some, normalizeSiteUrl, strip_strip, if_neg nonBlank]
  constructor
  · intro same
    obtain ⟨again, isAgain, isText⟩ := Option.map_eq_some_iff.mp same
    obtain rfl := Value.text.inj isText
    obtain ⟨_, _, shorter⟩ := normalizeHttpsBaseUrl_some.mp isAgain
    obtain ⟨slashes, longer, _⟩ := rstripSlash_split (strip (strip again))
    rw [← shorter, strip_strip] at longer
    -- each of the two starts with the other
    have fits : (strip again).length = again.length := by
      have atLeast := congrArg List.length longer
      have atMost := congrArg List.length parts
      rw [List.length_append] at atLeast atMost
      omega
    have noBlanks := congrArg List.length parts
    rw [List.length_append] at noBlanks
    rw [List.eq_nil_of_length_eq_zero (by omega : blanks.length = 0), List.append_nil] at parts
    exact parts.symm
  · intro trimmed
    obtain ⟨_, _, isBase⟩ := normalizeHttpsBaseUrl_some.mp normalized
    rw [trimmed]
    refine Option.map_eq_some_iff.mpr ⟨base, normalizeHttpsBaseUrl_some.mpr ?_, rfl⟩
    rw [trimmed, isBase, rstripSlash_rstripSlash, ← isBase]
    exact ⟨trimmed ▸ nonBlank, accepted, rfl⟩

/-- A text that is resolved again to itself: it has no blanks around it, or without them it
refers to this very text. -/
def Settled (runtime : Runtime) (s : Text) : Prop :=
  strip s = s ∨ runtime.refers (strip s) = true ∧ runtime.resolve (strip s) = some s

/-- A resolved text that refers to nothing is read back as it is exactly if it is settled. -/
theorem optional_again (nonBlank : strip s ≠ []) (plain : runtime.refers s = false) :
    optionalResolvedSecret runtime (.text s) = some (.text s) ↔ Settled runtime s := by
  have resolves : optionalResolvedSecret runtime (.text s) = some (.text s) ↔
      runtime.resolve (strip s) = some s := by
    rw [optionalResolvedSecret_text, if_neg nonBlank, Option.map_eq_some_iff]
    constructor
    · rintro ⟨again, isAgain, isText⟩
      rw [isAgain, Value.text.inj isText]
    · intro isAgain
      exact ⟨s, isAgain, rfl⟩
  rw [resolves]
  constructor
  · intro isAgain
    cases refers : runtime.refers (strip s) with
    | true => exact Or.inr ⟨refers, isAgain⟩
    | false =>
      left
      have unchanged : runtime.resolve (strip s) = some (strip s) :=
        runtime.resolver.plain (strip s) refers
      exact Option.some.inj (unchanged.symm.trans isAgain)
  · rintro (trimmed | ⟨_, isAgain⟩)
    · rw [trimmed]
      exact runtime.resolver.plain s plain
    · exact isAgain

/-- Text without a colon refers to nothing and is given back. -/
theorem noColon_plain (noColon : ':' ∉ s) : runtime.resolve s = some s := by
  apply runtime.resolver.plain
  rw [Bool.eq_false_iff]
  intro refers
  obtain ⟨scheme, _, starts⟩ := List.any_eq_true.mp refers
  rw [startsWith, List.isPrefixOf_iff_prefix] at starts
  exact noColon (starts.subset (by simp))

/-- A secret is read back as its mask, unless it is empty, so only those two are read as they
are. -/
theorem secret_again (password : Text) :
    resolvedSecret runtime (.secret password) = some (.secret password) ↔
      password = [] ∨ password = mask := by
  rw [resolvedSecret, pyStr]
  split
  · rename_i empty
    rw [empty, noColon_plain List.not_mem_nil]
    exact iff_of_true rfl (Or.inl rfl)
  · rename_i nonempty
    rw [noColon_plain (by decide), or_iff_right nonempty]
    constructor
    · intro same
      exact (Value.secret.inj (Option.some.inj same)).symm
    · rintro rfl
      rfl

end Thaum.Settings
