import Thaum.Library.PyUrl
import Thaum.Settings.ServerConfig

/-!
# The base URL and its sources

`_resolve_base_url` takes the first of six sources whose value is not blank, and only then
removes the slashes at its end. So a value of slashes hides the sources behind it and leaves an
empty URL, or `https:` where the value is a host name; and a host name may begin with a
mark that ends the host of a URL.

A source is set if there is something other than blanks and slashes in its value. The two
sources of Azure give host names, and no other source has their label.
-/

namespace Thaum.Settings

open PyText PyUrl

/-- Something other than blanks and slashes is in the value. -/
def hasContent (value : Option Text) : Bool :=
  value.any fun s => s.any fun c => !isSpace c && c != '/'

/-- A source of the base URL: what the code takes as its value, with `https://` in front of a
host name, and whether it is set. -/
structure UrlSource where
  label : Text
  candidate : Option Text
  isSet : Bool

/-- The URL of a source and its label. -/
def UrlSource.result (source : UrlSource) : Option (Text × Text) :=
  source.candidate.map fun url => (rstripSlash url, source.label)

variable (environ : Environ) (configBaseUrl : Option Text)

/-- The URL of the host of Container Apps; both of its variables have to be there. -/
def containerAppUrl : Option Text :=
  (stripBaseUrlCandidate (environ "CONTAINER_APP_NAME".toList)).bind fun app =>
    (stripBaseUrlCandidate (environ "CONTAINER_APP_ENV_DNS_SUFFIX".toList)).map fun suffix =>
      "https://".toList ++ app ++ '.' :: suffix.dropWhile (· == '.')

/-- The URL of the host of App Service. -/
def appServiceUrl : Option Text :=
  (stripBaseUrlCandidate (environ "WEBSITE_HOSTNAME".toList)).map ("https://".toList ++ ·)

/-- The URL of Cloud Run, where it is announced. -/
def cloudRunUrl : Option Text :=
  if (environ "K_SERVICE".toList).isSome then environ "K_SERVICE_URL".toList else none

/-- The sources by precedence. -/
def urlSources : List UrlSource :=
  [{ label := "environment".toList
     candidate := stripBaseUrlCandidate (environ "THAUM_BASE_URL".toList)
     isSet := hasContent (environ "THAUM_BASE_URL".toList) },
   { label := "config".toList
     candidate := stripBaseUrlCandidate configBaseUrl
     isSet := hasContent configBaseUrl },
   { label := "google".toList
     candidate := stripBaseUrlCandidate (cloudRunUrl environ)
     isSet := hasContent (cloudRunUrl environ) },
   { label := "azure".toList
     candidate := containerAppUrl environ
     isSet := hasContent (environ "CONTAINER_APP_NAME".toList) &&
       hasContent (environ "CONTAINER_APP_ENV_DNS_SUFFIX".toList) },
   { label := "azure".toList
     candidate := appServiceUrl environ
     isSet := hasContent (environ "WEBSITE_HOSTNAME".toList) },
   { label := "aws".toList
     candidate := stripBaseUrlCandidate (environ "AWS_APP_RUNNER_SERVICE_URL".toList)
     isSet := hasContent (environ "AWS_APP_RUNNER_SERVICE_URL".toList) }]

/-- The host at the front of what follows `https://`. -/
def hostOf (rest : Text) : Text :=
  Url.hostname ⟨"https".toList, rest.takeWhile fun c => !isDelimiter c⟩

/-- Nothing is resolved where nothing is set, and otherwise the URL is that of the first
source that is set: not empty, without a slash at its end and, from a host name, `https://`
and a host. -/
structure RightlyResolved : Prop where
  refused : resolveBaseUrl environ configBaseUrl = none →
    (urlSources environ configBaseUrl).find? UrlSource.isSet = none
  returned : ∀ url label, resolveBaseUrl environ configBaseUrl = some (url, label) →
    ((urlSources environ configBaseUrl).find? UrlSource.isSet).bind UrlSource.result =
        some (url, label) ∧
      url ≠ [] ∧ url.getLast? ≠ some '/' ∧
      (label = "azure".toList → ∃ rest, url = "https://".toList ++ rest ∧ hostOf rest ≠ [])

/-- The first source that is not blank is set, or gives the URL of the first one that is; and
a host name begins with a host. -/
def FirstIsSet : Prop :=
  ∀ source, (urlSources environ configBaseUrl).find? (fun source => source.candidate.isSome) =
      some source →
    (source.isSet = true ∨
      ((urlSources environ configBaseUrl).find? UrlSource.isSet).bind UrlSource.result =
        source.result) ∧
      (source.label = "azure".toList →
        ∀ rest, source.candidate = some ("https://".toList ++ rest) → hostOf rest ≠ [])

variable {environ configBaseUrl} {source : UrlSource} {s t rest : Text}

/-- A source has a result exactly where it has a value that is not blank. -/
theorem result_isSome (source : UrlSource) :
    source.result.isSome = source.candidate.isSome := by
  rw [UrlSource.result, Option.isSome_map]

/-- The first result is that of the first source that has one. -/
theorem findSome_result (sources : List UrlSource) :
    sources.findSome? UrlSource.result =
      (sources.find? fun source => source.candidate.isSome).bind UrlSource.result := by
  induction sources with
  | nil => rfl
  | cons source sources inductionHypothesis =>
    cases given : source.candidate with
    | none =>
      have nothing : source.result = none := by rw [UrlSource.result, given, Option.map_none]
      rw [List.findSome?_cons, nothing, List.find?_cons_of_neg (by simp [given])]
      exact inductionHypothesis
    | some url =>
      have something : source.result = some (rstripSlash url, source.label) := by
        rw [UrlSource.result, given, Option.map_some]
      rw [List.findSome?_cons, something, List.find?_cons_of_pos (by simp [given]),
        Option.bind_some, something]

/-- The first source that is not blank is the one that is taken, by the six branches of the code. -/
theorem resolveBaseUrl_eq : resolveBaseUrl environ configBaseUrl =
    ((urlSources environ configBaseUrl).find? fun source => source.candidate.isSome).bind
      UrlSource.result := by
  have cloudRun : (if (environ "K_SERVICE".toList).isSome then
      stripBaseUrlCandidate (environ "K_SERVICE_URL".toList) else none) =
        stripBaseUrlCandidate (cloudRunUrl environ) := by
    rw [cloudRunUrl]
    split <;> rfl
  have appService : (if (environ "WEBSITE_HOSTNAME".toList).isSome then appServiceUrl environ
      else none) = appServiceUrl environ := by
    rw [appServiceUrl]
    cases environ "WEBSITE_HOSTNAME".toList <;> rfl
  have orElse (source : UrlSource) (others : List UrlSource) :
      (source :: others).findSome? UrlSource.result =
        (source.result <|> others.findSome? UrlSource.result) := by
    rw [List.findSome?_cons]
    cases source.result <;> rfl
  rw [← findSome_result, urlSources, ← cloudRun, ← appService, resolveBaseUrl]
  simp only [orElse, List.findSome?_nil, Option.orElse_eq_orElse, Option.orElse_eq_or,
    Option.or_none]
  rfl

/-- No slash is left at the end. -/
theorem rstripSlash_last (s : Text) : (rstripSlash s).getLast? ≠ some '/' := by
  intro last
  obtain ⟨nonempty, same⟩ := List.mem_getLast?_eq_getLast last
  have kept := List.rdropWhile_last_not (fun c : Char => c == '/') s nonempty
  exact kept (beq_iff_eq.mpr same.symm)

/-- What has something other than slashes is not emptied. -/
theorem rstripSlash_ne_nil (other : ∃ c ∈ s, c ≠ '/') : rstripSlash s ≠ [] := by
  intro nothing
  obtain ⟨slashes, parts, onlySlashes⟩ := rstripSlash_split s
  obtain ⟨c, listed, notSlash⟩ := other
  rw [parts, nothing, List.nil_append] at listed
  exact notSlash (onlySlashes c listed)

/-- The slashes behind such a text are all that is removed, and what stands in front of it is
kept. -/
theorem rstripSlash_append (front : Text) (other : ∃ c ∈ s, c ≠ '/') :
    rstripSlash (front ++ s) = front ++ rstripSlash s := by
  have left : (s.reverse.dropWhile (· == '/')).isEmpty = false := by
    rw [List.isEmpty_eq_false_iff]
    intro nothing
    refine rstripSlash_ne_nil other ?_
    rw [rstripSlash, List.rdropWhile, nothing, List.reverse_nil]
  rw [rstripSlash, rstripSlash, List.rdropWhile, List.rdropWhile, List.reverse_append,
    List.dropWhile_append, left, if_neg Bool.false_ne_true, List.reverse_append,
    List.reverse_reverse]

/-- A host is in front of the slashes at the end, so removing them keeps it. -/
theorem hostOf_slashes (s : Text) {slashes : Text} (onlySlashes : ∀ c ∈ slashes, c = '/') :
    hostOf (s ++ slashes) = hostOf s := by
  have ends := takeWhile_slashes onlySlashes
  rw [hostOf, hostOf, List.takeWhile_append, ends, List.append_nil]
  split
  · rename_i whole
    rw [List.takeWhile_prefix _ |>.eq_of_length whole]
  · rfl

/-- Where there is a host, there is something other than slashes. -/
theorem hostOf_solid (host : hostOf rest ≠ []) : ∃ c ∈ rest, c ≠ '/' := by
  by_contra none
  push Not at none
  refine host ?_
  rw [hostOf, takeWhile_slashes none]
  rfl

/-- The URL of a host name begins with a host exactly if the name does. A name of slashes alone
loses even the slashes of the scheme. -/
theorem host_of_url (rest : Text) :
    (∃ kept, rstripSlash ("https://".toList ++ rest) = "https://".toList ++ kept ∧
      hostOf kept ≠ []) ↔ hostOf rest ≠ [] := by
  constructor
  · rintro ⟨kept, isKept, host⟩
    obtain ⟨slashes, parts, onlySlashes⟩ := rstripSlash_split ("https://".toList ++ rest)
    rw [isKept, List.append_assoc] at parts
    rwa [List.append_cancel_left parts, hostOf_slashes _ onlySlashes]
  · intro host
    obtain ⟨slashes, parts, onlySlashes⟩ := rstripSlash_split rest
    refine ⟨rstripSlash rest, rstripSlash_append _ (hostOf_solid host), ?_⟩
    rwa [parts, hostOf_slashes _ onlySlashes] at host

/-- A value with content is not blank, and has a character that is no slash. -/
theorem candidate_of_content {value : Option Text} (content : hasContent value = true) :
    ∃ url, stripBaseUrlCandidate value = some url ∧ ∃ c ∈ url, c ≠ '/' := by
  obtain ⟨given, rfl, some⟩ := (Option.any_eq_true _ _).mp content
  obtain ⟨c, listed, solid⟩ := List.any_eq_true.mp some
  obtain ⟨notBlank, notSlash⟩ : isSpace c = false ∧ c ≠ '/' := by simpa using solid
  have kept : c ∈ strip given := by
    obtain ⟨leading, trailing, parts, before, after⟩ := strip_split given
    rw [parts, List.mem_append, List.mem_append] at listed
    rcases listed with (front | inside) | back
    · rw [List.all_eq_true.mp before c front] at notBlank
      cases notBlank
    · exact inside
    · rw [List.all_eq_true.mp after c back] at notBlank
      cases notBlank
  refine ⟨strip given, ?_, c, kept, notSlash⟩
  rw [stripBaseUrlCandidate, Option.bind_some, if_neg (List.ne_nil_of_mem kept)]

/-- A source that is set has a value, and one with something other than slashes. -/
theorem isSet_candidate (listed : source ∈ urlSources environ configBaseUrl)
    (isSet : source.isSet = true) :
    ∃ url, source.candidate = some url ∧ ∃ c ∈ url, c ≠ '/' := by
  have hosted (name : Text) : ∃ c ∈ "https://".toList ++ name, c ≠ '/' :=
    ⟨'h', List.mem_append_left _ (by decide), by decide⟩
  simp only [urlSources, List.mem_cons, List.not_mem_nil, or_false] at listed
  rcases listed with rfl | rfl | rfl | rfl | rfl | rfl
  · exact candidate_of_content isSet
  · exact candidate_of_content isSet
  · exact candidate_of_content isSet
  · obtain ⟨named, suffixed⟩ := Bool.and_eq_true_iff.mp isSet
    obtain ⟨app, isApp, -⟩ := candidate_of_content named
    obtain ⟨suffix, isSuffix, -⟩ := candidate_of_content suffixed
    refine ⟨_, ?_, hosted (app ++ '.' :: suffix.dropWhile (· == '.'))⟩
    change containerAppUrl environ = _
    rw [containerAppUrl, isApp, Option.bind_some, isSuffix, Option.map_some, List.append_assoc]
  · obtain ⟨host, isHost, -⟩ := candidate_of_content isSet
    refine ⟨_, ?_, hosted host⟩
    change appServiceUrl environ = _
    rw [appServiceUrl, isHost, Option.map_some]
  · exact candidate_of_content isSet

/-- The sources of Azure give host names, with the scheme in front of them. -/
theorem azure_candidate (listed : source ∈ urlSources environ configBaseUrl)
    (azure : source.label = "azure".toList) {url : Text} (isUrl : source.candidate = some url) :
    ∃ rest, url = "https://".toList ++ rest := by
  simp only [urlSources, List.mem_cons, List.not_mem_nil, or_false] at listed
  have labels : "environment".toList ≠ "azure".toList ∧ "config".toList ≠ "azure".toList ∧
      "google".toList ≠ "azure".toList ∧ "aws".toList ≠ "azure".toList := by decide
  rcases listed with rfl | rfl | rfl | rfl | rfl | rfl
  · exact absurd azure labels.1
  · exact absurd azure labels.2.1
  · exact absurd azure labels.2.2.1
  · obtain ⟨app, -, joined⟩ := Option.bind_eq_some_iff.mp isUrl
    obtain ⟨suffix, -, rfl⟩ := Option.map_eq_some_iff.mp joined
    exact ⟨_, List.append_assoc _ _ _⟩
  · obtain ⟨host, -, rfl⟩ := Option.map_eq_some_iff.mp isUrl
    exact ⟨host, rfl⟩
  · exact absurd azure labels.2.2.2

/-- The first source that is not blank is the first that is set, if it is set itself, since the
blank ones before it are not. -/
theorem first_set_of_given
    (first : (urlSources environ configBaseUrl).find? (fun source => source.candidate.isSome) =
      some source) (isSet : source.isSet = true) :
    (urlSources environ configBaseUrl).find? UrlSource.isSet = some source := by
  obtain ⟨-, before, after, parts, blank⟩ := List.find?_eq_some_iff_append.mp first
  refine List.find?_eq_some_iff_append.mpr ⟨isSet, before, after, parts, ?_⟩
  intro other isBefore
  have notGiven := blank other isBefore
  rw [Bool.not_eq_true'] at notGiven ⊢
  rw [← Bool.not_eq_true]
  intro otherSet
  have listed : other ∈ urlSources environ configBaseUrl :=
    parts ▸ List.mem_append_left _ isBefore
  obtain ⟨url, isUrl, -⟩ := isSet_candidate listed otherSet
  rw [isUrl] at notGiven
  cases notGiven

/-- Where no source is given, none is set. -/
theorem none_set_of_none_given
    (none : (urlSources environ configBaseUrl).find? (fun source => source.candidate.isSome) =
      none) : (urlSources environ configBaseUrl).find? UrlSource.isSet = Option.none := by
  rw [List.find?_eq_none] at none ⊢
  intro source listed isSet
  obtain ⟨url, isUrl, -⟩ := isSet_candidate listed isSet
  exact none source listed (by rw [isUrl, Option.isSome_some])

/-- What a source that is given results in: its value without the slashes at the end, and its
label. -/
theorem result_eq_some {url label : Text} : source.result = some (url, label) ↔
    (∃ given, source.candidate = some given ∧ rstripSlash given = url) ∧ source.label = label := by
  rw [UrlSource.result, Option.map_eq_some_iff]
  simp only [Prod.mk.injEq]
  constructor
  · rintro ⟨given, isGiven, isUrl, isLabel⟩
    exact ⟨⟨given, isGiven, isUrl⟩, isLabel⟩
  · rintro ⟨⟨given, isGiven, isUrl⟩, isLabel⟩
    exact ⟨given, isGiven, isUrl, isLabel⟩

/-- Where nothing is resolved, no source is set, as a source that is set is not blank. -/
theorem none_set_of_unresolved (refused : resolveBaseUrl environ configBaseUrl = none) :
    (urlSources environ configBaseUrl).find? UrlSource.isSet = none := by
  apply none_set_of_none_given
  cases first : (urlSources environ configBaseUrl).find?
      (fun source => source.candidate.isSome) with
  | none => rfl
  | some source =>
    rw [resolveBaseUrl_eq, first, Option.bind_some, ← Option.not_isSome_iff_eq_none,
      result_isSome] at refused
    exact absurd (List.find?_some first) refused

/-- What the first source that is set gives is not empty. -/
theorem first_set_ne_nil {url label : Text}
    (ofFirst : ((urlSources environ configBaseUrl).find? UrlSource.isSet).bind
      UrlSource.result = some (url, label)) : url ≠ [] := by
  obtain ⟨source, first, result⟩ := Option.bind_eq_some_iff.mp ofFirst
  obtain ⟨⟨given, isGiven, rfl⟩, -⟩ := result_eq_some.mp result
  obtain ⟨given', isGiven', solid⟩ := isSet_candidate (List.mem_of_find?_eq_some first)
    (List.find?_some first)
  obtain rfl := Option.some.inj (isGiven.symm.trans isGiven')
  exact rstripSlash_ne_nil solid

/-- The base URL is rightly resolved exactly if the first source that is not blank is set, or gives
the URL of the first one that is, and a host name begins with a host.

Proof: the code takes the first source that is not blank. If the URL is right, it is that of the
first source that is set, and a host name shows the host that the property asks for. Conversely the
URL taken is that of the first source that is set, which has something other than slashes, so it is
neither empty nor ends in one. -/
theorem rightly_resolved_iff (environ : Environ) (configBaseUrl : Option Text) :
    RightlyResolved environ configBaseUrl ↔ FirstIsSet environ configBaseUrl := by
  constructor
  · intro resolved source first
    have notBlank := List.find?_some first
    obtain ⟨given, isGiven⟩ := Option.isSome_iff_exists.mp notBlank
    have result : source.result = some (rstripSlash given, source.label) :=
      result_eq_some.mpr ⟨⟨given, isGiven, rfl⟩, rfl⟩
    have isResolved : resolveBaseUrl environ configBaseUrl =
        some (rstripSlash given, source.label) := by
      rw [resolveBaseUrl_eq, first, Option.bind_some, result]
    obtain ⟨ofFirst, -, -, hosted⟩ := resolved.returned _ _ isResolved
    refine ⟨.inr (ofFirst.trans result.symm), ?_⟩
    intro azure rest isName
    obtain rfl := Option.some.inj (isGiven.symm.trans isName)
    exact (host_of_url rest).mp (hosted azure)
  · intro firstIsSet
    refine ⟨none_set_of_unresolved, ?_⟩
    intro url label isResolved
    rw [resolveBaseUrl_eq] at isResolved
    obtain ⟨source, first, result⟩ := Option.bind_eq_some_iff.mp isResolved
    obtain ⟨settled, hosted⟩ := firstIsSet source first
    have ofFirst : ((urlSources environ configBaseUrl).find? UrlSource.isSet).bind
        UrlSource.result = some (url, label) := by
      rcases settled with isSet | same
      · rw [first_set_of_given first isSet, Option.bind_some, result]
      · rw [same, result]
    obtain ⟨⟨given, isGiven, rfl⟩, rfl⟩ := result_eq_some.mp result
    refine ⟨ofFirst, first_set_ne_nil ofFirst, rstripSlash_last given, ?_⟩
    intro azure
    obtain ⟨rest, rfl⟩ := azure_candidate (List.mem_of_find?_eq_some first) azure isGiven
    exact (host_of_url rest).mpr (hosted azure rest isGiven)

section Example

/-- An environment with one variable. -/
def oneVariable (name value : String) : Environ := fun asked =>
  if asked = name.toList then some value.toList else none

/-- A single slash hides the configured URL and gives an empty one, and a host name of a slash gives
half a scheme. -/
theorem slash_gives_nothing :
    (resolveBaseUrl (oneVariable "THAUM_BASE_URL" "/") (some "https://thaum.example".toList) =
        some ([], "environment".toList) ∧
      ¬ RightlyResolved (oneVariable "THAUM_BASE_URL" "/")
        (some "https://thaum.example".toList)) ∧
    (resolveBaseUrl (oneVariable "WEBSITE_HOSTNAME" "/") none =
        some ("https:".toList, "azure".toList) ∧
      ¬ RightlyResolved (oneVariable "WEBSITE_HOSTNAME" "/") none) := by
  have environment : resolveBaseUrl (oneVariable "THAUM_BASE_URL" "/")
      (some "https://thaum.example".toList) = some ([], "environment".toList) := by
    decide
  have hostName : resolveBaseUrl (oneVariable "WEBSITE_HOSTNAME" "/") none =
      some ("https:".toList, "azure".toList) := by
    decide
  refine ⟨⟨environment, fun resolved => ?_⟩, hostName, fun resolved => ?_⟩
  · exact (resolved.returned _ _ environment).2.1 rfl
  · have ofFirst := (resolved.returned _ _ hostName).1
    exact absurd ofFirst (by decide)

end Example

end Thaum.Settings
