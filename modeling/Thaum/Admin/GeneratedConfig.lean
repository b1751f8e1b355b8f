import Thaum.Admin.ClientRequest
import Thaum.Library.PyIni
import Thaum.Library.UrlPath
import Thaum.Settings.Secrets

/-!
# Generated configurations of the log-level endpoint

`generate_admin_log_config` draws a route and a key, writes the settings of the server and
a profile for the client, which names either the URL to post to or the base URL and the
route. The client reads the profile with `configparser`, which hands out the names in lower
case and fills in references, and works out where it posts and which route it signs.

What is generated fits together: the server serves the route, the client posts under it
with either profile, and the request it builds passes the checks of the endpoint.
-/

namespace Thaum.AdminLogLevel

open PyText PyUrl PyIni PyDatetime
open PyBytes (b64urlNopad padding urlsafeB64decode)
open Thaum.Settings (rstripSlash rstripSlash_split rstripSlash_rstripSlash)

namespace Generator

/-- The characters of a drawn route. -/
def alphabet : Text := "ABCDEFGHIJKLMNOPQRSTUVWXYZabcdefghijklmnopqrstuvwxyz0123456789_-".toList

/-- The characters that `_new_route_id` draws, as many as it is asked for. -/
abbrev Draws := List { c : Char // c ∈ alphabet }

/-- `_new_route_id`. -/
def newRouteId (draws : Draws) : Text := draws.map Subtype.val

/-- The bytes of `secrets.token_bytes(32)`. -/
abbrev SecretBytes := { bytes : Bytes // bytes.length = 32 }

/-- The command line of the generator. -/
structure Args where
  baseUrl : Text
  routeId : Option Text
  secretFile : Option Text
  profilePostUrl : Bool

variable (args : Args) (draws : Draws) (random : SecretBytes)

/-- The route of the command line, or a drawn one. -/
def routeId : Text := orElse (args.routeId.getD []) (newRouteId draws)

/-- The text of the key. -/
def secretB64u : Text := b64urlNopad random.val

/-- The reference to the secret in the settings of the server. -/
def secretRef : Text :=
  match args.secretFile with
  | none | some [] => secretB64u random
  | some path => "file:".toList ++ path

/-- The settings of the client's profile. -/
def profileOptions : List (Text × Text) :=
  if args.profilePostUrl then
    [("PostUrl".toList,
        rstripSlash args.baseUrl ++ '/' :: (routeId args draws ++ "/log-level".toList)),
      ("HmacSecretB64Url".toList, secretB64u random)]
  else
    [("BaseUrl".toList, rstripSlash args.baseUrl), ("RouteId".toList, routeId args draws),
      ("HmacSecretB64Url".toList, secretB64u random)]

/-- The text of the profile. -/
def profile : Text := written "thaum".toList (profileOptions args draws random)

/-- What the file of the secret holds, where one is asked for. -/
def secretFileText : Text := secretB64u random ++ ['\n']

/-- The server that is given the settings; `resolve` is `resolve_secret`, and its environment
has no secret. -/
def server (resolve : Text → Option Text) : ServerConfig where
  admin :=
    { routeId := routeId args draws
      hmacSecretB64url := resolve (strip (secretRef args random))
      clockSkewSeconds := 300 }
  secretVariable := []

end Generator

namespace Client

/-- `_read_profile` of an INI file, `none` where it raises. -/
def readProfile (text : Text) : Option (List (Text × Text)) :=
  (read text).bind fun sections =>
    if hasSection sections "thaum".toList then items sections "thaum".toList else some []

/-- The command line, with the text of the profile. -/
structure Args where
  loglevel : Text
  profile : Option Text
  secret : Option Text
  baseUrl : Option Text
  routeId : Option Text
  postUrl : Option Text

/-- How `main` ends before it has a request. -/
inductive MainError where
  | profileUnread | secretMissing | targetMissing | routeIdInvalid | postUrlPath | urlUnread
  | notHttps : (label : Text) → MainError
  | noHostname : (label : Text) → MainError
  | build : BuildError → MainError
deriving DecidableEq

/-- `args.name or cfg.get("Name") or cfg.get("name", "")`. -/
def setting (argument : Option Text) (cfg : List (Text × Text)) (name : Text) : Text :=
  orElse (argument.getD [])
    (orElse ((cfg.lookup name).getD []) ((cfg.lookup (lower name)).getD []))

/-- `_ROUTE_RE.match`, which allows a newline at the end. -/
def routeMatches (routeId : Text) : Bool :=
  routeIdWellFormed routeId ||
    (routeId.getLast? == some '\n' && routeIdWellFormed routeId.dropLast)

/-- `_require_https_url`. -/
def requireHttpsUrl (netlocAllowed : Text → Bool) (url label : Text) : Except MainError Text :=
  let raw := strip url
  match urlparse netlocAllowed raw with
  | none => .error .urlUnread
  | some parsed =>
    if lower parsed.scheme ≠ "https".toList then .error (.notHttps label)
    else if parsed.hostname = [] then .error (.noHostname label)
    else .ok raw

/-- Where `main` posts to, the route it signs, and its secret. -/
def target (netlocAllowed : Text → Bool) (args : Args) (cfg : List (Text × Text)) :
    Except MainError (Text × Text × Text) :=
  let baseUrl := setting args.baseUrl cfg "BaseUrl".toList
  let routeId := setting args.routeId cfg "RouteId".toList
  let secret := setting args.secret cfg "HmacSecretB64Url".toList
  let postUrl := setting args.postUrl cfg "PostUrl".toList
  if secret = [] then .error .secretMissing
  else if postUrl ≠ [] then
    match requireHttpsUrl netlocAllowed postUrl "PostUrl".toList with
    | .error ended => .error ended
    | .ok finalUrl =>
      match extractRouteFromPostUrl (pathOf finalUrl) with
      | none => .error .postUrlPath
      | some route => .ok (finalUrl, route, secret)
  else if baseUrl = [] ∨ routeId = [] then .error .targetMissing
  else if !routeMatches routeId then .error .routeIdInvalid
  else
    match requireHttpsUrl netlocAllowed baseUrl "BaseUrl".toList with
    | .error ended => .error ended
    | .ok base =>
      .ok (rstripSlash base ++ '/' :: (routeId ++ "/log-level".toList), routeId, secret)

/-- The settings that `main` goes by, `none` where reading the profile raises. -/
def settings (args : Args) : Option (List (Text × Text)) :=
  match args.profile with
  | none => some []
  | some text => readProfile text

/-- `main`, up to the URL and the request it sends. -/
def main (netlocAllowed : Text → Bool) (mac : Mac) (args : Args) (random : TokenBytes)
    (epoch : Int) : Except MainError (Text × SignedRequest) :=
  match settings args with
  | none => .error .profileUnread
  | some cfg =>
    match target netlocAllowed args cfg with
    | .error ended => .error ended
    | .ok (finalUrl, route, secret) =>
      match buildRequest mac route secret args.loglevel random epoch with
      | .error raised => .error (.build raised)
      | .ok request => .ok (finalUrl, request)

end Client

section Characters

variable {c : Char} {s : Text}

/-- The characters of routes and secrets. -/
def idChar (c : Char) : Bool := c.isAlphanum || c == '_' || c == '-'

/-- The characters of routes and secrets are ASCII. -/
theorem idChar_small (isId : idChar c = true) : c.toNat < 128 := by
  simp only [idChar, Bool.or_eq_true, beq_iff_eq] at isId
  rcases isId with (letter | rfl) | rfl
  · rcases Bool.or_eq_true_iff.mp letter with alpha | digit
    · rcases Bool.or_eq_true_iff.mp alpha with upper | lower
      · have most : c.toNat ≤ 90 := (of_decide_eq_true upper).2
        omega
      · have most : c.toNat ≤ 122 := (Bool.and_eq_true_iff.mp lower).2 |> of_decide_eq_true
        omega
    · have most : c.toNat ≤ 57 := (Bool.and_eq_true_iff.mp digit).2 |> of_decide_eq_true
      omega
  · decide
  · decide

/-- Such a character is no blank and has no role in a URL or a configuration file. All that is said
below about how generated texts are read comes down to this. -/
theorem idChar_plain (isId : idChar c = true) :
    isSpace c = false ∧ isDropped c = false ∧
      c ∉ ['/', '?', '#', '%', '\n', '=', ':', ';', '['] := by
  have each : ∀ n < 128, idChar (Char.ofNat n) = true →
      isSpace (Char.ofNat n) = false ∧ isDropped (Char.ofNat n) = false ∧
        Char.ofNat n ∉ ['/', '?', '#', '%', '\n', '=', ':', ';', '['] := by
    decide
  have small := idChar_small isId
  rw [← Char.ofNat_toNat c] at isId ⊢
  exact each c.toNat small isId

/-- A text of such characters has none of those that play a role. -/
theorem idChars_without (ids : ∀ c ∈ s, idChar c = true)
    (role : c ∈ ['/', '?', '#', '%', '\n', '=', ':', ';', '[']) : c ∉ s := fun listed =>
  (idChar_plain (ids c listed)).2.2 role

/-- A text of such characters has nothing to trim. -/
theorem idChars_trimmed (ids : ∀ c ∈ s, idChar c = true) : Trimmed s := by
  apply trimmed_of_ends
  · intro c isHead
    exact (idChar_plain (ids c (List.mem_of_head? isHead))).1
  · intro c isLast
    exact (idChar_plain (ids c (List.mem_of_getLast? isLast))).1

/-- A well-formed route is a text of such characters, and not empty. -/
theorem route_ids (wellFormed : routeIdWellFormed s = true) :
    s ≠ [] ∧ ∀ c ∈ s, idChar c = true := by
  rw [routeIdWellFormed, Bool.and_eq_true, decide_eq_true_eq, List.all_eq_true] at wellFormed
  refine ⟨?_, wellFormed.2⟩
  rintro rfl
  simp at wellFormed

/-- A drawn route is made of them. -/
theorem alphabet_ids : ∀ c ∈ Generator.alphabet, idChar c = true := by decide

/-- So are the characters of base64, in its variant for URLs. -/
theorem letter_ids {n : Nat} (small : n < 64) : idChar (PyBytes.letter n) = true := by
  have each : ∀ n < 64, idChar (PyBytes.letter n) = true := by decide
  exact each n small

/-- Base64 text has such characters, and padding. -/
theorem urlsafeB64encode_ids (bytes : Bytes) :
    ∀ c ∈ PyBytes.urlsafeB64encode bytes, idChar c = true ∨ c = '=' := by
  induction bytes using PyBytes.urlsafeB64encode.induct with
  | case1 => simp [PyBytes.urlsafeB64encode]
  | case2 a =>
    have bound := a.toNat_lt
    simp [PyBytes.urlsafeB64encode, letter_ids (show a.toNat / 4 < 64 by omega),
      letter_ids (show a.toNat % 4 * 16 < 64 by omega)]
  | case3 a b =>
    have bound := a.toNat_lt
    have bound' := b.toNat_lt
    simp [PyBytes.urlsafeB64encode, letter_ids (show a.toNat / 4 < 64 by omega),
      letter_ids (show a.toNat % 4 * 16 + b.toNat / 16 < 64 by omega),
      letter_ids (show b.toNat % 16 * 4 < 64 by omega)]
  | case4 a b c rest inductionHypothesis =>
    have bound := a.toNat_lt
    have bound' := b.toNat_lt
    have bound'' := c.toNat_lt
    simpa [PyBytes.urlsafeB64encode, letter_ids (show a.toNat / 4 < 64 by omega),
      letter_ids (show a.toNat % 4 * 16 + b.toNat / 16 < 64 by omega),
      letter_ids (show b.toNat % 16 * 4 + c.toNat / 64 < 64 by omega),
      letter_ids (show c.toNat % 64 < 64 by omega)] using inductionHypothesis

/-- A generated secret is made of the characters of routes, and decodes to its bytes. The padding is
taken off when it is written and put back when it is read. -/
theorem secret_ids (random : Generator.SecretBytes) :
    Generator.secretB64u random ≠ [] ∧ (∀ c ∈ Generator.secretB64u random, idChar c = true) ∧
      Client.b64uDecode (Generator.secretB64u random) = some random.val := by
  have decoded := PyBytes.urlsafeB64decode_nopad random.val
  refine ⟨?_, ?_, decoded⟩
  · intro nothing
    have blank : b64urlNopad random.val = [] := nothing
    rw [blank] at decoded
    have none : random.val = [] := (Option.some.inj decoded).symm
    have length := random.property
    rw [none] at length
    cases length
  · intro c listed
    have unpadded := ((PyBytes.b64urlNopad_split random.val).2 c listed).1
    have encoded : c ∈ PyBytes.urlsafeB64encode random.val :=
      (List.rdropWhile_prefix _ _).subset listed
    exact (urlsafeB64encode_ids random.val c encoded).resolve_right unpadded

end Characters

section Urls

variable {netlocAllowed : Text → Bool} {base more : Text} {parsed : Url}

/-- A URL with a network location is not bare, and its slashes follow a scheme, so text that is put
behind a slash goes to its path. -/
theorem not_bare (isParsed : urlparse netlocAllowed base = some parsed)
    (located : parsed.netloc ≠ []) : ¬ Bare base := by
  rw [(urlparse_some.mp isParsed).2.1] at located
  rintro (nothing | slash)
  · exact located (by rw [nothing]; rfl)
  · exact located (by rw [slash]; rfl)

/-- What stands behind a slash is no part of a network location that is there already. -/
theorem netlocOf_append_slash {rest : Text} (located : netlocOf rest ≠ []) (more : Text) :
    netlocOf (rest ++ '/' :: more) = netlocOf rest := by
  rw [netlocOf] at located
  split at located
  · rename_i starts
    obtain ⟨rest, rfl⟩ := List.isPrefixOf_iff_prefix.mp starts
    have kept : startsWith ("//".toList ++ rest ++ '/' :: more) "//".toList = true :=
      List.isPrefixOf_iff_prefix.mpr ⟨rest ++ '/' :: more, (List.append_assoc _ _ _).symm⟩
    rw [netlocOf, netlocOf, if_pos kept, if_pos starts]
    change (rest ++ '/' :: more).takeWhile _ = rest.takeWhile _
    rw [List.takeWhile_append]
    split
    · rename_i whole
      rw [List.takeWhile_cons_of_neg (by decide), List.append_nil]
      exact ((List.takeWhile_prefix _).eq_of_length whole).symm
    · rfl
  · exact absurd rfl located

/-- What is put under a URL does not change its scheme and network location. -/
theorem urlparse_under (isParsed : urlparse netlocAllowed base = some parsed)
    (schemed : parsed.scheme ≠ []) (located : parsed.netloc ≠ []) (more : Text) :
    urlparse netlocAllowed (base ++ '/' :: more) = some parsed := by
  obtain ⟨scheme, netloc, allowed⟩ := urlparse_some.mp isParsed
  have colon : ':' ∈ cleaned base := by
    by_contra absent
    rw [splitScheme_plain absent] at scheme
    exact schemed scheme
  rw [netloc] at located
  refine urlparse_some.mpr ⟨?_, ?_, allowed⟩
  · rw [cleaned_append_slash, splitScheme_append colon]
    exact scheme
  · rw [cleaned_append_slash, splitScheme_append_slash, netlocOf_append_slash located]
    exact netloc

/-- What is put under a URL without a query goes to its path as it is, if nothing of it is dropped
or starts a query. -/
theorem pathOf_under (notBare : ¬ Bare base) (unqueried : hasQuery base = false)
    (plain : ∀ c ∈ more, isDropped c = false ∧ c ≠ '?' ∧ c ≠ '#') :
    pathOf (base ++ '/' :: more) = pathOf base ++ '/' :: more := by
  have kept : more.filter (fun c => !isDropped c) = more :=
    List.filter_eq_self.mpr fun c listed => by simp [(plain c listed).1]
  have whole : cutQuery ('/' :: more) = '/' :: more := by
    apply cutQuery_whole
    intro c listed
    rcases List.mem_cons.mp listed with rfl | listed
    · decide
    · simp [(plain c listed).2]
  have alone : cutQuery (pathOnwards base) = pathOnwards base :=
    cutQuery_whole fun c listed => by
      simpa using List.any_eq_false.mp unqueried c listed
  rw [pathOf, pathOf, pathOnwards_append_slash notBare, kept, cutQuery_plain _ unqueried, whole,
    alone]

/-- The base URL that a configuration is generated for. -/
structure BaseUrl (netlocAllowed : Text → Bool) (base : Text) : Prop where
  trimmed : Trimmed (rstripSlash base)
  https : ∃ parsed, urlparse netlocAllowed base = some parsed ∧
    lower parsed.scheme = "https".toList ∧ parsed.hostname ≠ []
  unqueried : hasQuery (rstripSlash base) = false
  literal : '%' ∉ base
  oneLine : '\n' ∉ base ∧ '\r' ∉ base

/-- The base URL of a configuration is an https URL with a host, also without the slashes at its
end. -/
theorem BaseUrl.read_base (accepted : BaseUrl netlocAllowed base) :
    ∃ parsed, urlparse netlocAllowed (rstripSlash base) = some parsed ∧
      lower parsed.scheme = "https".toList ∧ parsed.hostname ≠ [] ∧ parsed.netloc ≠ [] ∧
        parsed.scheme ≠ [] := by
  obtain ⟨parsed, isParsed, https, hosted⟩ := accepted.https
  have located : parsed.netloc ≠ [] := by
    intro nothing
    rw [Url.hostname, nothing] at hosted
    exact hosted rfl
  obtain ⟨slashes, parts, onlySlashes⟩ := rstripSlash_split base
  rw [parts] at isParsed
  refine ⟨parsed, urlparse_slashes onlySlashes isParsed located, https, hosted, located, ?_⟩
  intro nothing
  rw [nothing] at https
  exact absurd https (by decide)

end Urls

section Profiles

variable {netlocAllowed : Text → Bool} {args : Generator.Args} {draws : Generator.Draws}
  {random : Generator.SecretBytes} {name value : Text} {options : List (Text × Text)}

/-- The names that a profile has settings under. -/
def settingNames : List Text :=
  ["PostUrl".toList, "BaseUrl".toList, "RouteId".toList, "HmacSecretB64Url".toList]

/-- A setting that is trimmed, of one line and without references can stand in a profile as it
is. -/
theorem plain_setting (listed : name ∈ settingNames) (trimmed : Trimmed value)
    (oneLine : '\n' ∉ value) (literal : '%' ∉ value) : Plain (name, value) := by
  have each : ∀ name ∈ settingNames, name ≠ [] ∧ ∀ c ∈ name, idChar c = true := by decide
  obtain ⟨named, ids⟩ := each name listed
  refine ⟨named, idChars_trimmed ids, ?_, ?_, trimmed, oneLine, literal⟩
  · intro c inName
    have plain := (idChar_plain (ids c inName)).2.2
    constructor
    · rw [PyIni.isDelimiter, Bool.or_eq_false_iff, beq_eq_false_iff_ne, beq_eq_false_iff_ne]
      exact ⟨fun same => plain (by simp [same]), fun same => plain (by simp [same])⟩
    · exact fun same => plain (by simp [same])
  · intro c isHead
    have plain := (idChar_plain (ids c (List.mem_of_mem_head? isHead))).2.2
    exact ⟨fun same => plain (by simp [same]), fun same => plain (by simp [same]),
      fun same => plain (by simp [same])⟩

/-- A setting of the characters of routes is such a setting. -/
theorem plain_ids (listed : name ∈ settingNames) (ids : ∀ c ∈ value, idChar c = true) :
    Plain (name, value) :=
  plain_setting listed (idChars_trimmed ids) (idChars_without ids (by decide))
    (idChars_without ids (by decide))

/-- Where a generated route is reached. -/
def endpointUrl (base route : Text) : Text :=
  rstripSlash base ++ '/' :: (route ++ "/log-level".toList)

/-- What a base URL and a route make of the URL of the endpoint: an https URL with a host, whose
path is that of the base with the route under it, and which can stand in a profile. -/
theorem endpointUrl_read (accepted : BaseUrl netlocAllowed args.baseUrl) {route : Text}
    (ids : ∀ c ∈ route, idChar c = true) :
    (∃ parsed, urlparse netlocAllowed (endpointUrl args.baseUrl route) = some parsed ∧
      lower parsed.scheme = "https".toList ∧ parsed.hostname ≠ []) ∧
    pathOf (endpointUrl args.baseUrl route) =
      pathOf (rstripSlash args.baseUrl) ++ '/' :: (route ++ "/log-level".toList) ∧
    Trimmed (endpointUrl args.baseUrl route) ∧ '\n' ∉ endpointUrl args.baseUrl route ∧
      '%' ∉ endpointUrl args.baseUrl route := by
  obtain ⟨parsed, isParsed, https, hosted, located, schemed⟩ := accepted.read_base
  have tail : ∀ c ∈ "/log-level".toList, isDropped c = false ∧ c ≠ '?' ∧ c ≠ '#' ∧ c ≠ '\n' ∧
      c ≠ '%' := by decide
  have without (c : Char) (role : c ∈ ['/', '?', '#', '%', '\n', '=', ':', ';', '[']) : c ∉ route :=
    idChars_without ids role
  have inBase {c : Char} (listed : c ∈ rstripSlash args.baseUrl) : c ∈ args.baseUrl :=
    (List.rdropWhile_prefix _ _).subset listed
  refine ⟨⟨parsed, urlparse_under isParsed schemed located _, https, hosted⟩,
    pathOf_under (not_bare isParsed located) accepted.unqueried ?_, ?_, ?_, ?_⟩
  · intro c listed
    rcases List.mem_append.mp listed with inRoute | inTail
    · have plain := idChar_plain (ids c inRoute)
      refine ⟨plain.2.1, ?_, ?_⟩
      · rintro rfl
        exact without _ (by decide) inRoute
      · rintro rfl
        exact without _ (by decide) inRoute
    · exact ⟨(tail c inTail).1, (tail c inTail).2.1, (tail c inTail).2.2.1⟩
  · apply trimmed_of_ends
    · intro c isHead
      have solid := (strip_ends (rstripSlash args.baseUrl)).1
      rw [show strip (rstripSlash args.baseUrl) = rstripSlash args.baseUrl from accepted.trimmed]
        at solid
      cases isBase : rstripSlash args.baseUrl with
      | nil =>
        rw [isBase] at isParsed
        have nothing := (urlparse_some.mp isParsed).2.1
        exact absurd nothing located
      | cons first others =>
        rw [endpointUrl, isBase] at isHead
        rw [isBase] at solid
        exact solid c isHead
    · intro c isLast
      have ends : endpointUrl args.baseUrl route =
          (rstripSlash args.baseUrl ++ '/' :: (route ++ "/log-leve".toList)) ++ ['l'] := by
        simp [endpointUrl]
      rw [ends, List.getLast?_concat] at isLast
      exact Option.some.inj isLast ▸ (by decide)
  · intro listed
    simp only [endpointUrl, List.mem_append, List.mem_cons] at listed
    rcases listed with inBase' | slash | inRoute | inTail
    · exact accepted.oneLine.1 (inBase inBase')
    · exact absurd slash (by decide)
    · exact without _ (by decide) inRoute
    · exact (tail _ inTail).2.2.2.1 rfl
  · intro listed
    simp only [endpointUrl, List.mem_append, List.mem_cons] at listed
    rcases listed with inBase' | slash | inRoute | inTail
    · exact accepted.literal (inBase inBase')
    · exact absurd slash (by decide)
    · exact without _ (by decide) inRoute
    · exact (tail _ inTail).2.2.2.2 rfl

/-- Both profiles hold settings that stand on a line each, under names that differ in lower case
too. -/
theorem profileOptions_plain (accepted : BaseUrl netlocAllowed args.baseUrl)
    (wellFormed : routeIdWellFormed (Generator.routeId args draws) = true) :
    (∀ option ∈ Generator.profileOptions args draws random, Plain option) ∧
      ((Generator.profileOptions args draws random).map fun option => lower option.1).Nodup := by
  obtain ⟨_, ids⟩ := route_ids wellFormed
  obtain ⟨_, secretIds, _⟩ := secret_ids random
  obtain ⟨_, _, urlTrimmed, urlLine, urlLiteral⟩ := endpointUrl_read accepted ids
  have inBase {c : Char} (listed : c ∈ rstripSlash args.baseUrl) : c ∈ args.baseUrl :=
    (List.rdropWhile_prefix _ _).subset listed
  have isSecret : Plain ("HmacSecretB64Url".toList, Generator.secretB64u random) :=
    plain_ids (by decide) secretIds
  rw [Generator.profileOptions]
  split
  · have isUrl : Plain ("PostUrl".toList,
        endpointUrl args.baseUrl (Generator.routeId args draws)) :=
      plain_setting (by decide) urlTrimmed urlLine urlLiteral
    refine ⟨List.forall_mem_cons.mpr ⟨isUrl, List.forall_mem_cons.mpr ⟨isSecret, by simp⟩⟩, ?_⟩
    have distinct : (["PostUrl".toList, "HmacSecretB64Url".toList].map lower).Nodup := by decide
    exact distinct
  · have isBase : Plain ("BaseUrl".toList, rstripSlash args.baseUrl) :=
      plain_setting (by decide) accepted.trimmed (fun listed => accepted.oneLine.1 (inBase listed))
        fun listed => accepted.literal (inBase listed)
    have isRoute : Plain ("RouteId".toList, Generator.routeId args draws) :=
      plain_ids (by decide) ids
    refine ⟨List.forall_mem_cons.mpr ⟨isBase, List.forall_mem_cons.mpr ⟨isRoute,
      List.forall_mem_cons.mpr ⟨isSecret, by simp⟩⟩⟩, ?_⟩
    have distinct : (["BaseUrl".toList, "RouteId".toList, "HmacSecretB64Url".toList].map
        lower).Nodup := by
      decide
    exact distinct

/-- The client reads the settings of the profile, under names in lower case. This is the round trip
of `configparser` for what the generator writes. -/
theorem readProfile_profile (accepted : BaseUrl netlocAllowed args.baseUrl)
    (wellFormed : routeIdWellFormed (Generator.routeId args draws) = true) :
    Client.readProfile (Generator.profile args draws random) =
      some ((Generator.profileOptions args draws random).map fun option =>
        (lower option.1, option.2)) := by
  obtain ⟨plain, distinct⟩ := profileOptions_plain accepted wellFormed
  have isRead : PyIni.read (Generator.profile args draws random) = _ :=
    read_written (by decide) (by decide) plain distinct
  have has (settings : List (Text × Text)) :
      hasSection [("thaum".toList, settings)] "thaum".toList = true := rfl
  rw [Client.readProfile, isRead, Option.bind_some, if_pos (has _)]
  exact items_written plain (by decide) distinct

/-- The client's command line with nothing but a profile. -/
def Client.Args.ofProfile (loglevel text : Text) : Client.Args where
  loglevel := loglevel
  profile := some text
  secret := none
  baseUrl := none
  routeId := none
  postUrl := none

/-- A trimmed https URL with a host is one that the client accepts. -/
theorem requireHttps_accepted {url label : Text} (trimmed : Trimmed url)
    (https : ∃ parsed, urlparse netlocAllowed url = some parsed ∧
      lower parsed.scheme = "https".toList ∧ parsed.hostname ≠ []) :
    Client.requireHttpsUrl netlocAllowed url label = .ok url := by
  obtain ⟨parsed, isParsed, isHttps, hosted⟩ := https
  have raw : strip url = url := trimmed
  simp [Client.requireHttpsUrl, raw, isParsed, isHttps, hosted]

/-- A setting that the profile has is read under its name in lower case, as the name itself is
looked for in vain. -/
theorem setting_profile {cfg : List (Text × Text)} (unnamed : cfg.lookup name = none) :
    Client.setting none cfg name = (cfg.lookup (lower name)).getD [] := by
  simp [Client.setting, unnamed, orElse]

/-- Either profile leads the client to the endpoint.

Proof: the profile is read back as its settings. With the URL in it, the client takes the route out
of its path; with the base URL and the route, it puts the same URL together. -/
theorem profile_target (accepted : BaseUrl netlocAllowed args.baseUrl)
    (wellFormed : routeIdWellFormed (Generator.routeId args draws) = true)
    (loglevel text : Text) :
    (Client.readProfile (Generator.profile args draws random)).map
        (Client.target netlocAllowed (.ofProfile loglevel text)) =
      some (.ok (endpointUrl args.baseUrl (Generator.routeId args draws),
        Generator.routeId args draws, Generator.secretB64u random)) := by
  obtain ⟨routed, ids⟩ := route_ids wellFormed
  obtain ⟨secretGiven, _, _⟩ := secret_ids random
  rw [readProfile_profile accepted wellFormed, Option.map_some, Generator.profileOptions]
  split
  · obtain ⟨https, path, urlTrimmed, _, _⟩ := endpointUrl_read accepted ids
    have urlGiven : endpointUrl args.baseUrl (Generator.routeId args draws) ≠ [] := by
      simp [endpointUrl]
    have route : Client.extractRouteFromPostUrl
        (pathOf (endpointUrl args.baseUrl (Generator.routeId args draws))) =
        some (Generator.routeId args draws) := by
      rw [path]
      exact extractRoute_path _ routed (idChars_without ids (by decide))
    change some (Client.target netlocAllowed _ [(_, endpointUrl _ _), _]) = _
    generalize endpointUrl args.baseUrl (Generator.routeId args draws) = url at *
    generalize Generator.secretB64u random = secret at *
    let cfg : List (Text × Text) :=
      [(lower "PostUrl".toList, url), (lower "HmacSecretB64Url".toList, secret)]
    have readUrl : Client.setting none cfg "PostUrl".toList = url := setting_profile rfl
    have readSecret : Client.setting none cfg "HmacSecretB64Url".toList = secret :=
      setting_profile rfl
    change some (Client.target netlocAllowed _ cfg) = _
    simp only [Client.target, Client.Args.ofProfile, readUrl, readSecret, secretGiven, urlGiven,
      if_false, if_true, ne_eq, not_false_eq_true, requireHttps_accepted urlTrimmed https, route]
  · obtain ⟨parsed, isParsed, isHttps, hosted, located, _⟩ := accepted.read_base
    have https : Client.requireHttpsUrl netlocAllowed (rstripSlash args.baseUrl)
        "BaseUrl".toList = .ok (rstripSlash args.baseUrl) :=
      requireHttps_accepted accepted.trimmed ⟨parsed, isParsed, isHttps, hosted⟩
    have baseGiven : rstripSlash args.baseUrl ≠ [] := by
      intro nothing
      rw [nothing] at isParsed
      exact located (urlparse_some.mp isParsed).2.1
    have again : rstripSlash (rstripSlash args.baseUrl) = rstripSlash args.baseUrl :=
      rstripSlash_rstripSlash _
    have routeMatches : Client.routeMatches (Generator.routeId args draws) = true := by
      rw [Client.routeMatches, wellFormed, Bool.true_or]
    rw [endpointUrl]
    generalize rstripSlash args.baseUrl = base at *
    generalize Generator.routeId args draws = route at *
    generalize Generator.secretB64u random = secret at *
    let cfg : List (Text × Text) := [(lower "BaseUrl".toList, base),
      (lower "RouteId".toList, route), (lower "HmacSecretB64Url".toList, secret)]
    have readBase : Client.setting none cfg "BaseUrl".toList = base := setting_profile rfl
    have readRoute : Client.setting none cfg "RouteId".toList = route := setting_profile rfl
    have readSecret : Client.setting none cfg "HmacSecretB64Url".toList = secret :=
      setting_profile rfl
    have noPostUrl : Client.setting none cfg "PostUrl".toList = [] := setting_profile rfl
    change some (Client.target netlocAllowed _ cfg) = _
    simp only [Client.target, Client.Args.ofProfile, readBase, readRoute, readSecret, noPostUrl,
      secretGiven, baseGiven, routed, or_self, routeMatches, https, again, Bool.not_true,
      Bool.false_eq_true, if_false, ne_eq, not_true_eq_false]

end Profiles

section Endpoint

variable {mac : Mac} {otherIso : Text → IsoTime} {runtime : Settings.Runtime}
  {netlocAllowed : Text → Bool} {args : Generator.Args} {draws : Generator.Draws}
  {random : Generator.SecretBytes}

/-- The file of the secret, where there is one, is read as it was written, but for the line
end. The settings hold the printed reference itself: its quoting in TOML, which the generator
writes and the TOML reader takes off again, is left out. -/
def SecretKept (runtime : Settings.Runtime) (args : Generator.Args)
    (random : Generator.SecretBytes) : Prop :=
  args.secretFile.getD [] ≠ [] →
    ∃ text, runtime.resolve (strip (Generator.secretRef args random)) = some text ∧
      strip text = strip (Generator.secretFileText random)

/-- What the settings refer to is the generated secret, in them or in its file. -/
theorem secretRef_resolved (kept : SecretKept runtime args random) :
    ∃ text, runtime.resolve (strip (Generator.secretRef args random)) = some text ∧
      strip text = Generator.secretB64u random := by
  obtain ⟨_, secretIds, _⟩ := secret_ids random
  have trimmed : strip (Generator.secretB64u random) = Generator.secretB64u random :=
    idChars_trimmed secretIds
  have noColon : ':' ∉ Generator.secretB64u random := fun listed =>
    absurd (secretIds _ listed) (by decide)
  have inSettings (noFile : Generator.secretRef args random = Generator.secretB64u random) :
      ∃ text, runtime.resolve (strip (Generator.secretRef args random)) = some text ∧
        strip text = Generator.secretB64u random := by
    rw [noFile, trimmed]
    exact ⟨_, Settings.noColon_plain noColon, trimmed⟩
  cases file : args.secretFile with
  | none => exact inSettings (by rw [Generator.secretRef, file])
  | some path =>
    cases path with
    | nil => exact inSettings (by rw [Generator.secretRef, file])
    | cons first rest =>
      obtain ⟨text, resolved, same⟩ := kept (by rw [file]; exact List.cons_ne_nil _ _)
      refine ⟨text, resolved, same.trans ?_⟩
      exact Trimmed.strip_append_blank trimmed (by decide)

/-- The endpoint has the key of the generated secret, as it decodes the text that the reference
leads to. -/
theorem server_key (kept : SecretKept runtime args random) :
    adminHmacSecretBytes (pythonHost mac otherIso)
      (Generator.server args draws random runtime.resolve) = some random.val := by
  obtain ⟨text, resolved, same⟩ := secretRef_resolved kept
  obtain ⟨given, _, decoded⟩ := secret_ids random
  have blank : strip [] = [] := rfl
  have opened : (pythonHost mac otherIso).urlsafeB64decode
      (Generator.secretB64u random ++ b64Padding (Generator.secretB64u random)) =
      some random.val := decoded
  simp only [adminHmacSecretBytes, Generator.server, resolved, Option.getD_some, blank, if_true,
    same, given, if_false, opened, random.property]

/-- With the key in place the routes are enabled exactly if the route is well formed. -/
theorem server_enabled (kept : SecretKept runtime args random)
    (trimmed : Trimmed (Generator.routeId args draws)) :
    adminLogRoutesEnabled (pythonHost mac otherIso)
        (Generator.server args draws random runtime.resolve) =
      routeIdWellFormed (Generator.routeId args draws) := by
  have route : strip (Generator.server args draws random runtime.resolve).admin.routeId =
      Generator.routeId args draws := trimmed
  rw [adminLogRoutesEnabled, route, server_key kept]
  cases wellFormed : routeIdWellFormed (Generator.routeId args draws) with
  | false => simp
  | true => simp [(route_ids wellFormed).1]

/-- A route that is drawn is well formed if it has the right length, as each of its characters is
one of a route. -/
theorem drawn_route (drawn : args.routeId.getD [] = []) :
    Trimmed (Generator.routeId args draws) ∧
      (routeIdWellFormed (Generator.routeId args draws) = true ↔
        8 ≤ draws.length ∧ draws.length ≤ 128) := by
  have isRoute : Generator.routeId args draws = draws.map Subtype.val := by
    rw [Generator.routeId, drawn]
    rfl
  have ids : ∀ c ∈ draws.map Subtype.val, idChar c = true := by
    intro c listed
    obtain ⟨draw, _, rfl⟩ := List.mem_map.mp listed
    exact alphabet_ids draw.val draw.property
  rw [isRoute]
  refine ⟨idChars_trimmed ids, ?_⟩
  rw [routeIdWellFormed, Bool.and_eq_true, decide_eq_true_eq, List.length_map]
  exact and_iff_left (List.all_eq_true.mpr ids)

/-- A generated configuration serves every route that is well formed, and a drawn one exactly if its
length is from eight to a hundred and twenty-eight. The client, given nothing but either profile and
a level in any spelling, then posts to the path of the base URL with the route under it, at every
second of `datetime`, and the endpoint takes the request as one for that level at every time within
the skew.

Proof: the settings of the server lead to the generated key, and either profile leads the client to
the endpoint's URL, its route and the same key. From there `checkPost_client` takes over. -/
theorem generated_config_agrees (mac : Mac) (otherIso : Text → IsoTime)
    (runtime : Settings.Runtime) (args : Generator.Args) (draws : Generator.Draws)
    (random : Generator.SecretBytes) (accepted : BaseUrl netlocAllowed args.baseUrl)
    (kept : SecretKept runtime args random) :
    (args.routeId.getD [] = [] →
      (adminLogRoutesEnabled (pythonHost mac otherIso)
          (Generator.server args draws random runtime.resolve) = true ↔
        8 ≤ draws.length ∧ draws.length ≤ 128)) ∧
    (routeIdWellFormed (Generator.routeId args draws) = true →
      adminLogRoutesEnabled (pythonHost mac otherIso)
        (Generator.server args draws random runtime.resolve) = true ∧
      ∃ url, pathOf url = pathOf (rstripSlash args.baseUrl) ++
          '/' :: (Generator.routeId args draws ++ "/log-level".toList) ∧
        ∀ name raw nonce epoch, allowedLoglevelName name = true → Spells name raw →
          utcText epoch ≠ none →
          ∃ request, Client.main netlocAllowed mac
              (.ofProfile raw (Generator.profile args draws random)) nonce epoch =
              .ok (url, request) ∧
            ∀ now depth,
              WithinSkew (Generator.server args draws random runtime.resolve) now epoch →
              checkPost (pythonHost mac otherIso)
                  (Generator.server args draws random runtime.resolve)
                  (received (depth + 1) request) now =
                .ok { nonce := Client.tokenHex nonce, epoch, level := upper name }) := by
  constructor
  · intro drawn
    obtain ⟨trimmed, wellFormed⟩ := drawn_route drawn
    rw [server_enabled kept trimmed]
    exact wellFormed
  · intro wellFormed
    obtain ⟨routed, ids⟩ := route_ids wellFormed
    obtain ⟨_, secretIds, decoded⟩ := secret_ids random
    have route : strip (Generator.server args draws random runtime.resolve).admin.routeId =
        Generator.routeId args draws := idChars_trimmed ids
    refine ⟨(server_enabled kept (idChars_trimmed ids)).trans wellFormed,
      endpointUrl args.baseUrl (Generator.routeId args draws),
      (endpointUrl_read accepted ids).2.1, ?_⟩
    intro name raw nonce epoch allowed spelled inRange
    have sameKey : Client.b64uDecode (strip (Generator.secretB64u random)) = some random.val := by
      rw [show strip (Generator.secretB64u random) = Generator.secretB64u random from
        idChars_trimmed secretIds]
      exact decoded
    obtain ⟨request, built⟩ : ∃ request, Client.buildRequest mac (Generator.routeId args draws)
        (Generator.secretB64u random) raw nonce epoch = .ok request :=
      buildRequest_total sameKey random.property inRange
    refine ⟨request, ?_, ?_⟩
    · obtain ⟨cfg, isRead, isTarget⟩ := Option.map_eq_some_iff.mp
        (profile_target accepted wellFormed raw (Generator.profile args draws random))
      have settings : Client.settings (.ofProfile raw (Generator.profile args draws random)) =
          some cfg := isRead
      have level : (Client.Args.ofProfile raw (Generator.profile args draws random)).loglevel =
          raw := rfl
      simp only [Client.main, settings, isTarget, level, built]
    · intro now depth within
      have builtThere := built
      rw [← route] at builtThere
      exact checkPost_client (server_key kept) (by rw [route]; exact routed) sameKey allowed
        spelled builtThere depth within

end Endpoint

section Example

/-- A key of zeros. -/
def zeroKey : Generator.SecretBytes := ⟨List.replicate 32 0, List.length_replicate⟩

/-- A server that finds the generated secret in the file it is referred to. -/
def keyRuntime : Settings.Runtime where
  resolver :=
    { schemes := ["file".toList]
      resolve := fun s =>
        if Settings.isReference ["file".toList] s then some (Generator.secretFileText zeroKey)
        else some s
      solid := by decide
      notHttps := by decide
      plain := fun s unreferring => by rw [unreferring]; rfl }
  conversions := PyModels.strictConversions
  valueText _ := []
  netlocAllowed _ := true

/-- A base URL with a path. -/
def pathBase : Text := "https://thaum.example.com/ops/".toList

/-- A route under a path, with the secret in a file. -/
def pathArgs (profilePostUrl : Bool) : Generator.Args where
  baseUrl := pathBase
  routeId := some "operator".toList
  secretFile := some "/run/secrets/admin.key".toList
  profilePostUrl

/-- A configuration can be generated for it. -/
theorem pathBase_accepted : BaseUrl (fun _ => true) pathBase where
  trimmed := by decide
  https := ⟨_, rfl, by decide, by decide⟩
  unqueried := by decide
  literal := by decide
  oneLine := by decide

/-- The file of the example holds the secret as it was written. -/
theorem pathArgs_kept (profilePostUrl : Bool) :
    SecretKept keyRuntime (pathArgs profilePostUrl) zeroKey := fun _ =>
  ⟨Generator.secretFileText zeroKey, by cases profilePostUrl <;> decide +kernel, rfl⟩

/-- With either profile the client sets the level at the generated endpoint. -/
theorem either_profile_agrees :
    (∃ url request,
      Client.main (fun _ => true) exampleMac (.ofProfile " Debug\t".toList
          (Generator.profile (pathArgs true) [] zeroKey)) zeroRandom 0 = .ok (url, request) ∧
        pathOf url = "/ops/operator/log-level".toList ∧
        checkPost exampleHost (Generator.server (pathArgs true) [] zeroKey keyRuntime.resolve)
            (received 1 request) 0 =
          .ok { nonce := Client.tokenHex zeroRandom, epoch := 0, level := "DEBUG".toList }) ∧
    ∃ url request,
      Client.main (fun _ => true) exampleMac (.ofProfile " Debug\t".toList
          (Generator.profile (pathArgs false) [] zeroKey)) zeroRandom 0 = .ok (url, request) ∧
        pathOf url = "/ops/operator/log-level".toList ∧
        checkPost exampleHost (Generator.server (pathArgs false) [] zeroKey keyRuntime.resolve)
            (received 1 request) 0 =
          .ok { nonce := Client.tokenHex zeroRandom, epoch := 0, level := "DEBUG".toList } := by
  have inRange : utcText 0 ≠ none := by decide +kernel
  have agrees (profilePostUrl : Bool) :=
    (generated_config_agrees exampleMac (fun _ => .valueError) keyRuntime
      (pathArgs profilePostUrl) [] zeroKey pathBase_accepted (pathArgs_kept profilePostUrl)).2
  constructor
  · obtain ⟨_, url, path, posts⟩ := agrees true (by decide)
    obtain ⟨request, sent, taken⟩ :=
      posts _ _ zeroRandom 0 allowed_debug spelled_debug inRange
    exact ⟨url, request, sent, path, taken 0 0 (by decide)⟩
  · obtain ⟨_, url, path, posts⟩ := agrees false (by decide)
    obtain ⟨request, sent, taken⟩ :=
      posts _ _ zeroRandom 0 allowed_debug spelled_debug inRange
    exact ⟨url, request, sent, path, taken 0 0 (by decide)⟩

end Example

end Thaum.AdminLogLevel
