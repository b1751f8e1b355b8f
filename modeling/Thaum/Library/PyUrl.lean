import Thaum.Library.PyText

/-!
# URLs as `urllib.parse` splits them

`urlsplit` drops control characters and blanks in front of a URL and tabs and line ends
anywhere, and then reads a scheme up to the first colon, after two slashes the network
location, and the path, the query and the fragment. `urlparse` is looked at here only up to
the network location. `urlunsplit` puts the parts together again.

Whether the characters of a network location are acceptable (its brackets, and what it is
after Unicode normalization) is passed in.
-/

namespace PyUrl

open PyText

/-- The characters dropped in front of a URL. -/
def isControl (c : Char) : Bool := decide (c.toNat ≤ 32)

/-- The characters dropped anywhere. -/
def isDropped (c : Char) : Bool := c == '\t' || c == '\r' || c == '\n'

/-- The URL without the characters that are dropped. -/
def cleaned (url : Text) : Text := (url.dropWhile isControl).filter fun c => !isDropped c

/-- The characters of a scheme. -/
def schemeChar (c : Char) : Bool := c.isAlphanum || c == '+' || c == '-' || c == '.'

/-- The scheme of a cleaned URL, and what follows it. -/
def splitScheme (url : Text) : Text × Text :=
  let front := url.takeWhile (· != ':')
  match url.dropWhile (· != ':') with
  | [] => ([], url)
  | _ :: rest =>
    if front.head?.any Char.isAlpha && front.all schemeChar then (lower front, rest)
    else ([], url)

/-- The characters that end a network location. -/
def isDelimiter (c : Char) : Bool := c == '/' || c == '?' || c == '#'

/-- The network location at the front of what follows the scheme. -/
def netlocOf (rest : Text) : Text :=
  if startsWith rest "//".toList then (rest.drop 2).takeWhile fun c => !isDelimiter c else []

/-- A URL as `urlparse` gives it, as far as it is looked at. -/
structure Url where
  scheme : Text
  netloc : Text
deriving DecidableEq

/-- `urlparse(url)`, `none` where it raises. -/
def urlparse (netlocAllowed : Text → Bool) (url : Text) : Option Url :=
  let parts := splitScheme (cleaned url)
  let netloc := netlocOf parts.2
  if netloc = [] ∨ netlocAllowed netloc = true then some ⟨parts.1, netloc⟩ else none

/-- The host, before the case of its letters is changed; empty for `None`. -/
def Url.hostname (url : Url) : Text :=
  let hostInfo := url.netloc.rtakeWhile (· != '@')
  if '[' ∈ hostInfo then
    ((hostInfo.dropWhile (· != '[')).drop 1).takeWhile (· != ']')
  else hostInfo.takeWhile (· != ':')

/-- The URL has a user name, which may be empty. -/
def Url.hasUserInfo (url : Url) : Bool := url.netloc.contains '@'

/-- The parts of a URL. -/
structure SplitUrl where
  scheme : Text
  netloc : Text
  path : Text
  query : Text
  fragment : Text
deriving DecidableEq

/-- What follows the network location. -/
def afterNetloc (rest : Text) : Text :=
  if startsWith rest "//".toList then (rest.drop 2).dropWhile fun c => !isDelimiter c else rest

/-- The text in front of a character, and the text after it. -/
def splitFirst (c : Char) (s : Text) : Text × Text :=
  (s.takeWhile (· != c), (s.dropWhile (· != c)).drop 1)

/-- `urlsplit(url)`, `none` where it raises. -/
def urlsplit (netlocAllowed : Text → Bool) (url : Text) : Option SplitUrl :=
  let parts := splitScheme (cleaned url)
  let netloc := netlocOf parts.2
  let (front, fragment) := splitFirst '#' (afterNetloc parts.2)
  let (path, query) := splitFirst '?' front
  if netloc = [] ∨ netlocAllowed netloc = true then
    some { scheme := parts.1, netloc, path, query, fragment }
  else none

/-- `urlunsplit` without a scheme and a fragment. -/
def urlunsplit (netloc path query : Text) : Text :=
  let path :=
    if netloc ≠ [] ∨ startsWith path "//".toList = true then
      "//".toList ++ netloc ++
        (if path ≠ [] ∧ path.head? ≠ some '/' then '/' :: path else path)
    else path
  if query = [] then path else path ++ '?' :: query

variable {url front rest slashes : Text}

/-- Slashes belong to no network location. -/
theorem takeWhile_slashes (onlySlashes : ∀ c ∈ slashes, c = '/') :
    slashes.takeWhile (fun c => !isDelimiter c) = [] := by
  cases slashes with
  | nil => rfl
  | cons c slashes =>
    rw [onlySlashes c List.mem_cons_self]
    rfl

/-- Slashes at the end of a URL do not change its network location: they are not part of it, and the
two slashes in front of it are not among them, as it is not empty. -/
theorem netlocOf_slashes (onlySlashes : ∀ c ∈ slashes, c = '/')
    (located : netlocOf (rest ++ slashes) ≠ []) : netlocOf (rest ++ slashes) = netlocOf rest := by
  rw [netlocOf] at located ⊢
  split at located
  · rename_i starts
    rw [if_pos starts]
    match rest with
    | [] =>
      refine absurd (takeWhile_slashes ?_) located
      exact fun c listed => onlySlashes c (List.mem_of_mem_drop listed)
    | [_] =>
      refine absurd (takeWhile_slashes ?_) located
      exact fun c listed => onlySlashes c (List.mem_of_mem_drop (i := 1) listed)
    | first :: second :: rest =>
      have kept : startsWith (first :: second :: rest) "//".toList = true := by
        simpa [startsWith, List.isPrefixOf] using starts
      rw [netlocOf, if_pos kept]
      change (rest ++ slashes).takeWhile _ = rest.takeWhile _
      rw [List.takeWhile_append, takeWhile_slashes onlySlashes]
      split
      · rename_i whole
        rw [List.append_nil]
        exact ((List.takeWhile_prefix _).eq_of_length whole).symm
      · rfl
  · exact absurd rfl located

/-- A URL is split at its first colon, if a letter and characters of a scheme stand in front of
it. -/
theorem splitScheme_colon (noColon : ':' ∉ front) :
    splitScheme (front ++ ':' :: rest) =
      if (front.head?.any Char.isAlpha && front.all schemeChar) = true then (lower front, rest)
      else ([], front ++ ':' :: rest) := by
  have others : ∀ c ∈ front, (c != ':') = true :=
    fun c listed => bne_iff_ne.mpr fun same => noColon (same ▸ listed)
  have taken : (front ++ ':' :: rest).takeWhile (· != ':') = front := by
    rw [List.takeWhile_append_of_pos others, List.takeWhile_cons_of_neg (by decide),
      List.append_nil]
  have dropped : (front ++ ':' :: rest).dropWhile (· != ':') = ':' :: rest := by
    rw [List.dropWhile_append_of_pos others, List.dropWhile_cons_of_neg (by decide)]
  rw [splitScheme, taken, dropped]

/-- A URL without a colon has no scheme. -/
theorem splitScheme_plain (noColon : ':' ∉ rest) : splitScheme rest = ([], rest) := by
  have dropped : rest.dropWhile (· != ':') = [] :=
    List.dropWhile_eq_nil_iff.mpr fun c listed =>
      bne_iff_ne.mpr fun same => noColon (same ▸ listed)
  rw [splitScheme, dropped]

/-- What is appended behind a colon does not take part in the scheme, as the first colon decides. -/
theorem splitScheme_append {s : Text} (colon : ':' ∈ s) (more : Text) :
    splitScheme (s ++ more) = ((splitScheme s).1, (splitScheme s).2 ++ more) := by
  obtain ⟨front, rest, rfl, noColon⟩ := List.eq_append_cons_of_mem colon
  rw [List.append_assoc, List.cons_append, splitScheme_colon noColon, splitScheme_colon noColon]
  split
  · rfl
  · rw [List.append_assoc, List.cons_append]

/-- Slashes at the end do not change the scheme, with a colon or without one. -/
theorem splitScheme_slashes (onlySlashes : ∀ c ∈ slashes, c = '/') :
    splitScheme (rest ++ slashes) = ((splitScheme rest).1, (splitScheme rest).2 ++ slashes) := by
  by_cases colon : ':' ∈ rest
  · exact splitScheme_append colon slashes
  · have noColon : ':' ∉ rest ++ slashes := by
      intro listed
      rcases List.mem_append.mp listed with early | late
      · exact colon early
      · exact absurd (onlySlashes _ late) (by decide)
    rw [splitScheme_plain colon, splitScheme_plain noColon]

/-- Slashes at the end are not dropped. -/
theorem cleaned_slashes (onlySlashes : ∀ c ∈ slashes, c = '/') :
    cleaned (front ++ slashes) = cleaned front ++ slashes := by
  have kept : slashes.dropWhile isControl = slashes := by
    cases slashes with
    | nil => rfl
    | cons c slashes =>
      apply List.dropWhile_cons_of_neg
      rw [onlySlashes c List.mem_cons_self]
      decide
  have undropped : slashes.filter (fun c => !isDropped c) = slashes := by
    apply List.filter_eq_self.mpr
    intro c listed
    rw [onlySlashes c listed]
    rfl
  rw [cleaned, cleaned, List.dropWhile_append, kept]
  split
  · rename_i nothing
    rw [List.isEmpty_iff.mp nothing, undropped]
    rfl
  · rw [List.filter_append, undropped]

/-- What `urlparse` reads: the scheme and the network location, unless that is one it refuses. -/
theorem urlparse_some {netlocAllowed : Text → Bool} {parsed : Url} :
    urlparse netlocAllowed url = some parsed ↔
      parsed.scheme = (splitScheme (cleaned url)).1 ∧
        parsed.netloc = netlocOf (splitScheme (cleaned url)).2 ∧
          (parsed.netloc = [] ∨ netlocAllowed parsed.netloc = true) := by
  rw [urlparse]
  constructor
  · intro isParsed
    split at isParsed
    · rename_i allowed
      rw [← Option.some.inj isParsed]
      exact ⟨rfl, rfl, allowed⟩
    · exact absurd isParsed.symm (Option.some_ne_none parsed)
  · obtain ⟨scheme, netloc⟩ := parsed
    rintro ⟨rfl, rfl, allowed⟩
    exact if_pos allowed

/-- Slashes at the end do not change how a URL with a network location is read. -/
theorem urlparse_slashes {netlocAllowed : Text → Bool} {parsed : Url}
    (onlySlashes : ∀ c ∈ slashes, c = '/')
    (isParsed : urlparse netlocAllowed (front ++ slashes) = some parsed)
    (located : parsed.netloc ≠ []) : urlparse netlocAllowed front = some parsed := by
  obtain ⟨scheme, netloc, allowed⟩ := urlparse_some.mp isParsed
  rw [cleaned_slashes onlySlashes, splitScheme_slashes onlySlashes] at scheme netloc
  rw [netloc] at located
  exact urlparse_some.mpr
    ⟨scheme, netloc.trans (netlocOf_slashes onlySlashes located), allowed⟩

/-- The scheme of a URL is what it starts with up to the first colon, in lower case, if nothing is
dropped of that. -/
theorem urlparse_scheme {netlocAllowed : Text → Bool} {parsed : Url}
    (solid : ∀ c ∈ front, isControl c = false ∧ c ≠ ':')
    (isParsed : urlparse netlocAllowed (front ++ ':' :: rest) = some parsed)
    (schemed : parsed.scheme ≠ []) : parsed.scheme = lower front := by
  have noColon : ':' ∉ front := fun listed => (solid _ listed).2 rfl
  have kept : front.filter (fun c => !isDropped c) = front := by
    apply List.filter_eq_self.mpr
    intro c listed
    have visible := (solid c listed).1
    rw [Bool.not_eq_true', isDropped, Bool.or_eq_false_iff, Bool.or_eq_false_iff]
    refine ⟨⟨?_, ?_⟩, ?_⟩ <;> refine beq_eq_false_iff_ne.mpr ?_ <;> rintro rfl <;>
      exact absurd visible (by decide)
  have stays : (front ++ ':' :: rest).dropWhile isControl = front ++ ':' :: rest := by
    cases front with
    | nil => exact List.dropWhile_cons_of_neg (by decide)
    | cons c front =>
      exact List.dropWhile_cons_of_neg (by simp [(solid c List.mem_cons_self).1])
  have clean : cleaned (front ++ ':' :: rest) =
      front ++ ':' :: rest.filter fun c => !isDropped c := by
    rw [cleaned, stays, List.filter_append, kept]
    rfl
  have scheme := (urlparse_some.mp isParsed).1
  rw [clean, splitScheme_colon noColon] at scheme
  rw [scheme] at schemed ⊢
  split at schemed
  · rename_i wellFormed
    rw [if_pos wellFormed]
  · exact absurd rfl schemed

/-- What `urlsplit` reads: the network location, the path up to the first `?` or `#`, and the query
up to the `#`. -/
theorem urlsplit_some {netlocAllowed : Text → Bool} {parts : SplitUrl}
    (isSplit : urlsplit netlocAllowed url = some parts) :
    parts.netloc = netlocOf (splitScheme (cleaned url)).2 ∧
      parts.path = (splitFirst '?'
        (splitFirst '#' (afterNetloc (splitScheme (cleaned url)).2)).1).1 ∧
      parts.query = (splitFirst '?'
        (splitFirst '#' (afterNetloc (splitScheme (cleaned url)).2)).1).2 := by
  rw [urlsplit] at isSplit
  dsimp only at isSplit
  split at isSplit
  · rw [← Option.some.inj isSplit]
    exact ⟨rfl, rfl, rfl⟩
  · exact absurd isSplit.symm (Option.some_ne_none parts)

/-- The parts of a URL that has a network location. -/
structure Located (netloc path query : Text) : Prop where
  located : netloc ≠ []
  netlocSolid : ∀ c ∈ netloc, isDelimiter c = false
  pathRooted : path = [] ∨ path.head? = some '/'
  pathPlain : '?' ∉ path
  clean : ∀ c ∈ netloc ++ path ++ query, isDropped c = false

/-- Splitting at a character makes no others. -/
theorem mem_splitFirst {c d : Char} {s : Text}
    (listed : d ∈ (splitFirst c s).1 ∨ d ∈ (splitFirst c s).2) : d ∈ s := by
  rcases listed with early | late
  · exact (List.takeWhile_sublist _).subset early
  · exact (List.dropWhile_sublist _).subset (List.mem_of_mem_drop late)

/-- No character that is dropped anywhere is left. -/
theorem cleaned_undropped {c : Char} (listed : c ∈ cleaned url) : isDropped c = false := by
  have kept := (List.mem_filter.mp listed).2
  simpa using kept

/-- Splitting off the scheme makes no new characters. -/
theorem mem_splitScheme {c : Char} {s : Text} (listed : c ∈ (splitScheme s).2) : c ∈ s := by
  rw [splitScheme] at listed
  split at listed
  · exact listed
  · rename_i rest dropped
    split at listed
    · have inDropped : c ∈ s.dropWhile (· != ':') := by
        rw [dropped]
        exact List.mem_cons_of_mem _ listed
      exact (List.dropWhile_sublist _).subset inDropped
    · exact listed

/-- What follows a network location is empty or starts with a delimiter. -/
theorem dropWhile_delimited (s : Text) :
    (s.dropWhile fun c => !isDelimiter c) = [] ∨
      ∃ c more, (s.dropWhile fun c => !isDelimiter c) = c :: more ∧ isDelimiter c = true := by
  cases remains : s.dropWhile fun c => !isDelimiter c with
  | nil => exact Or.inl rfl
  | cons c more =>
    have stopped := List.head_dropWhile_not (fun c => !isDelimiter c) (l := s) (by simp [remains])
    simp only [remains, List.head_cons] at stopped
    exact Or.inr ⟨c, more, rfl, by simpa using stopped⟩

/-- A path that is cut off at its `#` and its `?` is empty or starts with a slash, as it stands
behind a network location. -/
theorem path_rooted {s : Text} (delimited : s = [] ∨ ∃ c more, s = c :: more ∧
    isDelimiter c = true) :
    (splitFirst '?' (splitFirst '#' s).1).1 = [] ∨
      (splitFirst '?' (splitFirst '#' s).1).1.head? = some '/' := by
  rcases delimited with rfl | ⟨c, more, rfl, stops⟩
  · exact Or.inl rfl
  · have oneOf : c = '/' ∨ c = '?' ∨ c = '#' := by simpa [isDelimiter, or_assoc] using stops
    rcases oneOf with rfl | rfl | rfl
    · right
      simp [splitFirst]
    · left
      simp [splitFirst]
    · left
      simp [splitFirst]

/-- The parts that a URL is split into are parts that can be put together again: the path and the
query contain no mark that would end them. -/
theorem urlsplit_located {netlocAllowed : Text → Bool} {parts : SplitUrl}
    (isSplit : urlsplit netlocAllowed url = some parts) (located : parts.netloc ≠ []) :
    Located parts.netloc parts.path parts.query := by
  obtain ⟨netloc, path, query⟩ := urlsplit_some isSplit
  generalize scheme : (splitScheme (cleaned url)).2 = rest at netloc path query
  have clean (c : Char) (listed : c ∈ rest) : isDropped c = false := by
    rw [← scheme] at listed
    exact cleaned_undropped (mem_splitScheme listed)
  rw [netloc] at located
  have starts : startsWith rest "//".toList = true := by
    by_contra other
    rw [netlocOf, if_neg other] at located
    exact located rfl
  have isNetloc : parts.netloc = (rest.drop 2).takeWhile fun c => !isDelimiter c := by
    rw [netloc, netlocOf, if_pos starts]
  have isAfter : afterNetloc rest = (rest.drop 2).dropWhile fun c => !isDelimiter c := by
    rw [afterNetloc, if_pos starts]
  have afterListed {c : Char} (listed : c ∈ afterNetloc rest) : c ∈ rest := by
    rw [isAfter] at listed
    exact List.mem_of_mem_drop ((List.dropWhile_sublist _).subset listed)
  constructor
  · rwa [netloc]
  · intro c listed
    rw [isNetloc] at listed
    simpa using List.mem_takeWhile_imp listed
  · rw [path, isAfter]
    exact path_rooted (dropWhile_delimited _)
  · intro listed
    rw [path] at listed
    exact absurd (List.mem_takeWhile_imp listed) (by decide)
  · intro c listed
    apply clean
    rcases List.mem_append.mp listed with inFront | inQuery
    · rcases List.mem_append.mp inFront with inNetloc | inPath
      · rw [isNetloc] at inNetloc
        exact List.mem_of_mem_drop ((List.takeWhile_sublist _).subset inNetloc)
      · rw [path] at inPath
        exact afterListed (mem_splitFirst (Or.inl (mem_splitFirst (Or.inl inPath))))
    · rw [query] at inQuery
      exact afterListed (mem_splitFirst (Or.inl (mem_splitFirst (Or.inr inQuery))))

section Located

variable {netloc path query : Text}

/-- The query with its question mark. -/
def queryPart (query : Text) : Text := if query = [] then [] else '?' :: query

/-- Parts with a network location are put together behind two slashes. -/
theorem urlunsplit_located (parts : Located netloc path query) :
    urlunsplit netloc path query = "//".toList ++ (netloc ++ (path ++ queryPart query)) := by
  have rooted : ¬(path ≠ [] ∧ path.head? ≠ some '/') := by
    rintro ⟨something, other⟩
    rcases parts.pathRooted with nothing | slash
    · exact something nothing
    · exact other slash
  rw [urlunsplit, if_pos (Or.inl parts.located), if_neg rooted, queryPart]
  split
  · rw [List.append_nil, List.append_assoc]
  · rw [List.append_assoc, List.append_assoc]

/-- A text behind two slashes starts with them. -/
theorem startsWith_slashes (rest : Text) :
    startsWith ("//".toList ++ rest) "//".toList = true := by
  simp [startsWith, List.isPrefixOf]

/-- Behind the network location stands nothing or a delimiter, so it is read up to its end. -/
theorem takeWhile_netloc (parts : Located netloc path query) :
    (netloc ++ (path ++ queryPart query)).takeWhile (fun c => !isDelimiter c) = netloc ∧
      (netloc ++ (path ++ queryPart query)).dropWhile (fun c => !isDelimiter c) =
        path ++ queryPart query := by
  have solid : ∀ c ∈ netloc, (!isDelimiter c) = true := by
    intro c listed
    rw [parts.netlocSolid c listed]
    rfl
  have stops : (path ++ queryPart query).takeWhile (fun c => !isDelimiter c) = [] ∧
      (path ++ queryPart query).dropWhile (fun c => !isDelimiter c) =
        path ++ queryPart query := by
    cases path with
    | nil =>
      rw [queryPart]
      split
      · exact ⟨rfl, rfl⟩
      · exact ⟨rfl, rfl⟩
    | cons c path =>
      have slash : c = '/' := by simpa using parts.pathRooted
      rw [slash]
      exact ⟨rfl, rfl⟩
  rw [List.takeWhile_append_of_pos solid, List.dropWhile_append_of_pos solid, stops.1, stops.2,
    List.append_nil]
  exact ⟨rfl, rfl⟩

/-- The network location is read back. -/
theorem netlocOf_urlunsplit (parts : Located netloc path query) :
    netlocOf (urlunsplit netloc path query) = netloc := by
  rw [urlunsplit_located parts, netlocOf, if_pos (startsWith_slashes _)]
  exact (takeWhile_netloc parts).1

/-- The path and the query are read back. -/
theorem splitFirst_urlunsplit (parts : Located netloc path query) :
    splitFirst '?' (afterNetloc (urlunsplit netloc path query)) = (path, query) := by
  have plain : ∀ c ∈ path, (c != '?') = true :=
    fun c listed => bne_iff_ne.mpr fun same => parts.pathPlain (same ▸ listed)
  rw [urlunsplit_located parts, afterNetloc, if_pos (startsWith_slashes _)]
  change splitFirst '?' ((netloc ++ (path ++ queryPart query)).dropWhile _) = _
  rw [(takeWhile_netloc parts).2, splitFirst, List.takeWhile_append_of_pos plain,
    List.dropWhile_append_of_pos plain, queryPart]
  split
  · rename_i nothing
    rw [nothing]
    simp
  · simp

/-- The parts can be read off the URL. So two targets are normalized to one text exactly if their
parts are the same. -/
theorem urlunsplit_inj {netloc' path' query' : Text} (parts : Located netloc path query)
    (parts' : Located netloc' path' query')
    (same : urlunsplit netloc path query = urlunsplit netloc' path' query') :
    netloc = netloc' ∧ path = path' ∧ query = query' := by
  have sameNetloc := netlocOf_urlunsplit parts
  have sameRest := splitFirst_urlunsplit parts
  rw [same, netlocOf_urlunsplit parts'] at sameNetloc
  rw [same, splitFirst_urlunsplit parts', Prod.mk.injEq] at sameRest
  exact ⟨sameNetloc.symm, sameRest.1.symm, sameRest.2.symm⟩

/-- A URL that starts with a slash has no scheme. -/
theorem splitScheme_slash (rest : Text) : splitScheme ('/' :: rest) = ([], '/' :: rest) := by
  by_cases colon : ':' ∈ '/' :: rest
  · obtain ⟨front, after', isSplit, noColon⟩ := List.eq_append_cons_of_mem colon
    rw [isSplit, splitScheme_colon noColon]
    have slash : front.head? = some '/' := by
      cases front with
      | nil => exact absurd isSplit (by simp)
      | cons c front => simpa using (List.cons.inj isSplit).1.symm
    have noLetter : (front.head?.any Char.isAlpha && front.all schemeChar) = false := by
      rw [slash]
      rfl
    rw [noLetter, if_neg Bool.false_ne_true]
  · exact splitScheme_plain colon

/-- Nothing is dropped of parts that were split off before. -/
theorem cleaned_urlunsplit (parts : Located netloc path query) :
    cleaned (urlunsplit netloc path query) = urlunsplit netloc path query := by
  rw [urlunsplit_located parts]
  change ("//".toList ++ (netloc ++ (path ++ queryPart query))).filter _ = _
  apply List.filter_eq_self.mpr
  intro c listed
  have kept : isDropped c = false := by
    have cases : c = '/' ∨ c ∈ netloc ++ path ++ query ∨ c = '?' := by
      have somewhere : c = '/' ∨ c ∈ netloc ∨ c ∈ path ∨ c ∈ queryPart query := by
        simpa using listed
      rcases somewhere with slash | inNetloc | inPath | inQuery
      · exact Or.inl slash
      · exact Or.inr (Or.inl (by simp [inNetloc]))
      · exact Or.inr (Or.inl (by simp [inPath]))
      · rw [queryPart] at inQuery
        split at inQuery
        · exact absurd inQuery List.not_mem_nil
        · rcases List.mem_cons.mp inQuery with mark | inQuery
          · exact Or.inr (Or.inr mark)
          · exact Or.inr (Or.inl (by simp [inQuery]))
    rcases cases with rfl | inParts | rfl
    · decide
    · exact parts.clean c inParts
    · decide
  rw [kept]
  rfl

/-- A URL that is put together has its network location again. -/
theorem urlsplit_urlunsplit {netlocAllowed : Text → Bool} {again : SplitUrl}
    (parts : Located netloc path query)
    (isSplit : urlsplit netlocAllowed (urlunsplit netloc path query) = some again) :
    again.netloc = netloc := by
  have rooted : splitScheme (urlunsplit netloc path query) =
      ([], urlunsplit netloc path query) := by
    rw [urlunsplit_located parts]
    exact splitScheme_slash _
  rw [(urlsplit_some isSplit).1, cleaned_urlunsplit parts, rooted]
  exact netlocOf_urlunsplit parts

end Located

end PyUrl
