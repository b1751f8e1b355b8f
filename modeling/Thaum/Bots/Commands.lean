import Thaum.Library.PyRegex
import Thaum.Types

/-!
# The chat commands of a bot

`bind_thaum_handlers` registers a pattern and a handler for each command, and a
message goes to the first route, by priority and then by registration, whose
pattern is found in its text. A handler is given here by what it does with the
match: the command it carries out, with the priority and the trimmed text it saw.
-/

namespace Thaum.Bots

open PyText PyRegex

/-- The settings that decide which routes a bot has. -/
structure BotConfig where
  sendAlerts : Bool
  highPriOn : Bool
  supportsAcknowledge : Bool

/-- What a handler does: an incident room or, without a summary, the prompt card; an
alert or its refusal; an acknowledgment; the deletion of the room; a text. -/
inductive Command where
  | incident : AlertPriority → (summary : Text) → Command
  | alert : AlertPriority → (message : Text) → Command
  | highPriorityRefused : Command
  | acknowledge : (alertId : Text) → Command
  | implode : Command
  | usage : Command
  | unknown : (command : Text) → Command
deriving DecidableEq

/-- A route of `_hears_routes`. -/
structure HearsRoute where
  priority : Nat
  pattern : Regex
  handler : Cursor → Command

/-- `hears`: appending and sorting stably puts a route after those of its priority. -/
def hears (priority : Nat) (pattern : Regex) (handler : Cursor → Command)
    (routes : List HearsRoute) : List HearsRoute :=
  routes.takeWhile (fun route => route.priority ≤ priority) ++
    { priority, pattern, handler } ::
      routes.dropWhile (fun route => route.priority ≤ priority)

/-- `(?:\s*:\s*(?P<name>.*))?`. -/
def bodyPart (name : Text) : Regex :=
  .opt (.seq (.many isSpace) (.seq (.chars (· == ':'))
    (.seq (.many isSpace) (.group name (.many anyButNewline)))))

/-- `^(?P<cmd>…)(?:\s*:\s*(?P<name>.*))?$`. -/
def commandPattern (command : Regex) (name : Text) : Regex :=
  .seq .start (.seq (.group "cmd".toList command) (.seq (bodyPart name) .finish))

/-- `[-_]`. -/
def isDash (c : Char) : Bool := c == '-' || c == '_'

/-- `alert!|alert|on[-_]?call`. -/
def alertWords : Regex :=
  .alt (word "alert!".toList) (.alt (word "alert".toList)
    (.seq (word "on".toList) (.seq (.opt (.chars isDash)) (word "call".toList))))

/-- `ALERT_COMMAND_PATTERN`. -/
def alertCommandPattern : Regex := commandPattern alertWords "msg".toList

/-- `[A-Z2-9]` in ignored case. -/
def isAlertIdChar (c : Char) : Bool :=
  decide ('a' ≤ c.toLower ∧ c.toLower ≤ 'z') || decide ('2' ≤ c ∧ c ≤ '9') ||
    (caseSpecial.map Prod.snd).contains c

/-- `(?P<alert_id>[A-Z2-9]{4})`. -/
def alertIdGroup : Regex :=
  .group "alert_id".toList (.seq (.chars isAlertIdChar) (.seq (.chars isAlertIdChar)
    (.seq (.chars isAlertIdChar) (.chars isAlertIdChar))))

/-- `^ack\s+(?P<alert_id>[A-Z2-9]{4}).*$`. -/
def ackPattern : Regex :=
  .seq .start (.seq (word "ack".toList) (.seq (.chars isSpace) (.seq (.many isSpace)
    (.seq alertIdGroup (.seq (.many anyButNewline) .finish)))))

/-- `^\s*(implode).*$`. -/
def implodePattern : Regex :=
  .seq .start (.seq (.many isSpace) (.seq (word "implode".toList)
    (.seq (.many anyButNewline) .finish)))

/-- `^\s*(usage|commands|\?).*`. -/
def usagePattern : Regex :=
  .seq .start (.seq (.many isSpace) (.seq
    (.alt (word "usage".toList) (.alt (word "commands".toList) (word "?".toList)))
    (.many anyButNewline)))

/-- `^(?P<cmd>\S+)\s+.*$`. -/
def unknownPattern : Regex :=
  .seq .start (.seq
    (.group "cmd".toList (.seq (.chars fun c => !isSpace c) (.many fun c => !isSpace c)))
    (.seq (.chars isSpace) (.seq (.many isSpace) (.seq (.many anyButNewline) .finish))))

/-- `(match.group(name) or "").strip()`. -/
def trimmedGroup (found : Cursor) (name : Text) : Text := strip ((found.group name).getD [])

/-- `handle_help_emergency`. -/
def handleHelpEmergency (found : Cursor) : Command :=
  let cmd := lower ((found.group "cmd".toList).getD [])
  .incident (if cmd = "emergency".toList then .high else .normal)
    (trimmedGroup found "summary".toList)

/-- `handle_alert`. -/
def handleAlert (bot : BotConfig) (found : Cursor) : Command :=
  let cmd := lower ((found.group "cmd".toList).getD [])
  if cmd = "alert!".toList ∧ bot.highPriOn = false then .highPriorityRefused
  else .alert (if cmd = "alert!".toList then .high else .normal) (trimmedGroup found "msg".toList)

/-- `handle_ack`. -/
def handleAck (found : Cursor) : Command :=
  .acknowledge ((found.group "alert_id".toList).getD [])

/-- `handle_unknown`. -/
def handleUnknown (found : Cursor) : Command := .unknown ((found.group "cmd".toList).getD [])

/-- `bind_thaum_handlers`, in the order of its `hears` calls. -/
def bindThaumHandlers (bot : BotConfig) : List HearsRoute :=
  let routes := hears 10 (commandPattern (word "help".toList) "summary".toList)
    handleHelpEmergency []
  let routes :=
    if bot.highPriOn then
      hears 10 (commandPattern (word "emergency".toList) "summary".toList) handleHelpEmergency
        routes
    else routes
  let routes := if bot.sendAlerts then hears 10 alertCommandPattern (handleAlert bot) routes
    else routes
  let routes :=
    if bot.sendAlerts && bot.supportsAcknowledge then hears 10 ackPattern handleAck routes
    else routes
  let routes := hears 80 implodePattern (fun _ => .implode) routes
  let routes := hears 90 usagePattern (fun _ => .usage) routes
  hears 99 unknownPattern handleUnknown routes

/-- The loop of `handle_event` over the routes. -/
def dispatch (text : Text) : List HearsRoute → Option Command
  | [] => none
  | route :: rest =>
    match search route.pattern text with
    | some found => some (route.handler found)
    | none => dispatch text rest

/-- What a bot does with a cleaned message. -/
def hear (bot : BotConfig) (text : Text) : Option Command := dispatch text (bindThaumHandlers bot)

variable {text : Text} {name : Text} {cursor : Cursor}

/-- Registering a route keeps the routes in the order of their priorities. The first route that is
found is therefore one of the highest priority that is. -/
theorem hears_sorted {routes : List HearsRoute} {priority : Nat} {pattern : Regex}
    {handler : Cursor → Command}
    (sorted : routes.Pairwise fun first second => first.priority ≤ second.priority) :
    (hears priority pattern handler routes).Pairwise
      fun first second => first.priority ≤ second.priority := by
  have later : ∀ route ∈ routes.dropWhile (fun route => route.priority ≤ priority),
      priority ≤ route.priority := by
    induction routes with
    | nil => simp
    | cons first rest inductionHypothesis =>
      obtain ⟨least, sortedRest⟩ := List.pairwise_cons.mp sorted
      by_cases early : first.priority ≤ priority
      · rw [List.dropWhile_cons_of_pos (by simpa using early)]
        exact inductionHypothesis sortedRest
      · rw [List.dropWhile_cons_of_neg (by simpa using early)]
        intro route listed
        rcases List.mem_cons.mp listed with rfl | further
        · exact Nat.le_of_not_le early
        · exact (Nat.le_of_not_le early).trans (least route further)
  have earlier (route : HearsRoute)
      (listed : route ∈ routes.takeWhile (fun route => route.priority ≤ priority)) :
      route.priority ≤ priority := by
    simpa using List.mem_takeWhile_imp listed
  rw [hears, List.pairwise_append, List.pairwise_cons]
  refine ⟨sorted.sublist (List.takeWhile_sublist _),
    ⟨later, sorted.sublist (List.dropWhile_sublist _)⟩, ?_⟩
  intro first isEarly second isLater
  rcases List.mem_cons.mp isLater with rfl | isLater
  · exact earlier first isEarly
  · exact (earlier first isEarly).trans (later second isLater)

/-- A command comes from the handler of a registered route whose pattern is found. -/
theorem dispatch_some {routes : List HearsRoute} {command : Command}
    (dispatched : dispatch text routes = some command) :
    ∃ route ∈ routes, ∃ found, search route.pattern text = some found ∧
      command = route.handler found := by
  induction routes with
  | nil => simp [dispatch] at dispatched
  | cons route rest inductionHypothesis =>
    rw [dispatch] at dispatched
    split at dispatched
    · rename_i found isFound
      exact ⟨route, List.mem_cons_self, found, isFound, (Option.some.inj dispatched).symm⟩
    · obtain ⟨later, listed, handled⟩ := inductionHypothesis dispatched
      exact ⟨later, List.mem_cons_of_mem _ listed, handled⟩

/-- The blanks and the message after the colon, up to the end. -/
theorem message_ways (body : Text) (groups : List (Text × Text)) :
    ((Regex.seq (.many isSpace) (.group name (.many anyButNewline))).ways text
        ⟨body, groups⟩).flatMap (Regex.ways text .finish) =
      (leftovers isSpace body).flatMap fun rest =>
        (leftovers anyButNewline rest).flatMap fun left =>
          Regex.ways text .finish
            ⟨left, (name, rest.take (rest.length - left.length)) :: groups⟩ := by
  simp only [Regex.ways, List.flatMap_assoc, List.flatMap_map, List.map_map]
  rfl

/-- A message without newline is captured from its first character on, as the blanks in front of it
are taken first and the dots reach its end. -/
theorem message_captured {body : Text} (groups : List (Text × Text))
    (oneLine : '\n' ∉ lstrip body) :
    (((Regex.seq (.many isSpace) (.group name (.many anyButNewline))).ways text
        ⟨body, groups⟩).flatMap (Regex.ways text .finish)).head? =
      some ⟨[], (name, lstrip body) :: groups⟩ := by
  have wholeLine : (lstrip body).dropWhile anyButNewline = [] := by
    apply List.dropWhile_eq_nil_iff.mpr
    intro c listed
    have different : c ≠ '\n' := fun same => oneLine (same ▸ listed)
    simp [anyButNewline, different]
  rw [message_ways]
  refine head_flatMap_leftovers (head_flatMap_leftovers ?_)
  rw [← lstrip, wholeLine]
  simp [Regex.ways]

/-- A message with a newline before its last character reaches the end in no way: the dots stop
there, and `$` does not hold. -/
theorem message_lost {body : Text} (groups : List (Text × Text)) (newline : '\n' ∈ lstrip body)
    (ends : ∀ c ∈ body.getLast?, isSpace c = false) :
    ((Regex.seq (.many isSpace) (.group name (.many anyButNewline))).ways text
        ⟨body, groups⟩).flatMap (Regex.ways text .finish) = [] := by
  rw [message_ways]
  refine List.flatMap_eq_nil_iff.mpr fun rest isRest => List.flatMap_eq_nil_iff.mpr ?_
  intro left isLeft
  obtain ⟨blanks, bodyParts, blank⟩ := mem_leftovers.mp isRest
  obtain ⟨line, restParts, oneLine⟩ := mem_leftovers.mp isLeft
  have noNewline : '\n' ∉ line := by
    intro listed
    have allowed := List.all_eq_true.mp oneLine _ listed
    simp [anyButNewline] at allowed
  have newlineLeft : '\n' ∈ left := by
    rw [bodyParts, lstrip_append rest blank] at newline
    have listed := (List.dropWhile_sublist _).subset newline
    rw [restParts] at listed
    exact (List.mem_append.mp listed).resolve_left noNewline
  have notOnly : left ≠ ['\n'] := by
    rintro rfl
    have last : '\n' ∈ body.getLast? := by simp [bodyParts, restParts]
    exact absurd (ends _ last) (by decide)
  have nonempty : left ≠ [] := List.ne_nil_of_mem newlineLeft
  simp [Regex.ways, nonempty, notOnly]

/-- The message part is the message after the first colon, or else it is left out. -/
theorem bodyPart_ways (text name : Text) (cursor : Cursor) :
    (Regex.seq (bodyPart name) .finish).ways text cursor =
      ((Regex.seq (.chars (· == ':')) (.seq (.many isSpace)
        (.group name (.many anyButNewline)))).ways text
          ⟨cursor.rest.dropWhile isSpace, cursor.groups⟩).flatMap (Regex.ways text .finish) ++
        Regex.ways text .finish cursor := by
  have blocked : ∀ c rest groups, isSpace c = true →
      (Regex.seq (.chars (· == ':')) (.seq (.many isSpace)
        (.group name (.many anyButNewline)))).ways text ⟨c :: rest, groups⟩ = [] := by
    intro c rest groups blank
    have different : c ≠ ':' := by
      rintro rfl
      exact absurd blank (by decide)
    simp [Regex.ways, different]
  rw [Regex.ways_seq, bodyPart, Regex.ways_opt, List.flatMap_append, List.flatMap_singleton,
    many_seq_ways blocked]

/-- What follows the words of a command: nothing, or a colon after blanks. -/
inductive Follows : (rest : Text) → (body : Text) → Prop where
  | nothing : Follows [] []
  | message {blanks body : Text} : blanks.all isSpace = true →
      (∀ c ∈ body.getLast?, isSpace c = false) → Follows (blanks ++ ':' :: body) (lstrip body)

/-- What follows the words of a command starts with a blank or a colon, if with anything. -/
theorem follows_head {rest body : Text} (follows : Follows rest body) :
    ∀ c ∈ rest.head?, isSpace c = true ∨ c = ':' := by
  cases follows with
  | nothing => simp
  | @message blanks body blank ends =>
    cases blanks with
    | nil => simp
    | cons d blanks =>
      rw [List.all_cons, Bool.and_eq_true] at blank
      simp [blank.1]

/-- The captures of the message part. -/
def captures (name rest body : Text) : List (Text × Text) :=
  if rest = [] then [] else [(name, body)]

/-- The message part captures what is left of the message, if it is on one line. Without a message
it captures nothing. -/
theorem follows_ways {rest body : Text} (groups : List (Text × Text))
    (follows : Follows rest body) :
    ((Regex.seq (bodyPart name) .finish).ways text ⟨rest, groups⟩).head? =
      if '\n' ∈ body then none else some ⟨[], captures name rest body ++ groups⟩ := by
  rw [bodyPart_ways]
  cases follows with
  | nothing => simp [Regex.ways, captures]
  | @message blanks body blank ends =>
    have colon : (blanks ++ ':' :: body).dropWhile isSpace = ':' :: body :=
      lstrip_append (':' :: body) blank
    have listed : ':' ∈ blanks ++ ':' :: body := by simp
    have nonempty : blanks ++ ':' :: body ≠ [] := List.ne_nil_of_mem listed
    have notNewline : blanks ++ ':' :: body ≠ ['\n'] := by
      intro same
      rw [same] at listed
      exact absurd listed (by decide)
    have afterColon : (Regex.seq (.chars (· == ':')) (.seq (.many isSpace)
        (.group name (.many anyButNewline)))).ways text ⟨':' :: body, groups⟩ =
          (Regex.seq (.many isSpace) (.group name (.many anyButNewline))).ways text
            ⟨body, groups⟩ := by
      simp [Regex.ways]
    rw [Regex.ways_finish, if_neg (not_or.mpr ⟨nonempty, notNewline⟩), List.append_nil, colon,
      afterColon, captures, if_neg nonempty]
    split
    · rename_i newline
      rw [message_lost groups newline ends]
      rfl
    · rename_i oneLine
      exact message_captured groups oneLine

/-- No message part starts with a character that is neither blank nor a colon, so words that end in
front of one were not the command. -/
theorem bodyPart_dead {c : Char} {left : Text} (groups : List (Text × Text))
    (solid : isSpace c = false) (notColon : c ≠ ':') :
    (Regex.seq (bodyPart name) .finish).ways text ⟨c :: left, groups⟩ = [] := by
  have notNewline : c ≠ '\n' := by
    rintro rfl
    exact absurd solid (by decide)
  rw [bodyPart_ways]
  simp [Regex.ways, solid, notColon, notNewline]

/-- A command and its message are found where the pattern's words first leave what
follows the command, and after that only what no message part starts with. -/
theorem commandPattern_search {command : Regex} {word rest body : Text} {others : List Cursor}
    (follows : Follows rest body)
    (ways : command.ways (word ++ rest) ⟨word ++ rest, []⟩ = ⟨rest, []⟩ :: others)
    (dead : ∀ other ∈ others, ∃ c ∈ other.rest.head?, isSpace c = false ∧ c ≠ ':') :
    search (commandPattern command name) (word ++ rest) =
      if '\n' ∈ body then none
      else some ⟨[], captures name rest body ++ [("cmd".toList, word)]⟩ := by
  rw [commandPattern, search_start, Regex.ways_seq, Regex.ways_group, ways, List.map_cons,
    List.flatMap_cons, captured_append, List.head?_append, follows_ways _ follows]
  have nothing : (others.map fun after => { after with
      groups := ("cmd".toList, (Cursor.mk (word ++ rest) []).captured after) :: after.groups }
        ).flatMap ((Regex.seq (bodyPart name) .finish).ways (word ++ rest)) = [] := by
    rw [List.flatMap_map, List.flatMap_eq_nil_iff]
    intro other listed
    obtain ⟨c, isHead, solid, notColon⟩ := dead other listed
    obtain ⟨left, parts⟩ := List.head?_eq_some_iff.mp isHead
    rw [parts]
    exact bodyPart_dead _ solid notColon
  rw [nothing]
  split <;> rfl

/-- A pattern whose words cannot start the text is not found, as it stands behind `^`. -/
theorem commandPattern_unfound {command : Regex}
    (nowhere : command.ways text ⟨text, []⟩ = []) :
    search (commandPattern command name) text = none := by
  rw [commandPattern, search_start, Regex.ways_seq, Regex.ways_group, nowhere]
  rfl

/-- The command words of the usage text, the synonyms of `on-call` included. -/
inductive CommandWord where
  | help | emergency | alert | alertBang | onDashCall | onCall | onUnderscoreCall
deriving DecidableEq

namespace CommandWord

/-- The letters of a command word, in small case. -/
def letters : CommandWord → Text
  | help => "help".toList
  | emergency => "emergency".toList
  | alert => "alert".toList
  | alertBang => "alert!".toList
  | onDashCall => "on-call".toList
  | onCall => "oncall".toList
  | onUnderscoreCall => "on_call".toList

/-- The command a word stands for, with its priority. -/
def command : CommandWord → Text → Command
  | help => .incident .normal
  | emergency => .incident .high
  | alertBang => .alert .high
  | _ => .alert .normal

/-- The words that page without a room. -/
def pages : CommandWord → Bool
  | help | emergency => false
  | _ => true

end CommandWord

variable {commandWord : CommandWord} {s rest body : Text}

/-- Of the command words the pattern of `help` matches its own only. -/
theorem help_ways (spelled : SpelledAs commandWord.letters s) :
    (word "help".toList).ways text ⟨s ++ rest, []⟩ =
      if commandWord = .help then [⟨rest, []⟩] else [] := by
  cases commandWord with
  | help => exact word_ways_spelled rest [] spelled
  | _ => exact word_ways_other rest [] spelled (by decide) (by decide)

/-- Of the command words the pattern of `emergency` matches its own only. -/
theorem emergency_ways (spelled : SpelledAs commandWord.letters s) :
    (word "emergency".toList).ways text ⟨s ++ rest, []⟩ =
      if commandWord = .emergency then [⟨rest, []⟩] else [] := by
  cases commandWord with
  | emergency => exact word_ways_spelled rest [] spelled
  | _ => exact word_ways_other rest [] spelled (by decide) (by decide)

/-- `on[-_]?call`. -/
def onCallWords : Regex :=
  .seq (word "on".toList) (.seq (.opt (.chars isDash)) (word "call".toList))

/-- The words of a page, in the order in which they are tried. -/
theorem alertWords_split :
    alertWords.ways text cursor = (word "alert!".toList).ways text cursor ++
      ((word "alert".toList).ways text cursor ++ onCallWords.ways text cursor) := rfl

/-- The words of `on-call` do not stand where another first letter does. -/
theorem onCall_other {first : Char} {more : Text} (spelled : SpelledAs (first :: more) s)
    (different : first ≠ 'o') : onCallWords.ways text ⟨s ++ rest, []⟩ = [] := by
  rw [onCallWords, Regex.ways_seq]
  have nowhere : (word "on".toList).ways text ⟨s ++ rest, []⟩ = [] :=
    word_ways_other rest [] spelled different (by decide)
  rw [nowhere, List.flatMap_nil]

/-- After `on` a dash may be skipped, and `call` has to follow. The way with the dash is tried
first. -/
theorem onCall_front {front back : Text} (spelled : SpelledAs "on".toList front) :
    onCallWords.ways text ⟨front ++ back, []⟩ =
      (Regex.ways text (.chars isDash) ⟨back, []⟩).flatMap ((word "call".toList).ways text) ++
        (word "call".toList).ways text ⟨back, []⟩ := by
  rw [onCallWords, Regex.ways_seq, word_ways_spelled _ [] spelled, List.flatMap_singleton,
    Regex.ways_seq, Regex.ways_opt, List.flatMap_append, List.flatMap_singleton]

/-- With a dash, `on-call` matches in one way. -/
theorem onCall_dashed {dash : Char} (isOne : isDash dash = true)
    (spelled : SpelledAs ("on".toList ++ dash :: "call".toList) s) :
    onCallWords.ways text ⟨s ++ rest, []⟩ = [⟨rest, []⟩] := by
  obtain ⟨front, back, rfl, on, dashed⟩ := spelledAs_append.mp spelled
  obtain ⟨c, back, rfl, lowered, call⟩ := List.map_eq_cons_iff.mp dashed
  have notSmall : dash.isLower = false := by
    rcases Bool.or_eq_true_iff.mp isOne with same | same
    · rw [beq_iff_eq.mp same]
      rfl
    · rw [beq_iff_eq.mp same]
      rfl
  obtain rfl := toLower_symbol lowered notSmall
  have isNext : Regex.ways text (.chars isDash) ⟨c :: (back ++ rest), []⟩ =
      [⟨back ++ rest, []⟩] := by
    simp [Regex.ways, isOne]
  have notCall : (word "call".toList).ways text ⟨c :: back ++ rest, []⟩ = [] := by
    refine word_ways_other rest [] dashed ?_ (by decide)
    rintro rfl
    exact absurd isOne (by decide)
  rw [List.append_assoc, onCall_front on, notCall, List.cons_append, isNext, List.append_nil,
    List.flatMap_singleton]
  exact word_ways_spelled rest [] call

/-- Without a dash it matches in one way as well. -/
theorem onCall_plain (spelled : SpelledAs ("on".toList ++ "call".toList) s) :
    onCallWords.ways text ⟨s ++ rest, []⟩ = [⟨rest, []⟩] := by
  obtain ⟨front, back, rfl, on, call⟩ := spelledAs_append.mp spelled
  obtain ⟨c, back', isBack, lowered, _⟩ := List.map_eq_cons_iff.mp call
  have notDash : isDash c = false := by
    rw [Bool.eq_false_iff]
    intro isOne
    have isDashChar : c = '-' ∨ c = '_' := by simpa [isDash] using isOne
    rcases isDashChar with rfl | rfl <;> exact absurd lowered (by decide)
  have noDash : Regex.ways text (.chars isDash) ⟨back ++ rest, []⟩ = [] := by
    simp [Regex.ways, isBack, notDash]
  rw [List.append_assoc, onCall_front on, noDash, List.flatMap_nil, List.nil_append]
  exact word_ways_spelled rest [] call

/-- `alert!` is not found where `alert` ends or a message part starts, so `alert` does not become an
alert of high priority. -/
theorem alertBang_dead (spelled : SpelledAs "alert".toList s)
    (ended : ∀ c ∈ rest.head?, isSpace c = true ∨ c = ':') :
    (word "alert!".toList).ways text ⟨s ++ rest, []⟩ = [] := by
  have found : afterWord "alert!".toList (s ++ rest) = afterWord ['!'] rest :=
    afterWord_append ['!'] rest spelled
  have nothing : afterWord ['!'] rest = none := by
    cases rest with
    | nil => rfl
    | cons c rest =>
      have notBang : c ≠ '!' := by
        rintro rfl
        exact absurd (ended '!' rfl) (by decide)
      rw [afterWord, sameLetter_plain (by decide), if_neg]
      intro same
      exact notBang (toLower_symbol (beq_iff_eq.mp same) rfl)
  rw [word_ways, found, nothing]
  rfl

/-- Where a word does not start with an `a`, the words of a page are those of `on-call`. -/
theorem alertBang_other {first : Char} {more : Text} (spelled : SpelledAs (first :: more) s)
    (different : first ≠ 'a') :
    alertWords.ways text ⟨s ++ rest, []⟩ = onCallWords.ways text ⟨s ++ rest, []⟩ := by
  have noBang : (word "alert!".toList).ways text ⟨s ++ rest, []⟩ = [] :=
    word_ways_other rest [] spelled different (by decide)
  have noAlert : (word "alert".toList).ways text ⟨s ++ rest, []⟩ = [] :=
    word_ways_other rest [] spelled different (by decide)
  rw [alertWords_split, noBang, noAlert]
  rfl

/-- The alternatives at a page command: the command itself comes first, and after it only
`alert` where `alert!` stands. -/
theorem alertWords_ways (spelled : SpelledAs commandWord.letters s)
    (ended : ∀ c ∈ rest.head?, isSpace c = true ∨ c = ':') (paging : commandWord.pages = true) :
    ∃ others, alertWords.ways text ⟨s ++ rest, []⟩ = ⟨rest, []⟩ :: others ∧
      ∀ other ∈ others, ∃ c ∈ other.rest.head?, isSpace c = false ∧ c ≠ ':' := by
  cases commandWord with
  | help => simp [CommandWord.pages] at paging
  | emergency => simp [CommandWord.pages] at paging
  | alert =>
    have alert : SpelledAs "alert".toList s := spelled
    refine ⟨[], ?_, by simp⟩
    rw [alertWords_split, alertBang_dead alert ended, word_ways_spelled rest [] alert,
      onCall_other alert (by decide)]
    rfl
  | alertBang =>
    have whole : SpelledAs "alert!".toList s := spelled
    obtain ⟨front, back, rfl, alert, bang⟩ :=
      spelledAs_append.mp (show SpelledAs ("alert".toList ++ ['!']) s from spelled)
    obtain ⟨c, back, rfl, lowered, _⟩ := List.map_eq_cons_iff.mp bang
    obtain rfl := toLower_symbol lowered rfl
    refine ⟨[⟨'!' :: (back ++ rest), []⟩], ?_, ?_⟩
    · have shorter : (word "alert".toList).ways text ⟨front ++ '!' :: back ++ rest, []⟩ =
          [⟨'!' :: (back ++ rest), []⟩] := by
        rw [List.append_assoc]
        exact word_ways_spelled _ [] alert
      rw [alertWords_split, word_ways_spelled rest [] whole, shorter,
        onCall_other whole (by decide)]
      rfl
    · intro other listed
      obtain rfl := List.mem_singleton.mp listed
      exact ⟨'!', rfl, by decide, by decide⟩
  | onDashCall =>
    refine ⟨[], ?_, by simp⟩
    rw [alertBang_other spelled (by decide)]
    exact onCall_dashed (by decide) spelled
  | onCall =>
    refine ⟨[], ?_, by simp⟩
    rw [alertBang_other spelled (by decide)]
    exact onCall_plain spelled
  | onUnderscoreCall =>
    refine ⟨[], ?_, by simp⟩
    rw [alertBang_other spelled (by decide)]
    exact onCall_dashed (by decide) spelled

/-- The words of a page match none of the words that open a room. -/
theorem alertWords_other (spelled : SpelledAs commandWord.letters s)
    (roomy : commandWord.pages = false) : alertWords.ways text ⟨s ++ rest, []⟩ = [] := by
  cases commandWord with
  | help =>
    rw [alertBang_other spelled (by decide)]
    exact onCall_other spelled (by decide)
  | emergency =>
    rw [alertBang_other spelled (by decide)]
    exact onCall_other spelled (by decide)
  | _ => simp [CommandWord.pages] at roomy

/-- A call for help: an incident room or an alert. -/
def Command.isCall : Command → Bool
  | incident _ _ | alert _ _ => true
  | _ => false

/-- Every command word is a call for help. -/
theorem CommandWord.command_isCall (body : Text) : (commandWord.command body).isCall = true := by
  cases commandWord <;> rfl

/-- The routes after those of the calls. -/
def laterRoutes (bot : BotConfig) : List HearsRoute :=
  (if bot.supportsAcknowledge then [⟨10, ackPattern, handleAck⟩] else []) ++
    [⟨80, implodePattern, fun _ => .implode⟩, ⟨90, usagePattern, fun _ => .usage⟩,
      ⟨99, unknownPattern, handleUnknown⟩]

/-- The routes of a bot that sends alerts start with those of the calls. -/
theorem bindThaumHandlers_calls (bot : BotConfig) (alerts : bot.sendAlerts = true) :
    bindThaumHandlers bot =
      ⟨10, commandPattern (word "help".toList) "summary".toList, handleHelpEmergency⟩ ::
        ((if bot.highPriOn then
          [⟨10, commandPattern (word "emergency".toList) "summary".toList, handleHelpEmergency⟩]
        else []) ++ ⟨10, alertCommandPattern, handleAlert bot⟩ :: laterRoutes bot) := by
  obtain ⟨_, urgent, acknowledges⟩ := bot
  subst alerts
  cases urgent <;> cases acknowledges <;> rfl

/-- A later route leads to no call, so a message that gets past the routes of the calls makes
none. -/
theorem laterRoutes_notCall {bot : BotConfig} {command : Command}
    (dispatched : dispatch text (laterRoutes bot) = some command) : command.isCall = false := by
  obtain ⟨route, listed, found, _, rfl⟩ := dispatch_some dispatched
  rcases List.mem_append.mp listed with acknowledges | other
  · split at acknowledges
    · obtain rfl := List.mem_singleton.mp acknowledges
      rfl
    · simp at acknowledges
  · simp only [List.mem_cons, List.not_mem_nil, or_false] at other
    rcases other with rfl | rfl | rfl <;> rfl

/-- The command is found among the captures beside the message. -/
theorem group_word {cmd : Text} (different : cmd ≠ name) :
    (Cursor.mk [] (captures name rest body ++ [(cmd, s)])).group cmd = some s := by
  unfold captures Cursor.group
  split
  · simp
  · simp [List.lookup_cons, beq_eq_false_iff_ne.mpr different]

/-- The message is found among the captures beside the command, and trimmed. -/
theorem trimmedGroup_body {cmd : Text} (follows : Follows rest body) (different : name ≠ cmd) :
    trimmedGroup ⟨[], captures name rest body ++ [(cmd, s)]⟩ name = strip body := by
  cases follows with
  | nothing =>
    simp [trimmedGroup, Cursor.group, captures, List.lookup_cons,
      beq_eq_false_iff_ne.mpr different]
  | message blank ends => simp [trimmedGroup, Cursor.group, captures]

/-- The handler of a room command, at what the pattern captured: the command in small case decides
on the priority. -/
theorem handleHelpEmergency_body (spelled : SpelledAs commandWord.letters s)
    (follows : Follows rest body) (roomy : commandWord.pages = false) :
    handleHelpEmergency
        ⟨[], captures "summary".toList rest body ++ [("cmd".toList, s)]⟩ =
      commandWord.command (strip body) := by
  have word := lower_spelled spelled (by cases commandWord <;> decide)
  rw [handleHelpEmergency, group_word (by decide), trimmedGroup_body follows (by decide),
    Option.getD_some, word]
  cases commandWord with
  | help => rfl
  | emergency => rfl
  | _ => simp [CommandWord.pages] at roomy

/-- The handler of a page command, at what the pattern captured. The exclamation mark decides on the
priority. -/
theorem handleAlert_body {bot : BotConfig} (urgent : bot.highPriOn = true)
    (spelled : SpelledAs commandWord.letters s) (follows : Follows rest body)
    (paging : commandWord.pages = true) :
    handleAlert bot ⟨[], captures "msg".toList rest body ++ [("cmd".toList, s)]⟩ =
      commandWord.command (strip body) := by
  have word := lower_spelled spelled (by cases commandWord <;> decide)
  rw [handleAlert, group_word (by decide), trimmedGroup_body follows (by decide),
    Option.getD_some, word, urgent]
  cases commandWord with
  | help => simp [CommandWord.pages] at paging
  | emergency => simp [CommandWord.pages] at paging
  | _ => rfl

/-- A route that is found carries out its command. -/
theorem dispatch_found {route : HearsRoute} {routes : List HearsRoute} {found : Cursor}
    (search : search route.pattern text = some found) :
    dispatch text (route :: routes) = some (route.handler found) := by
  rw [dispatch, search]

/-- A route that is not found passes the message on. -/
theorem dispatch_unfound {route : HearsRoute} {routes : List HearsRoute}
    (search : search route.pattern text = none) :
    dispatch text (route :: routes) = dispatch text routes := by
  rw [dispatch, search]

/-- Where one of the routes of the calls finds the command and its message and the others
do not, the message goes to its handler if it is on one line, and past it otherwise. -/
theorem dispatch_own {route : HearsRoute} {routes : List HearsRoute} {found : Cursor}
    {command : Command}
    (own : search route.pattern text = if '\n' ∈ body then none else some found)
    (handled : route.handler found = command) :
    dispatch text (route :: routes) =
      if '\n' ∈ body then dispatch text routes else some command := by
  split at own
  · rename_i newline
    rw [dispatch_unfound own, if_pos newline]
  · rename_i oneLine
    rw [dispatch_found own, handled, if_neg oneLine]

/-- A command reaches its handler with a message on one line, and no route of a call otherwise. The
routes are gone through one by one; each word is matched by one of them. -/
theorem hear_word {bot : BotConfig} (alerts : bot.sendAlerts = true)
    (urgent : bot.highPriOn = true) (spelled : SpelledAs commandWord.letters s)
    (follows : Follows rest body) :
    hear bot (s ++ rest) = if '\n' ∈ body then dispatch (s ++ rest) (laterRoutes bot)
      else some (commandWord.command (strip body)) := by
  have noHelp (different : commandWord ≠ .help) :
      search (commandPattern (word "help".toList) "summary".toList) (s ++ rest) = none := by
    apply commandPattern_unfound
    rw [help_ways spelled, if_neg different]
  have noEmergency (different : commandWord ≠ .emergency) :
      search (commandPattern (word "emergency".toList) "summary".toList) (s ++ rest) = none := by
    apply commandPattern_unfound
    rw [emergency_ways spelled, if_neg different]
  have heard : hear bot (s ++ rest) = dispatch (s ++ rest) (bindThaumHandlers bot) := rfl
  rw [heard, bindThaumHandlers_calls bot alerts, if_pos urgent, List.singleton_append]
  cases paging : commandWord.pages with
  | false =>
    have own : search (commandPattern (word commandWord.letters) "summary".toList) (s ++ rest) =
        if '\n' ∈ body then none
        else some ⟨[], captures "summary".toList rest body ++ [("cmd".toList, s)]⟩ :=
      commandPattern_search follows (word_ways_spelled rest [] spelled) (by simp)
    have handled := handleHelpEmergency_body spelled follows paging
    have noAlert : search alertCommandPattern (s ++ rest) = none :=
      commandPattern_unfound (alertWords_other spelled paging)
    cases commandWord with
    | help =>
      rw [dispatch_own own handled, dispatch_unfound (noEmergency (by decide)),
        dispatch_unfound noAlert]
    | emergency =>
      rw [dispatch_unfound (noHelp (by decide)), dispatch_own own handled,
        dispatch_unfound noAlert]
    | _ => simp [CommandWord.pages] at paging
  | true =>
    obtain ⟨others, ways, dead⟩ := alertWords_ways spelled (follows_head follows) paging
    have own : search alertCommandPattern (s ++ rest) =
        if '\n' ∈ body then none
        else some ⟨[], captures "msg".toList rest body ++ [("cmd".toList, s)]⟩ :=
      commandPattern_search follows ways dead
    have notHelp : commandWord ≠ .help := by
      rintro rfl
      simp [CommandWord.pages] at paging
    have notEmergency : commandWord ≠ .emergency := by
      rintro rfl
      simp [CommandWord.pages] at paging
    rw [dispatch_unfound (noHelp notHelp), dispatch_unfound (noEmergency notEmergency),
      dispatch_own own (handleAlert_body urgent spelled follows paging)]

/-- A command word is not trimmed away, so only the right end of the text is. -/
theorem strip_word (spelled : SpelledAs commandWord.letters s) (rest : Text) :
    strip (s ++ rest) = rstrip (s ++ rest) := by
  have solid := spelled_solid spelled (by cases commandWord <;> decide)
  cases s with
  | nil => cases commandWord <;> exact absurd spelled (by decide)
  | cons c s =>
    have first : isSpace c = false := solid c List.mem_cons_self
    have front : lstrip (c :: s ++ rest) = c :: s ++ rest :=
      List.dropWhile_cons_of_neg (by simp [first])
    rw [strip, front]

/-- A message to a bot that sends alerts of both priorities reaches the handler of its command with
the trimmed body exactly where that body is on one line; a bare command always does.

Proof: the trimmed text is the command word and what follows it, a colon and the body or nothing.
Such a text goes to the handler of its word where the body is on one line. Otherwise it gets past
the routes of the calls, and the later ones lead to no call. -/
theorem command_heard_iff (bot : BotConfig) (alerts : bot.sendAlerts = true)
    (urgent : bot.highPriOn = true) (commandWord : CommandWord) (s beforeColon afterColon b : Text)
    (spelled : SpelledAs commandWord.letters s) (blankBefore : beforeColon.all isSpace = true)
    (blankAfter : afterColon.all isSpace = true) :
    (hear bot (strip (s ++ beforeColon ++ ':' :: (afterColon ++ b))) =
        some (commandWord.command (strip b)) ↔ '\n' ∉ strip b) ∧
      hear bot (strip (s ++ beforeColon)) = some (commandWord.command []) := by
  have bodyLeft : lstrip (rstrip (afterColon ++ b)) = strip b := by
    rw [lstrip_rstrip, strip_append b blankAfter]
  have follows : Follows (beforeColon ++ ':' :: rstrip (afterColon ++ b)) (strip b) :=
    bodyLeft ▸ Follows.message blankBefore (rstrip_ends _)
  have cleaned : strip (s ++ beforeColon ++ ':' :: (afterColon ++ b)) =
      s ++ (beforeColon ++ ':' :: rstrip (afterColon ++ b)) := by
    rw [List.append_assoc, strip_word spelled, ← List.append_assoc,
      rstrip_append _ _ (by decide), List.append_assoc]
  have bare : strip (s ++ beforeColon) = s ++ [] := by
    have solid := spelled_solid spelled (by cases commandWord <;> decide)
    have kept : rstrip s = s := List.rdropWhile_eq_self_iff.mpr fun nonempty => by
      simp [solid _ (List.getLast_mem nonempty)]
    rw [strip_word spelled, rstrip_append_blank s blankBefore, kept, List.append_nil]
  constructor
  · rw [cleaned, hear_word alerts urgent spelled follows, strip_strip]
    split
    · rename_i newline
      refine iff_of_false ?_ (not_not.mpr newline)
      intro dispatched
      have notCall := laterRoutes_notCall dispatched
      rw [CommandWord.command_isCall] at notCall
      exact absurd notCall (by decide)
    · rename_i oneLine
      exact iff_of_true rfl oneLine
  · rw [bare, hear_word alerts urgent spelled Follows.nothing]
    rfl

section Example

/-- A bot with every route. -/
def fullBot : BotConfig := { sendAlerts := true, highPriOn := true, supportsAcknowledge := true }

/-- An emergency described on two lines opens no room, and nothing answers it. -/
theorem two_line_emergency_ignored :
    hear fullBot (strip "emergency: disk full\non db1".toList) = none := by
  decide +kernel

/-- The same emergency on one line. -/
theorem one_line_emergency_heard :
    hear fullBot (strip ("emergency".toList ++ [] ++ ':' :: (" ".toList ++ "disk full".toList))) =
      some (.incident .high "disk full".toList) :=
  (command_heard_iff fullBot rfl rfl .emergency "emergency".toList [] " ".toList
    "disk full".toList rfl rfl rfl).1.mpr (by decide)

end Example

end Thaum.Bots
