import Thaum.Admin.ClientRequest
import Thaum.Bots.WebhookRegistration
import Thaum.Library.UrlPath
import Thaum.Settings.SchemaCheck

/-!
# The route of a bot's webhook

`create_app` takes the messages for a bot at `/bot/` and the bot's key. The URL that is
registered for it is put together elsewhere, from the base URL, a prefix of the
configuration and the key as it stands.

A path is percent-decoded before it is matched, and a placeholder of a route takes one
segment of it that is not empty. A route without placeholders goes before one with them.
-/

namespace Thaum.Web

open PyText PyUrl PyModels Settings Bots
open AdminLogLevel (routeIdWellFormed)

/-- What the POST routes of `create_app` read: the route id of the log-level route where it
is enabled, and the keys of `BOTS`. -/
structure App where
  adminRoute : Option Text
  wellFormed : ∀ routeId ∈ adminRoute, routeIdWellFormed routeId = true
  bots : List Text

/-- A handler of a POST, with the value of its placeholder. -/
inductive PostRoute where
  | botWebhook : (botKey : Text) → PostRoute
  | adminLogLevel : PostRoute
  | alertStatusWebhook : (botKey : Text) → PostRoute
deriving DecidableEq

/-- The route of a POST to a decoded path. -/
def App.postRoute (app : App) (path : Text) : Option PostRoute :=
  match path.splitOn '/' with
  | [[], first, last] =>
    if app.adminRoute = some first ∧ last = "log-level".toList then some .adminLogLevel
    else if first = "bot".toList ∧ last ≠ [] then some (.botWebhook last)
    else none
  | [[], first, botKey, last] =>
    if first = "alerts".toList ∧ botKey ≠ [] ∧ last = "status".toList then
      some (.alertStatusWebhook botKey)
    else none
  | _ => none

/-- The key of the bot that a POST gets to: `BOTS.get(bot_key)` in `bot_webhook`. -/
def App.botReached (app : App) (path : Text) : Option Text :=
  match app.postRoute path with
  | some (.botWebhook botKey) => if app.bots.contains botKey then some botKey else none
  | _ => none

/-- The app of a configuration: `initialize_bots` fills `BOTS` under the keys of the rows. -/
def App.Serves (app : App) (config : LoadedConfig) : Prop := app.bots = config.bots.map Prod.fst

/-- The target that `register_bot_webhook` gives for a validated bot. -/
def registeredTarget (bot : Table) : Text := strip ((textSetting bot "endpoint").getD [])

/-- A POST to the path of the registered target gets to the bot with the key. -/
def App.Reaches (app : App) (bot : Table) (botKey : Text) : Prop :=
  app.botReached (unquote (pathOf (registeredTarget bot))) = some botKey

instance (app : App) (bot : Table) (botKey : Text) : Decidable (app.Reaches bot botKey) :=
  inferInstanceAs (Decidable (_ = _))

/-- What stands in front of the slash and the key in an injected endpoint, without the
blanks in front of it. -/
def webhookRoot (server : Table) : Text :=
  lstrip ((textSetting server "base_url").getD [] ++
    rstripSlash (orElse ((textSetting server "bot_url_prefix").getD []) "/bot".toList))

/-- A key that stands in a URL for itself: a text that is not empty, with no mark of a URL
in it, no tab or line end, no blank at its end and nothing that percent-decoding changes. -/
structure PlainKey (botKey : Text) : Prop where
  nonempty : botKey ≠ []
  unmarked : ∀ c ∈ botKey, isDelimiter c = false ∧ isDropped c = false
  trimmed : rstrip botKey = botKey
  unescaped : unquote botKey = botKey

/-- Base URL and prefix have the path of the route, and no query. -/
def RoutedRoot (root : Text) : Prop := hasQuery root = false ∧ unquote (pathOf root) = "/bot".toList

/-- Base URL and prefix have a query, so that the key is no part of the path, and the path
in front of it is that of the bot by itself. -/
def KeyedRoot (root botKey : Text) : Prop :=
  hasQuery root = true ∧ unquote (pathOf root) = "/bot/".toList ++ botKey ∧
    botKey ≠ [] ∧ '/' ∉ botKey

variable {app : App} {bot server row : Table} {botKey path root s : Text}

/-- The route id of the log-level route is too long for a route of a bot. -/
theorem App.adminRoute_ne (app : App) : app.adminRoute ≠ some "bot".toList := by
  intro isBot
  exact absurd (app.wellFormed _ isBot) (by decide)

/-- The segments of a path under `/bot/`. -/
theorem splitOn_under (more : Text) :
    ("/bot/".toList ++ more).splitOn '/' = [] :: "bot".toList :: more.splitOn '/' := by
  have root : ([] ++ '/' :: ("bot".toList ++ '/' :: more)).splitOn '/' =
      [] :: ("bot".toList ++ '/' :: more).splitOn '/' :=
    List.splitOn_append_cons_self_of_not_mem List.not_mem_nil _
  have bot : ("bot".toList ++ '/' :: more).splitOn '/' = "bot".toList :: more.splitOn '/' :=
    List.splitOn_append_cons_self_of_not_mem (by decide) _
  rw [bot] at root
  exact root

/-- A text without a slash is one segment. -/
theorem splitOn_single (s : Text) : s.splitOn '/' = [s] ↔ '/' ∉ s := by
  constructor
  · intro single slashed
    obtain ⟨front, rest, rfl, absent⟩ := List.eq_append_cons_of_mem slashed
    rw [List.splitOn_append_cons_self_of_not_mem absent] at single
    exact List.splitOn_ne_nil _ _ (List.cons.inj single).2
  · exact List.splitOn_eq_singleton

/-- A path has the segments of a bot's route where it is that route and the key has no slash. -/
theorem splitOn_bot : path.splitOn '/' = [[], "bot".toList, botKey] ↔
    path = "/bot/".toList ++ botKey ∧ '/' ∉ botKey := by
  constructor
  · intro segments
    have joined : ['/'].intercalate (path.splitOn '/') = path := List.intercalate_splitOn '/'
    rw [segments] at joined
    have isPath : path = "/bot/".toList ++ botKey := by
      rw [← joined]
      simp [List.intercalate_cons_cons]
    rw [isPath, splitOn_under] at segments
    exact ⟨isPath, (splitOn_single _).mp (List.cons.inj (List.cons.inj segments).2).2⟩
  · rintro ⟨rfl, single⟩
    rw [splitOn_under, (splitOn_single _).mpr single]

/-- A POST gets to a bot exactly where its path is the bot's route: the key is one segment, and not
empty. -/
theorem App.botReached_iff (served : botKey ∈ app.bots) :
    app.botReached path = some botKey ↔
      path = "/bot/".toList ++ botKey ∧ botKey ≠ [] ∧ '/' ∉ botKey := by
  have routed (segments : path.splitOn '/' = [[], "bot".toList, botKey]) (named : botKey ≠ []) :
      app.postRoute path = some (.botWebhook botKey) := by
    have otherRoute : ¬ (app.adminRoute = some "bot".toList ∧ botKey = "log-level".toList) :=
      fun isAdmin => app.adminRoute_ne isAdmin.1
    rw [App.postRoute, segments]
    dsimp only
    rw [if_neg otherRoute, if_pos ⟨rfl, named⟩]
  constructor
  · intro reached
    unfold App.botReached at reached
    split at reached
    · rename_i segment isRoute
      split at reached
      · obtain rfl := Option.some.inj reached
        unfold App.postRoute at isRoute
        split at isRoute
        · rename_i first last segments
          split at isRoute
          · cases isRoute
          · split at isRoute
            · rename_i isBot
              obtain rfl := PostRoute.botWebhook.inj (Option.some.inj isRoute)
              rw [isBot.1] at segments
              obtain ⟨isPath, single⟩ := splitOn_bot.mp segments
              exact ⟨isPath, isBot.2, single⟩
            · cases isRoute
        · split at isRoute
          · cases isRoute
          · cases isRoute
        · cases isRoute
      · cases reached
    · cases reached
  · rintro ⟨isPath, named, single⟩
    rw [App.botReached, routed (splitOn_bot.mpr ⟨isPath, single⟩) named]
    exact if_pos (List.contains_iff_mem.mpr served)

/-- The validator before the fields leaves every other setting, the endpoint among them. -/
theorem classifyHmac_other {runtime : Runtime} {table : Table} {name : Text}
    (notMode : name ≠ "hmac_mode".toList) (notSecret : name ≠ "hmac_secret".toList) :
    (classifyHmac runtime table).lookup name = table.lookup name := by
  have both (mode secret : Value) :
      (setEntry "hmac_mode" mode (setEntry "hmac_secret" secret table)).lookup name =
        table.lookup name := by
    rw [lookup_setEntry_other notMode, lookup_setEntry_other notSecret]
  unfold classifyHmac
  split
  · rfl
  · split
    · exact lookup_setEntry_other notMode _ _
    · exact both _ _
    · split
      · exact both _ _
      · exact lookup_setEntry_other notMode _ _

/-- The endpoint of a bot that brings none is the injected one. -/
theorem validateBotConfig_endpoint {runtime : Runtime}
    (validated : validateBotConfig runtime server botKey row = some bot)
    (injected : row.lookup "endpoint".toList = none) :
    textSetting bot "endpoint" = some (botEndpoint server botKey) := by
  obtain ⟨read, isRead, accepted⟩ := Option.bind_eq_some_iff.mp validated
  have isRead := (Option.filter_eq_some_iff.mp isRead).1
  have given : (classifyHmac runtime (cleanRow server botKey row)).lookup "endpoint".toList =
      some (.text (botEndpoint server botKey)) := by
    rw [classifyHmac_other (by decide) (by decide), cleanRow, List.lookup_append,
      lookup_filter fun key => !runtimeKeys.contains key, injected]
    rfl
  have listed : scalar runtime "endpoint" .str none ∈ (webexChatBotModel runtime).fields := by
    simp [webexChatBotModel, baseChatBotFields]
  have found : read.lookup "endpoint".toList = _ :=
    readFields_lookup isRead (webexChatBotModel_names runtime) listed
  have isText : (scalar runtime "endpoint" .str none).value
      (classifyHmac runtime (cleanRow server botKey row)) =
        runtime.conversions.convert .str (.text (botEndpoint server botKey)) :=
    ModelField.value_given given
  rw [isText, runtime.conversions.exact rfl] at found
  rw [textSetting, validateHmac_lookup (by decide) accepted, found]
  rfl

/-- The registered target of an injected endpoint: blanks behind the key are dropped. -/
theorem strip_botEndpoint :
    strip (botEndpoint server botKey) = webhookRoot server ++ '/' :: rstrip botKey := by
  have slash : lstrip ('/' :: botKey) = '/' :: botKey := List.dropWhile_cons_of_neg (by decide)
  have front (s : Text) : lstrip (s ++ '/' :: botKey) = lstrip s ++ '/' :: botKey := by
    unfold lstrip at slash ⊢
    rw [List.dropWhile_append, slash]
    split
    · rename_i nothing
      rw [List.isEmpty_iff.mp nothing]
      rfl
    · rfl
  rw [strip, botEndpoint, front, rstrip_append _ _ (by decide)]
  rfl

/-- A key that goes through the URL and its path unchanged stands for itself. -/
theorem plainKey_of_path (named : botKey ≠ []) (single : '/' ∉ botKey)
    (same : unquote (cutQuery ((rstrip botKey).filter fun c => !isDropped c)) = botKey) :
    PlainKey botKey := by
  have trimmed : rstrip botKey <+: botKey := List.rdropWhile_prefix _ _
  have kept := List.filter_sublist (p := fun c => !isDropped c) (l := rstrip botKey)
  have cut := cutQuery_begins ((rstrip botKey).filter fun c => !isDropped c)
  have decoded := unquote_length (cutQuery ((rstrip botKey).filter fun c => !isDropped c))
  -- no step makes the key longer, so that none changes it
  have lengths := congrArg List.length same
  have isTrimmed : rstrip botKey = botKey := by
    apply trimmed.eq_of_length
    have first := trimmed.length_le
    have second := kept.length_le
    have third := cut.length_le
    omega
  rw [isTrimmed] at kept cut decoded same lengths
  have isKept : botKey.filter (fun c => !isDropped c) = botKey := by
    apply kept.eq_of_length
    have second := kept.length_le
    have third := cut.length_le
    omega
  rw [isKept] at cut decoded same lengths
  have isCut : cutQuery botKey = botKey := by
    apply cut.eq_of_length
    have third := cut.length_le
    omega
  rw [isCut] at same
  refine ⟨named, ?_, isTrimmed, same⟩
  intro c listed
  have unmarked := cutQuery_unmarked c (isCut.symm ▸ listed)
  have notSlash : c ≠ '/' := fun slash => single (slash ▸ listed)
  rw [Bool.or_eq_false_iff] at unmarked
  constructor
  · rw [isDelimiter, unmarked.1, unmarked.2, beq_false_of_ne notSlash]
    rfl
  · simpa using List.filter_eq_self.mp isKept c listed

/-- A key that stands for itself goes through the URL and its path unchanged. -/
theorem PlainKey.decoded (plain : PlainKey botKey) :
    unquote (cutQuery ((rstrip botKey).filter fun c => !isDropped c)) = botKey := by
  have kept : botKey.filter (fun c => !isDropped c) = botKey := by
    apply List.filter_eq_self.mpr
    intro c listed
    rw [(plain.unmarked c listed).2]
    rfl
  have whole : cutQuery botKey = botKey := by
    apply cutQuery_whole
    intro c listed
    have solid := (plain.unmarked c listed).1
    rw [isDelimiter, Bool.or_assoc, Bool.or_eq_false_iff] at solid
    exact solid.2
  rw [plain.trimmed, kept, whole, plain.unescaped]

/-- Such a key has no slash. -/
theorem PlainKey.single (plain : PlainKey botKey) : '/' ∉ botKey := fun listed =>
  absurd (plain.unmarked '/' listed).1 (by decide)

/-- Behind a root without a query the path goes on with a slash and the key. -/
theorem unquote_path (notBare : ¬ Bare root) (unqueried : hasQuery root = false) :
    unquote (pathOf (root ++ '/' :: s)) =
      unquote (pathOf root) ++ '/' :: unquote (cutQuery (s.filter fun c => !isDropped c)) := by
  have rootPath : pathOf root = pathOnwards root :=
    cutQuery_whole fun c listed => by simpa using List.any_eq_false.mp unqueried c listed
  have slash (more : Text) : cutQuery ('/' :: more) = '/' :: cutQuery more :=
    cutQuery_plain (s := ['/']) more rfl
  rw [rootPath, pathOf, pathOnwards_append_slash notBare, cutQuery_plain _ unqueried, slash]
  exact unquoteFrom_append_slash _ _

/-- A path and a key that stand around one slash are those of a bot's route, if the key is not
longer than that of the bot: the last slash of the route is the one in front of its key. -/
theorem append_slash_inj {front back : Text} (single : '/' ∉ botKey)
    (short : back.length ≤ botKey.length)
    (same : front ++ '/' :: back = "/bot".toList ++ '/' :: botKey) :
    front = "/bot".toList ∧ back = botKey := by
  rcases List.append_eq_append_iff.mp same with
    ⟨between, isBot, behind⟩ | ⟨between, isFront, behind⟩
  · cases between with
    | nil => exact ⟨(isBot.trans (List.append_nil _)).symm, (List.cons.inj behind).2⟩
    | cons c between =>
      have lengths : back.length = (between ++ '/' :: botKey).length :=
        congrArg List.length (List.cons.inj behind).2
      rw [List.length_append, List.length_cons] at lengths
      omega
  · cases between with
    | nil => exact ⟨isFront.trans (List.append_nil _), (List.cons.inj behind).2.symm⟩
    | cons c between =>
      refine absurd ?_ single
      rw [(List.cons.inj behind).2]
      simp

/-- Behind a root that is no more than a scheme and a slash stands no route of a bot. -/
theorem bare_unrouted (botKey : Text) (bare : Bare root) :
    unquote (pathOf (root ++ '/' :: rstrip botKey)) ≠ "/bot/".toList ++ botKey ∧
      ¬ RoutedRoot root ∧ ¬ KeyedRoot root botKey := by
  refine ⟨?_, ?_, ?_⟩
  · intro routed
    have bound := (unquote_length _).trans (pathOf_bare bare (rstrip botKey))
    have trimmed := (List.rdropWhile_prefix isSpace botKey).length_le
    rw [routed, List.length_append] at bound
    change 5 + botKey.length ≤ _ at bound
    change (rstrip botKey).length ≤ _ at trimmed
    omega
  · rintro ⟨-, routed⟩
    have bound := (unquote_length _).trans (pathOf_length root)
    rw [routed] at bound
    rcases bare with nothing | slash
    · rw [nothing] at bound
      exact absurd bound (by decide)
    · rw [slash] at bound
      exact absurd bound (by decide)
  · rintro ⟨queried, -⟩
    rw [hasQuery, pathOnwards] at queried
    rcases bare with nothing | slash
    · rw [nothing] at queried
      exact absurd queried (by decide)
    · rw [slash] at queried
      exact absurd queried (by decide)

/-- What the root and the key have to be for the path of the target to be the bot's route. -/
theorem routed_iff :
    (unquote (pathOf (root ++ '/' :: rstrip botKey)) = "/bot/".toList ++ botKey ∧
        botKey ≠ [] ∧ '/' ∉ botKey) ↔
      RoutedRoot root ∧ PlainKey botKey ∨ KeyedRoot root botKey := by
  by_cases bare : Bare root
  · obtain ⟨unrouted, notRouted, notKeyed⟩ := bare_unrouted botKey bare
    tauto
  · cases queried : hasQuery root with
    | true =>
      have samePath : pathOf (root ++ '/' :: rstrip botKey) = pathOf root := by
        rw [pathOf, pathOnwards_append_slash bare, cutQuery_queried _ queried]
        rfl
      rw [samePath, RoutedRoot, KeyedRoot, queried]
      simp
    | false =>
      rw [unquote_path bare queried, RoutedRoot, KeyedRoot, queried]
      have short : (unquote (cutQuery ((rstrip botKey).filter fun c => !isDropped c))).length ≤
          botKey.length :=
        (unquote_length _).trans ((cutQuery_begins _).length_le.trans
          ((List.length_filter_le _ _).trans (List.rdropWhile_prefix _ _).length_le))
      constructor
      · rintro ⟨same, named, single⟩
        obtain ⟨isBot, isKey⟩ := append_slash_inj single short same
        exact Or.inl ⟨⟨rfl, isBot⟩, plainKey_of_path named single isKey⟩
      · rintro (⟨⟨-, isBot⟩, plain⟩ | ⟨impossible, -⟩)
        · rw [isBot, plain.decoded]
          exact ⟨rfl, plain.nonempty, plain.single⟩
        · cases impossible

/-- A POST to the path of the registered target gets to the bot exactly where base URL and prefix
have the path `/bot` and no query and the key stands for itself, or where they have a query and the
whole path of the bot in front of it.

Proof: the target is the root, a slash and the key, and a POST gets to the bot exactly where the
decoded path of that URL is the bot's route. Without a query the path is that of the root and then
the key, so each of the two has to be right by itself; with one the key is no part of the path at
all, and a root that is only a scheme and a slash has no path of a bot. -/
theorem registered_target_reaches_iff (runtime : Runtime) {config : LoadedConfig} (app : App)
    (serves : app.Serves config) {botKey : Text} {row bot : Table}
    (listed : (botKey, row) ∈ config.bots)
    (validated : validateBotConfig runtime config.server botKey row = some bot)
    (injected : row.lookup "endpoint".toList = none) :
    app.Reaches bot botKey ↔
      RoutedRoot (webhookRoot config.server) ∧ PlainKey botKey ∨
        KeyedRoot (webhookRoot config.server) botKey := by
  have served : botKey ∈ app.bots := by
    rw [serves]
    exact List.mem_map.mpr ⟨(botKey, row), listed, rfl⟩
  rw [App.Reaches, App.botReached_iff served, registeredTarget,
    validateBotConfig_endpoint validated injected, Option.getD_some, strip_botEndpoint,
    routed_iff]

section Example

/-- A file with one bot under a key, and a prefix for its URL. -/
def prefixedFile (urlPrefix botKey : Text) : Table :=
  [("server".toList, .table [("base_url".toList, .text "https://thaum.example/".toList),
      ("bot_type".toList, .text "webex_bot".toList), ("bot_url_prefix".toList, .text urlPrefix)]),
    ("bots".toList, .table [(botKey, .table (exampleBot "env:HOOK".toList))])]

/-- Its app, without the log-level route. -/
def oneBotApp (botKey : Text) : App where
  adminRoute := none
  wellFormed := by simp
  bots := [botKey]

/-- The file is accepted, and a POST to the target that is registered does not get to the bot. -/
def Unreached (urlPrefix botKey : Text) : Prop :=
  ∃ config row bot, loadAndValidate deployedRuntime (fun _ => none)
      (prefixedFile urlPrefix botKey) = some config ∧
    (oneBotApp botKey).Serves config ∧ (botKey, row) ∈ config.bots ∧
    validateBotConfig deployedRuntime config.server botKey row = some bot ∧
    row.lookup "endpoint".toList = none ∧ ¬ (oneBotApp botKey).Reaches bot botKey

/-- Under another prefix than `/bot` the bot is not reached, nor under a key with a slash. -/
theorem other_prefix_unreached :
    Unreached "/webex".toList "incident".toList ∧
      Unreached "/bot".toList "ops/incident".toList := by
  constructor
  · refine ⟨_, _, _, rfl, rfl, List.mem_singleton.mpr rfl, rfl, rfl, ?_⟩
    decide +kernel
  · refine ⟨_, _, _, rfl, rfl, List.mem_singleton.mpr rfl, rfl, rfl, ?_⟩
    decide +kernel

/-- A slash at the end of the prefix is dropped. -/
theorem trailing_slash_routed :
    ∃ config row bot, loadAndValidate deployedRuntime (fun _ => none)
        (prefixedFile "/bot/".toList "incident".toList) = some config ∧
      (oneBotApp "incident".toList).Serves config ∧ ("incident".toList, row) ∈ config.bots ∧
      validateBotConfig deployedRuntime config.server "incident".toList row = some bot ∧
      row.lookup "endpoint".toList = none ∧ RoutedRoot (webhookRoot config.server) := by
  refine ⟨_, _, _, rfl, rfl, List.mem_singleton.mpr rfl, rfl, rfl, ?_, ?_⟩
  · decide +kernel
  · decide +kernel

/-- So with that prefix the bot is reached. -/
theorem trailing_slash_reached :
    ∃ config bot, loadAndValidate deployedRuntime (fun _ => none)
        (prefixedFile "/bot/".toList "incident".toList) = some config ∧
      (oneBotApp "incident".toList).Reaches bot "incident".toList := by
  obtain ⟨config, row, bot, loaded, serves, listed, validated, injected, routed⟩ :=
    trailing_slash_routed
  have plain : PlainKey "incident".toList := by
    constructor
    · decide
    · decide
    · decide
    · exact unquoteFrom_plain (by decide)
  exact ⟨config, bot, loaded, (registered_target_reaches_iff deployedRuntime _ serves listed
    validated injected).mpr (Or.inl ⟨routed, plain⟩)⟩

end Example

end Thaum.Web
