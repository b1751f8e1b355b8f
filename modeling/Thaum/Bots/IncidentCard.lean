import Thaum.Library.JsonLayout

/-!
# The card of an incident prompt

The card is the text of a template, rendered and read as JSON: the template of the bot or of
a file, and the default one where there is none or where it does not give a card. The
default template writes each setting through the `tojson` filter, so it gives a card whatever
the settings are, and a setting never stands anywhere but in the text it is for.

The template engine and the file system are passed in.
-/

namespace Thaum.Bots

open PyText JsonText

/-- The settings of a bot that its card is made of; the flags are their truth values. -/
structure CardBot where
  handle : Text
  teamDescription : Text
  displayName : Option Text
  phoneNumber : Option Text
  cardExtraTextTemplate : Option Text
  incidentPromptCardTemplate : Option Text
  incidentPromptCardTemplatePath : Option Text
  sendAlerts : Bool
  highPriOn : Bool
  baseUrl : Option Text

/-- The context that a card is rendered in. -/
structure CardContext where
  teamDescription : Text
  botName : Text
  phoneNumber : Text
  sendAlerts : Bool
  extraCardText : Text
  defaultHighPriority : Bool
  showPriorityToggle : Bool
  baseUrl : Text

def CardContext.showPhone (context : CardContext) : Bool := context.phoneNumber != []

def CardContext.showExtraCardText (context : CardContext) : Bool := context.extraCardText != []

def textVar (name : String) (s : Text) : Text × Value := (name.toList, .str (ofText s))

def flagVar (name : String) (flag : Bool) : Text × Value := (name.toList, .bool flag)

/-- The variables of the context. -/
def CardContext.vars (context : CardContext) : List (Text × Value) :=
  [textVar "team_description" context.teamDescription, textVar "bot_name" context.botName,
    textVar "phone_number" context.phoneNumber, flagVar "send_alerts" context.sendAlerts,
    textVar "extra_card_text" context.extraCardText, flagVar "show_phone" context.showPhone,
    flagVar "show_extra_card_text" context.showExtraCardText,
    flagVar "default_high_priority" context.defaultHighPriority,
    flagVar "show_priority_toggle" context.showPriorityToggle,
    textVar "base_url" context.baseUrl]

/-- The expressions of the default template. -/
inductive CardExpr where
  | greeting | botName | showPhone | phoneNumber | extraCardText | showExtraCardText
  | defaultHighPriority | showPriorityToggle
deriving DecidableEq

/-- An expression as it stands in the template. -/
def CardExpr.source : CardExpr → Text
  | .greeting => "(\"How can \" ~ team_description ~ \" help you today?\") | tojson".toList
  | .botName => "bot_name | tojson".toList
  | .showPhone => "show_phone | tojson".toList
  | .phoneNumber => "phone_number | tojson".toList
  | .extraCardText => "extra_card_text | tojson".toList
  | .showExtraCardText => "show_extra_card_text | tojson".toList
  | .defaultHighPriority => "(\"true\" if default_high_priority else \"false\") | tojson".toList
  | .showPriorityToggle => "show_priority_toggle | tojson".toList

/-- What the filter of an expression is applied to. -/
def CardExpr.value (context : CardContext) : CardExpr → Value
  | .greeting =>
    .str (ofText ("How can ".toList ++ context.teamDescription ++ " help you today?".toList))
  | .botName => .str (ofText context.botName)
  | .showPhone => .bool context.showPhone
  | .phoneNumber => .str (ofText context.phoneNumber)
  | .extraCardText => .str (ofText context.extraCardText)
  | .showExtraCardText => .bool context.showExtraCardText
  | .defaultHighPriority => .str (ofText (boolText context.defaultHighPriority))
  | .showPriorityToggle => .bool context.showPriorityToggle

section Template

/-- A member on a line of its own, and the last one. -/
def member (indent : Nat) (name : String) (item : Layout CardExpr) (others : Members CardExpr) :
    Members CardExpr := .more (.line indent) name.toList item others

/-- The last member of an object, without a comma. -/
def lastMember (indent closing : Nat) (name : String) (item : Layout CardExpr) :
    Members CardExpr := .last (.line indent) name.toList item (.line closing)

/-- A text of the card. -/
def text (s : String) : Layout CardExpr := .str s.toList

/-- A column whose one item is a text; `wrap` is set or the weight is given. -/
def labelColumn (label : String) : Layout CardExpr :=
  .obj <| member 10 "type" (text "Column") <| member 10 "width" (text "auto") <|
    lastMember 10 8 "items" <| .arr <| .last .none
      (.obj <| member 12 "type" (text "TextBlock") <| member 12 "text" (text label) <|
        member 12 "weight" (text "Bolder") <| lastMember 12 10 "spacing" (text "None")) .none

def valueColumn (value : CardExpr) : Layout CardExpr :=
  .obj <| member 10 "type" (text "Column") <| member 10 "width" (text "stretch") <|
    lastMember 10 8 "items" <| .arr <| .last .none
      (.obj <| member 12 "type" (text "TextBlock") <| member 12 "text" (.hole value) <|
        member 12 "wrap" (.bool true) <| lastMember 12 10 "spacing" (text "None")) .none

/-- Columns side by side. -/
def columns (label : String) (value : CardExpr) : Layout CardExpr :=
  .arr <| .more (.line 8) (labelColumn label) <| .last (.line 8) (valueColumn value) (.line 6)

/-- The items of the card. -/
def cardBody : Items CardExpr :=
  .more (.line 4) (.obj <| member 6 "type" (text "TextBlock") <|
    member 6 "text" (.hole .greeting) <| lastMember 6 4 "wrap" (.bool true)) <|
  .more (.line 4) (.obj <| member 6 "type" (text "ColumnSet") <|
    lastMember 6 4 "columns" (columns "Bot:" .botName)) <|
  .more (.line 4) (.obj <| member 6 "type" (text "ColumnSet") <|
    member 6 "isVisible" (.hole .showPhone) <|
    lastMember 6 4 "columns" (columns "Phone:" .phoneNumber)) <|
  .more (.line 4) (.obj <| member 6 "type" (text "TextBlock") <|
    member 6 "text" (.hole .extraCardText) <| member 6 "wrap" (.bool true) <|
    member 6 "isVisible" (.hole .showExtraCardText) <|
    lastMember 6 4 "spacing" (text "Small")) <|
  .more (.line 4) (.obj <| member 6 "type" (text "Input.Text") <|
    member 6 "id" (text "summary") <| member 6 "label" (text "Summary") <|
    member 6 "placeholder"
      (text "Briefly describe what you need (if spaces fail in Webex, use +)") <|
    member 6 "isMultiline" (.bool true) <| lastMember 6 4 "isRequired" (.bool true)) <|
  .last (.line 4) (.obj <| member 6 "type" (text "Input.Toggle") <|
    member 6 "id" (text "is_emergency") <|
    member 6 "title" (text "High priority (emergency) alert") <|
    member 6 "value" (.hole .defaultHighPriority) <| member 6 "valueOn" (text "true") <|
    member 6 "valueOff" (text "false") <|
    lastMember 6 4 "isVisible" (.hole .showPriorityToggle)) (.line 2)

/-- The buttons of the card. -/
def cardActions : Items CardExpr :=
  .last (.line 4) (.obj <| member 6 "type" (text "Action.Submit") <|
    member 6 "title" (text "Submit") <| lastMember 6 4 "data" <| .obj <|
      lastMember 8 6 "action" (text "submit_incident")) (.line 2)

/-- The object of `DEFAULT_INCIDENT_PROMPT_CARD_TEMPLATE`. -/
def defaultCardLayout : Layout CardExpr :=
  .obj <| member 2 "$schema" (text "http://adaptivecards.io/schemas/adaptive-card.json") <|
    member 2 "type" (text "AdaptiveCard") <| member 2 "version" (text "1.3") <|
    member 2 "body" (.arr cardBody) <| lastMember 2 0 "actions" (.arr cardActions)

/-- The comment of the template; it stands on lines of its own. -/
def cardComment : Text :=
  ("# Card context: team_description, bot_name, phone_number, send_alerts,\n" ++
    "   extra_card_text, show_phone, show_extra_card_text, default_high_priority,\n" ++
    "   show_priority_toggle, base_url. Optional rows use isVisible, not ").toList ++
  '{' :: "% if %".toList ++ '}' :: ". #".toList

/-- `DEFAULT_INCIDENT_PROMPT_CARD_TEMPLATE`. -/
def defaultIncidentPromptCardTemplate : Text :=
  "\n".toList ++ '{' :: cardComment ++ '}' :: "\n".toList ++
    expand (fun expr => '{' :: '{' :: ' ' :: expr.source ++ [' ', '}', '}'])
      defaultCardLayout.pieces ++ "\n".toList

end Template

/-- The template engine: rendering in a context, `none` where it raises, and `tojson`. -/
structure Jinja where
  render : (source : Text) → (vars : List (Text × Value)) → Option Text
  tojson : Value → Text

/-- The engine as it is documented, where it meets the default template: a comment is left
out and so is the last end of line, an expression is replaced by what its filter gives, and
the rest stays; and the filter gives the JSON text of a string or a truth value. -/
structure Jinja.Lawful (jinja : Jinja) : Prop where
  renders : ∀ context : CardContext,
    jinja.render defaultIncidentPromptCardTemplate context.vars =
      some ("\n\n".toList ++
        expand (fun expr => jinja.tojson (expr.value context)) defaultCardLayout.pieces)
  tojsonText : ∀ s depth,
    Delimited (scanValue depth) (jinja.tojson (.str (ofText s))) (.str (ofText s))
  tojsonFlag : ∀ flag depth,
    Delimited (scanValue depth) (jinja.tojson (.bool flag)) (.bool flag)

section Card

variable (jinja : Jinja) (nesting : Nat) (readText : Text → Option Text)

/-- The member is that text. -/
def isStr : Option Value → Bool
  | some (.str _) => true
  | _ => false

/-- The member is a list. -/
def isArr : Option Value → Bool
  | some (.arr _) => true
  | _ => false

/-- `_is_valid_incident_card`. -/
def isValidIncidentCard : Value → Bool
  | .obj card =>
    (match lookup (ofText "type".toList) card with
      | some (.str type) => type == ofText "AdaptiveCard".toList
      | _ => false) &&
    isStr (lookup (ofText "version".toList) card) &&
    isArr (lookup (ofText "body".toList) card) &&
    isArr (lookup (ofText "actions".toList) card)
  | _ => false

/-- `_render_card`, `none` where it raises. -/
def renderCard (context : CardContext) (source : Text) : Option Value :=
  (jinja.render source context.vars).bind fun rendered =>
    match loads nesting rendered with
    | .ok parsed => if isValidIncidentCard parsed then some parsed else none
    | .error _ => none

/-- The text of `card_extra_text_template`, empty where it cannot be rendered. -/
def extraCardText (bot : CardBot) (botName phoneNumber : Text) (defaultHighPriority : Bool) :
    Text :=
  let template := strip (bot.cardExtraTextTemplate.getD [])
  if template = [] then []
  else strip ((jinja.render template
    [textVar "team_description" bot.teamDescription, textVar "bot_name" botName,
      textVar "phone_number" phoneNumber, flagVar "send_alerts" bot.sendAlerts,
      flagVar "default_high_priority" defaultHighPriority]).getD [])

/-- The context of `_incident_prompt_card`. -/
def cardContext (bot : CardBot) (defaultHighPriority : Bool) : CardContext :=
  let botName := orElse (strip (bot.displayName.getD [])) bot.handle
  let phoneNumber := strip (bot.phoneNumber.getD [])
  { teamDescription := bot.teamDescription
    botName := botName
    phoneNumber := phoneNumber
    sendAlerts := bot.sendAlerts
    extraCardText := extraCardText jinja bot botName phoneNumber defaultHighPriority
    defaultHighPriority := defaultHighPriority
    showPriorityToggle := bot.highPriOn
    baseUrl := bot.baseUrl.getD [] }

/-- The template that a card is made of first; `none` where reading its file raises. -/
def cardSource (bot : CardBot) : Option Text :=
  let inlineTemplate := strip (bot.incidentPromptCardTemplate.getD [])
  let templatePath := strip (bot.incidentPromptCardTemplatePath.getD [])
  if inlineTemplate ≠ [] then some inlineTemplate
  else if templatePath ≠ [] then readText templatePath
  else some defaultIncidentPromptCardTemplate

/-- `_incident_prompt_card`, `none` where it raises. -/
def incidentPromptCard (bot : CardBot) (defaultHighPriority : Bool) : Option Value :=
  let context := cardContext jinja bot defaultHighPriority
  match (cardSource readText bot).bind (renderCard jinja nesting context) with
  | some card => some card
  | none => renderCard jinja nesting context defaultIncidentPromptCardTemplate

/-- The card that the bot's own template gives, where it gives one. -/
def ownCard (bot : CardBot) (defaultHighPriority : Bool) : Option Value :=
  (cardSource readText bot).bind
    (renderCard jinja nesting (cardContext jinja bot defaultHighPriority))

/-- The default template with the values in place of its expressions. -/
def defaultCard (context : CardContext) : Value :=
  defaultCardLayout.value (CardExpr.value context)

/-- There is always a card, and it is valid: the one that the bot's own template gives, else
the default one with the settings in it. -/
structure CardGiven (bot : CardBot) (defaultHighPriority : Bool) : Prop where
  valid : ∃ card, incidentPromptCard jinja nesting readText bot defaultHighPriority = some card ∧
    isValidIncidentCard card = true
  own : ∀ card, ownCard jinja nesting readText bot defaultHighPriority = some card →
    incidentPromptCard jinja nesting readText bot defaultHighPriority = some card
  fallback : ownCard jinja nesting readText bot defaultHighPriority = none →
    incidentPromptCard jinja nesting readText bot defaultHighPriority =
      some (defaultCard (cardContext jinja bot defaultHighPriority))
  plain : strip (bot.incidentPromptCardTemplate.getD []) = [] →
    strip (bot.incidentPromptCardTemplatePath.getD []) = [] →
    incidentPromptCard jinja nesting readText bot defaultHighPriority =
      some (defaultCard (cardContext jinja bot defaultHighPriority))

end Card

section Proofs

variable {jinja : Jinja} {nesting : Nat} {context : CardContext}

/-- What the filter writes in place of an expression is read as the value of that expression. -/
theorem Jinja.Lawful.fills (lawful : jinja.Lawful) (context : CardContext) :
    Fills (fun expr => jinja.tojson (expr.value context)) (CardExpr.value context) := by
  intro expr depth
  cases expr with
  | greeting => exact lawful.tojsonText _ depth
  | botName => exact lawful.tojsonText _ depth
  | showPhone => exact lawful.tojsonFlag _ depth
  | phoneNumber => exact lawful.tojsonText _ depth
  | extraCardText => exact lawful.tojsonText _ depth
  | showExtraCardText => exact lawful.tojsonFlag _ depth
  | defaultHighPriority => exact lawful.tojsonText _ depth
  | showPriorityToggle => exact lawful.tojsonFlag _ depth

/-- The default card has the type and the lists that are asked for, whatever the settings are. -/
theorem defaultCard_valid (context : CardContext) :
    isValidIncidentCard (defaultCard context) = true := by
  rfl

/-- The default template gives its card in every context. The law of the engine turns it into a
filled layout, and that is read as its tree. -/
theorem renderCard_default (lawful : jinja.Lawful) (enough : defaultCardLayout.depth ≤ nesting)
    (context : CardContext) :
    renderCard jinja nesting context defaultIncidentPromptCardTemplate =
      some (defaultCard context) := by
  have blanks : ∀ c ∈ "\n\n".toList, isBlank c = true := by decide
  have read := loads_layout (lawful.fills context) defaultCardLayout enough blanks
    (List.forall_mem_nil _)
  rw [List.append_nil] at read
  rw [renderCard, lawful.renders, Option.bind_some, read]
  dsimp only
  exact if_pos (defaultCard_valid context)

/-- A card that was rendered passed the check of its form. -/
theorem renderCard_valid {source : Text} {card : Value}
    (rendered : renderCard jinja nesting context source = some card) :
    isValidIncidentCard card = true := by
  obtain ⟨text, _, parsed⟩ := Option.bind_eq_some_iff.mp rendered
  split at parsed
  · split at parsed
    · rename_i valid
      exact Option.some.inj parsed ▸ valid
    · exact nomatch parsed
  · exact nomatch parsed

/-- A prompt is always answered with a card, whatever the settings and templates of the bot are;
without a template of its own every setting stands in the default card as it is.

Proof: either the bot's own template gives a card, which was checked, or the default one is
rendered, which cannot fail: filled with the settings it is the text of one JSON value, and that
value is valid. -/
theorem incident_prompt_card (jinja : Jinja) (lawful : jinja.Lawful) (nesting : Nat)
    (enough : defaultCardLayout.depth ≤ nesting) (readText : Text → Option Text) (bot : CardBot)
    (defaultHighPriority : Bool) :
    CardGiven jinja nesting readText bot defaultHighPriority := by
  have default := renderCard_default lawful enough (cardContext jinja bot defaultHighPriority)
  have own (card : Value)
      (isOwn : ownCard jinja nesting readText bot defaultHighPriority = some card) :
      incidentPromptCard jinja nesting readText bot defaultHighPriority = some card := by
    rw [ownCard] at isOwn
    rw [incidentPromptCard]
    simp only [isOwn]
  have fallback (none : ownCard jinja nesting readText bot defaultHighPriority = none) :
      incidentPromptCard jinja nesting readText bot defaultHighPriority =
        some (defaultCard (cardContext jinja bot defaultHighPriority)) := by
    rw [ownCard] at none
    rw [incidentPromptCard]
    simp only [none, default]
  refine ⟨?_, own, fallback, ?_⟩
  · cases isOwn : ownCard jinja nesting readText bot defaultHighPriority with
    | none => exact ⟨_, fallback isOwn, defaultCard_valid _⟩
    | some card =>
      obtain ⟨source, _, rendered⟩ := Option.bind_eq_some_iff.mp isOwn
      exact ⟨card, own card isOwn, renderCard_valid rendered⟩
  · intro noTemplate noPath
    apply own
    rw [ownCard, cardSource]
    simp only [noTemplate, noPath, ne_eq, not_true_eq_false, if_false, Option.bind_some]
    exact default

end Proofs

section Example

/-- A unit as `tojson` writes it: so that it can stand in HTML. -/
def htmlSafeUnit (p : CodePoint) : Text :=
  if p.val = 0x3c ∨ p.val = 0x3e ∨ p.val = 0x26 ∨ p.val = 0x27 then
    ['\\', 'u', hexDigit (p.val / 4096 % 16), hexDigit (p.val / 256 % 16),
      hexDigit (p.val / 16 % 16), hexDigit (p.val % 16)]
  else escapeUnit p

/-- What is escaped for HTML is read back by JSON, so the filter of the engine may escape more than
`json.dumps` does. -/
theorem htmlSafeUnit_escapes : Escapes htmlSafeUnit := by
  intro p isUnit rest
  rw [htmlSafeUnit]
  split
  · exact scanUnits_hex isUnit
  · exact scanUnits_escape isUnit

/-- The context of some variables. -/
def contextOf (vars : List (Text × Value)) : CardContext :=
  let text (name : String) : Text := match vars.lookup name.toList with
    | some (.str s) => (toText? s).getD []
    | _ => []
  let flag (name : String) : Bool := match vars.lookup name.toList with
    | some (.bool b) => b
    | _ => false
  { teamDescription := text "team_description", botName := text "bot_name"
    phoneNumber := text "phone_number", sendAlerts := flag "send_alerts"
    extraCardText := text "extra_card_text", defaultHighPriority := flag "default_high_priority"
    showPriorityToggle := flag "show_priority_toggle", baseUrl := text "base_url" }

/-- An engine that knows the default template only. -/
def plainJinja : Jinja where
  render source vars :=
    if source = defaultIncidentPromptCardTemplate then
      some ("\n\n".toList ++ expand (fun expr => match expr.value (contextOf vars) with
        | .str s => quoted htmlSafeUnit s
        | .bool b => boolText b
        | _ => []) defaultCardLayout.pieces)
    else none
  tojson
    | .str s => quoted htmlSafeUnit s
    | .bool b => boolText b
    | _ => []

/-- The context can be read off its variables. -/
theorem contextOf_vars (context : CardContext) : contextOf context.vars = context := by
  simp [contextOf, CardContext.vars, textVar, flagVar, List.lookup_cons, toText?_ofText]

/-- The engine of the example behaves as it is documented for the default template. -/
theorem plainJinja_lawful : plainJinja.Lawful where
  renders context := by
    simp only [plainJinja, if_true, contextOf_vars]
  tojsonText s _ := htmlSafeUnit_escapes.delimited s
  tojsonFlag flag _ := delimited_bool flag

/-- A bot whose name and team would close a string, and whose template does not render. -/
def quotingBot : CardBot where
  handle := "help".toList
  teamDescription := "the \"A\" team\\".toList
  displayName := some "\", \"type\": \"x".toList
  phoneNumber := none
  cardExtraTextTemplate := none
  incidentPromptCardTemplate := some "no card".toList
  incidentPromptCardTemplatePath := none
  sendAlerts := true
  highPriOn := true
  baseUrl := none

/-- A name and a team that would close a string stay inside their texts. -/
theorem quoting_bot_card : CardGiven plainJinja 1000 (fun _ => none) quotingBot true :=
  incident_prompt_card plainJinja plainJinja_lawful 1000 (by decide) _ quotingBot true

end Example

end Thaum.Bots
