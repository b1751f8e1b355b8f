import Thaum.Library.GuardedRuns
import Thaum.Library.Scripts
import Thaum.Library.KeyedRows
import Thaum.Library.ExpiringRows
import Thaum.Library.PyText
import Thaum.Library.PyJson
import Thaum.Library.PyRequests
import Thaum.Library.PyRegex
import Thaum.Library.RegexReads
import Thaum.Library.RegexRemoval
import Thaum.Library.PyUrl
import Thaum.Library.PyBytes
import Thaum.Library.PyDatetime
import Thaum.Library.PyFloat
import Thaum.Library.PyTimestamp
import Thaum.Library.JsonText
import Thaum.Library.JsonLayout
import Thaum.Library.LdapFilter
import Thaum.Library.PyIni
import Thaum.Library.PyNumbers
import Thaum.Library.UrlPath
import Thaum.Library.CursorPages
import Thaum.Library.PyModels
import Thaum.Library.PyModelModes
import Thaum.Types
import Thaum.Admin.LogLevel
import Thaum.Admin.Replay
import Thaum.Admin.Convergence
import Thaum.Admin.ClientRequest
import Thaum.Admin.GeneratedConfig
import Thaum.Admin.PostAnswers
import Thaum.Admin.PowershellClient
import Thaum.Leader.InitBarrier
import Thaum.Leader.StaleRelease
import Thaum.Leader.OverlappingCycles
import Thaum.Leader.Maintenance
import Thaum.Lookup.Identity
import Thaum.Lookup.PlatformIds
import Thaum.Lookup.MergeRace
import Thaum.Lookup.MergeOrder
import Thaum.Lookup.Teams
import Thaum.Lookup.Atlassian
import Thaum.Lookup.Pagination
import Thaum.Lookup.LdapAd
import Thaum.Lookup.LdapPeople
import Thaum.Lookup.DelimitedIds
import Thaum.Bots.Commands
import Thaum.Bots.AckCommand
import Thaum.Bots.WholeTokens
import Thaum.Bots.MessageText
import Thaum.Bots.Unheard
import Thaum.Bots.BotLabels
import Thaum.Bots.WebexPeople
import Thaum.Bots.HighPriority
import Thaum.Bots.IncidentCard
import Thaum.Bots.IncidentRoom
import Thaum.Bots.WebexEvents
import Thaum.Bots.WebhookAuth
import Thaum.Bots.WebhookRegistration
import Thaum.Bots.WebhookUpkeep
import Thaum.Jira.Teams
import Thaum.Jira.Users
import Thaum.Lookup.EmailSpelling
import Thaum.Jira.AccountChoice
import Thaum.Jira.Payload
import Thaum.Jira.ResponderPayload
import Thaum.Jira.MappingStore
import Thaum.Jira.Trigger
import Thaum.Bots.SenderPrivacy
import Thaum.Jira.StatusWebhook
import Thaum.Jira.Acknowledge
import Thaum.Jira.AckAssign
import Thaum.Jira.AlertRuns
import Thaum.Jira.OlderAlerts
import Thaum.Jira.StatusRouting
import Thaum.Jira.CreateOrder
import Thaum.Jira.RoomAlerts
import Thaum.Jira.ShortIds
import Thaum.Jira.BotIsolation
import Thaum.Lookup.Freshness
import Thaum.Lookup.RefreshFailure
import Thaum.Lookup.TeamRename
import Thaum.Vault.SharedSecret
import Thaum.Vault.WebhookSecrets
import Thaum.Vault.KeyRotation
import Thaum.Vault.KeyBootstrap
import Thaum.Vault.SecretSurvival
import Thaum.Leader.StartupWiring
import Thaum.Settings.Secrets
import Thaum.Settings.BotConfig
import Thaum.Settings.LookupConfig
import Thaum.Settings.ServerConfig
import Thaum.Settings.BaseUrl
import Thaum.Settings.AlertConfig
import Thaum.Settings.SchemaFields
import Thaum.Settings.SchemaLookup
import Thaum.Settings.SchemaBots
import Thaum.Settings.SchemaCheck
import Thaum.Jira.CloseHandling
import Thaum.Webhooks.RotationWarnings
import Thaum.Webhooks.BearerCodec
import Thaum.Webhooks.BearerDecision
import Thaum.Web.BotRoute
import Thaum.Lookup.StoredMembers
import Thaum.Webhooks.IssuedTokens
