import Showcase.Record.Field
import Showcase.Settings.Basic

/-!
# Reading settings

Settings are given by their names in capital letters. Those that are not given stay as they are; a name that is no
setting is an issue, told after all others.
-/

namespace Showcase.Settings

/-- A number as a double. -/
def double (value : Json) : Checked Double := (Field.number value).map Decimal.toDouble

/-- A number of seconds. -/
def seconds (value : Json) : Checked Seconds := (double value).map Seconds.fractional

/-- The libraries that are given. -/
def readLibraries (libraries : Preview.Libraries) (members : List (JsonString × Json)) : Checked Preview.Libraries :=
  let address (name : String) (old : String) := Field.withDefault members name old Field.text
  Checked.record Preview.Libraries.mk
    |>.field (address "PREVIEW_REACT_URL" libraries.react)
    |>.field (address "PREVIEW_REACT_DOM_URL" libraries.reactDom)
    |>.field (address "PREVIEW_MOTION_URL" libraries.motion)
    |>.field (address "PREVIEW_TAILWIND_URL" libraries.tailwind)
    |>.field (address "PREVIEW_BABEL_URL" libraries.babel)

/-- The names of all settings. -/
def names : List String :=
  ["ENVIRONMENT", "DEBUG", "LOG_LEVEL", "GITHUB_TOKEN", "GITHUB_API_URL", "GITHUB_DEFAULT_BRANCH", "GITHUB_TRANSPORT",
    "GITHUB_PROXY_URL", "HTTP_TIMEOUT", "TRUSTED_CONTENT_HOSTS", "PROXY_RATE_LIMIT", "PREVIEW_POLL_INTERVAL",
    "PREVIEW_POLL_ATTEMPTS", "PREVIEW_REACT_URL", "PREVIEW_REACT_DOM_URL", "PREVIEW_MOTION_URL",
    "PREVIEW_TAILWIND_URL", "PREVIEW_BABEL_URL", "ADMIN_API_TOKEN", "SENTRY_DSN", "SENTRY_ENVIRONMENT",
    "SENTRY_TRACES_SAMPLE_RATE", "CORS_ORIGINS"]

/-- Names that are no settings, as issues. -/
def unexpected (members : List (JsonString × Json)) : Checked Unit :=
  let issues := members.filterMap fun
    | (name, _) => if names.any (name == .text ·) then none else some ⟨[.member name], .unexpected⟩
  if issues.isEmpty then .ok () else .error issues

/-- Settings changed by those that are given. -/
def revise (settings : Settings) (members : List (JsonString × Json)) : Checked Settings :=
  let text (name : String) (old : String) := Field.withDefault members name old Field.text
  Checked.record (fun environment debug logLevel token apiUrl defaultBranch transport proxyUrl timeout trustedHostList
      rateLimit pollInterval pollAttempts libraries adminToken monitorAddress monitorEnvironment monitorRate originList
      (_ : Unit) =>
      (⟨environment, debug, logLevel, token, apiUrl, defaultBranch, transport, proxyUrl, timeout, trustedHostList,
        rateLimit, pollInterval, pollAttempts, libraries, adminToken, monitorAddress, monitorEnvironment, monitorRate,
        originList⟩ : Settings))
    |>.field (text "ENVIRONMENT" settings.environment)
    |>.field (Field.withDefault members "DEBUG" settings.debug Field.truth)
    |>.field (text "LOG_LEVEL" settings.logLevel)
    |>.field (text "GITHUB_TOKEN" settings.token)
    |>.field (text "GITHUB_API_URL" settings.apiUrl)
    |>.field (text "GITHUB_DEFAULT_BRANCH" settings.defaultBranch)
    |>.field (text "GITHUB_TRANSPORT" settings.transport)
    |>.field (text "GITHUB_PROXY_URL" settings.proxyUrl)
    |>.field (Field.withDefault members "HTTP_TIMEOUT" settings.timeout double)
    |>.field (text "TRUSTED_CONTENT_HOSTS" settings.trustedHostList)
    |>.field (text "PROXY_RATE_LIMIT" settings.rateLimit)
    |>.field (Field.withDefault members "PREVIEW_POLL_INTERVAL" settings.pollInterval seconds)
    |>.field (Field.withDefault members "PREVIEW_POLL_ATTEMPTS" settings.pollAttempts Field.whole)
    |>.field (readLibraries settings.libraries members)
    |>.field (text "ADMIN_API_TOKEN" settings.adminToken)
    |>.field (Field.withDefault members "SENTRY_DSN" settings.monitorAddress (Field.nullable Field.text))
    |>.field (text "SENTRY_ENVIRONMENT" settings.monitorEnvironment)
    |>.field (Field.withDefault members "SENTRY_TRACES_SAMPLE_RATE" settings.monitorRate double)
    |>.field (text "CORS_ORIGINS" settings.originList)
    |>.field (unexpected members)

/-- Settings that are given, the others being standard. -/
def ofMembers (members : List (JsonString × Json)) : Fallible Settings :=
  Fallible.ofChecked "Settings" (standard.revise members)

end Showcase.Settings
