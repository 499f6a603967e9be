import DynamicDns.Json
import DynamicDns.Load

/-! # Dumps

A loaded configuration as JSON, for people and programs. Of credentials only
the username is told.
-/

namespace DynamicDns

def Endpoint.toJson (e : Endpoint) : Json :=
  .object [("name", .string e.name.text), ("port", .number e.port)]

/-- The credentials as JSON, without secrets. -/
def Credentials.toJson (c : Credentials) : Json :=
  .object [("username", .ofOption (c.username.map BoundedString.text))]

def ProviderRecord.toJson (r : ProviderRecord) : Json :=
  .object [
    ("name", .string r.name),
    ("kind", .string r.kind.name),
    ("plugin", .string r.plugin.name),
    ("checkip", r.checkip.toJson),
    ("checkip_path", .string r.checkipPath.text),
    ("update", r.update.toJson),
    ("update_path", .string r.updatePath.text),
    ("wildcard", .bool r.wildcard),
    ("ssl_enabled", .bool r.sslEnabled),
    ("append_myip", .bool r.appendMyip),
    ("credentials", r.credentials.toJson),
    ("hostnames", .array (r.hostnames.items.map (.string ·.text))),
    ("responses", .array (r.responses.items.map (.string ·.text)))]

def GlobalConfig.toJson (g : GlobalConfig) : Json :=
  .object [
    ("update_period_secs", .number g.updatePeriod),
    ("forced_update_period_secs", .number g.forcedUpdatePeriod),
    ("error_update_period_secs", .number g.errorUpdatePeriod),
    ("total_iterations", .number g.totalIterations),
    ("cache_dir", .string g.cacheDir),
    ("fake_address", .bool g.fakeAddress),
    ("iface", .ofOption g.iface)]

namespace LoadedConfig

def toJson (l : LoadedConfig) : Json :=
  .object [
    ("global", l.global.toJson),
    ("providers", .array (l.providers.records.map ProviderRecord.toJson))]

/-- The configuration as a text in JSON. -/
def dump (l : LoadedConfig) : String := l.toJson.pretty 0

end LoadedConfig

end DynamicDns
