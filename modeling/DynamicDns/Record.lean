import DynamicDns.Config
import DynamicDns.Credentials
import DynamicDns.HttpClient

/-! # Provider records

All that an update needs to know about one provider. A record is built once and
then left alone, but for the token of its credentials.
-/

namespace DynamicDns

abbrev Hostname := BoundedString Limits.nameBytes

abbrev UrlPath := BoundedString Limits.pathBytes

/-- A text whose presence in an answer means success. -/
abbrev Response := BoundedString Limits.responseBytes

/-- One provider, ready for updates. -/
structure ProviderRecord where
  /-- Title of the section, or the plugin's name. -/
  name : String
  kind : SectionKind
  plugin : Plugin
  checkip : Endpoint
  checkipPath : UrlPath
  update : Endpoint
  updatePath : UrlPath
  wildcard : Bool
  sslEnabled : Bool
  appendMyip : Bool
  credentials : Credentials
  /-- Hostnames, in the order of the section. -/
  hostnames : BoundedList Hostname Limits.hostnames
  /-- Texts that mean success, in order. Only custom sections have any. -/
  responses : BoundedList Response Limits.responses
  checkipClient : HttpClient
  updateClient : HttpClient
  deriving Repr, DecidableEq

namespace ProviderRecord

def isCustom (r : ProviderRecord) : Bool := r.kind == .custom

def mapCredentials (f : Credentials → Credentials) (r : ProviderRecord) : ProviderRecord :=
  { r with credentials := f r.credentials }

end ProviderRecord

end DynamicDns
