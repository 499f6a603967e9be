/-! # Provider plugins

A plugin describes a dynamic-DNS service: where to ask for the current address,
where to send updates, and which answers mean success.
-/

namespace DynamicDns

/-- Description of a service. -/
structure Plugin where
  name : String
  /-- Server that tells the current address, `host` or `host:port`. -/
  checkipServer : String := "checkip.dyndns.org"
  checkipPath : String := "/"
  /-- Server that takes updates, `host` or `host:port`. -/
  updateServer : String := ""
  updatePath : String := ""
  /-- Texts whose presence in an answer means success. -/
  responses : List String := []
  deriving Repr, DecidableEq

namespace Plugin

def customName : String := "custom"

/-- What marks the default plugin of a service. -/
def defaultMark : String := "default@"

/-- Texts that mean success where neither user nor plugin names any. -/
def genericResponses : List String := ["OK", "good", "true", "updated"]

/-- The plugin behind custom sections. It has no update server: the section brings one. -/
def custom : Plugin where
  name := customName
  responses := genericResponses

def isCustom (p : Plugin) : Bool := p.name == customName

end Plugin

/-- Answers the names of plugins. An answer may depend on how many were given before it, which is
    the first argument. -/
abbrev Lookup := Nat → String → Option Plugin

/-- The lookup that stops finding anything after `limit` answers. -/
def Lookup.upTo (limit : Nat) (find : Lookup) : Lookup :=
  fun earlier name => if earlier < limit then find earlier name else none

end DynamicDns
