import DynamicDns.Plugin.Registry

/-! # Built-in plugins

The services that are known without further configuration.
-/

namespace DynamicDns.Plugin

/-- Every built-in service, and the plugin behind custom sections. -/
def builtin : List Plugin := [
  { name := "default@dyndns.org"
    updateServer := "members.dyndns.org"
    updatePath := "/nic/update?hostname="
    responses := ["good", "nochg"] },
  { name := "default@freedns.afraid.org"
    updateServer := "freedns.afraid.org"
    updatePath := "/dynamic/update.php?"
    responses := ["Updated", "has not changed"] },
  { name := "default@no-ip.com"
    checkipServer := "ip1.dynupdate.no-ip.com"
    updateServer := "dynupdate.no-ip.com"
    updatePath := "/nic/update?hostname="
    responses := ["good", "nochg"] },
  { name := "default@duckdns.org"
    updateServer := "www.duckdns.org"
    updatePath := "/update?domains="
    responses := ["OK"] },
  { name := "default@dynu.com"
    updateServer := "api.dynu.com"
    updatePath := "/nic/update?hostname="
    responses := ["good", "nochg"] },
  { name := "default@changeip.com"
    checkipServer := "ip.changeip.com"
    updateServer := "nic.changeip.com"
    updatePath := "/nic/update?hostname="
    responses := ["200 Successful Update"] },
  { name := "default@tunnelbroker.net"
    checkipServer := "checkip.dns.he.net"
    updateServer := "ipv4.tunnelbroker.net"
    updatePath := "/nic/update?hostname="
    responses := ["good", "nochg"] },
  custom]

end DynamicDns.Plugin

namespace DynamicDns.PluginRegistry

/-- The registry that holds the built-in plugins alone. -/
def builtin : PluginRegistry := empty.registerAll Plugin.builtin

end DynamicDns.PluginRegistry
