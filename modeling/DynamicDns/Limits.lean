/-! # Capacities and periods

The fixed limits of the configuration layer. Capacities of texts are in bytes,
those of lists in entries, periods in seconds.
-/

namespace DynamicDns.Limits

def nameBytes : Nat := 255

def pathBytes : Nat := 256

def usernameBytes : Nat := 128

def passwordBytes : Nat := 128

def responseBytes : Nat := 64

/-- Most hostnames that one provider keeps. -/
def hostnames : Nat := 50

/-- Most expected-response patterns that one provider keeps. -/
def responses : Nat := 5

/-- Port of an endpoint that names none, or no usable one. -/
def httpPort : Nat := 80

/-- Port that stands in for `httpPort` once requests are encrypted. -/
def httpsPort : Nat := 443

def shortestPeriod : Nat := 120

/-- Longest update period, ten days. -/
def longestPeriod : Nat := 10 * 24 * 3600

/-- Update period of a configuration that sets none. -/
def defaultPeriod : Nat := 600

/-- Wait after a failed update. It cannot be configured. -/
def retryPeriod : Nat := 600

/-- Forced-update period of a configuration that sets none, thirty days. -/
def defaultForcedUpdate : Nat := 30 * 24 * 3600

/-- Iterations of a configuration that sets none. Zero means without end. -/
def defaultIterations : Nat := 0

/-- Cache directory of a configuration that sets none. -/
def defaultCacheDir : String := "/var/cache/ddnsd"

end DynamicDns.Limits
