import DynamicDns.Endpoint

/-! # Request targets

What a request to an endpoint needs besides its path: the scheme and the port.
That a client can be set up is assumed: it takes what the system provides, and
neither the endpoint nor any other setting has a part in it.
-/

namespace DynamicDns

/-- A way to send requests to one endpoint. -/
structure HttpClient where
  endpoint : Endpoint
  ssl : Bool
  deriving Repr, DecidableEq

namespace HttpClient

/-- Port that requests go to: encryption moves the HTTP port to the HTTPS one. -/
def port (client : HttpClient) : Nat :=
  if client.ssl && client.endpoint.port == Limits.httpPort then Limits.httpsPort
  else client.endpoint.port

def scheme (client : HttpClient) : String :=
  if client.ssl then "https" else "http"

/-- A path with the slash that it has to start with. -/
def rooted (path : String) : String :=
  match path.toList with
  | '/' :: _ => path
  | _ => "/" ++ path

/-- URL of a path at the endpoint. Neither name nor path is escaped. -/
def url (client : HttpClient) (path : String) : String :=
  client.scheme ++ "://" ++ client.endpoint.name.text ++ ":" ++ toString client.port ++ rooted path

end HttpClient

end DynamicDns
