import DynamicDns.Proofs.EndpointGrammar
import DynamicDns.Proofs.UrlParts

/-! # Ports that servers give

A server gives a port if one is spelled after its first colon. Requests go to the
port that was given, and their URLs carry it, with one exception. An endpoint does
not tell whether its port was given, or is the HTTP port because none was, and
encryption moves the HTTP port in both cases.
-/

namespace DynamicDns

namespace Endpoint

/-- The server has this port spelled after its first colon. -/
def GivesPort (server : String) (port : Nat) : Prop :=
  ∃ host after, FirstColon server host (some after) ∧ SpellsPort after.toList port

theorem givesPort_iff {server : String} {port : Nat} :
    GivesPort server port ↔ readPort (portPart server) = some port := by
  constructor
  · rintro ⟨host, after, parts, spells⟩
    rw [parts.portPart_eq]
    exact readPort_of_spellsPort spells
  · intro read
    obtain ⟨host, after, parts⟩ := FirstColon.exists_parts server
    rw [parts.portPart_eq] at read
    cases after with
    | none => cases read
    | some after => exact ⟨host, after, parts, spellsPort_of_readPort read⟩

instance (server : String) (port : Nat) : Decidable (GivesPort server port) :=
  decidable_of_iff _ givesPort_iff.symm

variable {server : String} {e : Endpoint}

theorem port_of_givesPort {port : Nat} (resolved : resolve server = .ok e)
    (gives : GivesPort server port) : e.port = port := by
  rw [(parts_of_resolve resolved).2, givesPort_iff.mp gives]
  rfl

theorem port_of_no_port (resolved : resolve server = .ok e)
    (gives : ∀ port, ¬ GivesPort server port) : e.port = 80 := by
  have unread : readPort (portPart server) = none := by
    apply Option.eq_none_iff_forall_ne_some.mpr
    intro port read
    exact gives port (givesPort_iff.mpr read)
  rw [(parts_of_resolve resolved).2, unread]
  rfl

end Endpoint

namespace HttpClient

open Endpoint (GivesPort)

/-- Requests go to this port, and their URLs carry it. -/
structure GoesTo (client : HttpClient) (port : Nat) : Prop where
  port_eq : client.port = port
  url : ∀ path, ∃ parts, UrlParts.Of (client.url path) parts ∧ parts.port = port

/-- The port that a server gives is where requests go, and the port of the endpoint is moved only
    where the server gives none. -/
structure KeepsGivenPort (client : HttpClient) (server : String) : Prop where
  kept : ∀ port, GivesPort server port → client.GoesTo port
  moved : client.port ≠ client.endpoint.port → ∀ port, ¬ GivesPort server port

variable {client : HttpClient}

theorem goesTo_of_port_eq {port : Nat} (wellFormed : client.endpoint.WellFormed)
    (same : client.port = port) : client.GoesTo port :=
  ⟨same, fun path => ⟨client.parts path, of_url wellFormed path, same⟩⟩

theorem port_of_encrypted (encrypted : client.ssl = true) (http : client.endpoint.port = 80) :
    client.port = 443 := by
  simp [port, encrypted, http, Limits.httpPort, Limits.httpsPort]

/-- Only encryption moves a port, and only the HTTP port. -/
theorem port_of_unmoved (unmoved : ¬ (client.ssl = true ∧ client.endpoint.port = 80)) :
    client.port = client.endpoint.port := by
  unfold port
  rw [if_neg]
  rwa [Bool.and_eq_true, beq_iff_eq]

theorem port_ne_iff :
    client.port ≠ client.endpoint.port ↔ client.ssl = true ∧ client.endpoint.port = 80 := by
  constructor
  · intro moved
    by_contra unmoved
    exact moved (port_of_unmoved unmoved)
  · rintro ⟨encrypted, http⟩
    rw [port_of_encrypted encrypted http, http]
    decide

variable {server : String}

theorem keepsGivenPort_of_unmoved (resolved : Endpoint.resolve server = .ok client.endpoint)
    (unmoved : ¬ (client.ssl = true ∧ GivesPort server 80)) : client.KeepsGivenPort server := by
  have wellFormed := Endpoint.wellFormed_of_resolve resolved
  -- A given port is that of the endpoint, so one that is moved would be the HTTP port.
  have stays {port : Nat} (gives : GivesPort server port) :
      ¬ (client.ssl = true ∧ client.endpoint.port = 80) := by
    rintro ⟨encrypted, http⟩
    rw [Endpoint.port_of_givesPort resolved gives] at http
    exact unmoved ⟨encrypted, http ▸ gives⟩
  constructor
  · intro port gives
    apply goesTo_of_port_eq wellFormed
    rw [port_of_unmoved (stays gives), Endpoint.port_of_givesPort resolved gives]
  · intro moved port gives
    exact stays gives (port_ne_iff.mp moved)

/-- A client keeps the port that its server gives unless it encrypts and the server gives the HTTP
    port. Then requests go to the HTTPS port, as they do where they are encrypted and the server
    gives no port. -/
theorem keepsGivenPort_iff {e : Endpoint} (resolved : Endpoint.resolve server = .ok e)
    (ssl : Bool) :
    let client : HttpClient := ⟨e, ssl⟩
    (client.KeepsGivenPort server ↔ ¬ (ssl = true ∧ GivesPort server 80)) ∧
    (ssl = true → GivesPort server 80 → client.GoesTo 443) ∧
    ((∀ port, ¬ GivesPort server port) → client.GoesTo (if ssl then 443 else 80)) := by
  intro client
  have wellFormed : client.endpoint.WellFormed := Endpoint.wellFormed_of_resolve resolved
  have moves (encrypted : ssl = true) (gives : GivesPort server 80) : client.port = 443 :=
    port_of_encrypted encrypted (Endpoint.port_of_givesPort resolved gives)
  refine ⟨⟨?_, fun unmoved => keepsGivenPort_of_unmoved resolved unmoved⟩, ?_, ?_⟩
  · rintro keeps ⟨encrypted, gives⟩
    have kept : client.port = 80 := (keeps.kept 80 gives).port_eq
    rw [moves encrypted gives] at kept
    cases kept
  · intro encrypted gives
    exact goesTo_of_port_eq wellFormed (moves encrypted gives)
  · intro none
    have http : client.endpoint.port = 80 := Endpoint.port_of_no_port resolved none
    apply goesTo_of_port_eq wellFormed
    cases ssl with
    | true => exact port_of_encrypted rfl http
    | false =>
        have plain : ¬ (client.ssl = true ∧ client.endpoint.port = 80) := by simp [client]
        exact (port_of_unmoved plain).trans http

/-- Encryption leaves a port alone that is given as other than the HTTP port. -/
theorem keepsGivenPort_signed :
    let e : Endpoint := ⟨⟨"update.example.net", by decide⟩, 8080⟩
    Endpoint.resolve "update.example.net: +08080" = .ok e ∧
      KeepsGivenPort ⟨e, true⟩ "update.example.net: +08080" := by
  intro e
  have read : Endpoint.resolve "update.example.net: +08080" = .ok e := rfl
  exact ⟨read, (keepsGivenPort_iff read true).1.mpr (by decide +kernel)⟩

/-- The HTTP port is moved although the server gives it. -/
theorem not_keepsGivenPort_http :
    let e : Endpoint := ⟨⟨"update.example.net", by decide⟩, 80⟩
    Endpoint.resolve "update.example.net:80" = .ok e ∧
      ¬ KeepsGivenPort ⟨e, true⟩ "update.example.net:80" := by
  intro e
  have gives : GivesPort "update.example.net:80" 80 := by decide +kernel
  refine ⟨rfl, ?_⟩
  intro keeps
  have kept : HttpClient.port ⟨e, true⟩ = 80 := (keeps.kept 80 gives).port_eq
  cases kept

end HttpClient

end DynamicDns
