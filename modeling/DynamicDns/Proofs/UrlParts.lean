import DynamicDns.HttpClient
import DynamicDns.Proofs.DecimalText
import DynamicDns.Proofs.EndpointShape

/-! # The parts of a URL

A URL is put together from scheme, name, port and path without any escapes. What
keeps it readable is that a name that was read from a server has no colon: the
name ends at the first colon after the scheme, whatever else is in it, and the
port ends at the slash that every path is given. So a URL has only one set of
parts, and those of a request are its own.
-/

namespace DynamicDns

/-- What a URL says. -/
structure UrlParts where
  ssl : Bool
  name : String
  port : Nat
  path : String
  deriving Repr, DecidableEq

namespace UrlParts

/-- How a URL is put together from its parts, with these digits for the port. The name ends at the
    first colon after the scheme, and the digits end at the slash that begins the path. -/
structure Spelled (url : String) (parts : UrlParts) (digits : String) : Prop where
  joined : url =
    (if parts.ssl then "https" else "http") ++ "://" ++ parts.name ++ ":" ++ digits ++ parts.path
  colon_free : ':' ∉ parts.name.toList
  decimal : Decimal digits.toList parts.port
  rooted : parts.path.toList.head? = some '/'

/-- The parts that a URL can be read as. -/
def Of (url : String) (parts : UrlParts) : Prop :=
  ∃ digits, Spelled url parts digits

theorem scheme_colon_free (ssl : Bool) : ':' ∉ (if ssl then "https" else "http").toList := by
  cases ssl <;> decide

theorem ssl_eq_of_scheme {ssl ssl' : Bool}
    (same : (if ssl then "https" else "http") = if ssl' then "https" else "http") : ssl = ssl' := by
  revert ssl ssl'
  decide

namespace Spelled

variable {url digits : String} {parts : UrlParts}

theorem toList_url (spelled : Spelled url parts digits) : ∃ path,
    parts.path.toList = '/' :: path ∧
    url.toList = (if parts.ssl then "https" else "http").toList ++ ':' :: '/' :: '/' ::
      (parts.name.toList ++ ':' :: (digits.toList ++ '/' :: path)) := by
  obtain ⟨path, rooted⟩ := List.head?_eq_some_iff.mp spelled.rooted
  refine ⟨path, rooted, ?_⟩
  rw [spelled.joined]
  simp [String.toList_append, rooted]

end Spelled

/-- A URL can be read in one way only: each part ends at the first mark that it cannot hold. -/
theorem Of.unique {url : String} {p q : UrlParts} (first : Of url p) (second : Of url q) :
    p = q := by
  obtain ⟨digits, first⟩ := first
  obtain ⟨digits', second⟩ := second
  obtain ⟨path, pathEq, urlEq⟩ := first.toList_url
  obtain ⟨path', pathEq', urlEq'⟩ := second.toList_url
  have same := urlEq.symm.trans urlEq'
  -- Neither a scheme nor a name holds a colon, and digits hold no slash.
  obtain ⟨scheme, same⟩ := append_mark_inj (scheme_colon_free _) (scheme_colon_free _) same
  rw [List.cons.injEq, List.cons.injEq] at same
  obtain ⟨name, same⟩ := append_mark_inj first.colon_free second.colon_free same.2.2
  obtain ⟨port, rfl⟩ :=
    append_mark_inj (first.decimal.not_mem rfl) (second.decimal.not_mem rfl) same
  have ssl : p.ssl = q.ssl := ssl_eq_of_scheme (String.toList_inj.mp scheme)
  have value : p.port = q.port := by
    rw [← first.decimal.value, port, second.decimal.value]
  cases p
  cases q
  simp only [mk.injEq]
  exact ⟨ssl, String.toList_inj.mp name, value, String.toList_inj.mp (pathEq.trans pathEq'.symm)⟩

end UrlParts

namespace HttpClient

/-- The parts of the URL of a request, with a slash in front of a path that has none there. -/
def parts (client : HttpClient) (path : String) : UrlParts where
  ssl := client.ssl
  name := client.endpoint.name.text
  port := client.port
  path := if path.toList.head? = some '/' then path else "/" ++ path

theorem rooted_eq (path : String) :
    rooted path = if path.toList.head? = some '/' then path else "/" ++ path := by
  unfold rooted
  split
  · rename_i begins
    rw [begins]
    rfl
  · rename_i others
    rw [if_neg]
    intro begins
    obtain ⟨rest, begins⟩ := List.head?_eq_some_iff.mp begins
    exact others rest begins

theorem head_parts_path (client : HttpClient) (path : String) :
    (client.parts path).path.toList.head? = some '/' := by
  unfold parts
  dsimp only
  split
  · assumption
  · simp [String.toList_append]

theorem port_range {client : HttpClient} (wellFormed : client.endpoint.WellFormed) :
    1 ≤ client.port ∧ client.port ≤ 65535 := by
  unfold port
  split
  · decide
  · exact wellFormed.port_range

theorem url_eq (client : HttpClient) (path : String) :
    client.url path = (if client.ssl then "https" else "http") ++ "://" ++
      client.endpoint.name.text ++ ":" ++ toString client.port ++ (client.parts path).path := by
  rw [url, rooted_eq]
  rfl

theorem of_url {client : HttpClient} (wellFormed : client.endpoint.WellFormed) (path : String) :
    UrlParts.Of (client.url path) (client.parts path) :=
  ⟨toString client.port, client.url_eq path, wellFormed.colon_free, Decimal.toString _,
    client.head_parts_path path⟩

theorem url_eq_iff {client client' : HttpClient} (wellFormed : client.endpoint.WellFormed)
    (wellFormed' : client'.endpoint.WellFormed) {path path' : String} :
    client.url path = client'.url path' ↔
      client.ssl = client'.ssl ∧ client.endpoint.name.text = client'.endpoint.name.text ∧
        client.port = client'.port ∧ (client.parts path).path = (client'.parts path').path := by
  constructor
  · intro same
    have own := of_url wellFormed path
    rw [same] at own
    exact UrlParts.mk.inj (own.unique (of_url wellFormed' path'))
  · rintro ⟨ssl, name, port, target⟩
    rw [url_eq, url_eq, ssl, name, port, target]

/-- The URL of a request reads as the scheme, the name and the port that its client has, and the
    path with a slash in front, and as nothing else. So two requests have the same URL exactly when
    they agree on all four. -/
theorem url_unambiguous {server : String} {e : Endpoint}
    (resolved : Endpoint.resolve server = .ok e) (ssl : Bool) (path : String) :
    let client : HttpClient := ⟨e, ssl⟩
    (1 ≤ client.port ∧ client.port ≤ 65535) ∧
    (∀ parts, UrlParts.Of (client.url path) parts ↔ parts = client.parts path) ∧
    ∀ {server' : String} {e' : Endpoint}, Endpoint.resolve server' = .ok e' →
      ∀ (ssl' : Bool) (path' : String),
        let client' : HttpClient := ⟨e', ssl'⟩
        client.url path = client'.url path' ↔
          ssl = ssl' ∧ e.name.text = e'.name.text ∧ client.port = client'.port ∧
            (client.parts path).path = (client'.parts path').path := by
  intro client
  have wellFormed : client.endpoint.WellFormed := Endpoint.wellFormed_of_resolve resolved
  refine ⟨port_range wellFormed, ?_, ?_⟩
  · intro parts
    constructor
    · intro readAs
      exact readAs.unique (of_url wellFormed path)
    · rintro rfl
      exact of_url wellFormed path
  · intro server' e' resolved' ssl' path' client'
    exact url_eq_iff wellFormed (Endpoint.wellFormed_of_resolve resolved')

/-- Names and paths with the marks of URLs in them. Encryption moves the HTTP port to the one that
    the second server names, so both requests have one URL, which has no other parts. -/
theorem url_unambiguous_swappedPort :
    let e : Endpoint := ⟨⟨"u@h/a?b", by decide⟩, 80⟩
    let e' : Endpoint := ⟨⟨"u@h/a?b", by decide⟩, 443⟩
    Endpoint.resolve "u@h/a?b:http" = .ok e ∧ Endpoint.resolve "u@h/a?b: +443" = .ok e' ∧
      HttpClient.url ⟨e, true⟩ "nic://update" = HttpClient.url ⟨e', true⟩ "/nic://update" ∧
      ∀ parts, UrlParts.Of "https://u@h/a?b:443/nic://update" parts ↔
        parts = ⟨true, "u@h/a?b", 443, "/nic://update"⟩ := by
  intro e e'
  have read : Endpoint.resolve "u@h/a?b:http" = .ok e := rfl
  have read' : Endpoint.resolve "u@h/a?b: +443" = .ok e' := rfl
  obtain ⟨-, readAs, same⟩ := url_unambiguous read true "nic://update"
  have url : HttpClient.url ⟨e, true⟩ "nic://update" = "https://u@h/a?b:443/nic://update" := by
    decide +kernel
  have own : HttpClient.parts ⟨e, true⟩ "nic://update" =
      ⟨true, "u@h/a?b", 443, "/nic://update"⟩ := by decide +kernel
  rw [url, own] at readAs
  exact ⟨read, read', (same read' true "/nic://update").mpr (by decide +kernel), readAs⟩

end HttpClient

end DynamicDns
