import DynamicDns.Proofs.EndpointGrammar

/-! # Displayed endpoints

An endpoint is displayed as its name, a colon and its port. For one that was read
from a text this is a text that it is read from, whatever its name holds: the
name has no colon, so the one displayed after it is the first, and the port is
spelled by its digits. No two such endpoints are displayed alike.
-/

namespace DynamicDns.Endpoint

theorem spellsPort_toString {port : Nat} (range : 1 ≤ port ∧ port ≤ 65535) :
    SpellsPort (toString port).toList port := by
  have noBlanks : ∀ c ∈ ([] : List Char), Text.isBlank c := List.forall_mem_nil _
  have spells := SpellsPort.intro noBlanks (.inl rfl) (Decimal.toString port) noBlanks
    range.1 range.2
  rwa [List.append_nil] at spells

theorem WellFormed.resolve_display {e : Endpoint} (wellFormed : e.WellFormed) :
    resolve e.display = .ok e := by
  -- The name has no colon, so the first one is the one displayed after it.
  have parts : FirstColon e.display e.name.text (some (toString e.port)) :=
    .present wellFormed.colon_free
  rw [parts.resolve_eq_ok_iff]
  exact ⟨wellFormed.name_size, rfl, .spelled (spellsPort_toString wellFormed.port_range)⟩

/-- An endpoint that was read from a text has a port that can be connected to, is read again from
    what it is displayed as, and is displayed like no other endpoint that was read. -/
theorem display_reads_back {server : String} {e : Endpoint} (resolved : resolve server = .ok e) :
    (1 ≤ e.port ∧ e.port ≤ 65535) ∧ resolve e.display = .ok e ∧ ofString e.display = .ok e ∧
      ∀ {server' : String} {e' : Endpoint}, resolve server' = .ok e' →
        (e.display = e'.display ↔ e = e') := by
  have wellFormed := wellFormed_of_resolve resolved
  refine ⟨wellFormed.port_range, wellFormed.resolve_display, wellFormed.resolve_display, ?_⟩
  intro server' e' resolved'
  constructor
  · intro alike
    have again := (wellFormed_of_resolve resolved').resolve_display
    rw [← alike, wellFormed.resolve_display] at again
    exact Except.ok.inj again
  · rintro rfl
    rfl

/-- A blank host, and a port with all that may stand around its digits. -/
theorem display_reads_back_blankHost :
    let e : Endpoint := ⟨⟨"  ", by decide⟩, 443⟩
    let f : Endpoint := ⟨⟨"  ", by decide⟩, 80⟩
    resolve "  :\u2003+00443\t" = .ok e ∧ resolve "  :80:443" = .ok f ∧
      resolve e.display = .ok e ∧ e.display ≠ f.display := by
  intro e f
  have read : resolve "  :\u2003+00443\t" = .ok e := rfl
  have other : resolve "  :80:443" = .ok f := rfl
  obtain ⟨-, back, -, alike⟩ := display_reads_back read
  refine ⟨read, other, back, ?_⟩
  rw [ne_eq, alike other]
  decide

end DynamicDns.Endpoint
