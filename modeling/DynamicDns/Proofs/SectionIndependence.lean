import DynamicDns.Plugin.Builtin
import DynamicDns.Proofs.LoadOutcome

/-! # Sections are checked independently

Under a lookup that always answers alike, a configuration is checked as its
sections are, each by itself. So what becomes of a section, and why it is
refused, stays the same wherever the section stands and whatever other sections
are added, removed or changed.
-/

namespace DynamicDns

namespace Config

variable {find : String → Option Plugin}

/-- The refusals that a report has for one section. -/
def refusalsAt (diagnostics : List Diagnostic) (place : SectionId) : List SectionError :=
  (diagnostics.filter (·.place = place)).map Diagnostic.error

theorem refusalsAt_validate {config : Config} {place : SectionId} {s : Section}
    (member : (place, s) ∈ config.sections) :
    refusalsAt (config.validate (.steady find)).value.2 place =
      (s.validate find).value.error.toList := by
  rw [refusalsAt, refused_validate, diagnose_filter_place member]
  cases (s.validate find).value.error <;> rfl

theorem fields_validate (config : Config) :
    (config.validate (.steady find)).value.2.map Diagnostic.field? =
      config.sections.filterMap fun (_, s) =>
        (s.validate find).value.error.map SectionError.field? := by
  rw [refused_validate, diagnose, List.map_filterMap]
  refine List.filterMap_congr fun placed _ => ?_
  simp only [diagnosed, Option.map_map]
  rfl

theorem mem_sections_validate {config : Config} {place : SectionId} {s : Section}
    (member : (place, s) ∈ config.sections) :
    (place, (s.validate find).value.result) ∈
      (config.validate (.steady find)).value.1.sections := by
  rw [sections_validate]
  exact List.mem_map_of_mem member

/-- Each section is left, at its place, as its own checks leave it. It has one diagnostic if its own
    checks refuse it, for the same reason and pointing to the same option, and else none;
    diagnostics come in the order of the sections and under their identities, which no two sections
    share. What becomes of a section, and why it is refused, is the same in every other configuration
    that has it, at this place or at another. -/
theorem validate_sectionwise (find : String → Option Plugin) (config : Config) :
    let checked := (config.validate (.steady find)).value
    checked.1.sections =
      config.sections.map (fun (place, s) => (place, (s.validate find).value.result)) ∧
    checked.2 = config.sections.filterMap
      (fun (place, s) => (s.validate find).value.error.map (⟨place, ·⟩)) ∧
    checked.2.map Diagnostic.field? = config.sections.filterMap
      (fun (_, s) => (s.validate find).value.error.map SectionError.field?) ∧
    (config.sections.map Prod.fst).Nodup ∧
    ∀ other : Config, let checked' := (other.validate (.steady find)).value
      ∀ s place place', (place, s) ∈ config.sections → (place', s) ∈ other.sections →
        refusalsAt checked.2 place = refusalsAt checked'.2 place' ∧
        ∃ left, (place, left) ∈ checked.1.sections ∧ (place', left) ∈ checked'.1.sections := by
  refine ⟨sections_validate config, refused_validate config, fields_validate config,
    places_nodup config, ?_⟩
  intro other checked' s place place' here there
  refine ⟨?_, _, mem_sections_validate here, mem_sections_validate there⟩
  rw [refusalsAt_validate here, refusalsAt_validate there]

/-- A section that is mended and then refused. -/
def mendedAndRefused : ProviderSection where
  name := some "no-ip.com"
  username := some "u"
  aliases := ["h.no-ip.com"]

/-- The section comes after one that is refused for another reason. -/
def afterUntitled : Config where
  providers := [{ hostname := ["h.example.org"] }, mendedAndRefused]

/-- The section comes first, and one of the other kind is added. -/
def beforeCustom : Config where
  providers := [mendedAndRefused]
  customs := [
    { ddnsServer := some "update.example.net", common := { hostname := ["a.example.net"] } }]

theorem validate_sectionwise_mendedAndRefused :
    let find := PluginRegistry.builtin.find?
    let checked := (afterUntitled.validate (.steady find)).value
    let checked' := (beforeCustom.validate (.steady find)).value
    let place : SectionId := ⟨.provider, 1, some "no-ip.com"⟩
    let place' : SectionId := ⟨.provider, 0, some "no-ip.com"⟩
    refusalsAt checked.2 place = [.missingCredential "no-ip.com" "password"] ∧
      refusalsAt checked.2 place = refusalsAt checked'.2 place' ∧
      ∃ left, (place, left) ∈ checked.1.sections ∧ (place', left) ∈ checked'.1.sections := by
  intro find checked checked' place place'
  have here : (place, .provider mendedAndRefused) ∈ afterUntitled.sections := by decide +kernel
  have there : (place', .provider mendedAndRefused) ∈ beforeCustom.sections := by decide +kernel
  refine ⟨?_, (validate_sectionwise find afterUntitled).2.2.2.2 beforeCustom _ _ _ here there⟩
  rw [refusalsAt_validate here]
  decide +kernel

end Config

end DynamicDns
