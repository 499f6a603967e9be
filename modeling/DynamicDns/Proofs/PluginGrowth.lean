import DynamicDns.Proofs.PluginHistory
import DynamicDns.Proofs.SectionIndependence

/-! # Checks with more plugins

A registration, even one that replaces a plugin or takes a bare name, leaves no
name without an answer that had one. Of the checks of a section only one asks for
a plugin, and only whether there is one. So more plugins can help a section past
this check, to be accepted or to be refused for its hostnames, and change no other
verdict.
-/

namespace DynamicDns

namespace PluginRegistry

theorem get?_isSome_after {r : PluginRegistry} {name : String} (held : (r.get? name).isSome)
    (registrations : List Registration) : ((r.after registrations).get? name).isSome := by
  rw [after_eq_registerAll, get?_registerAll, Option.isSome_or, held, Bool.or_true]

theorem find?_isSome_iff {r : PluginRegistry} {name : String} :
    (r.find? name).isSome ↔ (r.get? name).isSome ∨
      ('@' ∉ name.toList ∧ (r.get? (Plugin.defaultMark ++ name)).isSome) := by
  unfold find?
  cases r.get? name with
  | some p => simp
  | none => by_cases marked : '@' ∈ name.toList <;> simp [marked]

/-- No registration makes a name unknown. -/
theorem find?_isSome_after {r : PluginRegistry} {name : String} (known : (r.find? name).isSome)
    (registrations : List Registration) : ((r.after registrations).find? name).isSome := by
  rw [find?_isSome_iff] at known ⊢
  rcases known with held | ⟨unmarked, held⟩
  · exact .inl (get?_isSome_after held registrations)
  · exact .inr ⟨unmarked, get?_isSome_after held registrations⟩

end PluginRegistry

/-- What more plugins can make of the refusal of a section, `none` if there is none. -/
inductive SectionError.Eased : Option SectionError → Option SectionError → Prop where
  | kept (refusal : Option SectionError) : Eased refusal refusal
  /-- The plugin is there now, and nothing else is wrong. -/
  | accepted (provider : String) : Eased (some (.unknownProvider provider)) none
  | missingHostnames (provider : String) :
    Eased (some (.unknownProvider provider)) (some (.missingHostnames provider))
  | hostnameTooLong (provider hostname : String) :
    Eased (some (.unknownProvider provider)) (some (.hostnameTooLong provider hostname))

/-- A lookup that knows all names which another one knows. -/
abbrev KnowsMore (find find' : String → Option Plugin) : Prop :=
  ∀ name, (find name).isSome → (find' name).isSome

namespace ProviderSection

open SectionError

variable {find find' : String → Option Plugin}

/-- The check for the plugin and those after it, which look at nothing but the hostnames. -/
theorem pluginRefusal?_eased (more : KnowsMore find find') (provider : String)
    (hostnames : List String) :
    Eased ((pluginRefusal? find provider).or (checkHostnames provider hostnames))
      ((pluginRefusal? find' provider).or (checkHostnames provider hostnames)) := by
  cases known : find provider with
  | some p =>
      obtain ⟨q, known'⟩ := Option.isSome_iff_exists.mp (more provider (by simp [known]))
      simp only [pluginRefusal?, known, known']
      exact .kept _
  | none =>
      cases known' : find' provider with
      | none =>
          simp only [pluginRefusal?, known, known']
          exact .kept _
      | some q =>
          simp only [pluginRefusal?, known, known', checkHostnames]
          cases hostnames.isEmpty with
          | true => exact .missingHostnames provider
          | false =>
              cases hostnames.find? (Limits.nameBytes < ·.utf8ByteSize) with
              | none => exact .accepted provider
              | some hostname => exact .hostnameTooLong provider hostname

theorem commonRefusal?_eased (more : KnowsMore find find') (kind : SectionKind) (provider : String)
    (s : ProviderSection) :
    Eased (s.commonRefusal? find kind provider) (s.commonRefusal? find' kind provider) := by
  unfold commonRefusal?
  cases s.aliasRefusal? with
  | some e => exact .kept _
  | none =>
      cases s.credentialRefusal? kind provider with
      | some e => exact .kept _
      | none => exact pluginRefusal?_eased more provider s.migrated.hostname

end ProviderSection

theorem Section.error_eased {find find' : String → Option Plugin} (more : KnowsMore find find')
    (s : Section) :
    SectionError.Eased (s.validate find).value.error (s.validate find').value.error := by
  cases s with
  | provider s =>
      simp only [value_validate_provider, ProviderSection.value_validate]
      cases s.name.filter (· ≠ "") with
      | none => exact .kept _
      | some provider =>
          simp only [ProviderSection.value_checkCommon]
          exact s.commonRefusal?_eased more .provider provider
  | custom s =>
      simp only [value_validate_custom, CustomSection.value_validate,
        ProviderSection.value_checkCommon]
      cases s.hasUpdateHost with
      | false => exact .kept _
      | true => exact s.common.commonRefusal?_eased more .custom Plugin.customName

namespace Config

/-- Whatever is registered after the checks of a configuration, in checks made again each accepted
    section is accepted, and each refused one keeps its error, but that one which was refused for
    its plugin can be accepted then or be refused for its hostnames. -/
theorem validate_after_registrations (r : PluginRegistry) (registrations : List Registration)
    (config : Config) :
    let before := (config.validate r.lookup).value.2
    let after := (config.validate (r.after registrations).lookup).value.2
    ∀ place s, (place, s) ∈ config.sections →
      ∃ refusal refusal' : Option SectionError,
        refusalsAt before place = refusal.toList ∧ refusalsAt after place = refusal'.toList ∧
        SectionError.Eased refusal refusal' := by
  intro before after place s member
  refine ⟨_, _, refusalsAt_validate member, refusalsAt_validate member, ?_⟩
  exact s.error_eased fun name known => PluginRegistry.find?_isSome_after known registrations

/-- A section for a service that is not built in and has no hostnames. -/
def withoutHostnames : ProviderSection where
  name := some "example.net"
  username := some "u"
  password := some "p"

/-- Sections for one service, of which the second would be accepted if the service were known. -/
def forUnknownService : Config where
  providers := [withoutHostnames, { withoutHostnames with hostname := ["h.example.net"] }]

/-- The service becomes known under its bare name. -/
theorem validate_after_registrations_forUnknownService :
    let before := (forUnknownService.validate PluginRegistry.builtin.lookup).value.2
    let after := (forUnknownService.validate
      (PluginRegistry.builtin.after [.plugin { name := "default@example.net" }]).lookup).value.2
    let place : SectionId := ⟨.provider, 0, some "example.net"⟩
    refusalsAt before place = [.unknownProvider "example.net"] ∧
      refusalsAt after place = [.missingHostnames "example.net"] ∧
      ∃ refusal refusal' : Option SectionError,
        refusalsAt before place = refusal.toList ∧ refusalsAt after place = refusal'.toList ∧
        SectionError.Eased refusal refusal' := by
  intro before after place
  have member : (place, .provider withoutHostnames) ∈ forUnknownService.sections := by
    decide +kernel
  exact ⟨by decide +kernel, by decide +kernel,
    validate_after_registrations PluginRegistry.builtin [.plugin { name := "default@example.net" }]
      forUnknownService place _ member⟩

end Config

end DynamicDns
