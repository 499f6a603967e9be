import DynamicDns.Proofs.EndpointGrammar
import DynamicDns.Proofs.UpdateHost

/-! # The checks of a section in order

What sections of both kinds are checked for, as a list of conditions with the
refusals that they lead to. The first condition that holds decides, and a section
that meets none is accepted. A custom section is never asked for a title or for
credentials, but for an update host, and this is the host that its record has.
-/

namespace DynamicDns

/-- What refuses a section, and how it is then refused. -/
structure Check where
  fails : Prop
  refusal : SectionError

/-- The first check that fails decides. A section that fails none is accepted. -/
inductive Decides : List Check → Option SectionError → Prop where
  | accepted : Decides [] none
  | refused {check : Check} {later : List Check} :
      check.fails → Decides (check :: later) (some check.refusal)
  | passed {check : Check} {later : List Check} {verdict : Option SectionError} :
      ¬ check.fails → Decides later verdict → Decides (check :: later) verdict

namespace Decides

variable {checks later : List Check} {verdict verdict' : Option SectionError}

theorem unique (decides : Decides checks verdict) (decides' : Decides checks verdict') :
    verdict = verdict' := by
  induction decides with
  | accepted =>
      cases decides'
      rfl
  | refused fails =>
      cases decides' with
      | refused => rfl
      | passed passes => exact (passes fails).elim
  | passed passes _ ih =>
      cases decides' with
      | refused fails => exact (passes fails).elim
      | passed _ rest => exact ih rest

theorem iff_eq (decides : Decides checks verdict) : Decides checks verdict' ↔ verdict = verdict' :=
  ⟨decides.unique, fun same => same ▸ decides⟩

/-- Later checks are made once the earlier ones are passed. -/
theorem append (first : Decides checks verdict) (second : verdict = none → Decides later verdict') :
    Decides (checks ++ later) (verdict.or verdict') := by
  induction first with
  | accepted => exact second rfl
  | refused fails => exact .refused fails
  | passed passes _ ih => exact .passed passes (ih second)

theorem single (fails : Prop) [Decidable fails] (refusal : SectionError) :
    Decides [⟨fails, refusal⟩] (if fails then some refusal else none) := by
  by_cases h : fails
  · rw [if_pos h]
    exact .refused h
  · rw [if_neg h]
    exact .passed h .accepted

/-- One check for each item finds the first item that fails. -/
theorem items {α : Type} (fails : α → Prop) [DecidablePred fails] (refusal : α → SectionError)
    (as : List α) :
    Decides (as.map fun a => ⟨fails a, refusal a⟩) ((as.find? (fails ·)).map refusal) := by
  induction as with
  | nil => exact .accepted
  | cons a as ih =>
      rw [List.map_cons, List.find?_cons]
      by_cases h : fails a
      · rw [decide_eq_true h]
        exact .refused h
      · rw [decide_eq_false h]
        exact .passed h ih

end Decides

namespace Endpoint

/-- A server with nothing but blanks before its first colon. -/
def BlankHost (server : String) : Prop :=
  ∃ host after, FirstColon server host after ∧ ∀ c ∈ host.toList, Text.isBlank c

theorem blankHost_iff {server : String} :
    BlankHost server ↔ Text.trim (hostPart server).toList = [] := by
  rw [Text.trim_eq_nil_iff]
  constructor
  · rintro ⟨host, after, parts, blank⟩
    rwa [parts.hostPart_eq]
  · intro blank
    obtain ⟨host, after, parts⟩ := FirstColon.exists_parts server
    rw [parts.hostPart_eq] at blank
    exact ⟨host, after, parts, blank⟩

end Endpoint

/-! ## The checks -/

namespace ProviderSection

/-- There is a hostname under one of the two names of the list, and none is too long. -/
def hostnameChecks (provider : String) (s : ProviderSection) : List Check :=
  ⟨s.hostname ++ s.aliases = [], .missingHostnames provider⟩ ::
    (s.hostname ++ s.aliases).map fun hostname =>
      ⟨255 < hostname.utf8ByteSize, .hostnameTooLong provider hostname⟩

/-- What a provider section is checked for, in order. -/
def checks (find : String → Option Plugin) (s : ProviderSection) : List Check :=
  let title := s.name.getD ""
  [⟨title = "", .missingName⟩,
    ⟨s.aliases ≠ [] ∧ s.hostname ≠ [], .aliasConflict⟩,
    ⟨s.username = none, .missingCredential title "username"⟩,
    ⟨s.password = none, .missingCredential title "password"⟩,
    ⟨find title = none, .unknownProvider title⟩] ++ s.hostnameChecks title

end ProviderSection

/-- What a custom section is checked for, in order. -/
def CustomSection.checks (find : String → Option Plugin) (s : CustomSection) : List Check :=
  [⟨∀ server ∈ s.ddnsServer, Endpoint.BlankHost server, .missingServer⟩,
    ⟨s.common.aliases ≠ [] ∧ s.common.hostname ≠ [], .aliasConflict⟩,
    ⟨find "custom" = none, .unknownProvider "custom"⟩] ++ s.common.hostnameChecks "custom"

namespace ProviderSection

variable (find : String → Option Plugin) (provider : String) (s : ProviderSection)

theorem alias_decides :
    Decides [⟨s.aliases ≠ [] ∧ s.hostname ≠ [], .aliasConflict⟩] s.aliasRefusal? := by
  have asked : s.aliasRefusal? =
      if s.aliases ≠ [] ∧ s.hostname ≠ [] then some .aliasConflict else none := by
    simp [aliasRefusal?]
  rw [asked]
  exact .single _ _

theorem credentials_decide :
    Decides [⟨s.username = none, .missingCredential provider "username"⟩,
      ⟨s.password = none, .missingCredential provider "password"⟩]
      (s.credentialRefusal? .provider provider) := by
  have asked : s.credentialRefusal? .provider provider =
      (if s.username = none then some (.missingCredential provider "username") else none).or
        (if s.password = none then some (.missingCredential provider "password") else none) := by
    simp only [credentialRefusal?, if_true, missingCredential?, Option.isNone_iff_eq_none]
    split <;> rfl
  rw [asked]
  exact (Decides.single _ _).append fun _ => .single _ _

theorem plugin_decides :
    Decides [⟨find provider = none, .unknownProvider provider⟩] (pluginRefusal? find provider) := by
  simp only [pluginRefusal?, Option.isNone_iff_eq_none]
  exact .single _ _

theorem hostnames_decide (unmixed : s.aliasRefusal? = none) :
    Decides (s.hostnameChecks provider) (checkHostnames provider s.migrated.hostname) := by
  rw [hostname_migrated (aliasRefusal?_eq_none_iff.mp unmixed)]
  have asked : checkHostnames provider (s.hostname ++ s.aliases) =
      (if s.hostname ++ s.aliases = [] then some (.missingHostnames provider) else none).or
        (((s.hostname ++ s.aliases).find? (255 < ·.utf8ByteSize)).map
          (.hostnameTooLong provider)) := by
    simp only [checkHostnames, List.isEmpty_iff]
    split <;> rfl
  rw [asked]
  exact (Decides.single _ _).append fun _ => .items _ _ _

/-- What both kinds of sections are checked for, with what is asked about credentials between. -/
theorem common_decides {kind : SectionKind} {credentials : List Check}
    (asked : Decides credentials (s.credentialRefusal? kind provider)) :
    Decides ([⟨s.aliases ≠ [] ∧ s.hostname ≠ [], .aliasConflict⟩] ++ (credentials ++
      ([⟨find provider = none, .unknownProvider provider⟩] ++ s.hostnameChecks provider)))
      (s.commonRefusal? find kind provider) := by
  apply s.alias_decides.append
  -- Without a conflict the mended list has the entries of both options, as the later checks say.
  intro unmixed
  apply asked.append
  intro _
  apply (plugin_decides find provider).append
  intro _
  exact hostnames_decide provider s unmixed

theorem validate_decided : Decides (s.checks find) (s.validate find).value.error := by
  rw [value_validate]
  cases named : s.name with
  | none =>
      have untitled : s.name.getD "" = "" := by rw [named]; rfl
      exact .refused untitled
  | some title =>
      have same : s.name.getD "" = title := by rw [named]; rfl
      by_cases empty : title = ""
      · rw [Option.filter_some_neg (by simpa using empty)]
        exact .refused (same.trans empty)
      · rw [Option.filter_some_pos (by simpa using empty)]
        simp only [value_checkCommon, checks, same]
        exact .passed empty (common_decides find title s (credentials_decide title s))

end ProviderSection

namespace CustomSection

theorem hasUpdateHost_eq_false_iff {s : CustomSection} :
    s.hasUpdateHost = false ↔ ∀ server ∈ s.ddnsServer, Endpoint.BlankHost server := by
  unfold hasUpdateHost
  cases s.ddnsServer with
  | none => simp
  | some server => simp [Endpoint.blankHost_iff]

variable (find : String → Option Plugin) (s : CustomSection)

theorem validate_decided : Decides (s.checks find) (s.validate find).value.error := by
  rw [value_validate]
  cases hosted : s.hasUpdateHost with
  | false => exact .refused (hasUpdateHost_eq_false_iff.mp hosted)
  | true =>
      have named : ¬ ∀ server ∈ s.ddnsServer, Endpoint.BlankHost server := by
        rw [← hasUpdateHost_eq_false_iff, hosted]
        exact Bool.true_eq_false.mp
      have unasked : Decides [] (s.common.credentialRefusal? .custom "custom") := .accepted
      simp only [if_true, ProviderSection.value_checkCommon]
      exact .passed named (ProviderSection.common_decides find "custom" s.common unasked)

/-- Neither title nor credentials matter to the checks. -/
theorem error_of_untitled (name username password : Option String) :
    ({ s with common := { s.common with name, username, password } }.validate find).value.error =
      (s.validate find).value.error := by
  have decided := CustomSection.validate_decided find
    { s with common := { s.common with name, username, password } }
  exact decided.unique (validate_decided find s)

theorem ddnsServer_result : (s.validate find).value.result.ddnsServer = s.ddnsServer := by
  rw [result_eq]

variable {find s}

/-- The host that the checks look at is the one that the record has. -/
theorem updateHost_of_build {record : ProviderRecord}
    (accepted : (s.validate find).value.error = none)
    (built : (ProviderRecord.build find (.custom (s.validate find).value.result)).value =
      .ok record) :
    ∃ server host after, s.ddnsServer = some server ∧ Endpoint.FirstColon server host after ∧
      (¬ ∀ c ∈ host.toList, Text.isBlank c) ∧ record.update.name.text = host := by
  have hosted : s.hasUpdateHost ≠ false := by
    rw [Section.hasUpdateHost_of_accepted accepted]
    exact Bool.true_eq_false.mp
  rw [ne_eq, hasUpdateHost_eq_false_iff] at hosted
  simp only [not_forall] at hosted
  obtain ⟨server, given, named⟩ := hosted
  obtain ⟨host, after, parts⟩ := Endpoint.FirstColon.exists_parts server
  obtain ⟨plugin, defaults, targets, hostnames, -, own, -, rfl⟩ :=
    ProviderRecord.merged_of_build built
  refine ⟨server, host, after, given, parts, fun blank => named ⟨host, after, parts, blank⟩, ?_⟩
  rw [← parts.hostPart_eq]
  exact Targets.update_overrideBy ((ddnsServer_result find s).trans given) own

end CustomSection

/-- The checks of a section of either kind are the listed ones, in this order, and the first that
    fails is what the section is refused for. A custom section is checked alike whatever title and
    credentials it has or lacks. If it is accepted and its record is built, the update host of the
    record is the text before the first colon of its server, and this text is not blank. -/
theorem Section.checks_decide (find : String → Option Plugin) :
    (∀ (s : ProviderSection) verdict,
      (s.validate find).value.error = verdict ↔ Decides (s.checks find) verdict) ∧
    (∀ (s : CustomSection) verdict,
      (s.validate find).value.error = verdict ↔ Decides (s.checks find) verdict) ∧
    (∀ (s : CustomSection) (name username password : Option String),
      ({ s with common := { s.common with name, username, password } }.validate find).value.error =
        (s.validate find).value.error) ∧
    ∀ (s : CustomSection) (record : ProviderRecord),
      (s.validate find).value.error = none →
      (ProviderRecord.build find (.custom (s.validate find).value.result)).value = .ok record →
      ∃ server host after, s.ddnsServer = some server ∧ Endpoint.FirstColon server host after ∧
        (¬ ∀ c ∈ host.toList, Text.isBlank c) ∧ record.update.name.text = host := by
  refine ⟨?_, ?_, CustomSection.error_of_untitled find, ?_⟩
  · intro s verdict
    exact (s.validate_decided find).iff_eq.symm
  · intro s verdict
    exact (s.validate_decided find).iff_eq.symm
  · intro s record accepted built
    exact CustomSection.updateHost_of_build accepted built

/-- A custom section without title and credentials, its hostnames under the deprecated name, and a
    server with blanks around its host and a second colon. -/
def untitledSection : CustomSection where
  common := { aliases := ["home.example.net", "office.example.net"] }
  ddnsServer := some "\u3000update.example.net :80:81"

theorem Section.checks_decide_untitled :
    let find := PluginRegistry.builtin.find?
    (untitledSection.validate find).value.error = none ∧
      ∃ record, (ProviderRecord.build find
          (.custom (untitledSection.validate find).value.result)).value = .ok record ∧
        record.update.name.text = "\u3000update.example.net " := by
  intro find
  have accepted : (untitledSection.validate find).value.error = none := by decide +kernel
  refine ⟨accepted, _, rfl, ?_⟩
  obtain ⟨-, -, -, hosted⟩ := checks_decide find
  obtain ⟨server, host, after, ⟨⟩, parts, -, same⟩ := hosted untitledSection _ accepted rfl
  rw [same, ← parts.hostPart_eq]
  decide +kernel

end DynamicDns
