import DynamicDns.Plugin.Builtin
import DynamicDns.Proofs.LoadOutcome

/-! # What a refused load reports

A report is measured against what each section would be refused for if it were
the only one. Sections that their checks refuse are always in it. Sections that
only their build refuses are in it exactly when no check refused anything, so a
report is complete exactly when all refusals are of one phase.
-/

namespace DynamicDns

/-- The configuration with a single section. -/
def Config.only (config : Config) : Section → Config
  | .provider s => { config with providers := [s], customs := [] }
  | .custom s => { config with providers := [], customs := [s] }

theorem Config.diagnose_only (config : Config) (s : Section)
    (refusal : Section → Option SectionError) :
    (config.only s).diagnose refusal =
      ((refusal s).map (⟨⟨s.kind, 0, s.common.name⟩, ·⟩)).toList := by
  have sections : (config.only s).sections = [(⟨s.kind, 0, s.common.name⟩, s)] := by
    cases s <;> rfl
  rw [diagnose, sections]
  cases refused : refusal s <;> simp [diagnosed, refused]

/-- Not both phases have something to refuse: either all sections pass their checks, or all that do
    also build. -/
def Config.RefusedInOnePhase (find : String → Option Plugin) (config : Config) : Prop :=
  (∀ place s, (place, s) ∈ config.sections → (s.validate find).value.error = none) ∨
    ∀ place s, (place, s) ∈ config.sections → (s.validate find).value.error = none →
      ∃ record, s.built find = .ok record

namespace LoadedConfig

variable {find : String → Option Plugin} {overrides : Overrides} {origin : String}
  {config : Config}

/-- Each section that would be refused as the only one has one diagnostic, for the same reason. -/
def ReportsEach (find : String → Option Plugin) (overrides : Overrides) (origin : String)
    (config : Config) (diagnostics : List Diagnostic) : Prop :=
  ∀ place s, (place, s) ∈ config.sections →
    ∀ alone, (ofConfig (.steady find) overrides origin (config.only s)).value =
        .error (.rejected alone) →
      ∃ error, alone.map Diagnostic.error = [error] ∧
        diagnostics.filter (·.place = place) = [⟨place, error⟩]

theorem ofConfig_only_rejected_iff {s : Section} {alone : List Diagnostic} :
    (ofConfig (.steady find) overrides origin (config.only s)).value = .error (.rejected alone) ↔
      ∃ e, s.refusal? find = some e ∧ alone = [⟨⟨s.kind, 0, s.common.name⟩, e⟩] := by
  rw [value_ofConfig]
  simp only [Section.refusal?, Config.checkRefusals, Config.buildRefusals, Config.diagnose_only]
  cases (s.validate find).value.error with
  | some e => simp [eq_comm]
  | none =>
      cases refusalOf (s.built find) with
      | some e => simp [eq_comm]
      | none => simp

theorem reportsEach_iff_filter {diagnostics : List Diagnostic} :
    ReportsEach find overrides origin config diagnostics ↔
      ∀ place s, (place, s) ∈ config.sections → ∀ e, s.refusal? find = some e →
        diagnostics.filter (·.place = place) = [⟨place, e⟩] := by
  unfold ReportsEach
  constructor
  · intro reports place s member e refused
    obtain ⟨error, same, reported⟩ := reports place s member _
      (ofConfig_only_rejected_iff.mpr ⟨e, refused, rfl⟩)
    cases same
    exact reported
  · intro reports place s member alone rejected
    obtain ⟨e, refused, rfl⟩ := ofConfig_only_rejected_iff.mp rejected
    exact ⟨e, rfl, reports place s member e refused⟩

/-- The report of the first phase is complete if nothing is left for the second one. -/
theorem reportsEach_checkRefusals_iff :
    ReportsEach find overrides origin config (config.checkRefusals find) ↔
      ∀ place s, (place, s) ∈ config.sections → (s.validate find).value.error = none →
        ∃ record, s.built find = .ok record := by
  rw [reportsEach_iff_filter]
  constructor
  · intro reports place s member accepted
    rw [← refusalOf_eq_none_iff]
    cases built : refusalOf (s.built find) with
    | none => rfl
    | some e =>
        have missing := reports place s member e (by rw [Section.refusal?, accepted, built]; rfl)
        rw [Config.checkRefusals, Config.diagnose_filter_place member, accepted] at missing
        cases missing
  · intro builds place s member e refused
    rw [Config.checkRefusals, Config.diagnose_filter_place member]
    cases checked : (s.validate find).value.error with
    | none =>
        have built := refusalOf_eq_none_iff.mpr (builds place s member checked)
        rw [Section.refusal?, checked, built] at refused
        cases refused
    | some error =>
        rw [Section.refusal?, checked] at refused
        cases refused
        rfl

/-- The report of the second phase is complete, since it is reached by accepted sections only. -/
theorem reportsEach_buildRefusals
    (accepted : ∀ place s, (place, s) ∈ config.sections → (s.validate find).value.error = none) :
    ReportsEach find overrides origin config (config.buildRefusals find) := by
  rw [reportsEach_iff_filter]
  intro place s member e refused
  rw [Section.refusal?, accepted place s member, Option.none_or] at refused
  rw [Config.buildRefusals, Config.diagnose_filter_place member, refused]
  rfl

/-- A rejected load reports every section that is bad by itself exactly when not both phases have
    something to refuse. -/
theorem reportsEach_iff (diagnostics : List Diagnostic)
    (rejected : (ofConfig (.steady find) overrides origin config).value =
      .error (.rejected diagnostics)) :
    ReportsEach find overrides origin config diagnostics ↔ config.RefusedInOnePhase find := by
  rw [value_ofConfig] at rejected
  unfold Config.RefusedInOnePhase
  rw [← Config.diagnose_eq_nil_iff, ← Config.checkRefusals]
  by_cases checked : config.checkRefusals find = []
  · have accepted := Config.diagnose_eq_nil_iff.mp checked
    rw [if_neg (not_not_intro checked)] at rejected
    split at rejected
    · cases rejected
      exact iff_of_true (reportsEach_buildRefusals accepted) (.inl checked)
    · cases rejected
  · rw [if_pos checked] at rejected
    cases rejected
    rw [reportsEach_checkRefusals_iff]
    exact ⟨.inr, fun either => either.resolve_left checked⟩

/-- Two provider sections that their checks refuse. -/
def twoRefusedByChecks : Config where
  providers := [
    { username := some "u", password := some "p", hostname := ["h.example.org"] },
    { name := some "no-ip.com", username := some "u", hostname := ["h.no-ip.com"] }]

theorem reportsEach_twoRefusedByChecks :
    (ofConfig (.steady PluginRegistry.builtin.find?) {} inlineOrigin twoRefusedByChecks).value =
        .error (.rejected [⟨⟨.provider, 0, none⟩, .missingName⟩,
          ⟨⟨.provider, 1, some "no-ip.com"⟩, .missingCredential "no-ip.com" "password"⟩]) ∧
      ReportsEach PluginRegistry.builtin.find? {} inlineOrigin twoRefusedByChecks
        [⟨⟨.provider, 0, none⟩, .missingName⟩,
          ⟨⟨.provider, 1, some "no-ip.com"⟩, .missingCredential "no-ip.com" "password"⟩] := by
  refine ⟨rfl, (reportsEach_iff _ rfl).mpr (.inr ?_)⟩
  intro place s member accepted
  have sections : (place, s) ∈ [_, _] := member
  rcases List.mem_pair.mp sections with same | same
  · cases same
    exact absurd accepted (by decide +kernel)
  · cases same
    exact absurd accepted (by decide +kernel)

/-- One section that its checks refuse and one that only its build refuses. -/
def refusedInBothPhases : Config where
  providers := [{ username := some "u", password := some "p", hostname := ["h.example.org"] }]
  customs := [longPathSection]

/-- The untitled section hides that the path of the other one is too long. -/
theorem not_reportsEach_refusedInBothPhases :
    ∃ diagnostics, (ofConfig (.steady PluginRegistry.builtin.find?) {} inlineOrigin
        refusedInBothPhases).value = .error (.rejected diagnostics) ∧
      ¬ ReportsEach PluginRegistry.builtin.find? {} inlineOrigin refusedInBothPhases
        diagnostics := by
  have first : refusedInBothPhases.checkRefusals PluginRegistry.builtin.find? ≠ [] := by
    decide +kernel
  refine ⟨_, by rw [value_ofConfig, if_pos first], ?_⟩
  rw [reportsEach_checkRefusals_iff]
  intro builds
  obtain ⟨record, built⟩ := builds ⟨.custom, 0, some "home"⟩ (.custom longPathSection)
    (List.mem_pair.mpr (.inr rfl)) (by decide +kernel)
  have refused : refusalOf ((Section.custom longPathSection).built PluginRegistry.builtin.find?) =
      some (.configOverflow "ddns-path" 257 256) := by
    decide +kernel
  rw [built] at refused
  cases refused

end LoadedConfig

end DynamicDns
