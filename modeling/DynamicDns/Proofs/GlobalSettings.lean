import DynamicDns.Plugin.Builtin
import DynamicDns.Proofs.AliasSynonym
import DynamicDns.Proofs.ClampedPeriod

/-! # Global settings

What a load takes over from the file for the daemon as a whole. The command line
stands in for two of the settings and has no part in anything else: two loads of
one configuration refuse the same sections or build the same records. The period
is the nearest one within its bounds.
-/

namespace DynamicDns

namespace LoadedConfig

/-- The same records and the same settings, but for those that the command line can replace. -/
structure EqualUpToOverrides (l l' : LoadedConfig) : Prop where
  providers : l.providers = l'.providers
  global : { l.global with
    iface := l'.global.iface, totalIterations := l'.global.totalIterations } = l'.global

variable (find : Lookup) (overrides others : Overrides) (origin : String)

theorem afterChecks_agree (earlier : Nat) (checked : Config × List Diagnostic) :
    Traced.Agree True (SameOutcome EqualUpToOverrides)
      (afterChecks find overrides origin earlier checked)
      (afterChecks find others origin earlier checked) := by
  obtain ⟨config, refused⟩ := checked
  have rejected (diagnostics : List Diagnostic) :
      Traced.Agree True (SameOutcome EqualUpToOverrides) (reject origin diagnostics)
        (reject origin diagnostics) :=
    ⟨.error _, rfl, fun _ => rfl⟩
  simp only [afterChecks]
  split
  · exact rejected refused
  · refine Traced.Agree.bind (.refl _) ?_
    rintro ⟨providers, refused⟩ _ rfl
    dsimp only
    split
    · exact rejected refused
    · exact Traced.Agree.bind (.refl _) fun _ _ _ => .pure (.ok ⟨rfl, rfl⟩)

theorem ofConfig_overrides_agree (config : Config) :
    Traced.Agree True (SameOutcome EqualUpToOverrides)
      (ofConfig find overrides origin config) (ofConfig find others origin config) := by
  rw [ofConfig_eq, ofConfig_eq]
  refine Traced.Agree.bind (.refl _) ?_
  rintro checked _ rfl
  exact afterChecks_agree find overrides others origin _ checked

variable {find overrides origin} {config : Config} {loaded : LoadedConfig}

theorem global_of_loaded (succeeded : (ofConfig find overrides origin config).value = .ok loaded) :
    loaded.global = {
      updatePeriod := clampPeriod config.period
      forcedUpdatePeriod := config.forcedUpdate
      errorUpdatePeriod := 600
      totalIterations := if overrides.once then 1 else config.iterations
      cacheDir := config.cacheDir
      fakeAddress := config.fakeAddress
      iface := overrides.iface.or config.iface } := by
  obtain ⟨-, -, rfl⟩ := phases_of_loaded succeeded
  rfl

/-- Whatever stands on the command line, loads of one configuration refuse the same sections or have
    the same records, and tell the same; only the interface and the number of iterations can differ.
    The command line comes first for these two, and all other settings are those of the file. The
    period is the nearest one within its bounds: a longer one in the file does not make it shorter,
    and to move it there again changes nothing. Kept in words of 64 bits, with and without a sign, it
    is the same number and never wraps. -/
theorem ofConfig_settings (find : Lookup) (overrides others : Overrides) (origin : String)
    (config : Config) :
    let first := ofConfig find overrides origin config
    let second := ofConfig find others origin config
    Traced.Agree True (SameOutcome EqualUpToOverrides) first second ∧
    ∀ loaded, first.value = .ok loaded →
      loaded.global = {
        updatePeriod := (max 120 (min config.period 864000)).toNat
        forcedUpdatePeriod := config.forcedUpdate
        errorUpdatePeriod := 600
        totalIterations := if overrides.once then 1 else config.iterations
        cacheDir := config.cacheDir
        fakeAddress := config.fakeAddress
        iface := overrides.iface.or config.iface } ∧
      (∀ (longer : Config) (loaded' : LoadedConfig), config.period ≤ longer.period →
        (ofConfig find others origin longer).value = .ok loaded' →
        loaded.global.updatePeriod ≤ loaded'.global.updatePeriod) ∧
      clampPeriod loaded.global.updatePeriod = loaded.global.updatePeriod ∧
      ∀ period : Int64, period.toInt = config.period → PeriodWord.NoWrap period ∧
        (PeriodWord.clamp period).toInt64.toInt = (config.validate find).value.1.period ∧
        (PeriodWord.clamp period).toInt64.toUInt64.toNat = loaded.global.updatePeriod := by
  refine ⟨ofConfig_overrides_agree find overrides others origin config, ?_⟩
  intro loaded succeeded
  rw [global_of_loaded succeeded]
  refine ⟨?_, ?_, clampPeriod_clampPeriod _, ?_⟩
  · rw [clampPeriod_eq_toNat]
  · intro longer loaded' ordered succeeded'
    rw [global_of_loaded succeeded']
    exact clampPeriod_mono ordered
  · rintro period same
    refine ⟨PeriodWord.noWrap period, ?_, ?_⟩
    · rw [PeriodWord.toInt_clamp, PeriodWord.toNat_clamp, same]
      rfl
    · rw [UInt64.toUInt64_toInt64, PeriodWord.toNat_clamp, same]

/-- The least period that a document can give, and settings that the command line can replace. -/
def leastPeriod : Config where
  period := -9223372036854775808
  iterations := 7
  iface := some "eth0"
  providers := [
    { name := some "no-ip.com", username := some "u", password := some "p",
      hostname := ["h.no-ip.com"] }]

theorem ofConfig_settings_leastPeriod :
    let find := PluginRegistry.builtin.lookup
    let line : Overrides := { iface := some "wlan0", once := true }
    ∃ loaded loaded', (ofConfig find line inlineOrigin leastPeriod).value = .ok loaded ∧
      (ofConfig find {} inlineOrigin leastPeriod).value = .ok loaded' ∧
      EqualUpToOverrides loaded loaded' ∧
      loaded.global = {
        updatePeriod := 120
        forcedUpdatePeriod := 2592000
        errorUpdatePeriod := 600
        totalIterations := 1
        cacheDir := "/var/cache/ddnsd"
        fakeAddress := false
        iface := some "wlan0" } ∧
      (PeriodWord.clamp Int64.minValue).toInt64.toUInt64.toNat = loaded.global.updatePeriod := by
  intro find line
  have loads : ∃ loaded, (ofConfig find line inlineOrigin leastPeriod).value = .ok loaded :=
    (ofConfig_ok_iff line inlineOrigin leastPeriod).mpr ⟨by decide +kernel, by decide +kernel⟩
  obtain ⟨loaded, succeeded⟩ := loads
  obtain ⟨agree, settings⟩ := ofConfig_settings find line {} inlineOrigin leastPeriod
  obtain ⟨global, -, -, words⟩ := settings loaded succeeded
  have outcome := agree.value
  rw [succeeded] at outcome
  obtain ⟨loaded', succeeded', related⟩ := outcome.exists_ok
  exact ⟨loaded, loaded', succeeded, succeeded', related, global,
    (words _ (by decide +kernel)).2.2⟩

end LoadedConfig

end DynamicDns
