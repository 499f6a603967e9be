import DynamicDns.Proofs.ConfigVerdict
import DynamicDns.Proofs.TracedAgreement

/-! # Configurations that pass their checks

Under any lookup, also one whose answers change, checks that refuse nothing
leave the configuration mended: the period is in its bounds, and no section uses
the deprecated option.
-/

namespace DynamicDns

theorem ProviderSection.result_of_accepted {find : String → Option Plugin} {s : ProviderSection}
    (accepted : (s.validate find).value.error = none) :
    (s.validate find).value.result = s.migrated :=
  Section.provider.inj (Section.accepted (s := .provider s) accepted).1

theorem CustomSection.result_of_accepted {find : String → Option Plugin} {s : CustomSection}
    (accepted : (s.validate find).value.error = none) :
    (s.validate find).value.result = s.migrated :=
  Section.custom.inj (Section.accepted (s := .custom s) accepted).1

namespace Config

variable {find : Lookup} {config : Config}

theorem report_eq_nil_iff {places : List SectionId} {refused : List (Option SectionError)}
    (same : places.length = refused.length) :
    report places refused = [] ↔ ∀ refusal ∈ refused, refusal = none := by
  simp only [report, List.filterMap_eq_nil_iff, Prod.forall, Option.map_eq_none_iff]
  constructor
  · intro none refusal member
    rw [← List.map_snd_zip (Nat.le_of_eq same.symm)] at member
    obtain ⟨⟨place, _⟩, paired, rfl⟩ := List.mem_map.mp member
    exact none place _ paired
  · intro none place refusal paired
    exact none refusal (List.of_mem_zip paired).2

theorem unrefused_iff_verdicts :
    (config.validate find).value.2 = [] ↔ ∀ v ∈ (config.verdicts find).value, v.error = none := by
  rw [refused_verdicts, report_eq_nil_iff, List.forall_mem_map]
  simpa using (forall₂_verdicts find config).length_eq

/-- Configurations whose sections are related one by one, and with them their titles, have related
    sections under the same identities. -/
theorem forall₂_sections {S : Section → Section → Prop} {c d : Config}
    (titled : ∀ s t, S s t → s.common.name = t.common.name)
    (providers : List.Forall₂ (fun s t => S (.provider s) (.provider t)) c.providers d.providers)
    (customs : List.Forall₂ (fun s t => S (.custom s) (.custom t)) c.customs d.customs) :
    List.Forall₂ (fun a b => a.1 = b.1 ∧ S a.2 b.2) c.sections d.sections := by
  unfold sections
  refine List.rel_append ?_ ?_ <;> rw [List.forall₂_map_left_iff, List.forall₂_map_right_iff]
  · refine (forall₂_zipIdx providers 0).imp ?_
    rintro ⟨s, i⟩ ⟨t, _⟩ ⟨related, rfl⟩
    exact ⟨congrArg (SectionId.mk .provider i) (titled _ _ related), related⟩
  · refine (forall₂_zipIdx customs 0).imp ?_
    rintro ⟨s, i⟩ ⟨t, _⟩ ⟨related, rfl⟩
    exact ⟨congrArg (SectionId.mk .custom i) (titled _ _ related), related⟩

/-- The configuration as checks that refuse nothing leave it. -/
def mended (config : Config) : Config :=
  { config with
    period := clampPeriod config.period
    providers := config.providers.map ProviderSection.migrated
    customs := config.customs.map CustomSection.migrated }

theorem sections_mended (config : Config) :
    config.mended.sections = config.sections.map fun (place, s) => (place, s.migrated) := by
  simp only [sections, mended, List.zipIdx_map, List.map_append, List.map_map]
  refine congrArg₂ (· ++ ·) (List.map_congr_left ?_) (List.map_congr_left ?_)
  · rintro ⟨s, i⟩ -
    simp [Section.migrated]
  · rintro ⟨s, i⟩ -
    simp [Section.migrated, CustomSection.migrated]

theorem sections_mended_fst (config : Config) :
    config.mended.sections.map Prod.fst = config.sections.map Prod.fst := by
  rw [sections_mended, List.map_map]
  rfl

theorem sections_mended_snd (config : Config) :
    config.mended.sections.map Prod.snd = (config.sections.map Prod.snd).map Section.migrated := by
  rw [sections_mended, List.map_map, List.map_map]
  rfl

theorem results_of_accepted {σ : Type}
    (validate : (String → Option Plugin) → σ → Traced (Verdict σ)) {mend : σ → σ}
    (mends : ∀ find s, (validate find s).value.error = none →
      (validate find s).value.result = mend s) (find : Lookup) {earlier : Nat} {items : List σ}
    (accepted : ∀ v ∈ (Traced.each (fun earlier s => validate (find earlier) s) earlier items).value,
      v.error = none) :
    (Traced.each (fun earlier s => validate (find earlier) s) earlier items).value.map
      Verdict.result = items.map mend := by
  have checked := Traced.forall₂_each (fun earlier s => validate (find earlier) s) earlier items
  have both := (List.forall₂_and_left _ _).mpr ⟨accepted, checked.flip⟩
  refine map_eq_of_forall₂ both ?_
  rintro _ s ⟨accepted, told, rfl⟩
  exact mends _ s accepted

theorem checked_of_unrefused (unrefused : (config.validate find).value.2 = []) :
    (config.validate find).value.1 = config.mended := by
  have accepted := unrefused_iff_verdicts.mp unrefused
  simp only [verdicts_eq, Traced.value_bind, Traced.value_pure, List.forall_mem_append,
    List.forall_mem_map, Verdict.error_map] at accepted
  obtain ⟨providers, customs⟩ := accepted
  have mendedProviders := results_of_accepted ProviderSection.validate
    (fun _ _ => ProviderSection.result_of_accepted) find providers
  have mendedCustoms := results_of_accepted CustomSection.validate
    (fun _ _ => CustomSection.result_of_accepted) find customs
  simp only [validate, mended, Traced.value_bind, Traced.value_pure, mendedProviders,
    mendedCustoms]

end Config

end DynamicDns
