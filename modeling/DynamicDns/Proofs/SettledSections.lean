import DynamicDns.Proofs.LoadEvents

/-! # What checks leave of sections

Checks do one thing to a section: entries of the deprecated option are moved to
where they belong. They do so only once the section has passed the first checks,
and then also if a later one refuses it. Nothing else of a section changes, and
of the global settings only the period, whatever plugins there are.
-/

namespace DynamicDns

/-! ## One section -/

/-- The same entries in the same order, be they under the one name of the hostname list or under the
    other, and the same in all other options. -/
structure ProviderSection.Keeps (s t : ProviderSection) : Prop where
  entries : t.hostname ++ t.aliases = s.hostname ++ s.aliases
  others : { t with hostname := s.hostname, aliases := s.aliases } = s

inductive Section.Keeps : Section → Section → Prop where
  | provider {s t : ProviderSection} (kept : s.Keeps t) : Keeps (.provider s) (.provider t)
  | custom {s : CustomSection} {common : ProviderSection} (kept : s.common.Keeps common) :
    Keeps (.custom s) (.custom { s with common })

namespace ProviderSection

theorem MovesAlias.keeps {s t : ProviderSection} (moves : s.MovesAlias t) : s.Keeps t := by
  cases moves with
  | kept => exact ⟨rfl, rfl⟩
  | moved unused => exact ⟨by rw [unused, List.append_nil, List.nil_append], rfl⟩

theorem movesAlias_migrated {s : ProviderSection} (lists : s.aliases = [] ∨ s.hostname = []) :
    s.MovesAlias s.migrated := by
  unfold migrated
  split
  · exact .kept
  · rename_i some
    exact .moved (lists.resolve_left (mt List.isEmpty_iff.mpr some))

end ProviderSection

namespace Section

theorem MovesAlias.refl (s : Section) : s.MovesAlias s := by
  cases s with
  | provider s => exact .provider .kept
  | custom s => exact .custom (.mk .kept)

theorem MovesAlias.keeps {s t : Section} (moves : s.MovesAlias t) : s.Keeps t := by
  cases moves with
  | provider moves => exact .provider moves.keeps
  | custom moves =>
      obtain ⟨moves⟩ := moves
      exact .custom moves.keeps

/-- Neither the check for the deprecated option nor one before it refuses the section. -/
def PassesAlias (s : Section) : Prop :=
  s.ReachesAlias ∧ (s.common.aliases = [] ∨ s.common.hostname = [])

instance : DecidablePred PassesAlias := fun _ => inferInstanceAs (Decidable (_ ∧ _))

/-- What these checks refuse sections for. -/
def earlyRefusals : List SectionError := [.missingName, .missingServer, .aliasConflict]

/-- The section as its checks leave it. -/
def settled (s : Section) : Section := if s.PassesAlias then s.migrated else s

theorem movesAlias_settled (s : Section) : s.MovesAlias s.settled := by
  unfold settled
  split
  · rename_i passes
    cases s with
    | provider s => exact .provider (ProviderSection.movesAlias_migrated passes.2)
    | custom s => exact .custom (.mk (ProviderSection.movesAlias_migrated passes.2))
  · exact .refl s

theorem settled_aliases {s : Section} (passes : s.PassesAlias) : s.settled.common.aliases = [] := by
  rw [settled, if_pos passes, migrated_aliases]

end Section

namespace ProviderSection

variable {find : String → Option Plugin} {kind : SectionKind} {provider : String}
  {s : ProviderSection}

/-- The checks after the one for the deprecated option have refusals of their own. -/
theorem not_early_of_later {e : SectionError}
    (refused : (s.credentialRefusal? kind provider).or ((pluginRefusal? find provider).or
      (checkHostnames provider s.migrated.hostname)) = some e) : e ∉ Section.earlyRefusals := by
  rw [Option.or_eq_some_iff, Option.or_eq_some_iff] at refused
  obtain credential | ⟨-, plugin | ⟨-, hostname⟩⟩ := refused
  · unfold credentialRefusal? missingCredential? at credential
    split at credential
    · split at credential
      · cases credential
        simp [Section.earlyRefusals]
      · split at credential <;> cases credential
        simp [Section.earlyRefusals]
    · cases credential
  · unfold pluginRefusal? at plugin
    split at plugin <;> cases plugin
    simp [Section.earlyRefusals]
  · unfold checkHostnames at hostname
    split at hostname
    · cases hostname
      simp [Section.earlyRefusals]
    · obtain ⟨long, -, rfl⟩ := Option.map_eq_some_iff.mp hostname
      simp [Section.earlyRefusals]

theorem commonRefusal?_early_iff :
    (∃ e ∈ Section.earlyRefusals, s.commonRefusal? find kind provider = some e) ↔
      s.aliasRefusal? ≠ none := by
  unfold commonRefusal?
  constructor
  · rintro ⟨e, early, refused⟩ unmixed
    rw [unmixed, Option.none_or] at refused
    exact not_early_of_later refused early
  · intro mixed
    obtain ⟨e, conflict⟩ := Option.ne_none_iff_exists'.mp mixed
    have same : e = .aliasConflict := by
      unfold aliasRefusal? at conflict
      split at conflict <;> cases conflict
      rfl
    exact ⟨e, by simp [same, Section.earlyRefusals], by rw [conflict, Option.some_or]⟩

end ProviderSection

namespace Section

variable (find : String → Option Plugin) (s : Section)

theorem passesAlias_iff {s : Section} (reaches : s.ReachesAlias) :
    s.PassesAlias ↔ s.common.aliasRefusal? = none := by
  simp only [PassesAlias, reaches, true_and, ProviderSection.aliasRefusal?_eq_none_iff]

/-- What is left of a section does not depend on the plugins that there are. -/
theorem result_validate : (s.validate find).value.result = s.settled := by
  unfold settled
  by_cases reaches : s.ReachesAlias
  · obtain ⟨provider, -, verdict⟩ := value_validate_of_reached find reaches
    simp only [verdict, passesAlias_iff reaches]
    cases s.common.aliasRefusal? <;> rfl
  · have stops : ¬ s.PassesAlias := fun passes => reaches passes.1
    rw [validate_of_unreached find reaches, if_neg stops, Traced.value_pure]

/-- The early refusals are those of sections that do not get past the check for the deprecated
    option. -/
theorem error_early_iff :
    (∃ e ∈ earlyRefusals, (s.validate find).value.error = some e) ↔ ¬ s.PassesAlias := by
  by_cases reaches : s.ReachesAlias
  · obtain ⟨provider, -, verdict⟩ := value_validate_of_reached find reaches
    rw [verdict, ProviderSection.commonRefusal?_early_iff, passesAlias_iff reaches]
  · have early : firstRefusal s.kind ∈ earlyRefusals := by
      cases s.kind <;> simp [firstRefusal, earlyRefusals]
    rw [validate_of_unreached find reaches, Traced.value_pure]
    exact iff_of_true ⟨_, early, rfl⟩ fun passes => reaches passes.1

end Section

/-! ## All sections -/

namespace Config

theorem place_mem_of_mem_report {places : List SectionId} {refused : List (Option SectionError)}
    {d : Diagnostic} (reported : d ∈ report places refused) : d.place ∈ places := by
  obtain ⟨⟨place, refusal⟩, paired, made⟩ := List.mem_filterMap.mp reported
  obtain ⟨e, -, rfl⟩ := Option.map_eq_some_iff.mp made
  exact (List.of_mem_zip paired).1

/-- A section has the diagnostics that its own refusal makes. -/
theorem mem_report_iff {R : Section → Option SectionError → Prop}
    {sections : List (SectionId × Section)} {refused : List (Option SectionError)}
    (related : List.Forall₂ R (sections.map Prod.snd) refused)
    (distinct : (sections.map Prod.fst).Nodup) {place : SectionId} {s : Section}
    (member : (place, s) ∈ sections) :
    ∃ refusal, R s refusal ∧
      ∀ e, ⟨place, e⟩ ∈ report (sections.map Prod.fst) refused ↔ refusal = some e := by
  induction sections generalizing refused with
  | nil => cases member
  | cons first rest ih =>
      obtain ⟨other, t⟩ := first
      rw [List.map_cons] at related distinct
      obtain ⟨refusal, later, head, tail, rfl⟩ := List.forall₂_cons_left_iff.mp related
      obtain ⟨fresh, distinct⟩ := List.nodup_cons.mp distinct
      simp only [List.map_cons, report_cons, List.mem_append]
      rcases List.mem_cons.mp member with same | inRest
      · obtain ⟨rfl, rfl⟩ := Prod.mk.inj same
        refine ⟨refusal, head, fun e => ?_⟩
        have later : (⟨place, e⟩ : Diagnostic) ∉ report (rest.map Prod.fst) later :=
          fun reported => fresh (place_mem_of_mem_report reported)
        simp [later]
      · have different : other ≠ place := fun same =>
          fresh (List.mem_map.mpr ⟨_, inRest, same.symm⟩)
        obtain ⟨refusal', holds, reported⟩ := ih tail distinct inRest
        refine ⟨refusal', holds, fun e => ?_⟩
        simp [reported, different]

variable (find : Lookup) (config : Config)

theorem sections_settled : (config.validate find).value.1.sections =
    config.sections.map fun (place, s) => (place, s.settled) := by
  have results : (config.sections.map Prod.snd).map Section.settled =
      (config.verdicts find).value.map Verdict.result := by
    refine map_eq_of_forall₂ (forall₂_verdicts find config) ?_
    rintro s _ ⟨told, rfl⟩
    exact (s.result_validate (find told)).symm
  rw [sections_verdicts, ← results, List.map_map, List.zip_map']
  rfl

theorem mem_refused_iff {place : SectionId} {s : Section} (member : (place, s) ∈ config.sections) :
    ∃ told, ∀ e, ⟨place, e⟩ ∈ (config.validate find).value.2 ↔
      (s.validate (find told)).value.error = some e := by
  have related : List.Forall₂ (fun s refusal => ∃ told, refusal = (s.validate (find told)).value.error)
      (config.sections.map Prod.snd) ((config.verdicts find).value.map Verdict.error) := by
    rw [List.forall₂_map_right_iff]
    refine (forall₂_verdicts find config).imp ?_
    rintro s _ ⟨told, rfl⟩
    exact ⟨told, rfl⟩
  obtain ⟨_, ⟨told, rfl⟩, refused⟩ := mem_report_iff related config.places_nodup member
  refine ⟨told, ?_⟩
  rwa [refused_verdicts]

/-- Checks keep all that they are not meant to mend, whatever plugins there are and whatever is
    refused. Of the global settings all but the period stay. Each section stays at its place with its
    entries in their order and all its other options. It is left as it was if it is refused before
    the deprecated option can be mended or for using both names of the hostname list; in all other
    cases, refused or not, it no longer uses the deprecated option. -/
theorem validate_keeps (find : Lookup) (config : Config) :
    let after := (config.validate find).value.1
    let refused := (config.validate find).value.2
    { after with
        period := config.period, providers := config.providers, customs := config.customs } = config ∧
    List.Forall₂ (fun (place, s) (place', t) =>
        place' = place ∧ s.Keeps t ∧
        ((∃ e ∈ [SectionError.missingName, .missingServer, .aliasConflict], ⟨place, e⟩ ∈ refused) ↔
          ¬ s.PassesAlias) ∧
        if s.PassesAlias then t.common.aliases = [] else t = s)
      config.sections after.sections := by
  intro after refused
  refine ⟨rfl, ?_⟩
  rw [sections_settled, List.forall₂_map_right_iff, List.forall₂_same]
  rintro ⟨place, s⟩ member
  obtain ⟨told, diagnosed⟩ := mem_refused_iff find config member
  refine ⟨rfl, s.movesAlias_settled.keeps, ?_, ?_⟩
  · rw [← s.error_early_iff (find told)]
    simp only [Section.earlyRefusals, refused, diagnosed]
  · split
    · rename_i passes
      exact Section.settled_aliases passes
    · rename_i stops
      exact if_neg stops

end Config

end DynamicDns
