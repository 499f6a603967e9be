import DynamicDns.Proofs.SectionVerdict
import DynamicDns.Proofs.TracedItems
import Mathlib.Data.List.Nodup

/-! # Verdicts on configurations

The checks of a configuration are one pass over its sections, whatever kinds they
are of: refusals come in the order of the sections and under their identities,
and each section is left at its place. Under a lookup that always answers alike,
the verdict on a section is that of its own checks, and no other section has a
part in it.
-/

namespace DynamicDns

/-- The lookup whose answers never change. -/
abbrev Lookup.steady (find : String → Option Plugin) : Lookup := fun _ => find

namespace Verdict

variable {σ τ : Type}

/-- The same verdict on a section of another type. -/
def map (f : σ → τ) (v : Verdict σ) : Verdict τ := ⟨f v.result, v.error⟩

@[simp] theorem result_map (f : σ → τ) (v : Verdict σ) : (v.map f).result = f v.result := rfl

@[simp] theorem error_map (f : σ → τ) (v : Verdict σ) : (v.map f).error = v.error := rfl

end Verdict

namespace Config

variable {find : String → Option Plugin}

/-- The diagnostic of a section that has a refusal. -/
def diagnosed (refusal : Section → Option SectionError) : SectionId × Section → Option Diagnostic
  | (place, s) => (refusal s).map (⟨place, ·⟩)

/-- The diagnostics of sections, given by their identities, with the refusal of each one. -/
def report (places : List SectionId) (refused : List (Option SectionError)) : List Diagnostic :=
  (places.zip refused).filterMap fun (place, refusal) => refusal.map (⟨place, ·⟩)

theorem report_cons (place : SectionId) (places : List SectionId) (refusal : Option SectionError)
    (refused : List (Option SectionError)) :
    report (place :: places) (refusal :: refused) =
      (refusal.map (⟨place, ·⟩)).toList ++ report places refused := by
  cases refusal <;> rfl

theorem report_map (sections : List (SectionId × Section))
    (refusal : Section → Option SectionError) :
    report (sections.map Prod.fst) ((sections.map Prod.snd).map refusal) =
      sections.filterMap (diagnosed refusal) := by
  rw [report, List.map_map, List.zip_map', List.filterMap_map]
  rfl

theorem report_append {places others : List SectionId} {refused more : List (Option SectionError)}
    (same : places.length = refused.length) :
    report (places ++ others) (refused ++ more) = report places refused ++ report others more := by
  rw [report, List.zip_append same, List.filterMap_append]
  rfl

section Numbered

variable {σ : Type} {kind : SectionKind} {wrap : σ → Section}

/-- Sections of one kind with their identities. -/
def numbered (kind : SectionKind) (wrap : σ → Section) (items : List σ) :
    List (SectionId × Section) :=
  items.zipIdx.map fun (s, i) => (⟨kind, i, (wrap s).common.name⟩, wrap s)

theorem numbered_snd (items : List σ) :
    (numbered kind wrap items).map Prod.snd = items.map wrap := by
  conv_rhs => rw [← List.zipIdx_map_fst 0 items]
  simp only [numbered, List.map_map, Function.comp_def]

@[simp] theorem length_numbered (items : List σ) :
    (numbered kind wrap items).length = items.length := by
  rw [numbered, List.length_map, List.length_zipIdx]

theorem numbered_kind (items : List σ) :
    ∀ place ∈ (numbered kind wrap items).map Prod.fst, place.kind = kind := by
  intro place member
  simp only [numbered, List.map_map, List.mem_map] at member
  obtain ⟨_, _, rfl⟩ := member
  rfl

theorem numbered_places_nodup (items : List σ) :
    ((numbered kind wrap items).map Prod.fst).Nodup := by
  have indices : ((numbered kind wrap items).map Prod.fst).map SectionId.index =
      items.zipIdx.map Prod.snd := by
    simp only [numbered, List.map_map, Function.comp_def]
  apply List.Nodup.of_map SectionId.index
  rw [indices, List.zipIdx_map_snd]
  exact List.nodup_range'

/-- The section is left with its title, and with it its identity. -/
abbrev KeepsTitle (wrap : σ → Section) (s : σ) (v : Verdict σ) : Prop :=
  (wrap v.result).common.name = (wrap s).common.name

variable (wrap) in
theorem titled_each {validate : (String → Option Plugin) → σ → Traced (Verdict σ)}
    (wraps : ∀ find s, ((wrap s).validate find).value = (validate find s).value.map wrap)
    (find : Lookup) (earlier : Nat) (items : List σ) :
    List.Forall₂ (KeepsTitle wrap) items
      (Traced.each (fun earlier s => validate (find earlier) s) earlier items).value := by
  refine (Traced.forall₂_each _ _ _).imp ?_
  rintro s _ ⟨told, rfl⟩
  have title := Section.result_title (find told) (wrap s)
  rwa [wraps] at title

variable {items : List σ} {verdicts : List (Verdict σ)}

theorem numbered_results
    (titled : List.Forall₂ (KeepsTitle wrap) items verdicts) :
    numbered kind wrap (verdicts.map Verdict.result) =
      ((numbered kind wrap items).map Prod.fst).zip
        ((verdicts.map (Verdict.map wrap)).map Verdict.result) := by
  simp only [numbered, List.map_map]
  generalize 0 = start
  induction titled generalizing start with
  | nil => rfl
  | cons title _ ih =>
      simp only [List.map_cons, List.zipIdx_cons, List.zip_cons_cons, Function.comp_apply, title, ih,
        Verdict.result_map]

theorem refusals_eq_report
    (titled : List.Forall₂ (KeepsTitle wrap) items verdicts) :
    refusals kind (fun s => (wrap s).common.name) verdicts =
      report ((numbered kind wrap items).map Prod.fst)
        ((verdicts.map (Verdict.map wrap)).map Verdict.error) := by
  simp only [refusals, report, numbered, List.map_map]
  generalize 0 = start
  induction titled generalizing start with
  | nil => rfl
  | cons title _ ih =>
      simp only [List.map_cons, List.zipIdx_cons, List.zip_cons_cons, List.filterMap_cons,
        Function.comp_apply, title, ih, Verdict.error_map]

end Numbered

theorem sections_eq_numbered (config : Config) : config.sections =
    numbered .provider .provider config.providers ++ numbered .custom .custom config.customs := rfl

theorem sections_snd (config : Config) : config.sections.map Prod.snd =
    config.providers.map .provider ++ config.customs.map .custom := by
  rw [sections_eq_numbered, List.map_append, numbered_snd, numbered_snd]

theorem forall_sections_iff {config : Config} {P : Section → Prop} :
    (∀ place s, (place, s) ∈ config.sections → P s) ↔
      (∀ s ∈ config.providers, P (.provider s)) ∧ ∀ s ∈ config.customs, P (.custom s) := by
  have listed : (∀ s ∈ config.sections.map Prod.snd, P s) ↔
      ∀ place s, (place, s) ∈ config.sections → P s := by
    simp only [List.forall_mem_map, Prod.forall]
  rw [← listed, sections_snd, List.forall_mem_append, List.forall_mem_map, List.forall_mem_map]

/-- No two sections share an identity. -/
theorem places_nodup (config : Config) : (config.sections.map Prod.fst).Nodup := by
  rw [sections_eq_numbered, List.map_append]
  refine List.nodup_append.mpr ⟨numbered_places_nodup _, numbered_places_nodup _, ?_⟩
  intro place provider other custom same
  have kinds : SectionKind.provider = .custom := by
    rw [← numbered_kind _ place provider, same, numbered_kind _ other custom]
  cases kinds

/-- The checks of all sections, in one pass. -/
def verdicts (find : Lookup) (config : Config) : Traced (List (Verdict Section)) :=
  Traced.each (fun earlier s => s.validate (find earlier)) 0 (config.sections.map Prod.snd)

/-- The pass first goes through the sections of providers, then through the custom ones. -/
theorem verdicts_eq (find : Lookup) (config : Config) : config.verdicts find = (do
    let checked := Traced.each (fun earlier s => ProviderSection.validate (find earlier) s) 0
      config.providers
    let providers ← checked
    let customs ← Traced.each (fun earlier s => CustomSection.validate (find earlier) s)
      checked.lookups.length config.customs
    return providers.map (Verdict.map .provider) ++ customs.map (Verdict.map .custom)) := by
  have provider : (fun earlier s => (Section.provider s).validate (find earlier)) =
      fun earlier s => do return Verdict.map .provider (← s.validate (find earlier)) := rfl
  have custom : (fun earlier s => (Section.custom s).validate (find earlier)) =
      fun earlier s => do return Verdict.map .custom (← s.validate (find earlier)) := rfl
  rw [verdicts, sections_snd, Traced.each_append, Traced.each_map, Traced.each_map, provider,
    custom, Traced.each_bind_pure, Traced.each_bind_pure]
  simp only [bind_assoc, pure_bind, Traced.lookups_bind, Traced.lookups_pure, List.append_nil,
    Nat.zero_add]

/-- Each section has the verdict of its own checks, under one of the answers. -/
theorem forall₂_verdicts (find : Lookup) (config : Config) :
    List.Forall₂ (fun s v => ∃ told, v = (s.validate (find told)).value)
      (config.sections.map Prod.snd) (config.verdicts find).value :=
  Traced.forall₂_each _ _ _

theorem lookups_validate (find : Lookup) (config : Config) :
    (config.validate find).lookups = (config.verdicts find).lookups := by
  simp only [validate, verdicts_eq, Traced.lookups_bind, Traced.lookups_pure,
    Traced.lookups_emitIf, List.nil_append]

theorem titled_providers (find : Lookup) (items : List ProviderSection) :
    List.Forall₂ (KeepsTitle .provider) items
      (Traced.each (fun earlier s => ProviderSection.validate (find earlier) s) 0 items).value :=
  titled_each .provider (fun _ _ => rfl) find 0 items

theorem titled_customs (find : Lookup) (earlier : Nat) (items : List CustomSection) :
    List.Forall₂ (KeepsTitle .custom) items
      (Traced.each (fun earlier s => CustomSection.validate (find earlier) s) earlier items).value :=
  titled_each .custom (fun _ _ => rfl) find earlier items

/-- Refusals come in the order of the sections, under their identities. -/
theorem refused_verdicts (find : Lookup) (config : Config) :
    (config.validate find).value.2 = report (config.sections.map Prod.fst)
      ((config.verdicts find).value.map Verdict.error) := by
  have providers := titled_providers find config.providers
  simp only [validate, verdicts_eq, Traced.value_bind, Traced.value_pure, List.map_append,
    sections_eq_numbered]
  rw [report_append (by simpa using providers.length_eq)]
  exact congrArg₂ (· ++ ·) (refusals_eq_report providers)
    (refusals_eq_report (titled_customs find _ _))

/-- Each section is left at its place. -/
theorem sections_verdicts (find : Lookup) (config : Config) :
    (config.validate find).value.1.sections = (config.sections.map Prod.fst).zip
      ((config.verdicts find).value.map Verdict.result) := by
  have providers := titled_providers find config.providers
  simp only [validate, verdicts_eq, Traced.value_bind, Traced.value_pure, List.map_append,
    sections_eq_numbered]
  rw [List.zip_append (by simpa using providers.length_eq), numbered_results providers,
    numbered_results (titled_customs find _ _)]

theorem value_verdicts_steady (config : Config) :
    (config.verdicts (.steady find)).value =
      (config.sections.map Prod.snd).map fun s => (s.validate find).value :=
  Traced.value_each (Section.validate find) 0 _

/-- One diagnostic for each section with a refusal, under its identity and in order. -/
def diagnose (config : Config) (refusal : Section → Option SectionError) : List Diagnostic :=
  config.sections.filterMap (diagnosed refusal)

theorem sections_validate (config : Config) :
    (config.validate (.steady find)).value.1.sections =
      config.sections.map fun (place, s) => (place, (s.validate find).value.result) := by
  rw [sections_verdicts, value_verdicts_steady, List.map_map, List.map_map, List.zip_map']
  rfl

theorem refused_validate (config : Config) :
    (config.validate (.steady find)).value.2 =
      config.diagnose fun s => (s.validate find).value.error := by
  rw [refused_verdicts, value_verdicts_steady, List.map_map]
  exact report_map config.sections _

end Config

end DynamicDns
