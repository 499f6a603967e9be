import DynamicDns.Proofs.ClampedPeriod
import DynamicDns.Proofs.SettledSections

/-! # Checks made twice

Checks leave nothing for another run of them to mend. Sections that were mended,
also those that were then refused, are refused again for the same reasons, and
the same plugins are asked for. So a second run comes to the same as the first
one, and has nothing to tell.
-/

namespace DynamicDns

namespace Section

theorem settled_settled (s : Section) : s.settled.settled = s.settled := by
  by_cases passes : s.PassesAlias
  · -- What is mended has no entries left to move.
    have mended : s.settled.migrated = s.settled := migrated_of_aliases (settled_aliases passes)
    rw [settled, mended, ite_self]
  · have kept : s.settled = s := if_neg passes
    rw [kept, kept]

theorem checkEvents_settled (s : Section) : s.settled.checkEvents = [] := by
  unfold checkEvents
  rw [if_neg]
  rintro ⟨reaches, given, unused⟩
  by_cases passes : s.PassesAlias
  · exact given (settled_aliases passes)
  · have kept : s.settled = s := if_neg passes
    rw [kept] at reaches unused
    exact passes ⟨reaches, .inr unused⟩

end Section

namespace Config

theorem eq_of_sections {c d : Config} (sections : c.sections = d.sections)
    (settings : { c with providers := d.providers, customs := d.customs } = d) : c = d := by
  have listed : c.providers.map Section.provider ++ c.customs.map .custom =
      d.providers.map .provider ++ d.customs.map .custom := by
    rw [← sections_snd, ← sections_snd, sections]
  have providers : c.providers = d.providers := by
    simpa [List.filter_map, Function.comp_def, Section.kind, List.map_inj_right] using
      congrArg (List.filter (·.kind = .provider)) listed
  have customs : c.customs = d.customs := by
    simpa [providers, List.map_inj_right] using listed
  rw [← settings, ← providers, ← customs]

variable (find : Lookup) (config : Config)

theorem period_validate : (config.validate find).value.1.period = clampPeriod config.period := rfl

theorem sectionsMoved_validate : config.SectionsMoved (config.validate find).value.1 := by
  unfold SectionsMoved
  rw [sections_settled, List.forall₂_map_right_iff, List.forall₂_same]
  rintro ⟨place, s⟩ _
  exact ⟨rfl, s.movesAlias_settled⟩

/-- A second run of the checks, with the same answers to the same questions, refuses the same sections
    for the same reasons, asks for the same plugins in the same order, leaves everything as it is and
    tells of nothing it has mended. The first run may have refused sections itself. -/
theorem validate_again (find : Lookup) (config : Config) :
    let first := config.validate find
    let again := first.value.1.validate find
    again.value = first.value ∧ again.lookups = first.lookups ∧ again.events = [] := by
  intro first again
  have moved : config.SectionsMoved first.value.1 := sectionsMoved_validate find config
  have sections : again.value.1.sections = first.value.1.sections := by
    simp only [again, first, sections_settled, List.map_map, Function.comp_def,
      Section.settled_settled]
  have settings : { again.value.1 with
      providers := first.value.1.providers, customs := first.value.1.customs } = first.value.1 := by
    simp only [again, first, validate, Traced.value_bind, Traced.value_pure, clampPeriod_clampPeriod]
  refine ⟨Prod.ext (eq_of_sections sections settings) (moved.refused_eq find).symm, ?_, ?_⟩
  · rw [lookups_validate, lookups_validate, lookups_verdicts, lookups_verdicts, moved.asked_eq]
  · have inBounds : first.value.1.periodEvents = [] := by
      simp only [first, periodEvents, period_validate, clampPeriod_clampPeriod, ne_eq,
        not_true_eq_false, if_false]
    rw [events_validate, inBounds, List.nil_append, sections_settled, List.flatMap_eq_nil_iff,
      List.forall_mem_map, List.forall_mem_map]
    rintro ⟨place, s⟩ _
    exact s.checkEvents_settled

end Config

end DynamicDns
