import DynamicDns.Proofs.LoadEvents

/-! # Expected responses of custom sections

Each response that a custom section gives is kept, over-long or surplus, and the
numbers of the last two are told. Where the section gives none, those of its
plugin stand in, or else the generic ones, and nothing is told. What stands in is
settled by the lists as they were given: a list of nothing but over-long responses
leaves the record without any, and then no answer of the service means success.
-/

namespace DynamicDns

/-- What becomes of given responses: of those that fit the first five are kept, and the others are
    surplus. The over-long ones are counted by themselves. -/
structure Selection (given kept : List String) (overLong surplus : Nat) : Prop where
  first : kept = (given.filter (·.utf8ByteSize ≤ 64)).take 5
  long : overLong = given.countP (64 < ·.utf8ByteSize)
  rest : surplus = ((given.filter (·.utf8ByteSize ≤ 64)).drop 5).length
  total : given.length = kept.length + overLong + surplus

/-- A number is told in one event, unless it is zero. -/
def reported (number : Nat) (event : Nat → Event) : List Event :=
  if 0 < number then [event number] else []

theorem length_eq_fitting_add_long (given : List String) : given.length =
    (given.filter (·.utf8ByteSize ≤ 64)).length + given.countP (64 < ·.utf8ByteSize) := by
  rw [List.length_eq_countP_add_countP (·.utf8ByteSize ≤ 64), List.countP_eq_length_filter]
  simp only [decide_eq_true_eq, Nat.not_le]

theorem filter_fitting_eq_self {given : List String}
    (fit : ∀ text ∈ given, text.utf8ByteSize ≤ 64) : given.filter (·.utf8ByteSize ≤ 64) = given := by
  simpa [List.filter_eq_self] using fit

theorem Selection.ofGiven (given : List String) :
    Selection given ((given.filter (·.utf8ByteSize ≤ 64)).take 5)
      (given.countP (64 < ·.utf8ByteSize)) ((given.filter (·.utf8ByteSize ≤ 64)).drop 5).length where
  first := rfl
  long := rfl
  rest := rfl
  total := by
    rw [length_eq_fitting_add_long, List.length_take, List.length_drop]
    omega

/-! ## What is told -/

namespace Section

theorem responseWarnings_of_selection {given kept : List String} {overLong surplus : Nat}
    (selected : Selection given kept overLong surplus) (title : String) :
    responseWarnings title given = reported overLong (.longResponsesSkipped · title) ++
      reported surplus (.responsesSkipped · title) := by
  have long : overLong = given.length - (given.filter (·.utf8ByteSize ≤ 64)).length := by
    rw [selected.long, length_eq_fitting_add_long, Nat.add_sub_cancel_left]
  have rest : surplus = (given.filter (·.utf8ByteSize ≤ 64)).length - 5 := by
    rw [selected.rest, List.length_drop]
  rw [long, rest]
  exact congrArg₂ (· ++ ·) (if_congr Nat.sub_pos_iff_lt.symm rfl rfl)
    (if_congr Nat.sub_pos_iff_lt.symm rfl rfl)

end Section

namespace ProviderRecord

variable {find : String → Option Plugin} {s : CustomSection} {record : ProviderRecord}

theorem responses_of_build (built : (build find (.custom s)).value = .ok record) :
    ∃ plugin, find "custom" = some plugin ∧
      record.responses.items.map BoundedString.text =
        (((Section.custom s).responses plugin).filter (·.utf8ByteSize ≤ 64)).take 5 := by
  obtain ⟨plugin, found, merged⟩ := isMerge_of_build built
  exact ⟨plugin, pluginNamed_eq_ok_iff.mp found, merged.responses⟩

end ProviderRecord

/-- A custom section with over-long responses before, among and after those that fit, and more of
    the latter than a record keeps. -/
def mixedResponsesSection : CustomSection where
  common := { name := some "home", hostname := ["home.example.net"] }
  ddnsServer := some "update.example.net"
  ddnsResponse :=
    let long := String.ofList (List.replicate 65 'x')
    [long, "good", "nochg", long, "ok", "done", "set", "same", long, "fine"]

/-- The section gives a response that fits, or gives none, and then its plugin has one that fits, or
    has none either. -/
def CustomSection.HasUsableResponse (p : Plugin) (s : CustomSection) : Prop :=
  (∃ text ∈ s.ddnsResponse, text.utf8ByteSize ≤ 64) ∨
    s.ddnsResponse = [] ∧ (p.responses = [] ∨ ∃ text ∈ p.responses, text.utf8ByteSize ≤ 64)

theorem take_fitting_ne_nil_iff {texts : List String} :
    (texts.filter (·.utf8ByteSize ≤ 64)).take 5 ≠ [] ↔ ∃ text ∈ texts, text.utf8ByteSize ≤ 64 := by
  rw [ne_eq, List.take_eq_nil_iff, List.filter_eq_nil_iff]
  simp

theorem CustomSection.exists_fitting_iff {plugin : Plugin} {s : CustomSection} :
    (∃ text ∈ (Section.custom s).responses plugin, text.utf8ByteSize ≤ 64) ↔
      s.HasUsableResponse plugin := by
  have generic : ∃ text ∈ Plugin.genericResponses, text.utf8ByteSize ≤ 64 := by decide +kernel
  unfold Section.responses HasUsableResponse
  by_cases given : s.ddnsResponse = []
  · by_cases default : plugin.responses = []
    · simp [given, default, generic]
    · simp [given, default]
  · simp [given]

/-- The record of a custom section, as its checks left the section, has a response to expect exactly
    if one of those that were given fits, or if none were given and the plugin has one that fits or
    has none, so that the generic ones stand in. -/
theorem CustomSection.recognisesSuccess_iff {check find : String → Option Plugin}
    {s : CustomSection} {record : ProviderRecord}
    (built : (ProviderRecord.build find (.custom (s.validate check).value.result)).value =
      .ok record) :
    ∃ plugin, find "custom" = some plugin ∧
      (record.responses.items ≠ [] ↔ s.HasUsableResponse plugin) := by
  obtain ⟨plugin, found, responses⟩ := ProviderRecord.responses_of_build built
  refine ⟨plugin, found, ?_⟩
  have texts : record.responses.items ≠ [] ↔
      record.responses.items.map BoundedString.text ≠ [] := List.map_eq_nil_iff.not.symm
  have usable : (s.validate check).value.result.HasUsableResponse plugin ↔
      s.HasUsableResponse plugin := by rw [result_eq, HasUsableResponse, HasUsableResponse]
  rw [texts, responses, take_fitting_ne_nil_iff, exists_fitting_iff, usable]

theorem CustomSection.recognisesSuccess_mixed :
    let find := PluginRegistry.builtin.find?
    let verdict := (mixedResponsesSection.validate find).value
    verdict.error = none ∧ ∃ record,
      (ProviderRecord.build find (.custom verdict.result)).value = .ok record ∧
        record.responses.items ≠ [] := by
  intro find verdict
  have unrefused : refusalOf (ProviderRecord.build find (.custom verdict.result)).value = none := by
    decide +kernel
  obtain ⟨record, taken⟩ := refusalOf_eq_none_iff.mp unrefused
  obtain ⟨plugin, -, expects⟩ := recognisesSuccess_iff taken
  exact ⟨by decide +kernel, record, taken, expects.mpr (.inl ⟨"good", by decide +kernel⟩)⟩

/-- A custom section whose one response is a byte too long. -/
def longResponseSection : CustomSection where
  common := { name := some "home", hostname := ["home.example.net"] }
  ddnsServer := some "update.example.net"
  ddnsResponse := [String.ofList (List.replicate 65 'x')]

/-- The section is accepted and built, and its record has no response to expect. -/
theorem CustomSection.not_recognisesSuccess_long :
    let find := PluginRegistry.builtin.find?
    let verdict := (longResponseSection.validate find).value
    verdict.error = none ∧ ∃ record,
      (ProviderRecord.build find (.custom verdict.result)).value = .ok record ∧
        record.responses.items = [] := by
  intro find verdict
  have unrefused : refusalOf (ProviderRecord.build find (.custom verdict.result)).value = none := by
    decide +kernel
  obtain ⟨record, taken⟩ := refusalOf_eq_none_iff.mp unrefused
  obtain ⟨plugin, found, responses⟩ := ProviderRecord.responses_of_build taken
  have custom : find "custom" = some Plugin.custom := by decide +kernel
  obtain rfl := Option.some_inj.mp (custom.symm.trans found)
  refine ⟨by decide +kernel, record, taken, ?_⟩
  rw [← List.map_eq_nil_iff, responses]
  decide +kernel

end DynamicDns
