import DynamicDns.Plugin.Builtin
import DynamicDns.Proofs.EndpointShape
import DynamicDns.Proofs.RecordMerge
import DynamicDns.Proofs.SectionVerdict

/-! # Builds of accepted sections

An accepted section can be refused once more, by its build, but only for a
server or a path that is too long: the plugin's, also where the section puts
another in its place, or the section's own.
-/

namespace DynamicDns

/-- The host of a server takes more bytes than a name may. -/
def Endpoint.HostTooLong (server : String) : Prop :=
  Limits.nameBytes < (Endpoint.hostPart server).utf8ByteSize

/-- A path takes more bytes than a record keeps. -/
def UrlPath.TooLong (path : String) : Prop :=
  Limits.pathBytes < path.utf8ByteSize

/-- A default of the plugin is too long. -/
def Plugin.HasLongTarget (p : Plugin) : Prop :=
  Endpoint.HostTooLong p.checkipServer ∨ UrlPath.TooLong p.checkipPath ∨
    Endpoint.HostTooLong p.updateServer ∨ UrlPath.TooLong p.updatePath

/-- A server or path that the section puts in the place of a default is too long. -/
def CustomSection.HasLongTarget (s : CustomSection) : Prop :=
  (∃ server ∈ s.checkipServer, Endpoint.HostTooLong server) ∨
    (∃ path ∈ s.checkipPath, UrlPath.TooLong path) ∨
    (∃ server ∈ s.ddnsServer, Endpoint.HostTooLong server) ∨
    ∃ path ∈ s.ddnsPath, UrlPath.TooLong path

/-- A server or path of the section's own is too long. Provider sections have none. -/
def Section.HasLongTarget : Section → Prop
  | .provider _ => False
  | .custom s => s.HasLongTarget

theorem Section.migrated_hasLongTarget (s : Section) :
    s.migrated.HasLongTarget = s.HasLongTarget := by
  cases s <;> rfl

/-- A step that refuses its section under a condition, then for an overflow, and else has a
    result. -/
structure OverflowsIff {α : Type} (step : Except SectionError α) (long : Prop) : Prop where
  refused : long → ∃ option size capacity, step = .error (.configOverflow option size capacity)
  passed : ¬ long → ∃ a, step = .ok a

namespace OverflowsIff

variable {α β : Type} {step : Except SectionError α} {long later : Prop}

theorem ok (a : α) : OverflowsIff (.ok a : Except SectionError α) False :=
  ⟨False.elim, fun _ => ⟨a, rfl⟩⟩

theorem congr (h : OverflowsIff step long) (same : long ↔ later) : OverflowsIff step later :=
  ⟨fun given => h.refused (same.mpr given), fun given => h.passed (fun l => given (same.mp l))⟩

theorem bind {next : α → Except SectionError β} (first : OverflowsIff step long)
    (second : ∀ a, OverflowsIff (next a) later) : OverflowsIff (step >>= next) (long ∨ later) := by
  by_cases h : long
  · obtain ⟨option, size, capacity, refused⟩ := first.refused h
    exact ⟨fun _ => ⟨option, size, capacity, by rw [refused]; rfl⟩, fun short => absurd (.inl h) short⟩
  · obtain ⟨a, passed⟩ := first.passed h
    have rest : step >>= next = next a := by rw [passed]; rfl
    rw [rest]
    exact (second a).congr ⟨.inr, fun either => either.resolve_left h⟩

theorem error_iff (h : OverflowsIff step long) : (∃ e, step = .error e) ↔ long := by
  constructor
  · rintro ⟨e, refused⟩
    by_cases given : long
    · exact given
    · obtain ⟨a, passed⟩ := h.passed given
      rw [refused] at passed
      cases passed
  · intro given
    obtain ⟨option, size, capacity, refused⟩ := h.refused given
    exact ⟨_, refused⟩

theorem ok_or_overflow (h : OverflowsIff step long) :
    (∃ a, step = .ok a) ∨
      ∃ option size capacity, step = .error (.configOverflow option size capacity) := by
  by_cases given : long
  · exact .inr (h.refused given)
  · exact .inl (h.passed given)

end OverflowsIff

namespace Targets

theorem resolve_of_long (option : String) {server : String}
    (long : Endpoint.HostTooLong server) :
    resolve option server = .error
      (.configOverflow option (Endpoint.hostPart server).utf8ByteSize Limits.nameBytes) := by
  simp only [resolve, Endpoint.resolve_of_long long]

theorem resolve_of_short (option : String) {server : String}
    (short : ¬ Endpoint.HostTooLong server) :
    resolve option server = .ok ⟨⟨Endpoint.hostPart server, Nat.not_lt.mp short⟩,
      (Endpoint.readPort (Endpoint.portPart server)).getD Limits.httpPort⟩ := by
  simp only [resolve, Endpoint.resolve_of_short short]

theorem endpoint_of_resolve {option server : String} {endpoint : Endpoint}
    (resolved : resolve option server = .ok endpoint) : Endpoint.resolve server = .ok endpoint := by
  unfold resolve at resolved
  cases read : Endpoint.resolve server with
  | ok e =>
      simp only [read, Except.ok.injEq] at resolved
      rw [resolved]
  | error cause =>
      cases cause
      simp only [read, reduceCtorEq] at resolved

theorem path_of_long (option : String) {given : String} (long : UrlPath.TooLong given) :
    path option given =
      .error (.configOverflow option given.utf8ByteSize Limits.pathBytes) := by
  simp only [path, BoundedString.ofString_eq_error long]

theorem path_of_short (option : String) {given : String} (short : ¬ UrlPath.TooLong given) :
    path option given = .ok ⟨given, Nat.not_lt.mp short⟩ := by
  simp only [path, BoundedString.ofString_eq_ok (Nat.not_lt.mp short)]

theorem resolve_overflowsIff (option server : String) :
    OverflowsIff (resolve option server) (Endpoint.HostTooLong server) :=
  ⟨fun long => ⟨_, _, _, resolve_of_long option long⟩,
    fun short => ⟨_, resolve_of_short option short⟩⟩

theorem path_overflowsIff (option given : String) :
    OverflowsIff (path option given) (UrlPath.TooLong given) :=
  ⟨fun long => ⟨_, _, _, path_of_long option long⟩, fun short => ⟨_, path_of_short option short⟩⟩

/-- The defaults are read in full, also those that a section replaces. -/
theorem ofPlugin_overflowsIff (p : Plugin) : OverflowsIff (ofPlugin p) p.HasLongTarget :=
  ((resolve_overflowsIff _ _).bind fun _ => (path_overflowsIff _ _).bind fun _ =>
    (resolve_overflowsIff _ _).bind fun _ => (path_overflowsIff _ _).bind fun _ => .ok _).congr
    (by simp only [Plugin.HasLongTarget, or_false])

theorem override_overflowsIff {α : Type} (part : α) {read : String → Except SectionError α}
    {TooLong : String → Prop} (reads : ∀ text, OverflowsIff (read text) (TooLong text))
    (given : Option String) :
    OverflowsIff (override part read given) (∃ text ∈ given, TooLong text) := by
  cases given with
  | none => exact (OverflowsIff.ok part).congr (by simp)
  | some text => exact (reads text).congr (by simp)

theorem overrideBy_overflowsIff (t : Targets) (s : CustomSection) :
    OverflowsIff (t.overrideBy s) s.HasLongTarget :=
  ((override_overflowsIff _ (resolve_overflowsIff _) _).bind fun _ =>
    (override_overflowsIff _ (path_overflowsIff _) _).bind fun _ =>
    (override_overflowsIff _ (resolve_overflowsIff _) _).bind fun _ =>
    (override_overflowsIff _ (path_overflowsIff _) _).bind fun _ => .ok _).congr
    (by simp only [CustomSection.HasLongTarget, or_false])

theorem forSection_overflowsIff (defaults : Targets) (s : Section) :
    OverflowsIff (defaults.forSection s) s.HasLongTarget := by
  cases s with
  | provider => exact .ok defaults
  | custom s => exact overrideBy_overflowsIff defaults s

end Targets

namespace ProviderRecord

theorem keepHostnames_of_fit (provider : String) {hostnames : List String}
    (fit : ∀ hostname ∈ hostnames, hostname.utf8ByteSize ≤ Limits.nameBytes) :
    ∃ kept, (keepHostnames provider hostnames).run.value = .ok kept := by
  have admitted : ∃ fitting, hostnames.mapM (admitHostname provider) = .ok fitting := by
    induction hostnames with
    | nil => exact ⟨[], rfl⟩
    | cons name rest ih =>
        obtain ⟨others, later⟩ := ih fun hostname member => fit hostname (List.mem_cons_of_mem _ member)
        have first : admitHostname provider name = .ok ⟨name, fit name List.mem_cons_self⟩ := by
          simp only [admitHostname, BoundedString.ofString_eq_ok (fit name List.mem_cons_self)]
        refine ⟨⟨name, fit name List.mem_cons_self⟩ :: others, ?_⟩
        rw [List.mapM_cons, first, later]
        rfl
  obtain ⟨fitting, same⟩ := admitted
  refine ⟨(BoundedList.empty.extend fitting).1, ?_⟩
  rw [value_keepHostnames, same]
  rfl

/-- Once the hostnames fit, only targets can refuse a merge. -/
theorem merge_overflowsIff (plugin : Plugin) {s : Section}
    (fit : ∀ hostname ∈ s.common.hostname, hostname.utf8ByteSize ≤ Limits.nameBytes) :
    OverflowsIff (merge plugin s).run.value (plugin.HasLongTarget ∨ s.HasLongTarget) := by
  obtain ⟨kept, fitting⟩ := keepHostnames_of_fit (titleOf plugin s) fit
  rw [value_merge, fitting]
  refine (Targets.ofPlugin_overflowsIff plugin).bind fun defaults => ?_
  exact ((Targets.forSection_overflowsIff defaults s).bind fun targets => .ok _).congr
    (iff_of_eq (or_false _))

/-- The build of an accepted section asks for the plugin that its checks found. It has a record or
    is refused for an overflow, and refused it is exactly for a target that is too long. -/
theorem build_of_accepted (find : String → Option Plugin) (s : Section)
    (accepted : (s.validate find).value.error = none) :
    let outcome := (build find (s.validate find).value.result).value
    ∃ name plugin, s.pluginName? = some name ∧ find name = some plugin ∧
      ((∃ record, outcome = .ok record) ∨
        ∃ option size capacity, outcome = .error (.configOverflow option size capacity)) ∧
      ((∃ e, outcome = .error e) ↔ plugin.HasLongTarget ∨ s.HasLongTarget) := by
  obtain ⟨mended, ⟨name, plugin, asked, found⟩, fit⟩ := Section.accepted accepted
  have outcome : OverflowsIff (build find (s.validate find).value.result).value
      (plugin.HasLongTarget ∨ s.HasLongTarget) := by
    rw [mended, value_build (s.migrated_pluginName?.trans asked) found]
    exact (merge_overflowsIff plugin fit).congr
      (or_congr_right (iff_of_eq (Section.migrated_hasLongTarget s)))
  exact ⟨name, plugin, asked, found, outcome.ok_or_overflow, outcome.error_iff⟩

end ProviderRecord

/-- A custom section whose path is one byte too long. -/
def longPathSection : CustomSection where
  common := { name := some "home", hostname := ["home.example.net"] }
  ddnsServer := some "update.example.net"
  ddnsPath := some (String.ofList ('/' :: List.replicate Limits.pathBytes 'p'))

theorem build_longPathSection :
    let find := PluginRegistry.builtin.find?
    let verdict := ((Section.custom longPathSection).validate find).value
    verdict.error = none ∧ ∃ e, (ProviderRecord.build find verdict.result).value = .error e := by
  intro find verdict
  have accepted : verdict.error = none := by decide +kernel
  obtain ⟨_, _, _, _, _, refused⟩ := ProviderRecord.build_of_accepted find _ accepted
  have long : UrlPath.TooLong (String.ofList ('/' :: List.replicate Limits.pathBytes 'p')) := by
    unfold UrlPath.TooLong
    decide +kernel
  exact ⟨accepted, refused.mpr (.inr (.inr (.inr (.inr ⟨_, rfl, long⟩))))⟩

end DynamicDns
