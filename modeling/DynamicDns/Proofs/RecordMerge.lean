import DynamicDns.Record.Build

/-! # Merging as a pure computation

What a build comes to once its trace is left aside. The steps that can refuse a
section keep their order: the defaults of the plugin, the hostnames, and what
the section puts in the place of the defaults. All else is assembly.
-/

namespace DynamicDns

namespace Building

variable {α β : Type}

@[simp] theorem value_pure (a : α) : (pure a : Building α).run.value = .ok a := rfl

@[simp] theorem value_ofTraced (x : Traced α) : (liftM x : Building α).run.value = .ok x.value :=
  rfl

@[simp] theorem value_ofExcept (x : Except SectionError α) :
    (liftM x : Building α).run.value = x := rfl

@[simp] theorem value_bind (x : Building α) (f : α → Building β) :
    (x >>= f).run.value = x.run.value >>= fun a => (f a).run.value := by
  change (ExceptT.bindCont f x.run.value).value = _
  cases x.run.value <;> rfl

@[simp] theorem value_mapM (f : α → Building β) (items : List α) :
    (items.mapM f).run.value = items.mapM fun a => (f a).run.value := by
  induction items with
  | nil => rfl
  | cons item rest ih =>
      simp only [List.mapM_cons, value_bind, ih, value_pure]
      rfl

end Building

theorem bind_eq_ok_iff {ε α β : Type} {step : Except ε α} {next : α → Except ε β} {b : β} :
    step >>= next = .ok b ↔ ∃ a, step = .ok a ∧ next a = .ok b := by
  cases step with
  | error e => simp [bind, Except.bind]
  | ok a => simp [bind, Except.bind]

/-- The servers and paths of a section's record, once those of its plugin are known. -/
def Targets.forSection (defaults : Targets) : Section → Except SectionError Targets
  | .provider _ => .ok defaults
  | .custom options => defaults.overrideBy options

namespace ProviderRecord

/-- Name of a section's record: its title, unless absent or empty, or the plugin's name. -/
def titleOf (plugin : Plugin) (s : Section) : String :=
  (s.common.name.filter (· ≠ "")).getD plugin.name

/-- Whether a section wants the current address appended. -/
def appendMyipOf : Section → Bool
  | .provider _ => false
  | .custom options => options.appendMyip

/-- The responses of a section's record. -/
def responsesOf (plugin : Plugin) : Section → BoundedList Response Limits.responses
  | .provider _ => BoundedList.empty
  | s@(.custom options) => (keepResponses (titleOf plugin s) options.ddnsResponse plugin).value

/-- The record of a section, once the parts that can be refused are known. -/
def assemble (plugin : Plugin) (s : Section) (targets : Targets)
    (hostnames : BoundedList Hostname Limits.hostnames) : ProviderRecord where
  name := titleOf plugin s
  kind := s.kind
  plugin := plugin
  checkip := targets.checkip
  checkipPath := targets.checkipPath
  update := targets.update
  updatePath := targets.updatePath
  wildcard := s.common.wildcard
  sslEnabled := s.common.ssl
  appendMyip := appendMyipOf s
  credentials := .ofStrings s.common.username s.common.password
  hostnames := hostnames
  responses := responsesOf plugin s
  checkipClient := ⟨targets.checkip, false⟩
  updateClient := ⟨targets.update, s.common.ssl⟩

/-- A credential is kept as it is or left out, whatever is said about it. -/
theorem value_keepCredential (provider field : String) (capacity : Nat) (given : Option String) :
    (keepCredential provider field capacity given).value =
      given.bind fun text => (BoundedString.ofString capacity text).toOption := by
  cases given with
  | none => rfl
  | some text =>
      simp only [keepCredential, Option.bind_some]
      cases BoundedString.ofString capacity text <;> rfl

/-- One hostname of a section, refused if it is too long. -/
def admitHostname (provider name : String) : Except SectionError Hostname :=
  match BoundedString.ofString Limits.nameBytes name with
  | .ok hostname => .ok hostname
  | .error _ => .error (.hostnameTooLong provider name)

theorem value_keepHostnames (provider : String) (hostnames : List String) :
    (keepHostnames provider hostnames).run.value = do
      let fitting ← hostnames.mapM (admitHostname provider)
      return (BoundedList.empty.extend fitting).1 := by
  have admitted : (fun name => (match BoundedString.ofString Limits.nameBytes name with
      | .ok hostname => pure hostname
      | .error _ => throw (.hostnameTooLong provider name) : Building Hostname).run.value) =
      admitHostname provider := by
    funext name
    unfold admitHostname
    cases BoundedString.ofString Limits.nameBytes name <;> rfl
  simp only [keepHostnames, Building.value_bind, Building.value_mapM, Building.value_ofTraced,
    Building.value_pure]
  rw [← admitted]
  rfl

theorem texts_of_admitted {provider : String} {hostnames : List String} {fitting : List Hostname}
    (admitted : hostnames.mapM (admitHostname provider) = .ok fitting) :
    fitting.map BoundedString.text = hostnames := by
  induction hostnames generalizing fitting with
  | nil =>
      cases admitted
      rfl
  | cons name rest ih =>
      rw [List.mapM_cons, bind_eq_ok_iff] at admitted
      obtain ⟨hostname, first, admitted⟩ := admitted
      obtain ⟨others, later, same⟩ := bind_eq_ok_iff.mp admitted
      cases same
      have text : hostname.text = name := by
        unfold admitHostname at first
        split at first
        · rename_i taken
          cases first
          exact BoundedString.text_of_ofString taken
        · cases first
      rw [List.map_cons, text, ih later]

/-- Hostnames are kept as they are, from the first one on, as many as a record holds. -/
theorem texts_of_keepHostnames {provider : String} {hostnames : List String}
    {kept : BoundedList Hostname Limits.hostnames}
    (keeps : (keepHostnames provider hostnames).run.value = .ok kept) :
    kept.items.map BoundedString.text = hostnames.take Limits.hostnames := by
  rw [value_keepHostnames] at keeps
  obtain ⟨fitting, admitted, same⟩ := bind_eq_ok_iff.mp keeps
  cases same
  rw [BoundedList.items_extend, ← texts_of_admitted admitted, ← List.map_take]
  rfl

/-- A merge asks the plugin's targets, then the hostnames, then the section's own targets. -/
theorem value_merge (plugin : Plugin) (s : Section) :
    (merge plugin s).run.value = do
      let defaults ← Targets.ofPlugin plugin
      let hostnames ← (keepHostnames (titleOf plugin s) s.common.hostname).run.value
      let targets ← defaults.forSection s
      return assemble plugin s targets hostnames := by
  cases s with
  | provider | custom =>
      simp only [merge, Building.value_bind, Building.value_ofExcept, Building.value_ofTraced,
        Building.value_pure, value_keepCredential]
      rfl

theorem merge_eq_ok_iff {plugin : Plugin} {s : Section} {record : ProviderRecord} :
    (merge plugin s).run.value = .ok record ↔
      ∃ defaults, Targets.ofPlugin plugin = .ok defaults ∧
        ∃ hostnames, (keepHostnames (titleOf plugin s) s.common.hostname).run.value = .ok hostnames ∧
          ∃ targets, defaults.forSection s = .ok targets ∧
            assemble plugin s targets hostnames = record := by
  simp only [value_merge, bind_eq_ok_iff, pure, Except.pure, Except.ok.injEq]

theorem value_build {find : String → Option Plugin} {s : Section} {name : String}
    {plugin : Plugin} (asked : s.pluginName? = some name) (found : find name = some plugin) :
    (build find s).value = (merge plugin s).run.value := by
  simp only [build, asked, Traced.value_bind, found]

theorem value_build_of_no_plugin {find : String → Option Plugin} {s : Section} {name : String}
    (asked : s.pluginName? = some name) (missing : find name = none) :
    (build find s).value = .error (.pluginLookupFailed name) := by
  simp only [build, asked, Traced.value_bind, missing, Traced.value_pure]

/-- A build that succeeds found a plugin, and merged the section with it. -/
theorem merged_of_build {find : String → Option Plugin} {s : Section} {record : ProviderRecord}
    (built : (build find s).value = .ok record) :
    ∃ plugin defaults targets hostnames, Targets.ofPlugin plugin = .ok defaults ∧
      defaults.forSection s = .ok targets ∧
      (keepHostnames (titleOf plugin s) s.common.hostname).run.value = .ok hostnames ∧
      record = assemble plugin s targets hostnames := by
  cases asked : s.pluginName? with
  | none => simp [build, asked] at built
  | some name =>
      cases found : find name with
      | none => simp [value_build_of_no_plugin asked found] at built
      | some plugin =>
          rw [value_build asked found] at built
          obtain ⟨defaults, taken, hostnames, kept, targets, own, rfl⟩ := merge_eq_ok_iff.mp built
          exact ⟨plugin, defaults, targets, hostnames, taken, own, kept, rfl⟩

end ProviderRecord

end DynamicDns
