import DynamicDns.Proofs.EndpointGrammar
import DynamicDns.Proofs.LoadOutcome

/-! # The reference for builds

What a build has to come to, said without its steps: the refusals in the order
in which they count, and the record that a section and its plugin determine. A
build that nothing refuses has this record, and every other build is refused for
the first refusal of the order. Sections need not have passed any check. When a
title is missing, where a host ends and which endpoint a server names are said
here again, apart from the build.
-/

namespace DynamicDns

/-! ## Refusals in order -/

/-- Number of bytes before the first colon, or of all if there is none: the size of the host in
    `Endpoint.FirstColon`. -/
def Endpoint.hostBytes : List Char → Nat
  | [] => 0
  | c :: rest => if c = ':' then 0 else c.utf8Size + hostBytes rest

/-- A server whose host has more than 255 bytes. -/
def serverRefusal? (option server : String) : Option SectionError :=
  let size := Endpoint.hostBytes server.toList
  if 255 < size then some (.configOverflow option size 255) else none

/-- A path of more than 256 bytes. -/
def pathRefusal? (option path : String) : Option SectionError :=
  if 256 < path.utf8ByteSize then some (.configOverflow option path.utf8ByteSize 256) else none

/-- The first hostname of more than 255 bytes. -/
def hostnameRefusal? (provider : String) (hostnames : List String) : Option SectionError :=
  (hostnames.find? (255 < ·.utf8ByteSize)).map (.hostnameTooLong provider)

/-- The defaults of a plugin that do not fit. -/
def Plugin.refusals (p : Plugin) : List (Option SectionError) := [
  serverRefusal? "checkip-server" p.checkipServer,
  pathRefusal? "checkip-path" p.checkipPath,
  serverRefusal? "ddns-server" p.updateServer,
  pathRefusal? "ddns-path" p.updatePath]

/-- The servers and paths of the section's own that do not fit. -/
def Section.ownRefusals : Section → List (Option SectionError)
  | .provider _ => []
  | .custom s => [
    s.checkipServer.bind (serverRefusal? "checkip-server"),
    s.checkipPath.bind (pathRefusal? "checkip-path"),
    s.ddnsServer.bind (serverRefusal? "ddns-server"),
    s.ddnsPath.bind (pathRefusal? "ddns-path")]

/-- The plugin of this name, or that there is none. -/
def pluginNamed (find : String → Option Plugin) (name : String) : Except SectionError Plugin :=
  match find name with
  | none => .error (.pluginLookupFailed name)
  | some plugin => .ok plugin

/-- The plugin of a section, or why there is none. A provider section names it by its title, which
    is missing also if it is empty. The one of custom sections needs no title. -/
def Section.plugin (find : String → Option Plugin) : Section → Except SectionError Plugin
  | .provider s =>
    match s.name with
    | none => .error .missingName
    | some title => if title = "" then .error .missingName else pluginNamed find title
  | .custom _ => pluginNamed find "custom"

theorem pluginNamed_eq_ok_iff {find : String → Option Plugin} {name : String} {plugin : Plugin} :
    pluginNamed find name = .ok plugin ↔ find name = some plugin := by
  unfold pluginNamed
  cases find name <;> simp

theorem Section.plugin_eq (find : String → Option Plugin) (s : Section) :
    s.plugin find = s.pluginName?.elim (.error .missingName) (pluginNamed find) := by
  cases s with
  | custom s => rfl
  | provider s =>
      cases titled : s.name with
      | none => simp [plugin, pluginName?, titled]
      | some title =>
          by_cases empty : title = ""
          · simp [plugin, pluginName?, titled, empty, Option.filter]
          · simp [plugin, pluginName?, titled, empty, Option.filter]

open ProviderRecord (titleOf)

/-- Everything that can refuse the build of a section with its plugin, in order. -/
def Section.mergeRefusals (plugin : Plugin) (s : Section) : List (Option SectionError) :=
  plugin.refusals ++ [hostnameRefusal? (titleOf plugin s) s.common.hostname] ++ s.ownRefusals

/-- Why a section has no record, if it has none. -/
def Section.buildRefusal? (find : String → Option Plugin) (s : Section) : Option SectionError :=
  match s.plugin find with
  | .error e => some e
  | .ok plugin => (s.mergeRefusals plugin).findSome? id

/-- The step is refused for the first of these refusals, and has a result if there is none. -/
def Refuses {α : Type} (step : Except SectionError α) (refusals : List (Option SectionError)) :
    Prop :=
  refusalOf step = refusals.findSome? id

namespace Refuses

variable {α β : Type} {step : Except SectionError α} {refusals later : List (Option SectionError)}

theorem ok (a : α) : Refuses (.ok a) [] := rfl

theorem bind {next : α → Except SectionError β} (first : Refuses step refusals)
    (second : ∀ a, Refuses (next a) later) : Refuses (step >>= next) (refusals ++ later) := by
  unfold Refuses at first ⊢
  rw [List.findSome?_append, ← first]
  cases step with
  | error e => rfl
  | ok a => exact second a

/-- A step by itself, followed by others. -/
theorem cons {next : α → Except SectionError β} {refusal : Option SectionError}
    (first : refusalOf step = refusal) (second : ∀ a, Refuses (next a) later) :
    Refuses (step >>= next) (refusal :: later) := by
  have alone : Refuses step [refusal] := by
    rw [Refuses, first]
    cases refusal <;> rfl
  exact alone.bind second

end Refuses

namespace Endpoint

theorem hostBytes_append {host : List Char} (plain : ':' ∉ host) (rest : List Char) :
    hostBytes (host ++ rest) = (String.ofList host).utf8ByteSize + hostBytes rest := by
  induction host with
  | nil => simp
  | cons c host ih =>
      rw [List.mem_cons, not_or] at plain
      obtain ⟨first, others⟩ := plain
      rw [List.cons_append, hostBytes, if_neg (Ne.symm first), ih others, String.ofList_cons,
        String.utf8ByteSize_append, String.utf8ByteSize_singleton, Nat.add_assoc]

theorem FirstColon.hostBytes_eq {server host : String} {after : Option String}
    (parts : FirstColon server host after) : hostBytes server.toList = host.utf8ByteSize := by
  cases parts with
  | absent plain =>
      have counted := hostBytes_append plain []
      rwa [List.append_nil, String.ofList_toList] at counted
  | present plain =>
      rw [toList_present, hostBytes_append plain, String.ofList_toList]
      rfl

example : hostBytes "é.org:80:1".toList = 6 := by decide

end Endpoint

namespace Targets

theorem refusalOf_resolve (option server : String) :
    refusalOf (resolve option server) = serverRefusal? option server := by
  obtain ⟨host, after, parts⟩ := Endpoint.FirstColon.exists_parts server
  have size : Endpoint.hostBytes server.toList = (Endpoint.hostPart server).utf8ByteSize := by
    rw [parts.hostBytes_eq, parts.hostPart_eq]
  by_cases long : 255 < (Endpoint.hostPart server).utf8ByteSize
  · rw [resolve_of_long option long]
    simp only [serverRefusal?, size, if_pos long]
    rfl
  · rw [resolve_of_short option long]
    simp only [serverRefusal?, size, if_neg long]
    rfl

theorem refusalOf_path (option given : String) :
    refusalOf (path option given) = pathRefusal? option given := by
  by_cases long : 256 < given.utf8ByteSize
  · rw [path_of_long option long]
    simp only [pathRefusal?, if_pos long]
    rfl
  · rw [path_of_short option long]
    simp only [pathRefusal?, if_neg long]
    rfl

theorem refusalOf_override {α : Type} (part : α) {read : String → Except SectionError α}
    {refusal? : String → Option SectionError}
    (reads : ∀ text, refusalOf (read text) = refusal? text) (given : Option String) :
    refusalOf (override part read given) = given.bind refusal? := by
  cases given with
  | none => rfl
  | some text => exact reads text

theorem ofPlugin_refuses (plugin : Plugin) : Refuses (ofPlugin plugin) plugin.refusals := by
  unfold ofPlugin Plugin.refusals
  apply Refuses.cons (refusalOf_resolve _ _)
  intro checkip
  apply Refuses.cons (refusalOf_path _ _)
  intro checkipPath
  apply Refuses.cons (refusalOf_resolve _ _)
  intro update
  apply Refuses.cons (refusalOf_path _ _)
  intro updatePath
  exact Refuses.ok _

theorem forSection_refuses (defaults : Targets) (s : Section) :
    Refuses (defaults.forSection s) s.ownRefusals := by
  cases s with
  | provider s => exact Refuses.ok _
  | custom s =>
      unfold forSection overrideBy Section.ownRefusals
      apply Refuses.cons (refusalOf_override _ (refusalOf_resolve _) _)
      intro checkip
      apply Refuses.cons (refusalOf_override _ (refusalOf_path _) _)
      intro checkipPath
      apply Refuses.cons (refusalOf_override _ (refusalOf_resolve _) _)
      intro update
      apply Refuses.cons (refusalOf_override _ (refusalOf_path _) _)
      intro updatePath
      exact Refuses.ok _

end Targets

namespace ProviderRecord

theorem refusalOf_admitHostnames (provider : String) (hostnames : List String) :
    refusalOf (hostnames.mapM (admitHostname provider)) = hostnameRefusal? provider hostnames := by
  induction hostnames with
  | nil => rfl
  | cons name rest ih =>
      rw [List.mapM_cons]
      by_cases long : 255 < name.utf8ByteSize
      · have exceeds : Limits.nameBytes < name.utf8ByteSize := long
        have first : admitHostname provider name = .error (.hostnameTooLong provider name) := by
          simp only [admitHostname, BoundedString.ofString_eq_error exceeds]
        have found : hostnameRefusal? provider (name :: rest) =
            some (.hostnameTooLong provider name) := by
          simp [hostnameRefusal?, long]
        rw [first, found]
        rfl
      · have fits : name.utf8ByteSize ≤ Limits.nameBytes := Nat.not_lt.mp long
        have first : admitHostname provider name = .ok ⟨name, fits⟩ := by
          simp only [admitHostname, BoundedString.ofString_eq_ok fits]
        have later : hostnameRefusal? provider (name :: rest) = hostnameRefusal? provider rest := by
          simp [hostnameRefusal?, long]
        rw [first, later, ← ih]
        cases rest.mapM (admitHostname provider) <;> rfl

theorem keepHostnames_refuses (provider : String) (hostnames : List String) :
    refusalOf (keepHostnames provider hostnames).run.value =
      hostnameRefusal? provider hostnames := by
  rw [value_keepHostnames, ← refusalOf_admitHostnames]
  cases hostnames.mapM (admitHostname provider) <;> rfl

theorem merge_refuses (plugin : Plugin) (s : Section) :
    Refuses (merge plugin s).run.value (s.mergeRefusals plugin) := by
  rw [value_merge, Section.mergeRefusals, List.append_assoc]
  apply (Targets.ofPlugin_refuses plugin).bind
  intro defaults
  apply Refuses.cons (keepHostnames_refuses _ _)
  intro hostnames
  rw [← List.append_nil s.ownRefusals]
  apply (Targets.forSection_refuses defaults s).bind
  intro targets
  exact Refuses.ok _

/-- A build is the merge with the section's plugin. -/
theorem value_build_eq (find : String → Option Plugin) (s : Section) :
    (build find s).value = s.plugin find >>= fun plugin => (merge plugin s).run.value := by
  rw [Section.plugin_eq]
  cases asked : s.pluginName? with
  | none =>
      simp only [build, asked]
      rfl
  | some name =>
      cases answer : find name with
      | none =>
          simp only [value_build_of_no_plugin asked answer, Option.elim, pluginNamed, answer]
          rfl
      | some plugin =>
          -- With `rfl` for the bind, Lean would run the merge.
          simp only [value_build asked answer, Option.elim, pluginNamed, answer, bind, Except.bind]

theorem refusalOf_build (find : String → Option Plugin) (s : Section) :
    refusalOf (build find s).value = s.buildRefusal? find := by
  rw [value_build_eq, Section.buildRefusal?]
  cases s.plugin find with
  | error e => rfl
  | ok plugin =>
      simp only [bind, Except.bind]
      exact merge_refuses plugin s

end ProviderRecord

/-! ## The record -/

namespace Section

/-- What a section puts in the place of a default. Provider sections leave all defaults. -/
def own? (option : CustomSection → Option String) : Section → Option String
  | .provider _ => none
  | .custom s => option s

/-- The responses that a section can expect: its own if it gives any, else those of its plugin, else
    the generic ones. -/
def responses (plugin : Plugin) : Section → List String
  | .provider _ => []
  | .custom s =>
    if s.ddnsResponse ≠ [] then s.ddnsResponse
    else if plugin.responses ≠ [] then plugin.responses
    else Plugin.genericResponses

end Section

theorem BoundedString.text_injective {capacity : Nat} :
    Function.Injective (BoundedString.text : BoundedString capacity → String) := by
  intro s t same
  cases s
  cases t
  cases same
  rfl

theorem BoundedList.items_injective {α : Type} {capacity : Nat} :
    Function.Injective (BoundedList.items : BoundedList α capacity → List α) := by
  intro l m same
  cases l
  cases m
  cases same
  rfl

namespace ProviderRecord

/-- The record that a section and its plugin determine. -/
structure IsMerge (p : Plugin) (s : Section) (r : ProviderRecord) : Prop where
  name : r.name = titleOf p s
  kind : r.kind = s.kind
  plugin : r.plugin = p
  checkip : Endpoint.Names ((s.own? (·.checkipServer)).getD p.checkipServer) r.checkip
  checkipPath : r.checkipPath.text = (s.own? (·.checkipPath)).getD p.checkipPath
  update : Endpoint.Names ((s.own? (·.ddnsServer)).getD p.updateServer) r.update
  updatePath : r.updatePath.text = (s.own? (·.ddnsPath)).getD p.updatePath
  wildcard : r.wildcard = s.common.wildcard
  sslEnabled : r.sslEnabled = s.common.ssl
  appendMyip : r.appendMyip = appendMyipOf s
  username : r.credentials.username.map BoundedString.text =
    s.common.username.filter (·.utf8ByteSize ≤ 128)
  password : r.credentials.password.map BoundedString.text =
    s.common.password.filter (·.utf8ByteSize ≤ 128)
  token : r.credentials.token = none
  hostnames : r.hostnames.items.map BoundedString.text = s.common.hostname.take 50
  responses : r.responses.items.map BoundedString.text =
    ((s.responses p).filter (·.utf8ByteSize ≤ 64)).take 5
  checkipClient : r.checkipClient = ⟨r.checkip, false⟩
  updateClient : r.updateClient = ⟨r.update, r.sslEnabled⟩

theorem IsMerge.unique {plugin : Plugin} {s : Section} {r r' : ProviderRecord}
    (merge : r.IsMerge plugin s) (merge' : r'.IsMerge plugin s) : r = r' := by
  have checkip : r.checkip = r'.checkip := merge.checkip.unique merge'.checkip
  have update : r.update = r'.update := merge.update.unique merge'.update
  have sslEnabled : r.sslEnabled = r'.sslEnabled := merge.sslEnabled.trans merge'.sslEnabled.symm
  have checkipPath : r.checkipPath = r'.checkipPath :=
    BoundedString.text_injective (merge.checkipPath.trans merge'.checkipPath.symm)
  have updatePath : r.updatePath = r'.updatePath :=
    BoundedString.text_injective (merge.updatePath.trans merge'.updatePath.symm)
  have username : r.credentials.username = r'.credentials.username :=
    Option.map_injective BoundedString.text_injective (merge.username.trans merge'.username.symm)
  have password : r.credentials.password = r'.credentials.password :=
    Option.map_injective BoundedString.text_injective (merge.password.trans merge'.password.symm)
  have hostnames : r.hostnames = r'.hostnames :=
    BoundedList.items_injective (List.map_injective_iff.mpr BoundedString.text_injective
      (merge.hostnames.trans merge'.hostnames.symm))
  have responses : r.responses = r'.responses :=
    BoundedList.items_injective (List.map_injective_iff.mpr BoundedString.text_injective
      (merge.responses.trans merge'.responses.symm))
  have checkipClient : r.checkipClient = r'.checkipClient := by
    rw [merge.checkipClient, merge'.checkipClient, checkip]
  have updateClient : r.updateClient = r'.updateClient := by
    rw [merge.updateClient, merge'.updateClient, update, sslEnabled]
  have credentials : r.credentials = r'.credentials := by
    have token := merge.token.trans merge'.token.symm
    cases given : r.credentials
    cases given' : r'.credentials
    simp only [given, given'] at username password token
    rw [username, password, token]
  cases r
  cases r'
  simp only [mk.injEq]
  exact ⟨merge.name.trans merge'.name.symm, merge.kind.trans merge'.kind.symm,
    merge.plugin.trans merge'.plugin.symm, checkip, checkipPath, update, updatePath,
    merge.wildcard.trans merge'.wildcard.symm, sslEnabled,
    merge.appendMyip.trans merge'.appendMyip.symm, credentials, hostnames, responses,
    checkipClient, updateClient⟩

theorem text_kept {capacity : Nat} (given : Option String) :
    (given.bind fun text => (BoundedString.ofString capacity text).toOption).map
      BoundedString.text = given.filter (·.utf8ByteSize ≤ capacity) := by
  cases given with
  | none => rfl
  | some text =>
      by_cases fits : text.utf8ByteSize ≤ capacity
      · simp [BoundedString.ofString_eq_ok fits, Except.toOption, Option.filter, fits]
      · simp [BoundedString.ofString_eq_error (Nat.not_le.mp fits), Except.toOption, Option.filter, fits]

theorem texts_fittingResponses (texts : List String) :
    (fittingResponses texts).map BoundedString.text = texts.filter (·.utf8ByteSize ≤ 64) := by
  induction texts with
  | nil => rfl
  | cons text rest ih =>
      by_cases fits : text.utf8ByteSize ≤ Limits.responseBytes
      · have kept : text.utf8ByteSize ≤ 64 := fits
        simp only [fittingResponses, List.filterMap_cons, BoundedString.ofString_eq_ok fits,
          Except.toOption, List.map_cons, List.filter_cons, kept, decide_true, if_true]
        exact congrArg (text :: ·) ih
      · have dropped : ¬ text.utf8ByteSize ≤ 64 := fits
        simp only [fittingResponses, List.filterMap_cons,
          BoundedString.ofString_eq_error (Nat.not_le.mp fits), Except.toOption, List.filter_cons,
          dropped, decide_false, Bool.false_eq_true, if_false]
        exact ih

theorem texts_responsesOf (plugin : Plugin) (s : Section) :
    (responsesOf plugin s).items.map BoundedString.text =
      ((s.responses plugin).filter (·.utf8ByteSize ≤ 64)).take 5 := by
  have extended (texts : List String) :
      (BoundedList.empty.extend (fittingResponses texts) :
        BoundedList Response Limits.responses × Nat).1.items.map BoundedString.text =
        (texts.filter (·.utf8ByteSize ≤ 64)).take 5 := by
    rw [BoundedList.items_extend, ← texts_fittingResponses, ← List.map_take]
    rfl
  cases s with
  | provider s => rfl
  | custom s =>
      simp only [responsesOf, keepResponses, Section.responses, List.isEmpty_iff, ne_eq, ite_not]
      by_cases given : s.ddnsResponse = []
      · simp only [if_pos given, Traced.value_pure]
        exact extended _
      · simp only [if_neg given, Traced.value_bind, Traced.value_pure]
        exact extended _

end ProviderRecord

namespace Targets

theorem text_of_path {option given : String} {kept : UrlPath}
    (taken : path option given = .ok kept) : kept.text = given := by
  unfold path at taken
  cases read : BoundedString.ofString Limits.pathBytes given with
  | ok p =>
      rw [read] at taken
      cases taken
      exact BoundedString.text_of_ofString read
  | error overflow => simp only [read, reduceCtorEq] at taken

/-- What replaces a default is read in the same way. -/
theorem read_of_override {α : Type} {read : String → Except SectionError α} {part taken : α}
    {default : String} {given : Option String} (fromDefault : read default = .ok part)
    (overridden : override part read given = .ok taken) : read (given.getD default) = .ok taken := by
  cases given with
  | none =>
      cases overridden
      exact fromDefault
  | some text => exact overridden

/-- Targets are read from the options of a custom section where it has them, and else from the
    defaults of the plugin. -/
structure AreFor (p : Plugin) (s : Section) (t : Targets) : Prop where
  checkip : resolve "checkip-server" ((s.own? (·.checkipServer)).getD p.checkipServer) = .ok t.checkip
  checkipPath : path "checkip-path" ((s.own? (·.checkipPath)).getD p.checkipPath) = .ok t.checkipPath
  update : resolve "ddns-server" ((s.own? (·.ddnsServer)).getD p.updateServer) = .ok t.update
  updatePath : path "ddns-path" ((s.own? (·.ddnsPath)).getD p.updatePath) = .ok t.updatePath

theorem areFor_of_forSection {plugin : Plugin} {s : Section} {defaults targets : Targets}
    (taken : ofPlugin plugin = .ok defaults) (own : defaults.forSection s = .ok targets) :
    targets.AreFor plugin s := by
  simp only [ofPlugin, bind_eq_ok_iff] at taken
  obtain ⟨checkip, readCheckip, checkipPath, readCheckipPath, update, readUpdate, updatePath,
    readUpdatePath, same⟩ := taken
  cases same
  cases s with
  | provider s =>
      cases own
      exact ⟨readCheckip, readCheckipPath, readUpdate, readUpdatePath⟩
  | custom s =>
      simp only [forSection, overrideBy, bind_eq_ok_iff] at own
      obtain ⟨_, ownCheckip, _, ownCheckipPath, _, ownUpdate, _, ownUpdatePath, same⟩ := own
      cases same
      exact ⟨read_of_override readCheckip ownCheckip,
        read_of_override readCheckipPath ownCheckipPath, read_of_override readUpdate ownUpdate,
        read_of_override readUpdatePath ownUpdatePath⟩

end Targets

namespace ProviderRecord

theorem isMerge_assemble {plugin : Plugin} {s : Section} {targets : Targets}
    {hostnames : BoundedList Hostname Limits.hostnames} (resolved : targets.AreFor plugin s)
    (kept : (keepHostnames (titleOf plugin s) s.common.hostname).run.value = .ok hostnames) :
    (assemble plugin s targets hostnames).IsMerge plugin s where
  name := rfl
  kind := rfl
  plugin := rfl
  checkip := Endpoint.names_iff.mpr (Targets.endpoint_of_resolve resolved.checkip)
  checkipPath := Targets.text_of_path resolved.checkipPath
  update := Endpoint.names_iff.mpr (Targets.endpoint_of_resolve resolved.update)
  updatePath := Targets.text_of_path resolved.updatePath
  wildcard := rfl
  sslEnabled := rfl
  appendMyip := rfl
  username := text_kept s.common.username
  password := text_kept s.common.password
  token := rfl
  hostnames := texts_of_keepHostnames kept
  responses := texts_responsesOf plugin s
  checkipClient := rfl
  updateClient := rfl

theorem isMerge_of_merge {plugin : Plugin} {s : Section} {record : ProviderRecord}
    (merged : (merge plugin s).run.value = .ok record) : record.IsMerge plugin s := by
  obtain ⟨defaults, taken, hostnames, kept, targets, own, rfl⟩ := merge_eq_ok_iff.mp merged
  exact isMerge_assemble (Targets.areFor_of_forSection taken own) kept

theorem isMerge_of_build {find : String → Option Plugin} {s : Section} {record : ProviderRecord}
    (built : (build find s).value = .ok record) :
    ∃ plugin, s.plugin find = .ok plugin ∧ record.IsMerge plugin s := by
  rw [value_build_eq, bind_eq_ok_iff] at built
  obtain ⟨plugin, found, merged⟩ := built
  exact ⟨plugin, found, isMerge_of_merge merged⟩

/-- A build, of a section that no check need have passed and under any answer to its one question,
    is refused for the first refusal of the order, and has the record that its section and its plugin
    determine if there is none. -/
theorem build_eq_reference (find : String → Option Plugin) (s : Section) :
    (∀ e, (build find s).value = .error e ↔ s.buildRefusal? find = some e) ∧
    ∀ record, (build find s).value = .ok record ↔
      s.buildRefusal? find = none ∧ ∃ plugin, s.plugin find = .ok plugin ∧ record.IsMerge plugin s := by
  rw [← refusalOf_build]
  constructor
  · intro e
    cases (build find s).value <;> simp [refusalOf]
  · intro record
    constructor
    · intro built
      exact ⟨refusalOf_eq_none_iff.mpr ⟨record, built⟩, isMerge_of_build built⟩
    · rintro ⟨unrefused, plugin, found, merge⟩
      obtain ⟨other, built⟩ := refusalOf_eq_none_iff.mp unrefused
      obtain ⟨_, found', merge'⟩ := isMerge_of_build built
      cases found.symm.trans found'
      rw [built, merge.unique merge']

/-- A title that is empty is missing. -/
example : (Section.provider { name := some "" }).buildRefusal? (fun _ => some .custom) =
    some .missingName := by
  decide

end ProviderRecord

end DynamicDns
