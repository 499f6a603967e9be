import DynamicDns.Dump
import DynamicDns.Plugin.Builtin
import DynamicDns.Proofs.LoadOutcome
import DynamicDns.Proofs.TracedAgreement

/-! # Passwords stay unseen

Two configurations that differ in their passwords alone are loaded side by side.
Both loads are refused for the same sections or come to records that differ in
their passwords alone, of which neither the dump nor the description tells. Only
whether a password fits is seen, and its size if it does not: in the log, and by
the record having no password.
-/

namespace DynamicDns

/-- Both passwords fit a record, or they have the same size. -/
def PasswordsAlike (p q : String) : Prop :=
  (p.utf8ByteSize ≤ Limits.passwordBytes ∧ q.utf8ByteSize ≤ Limits.passwordBytes) ∨
    p.utf8ByteSize = q.utf8ByteSize

namespace PasswordsAlike

variable {p q : String}

theorem fits_iff (alike : PasswordsAlike p q) :
    p.utf8ByteSize ≤ Limits.passwordBytes ↔ q.utf8ByteSize ≤ Limits.passwordBytes := by
  rcases alike with ⟨fitsP, fitsQ⟩ | size
  · exact iff_of_true fitsP fitsQ
  · rw [size]

theorem size_eq (alike : PasswordsAlike p q) (long : Limits.passwordBytes < p.utf8ByteSize) :
    p.utf8ByteSize = q.utf8ByteSize := by
  rcases alike with ⟨fits, _⟩ | size
  · exact absurd fits (Nat.not_le_of_lt long)
  · exact size

end PasswordsAlike

variable {R : String → String → Prop}

/-- The passwords that `R` relates cannot be told apart by their sizes. -/
abbrev Alike (R : String → String → Prop) : Prop := ∀ p q, R p q → PasswordsAlike p q

/-! ## Configurations that differ in passwords -/

/-- The same section with another password, present in both or in none, and related by `R`. -/
inductive ProviderSection.EqualUpTo (R : String → String → Prop) (s : ProviderSection) :
    ProviderSection → Prop where
  | mk {password : Option String} (related : Option.Rel R s.password password) :
    EqualUpTo R s { s with password }

inductive CustomSection.EqualUpTo (R : String → String → Prop) (s : CustomSection) :
    CustomSection → Prop where
  | mk {common : ProviderSection} (same : s.common.EqualUpTo R common) :
    EqualUpTo R s { s with common }

inductive Section.EqualUpTo (R : String → String → Prop) : Section → Section → Prop where
  | provider {s t : ProviderSection} (same : s.EqualUpTo R t) :
    EqualUpTo R (.provider s) (.provider t)
  | custom {s t : CustomSection} (same : s.EqualUpTo R t) : EqualUpTo R (.custom s) (.custom t)

/-- The same configuration with other passwords. -/
inductive Config.EqualUpTo (R : String → String → Prop) (c : Config) : Config → Prop where
  | mk {providers : List ProviderSection} {customs : List CustomSection}
    (sameProviders : List.Forall₂ (ProviderSection.EqualUpTo R) c.providers providers)
    (sameCustoms : List.Forall₂ (CustomSection.EqualUpTo R) c.customs customs) :
    EqualUpTo R c { c with providers, customs }

/-! ## Checks -/

/-- Verdicts with the same refusal, on related sections. -/
def Verdict.Agree {σ : Type} (S : σ → σ → Prop) (v w : Verdict σ) : Prop :=
  S v.result w.result ∧ v.error = w.error

namespace ProviderSection

variable {logged : Prop} {s t : ProviderSection}

theorem EqualUpTo.missingCredential?_eq (same : s.EqualUpTo R t) (provider : String) :
    s.missingCredential? provider = t.missingCredential? provider := by
  cases s
  obtain ⟨related⟩ := same
  cases related <;> rfl

theorem EqualUpTo.migrateAlias (same : s.EqualUpTo R t) :
    Traced.Agree logged (SameOutcome fun a b => a.1.EqualUpTo R b.1) s.migrateAlias
      t.migrateAlias := by
  obtain ⟨related⟩ := same
  simp only [ProviderSection.migrateAlias]
  split
  · exact .pure (.ok ⟨related⟩)
  · split
    · exact .pure (.error _)
    · exact (Traced.Agree.refl _).bind fun _ _ _ => .pure (.ok ⟨related⟩)

theorem EqualUpTo.checkCommon (same : s.EqualUpTo R t) (find : String → Option Plugin)
    (kind : SectionKind) (provider : String) :
    Traced.Agree logged (Verdict.Agree (EqualUpTo R)) (s.checkCommon find kind provider)
      (t.checkCommon find kind provider) := by
  unfold ProviderSection.checkCommon
  refine same.migrateAlias.bind fun a b migrated => ?_
  cases migrated with
  | error e => exact .pure ⟨same, rfl⟩
  | @ok a b migrated =>
      obtain ⟨a, _⟩ := a
      obtain ⟨b, _⟩ := b
      simp only [← migrated.missingCredential?_eq]
      split
      · exact .pure ⟨migrated, rfl⟩
      · refine (Traced.Agree.refl _).bind fun plugin _ found => ?_
        subst found
        obtain ⟨related⟩ := migrated
        cases plugin with
        | none => exact .pure ⟨⟨related⟩, rfl⟩
        | some plugin => exact .pure ⟨⟨related⟩, rfl⟩

theorem EqualUpTo.validate (same : s.EqualUpTo R t) (find : String → Option Plugin) :
    Traced.Agree logged (Verdict.Agree (EqualUpTo R)) (s.validate find) (t.validate find) := by
  have title : s.name = t.name := by cases same; rfl
  unfold ProviderSection.validate
  rw [← title]
  split
  · exact .pure ⟨same, rfl⟩
  · exact same.checkCommon find .provider _

end ProviderSection

theorem CustomSection.EqualUpTo.validate {logged : Prop} {s t : CustomSection}
    (same : s.EqualUpTo R t) (find : String → Option Plugin) :
    Traced.Agree logged (Verdict.Agree (EqualUpTo R)) (s.validate find) (t.validate find) := by
  have hosted : s.hasUpdateHost = t.hasUpdateHost := by cases same; rfl
  unfold CustomSection.validate
  rw [← hosted]
  cases s.hasUpdateHost with
  | false => exact .pure ⟨same, rfl⟩
  | true =>
      obtain ⟨common⟩ := same
      refine (common.checkCommon find .custom _).bind fun v w checked => .pure ?_
      exact ⟨⟨checked.1⟩, checked.2⟩

namespace Config

variable {find : Lookup} {logged : Prop} {c d : Config}

theorem refusals_eq {σ : Type} {S : σ → σ → Prop} (kind : SectionKind) {title : σ → Option String}
    (titled : ∀ s t, S s t → title s = title t) {verdicts others : List (Verdict σ)}
    (agree : List.Forall₂ (Verdict.Agree S) verdicts others) :
    refusals kind title verdicts = refusals kind title others := by
  refine filterMap_eq_of_forall₂ (forall₂_zipIdx agree 0) ?_
  rintro ⟨v, i⟩ ⟨w, _⟩ ⟨⟨result, error⟩, rfl⟩
  dsimp only at result error ⊢
  rw [error, titled _ _ result]

theorem results_related {σ : Type} {S : σ → σ → Prop} {verdicts others : List (Verdict σ)}
    (agree : List.Forall₂ (Verdict.Agree S) verdicts others) :
    List.Forall₂ S (verdicts.map Verdict.result) (others.map Verdict.result) := by
  rw [List.forall₂_map_left_iff, List.forall₂_map_right_iff]
  exact agree.imp fun _ _ related => related.1

/-- Checks refuse the same sections and leave the configurations different in passwords alone. -/
theorem EqualUpTo.validate (same : c.EqualUpTo R d) :
    Traced.Agree logged (fun a b => a.1.EqualUpTo R b.1 ∧ a.2 = b.2) (c.validate find)
      (d.validate find) := by
  obtain @⟨providers, customs, sameProviders, sameCustoms⟩ := same
  have checkedProviders : Traced.Agree logged
      (List.Forall₂ (Verdict.Agree (ProviderSection.EqualUpTo R)))
      (Traced.each (fun earlier s => ProviderSection.validate (find earlier) s) 0 c.providers)
      (Traced.each (fun earlier s => ProviderSection.validate (find earlier) s) 0 providers) :=
    .each sameProviders (fun earlier _ _ same => same.validate (find earlier)) 0
  have checkedCustoms (earlier : Nat) : Traced.Agree logged
      (List.Forall₂ (Verdict.Agree (CustomSection.EqualUpTo R)))
      (Traced.each (fun earlier s => CustomSection.validate (find earlier) s) earlier c.customs)
      (Traced.each (fun earlier s => CustomSection.validate (find earlier) s) earlier customs) :=
    .each sameCustoms (fun earlier _ _ same => same.validate (find earlier)) earlier
  unfold Config.validate
  refine (Traced.Agree.refl _).bind fun _ _ _ => ?_
  refine checkedProviders.bind fun vs ws sameVerdicts => ?_
  rw [checkedProviders.lookups]
  refine (checkedCustoms _).bind fun vs' ws' sameVerdicts' => .pure ⟨?_, ?_⟩
  · exact ⟨results_related sameVerdicts, results_related sameVerdicts'⟩
  · dsimp only
    rw [refusals_eq .provider (fun s t same => by cases same; rfl) sameVerdicts,
      refusals_eq .custom (fun s t same => by obtain ⟨⟨_⟩⟩ := same; rfl) sameVerdicts']

end Config

/-! ## Builds -/

/-- Credentials of which the same is told: the username, and in case of `shown` also which secrets
    there are. -/
structure Credentials.LookAlike (shown : Prop) (c d : Credentials) : Prop where
  username : c.username = d.username
  password : shown → c.password.isSome = d.password.isSome
  token : shown → c.token.isSome = d.token.isSome

/-- The same record with other credentials of which the same is told. -/
inductive ProviderRecord.LookAlike (shown : Prop) (r : ProviderRecord) : ProviderRecord → Prop where
  | mk {credentials : Credentials} (alike : r.credentials.LookAlike shown credentials) :
    LookAlike shown r { r with credentials }

namespace ProviderRecord

theorem keepCredential_of_fit (provider field : String) {capacity : Nat} {text : String}
    (fits : text.utf8ByteSize ≤ capacity) :
    keepCredential provider field capacity (some text) = pure (some ⟨text, fits⟩) := by
  simp only [keepCredential, BoundedString.ofString_eq_ok fits]

theorem keepCredential_of_long (provider field : String) {capacity : Nat} {text : String}
    (long : capacity < text.utf8ByteSize) :
    keepCredential provider field capacity (some text) =
      { value := none
        events := [.credentialIgnored field provider ⟨text.utf8ByteSize, capacity⟩] } := by
  simp only [keepCredential, BoundedString.ofString_eq_error long]
  rfl

/-- The log tells whether a password fits, and its size if it does not. -/
theorem keepCredential_agree (provider : String) {p q : Option String}
    (related : Option.Rel R p q) :
    Traced.Agree (Alike R) (fun a b => Alike R → a.isSome = b.isSome)
      (keepCredential provider "password" Limits.passwordBytes p)
      (keepCredential provider "password" Limits.passwordBytes q) := by
  cases related with
  | none => exact .pure fun _ => rfl
  | @some p q related =>
      rcases Nat.lt_or_ge Limits.passwordBytes p.utf8ByteSize with longP | fitsP
      all_goals rcases Nat.lt_or_ge Limits.passwordBytes q.utf8ByteSize with longQ | fitsQ
      · rw [keepCredential_of_long _ _ longP, keepCredential_of_long _ _ longQ]
        exact ⟨fun _ => rfl, rfl, fun alike => by rw [(alike p q related).size_eq longP]⟩
      -- If only one of them fits, the sizes do tell them apart.
      · rw [keepCredential_of_long _ _ longP, keepCredential_of_fit _ _ fitsQ]
        have different : ¬ Alike R := fun alike =>
          Nat.not_le_of_lt longP ((alike p q related).fits_iff.mpr fitsQ)
        exact ⟨fun alike => absurd alike different, rfl, fun alike => absurd alike different⟩
      · rw [keepCredential_of_fit _ _ fitsP, keepCredential_of_long _ _ longQ]
        have different : ¬ Alike R := fun alike =>
          Nat.not_le_of_lt longQ ((alike p q related).fits_iff.mp fitsP)
        exact ⟨fun alike => absurd alike different, rfl, fun alike => absurd alike different⟩
      · rw [keepCredential_of_fit _ _ fitsP, keepCredential_of_fit _ _ fitsQ]
        exact .pure fun _ => rfl

theorem merge_agree (plugin : Plugin) {s t : Section} (same : s.EqualUpTo R t) :
    Building.Agree (Alike R) (LookAlike (Alike R)) (merge plugin s) (merge plugin t) := by
  cases same with
  | provider same =>
      obtain ⟨related⟩ := same
      unfold merge
      refine .refl_bind fun defaults => .refl_bind fun username => ?_
      refine (Building.Agree.lift (keepCredential_agree _ related)).bind fun p q alike => ?_
      refine .refl_bind fun hostnames => .refl_bind fun rest => .refl_bind fun _ => .pure ?_
      exact ⟨⟨rfl, alike, fun _ => rfl⟩⟩
  | custom same =>
      obtain ⟨⟨related⟩⟩ := same
      unfold merge
      refine .refl_bind fun defaults => .refl_bind fun username => ?_
      refine (Building.Agree.lift (keepCredential_agree _ related)).bind fun p q alike => ?_
      refine .refl_bind fun hostnames => .refl_bind fun targets => .refl_bind fun responses => ?_
      refine .refl_bind fun parts => .refl_bind fun _ => .pure ?_
      exact ⟨⟨rfl, alike, fun _ => rfl⟩⟩

theorem build_agree (find : String → Option Plugin) {s t : Section} (same : s.EqualUpTo R t) :
    Traced.Agree (Alike R) (SameOutcome (LookAlike (Alike R))) (build find s) (build find t) := by
  have asked : s.pluginName? = t.pluginName? := by
    cases same with
    | provider same => cases same; rfl
    | custom same => rfl
  unfold build
  rw [← asked]
  cases s.pluginName? with
  | none => exact .pure (.error _)
  | some name =>
      refine (Traced.Agree.refl _).bind fun plugin _ found => ?_
      subst found
      cases plugin with
      | none => exact .pure (.error _)
      | some plugin => exact merge_agree plugin same

end ProviderRecord

/-! ## Loads -/

/-- Registries whose records look alike, one by one. -/
def ProviderRegistry.LookAlike (shown : Prop) (r r' : ProviderRegistry) : Prop :=
  List.Forall₂ (ProviderRecord.LookAlike shown) r.records r'.records

namespace ProviderRegistry

theorem insert_agree {shown : Prop} {r r' : ProviderRegistry} {record record' : ProviderRecord}
    (alike : r.LookAlike shown r') (added : record.LookAlike shown record') :
    Traced.Agree shown (LookAlike shown) (r.insert record) (r'.insert record') := by
  have appended : List.Forall₂ (ProviderRecord.LookAlike shown) (r.records ++ [record])
      (r'.records ++ [record']) := List.rel_append alike (.cons added .nil)
  obtain ⟨_⟩ := added
  exact (Traced.Agree.refl _).bind fun _ _ _ => .pure appended

theorem create_agree {r r' : ProviderRegistry} (alike : r.LookAlike (Alike R) r')
    (find : String → Option Plugin) {s t : Section} (same : s.EqualUpTo R t) :
    Traced.Agree (Alike R) (fun a b => a.1.LookAlike (Alike R) b.1 ∧
      SameOutcome (ProviderRecord.LookAlike (Alike R)) a.2 b.2) (r.create find s)
      (r'.create find t) := by
  unfold create
  refine (ProviderRecord.build_agree find same).bind fun a b built => ?_
  cases built with
  | error e => exact .pure ⟨alike, .error e⟩
  | ok record =>
      dsimp only
      exact (insert_agree alike record).bind fun _ _ appended => .pure ⟨appended, .ok record⟩

end ProviderRegistry

/-- Sections under the same identities, equal up to their passwords. -/
abbrev SameSections (R : String → String → Prop) :
    List (SectionId × Section) → List (SectionId × Section) → Prop :=
  List.Forall₂ fun a b => a.1 = b.1 ∧ a.2.EqualUpTo R b.2

theorem Config.EqualUpTo.sections {c d : Config} (same : c.EqualUpTo R d) :
    SameSections R c.sections d.sections := by
  obtain ⟨sameProviders, sameCustoms⟩ := same
  refine forall₂_sections ?_ (sameProviders.imp fun _ _ => .provider)
    (sameCustoms.imp fun _ _ => .custom)
  intro s t same
  cases same with
  | provider same => cases same; rfl
  | custom same => obtain ⟨⟨_⟩⟩ := same; rfl

namespace LoadedConfig

/-- Configurations with the same settings, whose records look alike. -/
structure LookAlike (shown : Prop) (l m : LoadedConfig) : Prop where
  global : l.global = m.global
  providers : l.providers.LookAlike shown m.providers

/-- Both loads are refused for the same sections, or come to configurations that look alike. -/
inductive SameLoad (shown : Prop) : Except LoadError LoadedConfig → Except LoadError LoadedConfig → Prop where
  | rejected (diagnostics : List Diagnostic) :
    SameLoad shown (.error (.rejected diagnostics)) (.error (.rejected diagnostics))
  | loaded {l m : LoadedConfig} (alike : l.LookAlike shown m) : SameLoad shown (.ok l) (.ok m)

theorem SameLoad.rejected_or_loaded {shown : Prop} {x y : Except LoadError LoadedConfig}
    (same : SameLoad shown x y) :
    (∃ diagnostics, x = .error (.rejected diagnostics) ∧ y = .error (.rejected diagnostics)) ∨
      ∃ l m, x = .ok l ∧ y = .ok m ∧ l.LookAlike shown m := by
  cases same with
  | rejected diagnostics => exact .inl ⟨diagnostics, rfl, rfl⟩
  | loaded alike => exact .inr ⟨_, _, rfl, rfl, alike⟩

theorem createAll_agree (find : Lookup) {sections others : List (SectionId × Section)}
    (same : SameSections R sections others) (earlier : Nat) {r r' : ProviderRegistry}
    (alike : r.LookAlike (Alike R) r') :
    Traced.Agree (Alike R) (fun a b => a.1.LookAlike (Alike R) b.1 ∧ a.2 = b.2)
      (createAll find earlier r sections) (createAll find earlier r' others) := by
  induction same generalizing earlier r r' with
  | nil => exact .pure ⟨alike, rfl⟩
  | @cons a b _ _ head tail ih =>
      obtain ⟨place, s⟩ := a
      obtain ⟨_, t⟩ := b
      obtain ⟨rfl, head⟩ := head
      have created := ProviderRegistry.create_agree alike (find earlier) head
      refine created.bind ?_
      rintro ⟨r, outcome⟩ ⟨r', outcome'⟩ ⟨grown, same⟩
      rw [created.lookups]
      refine (ih _ grown).bind ?_
      rintro ⟨r, refused⟩ ⟨r', _⟩ ⟨alike, rfl⟩
      cases same with
      | ok record => exact .pure ⟨alike, rfl⟩
      | error e => exact .pure ⟨alike, rfl⟩

theorem ofConfig_agree (find : Lookup) (overrides : Overrides) (origin : String) {c d : Config}
    (same : c.EqualUpTo R d) :
    Traced.Agree (Alike R) (SameLoad (Alike R)) (ofConfig find overrides origin c)
      (ofConfig find overrides origin d) := by
  have checked : Traced.Agree (Alike R) _ (c.validate find) (d.validate find) := same.validate
  unfold ofConfig
  refine checked.bind ?_
  rintro ⟨c, refused⟩ ⟨d, _⟩ ⟨same, rfl⟩
  dsimp only
  split
  · exact ⟨.rejected refused, rfl, fun _ => rfl⟩
  · rw [checked.lookups]
    refine (createAll_agree find same.sections _ .nil).bind ?_
    rintro ⟨r, refused⟩ ⟨r', _⟩ ⟨alike, rfl⟩
    dsimp only
    split
    · exact ⟨.rejected refused, rfl, fun _ => rfl⟩
    · have size : r.size = r'.size := alike.length_eq
      have global : GlobalConfig.ofConfig c overrides = GlobalConfig.ofConfig d overrides := by
        cases same; rfl
      rw [size, global]
      exact (Traced.Agree.refl _).bind fun _ _ _ => .pure (.loaded ⟨rfl, alike⟩)

end LoadedConfig

/-! ## What is seen of a load -/

theorem none_or_some_of_isSome_eq {α : Type} {a b : Option α} (same : a.isSome = b.isSome) :
    (a = none ∧ b = none) ∨ ∃ x y, a = some x ∧ b = some y := by
  cases a with
  | none =>
      cases b with
      | none => exact .inl ⟨rfl, rfl⟩
      | some y => cases same
  | some x =>
      cases b with
      | none => cases same
      | some y => exact .inr ⟨x, y, rfl, rfl⟩

namespace Credentials

variable {shown : Prop} {c d : Credentials}

theorem encode_token_isSome (c : Credentials) :
    c.encode.1.token.isSome = (c.password.isSome || c.token.isSome) := by
  cases held : c.password with
  | none => rw [encode_of_none held, Option.isSome_none, Bool.false_or]
  | some password => rw [encode_of_some held, Option.isSome_some, Option.isSome_some, Bool.true_or]

theorem LookAlike.encode (alike : c.LookAlike shown d) :
    c.encode.1.LookAlike shown d.encode.1 := by
  refine ⟨?_, fun seen => ?_, fun seen => ?_⟩
  · rw [encode_username, encode_username, alike.username]
  · rw [encode_password, encode_password, alike.password seen]
  · rw [encode_token_isSome, encode_token_isSome, alike.password seen, alike.token seen]

theorem LookAlike.toJson_eq (alike : c.LookAlike shown d) : c.toJson = d.toJson := by
  simp only [toJson, alike.username]

/-- A description tells of a secret only that it is there. -/
theorem LookAlike.describe_eq (alike : c.LookAlike shown d) (seen : shown) :
    c.describe = d.describe := by
  obtain ⟨username, password, token⟩ := c
  obtain ⟨_, password', token'⟩ := d
  obtain ⟨rfl, samePassword, sameToken⟩ := alike
  rcases none_or_some_of_isSome_eq (samePassword seen) with ⟨rfl, rfl⟩ | ⟨p, p', rfl, rfl⟩
  all_goals rcases none_or_some_of_isSome_eq (sameToken seen) with ⟨rfl, rfl⟩ | ⟨t, t', rfl, rfl⟩
  all_goals rfl

end Credentials

namespace ProviderRecord.LookAlike

variable {shown : Prop} {r r' : ProviderRecord}

theorem toJson_eq (alike : r.LookAlike shown r') : r.toJson = r'.toJson := by
  obtain ⟨alike⟩ := alike
  simp only [toJson, alike.toJson_eq]

theorem describe_eq (alike : r.LookAlike shown r') (seen : shown) :
    r.credentials.describe = r'.credentials.describe := by
  obtain ⟨alike⟩ := alike
  exact alike.describe_eq seen

theorem encode (alike : r.LookAlike shown r') :
    (r.mapCredentials (·.encode.1)).LookAlike shown (r'.mapCredentials (·.encode.1)) := by
  obtain ⟨alike⟩ := alike
  exact ⟨alike.encode⟩

end ProviderRecord.LookAlike

namespace LoadedConfig

/-- The configuration once the tokens of all its records are made. -/
def encoded (l : LoadedConfig) : LoadedConfig := { l with providers := l.providers.encodeAll.1 }

/-- The credentials of all records for a reader's eyes. -/
def descriptions (l : LoadedConfig) : List String := l.providers.records.map (·.credentials.describe)

namespace LookAlike

variable {shown : Prop} {l m : LoadedConfig}

theorem encoded (alike : l.LookAlike shown m) : l.encoded.LookAlike shown m.encoded := by
  refine ⟨alike.global, ?_⟩
  unfold ProviderRegistry.LookAlike LoadedConfig.encoded ProviderRegistry.encodeAll
  dsimp only
  rw [List.forall₂_map_left_iff, List.forall₂_map_right_iff]
  exact List.Forall₂.imp (fun _ _ record => record.encode) alike.providers

theorem dump_eq (alike : l.LookAlike shown m) : l.dump = m.dump := by
  have records := map_eq_of_forall₂ alike.providers fun _ _ record => record.toJson_eq
  simp only [dump, toJson, alike.global, records]

theorem descriptions_eq (alike : l.LookAlike shown m) (seen : shown) :
    l.descriptions = m.descriptions :=
  map_eq_of_forall₂ alike.providers fun _ _ record => record.describe_eq seen

end LookAlike

/-- Loads of configurations that differ in their passwords alone, under any lookup, be it one that
    changes its answers: both are refused for the same sections, or both have the same dump, also
    once tokens are made. They ask for the same plugins. If the sizes of the passwords do not tell
    them apart, their events and the descriptions of all credentials are the same as well. -/
theorem ofConfig_passwords_unseen (find : Lookup) (overrides : Overrides) (origin : String)
    {c d : Config} (same : c.EqualUpTo (fun _ _ => True) d) :
    let first := ofConfig find overrides origin c
    let second := ofConfig find overrides origin d
    ((∃ diagnostics, first.value = .error (.rejected diagnostics) ∧
        second.value = .error (.rejected diagnostics)) ∨
      ∃ l m, first.value = .ok l ∧ second.value = .ok m ∧
        l.dump = m.dump ∧ l.encoded.dump = m.encoded.dump) ∧
    first.lookups = second.lookups ∧
    (c.EqualUpTo PasswordsAlike d →
      first.events = second.events ∧
      ∀ l m, first.value = .ok l → second.value = .ok m →
        l.descriptions = m.descriptions ∧ l.encoded.descriptions = m.encoded.descriptions) := by
  have agree := ofConfig_agree find overrides origin same
  refine ⟨?_, agree.lookups, ?_⟩
  · refine agree.value.rejected_or_loaded.imp_right ?_
    rintro ⟨l, m, loaded, loaded', alike⟩
    exact ⟨l, m, loaded, loaded', alike.dump_eq, alike.encoded.dump_eq⟩
  · intro sizes
    have agree := ofConfig_agree find overrides origin sizes
    have seen : Alike PasswordsAlike := fun _ _ alike => alike
    refine ⟨agree.events seen, ?_⟩
    intro l m loaded loaded'
    have values := agree.value
    rw [loaded, loaded'] at values
    cases values with
    | loaded alike => exact ⟨alike.descriptions_eq seen, alike.encoded.descriptions_eq seen⟩

/-- Two provider sections with these passwords. -/
def withPasswords (p q : String) : Config where
  providers := [
    { name := some "no-ip.com", username := some "u", password := some p
      hostname := ["h.no-ip.com"] },
    { name := some "dyndns.org", username := some "u", password := some q
      hostname := ["h.dyndns.org"] }]

/-- A text of one byte more than a password may have. -/
def longPassword (c : Char) : String := String.ofList (List.replicate (Limits.passwordBytes + 1) c)

/-- Two passwords that fit and two that are too long by the same number of bytes. -/
theorem ofConfig_passwords_unseen_withPasswords :
    let find := PluginRegistry.builtin.lookup
    let first := ofConfig find {} inlineOrigin (withPasswords "short" (longPassword 'a'))
    let second := ofConfig find {} inlineOrigin (withPasswords "another" (longPassword 'b'))
    first.events = second.events ∧ ∃ l m, first.value = .ok l ∧ second.value = .ok m ∧
      l.dump = m.dump ∧ l.encoded.dump = m.encoded.dump ∧
      l.descriptions = m.descriptions ∧ l.encoded.descriptions = m.encoded.descriptions := by
  intro find first second
  have fit : PasswordsAlike "short" "another" := .inl (by decide +kernel)
  have long : PasswordsAlike (longPassword 'a') (longPassword 'b') := .inr (by decide +kernel)
  have same : (withPasswords "short" (longPassword 'a')).EqualUpTo (fun _ _ => True)
      (withPasswords "another" (longPassword 'b')) :=
    .mk (.cons (.mk (.some trivial)) (.cons (.mk (.some trivial)) .nil)) .nil
  have alike : (withPasswords "short" (longPassword 'a')).EqualUpTo PasswordsAlike
      (withPasswords "another" (longPassword 'b')) :=
    .mk (.cons (.mk (.some fit)) (.cons (.mk (.some long)) .nil)) .nil
  obtain ⟨outcome, -, unseen⟩ := ofConfig_passwords_unseen find {} inlineOrigin same
  obtain ⟨events, descriptions⟩ := unseen alike
  refine ⟨events, ?_⟩
  rcases outcome with ⟨diagnostics, rejected, -⟩ | ⟨l, m, loaded, loaded', dump, dump'⟩
  · obtain ⟨loaded, succeeded⟩ :=
      (ofConfig_ok_iff {} inlineOrigin (withPasswords "short" (longPassword 'a'))).mpr
        ⟨show Config.checkRefusals PluginRegistry.builtin.find? _ = [] by decide +kernel,
          by decide +kernel⟩
    cases succeeded.symm.trans rejected
  · exact ⟨l, m, loaded, loaded', dump, dump', descriptions l m loaded loaded'⟩

end LoadedConfig

end DynamicDns
