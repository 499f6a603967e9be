import DynamicDns.Proofs.CursorCalls
import DynamicDns.Proofs.LoadOutcome
import Mathlib.Data.List.DropRight

/-! # Registries as journals

A registry is measured against a journal that is only written at its end: one
entry for each record that was built, with every token that was stored for it
since. Whatever is done with a registry, its records are those of the journal,
and it answers what the journal says.
-/

namespace DynamicDns

/-- What can be done with a registry. -/
inductive Operation where
  | create (find : String → Option Plugin) (s : Section)
  | iterate (cursor : Cursor) (reset : Bool)
  | get (index : Nat)
  | find (name : String)
  | encode
  | setToken (index : Nat) (token : String)
  | clearToken (index : Nat)
  | destroyAll

/-- What an operation answers. -/
inductive Answer where
  | created (outcome : Except SectionError ProviderRecord)
  | visited (cursor : Cursor) (record : Option ProviderRecord)
  | found (record : Option ProviderRecord)
  /-- Which records have a password. -/
  | encoded (answers : List Bool)
  | stored
  | cleared (token : Option String)
  | released (count : Nat)

namespace Operation

/-- The record that the operation builds, if it builds one. -/
def built? : Operation → Option ProviderRecord
  | .create lookup s => (ProviderRecord.build lookup s).value.toOption
  | _ => none

/-- Whether the operation releases all records. -/
def releases : Operation → Bool
  | .destroyAll => true
  | _ => false

end Operation

/-- A record as it was built, and what was written as its token since then, `none` where it was
    given up. -/
structure Entry where
  built : ProviderRecord
  writes : List (Option String) := []

namespace Entry

def token (e : Entry) : Option String := e.writes.getLast?.join

/-- The record as built, but for the token. -/
def record (e : Entry) : ProviderRecord :=
  { e.built with credentials := { e.built.credentials with token := e.token } }

def write (token : Option String) (e : Entry) : Entry := { e with writes := e.writes ++ [token] }

/-- The entry with the token of its own credentials written. Without a password nothing is. -/
def encode (e : Entry) : Entry :=
  match e.built.credentials.password with
  | none => e
  | some password => e.write (some (basicToken e.built.credentials.usernameText password.text))

end Entry

/-- The entries of the records that were built, oldest first. -/
abbrev Journal := List Entry

namespace Journal

def perform (j : Journal) : Operation → Journal
  | .create find s =>
    match (ProviderRecord.build find s).value with
    | .error _ => j
    | .ok built => j ++ [{ built }]
  | .encode => j.map Entry.encode
  | .setToken index token => j.modify index (Entry.write (some token))
  | .clearToken index => j.modify index (Entry.write none)
  | .destroyAll => []
  | .iterate .. | .get _ | .find _ => j

/-- What an operation has to answer. -/
def answer (j : Journal) : Operation → Answer
  | .create find s => .created (ProviderRecord.build find s).value
  | .iterate cursor reset =>
    .visited ⟨(cursor.target? reset).map (min · j.length)⟩
      ((cursor.target? reset).bind fun index => j[index]?.map Entry.record)
  | .get index => .found (j[index]?.map Entry.record)
  | .find name => .found ((j.find? (·.built.name = name)).map Entry.record)
  | .encode => .encoded (j.map (·.built.credentials.password.isSome))
  | .setToken .. => .stored
  | .clearToken index => .cleared (j[index]?.bind Entry.token)
  | .destroyAll => .released j.length

/-- The journal after some operations, starting from nothing. -/
def after (operations : List Operation) : Journal := operations.foldl perform []

end Journal

namespace ProviderRegistry

def perform (r : ProviderRegistry) : Operation → ProviderRegistry × Answer
  | .create find s =>
    let (r', outcome) := (r.create find s).value
    (r', .created outcome)
  | .iterate cursor reset =>
    let (cursor', record) := r.iterate cursor reset
    (r, .visited cursor' record)
  | .get index => (r, .found (r.get? index))
  | .find name => (r, .found (r.find? name))
  | .encode =>
    let (r', answers) := r.encodeAll
    (r', .encoded answers)
  | .setToken index token => (r.setToken index token, .stored)
  | .clearToken index =>
    let (r', token) := r.clearToken index
    (r', .cleared token)
  | .destroyAll =>
    let (r', count) := r.destroyAll.value
    (r', .released count)

/-- The registry after some operations, starting from the empty one. -/
def after (operations : List Operation) : ProviderRegistry :=
  operations.foldl (fun r operation => (r.perform operation).1) empty

end ProviderRegistry

/-- A record is built without a token. -/
theorem ProviderRecord.token_of_build {find : String → Option Plugin} {s : Section}
    {record : ProviderRecord} (built : (build find s).value = .ok record) :
    record.credentials.token = none := by
  obtain ⟨_, _, _, _, -, -, -, rfl⟩ := merged_of_build built
  rfl

namespace Entry

theorem record_of_token_none {built : ProviderRecord} (unset : built.credentials.token = none) :
    record { built } = built := by
  have same : { built.credentials with token := none } = built.credentials := by rw [← unset]
  simp only [record, token, List.getLast?_nil, Option.join_none, same]

theorem record_write (e : Entry) (token : Option String) :
    (e.write token).record = e.record.mapCredentials ({ · with token }) := by
  simp [record, write, Entry.token, ProviderRecord.mapCredentials]

theorem record_encode (e : Entry) : e.encode.record = e.record.mapCredentials (·.encode.1) := by
  unfold encode
  cases password : e.built.credentials.password with
  | none => simp [ProviderRecord.mapCredentials, Credentials.encode, record, password]
  | some text =>
      rw [record_write]
      simp [ProviderRecord.mapCredentials, Credentials.encode, record, password,
        Credentials.usernameText]

end Entry

theorem map_modify {α β : Type} {f : α → β} {g : α → α} {h : β → β}
    (commute : ∀ a, f (g a) = h (f a)) (items : List α) (index : Nat) :
    (items.modify index g).map f = (items.map f).modify index h := by
  apply List.ext_getElem?
  intro other
  simp only [List.getElem?_map, List.getElem?_modify]
  cases items[other]? with
  | none => rfl
  | some a => by_cases same : index = other <;> simp [same, commute]

namespace ProviderRegistry

variable {r : ProviderRegistry} {j : Journal}

theorem size_eq_of_records_eq (same : r.records = j.map Entry.record) : r.size = j.length := by
  rw [size, same, List.length_map]

/-- One operation keeps the records those of the journal. -/
theorem records_perform (same : r.records = j.map Entry.record) (operation : Operation) :
    (r.perform operation).1.records = (j.perform operation).map Entry.record := by
  cases operation with
  | create find s =>
      simp only [perform, value_create, Journal.perform]
      cases built : (ProviderRecord.build find s).value with
      | error e => exact same
      | ok record =>
          have unset := ProviderRecord.token_of_build built
          simp only [same, List.map_append, List.map_cons, List.map_nil,
            Entry.record_of_token_none unset]
  | iterate | get | find => exact same
  | encode =>
      simp only [perform, encodeAll, Journal.perform, same, List.map_map]
      apply List.map_congr_left
      intro e _
      exact e.record_encode.symm
  | setToken index token =>
      simp only [perform, setToken, modify, Journal.perform, same]
      exact (map_modify (fun e => e.record_write _) j index).symm
  | clearToken index =>
      simp only [perform, clearToken, modify, Journal.perform, same]
      exact (map_modify (fun e => e.record_write _) j index).symm
  | destroyAll => rfl

theorem answer_perform (same : r.records = j.map Entry.record) (operation : Operation) :
    (r.perform operation).2 = j.answer operation := by
  cases operation with
  | create find s =>
      simp only [perform, value_create, Journal.answer]
      cases (ProviderRecord.build find s).value <;> rfl
  | iterate cursor reset =>
      simp only [perform, iterate_eq, Journal.answer, size_eq_of_records_eq same, same,
        List.getElem?_map]
  | get index => simp only [perform, get?, Journal.answer, same, List.getElem?_map]
  | find name =>
      simp only [perform, find?, Journal.answer, same, List.find?_map]
      rfl
  | encode =>
      simp only [perform, encodeAll, Journal.answer, same, List.map_map]
      congr 1
      apply List.map_congr_left
      intro e _
      simp only [Function.comp_apply, Entry.record, Credentials.encode]
      cases e.built.credentials.password <;> rfl
  | setToken => rfl
  | clearToken index =>
      simp only [perform, clearToken, get?, Journal.answer, same, List.getElem?_map,
        Option.bind_map]
      rfl
  | destroyAll =>
      simp only [perform, destroyAll, Traced.value_bind, Traced.value_pure, Journal.answer,
        size_eq_of_records_eq same]

theorem records_after (operations : List Operation) :
    (after operations).records = (Journal.after operations).map Entry.record := by
  induction operations using List.reverseRecOn with
  | nil => rfl
  | append_singleton operations operation ih =>
      simp only [after, Journal.after, List.foldl_append, List.foldl_cons, List.foldl_nil]
      exact records_perform ih operation

end ProviderRegistry

namespace Journal

theorem built_perform (j : Journal) (operation : Operation) :
    (j.perform operation).map Entry.built =
      if operation.releases then [] else j.map Entry.built ++ operation.built?.toList := by
  cases operation with
  | create find s =>
      simp only [perform, Operation.releases, Operation.built?]
      cases (ProviderRecord.build find s).value with
      | error e => simp [Except.toOption]
      | ok record => simp [Except.toOption]
  | iterate | get | find => simp [perform, Operation.releases, Operation.built?]
  | encode =>
      have kept : Entry.built ∘ Entry.encode = Entry.built := by
        funext e
        simp only [Function.comp_apply, Entry.encode]
        cases e.built.credentials.password <;> rfl
      simp [perform, Operation.releases, Operation.built?, kept]
  | setToken index token | clearToken index =>
      have kept (token : Option String) : (j.modify index (Entry.write token)).map Entry.built =
          (j.map Entry.built).modify index id :=
        map_modify (f := Entry.built) (g := Entry.write token) (h := id) (fun _ => rfl) j index
      simp [perform, Operation.releases, Operation.built?, kept]
  | destroyAll => rfl

/-- The journal has the records that were built since all were last released. -/
theorem built_after (operations : List Operation) :
    (after operations).map Entry.built =
      (operations.rtakeWhile (! ·.releases)).filterMap Operation.built? := by
  induction operations using List.reverseRecOn with
  | nil => rfl
  | append_singleton operations operation ih =>
      have step : after (operations ++ [operation]) = (after operations).perform operation := by
        simp only [after, List.foldl_append, List.foldl_cons, List.foldl_nil]
      rw [step, built_perform, List.rtakeWhile_concat, ih]
      cases operation.releases with
      | true => rfl
      | false => cases built : operation.built? <;> simp [built]

end Journal

namespace ProviderRegistry

/-- What stands for the first of the records that has a name. -/
def IsFirst (records : List ProviderRecord) (name : String) : Option ProviderRecord → Prop
  | none => ∀ record ∈ records, record.name ≠ name
  | some record => record.name = name ∧ ∃ earlier later,
      records = earlier ++ record :: later ∧ ∀ other ∈ earlier, other.name ≠ name

theorem isFirst_find? (r : ProviderRegistry) (name : String) :
    IsFirst r.records name (r.find? name) := by
  cases found : r.find? name with
  | none => simpa [find?, IsFirst] using found
  | some record => simpa [find?, IsFirst, List.find?_eq_some_iff_append] using found

/-- Whatever was done with a registry, it holds the records that were built since all were last
    released, in order, each as it was built but for the token last written to it, and it answers
    what the journal says. In particular, a section that is refused changes nothing, a name finds the
    first of its records, and a release tells the number of records and leaves none. -/
theorem after_refines_journal (operations : List Operation) :
    let registry := after operations
    let journal := Journal.after operations
    registry.records = journal.map Entry.record ∧
    journal.map Entry.built = (operations.rtakeWhile (! ·.releases)).filterMap Operation.built? ∧
    (∀ operation, (registry.perform operation).2 = journal.answer operation) ∧
    (∀ find s, match (ProviderRecord.build find s).value with
      | .error e => registry.perform (.create find s) = (registry, .created (.error e))
      | .ok record => registry.perform (.create find s) =
          (⟨registry.records ++ [record]⟩, .created (.ok record))) ∧
    (∀ name, IsFirst registry.records name (registry.find? name)) ∧
    registry.perform .destroyAll = (empty, .released registry.records.length) := by
  refine ⟨records_after operations, Journal.built_after operations,
    answer_perform (records_after operations), ?_, isFirst_find? _, rfl⟩
  intro find s
  cases built : (ProviderRecord.build find s).value with
  | error e => simp [perform, value_create, built]
  | ok record => simp [perform, value_create, built]

end ProviderRegistry

end DynamicDns
