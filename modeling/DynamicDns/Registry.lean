import DynamicDns.Record.Build

/-! # Registry of providers

The records of a configuration in the order in which they came, and cursors to
walk through them. A cursor belongs to its caller: walks do not disturb each
other.
-/

namespace DynamicDns

/-- A place in a walk through a registry. A new one is nowhere until it is rewound. -/
structure Cursor where
  /-- Index of the current record, or the number of records at the end. -/
  position : Option Nat := none
  deriving Repr, DecidableEq

/-- Records in the order in which they came. -/
structure ProviderRegistry where
  records : List ProviderRecord := []
  deriving Repr, DecidableEq

namespace ProviderRegistry

def empty : ProviderRegistry := {}

def size (r : ProviderRegistry) : Nat := r.records.length

def isEmpty (r : ProviderRegistry) : Bool := r.records.isEmpty

def insert (r : ProviderRegistry) (record : ProviderRecord) : Traced ProviderRegistry := do
  Traced.emit (.recordAdded record.name)
  return ⟨r.records ++ [record]⟩

/-- Build a record for a section and append it. A section that is refused changes nothing. -/
def create (r : ProviderRegistry) (find : String → Option Plugin) (s : Section) :
    Traced (ProviderRegistry × Except SectionError ProviderRecord) := do
  match ← ProviderRecord.build find s with
  | .error e => return (r, .error e)
  | .ok record => return (← r.insert record, .ok record)

/-- Move a cursor and tell the record that it is at. It moves to the first record on `reset`, else
    to the next one, and it stays at the end. -/
def iterate (r : ProviderRegistry) (cursor : Cursor) (reset : Bool) :
    Cursor × Option ProviderRecord :=
  if reset then (⟨some 0⟩, r.records[0]?)
  else
    match cursor.position with
    | none => (cursor, none)
    | some current =>
      let next := min (current + 1) r.size
      (⟨some next⟩, r.records[next]?)

def get? (r : ProviderRegistry) (index : Nat) : Option ProviderRecord := r.records[index]?

def find? (r : ProviderRegistry) (name : String) : Option ProviderRecord :=
  r.records.find? (·.name = name)

/-- Change the record at an index, if there is one. -/
def modify (r : ProviderRegistry) (index : Nat) (f : ProviderRecord → ProviderRecord) :
    ProviderRegistry :=
  ⟨r.records.modify index f⟩

/-- Make the tokens of all records. The answers tell which records have a password. -/
def encodeAll (r : ProviderRegistry) : ProviderRegistry × List Bool :=
  (⟨r.records.map (·.mapCredentials (·.encode.1))⟩, r.records.map (·.credentials.encode.2))

/-- Store a token for the record at an index. -/
def setToken (r : ProviderRegistry) (index : Nat) (token : String) : ProviderRegistry :=
  r.modify index (·.mapCredentials (·.setToken token))

/-- Give up the token of the record at an index. The answer is that token. -/
def clearToken (r : ProviderRegistry) (index : Nat) : ProviderRegistry × Option String :=
  (r.modify index (·.mapCredentials (·.clearToken.1)), (r.get? index).bind (·.credentials.token))

/-- Release all records. The answer is their number. -/
def destroyAll (r : ProviderRegistry) : Traced (ProviderRegistry × Nat) := do
  Traced.emit (.recordsReleased r.size)
  return (empty, r.size)

end ProviderRegistry

end DynamicDns
