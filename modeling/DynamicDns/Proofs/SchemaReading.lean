import DynamicDns.Schema
import Mathlib

/-! # What documents describe

The types that options ask for, and the configuration that a document describes
by the values it gives to them. A document is read just where its values are of
these types, and then as what it describes.
-/

namespace DynamicDns

namespace Toml

/-! ## Types of values -/

namespace Value

def IsString (value : Value) : Prop := ∃ text, value = .string text

def IsBoolean (value : Value) : Prop := ∃ truth, value = .boolean truth

def IsInteger (value : Value) : Prop := ∃ number, value = .integer number

/-- A whole number that is not below zero. -/
def IsNatural (value : Value) : Prop := ∃ number : Nat, value = .integer number

/-- An array, each of whose elements satisfies a condition. -/
def IsArrayOf (Each : Value → Prop) (value : Value) : Prop :=
  ∃ form items, value = .array form items ∧ ∀ item ∈ items, Each item.2

/-- One string or an array of strings. -/
def IsStrings (value : Value) : Prop := value.IsString ∨ value.IsArrayOf IsString

/-! ### What is taken from a value of the right type -/

def text : Value → String
  | .string text => text
  | _ => ""

def truth : Value → Bool
  | .boolean truth => truth
  | _ => false

def number : Value → Int
  | .integer number => number
  | _ => 0

/-- The elements of an array. -/
def elements : Value → List Value
  | .array _ items => items.map Prod.snd
  | _ => []

/-- The texts of an array of strings. A single string counts as an array of one. -/
def texts : Value → List String
  | .string text => [text]
  | value => value.elements.map text

end Value

namespace Entries

/-- The value that is given to an option. Should there be several, the last one counts. -/
def value? (entries : Entries) (option : String) : Option Value :=
  (entries.reverse.lookup option).map Prod.snd

/-- The value of each option satisfies what is asked of it. -/
def Fit (Asked : String → Value → Prop) (entries : Entries) : Prop :=
  ∀ entry ∈ entries, Asked entry.1 entry.2.2

@[simp]
theorem value?_append_singleton (entries : Entries) (option option' : String) (place : Span)
    (value : Value) :
    value? (entries ++ [(option, place, value)]) option' =
      if option = option' then some value else entries.value? option' := by
  simp only [value?, List.reverse_append, List.reverse_singleton, List.singleton_append,
    List.lookup_cons]
  by_cases same : option = option'
  · rw [if_pos same, beq_iff_eq.mpr same.symm]
    rfl
  · rw [if_neg same, beq_eq_false_iff_ne.mpr (Ne.symm same)]

theorem fit_append_singleton (Asked : String → Value → Prop) (entries : Entries)
    (entry : String × Span × Value) :
    Fit Asked (entries ++ [entry]) ↔ entries.Fit Asked ∧ Asked entry.1 entry.2.2 := by
  simp only [Fit, List.forall_mem_append, List.forall_mem_singleton]

end Entries

end Toml

namespace Schema

open Toml

/-! ## Options and their types -/

/-- What is asked of options that both kinds of sections have. -/
def FitsShared (option : String) (value : Value) : Prop :=
  match option with
  | "name" | "username" | "password" => value.IsString
  | "hostname" | "alias" => value.IsStrings
  | "ssl" | "wildcard" => value.IsBoolean
  | _ => True

/-- What is asked of options that only custom sections have. -/
def FitsOwn (option : String) (value : Value) : Prop :=
  match option with
  | "ddns-server" | "ddns-path" | "checkip-server" | "checkip-path" => value.IsString
  | "ddns-response" => value.IsStrings
  | "append-myip" => value.IsBoolean
  | _ => True

/-- An element of the provider sections: a table, an array that gives the options in order, or a
    date. -/
def FitsProvider : Value → Prop
  | .table _ entries => Entries.Fit FitsShared entries
  | .array _ items => Entries.Fit FitsShared (positions.zip items)
  | .dateTime => True
  | _ => False

/-- An element of the custom sections: a table or a date. -/
def FitsCustom : Value → Prop
  | .table _ entries => Entries.Fit FitsOwn entries ∧ Entries.Fit FitsShared entries
  | .dateTime => True
  | _ => False

/-- What is asked of global options. -/
def FitsGlobal (option : String) (value : Value) : Prop :=
  match option with
  | "period" => value.IsInteger
  | "forced-update" | "iterations" => value.IsNatural
  | "fake-address" => value.IsBoolean
  | "cache-dir" | "iface" => value.IsString
  | "provider" => value.IsArrayOf FitsProvider
  | "custom" => value.IsArrayOf FitsCustom
  | _ => True

/-! ## What is described -/

/-- The provider section that the options of a table describe. -/
def provider (entries : Entries) : ProviderSection where
  name := (entries.value? "name").map Value.text
  username := (entries.value? "username").map Value.text
  password := (entries.value? "password").map Value.text
  hostname := (entries.value? "hostname").elim [] Value.texts
  aliases := (entries.value? "alias").elim [] Value.texts
  ssl := (entries.value? "ssl").elim false Value.truth
  wildcard := (entries.value? "wildcard").elim false Value.truth

/-- The custom section that the options of a table describe. -/
def custom (entries : Entries) : CustomSection where
  common := provider entries
  appendMyip := (entries.value? "append-myip").elim false Value.truth
  ddnsServer := (entries.value? "ddns-server").map Value.text
  ddnsPath := (entries.value? "ddns-path").map Value.text
  ddnsResponse := (entries.value? "ddns-response").elim [] Value.texts
  checkipServer := (entries.value? "checkip-server").map Value.text
  checkipPath := (entries.value? "checkip-path").map Value.text

/-- The options of an element. An array gives them in order, a date gives none. -/
def entriesOf : Value → Entries
  | .table _ entries => entries
  | .array _ items => positions.zip items
  | _ => []

/-- The configuration that a document describes. -/
def config (document : Entries) : Config where
  period := (document.value? "period").elim Limits.defaultPeriod Value.number
  forcedUpdate := (document.value? "forced-update").elim Limits.defaultForcedUpdate (·.number.toNat)
  iterations := (document.value? "iterations").elim Limits.defaultIterations (·.number.toNat)
  fakeAddress := (document.value? "fake-address").elim false Value.truth
  cacheDir := (document.value? "cache-dir").elim Limits.defaultCacheDir Value.text
  iface := (document.value? "iface").map Value.text
  providers := (document.value? "provider").elim [] fun value =>
    value.elements.map fun element => provider (entriesOf element)
  customs := (document.value? "custom").elim [] fun value =>
    value.elements.map fun element => custom (entriesOf element)

/-! ## Reading on a condition -/

/-- It succeeds just where a condition holds, and then has this result. -/
def Reads {α : Type} (outcome : Except Misfit α) (fits : Prop) (result : α) : Prop :=
  ∀ given, outcome = .ok given ↔ fits ∧ given = result

namespace Reads

variable {α β : Type} {outcome : Except Misfit α} {fits : Prop} {result : α}

theorem pure (result : α) : Reads (.ok result) True result := by
  intro given
  rw [true_and, Except.ok.injEq, eq_comm]

theorem error (misfit : Misfit) (result : α) : Reads (.error misfit) False result := by
  intro given
  simp

theorem congr {fits' : Prop} (reads : Reads outcome fits result) (same : fits ↔ fits') :
    Reads outcome fits' result := by
  intro given
  rw [reads given, same]

/-- One reading after another. -/
theorem bind {next : α → Except Misfit β} {fits' : Prop} {result' : β}
    (reads : Reads outcome fits result) (reads' : Reads (next result) fits' result') :
    Reads (outcome >>= next) (fits ∧ fits') result' := by
  intro given
  cases outcome with
  | error misfit =>
      have misfits : ¬ fits := fun holds => by cases (reads result).mpr ⟨holds, rfl⟩
      simp [Bind.bind, Except.bind, misfits]
  | ok taken =>
      obtain ⟨holds, rfl⟩ := (reads taken).mp rfl
      simp only [holds, true_and]
      exact reads' given

theorem map {result' : β} (f : α → β) (reads : Reads outcome fits result)
    (same : f result = result') : Reads (outcome >>= fun taken => .ok (f taken)) fits result' := by
  subst same
  exact (reads.bind (pure (f result))).congr (and_iff_left trivial)

/-- Readings on the same condition and with the same result differ in their misfits alone. -/
theorem toOption_eq {outcome' : Except Misfit α} (reads : Reads outcome fits result)
    (reads' : Reads outcome' fits result) : outcome.toOption = outcome'.toOption := by
  have toOption (outcome : Except Misfit α) (given : α) :
      outcome.toOption = some given ↔ outcome = .ok given := by
    cases outcome <;> simp [Except.toOption]
  refine Option.ext fun given => ?_
  rw [toOption, toOption, reads given, reads' given]

/-- Each item by itself. -/
theorem mapM {read : α → Except Misfit β} {Fits : α → Prop} {described : α → β}
    (each : ∀ item, Reads (read item) (Fits item) (described item)) (items : List α) :
    Reads (items.mapM read) (∀ item ∈ items, Fits item) (items.map described) := by
  induction items with
  | nil => exact (pure []).congr (by simp)
  | cons item items ih =>
      rw [List.mapM_cons, List.map_cons]
      refine ((each item).bind (ih.map (described item :: ·) rfl)).congr ?_
      rw [List.forall_mem_cons]

/-- Each option in turn, where one more option changes what is described as it is set. -/
theorem foldlM {Fits : String → Value → Prop} (described : Entries → α)
    (set : α → String → Span → Value → Except Misfit α)
    (step : ∀ entries option place value, Reads (set (described entries) option place value)
      (Fits option value) (described (entries ++ [(option, place, value)])))
    (entries : Entries) :
    Reads (entries.foldlM (fun s (option, place, value) => set s option place value) (described []))
      (entries.Fit Fits) (described entries) := by
  -- From the end, since `described` is known for what has been read so far.
  induction entries using List.reverseRecOn with
  | nil => exact (pure (described [])).congr (by simp [Entries.Fit])
  | append_singleton entries entry ih =>
      obtain ⟨option, place, value⟩ := entry
      simp only [List.foldlM_append, List.foldlM_cons, List.foldlM_nil]
      refine (ih.bind ((step entries option place value).map id rfl)).congr ?_
      rw [Entries.fit_append_singleton]

end Reads

/-! ## Readers of values -/

theorem readString_reads (wanted : Wanted) (place : Span) (value : Value) :
    Reads (readString wanted place value) value.IsString value.text := by
  cases value with
  | string text => exact (Reads.pure text).congr (by simp [Value.IsString])
  | _ => exact (Reads.error _ _).congr (by simp [Value.IsString])

theorem readBoolean_reads (place : Span) (value : Value) :
    Reads (readBoolean place value) value.IsBoolean value.truth := by
  cases value with
  | boolean truth => exact (Reads.pure truth).congr (by simp [Value.IsBoolean])
  | _ => exact (Reads.error _ _).congr (by simp [Value.IsBoolean])

theorem readInteger_reads (place : Span) (value : Value) :
    Reads (readInteger place value) value.IsInteger value.number := by
  cases value with
  | integer number => exact (Reads.pure number).congr (by simp [Value.IsInteger])
  | _ => exact (Reads.error _ _).congr (by simp [Value.IsInteger])

theorem readNatural_reads (place : Span) (value : Value) :
    Reads (readNatural place value) value.IsNatural value.number.toNat := by
  cases value with
  | integer number =>
      have natural : (Value.integer number).IsNatural ↔ 0 ≤ number := by
        simp only [Value.IsNatural, Value.integer.injEq]
        exact ⟨fun ⟨n, same⟩ => by omega, fun above => ⟨number.toNat, by omega⟩⟩
      rw [readNatural]
      split
      · rename_i above
        exact (Reads.pure number.toNat).congr (by simp [natural, above])
      · rename_i below
        exact (Reads.error _ _).congr (by simp [natural, below])
  | _ => exact (Reads.error _ _).congr (by simp [Value.IsNatural])

theorem mapM_text?_of_strings {items : List (Span × Value)}
    (strings : ∀ item ∈ items, item.2.IsString) :
    (items.mapM fun item => text? item.2) = some (items.map fun item => item.2.text) := by
  induction items with
  | nil => rfl
  | cons item items ih =>
      obtain ⟨⟨text, first⟩, others⟩ := List.forall_mem_cons.mp strings
      rw [List.mapM_cons, List.map_cons, first, ih others]
      rfl

theorem strings_of_mapM_text? {items : List (Span × Value)} {texts : List String}
    (read : (items.mapM fun item => text? item.2) = some texts) :
    ∀ item ∈ items, item.2.IsString := by
  induction items generalizing texts with
  | nil => exact fun _ member => absurd member List.not_mem_nil
  | cons item items ih =>
      rw [List.mapM_cons] at read
      obtain ⟨text, first, read⟩ := Option.bind_eq_some_iff.mp read
      obtain ⟨texts, others, -⟩ := Option.bind_eq_some_iff.mp read
      refine List.forall_mem_cons.mpr ⟨?_, ih others⟩
      unfold text? at first
      split at first
      · rename_i same
        exact ⟨_, same⟩
      · cases first

theorem readStrings_reads (place : Span) (value : Value) :
    Reads (readStrings place value) value.IsStrings value.texts := by
  cases value with
  | string text => exact (Reads.pure [text]).congr (by simp [Value.IsStrings, Value.IsString])
  | array form items =>
      have listed : (Value.array form items).IsStrings ↔ ∀ item ∈ items, item.2.IsString := by
        simp [Value.IsStrings, Value.IsArrayOf, Value.IsString]
      have texts : (Value.array form items).texts = items.map fun item => item.2.text := by
        simp [Value.texts, Value.elements]
      by_cases strings : ∀ item ∈ items, item.2.IsString
      · have read : readStrings place (.array form items) =
            .ok (items.map fun item => item.2.text) := by
          simp only [readStrings, mapM_text?_of_strings strings]
        rw [read, texts]
        exact (Reads.pure _).congr (iff_of_true trivial (listed.mpr strings))
      · have none : (items.mapM fun item => text? item.2) = none :=
          Option.eq_none_iff_forall_ne_some.mpr fun _ read => strings (strings_of_mapM_text? read)
        have read : readStrings place (.array form items) = .error ⟨.notStringOrList, place⟩ := by
          simp only [readStrings, none]
        rw [read]
        exact (Reads.error _ _).congr (iff_of_false id (mt listed.mp strings))
  | _ => exact (Reads.error _ _).congr (by simp [Value.IsStrings, Value.IsString, Value.IsArrayOf])

theorem readItems_reads {α : Type} {read : Span → Value → Except Misfit α} {Fits : Value → Prop}
    {described : Value → α} (each : ∀ place value, Reads (read place value) (Fits value)
      (described value)) (place : Span) (value : Value) :
    Reads (readItems place value >>= fun items => items.mapM fun (place, value) => read place value)
      (value.IsArrayOf Fits) (value.elements.map described) := by
  cases value with
  | array form items =>
      have reads := Reads.mapM (fun item : Span × Value => each item.1 item.2) items
      have same : (Value.array form items).IsArrayOf Fits ↔ ∀ item ∈ items, Fits item.2 := by
        simp [Value.IsArrayOf]
      rw [Value.elements, List.map_map]
      exact reads.congr same.symm
  | _ => exact (Reads.error _ _).congr (by simp [Value.IsArrayOf])

/-! ## Readers of options -/

/-- The place of a value is for reports alone, and need not be where it stands. -/
theorem setShared_reads (entries : Entries) (option : String) (place place' : Span)
    (value : Value) :
    Reads (setShared (provider entries) option place' value) (FitsShared option value)
      (provider (entries ++ [(option, place, value)])) := by
  unfold setShared
  -- One case for each option that is read, then one for all others.
  split
  · exact (readString_reads .string place' value).map _ (by simp [provider])
  · exact (readString_reads .string place' value).map _ (by simp [provider])
  · exact (readString_reads .string place' value).map _ (by simp [provider])
  · exact (readStrings_reads place' value).map _ (by simp [provider])
  · exact (readStrings_reads place' value).map _ (by simp [provider])
  · exact (readBoolean_reads place' value).map _ (by simp [provider])
  · exact (readBoolean_reads place' value).map _ (by simp [provider])
  · rename_i name username password hostname aliases ssl wildcard
    have same : provider (entries ++ [(option, place, value)]) = provider entries := by
      simp only [provider, Entries.value?_append_singleton, if_neg name, if_neg username,
        if_neg password, if_neg hostname, if_neg aliases, if_neg ssl, if_neg wildcard]
    have unasked : FitsShared option value ↔ True := by
      simp [FitsShared]
    rw [same]
    exact (Reads.pure _).congr unasked.symm

theorem setOwn_reads (entries : Entries) (option : String) (place : Span) (value : Value) :
    Reads (setOwn { custom entries with common := {} } option place value) (FitsOwn option value)
      { custom (entries ++ [(option, place, value)]) with common := {} } := by
  unfold setOwn
  -- The shared options are left out on both sides: they are read in a pass of their own.
  split
  · exact (readBoolean_reads place value).map _ (by simp [custom])
  · exact (readString_reads .string place value).map _ (by simp [custom])
  · exact (readString_reads .string place value).map _ (by simp [custom])
  · exact (readStrings_reads place value).map _ (by simp [custom])
  · exact (readString_reads .string place value).map _ (by simp [custom])
  · exact (readString_reads .string place value).map _ (by simp [custom])
  · rename_i appendMyip ddnsServer ddnsPath ddnsResponse checkipServer checkipPath
    have same : custom (entries ++ [(option, place, value)]) =
        { custom entries with common := provider (entries ++ [(option, place, value)]) } := by
      simp only [custom, Entries.value?_append_singleton, if_neg appendMyip, if_neg ddnsServer,
        if_neg ddnsPath, if_neg ddnsResponse, if_neg checkipServer, if_neg checkipPath]
    have unasked : FitsOwn option value ↔ True := by
      simp [FitsOwn]
    rw [same]
    exact (Reads.pure _).congr unasked.symm

/-! ## Readers of sections -/

theorem readProviderTable_reads (entries : Entries) :
    Reads (readProviderTable entries) (Entries.Fit FitsShared entries) (provider entries) :=
  Reads.foldlM provider setShared
    (fun entries option place value => setShared_reads entries option place place value) entries

theorem readProviderList_reads (place : Span) (items : List (Span × Value)) :
    Reads (readProviderList place items) (Entries.Fit FitsShared (positions.zip items))
      (provider (positions.zip items)) :=
  Reads.foldlM provider
    (fun s option itemPlace value =>
      let place := if option ∈ ["hostname", "alias"] then place else itemPlace
      setShared s option place value)
    (fun entries option itemPlace value => setShared_reads entries option itemPlace _ value)
    (positions.zip items)

theorem readProvider_reads (place : Span) (value : Value) :
    Reads (readProvider place value) (FitsProvider value) (provider (entriesOf value)) := by
  cases value with
  | table form entries => exact readProviderTable_reads entries
  | array form items => exact readProviderList_reads place items
  | dateTime => exact Reads.pure _
  | _ => exact Reads.error _ _

theorem readCustomTable_reads (place : Span) (entries : Entries) :
    Reads (readCustomTable place entries)
      (Entries.Fit FitsOwn entries ∧ Entries.Fit FitsShared entries) (custom entries) := by
  have own := Reads.foldlM (fun entries => { custom entries with common := {} }) setOwn
    setOwn_reads entries
  have shared := Reads.foldlM provider (fun s option _ value => setShared s option place value)
    (fun entries option itsPlace value => setShared_reads entries option itsPlace place value) entries
  exact own.bind (shared.map _ rfl)

theorem readCustom_reads (place : Span) (value : Value) :
    Reads (readCustom place value) (FitsCustom value) (custom (entriesOf value)) := by
  cases value with
  | table form entries => exact readCustomTable_reads place entries
  | dateTime => exact Reads.pure _
  | _ => exact Reads.error _ _

/-! ## Readers of documents -/

theorem setGlobal_reads (document : Entries) (option : String) (place : Span) (value : Value) :
    Reads (setGlobal (config document) option place value) (FitsGlobal option value)
      (config (document ++ [(option, place, value)])) := by
  unfold setGlobal
  split
  · exact (readInteger_reads place value).map _ (by simp [config])
  · exact (readNatural_reads place value).map _ (by simp [config])
  · exact (readNatural_reads place value).map _ (by simp [config])
  · exact (readBoolean_reads place value).map _ (by simp [config])
  · exact (readString_reads .path place value).map _ (by simp [config])
  · exact (readString_reads .string place value).map _ (by simp [config])
  · have described : config (document ++ [("provider", place, value)]) = { config document with
        providers := value.elements.map fun element => provider (entriesOf element) } := by
      simp [config]
    have sections := (readItems_reads readProvider_reads place value).map
      (fun sections => { config document with providers := sections }) rfl
    rw [bind_assoc] at sections
    rw [described]
    exact sections
  · have described : config (document ++ [("custom", place, value)]) = { config document with
        customs := value.elements.map fun element => custom (entriesOf element) } := by
      simp [config]
    have sections := (readItems_reads readCustom_reads place value).map
      (fun sections => { config document with customs := sections }) rfl
    rw [bind_assoc] at sections
    rw [described]
    exact sections
  · rename_i period forcedUpdate iterations fakeAddress cacheDir iface providers customs
    have same : config (document ++ [(option, place, value)]) = config document := by
      simp only [config, Entries.value?_append_singleton, if_neg period, if_neg forcedUpdate,
        if_neg iterations, if_neg fakeAddress, if_neg cacheDir, if_neg iface, if_neg providers,
        if_neg customs]
    have unasked : FitsGlobal option value ↔ True := by
      simp [FitsGlobal]
    rw [same]
    exact (Reads.pure _).congr unasked.symm

theorem ofDocument_reads (document : Entries) :
    Reads (Config.ofDocument document) (Entries.Fit FitsGlobal document) (config document) :=
  Reads.foldlM config setGlobal setGlobal_reads document

theorem readStrings_single (place place' itsPlace : Span) (form : ArrayForm) (text : String) :
    readStrings place (.string text) = readStrings place' (.array form [(itsPlace, .string text)]) :=
  rfl

theorem readProvider_list (place place' : Span) (form : ArrayForm) (form' : TableForm)
    (items : List (Span × Value)) :
    (readProvider place (.array form items)).toOption =
      (readProvider place' (.table form' (positions.zip items))).toOption :=
  (readProvider_reads place (.array form items)).toOption_eq
    (readProvider_reads place' (.table form' (positions.zip items)))

theorem readProvider_of_readCustom {place place' : Span} {form form' : TableForm}
    {entries : Entries} {options : CustomSection}
    (read : readCustom place (.table form entries) = .ok options) :
    readProvider place' (.table form' entries) = .ok options.common := by
  obtain ⟨⟨-, shared⟩, rfl⟩ := (readCustom_reads place (.table form entries) options).mp read
  exact (readProvider_reads place' (.table form' entries) _).mpr ⟨shared, rfl⟩

end Schema

namespace Config

open Toml Schema

/-- A text is read just where it is a document whose values are of the types that their options ask
    for, and then as the configuration that the document describes. One string is read as an array
    of one, an array of options as the table that gives them in order, and what a custom section
    shares with provider sections as in a provider section with the same table. -/
theorem ofToml_reads_schema :
    (∀ text given, ofToml text = .ok given ↔
      ∃ document, Entries.ofString text = some document ∧ document.Fit FitsGlobal ∧
        given = config document) ∧
    (∀ place place' itsPlace form string, readStrings place (.string string) =
      readStrings place' (.array form [(itsPlace, .string string)])) ∧
    (∀ place place' form form' items, (readProvider place (.array form items)).toOption =
      (readProvider place' (.table form' (positions.zip items))).toOption) ∧
    (∀ place place' form form' entries options,
      readCustom place (.table form entries) = .ok options →
      readProvider place' (.table form' entries) = .ok options.common) := by
  refine ⟨?_, readStrings_single, readProvider_list, ?_⟩
  · intro text given
    unfold ofToml
    cases parsed : Entries.ofString text with
    | none => simp
    | some document =>
        have reads := ofDocument_reads document given
        dsimp only
        cases outcome : ofDocument document with
        | error misfit => simpa [outcome] using reads
        | ok described => simpa [outcome] using reads
  · intro place place' form form' entries options read
    exact readProvider_of_readCustom read

/-- A date among the provider sections is neither a table nor an array, and is read all the same. -/
theorem ofToml_date :
    ofToml "provider = [1979-05-27]" = .ok { providers := [{}] } ∧
    ∃ document value, Entries.ofString "provider = [1979-05-27]" = some document ∧
      document.value? "provider" = some value ∧
      ¬ value.IsArrayOf fun element =>
        (∃ form entries, element = .table form entries) ∨ ∃ form items, element = .array form items := by
  have document : Entries.ofString "provider = [1979-05-27]" =
      some [("provider", ⟨11, 23⟩, .array .bracketed [(⟨12, 22⟩, .dateTime)])] := by
    cbv
  refine ⟨?_, _, _, document, rfl, ?_⟩
  · simp only [ofToml, document]
    rfl
  · rintro ⟨_, _, ⟨⟩, each⟩
    have date := each _ List.mem_cons_self
    simp at date

end Config

end DynamicDns
