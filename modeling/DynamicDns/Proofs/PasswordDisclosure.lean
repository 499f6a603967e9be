import DynamicDns.Load
import DynamicDns.Plugin.Builtin
import DynamicDns.Proofs.FirstMisfit
import Mathlib

/-! # Passwords in messages about documents

A document that does not fit fails for its first value of the wrong type, and the
message quotes this value if it is a number, a truth value or a string. Passwords
are to be strings. So the message tells of a password just where the first value
that does not fit is one, and is a number or a truth value.
-/

namespace DynamicDns

namespace Toml

inductive ValueType where
  | string
  | integer
  | float
  | boolean
  | dateTime
  | array
  | table
  deriving Repr, DecidableEq

namespace Value

def type : Value → ValueType
  | .string _ => .string
  | .integer _ => .integer
  | .float _ => .float
  | .boolean _ => .boolean
  | .dateTime => .dateTime
  | .array _ _ => .array
  | .table _ _ => .table

/-- Numbers and truth values. -/
def IsBare : Value → Prop
  | .integer _ | .float _ | .boolean _ => True
  | _ => False

end Value

/-! ## Documents with other passwords -/

/-- The same option, or one for a password with another value of the same type. -/
inductive SameButPassword : String × Span × Value → String × Span × Value → Prop where
  | same (entry : String × Span × Value) : SameButPassword entry entry
  | password {place place' : Span} {value value' : Value} (type : value.type = value'.type) :
    SameButPassword ("password", place, value) ("password", place', value')

/-- The same section with another password. In an array of options the password is the third. Where
    the section ends may depend on it. -/
inductive SameButItsPassword : Span × Value → Span × Value → Prop where
  | same (element : Span × Value) : SameButItsPassword element element
  | table {place place' : Span} {form : TableForm} {entries entries' : Entries}
    (options : List.Forall₂ SameButPassword entries entries') :
    SameButItsPassword (place, .table form entries) (place', .table form entries')
  | list {place place' itsPlace itsPlace' : Span} {form : ArrayForm} {items : List (Span × Value)}
    {value value' : Value} (third : items[2]? = some (itsPlace, value))
    (type : value.type = value'.type) :
    SameButItsPassword (place, .array form items)
      (place', .array form (items.set 2 (itsPlace', value')))

/-- The same global option, or sections with other passwords. A section that stands alone, where an
    array of them is asked for, may have another one, too. -/
inductive SameButPasswords : String × Span × Value → String × Span × Value → Prop where
  | same (entry : String × Span × Value) : SameButPasswords entry entry
  | sections {option : String} {place place' : Span} {form : ArrayForm}
    {items items' : List (Span × Value)} (kind : option ∈ ["provider", "custom"])
    (elements : List.Forall₂ SameButItsPassword items items') :
    SameButPasswords (option, place, .array form items) (option, place', .array form items')
  | alone {option : String} {place place' : Span} {form : TableForm} {entries entries' : Entries}
    (kind : option ∈ ["provider", "custom"])
    (options : List.Forall₂ SameButPassword entries entries') :
    SameButPasswords (option, place, .table form entries) (option, place', .table form entries')

/-- The same document with other passwords of the same types. -/
def Entries.SameUpToPasswords (document document' : Entries) : Prop :=
  List.Forall₂ SameButPasswords document document'

end Toml

namespace Schema

open Toml

namespace Offender

def told (o : Offender) : String := o.misfit.cause.message

/-- It is a password, and a number or a truth value. -/
def IsBarePassword (o : Offender) : Prop := o.option = "password" ∧ o.value.IsBare

/-- Nothing offends in either place, or something that the same is said of, or at first a password
    that is a number or a truth value. -/
inductive Alike : Option Offender → Option Offender → Prop where
  | none : Alike none none
  | told {o o' : Offender} (same : o'.told = o.told) : Alike (some o) (some o')
  | password {o o' : Offender} (bare : o.IsBarePassword) : Alike (some o) (some o')

namespace Alike

variable {α : Type} {x x' y y' : Option Offender}

theorem refl (x : Option Offender) : Alike x x := by
  cases x with
  | none => exact none
  | some o => exact told rfl

theorem of_eq (same : x = x') : Alike x x' := by
  rw [same]
  exact refl x'

theorem eq_none (alike : Alike .none x) : x = .none := by
  cases alike
  rfl

theorem or (first : Alike x x') (second : Alike y y') : Alike (x.or y) (x'.or y') := by
  cases first with
  | none => exact second
  | told same => exact told same
  | password bare => exact password bare

theorem findSome? {search search' : α → Option Offender} {items items' : List α}
    (related : List.Forall₂ (fun a a' => Alike (search a) (search' a')) items items') :
    Alike (items.findSome? search) (items'.findSome? search') := by
  induction related with
  | nil => exact none
  | @cons a a' rest rest' first _ ih =>
      rw [List.findSome?_cons, List.findSome?_cons]
      generalize search a = x at first
      generalize search' a' = x' at first
      cases first with
      | none => exact ih
      | told same => exact told same
      | password bare => exact password bare

end Alike

end Offender

open Offender (Alike)

/-! ## What other passwords leave as it is -/

theorem password_alike {value value' : Value} (type : value.type = value'.type)
    (place place' : Span) :
    Alike (sharedOffender? "password" place value) (sharedOffender? "password" place' value') := by
  cases value with
  | string => cases value' <;> first | exact .none | cases type
  | integer | float | boolean =>
      cases value' <;> first | exact .password ⟨rfl, trivial⟩ | cases type
  | dateTime | array | table => cases value' <;> first | exact .told rfl | cases type

theorem readString_cause (wanted : Wanted) (place place' : Span) (value : Value) :
    (misfitOf (readString wanted place value)).map Misfit.cause =
      (misfitOf (readString wanted place' value)).map Misfit.cause := by
  cases value <;> rfl

theorem readBoolean_cause (place place' : Span) (value : Value) :
    (misfitOf (readBoolean place value)).map Misfit.cause =
      (misfitOf (readBoolean place' value)).map Misfit.cause := by
  cases value <;> rfl

theorem readStrings_cause (place place' : Span) (value : Value) :
    (misfitOf (readStrings place value)).map Misfit.cause =
      (misfitOf (readStrings place' value)).map Misfit.cause := by
  cases value with
  | array form items =>
      simp only [readStrings]
      cases items.mapM fun item => text? item.2 <;> rfl
  | _ => rfl

theorem setShared_cause (s : ProviderSection) (option : String) (place place' : Span)
    (value : Value) :
    (misfitOf (setShared s option place value)).map Misfit.cause =
      (misfitOf (setShared s option place' value)).map Misfit.cause := by
  unfold setShared
  -- One case for each option that is read, then one for all others.
  split <;> simp only [misfitOf_bind_ok]
  · exact readString_cause _ place place' value
  · exact readString_cause _ place place' value
  · exact readString_cause _ place place' value
  · exact readStrings_cause place place' value
  · exact readStrings_cause place place' value
  · exact readBoolean_cause place place' value
  · exact readBoolean_cause place place' value

/-- Where a value stands is not said of it. -/
theorem place_alike (option : String) (place place' : Span) (value : Value) :
    Alike (sharedOffender? option place value) (sharedOffender? option place' value) := by
  have causes := setShared_cause {} option place place' value
  unfold sharedOffender?
  generalize setShared {} option place value = outcome at causes
  generalize setShared {} option place' value = outcome' at causes
  cases outcome with
  | ok =>
      cases outcome' with
      | ok => exact .none
      | error => cases causes
  | error misfit =>
      cases outcome' with
      | ok => cases causes
      | error misfit' =>
          exact .told (congrArg MisfitCause.message (Option.some.inj causes).symm)

theorem shared_alike (report report' : String → Span → Span)
    {entry entry' : String × Span × Value} (related : SameButPassword entry entry') :
    Alike (sharedOffender? entry.1 (report entry.1 entry.2.1) entry.2.2)
      (sharedOffender? entry'.1 (report' entry'.1 entry'.2.1) entry'.2.2) := by
  cases related with
  | same => exact place_alike _ _ _ _
  | password type => exact password_alike type _ _

theorem own_eq {entry entry' : String × Span × Value} (related : SameButPassword entry entry') :
    ownOffender? entry.1 entry.2.1 entry.2.2 = ownOffender? entry'.1 entry'.2.1 entry'.2.2 := by
  cases related with
  | same => rfl
  | password type => rfl

theorem forall₂_zip_positions {items : List (Span × Value)} {place place' : Span}
    {value value' : Value} (third : items[2]? = some (place, value))
    (type : value.type = value'.type) :
    List.Forall₂ SameButPassword (positions.zip items)
      (positions.zip (items.set 2 (place', value'))) := by
  match items, third with
  | name :: username :: _ :: rest, rfl =>
      have others : ∀ entries, List.Forall₂ SameButPassword entries entries :=
        fun entries => List.forall₂_same.mpr fun entry _ => .same entry
      exact .cons (.same _) (.cons (.same _) (.cons (.password type) (others _)))

theorem provider_alike {element element' : Span × Value}
    (related : SameButItsPassword element element') :
    Alike (providerOffender? element.1 element.2) (providerOffender? element'.1 element'.2) := by
  cases related with
  | same => exact .refl _
  | table options => exact .findSome? (options.imp fun _ _ => shared_alike (fun _ place => place) fun _ place => place)
  | list third type =>
      exact .findSome? ((forall₂_zip_positions third type).imp fun _ _ =>
        shared_alike (fun option itemPlace => if option ∈ ["hostname", "alias"] then _ else itemPlace)
          fun option itemPlace => if option ∈ ["hostname", "alias"] then _ else itemPlace)

theorem custom_alike {element element' : Span × Value}
    (related : SameButItsPassword element element') :
    Alike (customOffender? element.1 element.2) (customOffender? element'.1 element'.2) := by
  cases related with
  | same => exact .refl _
  | table options =>
      apply Alike.or
      · exact .findSome? (options.imp fun _ _ related => .of_eq (own_eq related))
      · exact .findSome? (options.imp fun _ _ => shared_alike (fun _ _ => _) fun _ _ => _)
  | list third type => exact .told rfl

theorem global_alike {entry entry' : String × Span × Value}
    (related : SameButPasswords entry entry') :
    Alike (globalOffender? entry.1 entry.2.1 entry.2.2)
      (globalOffender? entry'.1 entry'.2.1 entry'.2.2) := by
  cases related with
  | same => exact .refl _
  | sections kind elements =>
      rcases List.mem_pair.mp kind with rfl | rfl
      · exact .findSome? (elements.imp fun _ _ => provider_alike)
      · exact .findSome? (elements.imp fun _ _ => custom_alike)
  | alone kind options =>
      rcases List.mem_pair.mp kind with rfl | rfl
      · exact .told rfl
      · exact .told rfl

theorem firstOffender?_alike {document document' : Entries}
    (related : document.SameUpToPasswords document') :
    Alike (firstOffender? document) (firstOffender? document') :=
  .findSome? (related.imp fun _ _ => global_alike)

/-! ## Passwords that are told -/

theorem option_of_offender? {α : Type} {option : String} {value : Value}
    {outcome : Except Misfit α} {o : Offender} (found : offender? option value outcome = some o) :
    o.option = option ∧ o.value = value := by
  obtain ⟨misfit, -, rfl⟩ := Option.map_eq_some_iff.mp found
  exact ⟨rfl, rfl⟩

/-- What is said of a value where a string is asked for. -/
def saidForString (value : Value) : String := (MisfitCause.wrongType value.found .string).message

theorem exists_said_differently {value : Value} (bare : value.IsBare) :
    ∃ other : Value, value.type = other.type ∧ other.IsBare ∧
      saidForString other ≠ saidForString value := by
  -- Two values of the type that are told apart are enough: one of them is told apart from this one.
  have oneOf {one two : Value} (differ : saidForString one ≠ saidForString two) :
      saidForString one ≠ saidForString value ∨ saidForString two ≠ saidForString value := by
    by_contra both
    push Not at both
    exact differ (both.1.trans both.2.symm)
  cases value with
  | integer =>
      have differ : saidForString (.integer 0) ≠ saidForString (.integer 1) := by decide
      rcases oneOf differ with other | other
      · exact ⟨.integer 0, rfl, trivial, other⟩
      · exact ⟨.integer 1, rfl, trivial, other⟩
  | float =>
      have differ : saidForString (.float .nan) ≠ saidForString (.float (.infinite false)) := by
        decide
      rcases oneOf differ with other | other
      · exact ⟨.float .nan, rfl, trivial, other⟩
      · exact ⟨.float (.infinite false), rfl, trivial, other⟩
  | boolean =>
      have differ : saidForString (.boolean true) ≠ saidForString (.boolean false) := by decide
      rcases oneOf differ with other | other
      · exact ⟨.boolean true, rfl, trivial, other⟩
      · exact ⟨.boolean false, rfl, trivial, other⟩
  | string | dateTime | array | table => exact bare.elim

/-- If the search finds a password that is a number or a truth value, then in a related item it finds
    something that is told differently. -/
def Betrays {α : Type} (related : α → α → Prop) (search : α → Option Offender) (a : α) : Prop :=
  ∀ o, search a = some o → o.IsBarePassword →
    ∃ a' o', related a a' ∧ search a' = some o' ∧ o'.told ≠ o.told

theorem Betrays.findSome? {α : Type} {related : α → α → Prop} {search : α → Option Offender}
    (same : ∀ a, related a a) (each : ∀ a, Betrays related search a) (items : List α) :
    Betrays (List.Forall₂ related) (List.findSome? search) items := by
  intro o found bare
  obtain ⟨before, a, after, rfl, here, none⟩ := List.findSome?_eq_some_iff.mp found
  obtain ⟨a', o', alike, there, differ⟩ := each a o here bare
  have kept (items : List α) : List.Forall₂ related items items :=
    List.forall₂_same.mpr fun a _ => same a
  refine ⟨before ++ a' :: after, o', ?_, ?_, differ⟩
  · exact List.rel_append (kept before) (.cons alike (kept after))
  · exact List.findSome?_eq_some_iff.mpr ⟨before, a', after, rfl, there, none⟩

theorem sharedOffender?_password {value : Value} (bare : value.IsBare) (place : Span) :
    sharedOffender? "password" place value =
      some ⟨"password", value, ⟨.wrongType value.found .string, place⟩⟩ := by
  cases value with
  | integer | float | boolean => rfl
  | string | dateTime | array | table => exact bare.elim

theorem shared_betrays (report : String → Span → Span) (entry : String × Span × Value) :
    Betrays SameButPassword
      (fun entry => sharedOffender? entry.1 (report entry.1 entry.2.1) entry.2.2) entry := by
  obtain ⟨option, place, value⟩ := entry
  rintro o found ⟨secret, bare⟩
  obtain ⟨named, given⟩ := option_of_offender? found
  obtain rfl : option = "password" := named.symm.trans secret
  rw [given] at bare
  obtain ⟨other, type, otherBare, differ⟩ := exists_said_differently bare
  dsimp only at found
  rw [sharedOffender?_password bare] at found
  cases found
  exact ⟨("password", place, other), _, .password type, sharedOffender?_password otherBare _, differ⟩

/-- In an array of options the one for the password is the third. -/
theorem third_of_zip_positions {items : List (Span × Value)} {item : Span × Value}
    {before after : Entries} (split : positions.zip items = before ++ ("password", item) :: after) :
    items[2]? = some item ∧
      ∀ other, positions.zip (items.set 2 other) = before ++ ("password", other) :: after := by
  have here : (positions.zip items)[before.length]? = some ("password", item) := by
    rw [split, List.getElem?_append_right (Nat.le_refl _), Nat.sub_self]
    rfl
  obtain ⟨named, given⟩ := List.getElem?_zip_eq_some.mp here
  have distinct : positions.Nodup := by decide
  have third : 2 = before.length :=
    (List.getElem?_inj (by decide : 2 < positions.length) distinct).mp named.symm
  rw [← third] at given
  refine ⟨given, ?_⟩
  intro other
  have zipped : positions.zip (items.set 2 other) =
      (positions.zip items).set 2 ("password", other) := by
    match items, given with
    | _ :: _ :: _ :: _, _ => rfl
  rw [zipped, split, third, List.set_append_right _ _ (Nat.le_refl _), Nat.sub_self]
  rfl

/-- What is no section is not found for a password. -/
theorem not_password {α : Type} {option : String} {value : Value} {outcome : Except Misfit α}
    {o : Offender} (found : offender? option value outcome = some o) (bare : o.IsBarePassword) :
    option = "password" :=
  (option_of_offender? found).1.symm.trans bare.1

theorem provider_betrays (element : Span × Value) :
    Betrays SameButItsPassword (fun element => providerOffender? element.1 element.2) element := by
  obtain ⟨place, value⟩ := element
  intro o found bare
  cases value with
  | table form entries =>
      obtain ⟨entries', o', options, there, differ⟩ :=
        Betrays.findSome? .same (shared_betrays fun _ place => place) entries o found bare
      exact ⟨(place, .table form entries'), o', .table options, there, differ⟩
  | array form items =>
      obtain ⟨before, ⟨option, itsPlace, value⟩, after, split, here, none⟩ :=
        List.findSome?_eq_some_iff.mp found
      obtain rfl : option = "password" := not_password here bare
      -- Without names the options go by their places, and only the third may be exchanged.
      obtain ⟨third, exchanged⟩ := third_of_zip_positions split
      obtain ⟨entry', o', related, there, differ⟩ := shared_betrays
        (fun option itemPlace => if option ∈ ["hostname", "alias"] then place else itemPlace)
        ("password", itsPlace, value) o here bare
      cases related with
      | same => exact absurd (congrArg Offender.told (Option.some.inj (there.symm.trans here))) differ
      | @password _ itsPlace' _ value' type =>
          refine ⟨(place, .array form (items.set 2 (itsPlace', value'))), o', .list third type, ?_,
            differ⟩
          exact List.findSome?_eq_some_iff.mpr ⟨before, _, after, exchanged _, there, none⟩
  | _ => exact absurd (not_password found bare) (by decide)

theorem own_not_password {entries : Entries} {o : Offender}
    (found : entries.findSome? (fun (option, place, value) => ownOffender? option place value) =
      some o) : ¬ o.IsBarePassword := by
  intro bare
  obtain ⟨⟨option, place, value⟩, -, here⟩ := List.exists_of_findSome?_eq_some found
  obtain rfl : option = "password" := not_password here bare
  cases here

theorem custom_betrays (element : Span × Value) :
    Betrays SameButItsPassword (fun element => customOffender? element.1 element.2) element := by
  obtain ⟨place, value⟩ := element
  intro o found bare
  cases value with
  | table form entries =>
      dsimp only [customOffender?] at found
      -- The options of custom sections are read first. What is found among them is no password, and
      -- other passwords leave them as they are.
      cases own : entries.findSome? fun (option, place, value) => ownOffender? option place value with
      | some o' =>
          rw [own] at found
          cases found
          exact absurd bare (own_not_password own)
      | none =>
          rw [own] at found
          obtain ⟨entries', o', options, there, differ⟩ :=
            Betrays.findSome? .same (shared_betrays fun _ _ => place) entries o found bare
          have own' := Alike.findSome? (options.imp fun _ _ related => .of_eq (own_eq related))
          rw [own] at own'
          refine ⟨(place, .table form entries'), o', .table options, ?_, differ⟩
          dsimp only [customOffender?]
          rw [own'.eq_none]
          exact there
  | _ => exact absurd (not_password found bare) (by decide)

theorem global_betrays (entry : String × Span × Value) :
    Betrays SameButPasswords (fun entry => globalOffender? entry.1 entry.2.1 entry.2.2) entry := by
  obtain ⟨option, place, value⟩ := entry
  intro o found bare
  dsimp only at found
  unfold globalOffender? at found
  split at found
  · cases value with
    | array form items =>
        obtain ⟨items', o', elements, there, differ⟩ :=
          Betrays.findSome? .same provider_betrays items o found bare
        exact ⟨("provider", place, .array form items'), o', .sections (by decide) elements, there,
          differ⟩
    | _ => exact absurd (not_password found bare) (by decide)
  · cases value with
    | array form items =>
        obtain ⟨items', o', elements, there, differ⟩ :=
          Betrays.findSome? .same custom_betrays items o found bare
        exact ⟨("custom", place, .array form items'), o', .sections (by decide) elements, there,
          differ⟩
    | _ => exact absurd (not_password found bare) (by decide)
  · obtain rfl := not_password found bare
    cases found

theorem firstOffender?_betrays (document : Entries) :
    Betrays Entries.SameUpToPasswords firstOffender? document :=
  .findSome? .same global_betrays document

/-- With other passwords the document fails, too, and the same is said of it. -/
def HidesPasswords (document : Entries) (misfit : Misfit) : Prop :=
  ∀ document', document.SameUpToPasswords document' →
    ∃ misfit', Config.ofDocument document' = .error misfit' ∧
      misfit'.cause.message = misfit.cause.message

/-- The first value that does not fit is a password, and is a number or a truth value. -/
def TellsPassword (document : Entries) : Prop :=
  ∃ o, firstOffender? document = some o ∧ o.IsBarePassword

theorem ofDocument_eq_error_iff {document : Entries} {misfit : Misfit} :
    Config.ofDocument document = .error misfit ↔
      ∃ o, firstOffender? document = some o ∧ o.misfit = misfit := by
  have searched := misfitOf_ofDocument document
  cases outcome : Config.ofDocument document with
  | ok config =>
      rw [outcome] at searched
      simp [Option.map_eq_none_iff.mp searched.symm]
  | error other =>
      rw [outcome] at searched
      obtain ⟨o, found, rfl⟩ := Option.map_eq_some_iff.mp searched.symm
      simp [found]

theorem hidesPasswords_iff {document : Entries} {misfit : Misfit}
    (failed : Config.ofDocument document = .error misfit) :
    HidesPasswords document misfit ↔ ¬ TellsPassword document := by
  obtain ⟨o, found, rfl⟩ := ofDocument_eq_error_iff.mp failed
  constructor
  · rintro hides ⟨o', found', bare⟩
    obtain rfl : o = o' := Option.some.inj (found.symm.trans found')
    obtain ⟨document', other, related, there, differ⟩ :=
      firstOffender?_betrays document o found bare
    obtain ⟨misfit', failed', same⟩ := hides document' related
    obtain ⟨other', there', rfl⟩ := ofDocument_eq_error_iff.mp failed'
    obtain rfl : other = other' := Option.some.inj (there.symm.trans there')
    exact differ same
  · intro hidden document' related
    have alike := firstOffender?_alike related
    rw [found] at alike
    generalize searched : firstOffender? document' = found' at alike
    cases alike with
    | @told _ o' same => exact ⟨o'.misfit, ofDocument_eq_error_iff.mpr ⟨o', searched, rfl⟩, same⟩
    | password bare => exact absurd ⟨o, found, bare⟩ hidden

end Schema

namespace LoadedConfig

open Toml Schema

variable {find : Lookup} {overrides : Overrides} {origin text : String} {document : Entries}
  {misfit : Misfit}

theorem ofToml_of_misfit (parsed : Entries.ofString text = some document)
    (failed : Config.ofDocument document = .error misfit) :
    Config.ofToml text = .error (.misfit misfit.cause (.ofSpan text misfit.span)) := by
  unfold Config.ofToml
  simp only [parsed, failed]

theorem value_ofText_of_misfit (parsed : Entries.ofString text = some document)
    (failed : Config.ofDocument document = .error misfit) :
    (ofText find overrides origin text).value =
      .error (.malformed origin (.misfit misfit.cause (.ofSpan text misfit.span))) := by
  unfold ofText
  rw [ofToml_of_misfit parsed failed]
  rfl

/-- The load of a document that does not fit fails for its first value that does not. What is said of
    it is the same with any other passwords of the same types just where this value is not a
    password, or is neither a number nor a truth value. All else in the message is the excerpt. -/
theorem ofText_hides_passwords_iff (parsed : Entries.ofString text = some document)
    (failed : Config.ofDocument document = .error misfit) :
    let excerpt := Excerpt.ofSpan text misfit.span
    (ofText find overrides origin text).value =
      .error (.malformed origin (.misfit misfit.cause excerpt)) ∧
    (HidesPasswords document misfit ↔ ¬ TellsPassword document) ∧
    (¬ TellsPassword document → ∀ text' document', Entries.ofString text' = some document' →
      document.SameUpToPasswords document' → ∃ cause excerpt',
        (ofText find overrides origin text').value =
          .error (.malformed origin (.misfit cause excerpt')) ∧
        cause.message = misfit.cause.message ∧
        ((DocumentError.misfit cause excerpt').message =
          (DocumentError.misfit misfit.cause excerpt).message ↔
            excerpt'.display = excerpt.display)) := by
  intro excerpt
  refine ⟨value_ofText_of_misfit parsed failed, hidesPasswords_iff failed, ?_⟩
  intro hidden text' document' parsed' related
  obtain ⟨misfit', failed', same⟩ := (hidesPasswords_iff failed).mpr hidden document' related
  refine ⟨misfit'.cause, _, value_ofText_of_misfit parsed' failed', same, ?_⟩
  simp only [DocumentError.message, same, String.append_left_inj]

theorem ofText_hides_passwords_iff_quoted : ∃ document misfit,
    Entries.ofString "[[provider]]\npassword = \"p\"\nssl = 1" = some document ∧
    Config.ofDocument document = .error misfit ∧
    misfit.cause.message = "invalid type: integer `1`, expected a boolean" ∧
    HidesPasswords document misfit := by
  have parsed : Entries.ofString "[[provider]]\npassword = \"p\"\nssl = 1" =
      some [("provider", ⟨0, 35⟩, .array .headers [(⟨0, 35⟩, .table .header [
        ("password", ⟨24, 27⟩, .string "p"), ("ssl", ⟨34, 35⟩, .integer 1)])])] := by
    cbv
  have failed : Config.ofDocument [("provider", ⟨0, 35⟩, .array .headers [(⟨0, 35⟩, .table .header [
      ("password", ⟨24, 27⟩, .string "p"), ("ssl", ⟨34, 35⟩, .integer 1)])])] =
      .error ⟨.wrongType (.integer 1) .boolean, ⟨34, 35⟩⟩ := rfl
  obtain ⟨-, hides, -⟩ := @ofText_hides_passwords_iff PluginRegistry.builtin.lookup {} inlineOrigin
    _ _ _ parsed failed
  refine ⟨_, _, parsed, failed, by decide, hides.mpr ?_⟩
  rintro ⟨o, found, secret, -⟩
  cases found
  exact absurd secret (by decide)

theorem not_hidesPasswords_bare : ∃ document document' place place',
    Entries.ofString "[[provider]]\npassword = 73313" = some document ∧
    Entries.ofString "[[provider]]\npassword = 31337" = some document' ∧
    document.SameUpToPasswords document' ∧
    (ofString PluginRegistry.builtin.lookup {} "[[provider]]\npassword = 73313").value =
      .error (.malformed inlineOrigin (.misfit (.wrongType (.integer 73313) .string) place)) ∧
    (ofString PluginRegistry.builtin.lookup {} "[[provider]]\npassword = 31337").value =
      .error (.malformed inlineOrigin (.misfit (.wrongType (.integer 31337) .string) place')) ∧
    (MisfitCause.wrongType (.integer 73313) .string).message ≠
      (MisfitCause.wrongType (.integer 31337) .string).message := by
  have parsed : Entries.ofString "[[provider]]\npassword = 73313" =
      some [("provider", ⟨0, 29⟩, .array .headers [(⟨0, 29⟩, .table .header [
        ("password", ⟨24, 29⟩, .integer 73313)])])] := by
    cbv
  have parsed' : Entries.ofString "[[provider]]\npassword = 31337" =
      some [("provider", ⟨0, 29⟩, .array .headers [(⟨0, 29⟩, .table .header [
        ("password", ⟨24, 29⟩, .integer 31337)])])] := by
    cbv
  refine ⟨_, _, _, _, parsed, parsed', ?_, value_ofText_of_misfit parsed rfl,
    value_ofText_of_misfit parsed' rfl, by decide⟩
  exact .cons (.sections (by decide) (.cons (.table (.cons (.password rfl) .nil)) .nil)) .nil

end LoadedConfig

end DynamicDns
