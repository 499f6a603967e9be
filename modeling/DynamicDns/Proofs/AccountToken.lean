import DynamicDns.Credentials
import DynamicDns.Proofs.Base64Text
import DynamicDns.Proofs.EndpointShape

/-! # Tokens of accounts

Whatever was stored before, a token that is made stands for the username and the password that are
held at the time, and these never change. Without a password none is made. Where usernames have no
colon, a token tells both texts apart from all others.
-/

namespace DynamicDns

/-! ## Bytes of a text -/

section Bytes

variable {first second : String}

/-- What the loop behind the list of bytes adds to the bytes it has collected so far. -/
theorem toList_loop (bytes : ByteArray) (i : Nat) (collected : List UInt8) :
    ByteArray.toList.loop bytes i collected = collected.reverse ++ bytes.data.toList.drop i := by
  fun_induction ByteArray.toList.loop bytes i collected with
  | case1 i collected inside ih =>
    have present : i < bytes.data.toList.length := inside
    rw [ih, List.drop_eq_getElem_cons present, List.reverse_cons, List.append_assoc]
    simp [ByteArray.get!, inside]
  | case2 i collected outside =>
    have past : bytes.data.toList.length ≤ i := Nat.not_lt.mp outside
    rw [List.drop_eq_nil_of_le past, List.append_nil]

theorem toList_eq_data (bytes : ByteArray) : bytes.toList = bytes.data.toList :=
  toList_loop bytes 0 []

theorem toUTF8_append (first second : String) :
    (first ++ second).toUTF8.toList = first.toUTF8.toList ++ second.toUTF8.toList := by
  simp only [String.toUTF8_eq_toByteArray, toList_eq_data, String.toByteArray_append,
    ByteArray.data_append, Array.toList_append]

theorem toUTF8_inj (same : first.toUTF8.toList = second.toUTF8.toList) : first = second := by
  rw [toList_eq_data, toList_eq_data] at same
  exact String.toByteArray_inj.mp (ByteArray.ext (Array.toList_inj.mp same))

end Bytes

/-! ## What a token stands for -/

/-- Base64 with padding, of the bytes of a username, a colon and the bytes of a password. -/
structure StandsFor (token username password : String) : Prop where
  padded : Base64.Padded token.toList
  decoded : Base64.decode token.toList =
    some (username.toUTF8.toList ++ ":".toUTF8.toList ++ password.toUTF8.toList)

variable {token username username' password password' : String}

/-- There is one token for a username and a password, and it is the one that is made. -/
theorem standsFor_iff :
    StandsFor token username password ↔ token = basicToken username password := by
  constructor
  · intro stands
    have written := Base64.decode_eq_some_iff.mp stands.decoded
    rw [← toUTF8_append, ← toUTF8_append] at written
    rw [basicToken, ← written, String.ofList_toList]
  · rintro rfl
    constructor
    · rw [basicToken, String.toList_ofList]
      exact Base64.padded_encode _
    · rw [basicToken, String.toList_ofList, Base64.decode_encode, toUTF8_append, toUTF8_append]

example : basicToken "Aladdin" "open sesame" = "QWxhZGRpbjpvcGVuIHNlc2FtZQ==" := by
  decide +kernel

/-- The first colon ends the username. -/
theorem StandsFor.pair_unique (first : StandsFor token username password)
    (second : StandsFor token username' password') (free : ':' ∉ username.toList)
    (free' : ':' ∉ username'.toList) : username = username' ∧ password = password' := by
  have bytes := Option.some.inj (first.decoded.symm.trans second.decoded)
  rw [← toUTF8_append, ← toUTF8_append, ← toUTF8_append, ← toUTF8_append] at bytes
  have texts := congrArg String.toList (toUTF8_inj bytes)
  rw [String.append_assoc, String.append_assoc, String.toList_append, String.toList_append,
    String.toList_append, String.toList_append] at texts
  obtain ⟨usernames, passwords⟩ := append_mark_inj free free' texts
  exact ⟨String.toList_inj.mp usernames, String.toList_inj.mp passwords⟩

namespace Credentials

/-! ## Histories of credentials -/

/-- What may happen to the token that credentials keep. -/
inductive TokenStep where
  | encode
  | set (token : String)
  | clear

def perform (c : Credentials) : TokenStep → Credentials
  | .encode => c.encode.1
  | .set token => c.setToken token
  | .clear => c.clearToken.1

/-- The credentials after all these steps. -/
def after (c : Credentials) (steps : List TokenStep) : Credentials :=
  steps.foldl perform c

/-- The same account, whatever token is kept for it. -/
structure SameAccount (c d : Credentials) : Prop where
  username : d.username = c.username
  password : d.password = c.password

theorem SameAccount.trans {c d e : Credentials} (first : c.SameAccount d)
    (second : d.SameAccount e) : c.SameAccount e where
  username := second.username.trans first.username
  password := second.password.trans first.password

theorem perform_sameAccount (c : Credentials) (step : TokenStep) :
    c.SameAccount (c.perform step) := by
  cases step with
  | encode => exact ⟨c.encode_username, c.encode_password⟩
  | set token => exact ⟨rfl, rfl⟩
  | clear => exact ⟨rfl, rfl⟩

theorem after_sameAccount (start : Credentials) (steps : List TokenStep) :
    start.SameAccount (start.after steps) := by
  induction steps generalizing start with
  | nil => exact ⟨rfl, rfl⟩
  | cons step steps ih => exact (perform_sameAccount start step).trans (ih (start.perform step))

theorem after_usernameText (start : Credentials) (steps : List TokenStep) :
    (start.after steps).usernameText = start.usernameText := by
  rw [usernameText, (after_sameAccount start steps).username, usernameText]

section Made

variable {start : Credentials} {password : BoundedString Limits.passwordBytes}

theorem encode_after_of_some (held : start.password = some password) (steps : List TokenStep) :
    (start.after steps).encode =
      ({ start with token := some (basicToken start.usernameText password.text) }, true) := by
  obtain ⟨username, same⟩ := after_sameAccount start steps
  rw [encode_of_some (same.trans held), after_usernameText, username, same]

theorem encode_after_of_none (absent : start.password = none) (steps : List TokenStep) :
    (start.after steps).encode = (start.after steps, false) :=
  encode_of_none ((after_sameAccount start steps).password.trans absent)

end Made

/-- Whatever steps came before, the answer tells whether a password is held. If so, the token is
    then the one for the username and the password, and otherwise nothing changes. Credentials with
    colon-free usernames come to one token only if they have the same texts. -/
theorem encode_after (start : Credentials) (steps : List TokenStep) :
    start.SameAccount (start.after steps) ∧
    ((start.after steps).encode.2 = true ↔ ∃ password, start.password = some password) ∧
    ((start.after steps).encode.2 = false → (start.after steps).encode.1 = start.after steps) ∧
    (∀ password, start.password = some password →
      ∃ token, (start.after steps).encode.1 = { start with token := some token } ∧
        StandsFor token start.usernameText password.text) ∧
    ∀ (other : Credentials) (otherSteps : List TokenStep)
      (password otherPassword : BoundedString Limits.passwordBytes),
      start.password = some password → other.password = some otherPassword →
      ':' ∉ start.usernameText.toList → ':' ∉ other.usernameText.toList →
      ((start.after steps).encode.1.token = (other.after otherSteps).encode.1.token ↔
        start.usernameText = other.usernameText ∧ password.text = otherPassword.text) := by
  refine ⟨after_sameAccount start steps, ?_, ?_, ?_, ?_⟩
  · cases held : start.password with
    | none => simp [encode_after_of_none held]
    | some password => simp [encode_after_of_some held]
  · intro refused
    cases held : start.password with
    | none => rw [encode_after_of_none held]
    | some password =>
      rw [encode_after_of_some held] at refused
      cases refused
  · intro password held
    refine ⟨basicToken start.usernameText password.text, ?_, standsFor_iff.mpr rfl⟩
    rw [encode_after_of_some held]
  · intro other otherSteps password otherPassword held otherHeld free otherFree
    rw [encode_after_of_some held, encode_after_of_some otherHeld]
    constructor
    · intro same
      have one : basicToken start.usernameText password.text =
        basicToken other.usernameText otherPassword.text := Option.some.inj same
      have stands := standsFor_iff.mpr one
      exact (standsFor_iff.mpr rfl).pair_unique stands free otherFree
    · rintro ⟨usernames, passwords⟩
      rw [usernames, passwords]

/-- A colon in the password does not hide where the username ends. -/
theorem encode_after_colon :
    let start := ofStrings (some "Aladdin") (some "open:sesame")
    let other := ofStrings (some "Aladdin") (some "open sesame")
    let steps := [TokenStep.set "stale", .encode, .clear]
    (start.after steps).encode.2 = true ∧
      (∃ token, (start.after steps).encode.1 = { start with token := some token } ∧
        StandsFor token "Aladdin" "open:sesame") ∧
      (start.after steps).encode.1.token ≠ (other.after []).encode.1.token := by
  intro start other steps
  have held : start.password = some ⟨"open:sesame", by decide⟩ := by rfl
  have otherHeld : other.password = some ⟨"open sesame", by decide⟩ := by rfl
  obtain ⟨_, answer, _, made, unique⟩ := encode_after start steps
  refine ⟨answer.mpr ⟨_, held⟩, made _ held, ?_⟩
  intro same
  have texts := (unique other [] _ _ held otherHeld (by decide) (by decide)).mp same
  exact absurd texts.2 (by decide)

end Credentials

end DynamicDns
