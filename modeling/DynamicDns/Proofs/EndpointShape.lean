import DynamicDns.Endpoint
import Mathlib.Data.List.TakeWhile

/-! # Shape of endpoints

An endpoint that was read from a text has a name without a colon, of no more
bytes than a name may have, and a port that can be connected to: the port of the
text if it is one, and the HTTP port otherwise.
-/

namespace DynamicDns

/-! ## Texts up to a mark -/

section Mark

variable {mark : Char} {front front' rest rest' : List Char}

theorem ne_mark (free : mark ∉ front) : ∀ c ∈ front, (c != mark) = true := by
  intro c member
  simpa using ne_of_mem_of_not_mem member free

theorem takeWhile_mark (free : mark ∉ front) (rest : List Char) :
    (front ++ mark :: rest).takeWhile (· != mark) = front := by
  rw [List.takeWhile_append_of_pos (ne_mark free), List.takeWhile_cons_of_neg (by simp),
    List.append_nil]

theorem dropWhile_mark (free : mark ∉ front) (rest : List Char) :
    (front ++ mark :: rest).dropWhile (· != mark) = mark :: rest := by
  rw [List.dropWhile_append_of_pos (ne_mark free), List.dropWhile_cons_of_neg (by simp)]

/-- The first mark of a text tells what stands on both sides of it. -/
theorem append_mark_inj (free : mark ∉ front) (free' : mark ∉ front')
    (same : front ++ mark :: rest = front' ++ mark :: rest') : front = front' ∧ rest = rest' := by
  constructor
  · rw [← takeWhile_mark free rest, same, takeWhile_mark free' rest']
  · have marked := dropWhile_mark free rest
    rw [same, dropWhile_mark free' rest'] at marked
    exact (List.cons.inj marked).2.symm

end Mark

/-! ## Endpoints -/

namespace Endpoint

/-- What holds of every endpoint that was read from a text. -/
structure WellFormed (e : Endpoint) : Prop where
  colon_free : ':' ∉ e.name.text.toList
  name_size : e.name.text.utf8ByteSize ≤ 255
  port_range : 1 ≤ e.port ∧ e.port ≤ 65535

theorem colon_not_mem_hostPart (server : String) : ':' ∉ (hostPart server).toList := by
  intro member
  rw [hostPart, String.toList_ofList] at member
  simpa using List.mem_takeWhile_imp member

theorem readPort_range {text : List Char} {port : Nat} (read : readPort text = some port) :
    1 ≤ port ∧ port ≤ 65535 := by
  simp only [readPort, Option.ite_none_right_eq_some, Option.some.injEq] at read
  obtain ⟨⟨-, -, positive, small⟩, rfl⟩ := read
  exact ⟨positive, Nat.le_of_lt_succ small⟩

theorem resolvedPort_range (text : List Char) :
    1 ≤ (readPort text).getD Limits.httpPort ∧ (readPort text).getD Limits.httpPort ≤ 65535 := by
  cases read : readPort text with
  | none => decide
  | some port => exact readPort_range read

theorem resolve_of_long {server : String}
    (long : Limits.nameBytes < (hostPart server).utf8ByteSize) :
    resolve server = .error (.tooLong ⟨(hostPart server).utf8ByteSize, Limits.nameBytes⟩) := by
  simp only [resolve, BoundedString.ofString_eq_error long]

theorem resolve_of_short {server : String}
    (short : ¬ Limits.nameBytes < (hostPart server).utf8ByteSize) :
    resolve server = .ok ⟨⟨hostPart server, Nat.not_lt.mp short⟩,
      (readPort (portPart server)).getD Limits.httpPort⟩ := by
  simp only [resolve, BoundedString.ofString_eq_ok (Nat.not_lt.mp short)]

/-- An endpoint that was read from a text has the host of the text and the port that it spells. -/
theorem parts_of_resolve {server : String} {e : Endpoint} (resolved : resolve server = .ok e) :
    e.name.text = hostPart server ∧
      e.port = (readPort (portPart server)).getD Limits.httpPort := by
  by_cases long : Limits.nameBytes < (hostPart server).utf8ByteSize
  · rw [resolve_of_long long] at resolved
    cases resolved
  · rw [resolve_of_short long] at resolved
    cases resolved
    exact ⟨rfl, rfl⟩

theorem wellFormed_of_resolve {server : String} {e : Endpoint} (resolved : resolve server = .ok e) :
    e.WellFormed := by
  obtain ⟨name, port⟩ := parts_of_resolve resolved
  refine ⟨?_, e.name.size_le, ?_⟩
  · rw [name]
    exact colon_not_mem_hostPart server
  · rw [port]
    exact resolvedPort_range _

end Endpoint

end DynamicDns
