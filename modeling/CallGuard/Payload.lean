import CallGuard.Address

/-! # Payloads

What is sent with a call: a selector followed by the arguments of the function that it names. -/

namespace CallGuard

namespace Payload

/-- The payload that a text writes in hexadecimal, white space around it left out. -/
def read (text : String) : Except Hex.Fault Bytes :=
  Hex.decode (trim text.toList)

/-- The selector of a payload and the arguments behind it; a payload of fewer than four bytes has no selector. -/
def split? (data : Bytes) : Option (Selector × Bytes) :=
  if h : (data.take 4).length = 4 then some (⟨data.take 4, h⟩, data.drop 4) else none

theorem split?_eq_none {data : Bytes} : split? data = none ↔ data.length < 4 := by
  simp only [split?, List.length_take, dite_eq_right_iff, reduceCtorEq, imp_false]
  omega

theorem split?_eq_some {data args : Bytes} {s : Selector} :
    split? data = some (s, args) ↔ data = s.bytes ++ args := by
  constructor
  · intro h
    simp only [split?, Option.dite_none_right_eq_some, Option.some.injEq, Prod.mk.injEq] at h
    obtain ⟨_, rfl, rfl⟩ := h
    simp
  · rintro rfl
    have hlen : (s.bytes ++ args).take 4 = s.bytes := List.take_left' s.length_bytes
    have hdrop : (s.bytes ++ args).drop 4 = args := List.drop_left' s.length_bytes
    simp only [split?, hlen, hdrop, s.length_bytes, dite_true]

end Payload

end CallGuard
