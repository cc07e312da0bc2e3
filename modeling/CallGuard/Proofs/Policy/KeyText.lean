import CallGuard.Command.Texts
import CallGuard.Proofs.Guard.Configured
import CallGuard.Proofs.Hex.Faults
import CallGuard.Proofs.Hex.Forms

/-! # Keys as text

An address or a selector is known by its digits alone: a mark before them and the case of letters make no difference,
and nothing else may stand in the text. So two texts that are read give the same key exactly if they are the same but
for the mark and the case (`oneIdentity`). -/

namespace CallGuard
open Outcome

namespace Hex

/-- A text without the mark it may start with, in lowercase. -/
def plain (text : String) : List Char :=
  (unmark text.toList).map Char.toLower

end Hex

namespace Octets
variable {n : Nat} {text text' : String} {a a' : Octets n}

theorem read_eq_ok_iff_plain : read n text = .ok a ↔ Hex.plain text = Hex.encode a.bytes :=
  read_eq_ok_iff_spells

theorem encode_inj : Hex.encode a.bytes = Hex.encode a'.bytes ↔ a = a' := by
  constructor
  · intro h
    have hread := Hex.decodePairs_encode 0 a.bytes
    rw [h, Hex.decodePairs_encode] at hread
    exact ext (Except.ok.inj hread).symm
  · rintro rfl
    rfl

theorem plain_eq_iff (h : read n text = .ok a) (h' : read n text' = .ok a') :
    Hex.plain text = Hex.plain text' ↔ a = a' := by
  rw [read_eq_ok_iff_plain.mp h, read_eq_ok_iff_plain.mp h', encode_inj]

theorem read_congr (h : Hex.plain text = Hex.plain text') : read n text = .ok a ↔ read n text' = .ok a := by
  rw [read_eq_ok_iff_plain, read_eq_ok_iff_plain, h]

theorem read_of_digits {digits : List Char} (h : digits.map Char.toLower = Hex.encode a.bytes) :
    read n (String.ofList ('0' :: 'x' :: digits)) = .ok a ∧ read n (String.ofList digits) = .ok a := by
  rw [read_eq_ok_iff_plain, read_eq_ok_iff_plain, Hex.plain, Hex.plain, String.toList_ofList, String.toList_ofList,
    Hex.unmark_of_digits h]
  exact ⟨h, h⟩

end Octets

/-- The texts of an address: with a check in the case of its letters, in lowercase and in capitals, and the latter two
    without the mark. -/
def Address.forms (a : Address) : List String :=
  [a.checksum, a.toHex, String.ofList ('0' :: 'x' :: a.digits.map Char.toUpper), String.ofList a.digits,
    String.ofList (a.digits.map Char.toUpper)]

theorem Address.read_of_mem_forms {a : Address} {text : String} (h : text ∈ a.forms) : Address.read text = .ok a := by
  have hlower := Octets.read_of_digits (Hex.map_toLower_encode a.bytes)
  have hupper := Octets.read_of_digits (Hex.map_toLower_map_toUpper_encode a.bytes)
  simp only [forms, List.mem_cons, List.not_mem_nil, or_false] at h
  rcases h with rfl | rfl | rfl | rfl | rfl
  · exact Octets.read_eq_ok_iff_spells.mpr a.spells_checksum
  · exact hlower.1
  · exact hupper.1
  · exact hlower.2
  · exact hupper.2

/-- A list of texts is read as the addresses whose digits they have. -/
theorem Bootstrap.addresses_eq_ok_iff_plain {texts : List String} {found : List Address} :
    addresses texts = .ok found ↔ texts.map Hex.plain = found.map Address.digits := by
  rw [addresses_eq_ok]
  induction texts generalizing found with
  | nil => cases found <;> simp
  | cons text rest ih =>
    cases found with
    | nil => simp
    | cons a found =>
      have hread : Address.read text = .ok a ↔ Hex.plain text = a.digits := Octets.read_eq_ok_iff_plain
      simp only [List.map_cons, List.cons_eq_cons, hread, ih]

/-! ## Keys -/

namespace Key

theorem selector?_of_ofAddress? {kind : ListKind} {a : Address} {key : Key} (h : ofAddress? kind a = some key) :
    key.selector? = none := by
  cases kind
  case callSite => cases h
  all_goals
    cases h
    rfl

theorem eq_callSite_of_ofAddress? {kind : ListKind} {a : Address} (h : ofAddress? kind a = none) : kind = .callSite := by
  cases kind
  case callSite => rfl
  all_goals cases h

theorem ext_parts {key key' : Key} :
    key = key' ↔ key.kind = key'.kind ∧ key.address = key'.address ∧ key.selector? = key'.selector? := by
  constructor
  · rintro rfl
    exact ⟨rfl, rfl, rfl⟩
  · rintro ⟨hkind, haddress, hselector⟩
    apply bytes_injective
    rw [bytes, bytes, hkind, haddress, hselector]

end Key

namespace KeyText
variable {k k' : KeyText} {key key' : Key}

theorem read_eq_ok : k.read = .ok key ↔
    k.kind = key.kind ∧ Address.read k.address = .ok key.address ∧ k.selector.map Selector.read = key.selector?.map .ok := by
  obtain ⟨kind, address, selector⟩ := k
  simp only [read, readAddress, bind_eq_ok, mapError_eq_ok]
  constructor
  · rintro ⟨a, ha, h⟩
    split at h
    · rename_i text hkind
      obtain ⟨s, hs, h⟩ := bind_eq_ok.mp h
      cases h
      exact ⟨Key.eq_callSite_of_ofAddress? hkind, ha, congrArg some (mapError_eq_ok.mp hs)⟩
    · cases h
    · rename_i found hfound
      cases h
      obtain ⟨rfl, rfl⟩ := Key.kind_address_of_ofAddress? hfound
      exact ⟨rfl, ha, by rw [Key.selector?_of_ofAddress? hfound]; rfl⟩
    · cases h
  · rintro ⟨rfl, ha, hselector⟩
    refine ⟨key.address, ha, ?_⟩
    cases key with
    | callSite site =>
      obtain ⟨text, rfl, htext⟩ := Option.map_eq_some_iff.mp hselector
      exact bind_eq_ok.mpr ⟨site.selector, mapError_eq_ok.mpr htext, rfl⟩
    | _ =>
      obtain rfl := Option.map_eq_none_iff.mp hselector
      rfl

section
variable {o o' : Option String} {s s' : Option Selector}

theorem selector_plain_eq_iff (h : o.map Selector.read = s.map .ok) (h' : o'.map Selector.read = s'.map .ok) :
    o.map Hex.plain = o'.map Hex.plain ↔ s = s' := by
  cases s with
  | none =>
    obtain rfl := Option.map_eq_none_iff.mp h
    cases s' with
    | none =>
      obtain rfl := Option.map_eq_none_iff.mp h'
      simp
    | some b =>
      obtain ⟨text', rfl, -⟩ := Option.map_eq_some_iff.mp h'
      simp
  | some a =>
    obtain ⟨text, rfl, htext⟩ := Option.map_eq_some_iff.mp h
    cases s' with
    | none =>
      obtain rfl := Option.map_eq_none_iff.mp h'
      simp
    | some b =>
      obtain ⟨text', rfl, htext'⟩ := Option.map_eq_some_iff.mp h'
      rw [Option.map_some, Option.map_some, Option.some_inj, Option.some_inj]
      exact Octets.plain_eq_iff htext htext'

theorem selector_read_congr (h : o.map Hex.plain = o'.map Hex.plain) :
    o.map Selector.read = s.map .ok ↔ o'.map Selector.read = s.map .ok := by
  cases o' with
  | none =>
    obtain rfl := Option.map_eq_none_iff.mp h
    rfl
  | some text' =>
    obtain ⟨text, rfl, htext⟩ := Option.map_eq_some_iff.mp h
    cases s with
    | none => simp
    | some a =>
      simp only [Option.map_some, Option.some_inj]
      exact Octets.read_congr htext

end

theorem eq_iff_plain (h : k.read = .ok key) (h' : k'.read = .ok key') :
    key = key' ↔ k.kind = k'.kind ∧ Hex.plain k.address = Hex.plain k'.address ∧
      k.selector.map Hex.plain = k'.selector.map Hex.plain := by
  obtain ⟨hkind, haddress, hselector⟩ := read_eq_ok.mp h
  obtain ⟨hkind', haddress', hselector'⟩ := read_eq_ok.mp h'
  rw [Key.ext_parts, hkind, hkind', Octets.plain_eq_iff haddress haddress', selector_plain_eq_iff hselector hselector']

theorem read_congr (hkind : k.kind = k'.kind) (haddress : Hex.plain k.address = Hex.plain k'.address)
    (hselector : k.selector.map Hex.plain = k'.selector.map Hex.plain) : k.read = .ok key ↔ k'.read = .ok key := by
  rw [read_eq_ok, read_eq_ok, hkind]
  exact and_congr_right fun _ => and_congr (Octets.read_congr haddress) (selector_read_congr hselector)

end KeyText

/-- What tells addresses, selectors and keys apart where they are given as texts. -/
structure OneIdentity : Prop where
  /-- An address is read from its forty digits, whatever the case of its letters. -/
  address : ∀ text (a : Address), Address.read text = .ok a ↔ Hex.plain text = a.digits
  /-- A selector is read from its eight digits, whatever the case of its letters. -/
  selector : ∀ text (s : Selector), Selector.read text = .ok s ↔ Hex.plain text = Hex.encode s.bytes
  sizes : ∀ (a : Address) (s : Selector), a.digits.length = 40 ∧ (Hex.encode s.bytes).length = 8
  /-- Any other text is refused for its first fault. -/
  badAddress : ∀ text fault,
    Address.read text = .error fault ↔ Hex.HasFault (some 20) (Bytes.ofChars (Hex.unmark text.toList)) fault
  badSelector : ∀ text fault,
    Selector.read text = .error fault ↔ Hex.HasFault (some 4) (Bytes.ofChars (Hex.unmark text.toList)) fault
  /-- Every form of an address is read as that address. -/
  forms : ∀ (a : Address), ∀ text ∈ a.forms, Address.read text = .ok a
  /-- The lists of the settings are read address by address. -/
  listed : ∀ texts found, Bootstrap.addresses texts = .ok found ↔ texts.map Hex.plain = found.map Address.digits
  /-- Texts give one key exactly if they are the same but for marks and case. -/
  same : ∀ (k k' : KeyText) key key', k.read = .ok key → k'.read = .ok key' →
    (key = key' ↔ k.kind = k'.kind ∧ Hex.plain k.address = Hex.plain k'.address ∧
      k.selector.map Hex.plain = k'.selector.map Hex.plain)
  /-- Texts that are the same but for marks and case give one key. -/
  respelled : ∀ (k k' : KeyText), k.kind = k'.kind → Hex.plain k.address = Hex.plain k'.address →
    k.selector.map Hex.plain = k'.selector.map Hex.plain → ∀ key, k.read = .ok key ↔ k'.read = .ok key

/-- An address has one identity, however it is spelled. -/
theorem oneIdentity : OneIdentity where
  address _ _ := Octets.read_eq_ok_iff_plain
  selector _ _ := Octets.read_eq_ok_iff_plain
  sizes a s := by
    rw [Address.digits, Hex.length_encode, Hex.length_encode, a.length_bytes, s.length_bytes]
    exact ⟨rfl, rfl⟩
  badAddress _ _ := Octets.read_eq_error
  badSelector _ _ := Octets.read_eq_error
  forms _ _ h := Address.read_of_mem_forms h
  listed _ _ := Bootstrap.addresses_eq_ok_iff_plain
  same _ _ _ _ h h' := KeyText.eq_iff_plain h h'
  respelled _ _ hkind haddress hselector _ := KeyText.read_congr hkind haddress hselector

/-- A call site is given in lowercase with marks and in capitals without. A text of forty characters, the last of which
    takes two bytes, is odd. -/
theorem oneIdentity_call_site :
    let lower : KeyText := ⟨.callSite, "0x00000000000000000000000000000000000000ab", some "0xa9059cbb"⟩
    let upper : KeyText := ⟨.callSite, "00000000000000000000000000000000000000AB", some "A9059CBB"⟩
    let key : Key := .ofCallSite (.ofNat 20 0xAB) (.ofNat 4 0xA9059CBB)
    lower.read = .ok key ∧ upper.read = .ok key ∧
      Address.read "000000000000000000000000000000000000000é" = .error .oddLength := by
  intro lower upper key
  have haddress : Hex.plain lower.address = Hex.plain upper.address := by decide
  have hselector : lower.selector.map Hex.plain = upper.selector.map Hex.plain := by decide
  have hread : lower.read = .ok key := by
    refine KeyText.read_eq_ok.mpr ⟨rfl, ?_, congrArg some ?_⟩
    · exact (oneIdentity.address _ _).mpr (by decide)
    · exact (oneIdentity.selector _ _).mpr (by decide)
  refine ⟨hread, (oneIdentity.respelled lower upper rfl haddress hselector key).mp hread, ?_⟩
  exact (oneIdentity.badAddress _ _).mpr (.oddLength (by decide))

end CallGuard
