import CallGuard.Command.Texts
import CallGuard.Proofs.Hex.Faults
import CallGuard.Proofs.Hex.Forms
import CallGuard.Proofs.Outcome
import CallGuard.Proofs.Text.Trimming

/-! # Payloads as text

The text of a payload consists of digits, with white space around them and a mark before them or without either. It is
read exactly if the digits pair up, and else refused for its first fault (`readsHex`). -/

namespace CallGuard.Payload

/-- `digits` is what a text holds between the white space around it, one mark left out. -/
def HasDigits (text : String) (digits : List Char) : Prop :=
  ∃ core, Trimmed text.toList core ∧ digits = Hex.unmark core

section
variable {text : String} {digits : List Char} {bs : Bytes} {fault : Hex.Fault}

theorem hasDigits_iff : HasDigits text digits ↔ digits = Hex.unmark (trim text.toList) := by
  unfold HasDigits
  simp only [← trim_eq_iff, exists_eq_left']

theorem HasDigits.read_eq (h : HasDigits text digits) :
    ∃ core, Hex.unmark core = digits ∧ read text = Hex.decode core :=
  ⟨trim text.toList, (hasDigits_iff.mp h).symm, rfl⟩

theorem HasDigits.read_eq_ok (h : HasDigits text digits) :
    read text = .ok bs ↔ digits.map Char.toLower = Hex.encode bs := by
  obtain ⟨core, rfl, hread⟩ := h.read_eq
  rw [hread, Hex.decode_eq_ok]

theorem HasDigits.exists_read_iff (h : HasDigits text digits) :
    (∃ bs, read text = .ok bs) ↔ Hex.Legible (Bytes.ofChars digits) := by
  obtain ⟨core, rfl, hread⟩ := h.read_eq
  rw [hread, Hex.exists_decode_iff]

theorem HasDigits.read_eq_error (h : HasDigits text digits) :
    read text = .error fault ↔ Hex.HasFault none (Bytes.ofChars digits) fault := by
  obtain ⟨core, rfl, hread⟩ := h.read_eq
  rw [hread, Hex.decode_eq_error]

end

/-- Digits in any case are read, whatever white space stands around them and whether or not they are marked. -/
theorem read_of_digits {before mark digits after : List Char} {bs : Bytes} (hbefore : ∀ c ∈ before, isBlank c = true)
    (hafter : ∀ c ∈ after, isBlank c = true) (hmark : mark = [] ∨ mark = ['0', 'x'])
    (hdigits : digits.map Char.toLower = Hex.encode bs) :
    read (String.ofList (before ++ (mark ++ digits) ++ after)) = .ok bs := by
  have hcore : ∀ c ∈ mark ++ digits, isBlank c = false := by
    intro c hc
    rcases List.mem_append.mp hc with hc | hc
    · rcases hmark with rfl | rfl
      · cases hc
      · rcases List.mem_cons.mp hc with rfl | hc
        · decide
        · rw [List.mem_singleton.mp hc]
          decide
    · exact Hex.isBlank_of_digits hdigits c hc
  have hunmark : Hex.unmark (mark ++ digits) = digits := by
    rcases hmark with rfl | rfl
    · exact Hex.unmark_of_digits hdigits
    · rfl
  have hhas : HasDigits (String.ofList (before ++ (mark ++ digits) ++ after)) digits := by
    refine ⟨mark ++ digits, ?_, hunmark.symm⟩
    rw [String.toList_ofList]
    exact .of_forall hbefore hafter hcore
  exact hhas.read_eq_ok.mpr hdigits

/-- How the texts of payloads are read. -/
structure ReadsHex : Prop where
  /-- It is clear which digits a text has. -/
  digits : ∀ text, ∃ digits, ∀ other, HasDigits text other ↔ other = digits
  /-- A text is read if its digits pair up. -/
  readable : ∀ text digits, HasDigits text digits → ((∃ bs, read text = .ok bs) ↔ Hex.Legible (Bytes.ofChars digits))
  /-- It writes the byte string whose lowercase digits it has. -/
  accepted : ∀ text digits bs, HasDigits text digits →
    (read text = .ok bs ↔ Hex.Legible (Bytes.ofChars digits) ∧ Hex.encode bs = digits.map Char.toLower)
  /-- Any other text is refused for its first fault. -/
  refused : ∀ text digits fault, HasDigits text digits →
    (read text = .error fault ↔ Hex.HasFault none (Bytes.ofChars digits) fault)
  /-- The fault is reported as one of hexadecimal text. -/
  reported : ∀ text fault, read text = .error fault → ∃ failure, readPayload text = .error failure ∧
    failure.kind = "InvalidHex" ∧ failure.chain = ["Invalid call data", "Invalid hex data: " ++ fault.message]
  /-- A byte string that is written is read, whatever white space is put around it. -/
  written : ∀ bs before after, (∀ c ∈ before, isBlank c = true) → (∀ c ∈ after, isBlank c = true) →
    read (String.ofList (before ++ Hex.encodeMarked bs ++ after)) = .ok bs

/-- The text of a payload is read exactly if its digits pair up. -/
theorem readsHex : ReadsHex where
  digits text := ⟨_, fun _ => hasDigits_iff⟩
  readable _ _ h := h.exists_read_iff
  accepted text digits bs h := by
    rw [h.read_eq_ok, eq_comm]
    refine (and_iff_right_of_imp fun hlower => ?_).symm
    exact h.exists_read_iff.mp ⟨bs, h.read_eq_ok.mpr hlower.symm⟩
  refused _ _ _ h := h.read_eq_error
  reported _ fault h := ⟨.badPayload fault, Outcome.mapError_eq_error.mpr ⟨fault, h, rfl⟩, rfl, rfl⟩
  written bs before after hbefore hafter := by
    have hmarked : Hex.encodeMarked bs = ['0', 'x'] ++ Hex.encode bs := rfl
    rw [hmarked]
    exact read_of_digits hbefore hafter (.inr rfl) (Hex.map_toLower_encode bs)

/-- Two bytes in mixed white space, and a text in which a character of two bytes stands where the third digit should. -/
theorem readsHex_spaced :
    let before := ['\t', Char.ofNat 0x2003]
    let after := ['\n', Char.ofNat 0x85]
    let text := String.ofList (before ++ Hex.encodeMarked [0xDE, 0xAD] ++ after)
    (∀ c ∈ before, isBlank c = true) ∧ (∀ c ∈ after, isBlank c = true) ∧ read text = .ok [0xDE, 0xAD] ∧
      HasDigits " 0x0Fé0x " ("0Fé0x".toList) ∧ read " 0x0Fé0x " = .error (.badDigit 0xC3 2) := by
  intro before after text
  have hbefore : ∀ c ∈ before, isBlank c = true := List.all_eq_true.mp (by decide)
  have hafter : ∀ c ∈ after, isBlank c = true := List.all_eq_true.mp (by decide)
  have hdigits : HasDigits " 0x0Fé0x " ("0Fé0x".toList) := hasDigits_iff.mpr (by decide)
  refine ⟨hbefore, hafter, readsHex.written _ _ _ hbefore hafter, hdigits, ?_⟩
  refine (readsHex.refused _ _ _ hdigits).mpr ?_
  have hbytes : Bytes.ofChars "0Fé0x".toList = [0x30, 0x46] ++ 0xC3 :: [0xA9, 0x30, 0x78] := by decide
  rw [hbytes]
  show Hex.HasFault none _ (.badDigit 0xC3 [0x30, 0x46].length)
  refine .badDigit (by decide) ?_ rfl ?_ (by decide)
  · intro n hn
    cases hn
  · exact List.forall_mem_cons.mpr ⟨by decide, List.forall_mem_singleton.mpr (by decide)⟩

end CallGuard.Payload
