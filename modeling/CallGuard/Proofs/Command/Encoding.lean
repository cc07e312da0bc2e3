import CallGuard.Command.Show
import CallGuard.Proofs.Amount.Reading
import CallGuard.Proofs.Call.PayloadText
import CallGuard.Proofs.Call.RoundTrip
import CallGuard.Proofs.Command.Run
import CallGuard.Proofs.Policy.KeyText
import Mathlib.Data.List.Forall2

/-! # Calls given as texts

The texts of a call are read one after the other, and the first one that stands for nothing is reported. What is printed
for them is the payload of the call that they stand for, so the guard finds that call in it again, whatever white space,
mark and case the printed text comes back with (`checksWhatIsEncoded`). -/

namespace CallGuard
open Outcome

/-- A text of a call, and what it is to be. -/
inductive FieldText where
  | amount (what text : String)
  | address (what text : String)

namespace FieldText

/-- The text stands for what it is to be. -/
def Readable : FieldText → Prop
  | .amount _ text => ∃ a, Amount.read text = .ok a
  | .address _ text => ∃ a, Address.read text = .ok a

/-- The text stands for nothing, for the reason that a failure names besides the text. -/
inductive Fails : FieldText → Failure → Prop where
  | amount {what text : String} {fault : Amount.Fault} : Amount.read text = .error fault →
      Fails (.amount what text) (.badAmount what text fault)
  | address {what text : String} {fault : Hex.Fault} : Address.read text = .error fault →
      Fails (.address what text) (.badAddress what text fault)

/-- Reads a text for nothing but its failure. -/
def check : FieldText → Except Failure Unit
  | .amount what text => readAmount what text >>= fun _ => pure ()
  | .address what text => readAddress what text >>= fun _ => pure ()

theorem check_eq_ok {f : FieldText} : f.check = .ok () ↔ f.Readable := by
  cases f with
  | amount what text => simp only [check, Readable, readAmount, discard_eq_ok, mapError_eq_ok]
  | address what text => simp only [check, Readable, readAddress, discard_eq_ok, mapError_eq_ok]

theorem check_eq_error {f : FieldText} {failure : Failure} : f.check = .error failure ↔ f.Fails failure := by
  cases f with
  | amount what text =>
    simp only [check, readAmount, discard_eq_error, mapError_eq_error]
    constructor
    · rintro ⟨fault, hfault, rfl⟩
      exact .amount hfault
    · intro h
      cases h with
      | amount hfault => exact ⟨_, hfault, rfl⟩
  | address what text =>
    simp only [check, readAddress, discard_eq_error, mapError_eq_error]
    constructor
    · rintro ⟨fault, hfault, rfl⟩
      exact .address hfault
    · intro h
      cases h with
      | address hfault => exact ⟨_, hfault, rfl⟩

end FieldText

namespace CallText

/-- The texts of a call in the order in which they are read. -/
def fields : CallText → List FieldText
  | .swap amountOut amountInMax path recipient deadline =>
    [.amount "amount_out" amountOut, .amount "amount_in_max" amountInMax] ++ path.map (.address "path") ++
      [.address "to" recipient, .amount "deadline" deadline]
  | .transfer recipient amount => [.address "to" recipient, .amount "amount" amount]
  | .approve spender amount => [.address "spender" spender, .amount "amount" amount]

/-- The texts of a call and the arguments of one are related one by one. -/
inductive Pairs (amount : String → Amount → Prop) (address : String → Address → Prop) : CallText → Call → Prop where
  | swap {amountOut amountInMax recipient deadline : String} {path : List String} {s : Swap} :
      amount amountOut s.amountOut → amount amountInMax s.amountInMax → List.Forall₂ address path s.path →
      address recipient s.recipient → amount deadline s.deadline →
      Pairs amount address (.swap amountOut amountInMax path recipient deadline) (.swap s)
  | transfer {recipient text : String} {t : Transfer} : address recipient t.recipient → amount text t.amount →
      Pairs amount address (.transfer recipient text) (.transfer t)
  | approve {spender text : String} {a : Approval} : address spender a.spender → amount text a.amount →
      Pairs amount address (.approve spender text) (.approve a)

/-- The texts of a call stand for its arguments. -/
def StandsFor : CallText → Call → Prop :=
  Pairs (fun text a => Amount.read text = .ok a) fun text a => Address.read text = .ok a

section
variable {t : CallText} {c : Call} {failure : Failure}

theorem forall₂_read_iff {path : List String} {found : List Address} :
    path.mapM (readAddress "path") = .ok found ↔ List.Forall₂ (fun text a => Address.read text = .ok a) path found := by
  rw [mapM_eq_ok, ← List.forall₂_eq_eq_eq, List.forall₂_map_left_iff, List.forall₂_map_right_iff]
  simp only [readAddress, mapError_eq_ok]

theorem read_eq_ok : t.read = .ok c ↔ t.StandsFor c := by
  constructor
  · intro h
    cases t with
    | swap amountOut amountInMax path recipient deadline =>
      simp only [read, readAmount, readAddress, bind_eq_ok, mapError_eq_ok] at h
      obtain ⟨out, hout, most, hmax, route, hroute, receiver, hto, last, hlast, h⟩ := h
      cases h
      exact .swap hout hmax (forall₂_read_iff.mp hroute) hto hlast
    | transfer recipient amount =>
      simp only [read, readAmount, readAddress, bind_eq_ok, mapError_eq_ok] at h
      obtain ⟨receiver, hto, value, hvalue, h⟩ := h
      cases h
      exact .transfer hto hvalue
    | approve spender amount =>
      simp only [read, readAmount, readAddress, bind_eq_ok, mapError_eq_ok] at h
      obtain ⟨receiver, hto, value, hvalue, h⟩ := h
      cases h
      exact .approve hto hvalue
  · intro h
    cases h with
    | swap hout hmax hroute hto hlast =>
      simp only [read, readAmount, readAddress, bind_eq_ok, mapError_eq_ok]
      exact ⟨_, hout, _, hmax, _, forall₂_read_iff.mpr hroute, _, hto, _, hlast, rfl⟩
    | transfer hto hvalue =>
      simp only [read, readAmount, readAddress, bind_eq_ok, mapError_eq_ok]
      exact ⟨_, hto, _, hvalue, rfl⟩
    | approve hspender hvalue =>
      simp only [read, readAmount, readAddress, bind_eq_ok, mapError_eq_ok]
      exact ⟨_, hspender, _, hvalue, rfl⟩

/-- The texts of a call are read as far as the first one that stands for nothing. -/
theorem read_discard (t : CallText) : (t.read >>= fun _ => pure ()) = t.fields.forM FieldText.check := by
  have hpath (path : List String) : forM (path.map (.address "path")) FieldText.check =
      path.mapM (readAddress "path") >>= fun _ => pure () := by
    rw [mapM_discard, List.forM_eq_forM, List.forM_map]
    rfl
  cases t with
  | swap amountOut amountInMax path recipient deadline =>
    simp only [read, fields, List.forM_eq_forM, List.forM_append, List.forM_cons, List.forM_nil, hpath,
      FieldText.check, bind_assoc, pure_bind]
  | transfer recipient amount =>
    simp only [read, fields, List.forM_eq_forM, List.forM_cons, List.forM_nil, FieldText.check, bind_assoc, pure_bind]
  | approve spender amount =>
    simp only [read, fields, List.forM_eq_forM, List.forM_cons, List.forM_nil, FieldText.check, bind_assoc, pure_bind]

theorem exists_read_iff : (∃ c, t.read = .ok c) ↔ ∀ f ∈ t.fields, f.Readable := by
  simp only [← discard_eq_ok, read_discard, forM_eq_ok, FieldText.check_eq_ok]

theorem read_eq_error : t.read = .error failure ↔
    ∃ before f after, t.fields = before ++ f :: after ∧ (∀ g ∈ before, g.Readable) ∧ f.Fails failure := by
  rw [← discard_eq_error, read_discard, forM_eq_error]
  simp only [FieldText.check_eq_ok, FieldText.check_eq_error]

end

end CallText

namespace Command
open Layout

/-- The payload of a call as it is printed. -/
def payloadText (c : Call) : String :=
  String.ofList (Hex.encodeMarked c.encode)

/-- A printed text comes back with white space around it, its digits in any case, with the mark or without. -/
def ComesBackAs (text other : String) : Prop :=
  ∃ before mark digits after : List Char, (∀ c ∈ before, isBlank c = true) ∧ (∀ c ∈ after, isBlank c = true) ∧
    (mark = [] ∨ mark = ['0', 'x']) ∧ text = String.ofList ('0' :: 'x' :: digits.map Char.toLower) ∧
    other = String.ofList (before ++ (mark ++ digits) ++ after)

section
variable {t : CallText} {c : Call} {w w' : World} {text other : String} {failure : Failure}

theorem length_payloadText (c : Call) : (payloadText c).length = 10 + 2 * c.frame.encode.length := by
  rw [payloadText, String.length_ofList, Hex.encodeMarked, List.length_cons, List.length_cons, Hex.length_encode,
    Call.encode, List.length_append, Octets.length_bytes]
  omega

/-- A route whose payload can be held as text can be addressed. -/
theorem addressable_of_length (h : (payloadText c).length < 2 ^ 64) : Addressable c := by
  cases c with
  | swap s =>
    rw [length_payloadText, length_encode_swap] at h
    show s.path.length < 2 ^ 58
    omega
  | transfer t => trivial
  | approve a => trivial

theorem ComesBackAs.read_eq (h : ComesBackAs (payloadText c) other) : Payload.read other = .ok c.encode := by
  obtain ⟨before, mark, digits, after, hbefore, hafter, hmark, htext, rfl⟩ := h
  have hmarked : Hex.encodeMarked c.encode = '0' :: 'x' :: digits.map Char.toLower := String.ofList_injective htext
  have hdigits : Hex.encode c.encode = digits.map Char.toLower := (List.cons.inj (List.cons.inj hmarked).2).2
  exact Payload.read_of_digits hbefore hafter hmark hdigits.symm

theorem ComesBackAs.ofPayload_eq (h : ComesBackAs (payloadText c) other) (hheld : (payloadText c).length < 2 ^ 64) :
    ∃ data, Payload.read other = .ok data ∧ (Routed c → Call.ofPayload data = .ok c) ∧
      (¬ Routed c → Call.ofPayload data = .error (.malformedCallData .emptyPath)) := by
  have hc := addressable_of_length hheld
  refine ⟨c.encode, h.read_eq, fun hr => ?_, fun hr => ?_⟩
  · have hmakes := makes_encode hc hr []
    rw [List.append_nil] at hmakes
    exact ofPayload_eq_ok.mpr hmakes
  · have hempty := ofPayload_encode_of_not_routed hc hr []
    rwa [List.append_nil] at hempty

end

end Command

end CallGuard
