import CallGuard.Audit.EventJson
import CallGuard.Proofs.Json.Lines
import CallGuard.Proofs.Json.Records
import CallGuard.Proofs.Timestamp

/-! # Stored events

An event is read back from its text, whatever its name and note are (`read?_text`), and its text is a single line
(`newline_not_mem_text`). -/

namespace CallGuard

theorem ListKind.ofTag?_tag (kind : ListKind) : ofTag? kind.tag = some kind := by
  cases kind <;> decide

theorem Change.ofTag?_tag (change : Change) : ofTag? change.tag = some change := by
  cases change <;> decide

namespace Key

theorem printable_toJson (key : Key) : Json.Printable key.toJson := by
  cases key <;> exact Json.printable_ofFields (by simp [Json.printable_ofText, Octets.printable_toJson])

theorem isPlain_toJson {room : Nat} (hroom : 0 < room) (key : Key) : key.toJson.isPlain room = true := by
  cases key <;> simp [toJson, Json.ofFields, Json.isPlain, Json.haveNamesAndPlain, Json.ofText, Octets.toJson, hroom]

theorem tagOf?_toJson (key : Key) : tagOf? key.toJson = some key.kind.tag := by
  cases key <;> rfl

theorem ofJson?_toJson {room : Nat} (hroom : 0 < room) (key : Key) : ofJson? room key.toJson = some key := by
  rw [ofJson?, isPlain_toJson hroom, tagOf?_toJson]
  simp only [Option.bind_eq_bind, Option.bind_some, ListKind.ofTag?_tag]
  cases key <;> rw [toJson, Json.fields?_ofFields _ (by simp)] <;>
    simp [Json.Fields.required, Json.lookup_cons_eq_ite, Octets.ofJson?_toJson, kind, address, ofAddress?]

end Key

namespace Event

theorem printable_toJson (e : Event) : Json.Printable e.toJson :=
  Json.printable_ofFields (by simp [Json.printable_ofText, Json.printable_ofNat, Key.printable_toJson])

theorem ofJson?_toJson {e : Event} (h : e.seq < UInt64.size) : ofJson? e.toJson = some e := by
  have hseq : Json.natural? UInt64.size (.ofNat e.seq) = some e.seq := by
    simp [Json.natural?, Json.ofNat, Json.Number.natural?, Json.Number.ofNat, h]
  have hchange : Change.ofJson? (.ofText e.change.tag) = some e.change := Change.ofTag?_tag e.change
  have hkey : Key.ofJson? (Key.nestingLimit - 1) e.key.toJson = some e.key := Key.ofJson?_toJson (by decide) e.key
  have htext (s : String) : Json.text? (.ofText s) = some s := rfl
  rw [toJson, ofJson?, Json.fields?_ofFields _ (by simp)]
  simp only [Json.Fields.required, Json.lookup_cons_eq_ite, String.reduceEq, if_true, if_false, Option.bind_eq_bind,
    Option.bind_some, hseq, hchange, hkey, htext, Timestamp.read?_text]
  rfl

/-- An event whose number fits 64 bits is read back from its text. -/
theorem read?_text {e : Event} (h : e.seq < UInt64.size) : read? e.text = some e := by
  rw [read?, text, Json.parse?_compactText (printable_toJson e)]
  exact ofJson?_toJson h

/-- Events of one text record one change, whatever their numbers are. -/
theorem change_of_text {e e' : Event} (h : e.text = e'.text) : e.change = e'.change ∧ e.key = e'.key := by
  have hsame := Json.parse?_compactText (printable_toJson e)
  rw [← text, h, text, Json.parse?_compactText (printable_toJson e')] at hsame
  simp only [toJson, Json.ofFields, List.map_cons, Option.some.injEq, Json.object.injEq, List.cons.injEq,
    Prod.mk.injEq, true_and] at hsame
  obtain ⟨-, -, hchange, hkey, -⟩ := hsame
  have htag : e'.change.tag = e.change.tag := Option.some.inj (congrArg Json.text? hchange)
  refine ⟨Option.some.inj ?_, Option.some.inj ?_⟩
  · rw [← Change.ofTag?_tag e.change, ← htag, Change.ofTag?_tag]
  · rw [← Key.ofJson?_toJson Nat.one_pos e.key, ← hkey, Key.ofJson?_toJson Nat.one_pos]

/-- The text of an event is a single line. -/
theorem newline_not_mem_text (e : Event) : '\n' ∉ e.text.toList := by
  rw [text, Json.compactText, String.toList_ofList]
  exact Json.newline_not_mem_compact _ (printable_toJson e)

end Event

end CallGuard
