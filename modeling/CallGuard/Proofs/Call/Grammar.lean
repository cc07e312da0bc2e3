import CallGuard.Proofs.Call.Reading
import CallGuard.Violation

/-! # The grammar of payloads

A payload is decoded for a function exactly if it makes a call of it, and then that call is what the decoder returns
(`decode_eq_ok`). The grammar of all payloads is `decode_iff_layout`: which are accepted, with which values, and that
the selector alone decides for which function. -/

namespace CallGuard.Layout
open Outcome

/-! ## From words to calls -/

theorem mapM_address?_eq_some {words : List Word} {path : List Address} :
    words.mapM Word.address? = some path ↔ words = path.map .ofAddress := by
  induction words generalizing path with
  | nil => cases path <;> simp
  | cons w ws ih =>
    rw [List.mapM_cons]
    simp only [bind, Option.bind_eq_some_iff, Word.address?_eq_some]
    constructor
    · rintro ⟨a, rfl, as, has, h⟩
      cases h
      rw [ih.mp has, List.map_cons]
    · intro h
      obtain ⟨a, as, rfl⟩ : ∃ a as, path = a :: as := by
        cases path with
        | nil => simp at h
        | cons a as => exact ⟨a, as, rfl⟩
      rw [List.map_cons, List.cons.injEq] at h
      exact ⟨a, h.1, as, ih.mpr h.2, rfl⟩

theorem call?_frame (c : Call) : c.frame.call? = some c := by
  cases c with
  | swap s =>
    have hroute : (s.path.map Word.ofAddress).mapM Word.address? = some s.path := mapM_address?_eq_some.mpr rfl
    simp only [Call.frame, Frame.call?, hroute, Word.address?_ofAddress, Word.amount_ofAmount]
    rfl
  | transfer t => simp [Call.frame, Frame.call?, Word.address?_ofAddress, Word.amount_ofAmount]
  | approve a => simp [Call.frame, Frame.call?, Word.address?_ofAddress, Word.amount_ofAmount]

theorem call?_eq_some {frame : Frame} {c : Call} : frame.call? = some c ↔ frame = c.frame := by
  refine ⟨fun h => ?_, fun h => h ▸ call?_frame c⟩
  cases frame with
  | swap amountOut amountInMax path recipient deadline =>
    simp only [Frame.call?, bind, Option.bind_eq_some_iff, mapM_address?_eq_some, Word.address?_eq_some] at h
    obtain ⟨as, rfl, a, rfl, h⟩ := h
    cases h
    simp only [Call.frame, Word.ofAmount_amount]
  | transfer recipient amount =>
    simp only [Frame.call?, bind, Option.bind_eq_some_iff, Word.address?_eq_some] at h
    obtain ⟨a, rfl, h⟩ := h
    cases h
    simp only [Call.frame, Word.ofAmount_amount]
  | approve spender amount =>
    simp only [Frame.call?, bind, Option.bind_eq_some_iff, Word.address?_eq_some] at h
    obtain ⟨a, rfl, h⟩ := h
    cases h
    simp only [Call.frame, Word.ofAmount_amount]

/-! ## From payloads to calls -/

section
variable {f : Function} {data args : Bytes} {c : Call}

theorem argumentsOf_eq_ok : Call.argumentsOf f data = .ok args ↔ data = f.selector.bytes ++ args := by
  rw [← Payload.split?_eq_some, Call.argumentsOf]
  cases Payload.split? data with
  | none => simp
  | some parts =>
    obtain ⟨s, rest⟩ := parts
    by_cases hs : s = f.selector
    · simp [hs]
    · simp [hs]

theorem decodeArguments_eq_ok :
    Call.decodeArguments f data = .ok c ↔
      ∃ args, data = f.selector.bytes ++ args ∧ Frame.read f args = .ok c.frame := by
  simp only [Call.decodeArguments, bind_eq_ok, argumentsOf_eq_ok]
  constructor
  · rintro ⟨args, hdata, frame, hframe, h⟩
    cases hcall : frame.call? with
    | none =>
      rw [hcall] at h
      cases h
    | some d =>
      rw [hcall] at h
      cases h
      exact ⟨args, hdata, by rw [hframe, call?_eq_some.mp hcall]⟩
  · rintro ⟨args, hdata, hframe⟩
    exact ⟨args, hdata, c.frame, hframe, by rw [call?_eq_some.mpr rfl]; rfl⟩

/-- Only a swap along no tokens is decoded and yet refused. -/
theorem decode_eq_ok_iff : Call.decode f data = .ok c ↔ Call.decodeArguments f data = .ok c ∧ Routed c := by
  rw [Call.decode]
  cases Call.decodeArguments f data with
  | error fault => simp
  | ok d =>
    cases d with
    | swap s =>
      by_cases hs : s.path = []
      · simp only [hs, if_true, reduceCtorEq, false_iff]
        rintro ⟨h, hrouted⟩
        cases h
        exact hrouted hs
      · simp only [hs, if_false]
        constructor
        · intro h
          cases h
          exact ⟨rfl, hs⟩
        · rintro ⟨h, -⟩
          cases h
          rfl
    | transfer t => exact ⟨fun h => by cases h; exact ⟨rfl, trivial⟩, fun h => by cases h.1; rfl⟩
    | approve a => exact ⟨fun h => by cases h; exact ⟨rfl, trivial⟩, fun h => by cases h.1; rfl⟩

/-- A payload is refused for a fault in its arguments or, with none, as a swap along no tokens. -/
theorem decode_eq_error {reason : Malformed} :
    Call.decode f data = .error reason ↔
      (∃ fault, Call.decodeArguments f data = .error fault ∧ reason = .layout f fault) ∨
        ∃ s, Call.decodeArguments f data = .ok (.swap s) ∧ s.path = [] ∧ reason = .emptyPath := by
  rw [Call.decode]
  cases Call.decodeArguments f data with
  | error fault => simp [eq_comm]
  | ok d =>
    cases d with
    | swap s =>
      by_cases hs : s.path = []
      · simp [hs, eq_comm]
      · simp [hs]
    | transfer t => simp
    | approve a => simp

/-- A call is read exactly from the arguments of its function that hold it. -/
theorem read_eq_frame :
    Frame.read f args = .ok c.frame ↔ c.function = f ∧ Shaped f args ∧ Holds args c := by
  by_cases hf : c.function = f
  · subst hf
    rw [and_iff_right rfl]
    cases c with
    | swap s => exact read_swap_eq_frame
    | transfer t => exact read_transfer_eq_frame
    | approve a => exact read_approve_eq_frame
  · exact ⟨fun h => absurd (function_of_read h) hf, fun h => absurd h.1 hf⟩

/-- A payload is decoded for a function exactly to the calls of it that the payload makes. -/
theorem decode_eq_ok : Call.decode f data = .ok c ↔ c.function = f ∧ Makes data c := by
  rw [decode_eq_ok_iff, decodeArguments_eq_ok]
  constructor
  · rintro ⟨⟨args, hdata, hread⟩, hrouted⟩
    obtain ⟨rfl, hshaped, hholds⟩ := read_eq_frame.mp hread
    exact ⟨rfl, args, hdata, (fits_iff hholds).mpr ⟨hshaped, hrouted⟩, hholds⟩
  · rintro ⟨rfl, args, hdata, hfits, hholds⟩
    obtain ⟨hshaped, hrouted⟩ := (fits_iff hholds).mp hfits
    exact ⟨⟨args, hdata, read_eq_frame.mpr ⟨rfl, hshaped, hholds⟩⟩, hrouted⟩

theorem Makes.routed (h : Makes data c) : Routed c :=
  (decode_eq_ok_iff.mp (decode_eq_ok.mpr ⟨rfl, h⟩)).2

theorem decodeArguments_append :
    Call.decodeArguments f (f.selector.bytes ++ args) = .ok c ↔ c.function = f ∧ Shaped f args ∧ Holds args c := by
  rw [decodeArguments_eq_ok, ← read_eq_frame]
  constructor
  · rintro ⟨args', hargs, hread⟩
    rwa [List.append_cancel_left hargs]
  · exact fun hread => ⟨args, rfl, hread⟩

theorem not_shaped_of_error {fault : LayoutFault}
    (h : Call.decodeArguments f (f.selector.bytes ++ args) = .error fault) : ¬ Shaped f args := by
  intro hshaped
  obtain ⟨c, hf, hholds⟩ := hshaped.exists_holds
  rw [decodeArguments_append.mpr ⟨hf, hshaped, hholds⟩] at h
  cases h

/-- A swap along no tokens is decoded exactly from arguments that say so themselves. -/
theorem decodeArguments_emptyPath :
    (∃ s, Call.decodeArguments f (f.selector.bytes ++ args) = .ok (.swap s) ∧ s.path = []) ↔
      f = .swap ∧ SwapFits args ∧ count args = 0 := by
  constructor
  · rintro ⟨s, harguments, hs⟩
    obtain ⟨rfl, hshaped, hholds⟩ := decodeArguments_append.mp harguments
    exact ⟨rfl, hshaped, by rw [← hholds.2.2.1, hs, List.length_nil]⟩
  · rintro ⟨rfl, hfits, hcount⟩
    obtain ⟨c, hf, hholds⟩ := Shaped.exists_holds (f := .swap) hfits
    have harguments := decodeArguments_append.mpr ⟨hf, hfits, hholds⟩
    cases c with
    | swap s => exact ⟨s, harguments, List.eq_nil_of_length_eq_zero (hholds.2.2.1.trans hcount)⟩
    | transfer t => cases hf
    | approve a => cases hf

end

/-! ## Selectors -/

section
variable {data : Bytes} {s : Selector} {f : Function} {v : Violation}

theorem selector_eq_ok : Payload.selector data = .ok s ↔ ∃ args, data = s.bytes ++ args := by
  simp only [← Payload.split?_eq_some]
  rw [Payload.selector]
  cases Payload.split? data with
  | none => simp
  | some parts => simp [Prod.ext_iff]

theorem selector_eq_error :
    Payload.selector data = .error v ↔ data.length < 4 ∧ v = .malformedCallData (.noSelector data.length) := by
  rw [← Payload.split?_eq_none, Payload.selector]
  cases Payload.split? data with
  | none => simp [eq_comm]
  | some parts => simp

theorem ofSelector_eq_ok : Function.ofSelector s = .ok f ↔ f.selector = s := by
  rw [Function.ofSelector, ← Function.ofSelector?_eq_some]
  cases Function.ofSelector? s <;> simp

theorem ofSelector_eq_error :
    Function.ofSelector s = .error v ↔ (∀ f : Function, f.selector ≠ s) ∧ v = .unknownSelector s := by
  rw [Function.ofSelector]
  cases h : Function.ofSelector? s with
  | none =>
    have hunknown : ∀ f : Function, f.selector ≠ s := fun f hf => by
      rw [Function.ofSelector?_eq_some.mpr hf] at h
      cases h
    simp [hunknown, eq_comm]
  | some g =>
    have hg := Function.ofSelector?_eq_some.mp h
    simp only [reduceCtorEq, false_iff]
    exact fun hnone => hnone.1 g hg

theorem ofPayload_of_short (h : data.length < 4) :
    Call.ofPayload data = .error (.malformedCallData (.noSelector data.length)) := by
  rw [Call.ofPayload, selector_eq_error.mpr ⟨h, rfl⟩]
  rfl

theorem ofPayload_of_selector {args : Bytes} (h : data = f.selector.bytes ++ args) :
    Call.ofPayload data = (Call.decode f data).mapError .malformedCallData := by
  rw [Call.ofPayload, selector_eq_ok.mpr ⟨args, h⟩]
  show (Function.ofSelector f.selector >>= fun g => (Call.decode g data).mapError .malformedCallData) = _
  rw [ofSelector_eq_ok.mpr rfl]
  rfl

/-- A payload is parsed exactly to the calls that it makes. -/
theorem ofPayload_eq_ok {c : Call} : Call.ofPayload data = .ok c ↔ Makes data c := by
  constructor
  · intro h
    obtain ⟨s, -, h⟩ := bind_eq_ok.mp h
    obtain ⟨f, -, h⟩ := bind_eq_ok.mp h
    exact (decode_eq_ok.mp (mapError_eq_ok.mp h)).2
  · intro h
    have hmakes := h
    obtain ⟨args, hdata, -⟩ := h
    rw [ofPayload_of_selector hdata, mapError_eq_ok, decode_eq_ok]
    exact ⟨rfl, hmakes⟩

/-- A payload is not parsed for having no selector, for one that names no function, or for its arguments. -/
theorem ofPayload_eq_error :
    Call.ofPayload data = .error v ↔
      data.length < 4 ∧ v = .malformedCallData (.noSelector data.length) ∨
        (∃ s : Selector, ∃ args, data = s.bytes ++ args ∧ (∀ f : Function, f.selector ≠ s) ∧ v = .unknownSelector s) ∨
          ∃ f : Function, ∃ args reason, data = f.selector.bytes ++ args ∧ Call.decode f data = .error reason ∧
            v = .malformedCallData reason := by
  constructor
  · intro h
    rcases bind_eq_error.mp h with hselector | ⟨s, hselector, h⟩
    · exact .inl (selector_eq_error.mp hselector)
    · obtain ⟨args, hdata⟩ := selector_eq_ok.mp hselector
      rcases bind_eq_error.mp h with hfunction | ⟨f, hfunction, h⟩
      · obtain ⟨hunknown, rfl⟩ := ofSelector_eq_error.mp hfunction
        exact .inr (.inl ⟨s, args, hdata, hunknown, rfl⟩)
      · obtain ⟨reason, hreason, rfl⟩ := mapError_eq_error.mp h
        rw [← ofSelector_eq_ok.mp hfunction] at hdata
        exact .inr (.inr ⟨f, args, reason, hdata, hreason, rfl⟩)
  · rintro (⟨hshort, rfl⟩ | ⟨s, args, hdata, hunknown, rfl⟩ | ⟨f, args, reason, hdata, hreason, rfl⟩)
    · exact ofPayload_of_short hshort
    · exact bind_eq_error.mpr (.inr ⟨s, selector_eq_ok.mpr ⟨args, hdata⟩,
        bind_eq_error.mpr (.inl (ofSelector_eq_error.mpr ⟨hunknown, rfl⟩))⟩)
    · rw [ofPayload_of_selector hdata, hreason]
      rfl

end

/-! ## The grammar -/

/-- A payload makes a call of a function exactly if arguments of it stand behind its selector. -/
theorem exists_makes_iff {f : Function} {data : Bytes} :
    (∃ c : Call, c.function = f ∧ Makes data c) ↔ ∃ args, data = f.selector.bytes ++ args ∧ Fits f args := by
  constructor
  · rintro ⟨c, rfl, args, hdata, hfits, -⟩
    exact ⟨args, hdata, hfits⟩
  · rintro ⟨args, hdata, hfits⟩
    obtain ⟨c, rfl, hholds⟩ := hfits.shaped.exists_holds
    exact ⟨c, rfl, args, hdata, hfits, hholds⟩

theorem decode_malformed_iff {f : Function} {data : Bytes} :
    (∃ reason, (Call.decode f data).mapError Violation.malformedCallData = .error (.malformedCallData reason)) ↔
      ¬ ∃ args, data = f.selector.bytes ++ args ∧ Fits f args := by
  rw [← exists_makes_iff]
  cases h : Call.decode f data with
  | error reason =>
    refine ⟨fun _ => ?_, fun _ => ⟨reason, rfl⟩⟩
    rintro ⟨c, hc⟩
    rw [decode_eq_ok.mpr hc] at h
    cases h
  | ok c =>
    constructor
    · rintro ⟨reason, hreason⟩
      cases hreason
    · intro hnone
      exact absurd ⟨c, decode_eq_ok.mp h⟩ hnone

/-- No payload makes two calls. -/
theorem Makes.unique {data : Bytes} {c d : Call} (hc : Makes data c) (hd : Makes data d) : c = d :=
  Except.ok.inj ((ofPayload_eq_ok.mpr hc).symm.trans (ofPayload_eq_ok.mpr hd))

/-- The grammar of payloads. Decoding for a function takes exactly the payloads in which arguments of that function
    stand behind its selector, returns the values that these hold and rejects every other payload as malformed. Parsing
    decodes for the function of the selector, and no payload is a call of two functions. -/
theorem decode_iff_layout (f : Function) (data : Bytes) :
    (∀ c, Call.decode f data = .ok c ↔
      ∃ args, data = f.selector.bytes ++ args ∧ Fits f args ∧ c.function = f ∧ Holds args c) ∧
    ((∃ c, Call.decode f data = .ok c) ↔ ∃ args, data = f.selector.bytes ++ args ∧ Fits f args) ∧
    ((∃ reason, (Call.decode f data).mapError Violation.malformedCallData = .error (.malformedCallData reason)) ↔
      ¬ ∃ args, data = f.selector.bytes ++ args ∧ Fits f args) ∧
    (∀ c, Call.ofPayload data = .ok c ↔
      ∃ g : Function, Payload.selector data = .ok g.selector ∧ Call.decode g data = .ok c) ∧
    ∀ c d g, Call.decode f data = .ok c → Call.decode g data = .ok d → g = f ∧ d = c := by
  refine ⟨fun c => ?_, ?_, decode_malformed_iff, fun c => ?_, fun c d g hc hd => ?_⟩
  · rw [decode_eq_ok]
    constructor
    · rintro ⟨rfl, args, hdata, hfits, hholds⟩
      exact ⟨args, hdata, hfits, rfl, hholds⟩
    · rintro ⟨args, hdata, hfits, rfl, hholds⟩
      exact ⟨rfl, args, hdata, hfits, hholds⟩
  · simp only [decode_eq_ok]
    exact exists_makes_iff
  · rw [ofPayload_eq_ok]
    constructor
    · intro h
      have hdecode := decode_eq_ok.mpr ⟨rfl, h⟩
      obtain ⟨args, hdata, -⟩ := h
      exact ⟨c.function, selector_eq_ok.mpr ⟨args, hdata⟩, hdecode⟩
    · rintro ⟨g, -, h⟩
      exact (decode_eq_ok.mp h).2
  · obtain ⟨hf, hmakes⟩ := decode_eq_ok.mp hc
    obtain ⟨hg, hmakes'⟩ := decode_eq_ok.mp hd
    have heq := hmakes'.unique hmakes
    exact ⟨by rw [← hg, heq, hf], heq⟩

end CallGuard.Layout
