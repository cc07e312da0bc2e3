import CallGuard.Proofs.Call.Grammar

/-! # Encoding and decoding

The words of a call are found again in its payload, whatever follows, because each stands at a multiple of 32 and the
route starts behind the other words. Nothing shorter than the payload makes the call, so a payload cut off anywhere is
rejected (`ofPayload_encode`). -/

namespace CallGuard.Layout
open CallGuard.Frame Outcome

/-- The route of a call is short enough to be addressed. -/
def Addressable : Call → Prop
  | .swap c => c.path.length < 2 ^ 58
  | .transfer _ => True
  | .approve _ => True

instance : DecidablePred Addressable
  | .swap c => inferInstanceAs (Decidable (c.path.length < 2 ^ 58))
  | .transfer _ => inferInstanceAs (Decidable True)
  | .approve _ => inferInstanceAs (Decidable True)

/-! ## Words in a row -/

theorem length_bytesOf (words : List Word) : (bytesOf words).length = 32 * words.length := by
  induction words with
  | nil => rfl
  | cons w ws ih =>
    show (w.bytes ++ bytesOf ws).length = _
    rw [List.length_append, w.length_bytes, ih, List.length_cons]
    omega

theorem wordAt_bytesOf {words : List Word} {i : Nat} {w : Word} (h : words[i]? = some w) (rest : Bytes) :
    wordAt (bytesOf words ++ rest) (32 * i) = .ok w := by
  induction words generalizing i with
  | nil => cases h
  | cons v ws ih =>
    have hbytes : bytesOf (v :: ws) ++ rest = v.bytes ++ (bytesOf ws ++ rest) := List.append_assoc _ _ _
    rw [hbytes]
    cases i with
    | zero =>
      obtain rfl : v = w := Option.some.inj h
      refine wordAt_eq_ok.mpr ⟨by rw [List.length_append, v.length_bytes]; omega, ?_⟩
      exact (List.take_left' v.length_bytes).symm
    | succ i =>
      rw [List.getElem?_cons_succ] at h
      rw [show 32 * (i + 1) = 32 + 32 * i by omega, ← wordAt_drop, List.drop_left' v.length_bytes]
      exact ih h

theorem number_of_wordAt {args : Bytes} {position : Nat} {w : Word} (h : wordAt args position = .ok w) :
    number args position = w.toNat := by
  rw [number, ← (wordAt_eq_ok.mp h).2]
  rfl

theorem toNat_ofNat {n : Nat} (h : n < 2 ^ 256) : (Word.ofNat n).toNat = n :=
  Bytes.toNat_ofNat 32 n h

/-! ## Encoded calls -/

section
variable {s : Swap}

/-- The words of a swap in a row. -/
def swapWords (s : Swap) : List Word :=
  [.ofAmount s.amountOut, .ofAmount s.amountInMax, .ofNat 160, .ofAddress s.recipient, .ofAmount s.deadline,
    .ofNat s.path.length] ++ s.path.map .ofAddress

theorem encode_swap (s : Swap) : (Call.swap s).frame.encode = bytesOf (swapWords s) := by
  rw [Call.frame, Frame.encode, List.length_map, swapWords]

theorem length_encode_swap (s : Swap) : (Call.swap s).frame.encode.length = 192 + 32 * s.path.length := by
  rw [encode_swap, length_bytesOf, swapWords, List.length_append, List.length_map]
  simp
  omega

theorem offset_encode (s : Swap) (rest : Bytes) : offset ((Call.swap s).frame.encode ++ rest) = 160 := by
  rw [encode_swap, offset, number_of_wordAt (wordAt_bytesOf (i := 2) rfl rest), toNat_ofNat (by omega)]

theorem read_encode_swap (hs : s.path.length < 2 ^ 58) (rest : Bytes) :
    Frame.read .swap ((Call.swap s).frame.encode ++ rest) = .ok (Call.swap s).frame := by
  have hoffset := offset_encode s rest
  have hlen : ((Call.swap s).frame.encode ++ rest).length = 192 + 32 * s.path.length + rest.length := by
    rw [List.length_append, length_encode_swap]
  rw [encode_swap] at hoffset hlen ⊢
  have hcount : number (bytesOf (swapWords s) ++ rest) 160 = s.path.length := by
    rw [number_of_wordAt (wordAt_bytesOf (i := 5) rfl rest), toNat_ofNat (by omega)]
  have hroute : arrayAt (bytesOf (swapWords s) ++ rest) 160 = .ok (s.path.map .ofAddress) := by
    refine arrayAt_eq_ok.mpr ⟨by omega, by omega, by rw [List.length_map, hcount], fun i hi => ?_⟩
    -- The route is the row of words from the seventh on.
    rw [show 160 + 32 + 32 * i = 32 * (6 + i) by omega]
    refine wordAt_bytesOf ?_ rest
    rw [swapWords, List.getElem?_append_right (by simp), ← List.getElem?_eq_getElem hi]
    simp
  refine read_swap_eq_ok.mpr ⟨wordAt_bytesOf (i := 0) rfl rest, wordAt_bytesOf (i := 1) rfl rest, ⟨160, ?_, hroute⟩,
    wordAt_bytesOf (i := 3) rfl rest, wordAt_bytesOf (i := 4) rfl rest⟩
  exact sizeAt_eq_ok.mpr ⟨by omega, by rw [← offset, hoffset]; omega, hoffset.symm⟩

end

section
variable {c : Call}

/-- The words of a call are read from its encoding, whatever follows. -/
theorem read_encode (hc : Addressable c) (rest : Bytes) :
    Frame.read c.function (c.frame.encode ++ rest) = .ok c.frame := by
  cases c with
  | swap s => exact read_encode_swap hc rest
  | transfer t =>
    exact read_transfer_eq_ok.mpr ⟨wordAt_bytesOf (i := 0) rfl rest, wordAt_bytesOf (i := 1) rfl rest⟩
  | approve a =>
    exact read_approve_eq_ok.mpr ⟨wordAt_bytesOf (i := 0) rfl rest, wordAt_bytesOf (i := 1) rfl rest⟩

theorem encode_append (c : Call) (rest : Bytes) :
    c.encode ++ rest = c.function.selector.bytes ++ (c.frame.encode ++ rest) :=
  List.append_assoc _ _ _

theorem decodeArguments_encode (hc : Addressable c) (rest : Bytes) :
    Call.decodeArguments c.function (c.encode ++ rest) = .ok c :=
  decodeArguments_eq_ok.mpr ⟨_, encode_append c rest, read_encode hc rest⟩

/-- The payload of a call makes it, whatever follows. -/
theorem makes_encode (hc : Addressable c) (hr : Routed c) (rest : Bytes) : Makes (c.encode ++ rest) c :=
  (decode_eq_ok.mp (decode_eq_ok_iff.mpr ⟨decodeArguments_encode hc rest, hr⟩)).2

/-- A swap along no tokens is always rejected as one. -/
theorem ofPayload_encode_of_not_routed (hc : Addressable c) (hr : ¬ Routed c) (rest : Bytes) :
    Call.ofPayload (c.encode ++ rest) = .error (.malformedCallData .emptyPath) := by
  cases c with
  | swap s =>
    have hempty : Call.decode .swap ((Call.swap s).encode ++ rest) = .error .emptyPath :=
      decode_eq_error.mpr (.inr ⟨s, decodeArguments_encode hc rest, Decidable.not_not.mp hr, rfl⟩)
    rw [ofPayload_of_selector (encode_append (.swap s) rest), Call.function, hempty]
    rfl
  | transfer t => exact absurd trivial hr
  | approve a => exact absurd trivial hr

/-- What makes a call and begins its payload is all of the payload. -/
theorem length_le_of_makes {data rest : Bytes} (h : Makes data c) (hdata : data ++ rest = c.encode) :
    c.encode.length ≤ data.length := by
  obtain ⟨args, rfl, hfits, hholds⟩ := h
  have hargs : args ++ rest = c.frame.encode := by
    rw [List.append_assoc] at hdata
    exact List.append_cancel_left hdata
  rw [Call.encode, List.length_append, List.length_append]
  refine Nat.add_le_add_left ?_ _
  cases c with
  | swap s =>
    obtain ⟨hfits, -⟩ := hfits
    have hoffset : offset args = 160 := by
      have h := offset_encode s []
      rwa [← hargs, List.append_nil, offset_append hfits.head] at h
    have hroute := hfits.route_there
    rw [hoffset, ← hholds.2.2.1] at hroute
    rw [length_encode_swap]
    omega
  | transfer t =>
    rw [Call.frame, Frame.encode, length_bytesOf]
    exact PairFits.head hfits
  | approve a =>
    rw [Call.frame, Frame.encode, length_bytesOf]
    exact PairFits.head hfits

/-- A payload that is cut off makes no call. -/
theorem not_makes_of_prefix {data : Bytes} (hc : Addressable c) (hpre : data <+: c.encode) (hne : data ≠ c.encode)
    (d : Call) : ¬ Makes data d := by
  intro h
  obtain ⟨rest, hrest⟩ := hpre
  -- What was cut off may stand behind it again, so `d` can only be `c` itself.
  have hd : Makes (c.encode ++ []) d := by
    rw [List.append_nil, ← hrest]
    exact h.append rest
  obtain rfl : d = c := by
    by_cases hr : Routed c
    · exact hd.unique (makes_encode hc hr [])
    · have hempty := ofPayload_encode_of_not_routed hc hr []
      rw [ofPayload_eq_ok.mpr hd] at hempty
      cases hempty
  have hlen := length_le_of_makes h hrest
  rw [← hrest, List.length_append] at hlen
  obtain rfl : rest = [] := List.eq_nil_of_length_eq_zero (by omega)
  exact hne (by rw [← hrest, List.append_nil])

theorem ofPayload_prefix {data : Bytes} (hc : Addressable c) (hpre : data <+: c.encode) (hne : data ≠ c.encode) :
    ∃ reason, Call.ofPayload data = .error (.malformedCallData reason) := by
  by_cases hshort : data.length < 4
  · exact ⟨_, ofPayload_of_short hshort⟩
  · obtain ⟨args, hargs⟩ : c.function.selector.bytes <+: data :=
      List.prefix_of_prefix_length_le ⟨_, rfl⟩ hpre (by rw [c.function.selector.length_bytes]; omega)
    obtain ⟨reason, hreason⟩ : ∃ reason, Call.decode c.function data = .error reason :=
      exists_error_of_forall_ne fun d hd => not_makes_of_prefix hc hpre hne d (decode_eq_ok.mp hd).2
    rw [ofPayload_of_selector hargs.symm, hreason]
    exact ⟨reason, rfl⟩

end

/-- Decoding undoes encoding. A call whose route can be addressed is parsed from its payload, whatever follows; a swap
    along no tokens is rejected as one. No payload that is cut off is parsed. -/
theorem ofPayload_encode (c : Call) (hc : Addressable c) :
    (Routed c → ∀ rest, Call.ofPayload (c.encode ++ rest) = .ok c) ∧
    (¬ Routed c → ∀ rest, Call.ofPayload (c.encode ++ rest) = .error (.malformedCallData .emptyPath)) ∧
    ∀ data, data <+: c.encode → data ≠ c.encode →
      ∃ reason, Call.ofPayload data = .error (.malformedCallData reason) :=
  ⟨fun hr rest => ofPayload_eq_ok.mpr (makes_encode hc hr rest), ofPayload_encode_of_not_routed hc,
    fun _ hpre hne => ofPayload_prefix hc hpre hne⟩

/-- A swap along two tokens with a byte behind it, and its payload cut off inside the last token. -/
theorem ofPayload_encode_two_tokens :
    let c : Call := .swap ⟨1, 2, [.ofNat 20 10, .ofNat 20 11], .ofNat 20 12, 9999⟩
    (Addressable c ∧ Routed c ∧ c.encode.take 259 <+: c.encode ∧ c.encode.take 259 ≠ c.encode) ∧
      Call.ofPayload (c.encode ++ [7]) = .ok c ∧
      ∃ reason, Call.ofPayload (c.encode.take 259) = .error (.malformedCallData reason) := by
  intro c
  have hc : Addressable c := by decide
  have hr : Routed c := by decide
  have hpre : c.encode.take 259 <+: c.encode := List.take_prefix _ _
  have hlen : c.encode.length = 260 := by
    rw [Call.encode, List.length_append, Octets.length_bytes, length_encode_swap]
    rfl
  have hne : c.encode.take 259 ≠ c.encode := fun h => by
    have hcut := congrArg List.length h
    rw [List.length_take, hlen] at hcut
    omega
  exact ⟨⟨hc, hr, hpre, hne⟩, (ofPayload_encode c hc).1 hr [7], (ofPayload_encode c hc).2.2 _ hpre hne⟩

end CallGuard.Layout
