import CallGuard.Proofs.Call.RoundTrip

/-! # Canonical payloads

Decoding leaves no byte of the arguments out: a byte belongs to a value of the call, is a zero in front of an address
or tells where the route of a swap stands and how long it is. So encoding the call gives back the payload up to what
stands behind the arguments, unless the route stands elsewhere than right behind the other words. The main statement is
`encode_of_decode`. -/

namespace CallGuard.Layout
open CallGuard.Frame Outcome

/-- How many bytes a call fills in its canonical layout, the selector included. -/
def extent : Call → Nat
  | .swap c => 4 + 32 * (6 + c.path.length)
  | .transfer _ => 68
  | .approve _ => 68

/-- The route of a swap stands right behind the other words. -/
def InPlace : Function → Bytes → Prop
  | .swap, data => offset (data.drop 4) = 160
  | .transfer, _ => True
  | .approve, _ => True

/-! ## Words in a row -/

section
variable {args : Bytes} {position : Nat} {w : Word} {words : List Word}

theorem slice_add (bs : Bytes) (position m n : Nat) :
    slice bs position (m + n) = slice bs position m ++ slice bs (position + m) n := by
  rw [slice, slice, slice, List.take_add, List.drop_drop]

theorem slice_zero (bs : Bytes) (n : Nat) : slice bs 0 n = bs.take n := by
  rw [slice, List.drop_zero]

theorem slice_nil (args : Bytes) (position : Nat) : slice args position (32 * ([] : List Word).length) = bytesOf [] :=
  List.take_zero

/-- A word followed by words in a row makes a longer row. -/
theorem slice_cons (hw : wordAt args position = .ok w)
    (hwords : slice args (position + 32) (32 * words.length) = bytesOf words) :
    slice args position (32 * (w :: words).length) = bytesOf (w :: words) := by
  obtain ⟨-, hbytes⟩ := wordAt_eq_ok.mp hw
  rw [List.length_cons, Nat.mul_succ, Nat.add_comm, slice_add, hwords, ← hbytes]
  rfl

theorem slice_of_wordAt (h : ∀ i (hi : i < words.length), wordAt args (position + 32 * i) = .ok words[i]) :
    slice args position (32 * words.length) = bytesOf words := by
  induction words generalizing position with
  | nil => exact slice_nil args position
  | cons w ws ih =>
    refine slice_cons (h 0 (Nat.zero_lt_succ _)) (ih fun i hi => ?_)
    have hnext := h (i + 1) (Nat.succ_lt_succ hi)
    rwa [Nat.mul_succ, Nat.add_comm (32 * i), ← Nat.add_assoc] at hnext

theorem wordAt_of_number {n : Nat} (hlen : position + 32 ≤ args.length) (h : number args position = n) :
    wordAt args position = .ok (.ofNat n) := by
  refine wordAt_eq_ok.mpr ⟨hlen, ?_⟩
  rw [← h]
  exact Bytes.ofNat_toNat 32 _ (length_slice_of_le hlen)

end

/-! ## Calls that were read -/

section
variable {args : Bytes} {c : Call}

theorem inPlace_swap : InPlace .swap (Function.swap.selector.bytes ++ args) ↔ offset args = 160 := by
  rw [InPlace, List.drop_left' Function.swap.selector.length_bytes]

theorem length_encode (c : Call) : c.encode.length = extent c := by
  rw [Call.encode, List.length_append, Octets.length_bytes]
  cases c with
  | swap s =>
    rw [length_encode_swap, extent]
    omega
  | transfer t => rw [Call.frame, Frame.encode, length_bytesOf, extent]; rfl
  | approve a => rw [Call.frame, Frame.encode, length_bytesOf, extent]; rfl

/-- The words of a swap stand in a row in the arguments if the route follows the other words. -/
theorem take_of_read_swap {s : Swap} (hread : Frame.read .swap args = .ok (Call.swap s).frame)
    (hoffset : offset args = 160) : args.take (32 * (swapWords s).length) = bytesOf (swapWords s) := by
  obtain ⟨hout, hmax, ⟨start, hstart, hroute⟩, hto, hdeadline⟩ := read_swap_eq_ok.mp hread
  obtain ⟨hhead, -, rfl⟩ := sizeAt_eq_ok.mp hstart
  rw [← offset, hoffset] at hroute
  obtain ⟨hcount, -, hlen, hall⟩ := arrayAt_eq_ok.mp hroute
  rw [List.length_map] at hlen
  rw [← slice_zero]
  -- Six words with the number of tokens behind the offset and the others, then the tokens.
  exact slice_cons hout <| slice_cons hmax <| slice_cons (wordAt_of_number hhead hoffset) <| slice_cons hto <|
    slice_cons hdeadline <| slice_cons (wordAt_of_number hcount hlen.symm) <| slice_of_wordAt hall

/-- A call that was read from its canonical layout is written as it was read. -/
theorem take_of_read (hread : Frame.read c.function args = .ok c.frame)
    (hplace : InPlace c.function (c.function.selector.bytes ++ args)) :
    args.take c.frame.encode.length = c.frame.encode := by
  cases c with
  | swap s =>
    rw [encode_swap, length_bytesOf]
    exact take_of_read_swap hread (inPlace_swap.mp hplace)
  | transfer t =>
    obtain ⟨hto, hamount⟩ := read_transfer_eq_ok.mp hread
    rw [Call.frame, Frame.encode, length_bytesOf, ← slice_zero]
    exact slice_cons hto <| slice_cons hamount <| slice_nil args 64
  | approve a =>
    obtain ⟨hspender, hamount⟩ := read_approve_eq_ok.mp hread
    rw [Call.frame, Frame.encode, length_bytesOf, ← slice_zero]
    exact slice_cons hspender <| slice_cons hamount <| slice_nil args 64

/-- What begins with the canonical layout of a call has the route in its place. -/
theorem inPlace_encode (c : Call) (rest : Bytes) : InPlace c.function (c.encode ++ rest) := by
  cases c with
  | swap s =>
    rw [encode_append]
    exact inPlace_swap.mpr (offset_encode s rest)
  | transfer t => trivial
  | approve a => trivial

end

/-- A payload begins with the encoding of the call it is decoded to exactly if the route is in its place. -/
theorem encode_eq_take_iff {f : Function} {data : Bytes} {c : Call} (h : Call.decodeArguments f data = .ok c) :
    c.encode = data.take (extent c) ↔ InPlace f data := by
  obtain ⟨args, rfl, hread⟩ := decodeArguments_eq_ok.mp h
  obtain rfl := function_of_read hread
  constructor
  · intro hencode
    -- The payload goes on behind the encoding, so it has the offset that was written.
    rw [← List.take_append_drop (extent c) (c.function.selector.bytes ++ args), ← hencode]
    exact inPlace_encode c _
  · intro hplace
    rw [← length_encode, Call.encode, List.length_append, List.take_length_add_append, take_of_read hread hplace]

/-- Encoding undoes decoding on canonical payloads. A transfer or an approval is encoded as the first 68 bytes of the
    payload that it was decoded from. A swap along `n` tokens is encoded as the first `4 + 32 * (6 + n)` bytes exactly
    if the offset of the route is 160. So payloads that are decoded to one call agree up to what stands behind the
    arguments, but for swaps with another offset. This holds of all that `Call.decode` accepts, and of swaps along no
    tokens as well (`decode_eq_ok_iff`). -/
theorem encode_of_decode {f : Function} {data : Bytes} {c : Call} (h : Call.decodeArguments f data = .ok c) :
    (c.encode = data.take (extent c) ↔ InPlace f data) ∧
    ∀ other, Call.decodeArguments f other = .ok c → InPlace f data → InPlace f other →
      data.take (extent c) = other.take (extent c) := by
  refine ⟨encode_eq_take_iff h, fun other hother hplace hplace' => ?_⟩
  rw [← (encode_eq_take_iff h).mpr hplace, ← (encode_eq_take_iff hother).mpr hplace']

/-- A swap whose route stands one word behind its place is decoded, and encoded in another way. -/
theorem encode_of_decode_moved_route :
    let s : Swap := ⟨1, 2, [.ofNat 20 10], .ofNat 20 12, 9999⟩
    let moved : Bytes := Function.swap.selector.bytes ++
      bytesOf [.ofNat 1, .ofNat 2, .ofNat 192, .ofAddress (.ofNat 20 12), .ofNat 9999, .ofNat 7, .ofNat 1,
        .ofAddress (.ofNat 20 10)]
    Call.decode .swap moved = .ok (.swap s) ∧ (Call.swap s).encode ≠ moved.take 228 ∧
      (Call.swap s).encode = ((Call.swap s).encode ++ [7]).take 228 := by
  intro s moved
  have hmoved : Call.decode .swap moved = .ok (.swap s) := by decide +kernel
  have hcanonical : Call.decode .swap ((Call.swap s).encode ++ [7]) = .ok (.swap s) :=
    decode_eq_ok.mpr ⟨rfl, makes_encode (by decide) (by decide) [7]⟩
  have hplace : ¬ InPlace .swap moved := by
    show ¬ offset (moved.drop 4) = 160
    decide +kernel
  exact ⟨hmoved, fun hencode => hplace ((encode_of_decode (decode_eq_ok_iff.mp hmoved).1).1.mp hencode),
    (encode_of_decode (decode_eq_ok_iff.mp hcanonical).1).1.mpr (inPlace_encode (.swap s) [7])⟩

end CallGuard.Layout
