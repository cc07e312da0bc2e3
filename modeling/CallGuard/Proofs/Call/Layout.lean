import CallGuard.Call.Codec
import Mathlib.Algebra.Ring.Nat

/-! # The layout of arguments

Which byte strings are the arguments of a function, and which values they hold, said by the positions of their bytes
and without the decoder. Positions are counted from the end of the selector. Arguments may go on behind what is laid
out, and the route of a swap may stand anywhere, also on top of the other words. -/

namespace CallGuard.Layout

/-- The bytes of a byte string from a position on, `size` of them as far as they are there. -/
def slice (bs : Bytes) (position size : Nat) : Bytes :=
  (bs.drop position).take size

/-- The number in the 32 bytes at a position. -/
def number (args : Bytes) (position : Nat) : Nat :=
  Bytes.toNat (slice args position 32)

/-- The twelve bytes in front of an address are zero. -/
def Padded (args : Bytes) (position : Nat) : Prop :=
  slice args position 12 = List.replicate 12 0

/-- Where the route of a swap starts. -/
def offset (args : Bytes) : Nat :=
  number args 64

/-- How many tokens the route of a swap has. -/
def count (args : Bytes) : Nat :=
  number args (offset args)

/-- Where a token of the route of a swap stands, behind the number of them. -/
def element (args : Bytes) (i : Nat) : Nat :=
  offset args + 32 + 32 * i

/-- Arguments are those of a swap along a route, which may be empty. -/
structure SwapFits (args : Bytes) : Prop where
  head : 160 ≤ args.length
  offset_lt : offset args < 2 ^ 64
  count_there : offset args + 32 ≤ args.length
  count_lt : count args < 2 ^ 58
  route_there : offset args + 32 + 32 * count args ≤ args.length
  recipient : Padded args 96
  route : ∀ i < count args, Padded args (element args i)

/-- Arguments are an address followed by an amount. -/
structure PairFits (args : Bytes) : Prop where
  head : 64 ≤ args.length
  address : Padded args 0

/-- Arguments are those of a function; the route of a swap may be empty. -/
def Shaped : Function → Bytes → Prop
  | .swap, args => SwapFits args
  | .transfer, args => PairFits args
  | .approve, args => PairFits args

/-- Arguments are those of a function; the route of a swap has a token. -/
def Fits : Function → Bytes → Prop
  | .swap, args => SwapFits args ∧ 1 ≤ count args
  | .transfer, args => PairFits args
  | .approve, args => PairFits args

/-- Arguments hold the values of a call. -/
def Holds (args : Bytes) : Call → Prop
  | .swap c =>
    c.amountOut.toNat = number args 0 ∧ c.amountInMax.toNat = number args 32 ∧ c.path.length = count args ∧
      (∀ i (h : i < c.path.length), c.path[i].bytes = slice args (element args i + 12) 20) ∧
      c.recipient.bytes = slice args 108 20 ∧ c.deadline.toNat = number args 128
  | .transfer c => c.recipient.bytes = slice args 12 20 ∧ c.amount.toNat = number args 32
  | .approve c => c.spender.bytes = slice args 12 20 ∧ c.amount.toNat = number args 32

/-- A call is no swap along a route without tokens. -/
def Routed : Call → Prop
  | .swap c => c.path ≠ []
  | .transfer _ => True
  | .approve _ => True

instance : DecidablePred Routed
  | .swap c => inferInstanceAs (Decidable (c.path ≠ []))
  | .transfer _ => inferInstanceAs (Decidable True)
  | .approve _ => inferInstanceAs (Decidable True)

/-- A payload makes a call: behind the selector of the function stand arguments of it that hold the values. -/
def Makes (data : Bytes) (c : Call) : Prop :=
  ∃ args, data = c.function.selector.bytes ++ args ∧ Fits c.function args ∧ Holds args c

/-! ## Slices -/

theorem length_slice (bs : Bytes) (position size : Nat) :
    (slice bs position size).length = min size (bs.length - position) := by
  simp [slice]

theorem length_slice_of_le {bs : Bytes} {position size : Nat} (h : position + size ≤ bs.length) :
    (slice bs position size).length = size := by
  rw [length_slice]
  omega

/-- What follows a byte string does not change the slices inside it. -/
theorem slice_append {bs : Bytes} {position size : Nat} (h : position + size ≤ bs.length) (rest : Bytes) :
    slice (bs ++ rest) position size = slice bs position size := by
  rw [slice, slice, List.drop_append_of_le_length (by omega), List.take_append_of_le_length (by simp; omega)]

theorem take_slice (bs : Bytes) (position : Nat) {m n : Nat} (h : m ≤ n) :
    (slice bs position n).take m = slice bs position m := by
  rw [slice, slice, List.take_take, Nat.min_eq_left h]

theorem drop_slice (bs : Bytes) (position m n : Nat) :
    (slice bs position n).drop m = slice bs (position + m) (n - m) := by
  rw [slice, slice, List.drop_take, List.drop_drop]

/-! ## Numbers and padding -/

section
variable {args : Bytes} {position : Nat}

theorem number_lt (h : position + 32 ≤ args.length) : number args position < 2 ^ 256 :=
  Bytes.toNat_lt 32 _ (length_slice_of_le h)

theorem number_append (h : position + 32 ≤ args.length) (rest : Bytes) :
    number (args ++ rest) position = number args position := by
  rw [number, number, slice_append h]

theorem padded_append (h : position + 12 ≤ args.length) (rest : Bytes) :
    Padded (args ++ rest) position ↔ Padded args position := by
  rw [Padded, Padded, slice_append h]

end

/-! ## Arguments with more behind them -/

section
variable {args : Bytes}

theorem offset_append (h : 160 ≤ args.length) (rest : Bytes) : offset (args ++ rest) = offset args :=
  number_append (by omega) rest

theorem count_append (h : SwapFits args) (rest : Bytes) : count (args ++ rest) = count args := by
  rw [count, offset_append h.head, number_append h.count_there, count]

theorem element_append (h : SwapFits args) (rest : Bytes) (i : Nat) : element (args ++ rest) i = element args i := by
  rw [element, element, offset_append h.head]

theorem SwapFits.element_there (h : SwapFits args) {i : Nat} (hi : i < count args) :
    element args i + 32 ≤ args.length := by
  have hroute := h.route_there
  simp only [element]
  omega

theorem SwapFits.append (h : SwapFits args) (rest : Bytes) : SwapFits (args ++ rest) where
  head := by simp; have := h.head; omega
  offset_lt := by rw [offset_append h.head]; exact h.offset_lt
  count_there := by rw [offset_append h.head]; simp; have := h.count_there; omega
  count_lt := by rw [count_append h]; exact h.count_lt
  route_there := by rw [offset_append h.head, count_append h]; simp; have := h.route_there; omega
  recipient := (padded_append (by have := h.head; omega) rest).mpr h.recipient
  route i hi := by
    rw [count_append h] at hi
    rw [element_append h]
    exact (padded_append (by have := h.element_there hi; omega) rest).mpr (h.route i hi)

theorem PairFits.append (h : PairFits args) (rest : Bytes) : PairFits (args ++ rest) where
  head := by simp; have := h.head; omega
  address := (padded_append (by have := h.head; omega) rest).mpr h.address

/-- What follows the arguments of a function leaves them its arguments. -/
theorem Fits.append {f : Function} (h : Fits f args) (rest : Bytes) : Fits f (args ++ rest) := by
  cases f with
  | swap => exact ⟨h.1.append rest, by rw [count_append h.1]; exact h.2⟩
  | transfer => exact PairFits.append h rest
  | approve => exact PairFits.append h rest

theorem Holds.append {c : Call} (hf : Fits c.function args) (h : Holds args c) (rest : Bytes) :
    Holds (args ++ rest) c := by
  cases c with
  | swap s =>
    obtain ⟨hfits, -⟩ := hf
    have hhead := hfits.head
    obtain ⟨hout, hmax, hlen, hpath, hto, hdeadline⟩ := h
    refine ⟨?_, ?_, ?_, fun i hi => ?_, ?_, ?_⟩
    · rw [number_append (by omega), hout]
    · rw [number_append (by omega), hmax]
    · rw [count_append hfits, hlen]
    · have hthere := hfits.element_there (hlen ▸ hi)
      rw [element_append hfits, slice_append (by omega), hpath i hi]
    · rw [slice_append (by omega), hto]
    · rw [number_append (by omega), hdeadline]
  | transfer t =>
    have hhead := PairFits.head hf
    exact ⟨by rw [slice_append (by omega), h.1], by rw [number_append (by omega), h.2]⟩
  | approve a =>
    have hhead := PairFits.head hf
    exact ⟨by rw [slice_append (by omega), h.1], by rw [number_append (by omega), h.2]⟩

/-- A payload with more behind it makes the same call. -/
theorem Makes.append {data : Bytes} {c : Call} (h : Makes data c) (rest : Bytes) : Makes (data ++ rest) c := by
  obtain ⟨args, rfl, hfits, hholds⟩ := h
  exact ⟨args ++ rest, List.append_assoc _ _ _, hfits.append rest, hholds.append hfits rest⟩

end

/-! ## The values that arguments hold -/

section
variable {args : Bytes}

/-- The amount at a position. -/
def amountAt (args : Bytes) (position : Nat) : Amount :=
  BitVec.ofNat 256 (number args position)

theorem toNat_amountAt {position : Nat} (h : position + 32 ≤ args.length) :
    (amountAt args position).toNat = number args position := by
  rw [amountAt, BitVec.toNat_ofNat, Nat.mod_eq_of_lt (number_lt h)]

/-- The address at a position. -/
def addressAt (args : Bytes) (position : Nat) (h : position + 32 ≤ args.length) : Address :=
  ⟨slice args (position + 12) 20, length_slice_of_le (by omega)⟩

theorem Fits.shaped {f : Function} (h : Fits f args) : Shaped f args := by
  cases f with
  | swap => exact h.1
  | transfer => exact h
  | approve => exact h

/-- Of the arguments that hold a call, those of a swap along no tokens do not fit. -/
theorem fits_iff {c : Call} (h : Holds args c) : Fits c.function args ↔ Shaped c.function args ∧ Routed c := by
  cases c with
  | swap s =>
    have hcount : s.path ≠ [] ↔ 1 ≤ count args := by
      rw [← h.2.2.1, ← List.length_pos_iff]
      rfl
    exact and_congr_right fun _ => hcount.symm
  | transfer t => exact (and_iff_left trivial).symm
  | approve a => exact (and_iff_left trivial).symm

/-- Arguments of a function hold a call of it. -/
theorem Shaped.exists_holds {f : Function} (h : Shaped f args) : ∃ c : Call, c.function = f ∧ Holds args c := by
  cases f with
  | swap =>
    have hhead := SwapFits.head h
    let path := List.ofFn fun i : Fin (count args) => addressAt args (element args i) (SwapFits.element_there h i.isLt)
    refine ⟨.swap ⟨amountAt args 0, amountAt args 32, path, addressAt args 96 (by omega), amountAt args 128⟩, rfl,
      toNat_amountAt (by omega), toNat_amountAt (by omega), List.length_ofFn, fun i hi => ?_, rfl,
      toNat_amountAt (by omega)⟩
    simp only [path, List.getElem_ofFn, addressAt]
  | transfer =>
    have hhead := PairFits.head h
    exact ⟨.transfer ⟨addressAt args 0 (by omega), amountAt args 32⟩, rfl, rfl, toNat_amountAt (by omega)⟩
  | approve =>
    have hhead := PairFits.head h
    exact ⟨.approve ⟨addressAt args 0 (by omega), amountAt args 32⟩, rfl, rfl, toNat_amountAt (by omega)⟩

end

end CallGuard.Layout
