import CallGuard.Proofs.Call.Layout
import CallGuard.Proofs.Outcome

/-! # What reading words accepts

The words that the decoder reads are the slices of the arguments at their positions, and a route is read exactly if all
of it is there. So the words of a call are read exactly from arguments that are laid out for its function and hold its
values (`read_swap_eq_frame`, `read_transfer_eq_frame`, `read_approve_eq_frame`). -/

namespace CallGuard.Layout
open CallGuard.Frame Outcome

/-! ## Single words -/

theorem takeWord_eq_ok {bs rest : Bytes} {w : Word} :
    takeWord bs = .ok (w, rest) ↔ 32 ≤ bs.length ∧ w.bytes = bs.take 32 ∧ rest = bs.drop 32 := by
  rw [takeWord]
  split
  · rename_i h
    simp only [List.length_take] at h
    have hlen : 32 ≤ bs.length := by omega
    simp [hlen, Octets.ext_iff, eq_comm]
  · rename_i h
    simp only [List.length_take] at h
    have hlen : ¬ 32 ≤ bs.length := by omega
    simp [hlen]

theorem wordAt_eq_ok {args : Bytes} {position : Nat} {w : Word} :
    wordAt args position = .ok w ↔ position + 32 ≤ args.length ∧ w.bytes = slice args position 32 := by
  rw [wordAt, map_eq_ok]
  constructor
  · rintro ⟨⟨w', rest⟩, h, rfl⟩
    obtain ⟨hlen, hw, -⟩ := takeWord_eq_ok.mp h
    rw [List.length_drop] at hlen
    exact ⟨by omega, hw⟩
  · rintro ⟨hlen, hw⟩
    exact ⟨(w, (args.drop position).drop 32), takeWord_eq_ok.mpr ⟨by rw [List.length_drop]; omega, hw, rfl⟩, rfl⟩

theorem wordAt_eq_ofAmount {args : Bytes} {position : Nat} {a : Amount} :
    wordAt args position = .ok (.ofAmount a) ↔ position + 32 ≤ args.length ∧ a.toNat = number args position := by
  rw [wordAt_eq_ok]
  refine and_congr_right fun hlen => ⟨fun h => ?_, fun h => ?_⟩
  · rw [number, ← h]
    exact (Bytes.toNat_ofNat 32 a.toNat a.isLt).symm
  · show Bytes.ofNat 32 a.toNat = _
    rw [h, number, Bytes.ofNat_toNat 32 _ (length_slice_of_le hlen)]

theorem wordAt_eq_ofAddress {args : Bytes} {position : Nat} {a : Address} :
    wordAt args position = .ok (.ofAddress a) ↔
      position + 32 ≤ args.length ∧ Padded args position ∧ a.bytes = slice args (position + 12) 20 := by
  rw [wordAt_eq_ok]
  refine and_congr_right fun _ => ?_
  have hsplit : slice args position 32 = slice args position 12 ++ slice args (position + 12) 20 := by
    rw [← take_slice args position (show 12 ≤ 32 by omega), ← drop_slice args position 12 32, List.take_append_drop]
  rw [hsplit, Padded]
  show List.replicate 12 0 ++ a.bytes = _ ↔ _
  constructor
  · intro h
    obtain ⟨hzero, haddress⟩ := List.append_inj' h (by rw [a.length_bytes, length_slice]; omega)
    exact ⟨hzero.symm, haddress⟩
  · rintro ⟨hzero, haddress⟩
    rw [hzero, haddress]

theorem sizeAt_eq_ok {args : Bytes} {position n : Nat} :
    sizeAt args position = .ok n ↔
      position + 32 ≤ args.length ∧ number args position < 2 ^ 64 ∧ n = number args position := by
  rw [sizeAt, bind_eq_ok]
  constructor
  · rintro ⟨w, hw, h⟩
    obtain ⟨hlen, hbytes⟩ := wordAt_eq_ok.mp hw
    have hnumber : w.toNat = number args position := by rw [number, ← hbytes]; rfl
    split at h
    · rename_i hlt
      cases h
      exact ⟨hlen, hnumber ▸ hlt, hnumber⟩
    · cases h
  · rintro ⟨hlen, hlt, rfl⟩
    exact ⟨⟨slice args position 32, length_slice_of_le hlen⟩, wordAt_eq_ok.mpr ⟨hlen, rfl⟩, if_pos hlt⟩

/-! ## Routes -/

theorem wordAt_drop (bs : Bytes) (m position : Nat) : wordAt (bs.drop m) position = wordAt bs (m + position) := by
  rw [wordAt, wordAt, List.drop_drop]

/-- The first words of a byte string are those at the multiples of 32. -/
theorem takeWords_eq_ok {n : Nat} {bs : Bytes} {words : List Word} :
    takeWords n bs = .ok words ↔
      words.length = n ∧ ∀ i (h : i < words.length), wordAt bs (32 * i) = .ok words[i] := by
  induction n generalizing bs words with
  | zero =>
    constructor
    · intro h
      cases h
      exact ⟨rfl, fun i hi => absurd hi (Nat.not_lt_zero i)⟩
    · rintro ⟨hlen, -⟩
      rw [List.length_eq_zero_iff.mp hlen]
      rfl
  | succ n ih =>
    rw [takeWords, bind_eq_ok]
    constructor
    · rintro ⟨⟨w, rest⟩, hw, h⟩
      obtain ⟨ws, hws, h⟩ := bind_eq_ok.mp h
      cases h
      obtain ⟨hlen, hall⟩ := ih.mp hws
      obtain ⟨-, -, hrest⟩ := takeWord_eq_ok.mp hw
      refine ⟨by rw [List.length_cons, hlen], fun i hi => ?_⟩
      -- A word behind the first one stands 32 bytes further on than in what follows the first.
      cases i with
      | zero => exact map_eq_ok.mpr ⟨(w, rest), hw, rfl⟩
      | succ i =>
        have h := hall i (by simpa using hi)
        rw [hrest, wordAt_drop] at h
        rw [List.getElem_cons_succ, show 32 * (i + 1) = 32 + 32 * i by omega]
        exact h
    · rintro ⟨hlen, hall⟩
      obtain ⟨w, ws, rfl⟩ := List.exists_cons_of_length_eq_add_one hlen
      obtain ⟨⟨w', rest⟩, hw, rfl⟩ := map_eq_ok.mp (hall 0 (by simp))
      obtain ⟨-, -, hrest⟩ := takeWord_eq_ok.mp hw
      refine ⟨(w', rest), hw, bind_eq_ok.mpr ⟨ws, ih.mpr ⟨by simpa using hlen, fun i hi => ?_⟩, rfl⟩⟩
      have h := hall (i + 1) (by simpa using hi)
      rw [List.getElem_cons_succ, show 32 * (i + 1) = 32 + 32 * i by omega] at h
      rw [hrest, wordAt_drop]
      exact h

theorem length_of_wordAt {bs : Bytes} {words : List Word} {position : Nat} (hstart : position ≤ bs.length)
    (h : ∀ i (hi : i < words.length), wordAt bs (position + 32 * i) = .ok words[i]) :
    position + 32 * words.length ≤ bs.length := by
  cases hlen : words.length with
  | zero => exact hstart
  | succ n =>
    have hlast := (wordAt_eq_ok.mp (h n (by omega))).1
    omega

/-- An array is read exactly if its length can be addressed and its elements are all there. -/
theorem arrayAt_eq_ok {args : Bytes} {position : Nat} {words : List Word} :
    arrayAt args position = .ok words ↔
      position + 32 ≤ args.length ∧ number args position < 2 ^ 58 ∧ words.length = number args position ∧
        ∀ i (h : i < words.length), wordAt args (position + 32 + 32 * i) = .ok words[i] := by
  have hwords : takeWords (number args position) (args.drop (position + 32)) = .ok words ↔
      words.length = number args position ∧
        ∀ i (h : i < words.length), wordAt args (position + 32 + 32 * i) = .ok words[i] := by
    simp only [takeWords_eq_ok, wordAt_drop]
  rw [arrayAt, bind_eq_ok]
  constructor
  · rintro ⟨n, hn, h⟩
    obtain ⟨hlen, -, rfl⟩ := sizeAt_eq_ok.mp hn
    simp only at h
    split at h
    · cases h
    · rename_i hcount
      split at h
      · cases h
      · exact ⟨hlen, Nat.lt_of_not_le hcount, hwords.mp h⟩
  · rintro ⟨hlen, hcount, hall⟩
    -- Elements that are all there exceed neither limit on their number.
    have hthere := length_of_wordAt hlen hall.2
    have hsize : number args position < 2 ^ 64 := Nat.lt_trans hcount (by decide)
    refine ⟨number args position, sizeAt_eq_ok.mpr ⟨hlen, hsize, rfl⟩, ?_⟩
    have hheld : ¬ (reservedWords ≤ number args position ∧
        (args.drop (position + 32)).length < 32 * number args position) := by
      rintro ⟨-, hshort⟩
      rw [List.length_drop] at hshort
      omega
    have haddressable : ¬ addressableWords ≤ number args position := Nat.not_le_of_lt hcount
    simp only
    rw [if_neg haddressable, if_neg hheld, hwords.mpr hall]

/-! ## All words of a call -/

theorem read_swap_eq_ok {args : Bytes} {amountOut amountInMax recipient deadline : Word} {path : List Word} :
    Frame.read .swap args = .ok (.swap amountOut amountInMax path recipient deadline) ↔
      wordAt args 0 = .ok amountOut ∧ wordAt args 32 = .ok amountInMax ∧
        (∃ start, sizeAt args 64 = .ok start ∧ arrayAt args start = .ok path) ∧
          wordAt args 96 = .ok recipient ∧ wordAt args 128 = .ok deadline := by
  simp only [Frame.read, bind_eq_ok]
  constructor
  · rintro ⟨_, hout, _, hmax, start, hstart, _, hpath, _, hto, _, hdeadline, h⟩
    cases h
    exact ⟨hout, hmax, ⟨start, hstart, hpath⟩, hto, hdeadline⟩
  · rintro ⟨hout, hmax, ⟨start, hstart, hpath⟩, hto, hdeadline⟩
    exact ⟨_, hout, _, hmax, start, hstart, _, hpath, _, hto, _, hdeadline, rfl⟩

/-- Two words are read into what is made of them exactly if both are there. -/
theorem readPair_eq_ok {mk : Word → Word → Frame} (hmk : ∀ {v w v' w'}, mk v w = mk v' w' → v = v' ∧ w = w')
    {args : Bytes} {v w : Word} :
    (do let first ← wordAt args 0; let second ← wordAt args 32; return mk first second) = .ok (mk v w) ↔
      wordAt args 0 = .ok v ∧ wordAt args 32 = .ok w := by
  simp only [bind_eq_ok]
  constructor
  · rintro ⟨_, hfirst, _, hsecond, h⟩
    obtain ⟨rfl, rfl⟩ := hmk (Except.ok.inj h)
    exact ⟨hfirst, hsecond⟩
  · rintro ⟨hfirst, hsecond⟩
    exact ⟨_, hfirst, _, hsecond, rfl⟩

theorem read_transfer_eq_ok {args : Bytes} {recipient amount : Word} :
    Frame.read .transfer args = .ok (.transfer recipient amount) ↔
      wordAt args 0 = .ok recipient ∧ wordAt args 32 = .ok amount :=
  readPair_eq_ok Frame.transfer.inj

theorem read_approve_eq_ok {args : Bytes} {spender amount : Word} :
    Frame.read .approve args = .ok (.approve spender amount) ↔
      wordAt args 0 = .ok spender ∧ wordAt args 32 = .ok amount :=
  readPair_eq_ok Frame.approve.inj

/-- The words of addresses are read as a route exactly if each address stands in its place. -/
theorem arrayAt_eq_ofAddress {args : Bytes} {position : Nat} {path : List Address} :
    arrayAt args position = .ok (path.map .ofAddress) ↔
      position + 32 ≤ args.length ∧ number args position < 2 ^ 58 ∧
        position + 32 + 32 * number args position ≤ args.length ∧ path.length = number args position ∧
          ∀ i (h : i < path.length), Padded args (position + 32 + 32 * i) ∧
            path[i].bytes = slice args (position + 32 + 32 * i + 12) 20 := by
  rw [arrayAt_eq_ok]
  refine and_congr_right fun hlen => and_congr_right fun _ => ?_
  constructor
  · rintro ⟨hcount, hall⟩
    have hthere := length_of_wordAt hlen hall
    rw [hcount] at hthere
    rw [List.length_map] at hcount
    refine ⟨hthere, hcount, fun i hi => ?_⟩
    have h := hall i (by rwa [List.length_map])
    rw [List.getElem_map] at h
    exact (wordAt_eq_ofAddress.mp h).2
  · rintro ⟨hthere, hcount, hall⟩
    refine ⟨by rw [List.length_map, hcount], fun i hi => ?_⟩
    rw [List.length_map] at hi
    rw [List.getElem_map]
    exact wordAt_eq_ofAddress.mpr ⟨by omega, hall i hi⟩

theorem pair_eq_ok {args : Bytes} {a : Address} {amount : Amount} :
    wordAt args 0 = .ok (.ofAddress a) ∧ wordAt args 32 = .ok (.ofAmount amount) ↔
      PairFits args ∧ a.bytes = slice args 12 20 ∧ amount.toNat = number args 32 := by
  rw [wordAt_eq_ofAddress, wordAt_eq_ofAmount]
  constructor
  · rintro ⟨⟨-, hpad, ha⟩, hlen, hamount⟩
    exact ⟨⟨hlen, hpad⟩, ha, hamount⟩
  · rintro ⟨⟨hlen, hpad⟩, ha, hamount⟩
    exact ⟨⟨by omega, hpad, ha⟩, hlen, hamount⟩

theorem function_of_read {f : Function} {args : Bytes} {c : Call} (h : Frame.read f args = .ok c.frame) :
    c.function = f := by
  cases f with
  | swap =>
    simp only [Frame.read, bind_eq_ok] at h
    obtain ⟨_, -, _, -, _, -, _, -, _, -, _, -, h⟩ := h
    cases c with
    | swap => rfl
    | transfer => cases h
    | approve => cases h
  | transfer =>
    simp only [Frame.read, bind_eq_ok] at h
    obtain ⟨_, -, _, -, h⟩ := h
    cases c with
    | swap => cases h
    | transfer => rfl
    | approve => cases h
  | approve =>
    simp only [Frame.read, bind_eq_ok] at h
    obtain ⟨_, -, _, -, h⟩ := h
    cases c with
    | swap => cases h
    | transfer => cases h
    | approve => rfl

/-- The words of a swap, its route empty or not. -/
theorem read_swap_eq_frame {args : Bytes} {c : Swap} :
    Frame.read .swap args = .ok (Call.swap c).frame ↔ SwapFits args ∧ Holds args (.swap c) := by
  rw [Call.frame, read_swap_eq_ok]
  constructor
  · rintro ⟨hout, hmax, ⟨start, hstart, hpath⟩, hto, hdeadline⟩
    obtain ⟨-, houtValue⟩ := wordAt_eq_ofAmount.mp hout
    obtain ⟨-, hmaxValue⟩ := wordAt_eq_ofAmount.mp hmax
    obtain ⟨-, hoffset, rfl⟩ := sizeAt_eq_ok.mp hstart
    obtain ⟨hthere, hcount, hroute, hlen, hall⟩ := arrayAt_eq_ofAddress.mp hpath
    obtain ⟨-, hpad, htoValue⟩ := wordAt_eq_ofAddress.mp hto
    obtain ⟨hhead, hdeadlineValue⟩ := wordAt_eq_ofAmount.mp hdeadline
    refine ⟨⟨hhead, hoffset, hthere, hcount, hroute, hpad, fun i hi => (hall i (by rw [hlen]; exact hi)).1⟩, ?_⟩
    exact ⟨houtValue, hmaxValue, hlen, fun i hi => (hall i hi).2, htoValue, hdeadlineValue⟩
  · rintro ⟨hfits, hout, hmax, hlen, hpath, hto, hdeadline⟩
    have hhead := hfits.head
    have hroute : arrayAt args (offset args) = .ok (c.path.map .ofAddress) := arrayAt_eq_ofAddress.mpr
      ⟨hfits.count_there, hfits.count_lt, hfits.route_there, hlen, fun i hi => ⟨hfits.route i (hlen ▸ hi), hpath i hi⟩⟩
    exact ⟨wordAt_eq_ofAmount.mpr ⟨by omega, hout⟩, wordAt_eq_ofAmount.mpr ⟨by omega, hmax⟩,
      ⟨offset args, sizeAt_eq_ok.mpr ⟨by omega, hfits.offset_lt, rfl⟩, hroute⟩,
      wordAt_eq_ofAddress.mpr ⟨by omega, hfits.recipient, hto⟩, wordAt_eq_ofAmount.mpr ⟨by omega, hdeadline⟩⟩

theorem read_transfer_eq_frame {args : Bytes} {c : Transfer} :
    Frame.read .transfer args = .ok (Call.transfer c).frame ↔ PairFits args ∧ Holds args (.transfer c) := by
  rw [Call.frame, read_transfer_eq_ok]
  exact pair_eq_ok

theorem read_approve_eq_frame {args : Bytes} {c : Approval} :
    Frame.read .approve args = .ok (Call.approve c).frame ↔ PairFits args ∧ Holds args (.approve c) := by
  rw [Call.frame, read_approve_eq_ok]
  exact pair_eq_ok

end CallGuard.Layout
