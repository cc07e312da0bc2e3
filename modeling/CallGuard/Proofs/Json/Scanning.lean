import CallGuard.Json.Print
import CallGuard.Json.Token

/-! # Cutting written JSON into tokens

What cutting a text into tokens makes of the parts that printed values are put together from: white space, marks,
strings and words. A word ends where a character follows that cannot stand in one. -/

namespace CallGuard.Json

/-- A text at whose start a word ends. -/
def EndsWord (text : List Char) : Prop :=
  ∀ c, text.head? = some c → Token.isWordChar c = false

theorem endsWord_nil : EndsWord [] :=
  nofun

theorem endsWord_cons {c : Char} (h : Token.isWordChar c = false) (rest : List Char) : EndsWord (c :: rest) := by
  intro d hd
  cases hd
  exact h

namespace Token

/-- The tokens of a text, where the cutting stands at `cut` before it. -/
def scanFrom (cut : Cut) (text : List Char) : Option (List Token) := do
  finish (← text.foldlM step cut)

theorem scanFrom_cons {cut t : Cut} {c : Char} (h : step cut c = some t) (rest : List Char) :
    scanFrom cut (c :: rest) = scanFrom t rest := by
  rw [scanFrom, List.foldlM_cons, h]
  rfl

section
variable (tokens : List Token)

theorem step_outside (c : Char) : step ⟨.outside, tokens⟩ c = stepOutside tokens c := rfl

theorem scanFrom_gap {c : Char} (h : isGap c = true) (rest : List Char) :
    scanFrom ⟨.outside, tokens⟩ (c :: rest) = scanFrom ⟨.outside, tokens⟩ rest := by
  refine scanFrom_cons ?_ rest
  rw [step_outside, stepOutside, if_pos h]

theorem scanFrom_newLine (level : Nat) (rest : List Char) :
    scanFrom ⟨.outside, tokens⟩ (newLine level ++ rest) = scanFrom ⟨.outside, tokens⟩ rest := by
  have spaces : ∀ n, scanFrom ⟨.outside, tokens⟩ (List.replicate n ' ' ++ rest) =
      scanFrom ⟨.outside, tokens⟩ rest := by
    intro n
    induction n with
    | zero => rfl
    | succ n ih =>
      rw [List.replicate_succ, List.cons_append, scanFrom_gap tokens (by decide)]
      exact ih
  rw [newLine, List.cons_append, scanFrom_gap tokens (by decide)]
  exact spaces _

/-! ## Strings -/

/-- What a written character is read as: the control characters without a letter of their own by their number. -/
def pieceOf (c : Char) : Piece :=
  if c = '\n' ∨ c = '\r' ∨ c = '\t' ∨ c.toNat = 8 ∨ c.toNat = 12 then .char c
  else if c.toNat < 32 then .unit c.toNat
  else .char c

theorem pieceOf_eq (c : Char) : pieceOf c = .char c ∨ c.toNat < 32 ∧ pieceOf c = .unit c.toNat := by
  rw [pieceOf]
  split
  · exact .inl rfl
  · split
    · exact .inr ⟨‹_›, rfl⟩
    · exact .inl rfl

theorem chars?_unit {n : Nat} (h : n < 0xD800) (rest : List Piece) :
    Piece.chars? (.unit n :: rest) = (Char.ofNat n :: ·) <$> Piece.chars? rest := by
  cases rest with
  | nil => simp [Piece.chars?, h]
  | cons p rest => cases p <;> simp [Piece.chars?, h]

theorem chars?_map_pieceOf (cs : List Char) : Piece.chars? (cs.map pieceOf) = some cs := by
  induction cs with
  | nil => rfl
  | cons c rest ih =>
    rcases pieceOf_eq c with hc | ⟨hlow, hc⟩
    · rw [List.map_cons, hc, Piece.chars?, ih]
      rfl
    · rw [List.map_cons, hc, chars?_unit (by omega), ih, Char.ofNat_toNat]
      rfl

theorem digitBelow?_digitChar : ∀ d < 16, digitBelow? 16 (Nat.digitChar d) = some d := by
  decide

section
variable (done : List Piece)

theorem step_string (c : Char) : step ⟨.string done, tokens⟩ c =
    if c = '"' then some ⟨.outside, .string ((Piece.chars? done.reverse).map String.ofList) :: tokens⟩
    else if c = '\\' then some ⟨.escape done, tokens⟩
    else if c.toNat < 32 then none
    else some ⟨.string (.char c :: done), tokens⟩ := rfl

theorem step_escape (c : Char) : step ⟨.escape done, tokens⟩ c =
    if c = 'u' then some ⟨.unit done 0 0, tokens⟩
    else (fun d => ⟨.string (.char d :: done), tokens⟩) <$> ofEscape? c := rfl

/-- A backslash and a letter write one character. -/
theorem scanFrom_letter {c letter : Char} (hne : letter ≠ 'u') (h : ofEscape? letter = some c) (rest : List Char) :
    scanFrom ⟨.string done, tokens⟩ ('\\' :: letter :: rest) = scanFrom ⟨.string (.char c :: done), tokens⟩ rest := by
  rw [scanFrom_cons (t := ⟨.escape done, tokens⟩) rfl]
  refine scanFrom_cons ?_ rest
  rw [step_escape, if_neg hne, h]
  rfl

/-- Four digits write a code unit. -/
theorem scanFrom_unit {a b : Char} {high low : Nat} (ha : digitBelow? 16 a = some high)
    (hb : digitBelow? 16 b = some low) (rest : List Char) :
    scanFrom ⟨.string done, tokens⟩ ('\\' :: 'u' :: '0' :: '0' :: a :: b :: rest) =
      scanFrom ⟨.string (.unit (16 * high + low) :: done), tokens⟩ rest := by
  have hstep : ∀ {digits value d c}, digitBelow? 16 c = some d → step ⟨.unit done digits value, tokens⟩ c =
      if digits = 3 then some ⟨.string (.unit (16 * value + d) :: done), tokens⟩
      else some ⟨.unit done (digits + 1) (16 * value + d), tokens⟩ := by
    intro digits value d c hc
    simp only [step, hc]
    rfl
  rw [scanFrom_cons (t := ⟨.escape done, tokens⟩) rfl, scanFrom_cons (t := ⟨.unit done 0 0, tokens⟩) rfl,
    scanFrom_cons (t := ⟨.unit done 1 0, tokens⟩) rfl, scanFrom_cons (t := ⟨.unit done 2 0, tokens⟩) rfl,
    scanFrom_cons (hstep ha), scanFrom_cons (hstep hb)]
  simp

theorem scanFrom_escape (c : Char) (rest : List Char) :
    scanFrom ⟨.string done, tokens⟩ (escape c ++ rest) = scanFrom ⟨.string (pieceOf c :: done), tokens⟩ rest := by
  by_cases hquote : c = '"'
  · subst hquote
    exact scanFrom_letter tokens done (by decide) rfl rest
  by_cases hback : c = '\\'
  · subst hback
    exact scanFrom_letter tokens done (by decide) rfl rest
  by_cases hshort : c = '\n' ∨ c = '\r' ∨ c = '\t' ∨ c.toNat = 8 ∨ c.toNat = 12
  · have hpiece : pieceOf c = .char c := if_pos hshort
    rw [hpiece]
    rcases hshort with rfl | rfl | rfl | h | h
    · exact scanFrom_letter tokens done (by decide) rfl rest
    · exact scanFrom_letter tokens done (by decide) rfl rest
    · exact scanFrom_letter tokens done (by decide) rfl rest
    · obtain rfl : c = Char.ofNat 8 := by rw [← h, Char.ofNat_toNat]
      exact scanFrom_letter tokens done (by decide) rfl rest
    · obtain rfl : c = Char.ofNat 12 := by rw [← h, Char.ofNat_toNat]
      exact scanFrom_letter tokens done (by decide) rfl rest
  -- What is left has no letter of its own: control characters are written by number, all others stand for themselves.
  simp only [not_or] at hshort
  obtain ⟨hn, hr, ht, h8, h12⟩ := hshort
  by_cases hlow : c.toNat < 32
  · have hescape : escape c = ['\\', 'u', '0', '0', Nat.digitChar (c.toNat / 16), Nat.digitChar (c.toNat % 16)] := by
      simp [escape, hquote, hback, hn, hr, ht, h8, h12, hlow]
    have hpiece : pieceOf c = .unit (16 * (c.toNat / 16) + c.toNat % 16) := by
      rw [show 16 * (c.toNat / 16) + c.toNat % 16 = c.toNat by omega]
      simp [pieceOf, hn, hr, ht, h8, h12, hlow]
    rw [hescape, hpiece]
    exact scanFrom_unit tokens done (digitBelow?_digitChar _ (by omega)) (digitBelow?_digitChar _ (by omega)) rest
  · have hescape : escape c = [c] := by simp [escape, hquote, hback, hn, hr, ht, h8, h12, hlow]
    have hpiece : pieceOf c = .char c := by simp [pieceOf, hlow]
    rw [hescape, hpiece]
    refine scanFrom_cons ?_ rest
    rw [step_string, if_neg hquote, if_neg hback, if_neg hlow]

end

theorem scanFrom_flatMap_escape (cs : List Char) (done : List Piece) (rest : List Char) :
    scanFrom ⟨.string done, tokens⟩ (cs.flatMap escape ++ rest) =
      scanFrom ⟨.string ((cs.map pieceOf).reverse ++ done), tokens⟩ rest := by
  induction cs generalizing done with
  | nil => rfl
  | cons c cs ih =>
    rw [List.flatMap_cons, List.append_assoc, scanFrom_escape, ih, List.map_cons, List.reverse_cons,
      List.append_assoc]
    rfl

/-- A written string is cut off as one token. -/
theorem scanFrom_quote (text : Option String) (rest : List Char) :
    scanFrom ⟨.outside, tokens⟩ (quote text ++ rest) = scanFrom ⟨.outside, .string text :: tokens⟩ rest := by
  cases text with
  | none => rfl
  | some s =>
    have hclose : step ⟨.string ((s.toList.map pieceOf).reverse ++ []), tokens⟩ '"' =
        some ⟨.outside, .string (some s) :: tokens⟩ := by
      rw [step_string, if_pos rfl, List.append_nil, List.reverse_reverse, chars?_map_pieceOf]
      simp
    rw [quote, List.cons_append, List.cons_append, scanFrom_cons (t := ⟨.string [], tokens⟩) rfl,
      List.append_assoc, scanFrom_flatMap_escape, List.singleton_append, scanFrom_cons hclose]

/-! ## Words -/

theorem step_word (done : List Char) (c : Char) : step ⟨.word done, tokens⟩ c =
    if isWordChar c then some ⟨.word (c :: done), tokens⟩
    else (ofWord? done.reverse).bind fun token => stepOutside (token :: tokens) c := rfl

theorem scanFrom_wordChars (word done rest : List Char) (h : ∀ c ∈ word, isWordChar c = true) :
    scanFrom ⟨.word done, tokens⟩ (word ++ rest) = scanFrom ⟨.word (word.reverse ++ done), tokens⟩ rest := by
  induction word generalizing done with
  | nil => rfl
  | cons c word ih =>
    have hstep : step ⟨.word done, tokens⟩ c = some ⟨.word (c :: done), tokens⟩ := by
      rw [step_word, if_pos (h c List.mem_cons_self)]
    rw [List.cons_append, scanFrom_cons hstep, ih _ fun d hd => h d (List.mem_cons_of_mem c hd),
      List.reverse_cons, List.append_assoc]
    rfl

theorem scanFrom_endsWord {word rest : List Char} {token : Token} (hword : ofWord? word = some token)
    (hrest : EndsWord rest) :
    scanFrom ⟨.word word.reverse, tokens⟩ rest = scanFrom ⟨.outside, token :: tokens⟩ rest := by
  -- A word ends at the end of the text or at a character that is cut off after it.
  cases rest with
  | nil =>
    show (fun token => (token :: tokens).reverse) <$> ofWord? word.reverse.reverse = some (token :: tokens).reverse
    rw [List.reverse_reverse, hword]
    rfl
  | cons c rest =>
    rw [scanFrom, scanFrom, List.foldlM_cons, List.foldlM_cons, step_word, if_neg (by simp [hrest c rfl]),
      List.reverse_reverse, hword, step_outside]
    rfl

theorem step_wordChar {c : Char} (h : isWordChar c = true) : step ⟨.outside, tokens⟩ c = some ⟨.word [c], tokens⟩ := by
  have hne : ∀ d, isWordChar d = false → c ≠ d := by
    rintro d hd rfl
    rw [h] at hd
    cases hd
  have hgap : isGap c = false := by
    simp [isGap, hne ' ' (by decide), hne '\n' (by decide), hne '\t' (by decide), hne '\r' (by decide)]
  rw [step_outside, stepOutside, if_neg (by simp [hgap]), if_neg (hne '"' (by decide)), if_pos h]

/-- A word is cut off as the token it writes, where it ends. -/
theorem scanFrom_word {word rest : List Char} {token : Token} (hword : ofWord? word = some token) (hne : word ≠ [])
    (hchars : ∀ c ∈ word, isWordChar c = true) (hrest : EndsWord rest) :
    scanFrom ⟨.outside, tokens⟩ (word ++ rest) = scanFrom ⟨.outside, token :: tokens⟩ rest := by
  cases word with
  | nil => exact absurd rfl hne
  | cons c word =>
    rw [List.cons_append, scanFrom_cons (step_wordChar tokens (hchars c List.mem_cons_self)),
      scanFrom_wordChars _ _ _ _ fun d hd => hchars d (List.mem_cons_of_mem c hd), ← List.reverse_cons]
    exact scanFrom_endsWord tokens hword hrest

end

end Token

end CallGuard.Json
