import CallGuard.Call.Word

/-! # Frames

A frame holds the arguments of a call as the words they fill, before the padding of addresses is looked at. Writing lays
the words out in their one canonical way; reading follows the offset of the route wherever it points, so it also takes
routes that overlap the other words or stand apart from them, and leaves out what follows. -/

namespace CallGuard

/-- Why arguments do not follow the layout of their function. -/
inductive LayoutFault where
  /-- A word reaches past the end. -/
  | overrun
  /-- The payload starts with these bytes instead of the selector of the function. -/
  | otherSelector (start : Bytes)
  /-- An offset or a length does not fit 64 bits. -/
  | wideSize (word : Word)
  /-- An address is not preceded by zeros; these are all the words read, written as one value. -/
  | dirtyAddress (value : Bytes)
  /-- A route claims more elements than can ever be addressed. -/
  | unaddressableArray
  /-- A route claims more elements than memory can be set aside for, and they are not all there. -/
  | unheldArray
  deriving DecidableEq

/-- The arguments of a call as words. -/
inductive Frame where
  | swap (amountOut amountInMax : Word) (path : List Word) (recipient deadline : Word)
  | transfer (recipient amount : Word)
  | approve (spender amount : Word)
  deriving DecidableEq

namespace Frame

/-- The bytes of words in order. -/
def bytesOf (words : List Word) : Bytes :=
  words.flatMap (·.bytes)

/-- The words in their canonical layout: the route stands behind the other words, its length first. -/
def encode : Frame → Bytes
  | .swap amountOut amountInMax path recipient deadline =>
    bytesOf ([amountOut, amountInMax, Word.ofNat 160, recipient, deadline, Word.ofNat path.length] ++ path)
  | .transfer recipient amount => bytesOf [recipient, amount]
  | .approve spender amount => bytesOf [spender, amount]

/-- The words as one value of the tuple of arguments; a tuple of varying size is preceded by its offset. -/
def encodeValue : Frame → Bytes
  | .swap amountOut amountInMax path recipient deadline =>
    bytesOf [Word.ofNat 32] ++ encode (.swap amountOut amountInMax path recipient deadline)
  | frame => frame.encode

/-- The first word of a byte string, and what follows it. -/
def takeWord (bs : Bytes) : Except LayoutFault (Word × Bytes) :=
  let word := bs.take 32
  if h : word.length = 32 then .ok (⟨word, h⟩, bs.drop 32) else .error .overrun

/-- The first words of a byte string. -/
def takeWords : Nat → Bytes → Except LayoutFault (List Word)
  | 0, _ => .ok []
  | count + 1, bs => do
    let (word, rest) ← takeWord bs
    let words ← takeWords count rest
    return word :: words

/-- The word at a position. -/
def wordAt (args : Bytes) (position : Nat) : Except LayoutFault Word :=
  (takeWord (args.drop position)).map (·.1)

/-- The offset or length that the word at a position holds. -/
def sizeAt (args : Bytes) (position : Nat) : Except LayoutFault Nat := do
  let word ← wordAt args position
  if word.toNat < UInt64.size then return word.toNat else throw (.wideSize word)

/-- The least number of words that cannot be addressed. -/
def addressableWords : Nat := 1 <<< 58

/-- The least number of words for which no memory is set aside before they are seen. -/
def reservedWords : Nat := 1 <<< 30

/-- The array at a position: its length, then its elements. -/
def arrayAt (args : Bytes) (position : Nat) : Except LayoutFault (List Word) := do
  let count ← sizeAt args position
  let elements := args.drop (position + 32)
  if addressableWords ≤ count then throw .unaddressableArray
  if reservedWords ≤ count ∧ elements.length < 32 * count then throw .unheldArray
  takeWords count elements

/-- The words that the arguments of a function fill. -/
def read (f : Function) (args : Bytes) : Except LayoutFault Frame :=
  match f with
  | .swap => do
    let amountOut ← wordAt args 0
    let amountInMax ← wordAt args 32
    let offset ← sizeAt args 64
    let path ← arrayAt args offset
    let recipient ← wordAt args 96
    let deadline ← wordAt args 128
    return .swap amountOut amountInMax path recipient deadline
  | .transfer => do
    let recipient ← wordAt args 0
    let amount ← wordAt args 32
    return .transfer recipient amount
  | .approve => do
    let spender ← wordAt args 0
    let amount ← wordAt args 32
    return .approve spender amount

/-- The call whose arguments fill the words, if every address is preceded by zeros. -/
def call? : Frame → Option Call
  | .swap amountOut amountInMax path recipient deadline => do
    let path ← path.mapM Word.address?
    let recipient ← recipient.address?
    return .swap ⟨amountOut.amount, amountInMax.amount, path, recipient, deadline.amount⟩
  | .transfer recipient amount => do
    let recipient ← recipient.address?
    return .transfer ⟨recipient, amount.amount⟩
  | .approve spender amount => do
    let spender ← spender.address?
    return .approve ⟨spender, amount.amount⟩

end Frame

/-- The words that the arguments of a call fill. -/
def Call.frame : Call → Frame
  | .swap args =>
    .swap (.ofAmount args.amountOut) (.ofAmount args.amountInMax) (args.path.map .ofAddress) (.ofAddress args.recipient)
      (.ofAmount args.deadline)
  | .transfer args => .transfer (.ofAddress args.recipient) (.ofAmount args.amount)
  | .approve args => .approve (.ofAddress args.spender) (.ofAmount args.amount)

end CallGuard
