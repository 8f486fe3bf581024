import QueryScan.Text.Utf8
import QueryScan.Token.Basic

/-!
# The binary form of tokens

Tokens are stored and sent as bytes. Numbers are little endian. A kind is its index in four
bytes; a text is the number of its UTF-8 bytes, in eight bytes, and those bytes; a token is
its kind and its text; a list of tokens is its length, in eight bytes, and the tokens.

A reader takes what it needs from the front of the bytes and returns the rest, so bytes
after the value do no harm. The first thing that goes wrong decides the error: a number
that is cut off, an index of no kind, a text that is longer than what is left, or bytes
that are no text.

## Main results

* `Binary.readNat_writeNat`: a number that fits its field is read back, whatever follows.
* `Binary.readTokensOnto_eq`: the tokens already read only stand before the others.
-/

namespace QueryScan

namespace Binary

/-- Why bytes are no token. -/
inductive Error where
  /-- The bytes end inside a number. -/
  | numberCutOff
  /-- The bytes end inside a text. -/
  | textCutOff
  /-- No kind has this index. -/
  | unknownKind (index : Nat)
  /-- The bytes of a text are not UTF-8. -/
  | badText (fault : Utf8.Fault)
  deriving DecidableEq, Repr

/-- The error in words. -/
def Error.message : Error → String
  | numberCutOff => "io error: unexpected end of file"
  | textCutOff => "io error: "
  | unknownKind index =>
    "invalid value: integer `" ++ toString index ++ "`, expected variant index 0 <= i < 8"
  | badText fault => "string is not valid utf8: " ++ fault.message

/-! ### Writing -/

/-- A number in `width` bytes, the least significant first. -/
def writeNat : Nat → Nat → List UInt8
  | 0, _ => []
  | width + 1, n => UInt8.ofNat n :: writeNat width (n / 256)

/-- The bytes of a kind. -/
def writeKind (k : Kind) : List UInt8 :=
  writeNat 4 k.index

/-- The bytes of a text. -/
def writeText (s : String) : List UInt8 :=
  let bytes := Utf8.encode s.toList
  writeNat 8 bytes.length ++ bytes

/-- The bytes of a token. -/
def writeToken (t : Token) : List UInt8 :=
  writeKind t.kind ++ writeText t.text

/-- The bytes of a list of tokens. -/
def writeTokens (ts : List Token) : List UInt8 :=
  writeNat 8 ts.length ++ ts.flatMap writeToken

/-! ### Reading -/

/-- Takes a value from the front of some bytes. -/
abbrev Reader (α : Type) := List UInt8 → Except Error (α × List UInt8)

/-- Reads a number of `width` bytes. -/
def readNat : Nat → Reader Nat
  | 0, bs => .ok (0, bs)
  | _ + 1, [] => .error .numberCutOff
  | width + 1, b :: bs => do
    let (n, rest) ← readNat width bs
    return (b.toNat + 256 * n, rest)

/-- Reads a kind. -/
def readKind : Reader Kind := fun bs => do
  let (index, rest) ← readNat 4 bs
  match Kind.ofIndex? index with
  | some k => return (k, rest)
  | none => throw (.unknownKind index)

/-- Reads a text. Its length is checked before its bytes are looked at. -/
def readText : Reader String := fun bs => do
  let (size, rest) ← readNat 8 bs
  let (bytes, rest) := rest.splitAt size
  if bytes.length < size then
    throw .textCutOff
  match Utf8.decode bytes with
  | .ok cs => return (String.ofList cs, rest)
  | .error fault => throw (.badText fault)

/-- Reads a token. -/
def readToken : Reader Token := fun bs => do
  let (kind, rest) ← readKind bs
  let (text, rest) ← readText rest
  return (⟨kind, text⟩, rest)

/-- Reads `n` tokens, adding to those already read. -/
def readTokensOnto : Nat → Array Token → Reader (List Token)
  | 0, done, bs => .ok (done.toList, bs)
  | n + 1, done, bs =>
    match readToken bs with
    | .ok (t, rest) => readTokensOnto n (done.push t) rest
    | .error e => .error e

/-- The tokens already read only stand before the others. -/
theorem readTokensOnto_eq (n : Nat) (done : Array Token) (bs : List UInt8) :
    readTokensOnto n done bs =
      (readTokensOnto n #[] bs).map fun (ts, rest) => (done.toList ++ ts, rest) := by
  induction n generalizing done bs with
  | zero => simp [readTokensOnto, Except.map]
  | succ n ih =>
    simp only [readTokensOnto]
    split
    · rename_i t rest _
      rw [ih (done.push t), ih (#[].push t)]
      cases readTokensOnto n #[] rest <;> simp [Except.map]
    · rfl

/-- Reads a list of tokens. -/
def readTokens : Reader (List Token) := fun bs => do
  let (n, rest) ← readNat 8 bs
  readTokensOnto n #[] rest

/-- The value at the front of some bytes; what follows it is ignored. -/
def decode {α : Type} (reader : Reader α) (bs : List UInt8) : Except Error α :=
  (reader bs).map Prod.fst

/-- A number that fits its field is read back, whatever follows. -/
theorem readNat_writeNat {width n : Nat} (h : n < Nat.pow 256 width) (rest : List UInt8) :
    readNat width (writeNat width n ++ rest) = .ok (n, rest) := by
  induction width generalizing n with
  | zero =>
    obtain rfl : n = 0 := Nat.lt_one_iff.1 h
    rfl
  | succ width ih =>
    have hdiv : n / 256 < Nat.pow 256 width := by
      change n < Nat.pow 256 width * 256 at h
      omega
    simp only [writeNat, List.cons_append, readNat, ih hdiv, bind, Except.bind, pure, Except.pure,
      UInt8.toNat_ofNat']
    congr 2
    omega

end Binary

end QueryScan
