/-!
# UTF-8

Texts are exchanged as bytes in UTF-8. Writing takes each character apart into six-bit
groups. Reading accepts exactly the shortest form of each character: what may follow a
first byte is listed in `Utf8.lead?`, and the ranges there leave no room for overlong
forms, surrogates or code points beyond the last.

When bytes are refused, the fault says where and why. A sequence that breaks off inside the
text is invalid, and its length is the number of bytes that fitted before the one that did
not; a sequence that is cut off by the end of the text is incomplete.

## Main results

* `Utf8.length_encodeChar`: the number of bytes written for a character is its size in
  UTF-8 as the core library counts it.
* `Utf8.length_lt_of_front`: each character that is read takes at least one byte.
* `Utf8.decodeOnto_eq`: the characters already read only stand before the others.
-/

namespace QueryScan

namespace Utf8

/-! ### Writing -/

/-- A byte that continues a character, with the six low bits of `n`. -/
def continuation (n : Nat) : UInt8 :=
  UInt8.ofNat (0x80 + n % 0x40)

/-- The bytes of a character. -/
def encodeChar (c : Char) : List UInt8 :=
  let n := c.toNat
  if n < 0x80 then
    [UInt8.ofNat n]
  else if n < 0x800 then
    [UInt8.ofNat (0xC0 + n / 0x40), continuation n]
  else if n < 0x10000 then
    [UInt8.ofNat (0xE0 + n / 0x1000), continuation (n / 0x40), continuation n]
  else
    [UInt8.ofNat (0xF0 + n / 0x40000), continuation (n / 0x1000), continuation (n / 0x40),
      continuation n]

/-- The bytes of a text. -/
def encode (cs : List Char) : List UInt8 :=
  cs.flatMap encodeChar

/-- A character takes as many bytes as the core library counts for it. -/
theorem length_encodeChar (c : Char) : (encodeChar c).length = c.utf8Size := by
  have hn : c.toNat = c.val.toNat := rfl
  simp only [encodeChar, Char.utf8Size, UInt32.le_iff_toNat_le, UInt32.toNat_ofNatLT, hn]
  repeat' split
  all_goals simp only [List.length_cons, List.length_nil, Nat.reduceAdd]
  all_goals omega

/-! ### Reading -/

/-- Why bytes are no text. -/
inductive Fault where
  /-- The sequence at `index` is broken off after `length` bytes. -/
  | invalid (length index : Nat)
  /-- The sequence at `index` is cut off by the end. -/
  | incomplete (index : Nat)
  deriving DecidableEq, Repr

/-- The fault in words. -/
def Fault.message : Fault → String
  | invalid length index =>
    "invalid utf-8 sequence of " ++ toString length ++ " bytes from index " ++ toString index
  | incomplete index => "incomplete utf-8 byte sequence from index " ++ toString index

/-- What a first byte announces. -/
structure Lead where
  /-- The bits of the character that the first byte holds. -/
  bits : Nat
  /-- The least and the greatest byte allowed at each of the places that follow. -/
  follow : List (Nat × Nat)

/-- The range of a continuation byte that nothing restricts. -/
def anyContinuation : Nat × Nat :=
  (0x80, 0xBF)

/-- What a byte announces if it is the first of a character. -/
def lead? (b : Nat) : Option Lead :=
  if b < 0x80 then some ⟨b, []⟩
  else if b < 0xC2 then none
  else if b < 0xE0 then some ⟨b - 0xC0, [anyContinuation]⟩
  else if b = 0xE0 then some ⟨0, [(0xA0, 0xBF), anyContinuation]⟩
  else if b = 0xED then some ⟨0xD, [(0x80, 0x9F), anyContinuation]⟩
  else if b < 0xF0 then some ⟨b - 0xE0, [anyContinuation, anyContinuation]⟩
  else if b = 0xF0 then some ⟨0, [(0x90, 0xBF), anyContinuation, anyContinuation]⟩
  else if b < 0xF4 then some ⟨b - 0xF0, [anyContinuation, anyContinuation, anyContinuation]⟩
  else if b = 0xF4 then some ⟨4, [(0x80, 0x8F), anyContinuation, anyContinuation]⟩
  else none

/-- What stands at the front of some bytes. -/
inductive Front where
  /-- A character of `used` bytes, and the bytes after it. -/
  | char (c : Char) (used : Nat) (rest : List UInt8)
  /-- A sequence that breaks off after `length` bytes. -/
  | invalid (length : Nat)
  /-- A sequence that the end cuts off. -/
  | incomplete

/-- Reads the bytes that follow, each in its range, onto the bits read so far. -/
def readFollow (bits used : Nat) : List (Nat × Nat) → List UInt8 → Front
  | [], rest => .char (Char.ofNat bits) used rest
  | _ :: _, [] => .incomplete
  | (low, high) :: ranges, b :: rest =>
    if low ≤ b.toNat ∧ b.toNat ≤ high then
      readFollow (bits * 0x40 + (b.toNat - 0x80)) (used + 1) ranges rest
    else
      .invalid used

/-- What stands at the front of the byte `b` and the bytes after it. -/
def front (b : UInt8) (rest : List UInt8) : Front :=
  match lead? b.toNat with
  | none => .invalid 1
  | some lead => readFollow lead.bits 1 lead.follow rest

/-- What is left after a character is part of what followed the first byte. -/
theorem length_le_of_readFollow {bits used : Nat} {ranges : List (Nat × Nat)}
    {bs rest : List UInt8} {c : Char} {n : Nat}
    (h : readFollow bits used ranges bs = .char c n rest) : rest.length ≤ bs.length := by
  induction ranges generalizing bits used bs with
  | nil =>
    simp only [readFollow, Front.char.injEq] at h
    obtain ⟨-, -, rfl⟩ := h
    exact Nat.le_refl _
  | cons range ranges ih =>
    cases bs with
    | nil => simp [readFollow] at h
    | cons b bs =>
      obtain ⟨low, high⟩ := range
      rw [readFollow] at h
      split at h
      · have := ih h
        simp only [List.length_cons]
        omega
      · simp at h

/-- Each character takes at least one byte. -/
theorem length_lt_of_front {b : UInt8} {bs rest : List UInt8} {c : Char} {n : Nat}
    (h : front b bs = .char c n rest) : rest.length < (b :: bs).length := by
  unfold front at h
  split at h
  · simp at h
  · have := length_le_of_readFollow h
    simp only [List.length_cons]
    omega

/-- Reads characters until the end or a fault, adding to those already read. -/
def decodeOnto (done : Array Char) (index : Nat) (bs : List UInt8) : Except Fault (List Char) :=
  match bs with
  | [] => .ok done.toList
  | b :: bs' =>
    match h : front b bs' with
    | .char c used rest =>
      have := length_lt_of_front h
      decodeOnto (done.push c) (index + used) rest
    | .invalid length => .error (.invalid length index)
    | .incomplete => .error (.incomplete index)
termination_by bs.length
decreasing_by exact this

/-- The characters already read only stand before the others. -/
theorem decodeOnto_eq (done : Array Char) (index : Nat) (bs : List UInt8) :
    decodeOnto done index bs = (decodeOnto #[] index bs).map (done.toList ++ ·) := by
  suffices h : ∀ (done before : Array Char), decodeOnto (before ++ done) index bs =
      (decodeOnto done index bs).map (before.toList ++ ·) by
    simpa using h #[] done
  intro done
  fun_induction decodeOnto done index bs with
  | case1 => intro before; simp [decodeOnto, Except.map]
  | case2 done index b bs c used rest hf _ ih =>
    intro before
    rw [decodeOnto]
    split
    · rename_i hf'
      rw [hf] at hf'
      obtain ⟨rfl, rfl, rfl⟩ := Front.char.inj hf'
      rw [← ih before, Array.append_push]
    · simp_all
    · simp_all
  | case3 done index b bs length hf =>
    intro before
    rw [decodeOnto]
    split <;> simp_all [Except.map]
  | case4 done index b bs hf =>
    intro before
    rw [decodeOnto]
    split <;> simp_all [Except.map]

/-- The text that some bytes stand for. -/
def decode (bs : List UInt8) : Except Fault (List Char) :=
  decodeOnto #[] 0 bs

end Utf8

end QueryScan
