import QueryScan.Proofs.Outcome
import QueryScan.Proofs.ShortestForm
import QueryScan.Token.Binary

/-!
# The Binary Form is Canonical

What is written can be read back, whatever follows it; and bytes can be read only if they
begin with what is written for the value that is read. The two together say that a reader is
**exact** for its writer. Readers are made of readers, and exactness is handed up from the
fields to the tokens and from the tokens to their lists.

The one condition is that a length fits its field: a text has fewer than `2 ^ 64` bytes and a
list fewer than `2 ^ 64` tokens. Values that are read meet it by themselves.

## Main results

* `exact_readNat`, `exact_readKind`, `exact_readText`, `exact_readToken`,
  `exact_readTokens`: every reader is exact.
* `decode_eq_ok_iff_prefix`: **lists of tokens, tokens and kinds** are read from precisely the
  bytes that begin with what is written for them.
-/

namespace QueryScan

namespace Binary

/-- A reader is **exact** if it takes from the front of some bytes precisely the values that
fit, each in the bytes that are written for it. -/
def Exact {α : Type} (fits : α → Prop) (write : α → List UInt8) (read : Reader α) : Prop :=
  ∀ bs x rest, read bs = .ok (x, rest) ↔ fits x ∧ write x ++ rest = bs

/-- A text fits if its length does. -/
def TextFits (s : String) : Prop :=
  s.utf8ByteSize < UInt64.size

/-- A token fits if its text does. -/
def TokenFits (t : Token) : Prop :=
  TextFits t.text

/-- A list of tokens fits if its length and all tokens do. -/
def TokensFit (ts : List Token) : Prop :=
  ts.length < UInt64.size ∧ ∀ t ∈ ts, TokenFits t

/-! ### Fields -/

/-- **Numbers** are read from the bytes that are written for them. -/
theorem exact_readNat (width : Nat) :
    Exact (· < Nat.pow 256 width) (writeNat width) (readNat width) := by
  induction width with
  | zero =>
      intro bs n rest
      constructor
      · intro h
        obtain ⟨rfl, rfl⟩ := Prod.mk.inj (Except.ok.inj h)
        exact ⟨Nat.one_pos, rfl⟩
      · rintro ⟨hn, rfl⟩
        exact readNat_writeNat hn rest
  | succ width ih =>
      intro bs n rest
      constructor
      · intro h
        cases bs with
        | nil => exact absurd h (by simp [readNat])
        | cons b bs =>
            rw [readNat, bind_eq_ok_iff] at h
            obtain ⟨⟨m, rest'⟩, hm, h⟩ := h
            obtain ⟨rfl, rfl⟩ := Prod.mk.inj (Except.ok.inj h)
            obtain ⟨hlt, rfl⟩ := (ih _ _ _).mp hm
            have hb := b.toNat_lt
            have hdiv : (b.toNat + 256 * m) / 256 = m := by omega
            have hmod : UInt8.ofNat (b.toNat + 256 * m) = b := by
              rw [← UInt8.toNat_inj, UInt8.toNat_ofNat']
              omega
            refine ⟨?_, by rw [writeNat, hdiv, hmod]; rfl⟩
            change b.toNat + 256 * m < Nat.pow 256 width * 256
            omega
      · rintro ⟨hn, rfl⟩
        exact readNat_writeNat hn rest

/-- A number that has been read decides the kind. -/
theorem readKind_of_readNat {bs rest : List UInt8} {index : Nat}
    (h : readNat 4 bs = .ok (index, rest)) :
    readKind bs = match Kind.ofIndex? index with
      | some k => .ok (k, rest)
      | none => .error (.unknownKind index) := by
  rw [readKind, h]
  rfl

/-- A length that has been read says how many bytes the text has. -/
theorem readText_of_readNat {bs rest : List UInt8} {size : Nat}
    (h : readNat 8 bs = .ok (size, rest)) :
    readText bs =
      if rest.length < size then .error .textCutOff
      else match Utf8.decode (rest.take size) with
        | .ok cs => .ok (String.ofList cs, rest.drop size)
        | .error fault => .error (.badText fault) := by
  have hshort : (rest.take size).length < size ↔ rest.length < size := by
    rw [List.length_take]
    omega
  rw [readText, h]
  simp only [bind, Except.bind, List.splitAt_eq, hshort]
  rfl

/-- **Kinds** are read from the bytes that are written for them. -/
theorem exact_readKind : Exact (fun _ => True) writeKind readKind := by
  intro bs k rest
  constructor
  · intro h
    obtain ⟨⟨index, rest'⟩, hn, -⟩ := bind_eq_ok_iff.mp h
    rw [readKind_of_readNat hn] at h
    split at h
    · rename_i k' hk
      obtain ⟨rfl, rfl⟩ := Prod.mk.inj (Except.ok.inj h)
      obtain ⟨-, rfl⟩ := (exact_readNat 4 _ _ _).mp hn
      rw [writeKind, Kind.index_of_ofIndex? hk]
      exact ⟨trivial, rfl⟩
    · exact absurd h (by simp)
  · rintro ⟨-, rfl⟩
    have hlt : k.index < Nat.pow 256 4 := by cases k <;> decide
    rw [writeKind, readKind_of_readNat (readNat_writeNat hlt rest), Kind.ofIndex?_index]

/-- **Texts** are read from the bytes that are written for them. -/
theorem exact_readText : Exact TextFits writeText readText := by
  intro bs s rest
  constructor
  · intro h
    obtain ⟨⟨size, rest'⟩, hn, -⟩ := bind_eq_ok_iff.mp h
    rw [readText_of_readNat hn] at h
    split at h
    · exact absurd h (by simp)
    · rename_i hlen
      split at h
      · rename_i cs hcs
        obtain ⟨rfl, rfl⟩ := Prod.mk.inj (Except.ok.inj h)
        obtain ⟨hlt, rfl⟩ := (exact_readNat 8 _ _ _).mp hn
        have hbytes : Utf8.encode (String.ofList cs).toList = rest'.take size := by
          rw [String.toList_ofList]
          exact Utf8.decode_eq_ok_iff.mp hcs
        have hsize : (rest'.take size).length = size := by
          rw [List.length_take]
          omega
        refine ⟨?_, ?_⟩
        · rw [TextFits, ← Utf8.length_encode, hbytes, hsize]
          exact hlt
        · simp only [writeText, hbytes, hsize, List.append_assoc, List.take_append_drop]
      · exact absurd h (by simp)
  · rintro ⟨hfits, rfl⟩
    have hlt : (Utf8.encode s.toList).length < Nat.pow 256 8 := by
      rw [Utf8.length_encode]
      exact hfits
    have hn := readNat_writeNat hlt (Utf8.encode s.toList ++ rest)
    rw [writeText, List.append_assoc, readText_of_readNat hn,
      if_neg (by rw [List.length_append]; omega), List.take_left, List.drop_left,
      Utf8.decode_eq_ok_iff.mpr rfl]
    simp only [String.ofList_toList]

/-! ### Tokens -/

/-- **Tokens** are read from the bytes that are written for them. -/
theorem exact_readToken : Exact TokenFits writeToken readToken := by
  intro bs t rest
  constructor
  · intro h
    obtain ⟨⟨kind, bs'⟩, hk, h⟩ := bind_eq_ok_iff.mp h
    obtain ⟨⟨text, rest'⟩, ht, h⟩ := bind_eq_ok_iff.mp h
    obtain ⟨rfl, rfl⟩ := Prod.mk.inj (Except.ok.inj h)
    obtain ⟨-, rfl⟩ := (exact_readKind _ _ _).mp hk
    obtain ⟨hfits, rfl⟩ := (exact_readText _ _ _).mp ht
    exact ⟨hfits, List.append_assoc _ _ _⟩
  · rintro ⟨hfits, rfl⟩
    rw [writeToken, List.append_assoc, readToken, (exact_readKind _ _ _).mpr ⟨trivial, rfl⟩]
    simp only [bind, Except.bind, (exact_readText _ _ _).mpr ⟨hfits, rfl⟩]
    rfl

/-- So many tokens are read, one after the other and after those already read, from the bytes
that are written for them. -/
theorem readTokensOnto_eq_ok_iff {n : Nat} {done : Array Token} {bs rest : List UInt8}
    {ts : List Token} :
    readTokensOnto n done bs = .ok (ts, rest) ↔
      ∃ tail, ts = done.toList ++ tail ∧ tail.length = n ∧ (∀ t ∈ tail, TokenFits t) ∧
        tail.flatMap writeToken ++ rest = bs := by
  induction n generalizing done bs with
  | zero =>
      rw [readTokensOnto]
      constructor
      · intro h
        obtain ⟨rfl, rfl⟩ := Prod.mk.inj (Except.ok.inj h)
        exact ⟨[], by simp, rfl, by simp, rfl⟩
      · rintro ⟨tail, rfl, hlen, -, rfl⟩
        obtain rfl := List.length_eq_zero_iff.mp hlen
        simp
  | succ n ih =>
      rw [readTokensOnto]
      constructor
      · intro h
        split at h
        · rename_i t rest' ht
          obtain ⟨hfits, rfl⟩ := (exact_readToken _ _ _).mp ht
          obtain ⟨tail, rfl, rfl, hall, rfl⟩ := ih.mp h
          refine ⟨t :: tail, by simp, rfl, ?_, by simp⟩
          intro u hu
          rcases List.mem_cons.mp hu with rfl | hu
          · exact hfits
          · exact hall u hu
        · exact absurd h (by simp)
      · rintro ⟨tail, rfl, hlen, hfits, rfl⟩
        obtain ⟨t, tail, rfl⟩ := List.exists_cons_of_length_eq_add_one hlen
        rw [List.flatMap_cons, List.append_assoc,
          (exact_readToken _ _ _).mpr ⟨hfits t (by simp), rfl⟩]
        refine ih.mpr ⟨tail, by simp, by simpa using hlen, ?_, rfl⟩
        intro u hu
        exact hfits u (by simp [hu])

/-- **Lists of tokens** are read from the bytes that are written for them. -/
theorem exact_readTokens : Exact TokensFit writeTokens readTokens := by
  intro bs ts rest
  constructor
  · intro h
    obtain ⟨⟨n, bs'⟩, hn, hread⟩ := bind_eq_ok_iff.mp h
    obtain ⟨hlt, rfl⟩ := (exact_readNat 8 _ _ _).mp hn
    obtain ⟨_, rfl, rfl, hfits, rfl⟩ := readTokensOnto_eq_ok_iff.mp hread
    exact ⟨⟨hlt, hfits⟩, List.append_assoc _ _ _⟩
  · rintro ⟨⟨hlt, hfits⟩, rfl⟩
    have hn : readNat 8 (writeNat 8 ts.length ++ (ts.flatMap writeToken ++ rest)) =
        .ok (ts.length, ts.flatMap writeToken ++ rest) :=
      readNat_writeNat hlt _
    rw [writeTokens, List.append_assoc, readTokens, hn]
    exact readTokensOnto_eq_ok_iff.mpr ⟨ts, rfl, rfl, hfits, rfl⟩

/-! ### Values -/

/-- With an exact reader, the value at the front of some bytes is the one for which they begin
with what is written. -/
theorem Exact.decode_eq_ok_iff {α : Type} {fits : α → Prop} {write : α → List UInt8}
    {read : Reader α} (h : Exact fits write read) {bs : List UInt8} {x : α} :
    decode read bs = .ok x ↔ fits x ∧ write x <+: bs := by
  rw [decode]
  constructor
  · intro hx
    cases hread : read bs with
    | error e =>
        rw [hread] at hx
        exact absurd hx (by simp [Except.map])
    | ok p =>
        rw [hread] at hx
        obtain rfl : p.1 = x := Except.ok.inj hx
        obtain ⟨hfits, happ⟩ := (h bs p.1 p.2).mp hread
        exact ⟨hfits, p.2, happ⟩
  · rintro ⟨hfits, rest, happ⟩
    rw [(h bs x rest).mpr ⟨hfits, happ⟩]
    rfl

/-- The bytes of a token are the index of its kind, the number of bytes that its text has in
UTF-8, and these. -/
theorem writeToken_eq (t : Token) :
    writeToken t = writeNat 4 t.kind.index ++
      (writeNat 8 t.text.utf8ByteSize ++ t.text.toByteArray.data.toList) := by
  rw [writeToken, writeKind, writeText, Utf8.length_encode, ← Utf8.toByteArray_encode,
    List.toList_data_toByteArray]

/-- **The binary form is canonical.** A list of tokens is written as its length and its tokens,
each as the index of its kind, the length of its text and the text in UTF-8. Bytes are read as
a list of tokens exactly if they begin with what is written for the list, whatever follows, and
its lengths fit their fields; and likewise for single tokens and single kinds. -/
theorem decode_eq_ok_iff_prefix :
    (∀ ts, writeTokens ts = writeNat 8 ts.length ++ ts.flatMap writeToken) ∧
    (∀ t, writeToken t = writeNat 4 t.kind.index ++
      (writeNat 8 t.text.utf8ByteSize ++ t.text.toByteArray.data.toList)) ∧
    (∀ bs ts, decode readTokens bs = .ok ts ↔
      (ts.length < UInt64.size ∧ ∀ t ∈ ts, t.text.utf8ByteSize < UInt64.size) ∧
        writeTokens ts <+: bs) ∧
    (∀ bs t, decode readToken bs = .ok t ↔
      t.text.utf8ByteSize < UInt64.size ∧ writeToken t <+: bs) ∧
    (∀ bs k, decode readKind bs = .ok k ↔ writeKind k <+: bs) := by
  refine ⟨fun _ => rfl, writeToken_eq, ?_, ?_, ?_⟩
  · intro bs ts
    exact exact_readTokens.decode_eq_ok_iff
  · intro bs t
    exact exact_readToken.decode_eq_ok_iff
  · intro bs k
    rw [exact_readKind.decode_eq_ok_iff]
    exact and_iff_right trivial

end Binary

end QueryScan
