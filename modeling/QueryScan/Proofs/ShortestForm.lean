import QueryScan.Text.Utf8

/-!
# The Shortest Form

Every character has one form in UTF-8, the shortest, and reading accepts no other. The writer
computes the form from the code point; the reader goes the other way, from a table of first
bytes and of the ranges that may follow them. That the two agree is a matter of the borders:
the ranges after `E0` and `F0` begin where a shorter form would end, those after `ED` and `F4`
end before the surrogates and after the last code point.

## Conventions

The bits that the bytes of a character hold are gathered into its code point, six from each
byte after the first (`gather`). A byte lies within a range if it is neither less than its
first nor greater than its last number (`Fit`).

## Main results

* `lead?_one`, `lead?_two`, `lead?_three`, `lead?_four`, `lead?_none`: the table of first bytes,
  one equation for each number of bytes.
* `front_eq_char_iff`: the front of some bytes is a character exactly if it is the form that is
  written for the character.
* `decode_eq_ok_iff`: **reading is exact** — bytes are read as a text exactly if they are the
  bytes that are written for it.
* `toByteArray_encode`: the bytes that are written are those of the core library.
-/

namespace QueryScan

namespace Utf8

/-! ### Writing -/

/-- A code point is one of those that Unicode has. -/
theorem toNat_lt (c : Char) : c.toNat < 0xD800 ∨ 0xDFFF < c.toNat ∧ c.toNat < 0x110000 :=
  c.valid

/-- Up to seven bits take one byte. -/
theorem encodeChar_one {c : Char} (h : c.toNat < 0x80) : encodeChar c = [UInt8.ofNat c.toNat] :=
  if_pos h

/-- Up to eleven bits take two bytes. -/
theorem encodeChar_two {c : Char} (h : 0x80 ≤ c.toNat) (h' : c.toNat < 0x800) :
    encodeChar c = [UInt8.ofNat (0xC0 + c.toNat / 0x40), continuation c.toNat] := by
  rw [encodeChar, if_neg (by omega), if_pos h']

/-- Up to sixteen bits take three bytes. -/
theorem encodeChar_three {c : Char} (h : 0x800 ≤ c.toNat) (h' : c.toNat < 0x10000) :
    encodeChar c = [UInt8.ofNat (0xE0 + c.toNat / 0x1000), continuation (c.toNat / 0x40),
      continuation c.toNat] := by
  rw [encodeChar, if_neg (by omega), if_neg (by omega), if_pos h']

/-- All others take four bytes. -/
theorem encodeChar_four {c : Char} (h : 0x10000 ≤ c.toNat) :
    encodeChar c = [UInt8.ofNat (0xF0 + c.toNat / 0x40000), continuation (c.toNat / 0x1000),
      continuation (c.toNat / 0x40), continuation c.toNat] := by
  rw [encodeChar, if_neg (by omega), if_neg (by omega), if_neg (by omega)]

/-- The number of bytes that a character takes is decided by its code point. -/
theorem size_cases (c : Char) :
    c.toNat < 0x80 ∨ (0x80 ≤ c.toNat ∧ c.toNat < 0x800) ∨
      (0x800 ≤ c.toNat ∧ c.toNat < 0x10000) ∨ 0x10000 ≤ c.toNat := by
  omega

/-- The bytes of a character are those of the core library. -/
theorem encodeChar_eq_utf8EncodeChar (c : Char) : encodeChar c = String.utf8EncodeChar c := by
  have hlt := toNat_lt c
  have hcore : String.utf8EncodeChar c =
      if c.toNat ≤ 127 then [UInt8.ofNat c.toNat]
      else if c.toNat ≤ 2047 then
        [UInt8.ofNat (c.toNat / 64 % 32 + 192), UInt8.ofNat (c.toNat % 64 + 128)]
      else if c.toNat ≤ 65535 then
        [UInt8.ofNat (c.toNat / 4096 % 16 + 224), UInt8.ofNat (c.toNat / 64 % 64 + 128),
          UInt8.ofNat (c.toNat % 64 + 128)]
      else
        [UInt8.ofNat (c.toNat / 262144 % 8 + 240), UInt8.ofNat (c.toNat / 4096 % 64 + 128),
          UInt8.ofNat (c.toNat / 64 % 64 + 128), UInt8.ofNat (c.toNat % 64 + 128)] := rfl
  have hcont : ∀ n, UInt8.ofNat (n % 64 + 128) = continuation n := fun n =>
    congrArg UInt8.ofNat (Nat.add_comm _ _)
  rw [hcore]
  simp only [hcont]
  rcases size_cases c with h | ⟨h, h'⟩ | ⟨h, h'⟩ | h
  · rw [encodeChar_one h, if_pos (by omega)]
  · rw [encodeChar_two h h', if_neg (by omega), if_pos (by omega)]
    exact congrArg (fun n => [UInt8.ofNat n, _]) (by omega)
  · rw [encodeChar_three h h', if_neg (by omega), if_neg (by omega), if_pos (by omega)]
    exact congrArg (fun n => [UInt8.ofNat n, _, _]) (by omega)
  · rw [encodeChar_four h, if_neg (by omega), if_neg (by omega), if_neg (by omega)]
    exact congrArg (fun n => [UInt8.ofNat n, _, _, _]) (by omega)

/-- **The bytes of a text** are those of the core library. -/
theorem toByteArray_encode (s : String) : (encode s.toList).toByteArray = s.toByteArray := by
  have hchar : encodeChar = String.utf8EncodeChar := funext encodeChar_eq_utf8EncodeChar
  rw [encode, hchar, ← List.utf8Encode, ← String.toByteArray_ofList, String.ofList_toList]

/-- A text takes as many bytes as the core library counts for it. -/
theorem length_encode (s : String) : (encode s.toList).length = s.utf8ByteSize := by
  rw [← String.size_toByteArray, ← toByteArray_encode, List.size_toByteArray]

/-! ### The table of first bytes -/

/-- A character of one byte is that byte. -/
theorem lead?_one {b : Nat} (h : b < 0x80) : lead? b = some ⟨b, []⟩ := by
  rw [lead?, if_pos h]

/-- Two bytes hold at least eight bits, so the first is `C2` at least. -/
theorem lead?_two {b : Nat} (h : 0xC2 ≤ b) (h' : b < 0xE0) :
    lead? b = some ⟨b - 0xC0, [anyContinuation]⟩ := by
  rw [lead?, if_neg (by omega), if_neg (by omega), if_pos h']

/-- Three bytes hold at least twelve bits and no surrogate. -/
theorem lead?_three {b : Nat} (h : 0xE0 ≤ b) (h' : b < 0xF0) :
    lead? b = some ⟨b - 0xE0,
      [(if b = 0xE0 then 0xA0 else 0x80, if b = 0xED then 0x9F else 0xBF), anyContinuation]⟩ := by
  rw [lead?, if_neg (by omega), if_neg (by omega), if_neg (by omega)]
  by_cases h0 : b = 0xE0
  · subst h0
    rfl
  · by_cases hd : b = 0xED
    · subst hd
      rfl
    · rw [if_neg h0, if_neg hd, if_pos h', if_neg h0, if_neg hd]
      rfl

/-- Four bytes hold at least seventeen bits and no more than the last code point. -/
theorem lead?_four {b : Nat} (h : 0xF0 ≤ b) (h' : b ≤ 0xF4) :
    lead? b = some ⟨b - 0xF0,
      [(if b = 0xF0 then 0x90 else 0x80, if b = 0xF4 then 0x8F else 0xBF), anyContinuation,
        anyContinuation]⟩ := by
  obtain rfl | rfl | rfl | rfl | rfl :
    b = 0xF0 ∨ b = 0xF1 ∨ b = 0xF2 ∨ b = 0xF3 ∨ b = 0xF4 := by omega
  all_goals rfl

/-- No other byte is the first of a character. -/
theorem lead?_none {b : Nat} (h : 0x80 ≤ b ∧ b < 0xC2 ∨ 0xF4 < b) : lead? b = none := by
  rw [lead?, if_neg (by omega)]
  by_cases h' : b < 0xC2
  · rw [if_pos h']
  · rw [if_neg h', if_neg (by omega), if_neg (by omega), if_neg (by omega), if_neg (by omega),
      if_neg (by omega), if_neg (by omega), if_neg (by omega)]

/-- What the restricted ranges come to: a continuation byte, with a further bound after one of
the first bytes, and another one after another. -/
theorem restricted_iff {b s t low high n : Nat} (hlow : 0x80 ≤ low) (hhigh : high ≤ 0xBF) :
    ((if b = s then low else 0x80) ≤ n ∧ n ≤ if b = t then high else 0xBF) ↔
      (0x80 ≤ n ∧ n ≤ 0xBF) ∧ (b = s → low ≤ n) ∧ (b = t → n ≤ high) := by
  split <;> split <;> omega

/-! ### The bytes that follow -/

/-- The bits of some bytes, six from each, onto the bits before them. -/
def gather (bits : Nat) (follow : List UInt8) : Nat :=
  follow.foldl (fun bits b => bits * 0x40 + (b.toNat - 0x80)) bits

/-- The bits of the first byte come before those of the others. -/
theorem gather_cons (bits : Nat) (b : UInt8) (follow : List UInt8) :
    gather bits (b :: follow) = gather (bits * 0x40 + (b.toNat - 0x80)) follow := by
  rw [gather, gather, List.foldl_cons]

/-- The bytes lie within the ranges, one within each. -/
def Fit : List (Nat × Nat) → List UInt8 → Prop
  | [], [] => True
  | (low, high) :: ranges, b :: follow => (low ≤ b.toNat ∧ b.toNat ≤ high) ∧ Fit ranges follow
  | _, _ => False

/-- Where no byte is asked for, none fits. -/
theorem fit_nil_iff {follow : List UInt8} : Fit [] follow ↔ follow = [] := by
  cases follow <;> simp [Fit]

/-- The first byte lies within the first range. -/
theorem fit_cons_iff {low high : Nat} {ranges : List (Nat × Nat)} {follow : List UInt8} :
    Fit ((low, high) :: ranges) follow ↔
      ∃ b tail, follow = b :: tail ∧ (low ≤ b.toNat ∧ b.toNat ≤ high) ∧ Fit ranges tail := by
  cases follow with
  | nil => simp [Fit]
  | cons b follow =>
      constructor
      · intro h
        exact ⟨b, follow, rfl, h⟩
      · rintro ⟨b', tail, heq, h⟩
        obtain ⟨rfl, rfl⟩ := List.cons.inj heq
        exact h

/-- Reading the bytes that follow takes those that lie within the ranges, and gathers their
bits. -/
theorem readFollow_eq_char_iff {bits used n : Nat} {ranges : List (Nat × Nat)}
    {bs rest : List UInt8} {c : Char} :
    readFollow bits used ranges bs = .char c n rest ↔
      ∃ follow, Fit ranges follow ∧ follow ++ rest = bs ∧ c = Char.ofNat (gather bits follow) ∧
        n = used + follow.length := by
  induction ranges generalizing bits used bs with
  | nil =>
      rw [readFollow, Front.char.injEq]
      constructor
      · rintro ⟨rfl, rfl, rfl⟩
        exact ⟨[], trivial, rfl, rfl, rfl⟩
      · rintro ⟨follow, hfit, rfl, rfl, rfl⟩
        obtain rfl := fit_nil_iff.mp hfit
        exact ⟨rfl, rfl, rfl⟩
  | cons range ranges ih =>
      obtain ⟨low, high⟩ := range
      cases bs with
      | nil =>
          rw [readFollow]
          constructor
          · intro h
            exact absurd h (by simp)
          · rintro ⟨follow, hfit, happ, -, -⟩
            obtain ⟨b, tail, rfl, -⟩ := fit_cons_iff.mp hfit
            exact absurd happ (by simp)
      | cons b bs =>
          rw [readFollow]
          split
          · rename_i hb
            rw [ih]
            constructor
            · rintro ⟨follow, hfit, rfl, rfl, rfl⟩
              refine ⟨b :: follow, ⟨hb, hfit⟩, rfl, ?_, ?_⟩
              · rw [gather_cons]
              · rw [List.length_cons]
                omega
            · rintro ⟨follow, hfit, happ, rfl, rfl⟩
              obtain ⟨b', tail, rfl, -, htail⟩ := fit_cons_iff.mp hfit
              obtain ⟨rfl, rfl⟩ := List.cons.inj happ
              refine ⟨tail, htail, rfl, ?_, ?_⟩
              · rw [gather_cons]
              · rw [List.length_cons]
                omega
          · rename_i hb
            constructor
            · intro h
              exact absurd h (by simp)
            · rintro ⟨follow, hfit, happ, -, -⟩
              obtain ⟨b', tail, rfl, hb', -⟩ := fit_cons_iff.mp hfit
              obtain ⟨rfl, -⟩ := List.cons.inj happ
              exact absurd hb' hb

/-! ### One character -/

/-- A number that is a code point is that of its character. -/
theorem toNat_ofNat_of_valid {n : Nat} (h : n < 0xD800 ∨ 0xDFFF < n ∧ n < 0x110000) :
    (Char.ofNat n).toNat = n := by
  have hchar : Char.ofNat n = Char.ofNatAux n h := dif_pos h
  rw [hchar]
  rfl

/-- The number that a byte holds. -/
theorem toNat_ofNat_of_lt {n : Nat} (h : n < 256) : (UInt8.ofNat n).toNat = n := by
  rw [UInt8.toNat_ofNat']
  exact Nat.mod_eq_of_lt h

/-- The number that a continuation byte holds. -/
theorem toNat_continuation (n : Nat) : (continuation n).toNat = 0x80 + n % 0x40 :=
  toNat_ofNat_of_lt (by omega)

/-- A byte is given by the number it holds. -/
theorem ofNat_eq_of_toNat {n : Nat} {b : UInt8} (h : n = b.toNat) : UInt8.ofNat n = b := by
  rw [h, UInt8.ofNat_toNat]

/-- A continuation byte is given by its six bits. -/
theorem continuation_eq_of_toNat {n : Nat} {b : UInt8} (h : 0x80 + n % 0x40 = b.toNat) :
    continuation n = b :=
  ofNat_eq_of_toNat h

/-- The form of a character is one that the table of first bytes lists, and holds its code
point. -/
theorem exists_lead_of_encodeChar {c : Char} {b : UInt8} {follow : List UInt8}
    (h : encodeChar c = b :: follow) :
    ∃ lead, lead? b.toNat = some lead ∧ Fit lead.follow follow ∧
      c = Char.ofNat (gather lead.bits follow) := by
  have hlt := toNat_lt c
  have hc : ∀ n, n = c.toNat → c = Char.ofNat n := fun n hn => by rw [hn, Char.ofNat_toNat]
  rcases size_cases c with hn | ⟨hn, hn'⟩ | ⟨hn, hn'⟩ | hn
  · rw [encodeChar_one hn] at h
    obtain ⟨rfl, rfl⟩ := List.cons.inj h
    have hb : (UInt8.ofNat c.toNat).toNat = c.toNat := toNat_ofNat_of_lt (by omega)
    exact ⟨_, lead?_one (by omega), trivial, hc _ hb⟩
  · rw [encodeChar_two hn hn'] at h
    obtain ⟨rfl, rfl⟩ := List.cons.inj h
    have hb : (UInt8.ofNat (0xC0 + c.toNat / 0x40)).toNat = 0xC0 + c.toNat / 0x40 :=
      toNat_ofNat_of_lt (by omega)
    refine ⟨_, lead?_two (by omega) (by omega), ?_, hc _ ?_⟩
    · simp only [anyContinuation, Fit, toNat_continuation, and_true]
      omega
    · simp only [gather, List.foldl_cons, List.foldl_nil, toNat_continuation]
      omega
  · rw [encodeChar_three hn hn'] at h
    obtain ⟨rfl, rfl⟩ := List.cons.inj h
    have hb : (UInt8.ofNat (0xE0 + c.toNat / 0x1000)).toNat = 0xE0 + c.toNat / 0x1000 :=
      toNat_ofNat_of_lt (by omega)
    refine ⟨_, lead?_three (by omega) (by omega), ?_, hc _ ?_⟩
    · simp only [anyContinuation, Fit, toNat_continuation, and_true, hb]
      rw [restricted_iff (by omega) (by omega)]
      omega
    · simp only [gather, List.foldl_cons, List.foldl_nil, toNat_continuation]
      omega
  · rw [encodeChar_four hn] at h
    obtain ⟨rfl, rfl⟩ := List.cons.inj h
    have hb : (UInt8.ofNat (0xF0 + c.toNat / 0x40000)).toNat = 0xF0 + c.toNat / 0x40000 :=
      toNat_ofNat_of_lt (by omega)
    refine ⟨_, lead?_four (by omega) (by omega), ?_, hc _ ?_⟩
    · simp only [anyContinuation, Fit, toNat_continuation, and_true, hb]
      rw [restricted_iff (by omega) (by omega)]
      omega
    · simp only [gather, List.foldl_cons, List.foldl_nil, toNat_continuation]
      omega

/-- A form that the table of first bytes lists is that of the character whose code point it
holds: the ranges leave room for no other. -/
theorem encodeChar_of_lead {lead : Lead} {b : UInt8} {follow : List UInt8}
    (hl : lead? b.toNat = some lead) (hfit : Fit lead.follow follow) :
    encodeChar (Char.ofNat (gather lead.bits follow)) = b :: follow := by
  obtain hb | ⟨hb, hb'⟩ | ⟨hb, hb'⟩ | ⟨hb, hb'⟩ | hb : b.toNat < 0x80 ∨
      (0xC2 ≤ b.toNat ∧ b.toNat < 0xE0) ∨ (0xE0 ≤ b.toNat ∧ b.toNat < 0xF0) ∨
      (0xF0 ≤ b.toNat ∧ b.toNat ≤ 0xF4) ∨
      (0x80 ≤ b.toNat ∧ b.toNat < 0xC2 ∨ 0xF4 < b.toNat) := by omega
  · obtain rfl := Option.some.inj ((lead?_one hb).symm.trans hl)
    obtain rfl := fit_nil_iff.mp hfit
    have hn := toNat_ofNat_of_valid (n := b.toNat) (by omega)
    rw [gather, List.foldl_nil, encodeChar_one (by rw [hn]; exact hb), hn, UInt8.ofNat_toNat]
  · obtain rfl := Option.some.inj ((lead?_two hb hb').symm.trans hl)
    simp only [anyContinuation, fit_cons_iff, fit_nil_iff] at hfit
    obtain ⟨b₁, _, rfl, h₁, rfl⟩ := hfit
    generalize hgather : gather (b.toNat - 0xC0) [b₁] = n
    simp only [gather, List.foldl_cons, List.foldl_nil] at hgather
    have hn := toNat_ofNat_of_valid (n := n) (by omega)
    rw [encodeChar_two (by omega) (by omega), hn, ofNat_eq_of_toNat (b := b) (by omega),
      continuation_eq_of_toNat (b := b₁) (by omega)]
  · obtain rfl := Option.some.inj ((lead?_three hb hb').symm.trans hl)
    simp only [anyContinuation, fit_cons_iff, fit_nil_iff] at hfit
    obtain ⟨b₁, _, rfl, h₁, b₂, _, rfl, h₂, rfl⟩ := hfit
    rw [restricted_iff (by omega) (by omega)] at h₁
    generalize hgather : gather (b.toNat - 0xE0) [b₁, b₂] = n
    simp only [gather, List.foldl_cons, List.foldl_nil] at hgather
    have hn := toNat_ofNat_of_valid (n := n) (by omega)
    rw [encodeChar_three (by omega) (by omega), hn, ofNat_eq_of_toNat (b := b) (by omega),
      continuation_eq_of_toNat (b := b₁) (by omega), continuation_eq_of_toNat (b := b₂) (by omega)]
  · obtain rfl := Option.some.inj ((lead?_four hb hb').symm.trans hl)
    simp only [anyContinuation, fit_cons_iff, fit_nil_iff] at hfit
    obtain ⟨b₁, _, rfl, h₁, b₂, _, rfl, h₂, b₃, _, rfl, h₃, rfl⟩ := hfit
    rw [restricted_iff (by omega) (by omega)] at h₁
    generalize hgather : gather (b.toNat - 0xF0) [b₁, b₂, b₃] = n
    simp only [gather, List.foldl_cons, List.foldl_nil] at hgather
    have hn := toNat_ofNat_of_valid (n := n) (by omega)
    rw [encodeChar_four (by omega), hn, ofNat_eq_of_toNat (b := b) (by omega),
      continuation_eq_of_toNat (b := b₁) (by omega), continuation_eq_of_toNat (b := b₂) (by omega),
      continuation_eq_of_toNat (b := b₃) (by omega)]
  · rw [lead?_none hb] at hl
    exact absurd hl (by simp)

/-- A character takes a byte at least. -/
theorem exists_cons_of_encodeChar (c : Char) : ∃ b follow, encodeChar c = b :: follow := by
  refine List.exists_cons_of_ne_nil ?_
  intro hnil
  have hpos := c.utf8Size_pos
  rw [← length_encodeChar, hnil] at hpos
  exact absurd hpos (by simp)

/-- **The front of some bytes** is a character exactly if it is the form of the character. -/
theorem front_eq_char_iff {b : UInt8} {bs rest : List UInt8} {c : Char} {n : Nat} :
    front b bs = .char c n rest ↔
      encodeChar c ++ rest = b :: bs ∧ n = (encodeChar c).length := by
  constructor
  · intro h
    unfold front at h
    split at h
    · exact absurd h (by simp)
    · rename_i lead hl
      obtain ⟨follow, hfit, rfl, rfl, rfl⟩ := readFollow_eq_char_iff.mp h
      rw [encodeChar_of_lead hl hfit, List.length_cons]
      exact ⟨rfl, Nat.add_comm _ _⟩
  · rintro ⟨happ, rfl⟩
    obtain ⟨b', follow, hc⟩ := exists_cons_of_encodeChar c
    rw [hc] at happ ⊢
    obtain ⟨rfl, rfl⟩ := List.cons.inj happ
    obtain ⟨lead, hl, hfit, hgather⟩ := exists_lead_of_encodeChar hc
    rw [front, hl]
    exact readFollow_eq_char_iff.mpr ⟨follow, hfit, rfl, hgather, Nat.add_comm _ _⟩

/-! ### Texts -/

/-- The bytes of a text, if there are any, have its first character at their front. -/
theorem front_of_encode {b : UInt8} {bs : List UInt8} {cs : List Char} (h : encode cs = b :: bs) :
    ∃ c tail, cs = c :: tail ∧ front b bs = .char c (encodeChar c).length (encode tail) := by
  cases cs with
  | nil => exact absurd h (by simp [encode])
  | cons c tail => exact ⟨c, tail, rfl, front_eq_char_iff.mpr ⟨h, rfl⟩⟩

/-- Reading goes on for as long as forms of characters follow each other, from wherever it
starts. -/
theorem decodeOnto_eq_ok_iff {done : Array Char} {index : Nat} {bs : List UInt8}
    {cs : List Char} :
    decodeOnto done index bs = .ok cs ↔ ∃ tail, cs = done.toList ++ tail ∧ encode tail = bs := by
  fun_induction decodeOnto done index bs with
  | case1 done index =>
      constructor
      · intro h
        exact ⟨[], by rw [List.append_nil]; exact (Except.ok.inj h).symm, rfl⟩
      · rintro ⟨tail, rfl, htail⟩
        cases tail with
        | nil => rw [List.append_nil]
        | cons c tail =>
            obtain ⟨b, follow, hc⟩ := exists_cons_of_encodeChar c
            exact absurd htail (by simp [encode, hc])
  | case2 done index b bs c used rest hf _ ih =>
      rw [ih]
      obtain ⟨happ, -⟩ := front_eq_char_iff.mp hf
      constructor
      · rintro ⟨tail, rfl, rfl⟩
        exact ⟨c :: tail, by simp, happ⟩
      · rintro ⟨tail, rfl, htail⟩
        obtain ⟨c', tail, rfl, hf'⟩ := front_of_encode htail
        obtain ⟨rfl, -, rfl⟩ := Front.char.inj (hf.symm.trans hf')
        exact ⟨tail, by simp, rfl⟩
  | case3 done index b bs length hf =>
      constructor
      · intro h
        exact absurd h (by simp)
      · rintro ⟨tail, -, htail⟩
        obtain ⟨c', tail, rfl, hf'⟩ := front_of_encode htail
        exact absurd (hf.symm.trans hf') (by simp)
  | case4 done index b bs hf =>
      constructor
      · intro h
        exact absurd h (by simp)
      · rintro ⟨tail, -, htail⟩
        obtain ⟨c', tail, rfl, hf'⟩ := front_of_encode htail
        exact absurd (hf.symm.trans hf') (by simp)

/-- **Reading is exact**: bytes are read as a text exactly if they are the bytes that are
written for it. -/
theorem decode_eq_ok_iff {bs : List UInt8} {cs : List Char} :
    decode bs = .ok cs ↔ encode cs = bs := by
  rw [decode, decodeOnto_eq_ok_iff]
  constructor
  · rintro ⟨tail, rfl, rfl⟩
    rfl
  · rintro rfl
    exact ⟨cs, rfl, rfl⟩

end Utf8

end QueryScan
