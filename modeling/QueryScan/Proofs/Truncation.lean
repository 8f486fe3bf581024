import QueryScan.Proofs.BinaryForm

/-!
# Cut Bytes are Never Read

Bytes that are written for a list of tokens and then cut anywhere are not read as a list, not
even as a shorter one. What goes wrong is that the bytes end, and the message tells where: it
is *io error:* and no more if they end inside a text, and it names the *unexpected end of file*
if they end inside a number. No cut is mistaken for an unknown kind or for bytes that are not
UTF-8, not even one that splits a character, because the length of a text is compared with
what is left before its bytes are looked at.

## Conventions

The error of a cut is handed up from the fields to the tokens and from the tokens to their
lists, like the value is for whole bytes (`BinaryForm`). What is handed up is the result
together with the place of the cut: `EndsAtCut result inText` says that the result is the error
of bytes that end inside a text if `inText` holds, and of bytes that end inside a number
otherwise.

A text is entered when its length has been read, and left with its last byte. So an empty text
is never entered, and a cut just before the bytes of any other text is inside of it.

## Main results

* `endsAtCut_bind`: a reader in two parts ends at a cut as the part does that the cut is in.
* `endsAtCut_readTokens`: **lists** that are cut end at the cut.
* `decode_readTokens_of_prefix`: no proper prefix of what is written for a list is read, and
  the message tells where the cut is.
-/

namespace QueryScan

namespace Binary

/-- The result is the error of bytes that end **inside a text** or **inside a number**,
depending on where they do. -/
def EndsAtCut {α : Type} (result : Except Error α) (inText : Prop) : Prop :=
  result = .error .textCutOff ∧ inText ∨ result = .error .numberCutOff ∧ ¬inText

/-- A cut after `cut` bytes is **inside a text** if it is behind the length of some token's
text and before the end of that text, where the tokens stand behind `start` other bytes. Before
its text a token has the four bytes of its kind and the eight of the text's length. -/
def InText (start : Nat) (ts : List Token) (cut : Nat) : Prop :=
  ∃ before t after, ts = before ++ t :: after ∧
    start + (before.flatMap writeToken).length + 4 + 8 ≤ cut ∧
    cut < start + (before.flatMap writeToken).length + 4 + 8 + t.text.utf8ByteSize

/-! ### The place of a cut -/

/-- The place of a cut may be described in another way. -/
theorem EndsAtCut.congr {α : Type} {result : Except Error α} {p q : Prop}
    (h : EndsAtCut result p) (hpq : p ↔ q) : EndsAtCut result q := by
  rwa [EndsAtCut, ← hpq]

/-- What would follow is not reached. -/
theorem EndsAtCut.bind {α β : Type} {result : Except Error α} {inText : Prop}
    (h : EndsAtCut result inText) (next : α → Except Error β) :
    EndsAtCut (result >>= next) inText := by
  obtain ⟨rfl, hin⟩ | ⟨rfl, hout⟩ := h
  · exact Or.inl ⟨rfl, hin⟩
  · exact Or.inr ⟨rfl, hout⟩

/-- **Two parts, one after the other.** If the first part of the bytes is read whole whatever
follows it, then a cut in the first part is the first reader's and a cut behind it the second
reader's. -/
theorem endsAtCut_bind {α β : Type} {first : Reader α} {next : α × List UInt8 → Except Error β}
    {front back : List UInt8} {x : α} {cut : Nat} {inText : Prop}
    (hwhole : ∀ rest, first (front ++ rest) = .ok (x, rest))
    (hfront : cut < front.length → EndsAtCut (first (front.take cut)) inText)
    (hback : front.length ≤ cut → EndsAtCut (next (x, back.take (cut - front.length))) inText) :
    EndsAtCut (first ((front ++ back).take cut) >>= next) inText := by
  rcases Nat.lt_or_ge cut front.length with hlt | hge
  · rw [List.take_append_of_le_length (Nat.le_of_lt hlt)]
    exact (hfront hlt).bind next
  · rw [List.take_append, List.take_of_length_le hge, hwhole]
    exact hback hge

/-- A number takes all the bytes of its field. -/
@[simp] theorem length_writeNat (width n : Nat) : (writeNat width n).length = width := by
  induction width generalizing n with
  | zero => rfl
  | succ width ih => rw [writeNat, List.length_cons, ih]

/-- A kind takes four bytes. -/
@[simp] theorem length_writeKind (k : Kind) : (writeKind k).length = 4 :=
  length_writeNat 4 _

/-- A text takes the eight bytes of its length and its own. -/
@[simp] theorem length_writeText (s : String) :
    (writeText s).length = 8 + s.utf8ByteSize := by
  rw [writeText, List.length_append, length_writeNat, Utf8.length_encode]

/-- A token takes the bytes of its kind and its text. -/
@[simp] theorem length_writeToken (t : Token) :
    (writeToken t).length = 4 + 8 + t.text.utf8ByteSize := by
  rw [writeToken, List.length_append, length_writeKind, length_writeText, Nat.add_assoc]

/-- A cut in the first token is inside a text if it is behind the length of its text. -/
theorem inText_cons_of_lt {start cut : Nat} {t : Token} {ts : List Token}
    (h : cut < start + (writeToken t).length) :
    InText start (t :: ts) cut ↔ start + 4 + 8 ≤ cut := by
  rw [length_writeToken] at h
  constructor
  · rintro ⟨before, u, after, -, hle, -⟩
    omega
  · intro hle
    refine ⟨[], t, ts, rfl, ?_, ?_⟩ <;> simp only [List.flatMap_nil, List.length_nil] <;> omega

/-- A cut behind the first token is inside a text if it is inside one of the others. -/
theorem inText_cons_of_le {start cut : Nat} {t : Token} {ts : List Token}
    (h : start + (writeToken t).length ≤ cut) :
    InText start (t :: ts) cut ↔ InText (start + (writeToken t).length) ts cut := by
  constructor
  · rintro ⟨before, u, after, hts, hle, hlt⟩
    cases before with
    | nil =>
        obtain ⟨rfl, rfl⟩ := List.cons.inj hts
        rw [length_writeToken] at h
        simp only [List.flatMap_nil, List.length_nil] at hlt
        omega
    | cons v before =>
        obtain ⟨rfl, rfl⟩ := List.cons.inj hts
        rw [List.flatMap_cons, List.length_append] at hle hlt
        exact ⟨before, u, after, rfl, by omega, by omega⟩
  · rintro ⟨before, u, after, rfl, hle, hlt⟩
    refine ⟨t :: before, u, after, rfl, ?_, ?_⟩ <;>
      rw [List.flatMap_cons, List.length_append] <;> omega

/-! ### Fields -/

/-- Too few bytes are no number, whatever they are. -/
theorem readNat_of_length_lt {width : Nat} {bs : List UInt8} (h : bs.length < width) :
    readNat width bs = .error .numberCutOff := by
  induction width generalizing bs with
  | zero => exact absurd h (Nat.not_lt_zero _)
  | succ width ih =>
      cases bs with
      | nil => rfl
      | cons b bs =>
          rw [readNat, ih (Nat.lt_of_succ_lt_succ h)]
          rfl

/-- A number that is cut ends inside a number. -/
theorem endsAtCut_readNat {width n cut : Nat} {inText : Prop} (hcut : cut < width)
    (hout : ¬inText) : EndsAtCut (readNat width ((writeNat width n).take cut)) inText := by
  refine Or.inr ⟨readNat_of_length_lt ?_, hout⟩
  rw [List.length_take, length_writeNat]
  omega

/-- **Kinds** that are cut end inside a number. -/
theorem endsAtCut_readKind {k : Kind} {cut : Nat} {inText : Prop}
    (hcut : cut < (writeKind k).length) (hout : ¬inText) :
    EndsAtCut (readKind ((writeKind k).take cut)) inText :=
  (endsAtCut_readNat (length_writeKind k ▸ hcut) hout).bind _

/-- **Texts** that are cut end inside the text as soon as the length has been read. -/
theorem endsAtCut_readText {s : String} {cut : Nat} (hfits : TextFits s)
    (hcut : cut < (writeText s).length) :
    EndsAtCut (readText ((writeText s).take cut)) (8 ≤ cut) := by
  rw [length_writeText] at hcut
  have hsize : (Utf8.encode s.toList).length = s.utf8ByteSize := Utf8.length_encode s
  have hlt : (Utf8.encode s.toList).length < Nat.pow 256 8 := by
    rw [hsize]
    exact hfits
  rw [writeText]
  refine endsAtCut_bind (readNat_writeNat hlt) ?_ ?_
  · rw [length_writeNat]
    intro hshort
    exact endsAtCut_readNat hshort (Nat.not_le.mpr hshort)
  · rw [length_writeNat]
    intro hlong
    refine Or.inl ⟨?_, hlong⟩
    have hmissing : (((Utf8.encode s.toList).take (cut - 8)).take
        (Utf8.encode s.toList).length).length < (Utf8.encode s.toList).length := by
      rw [List.length_take, List.length_take]
      omega
    simp only [List.splitAt_eq, if_pos hmissing]
    rfl

/-! ### Tokens -/

/-- **Tokens** that are cut end inside the text as soon as its length has been read. -/
theorem endsAtCut_readToken {t : Token} {cut : Nat} (hfits : TokenFits t)
    (hcut : cut < (writeToken t).length) :
    EndsAtCut (readToken ((writeToken t).take cut)) (4 + 8 ≤ cut) := by
  rw [length_writeToken] at hcut
  refine endsAtCut_bind (fun rest => (exact_readKind _ _ rest).mpr ⟨trivial, rfl⟩) ?_ ?_
  · intro hshort
    exact endsAtCut_readKind hshort (by rw [length_writeKind] at hshort; omega)
  · rw [length_writeKind]
    intro hlong
    have htext : EndsAtCut (readText ((writeText t.text).take (cut - 4))) (8 ≤ cut - 4) :=
      endsAtCut_readText hfits (by rw [length_writeText]; omega)
    exact (htext.bind _).congr (by omega)

/-- **Tokens in a row** that are cut end at the cut, whichever of them it is in. The induction
is on the tokens, with the bytes before them counted in `start`. -/
theorem endsAtCut_readTokensOnto (start : Nat) (done : Array Token) {ts : List Token} {cut : Nat}
    (hfits : ∀ t ∈ ts, TokenFits t) (hcut : cut < (ts.flatMap writeToken).length) :
    EndsAtCut (readTokensOnto ts.length done ((ts.flatMap writeToken).take cut))
      (InText start ts (start + cut)) := by
  induction ts generalizing start done cut with
  | nil => exact absurd hcut (Nat.not_lt_zero _)
  | cons t ts ih =>
      rw [List.flatMap_cons, List.length_append] at hcut
      have hbind : ∀ bs, readTokensOnto (t :: ts).length done bs =
          readToken bs >>= fun p => readTokensOnto ts.length (done.push p.1) p.2 := by
        intro bs
        rw [List.length_cons, readTokensOnto]
        cases readToken bs <;> rfl
      rw [hbind, List.flatMap_cons]
      refine endsAtCut_bind
        (fun rest => (exact_readToken _ _ rest).mpr ⟨hfits t List.mem_cons_self, rfl⟩) ?_ ?_
      · intro hshort
        have htoken := endsAtCut_readToken (hfits t List.mem_cons_self) hshort
        refine htoken.congr ?_
        rw [inText_cons_of_lt (by omega)]
        omega
      · intro hlong
        have hleft : cut - (writeToken t).length < (ts.flatMap writeToken).length := by omega
        have hrest := ih (start + (writeToken t).length) (done.push t)
          (fun u hu => hfits u (List.mem_cons_of_mem t hu)) hleft
        rw [Nat.add_assoc, Nat.add_sub_cancel' hlong] at hrest
        exact hrest.congr (inText_cons_of_le (by omega)).symm

/-- **Lists of tokens** that are cut end at the cut. Before the tokens stand the eight bytes of
their number. -/
theorem endsAtCut_readTokens {ts : List Token} {cut : Nat} (hfits : TokensFit ts)
    (hcut : cut < (writeTokens ts).length) :
    EndsAtCut (readTokens ((writeTokens ts).take cut)) (InText 8 ts cut) := by
  rw [writeTokens, List.length_append, length_writeNat] at hcut
  refine endsAtCut_bind (readNat_writeNat hfits.1) ?_ ?_
  · rw [length_writeNat]
    intro hshort
    refine endsAtCut_readNat hshort ?_
    rintro ⟨before, t, after, -, hle, -⟩
    omega
  · rw [length_writeNat]
    intro hlong
    have hleft : cut - 8 < (ts.flatMap writeToken).length := by omega
    have htokens := endsAtCut_readTokensOnto 8 #[] hfits.2 hleft
    rwa [Nat.add_sub_cancel' hlong] at htokens

/-! ### Messages -/

/-- **No cut list is read.** Let the lengths of a list fit their fields, and cut the bytes that
are written for it anywhere before their end. Reading a list from them fails, and with no other
error than that they end inside a text, if the cut is behind the length of some token's text and
before the end of that text, or inside a number, if it is anywhere else. The two messages tell
these apart. -/
theorem decode_readTokens_of_prefix {ts : List Token} {bs : List UInt8}
    (hfits : ts.length < UInt64.size ∧ ∀ t ∈ ts, t.text.utf8ByteSize < UInt64.size)
    (hfront : bs <+: writeTokens ts) (hne : bs ≠ writeTokens ts) :
    ∃ e, decode readTokens bs = .error e ∧ (e = .textCutOff ∨ e = .numberCutOff) ∧
      (e.message = "io error: " ↔ InText 8 ts bs.length) ∧
      (e.message = "io error: unexpected end of file" ↔ ¬InText 8 ts bs.length) := by
  have hcut : bs.length < (writeTokens ts).length :=
    Nat.lt_of_le_of_ne hfront.length_le fun h => hne (hfront.eq_of_length h)
  have hends := endsAtCut_readTokens hfits hcut
  rw [← List.prefix_iff_eq_take.mp hfront] at hends
  have hmessages : "io error: " ≠ "io error: unexpected end of file" := by decide
  obtain ⟨hread, hin⟩ | ⟨hread, hout⟩ := hends
  · refine ⟨.textCutOff, by rw [decode, hread]; rfl, Or.inl rfl, ?_, ?_⟩
    · exact iff_of_true rfl hin
    · exact iff_of_false hmessages fun hout => hout hin
  · refine ⟨.numberCutOff, by rw [decode, hread]; rfl, Or.inr rfl, ?_, ?_⟩
    · exact iff_of_false hmessages.symm hout
    · exact iff_of_true rfl hout

/-- The mark of the end takes 12 of the first 20 bytes, and its text none of them: cut there, the
bytes end inside a number. The two bytes of `É` are the 33rd and the 34th, which is the last:
cut between them, the bytes end inside a text, and that half a character is left plays no part. -/
theorem decode_readTokens_of_prefix_split_letter :
    let ts : List Token := [.endMark, ⟨.identifier, "É"⟩]
    (∃ e, decode readTokens ((writeTokens ts).take 33) = .error e ∧ e.message = "io error: ") ∧
    ∃ e, decode readTokens ((writeTokens ts).take 20) = .error e ∧
      e.message = "io error: unexpected end of file" := by
  intro ts
  have hfits : ts.length < UInt64.size ∧ ∀ t ∈ ts, t.text.utf8ByteSize < UInt64.size := by
    decide
  constructor
  · obtain ⟨e, he, -, hmessage, -⟩ := decode_readTokens_of_prefix hfits
      (List.take_prefix 33 (writeTokens ts)) (by decide +kernel)
    refine ⟨e, he, hmessage.mpr ?_⟩
    exact ⟨[.endMark], ⟨.identifier, "É"⟩, [], rfl, by decide +kernel, by decide +kernel⟩
  · obtain ⟨e, he, -, -, hmessage⟩ := decode_readTokens_of_prefix hfits
      (List.take_prefix 20 (writeTokens ts)) (by decide +kernel)
    refine ⟨e, he, hmessage.mpr ?_⟩
    have hlength : ((writeTokens ts).take 20).length = 20 := by decide +kernel
    have hfirst : 8 + (writeToken .endMark).length = 20 := by decide +kernel
    rw [hlength, inText_cons_of_le (Nat.le_of_eq hfirst), hfirst,
      inText_cons_of_lt (by rw [length_writeToken]; omega)]
    omega

end Binary

end QueryScan
