import QueryScan.Proofs.TokenShape
import QueryScan.Query.Error
import QueryScan.Token.Render

/-!
# What is Displayed is not Lost

Tokens and errors are displayed with their texts and characters as they are. Nothing is escaped,
so a text may well look like the end of its token and the beginning of another. Still no two
tokens look the same, and no two errors: what stands around the text is fixed but for the kind,
and the name of a kind has no comma, so the text is what is left in the middle.

Of tokens displayed one after the other this is not enough. There the text has to be told from
what follows it, and it can be if it has no apostrophe. Tokens that a scan hands out have none,
not even those whose words were changed by upper-casing.

## Main results

* `Token.display_inj`, `Rejection.message_inj`, `QueryError.message_inj`: one token, one
  rejection and one error are told from any other.
* `Token.join_display_inj`: so are rows of tokens whose texts have no apostrophe.
* `Token.display_loses_nothing`: **display loses nothing**, of tokens, of errors, and of what a
  scan hands out.
-/

namespace QueryScan

/-- A text without the separator is told from what follows the separator. -/
theorem append_separator_inj {α : Type} {separator : α} {xs ys u v : List α}
    (hx : separator ∉ xs) (hy : separator ∉ ys)
    (h : xs ++ separator :: u = ys ++ separator :: v) : xs = ys ∧ u = v := by
  induction xs generalizing ys with
  | nil =>
      cases ys with
      | nil => exact ⟨rfl, (List.cons.inj h).2⟩
      | cons y ys =>
          obtain ⟨rfl, -⟩ := List.cons.inj h
          exact absurd List.mem_cons_self hy
  | cons x xs ih =>
      cases ys with
      | nil =>
          obtain ⟨rfl, -⟩ := List.cons.inj h
          exact absurd List.mem_cons_self hx
      | cons y ys =>
          obtain ⟨rfl, htail⟩ := List.cons.inj h
          obtain ⟨rfl, huv⟩ := ih (List.not_mem_of_not_mem_cons hx)
            (List.not_mem_of_not_mem_cons hy) htail
          exact ⟨rfl, huv⟩

/-! ### Tokens -/

/-- The name of a kind has no comma. -/
theorem Kind.comma_notMem_label (k : Kind) : ',' ∉ k.label.toList := by
  cases k <;> decide

/-- The name of a kind tells it from the others. -/
theorem Kind.label_inj {k l : Kind} : k.label = l.label ↔ k = l := by
  cases k <;> cases l <;> decide

namespace Token

/-- The characters of a token that is displayed, parted at the comma after its kind and at the
apostrophe after its text. -/
theorem toList_display (t : Token) :
    t.display.toList = "Token\x7btype=".toList ++ (t.kind.label.toList ++
      ',' :: (" value='".toList ++ (t.text.toList ++ singleQuote :: ['\x7d']))) := by
  have hcomma : ", value='".toList = ',' :: " value='".toList := by decide
  have hend : "'\x7d".toList = [singleQuote, '\x7d'] := by decide
  unfold display
  simp only [String.toList_append, List.append_assoc, hcomma, hend]
  rfl

/-- A token that is displayed in front of anything **tells its kind**, and leaves its text in
front of the closing marks. -/
theorem display_append_cut {a b : Token} {u v : List Char}
    (h : a.display.toList ++ u = b.display.toList ++ v) :
    a.kind = b.kind ∧ a.text.toList ++ singleQuote :: '\x7d' :: u =
      b.text.toList ++ singleQuote :: '\x7d' :: v := by
  simp only [toList_display, List.append_assoc, List.cons_append, List.nil_append] at h
  obtain ⟨hlabel, hrest⟩ := append_separator_inj a.kind.comma_notMem_label
    b.kind.comma_notMem_label (List.append_cancel_left h)
  exact ⟨Kind.label_inj.mp (String.toList_inj.mp hlabel), List.append_cancel_left hrest⟩

/-- A token is its kind and the characters of its text. -/
theorem eq_of_kind_of_toList {a b : Token} (hkind : a.kind = b.kind)
    (htext : a.text.toList = b.text.toList) : a = b := by
  obtain ⟨kind, text⟩ := a
  obtain ⟨kind', text'⟩ := b
  obtain rfl : kind = kind' := hkind
  obtain rfl : text = text' := String.toList_inj.mp htext
  rfl

/-- **One token**, with any text, is told from any other. -/
theorem display_inj {a b : Token} : a.display = b.display ↔ a = b := by
  constructor
  · intro h
    obtain ⟨hkind, htext⟩ := display_append_cut (congrArg (String.toList · ++ []) h)
    exact eq_of_kind_of_toList hkind (List.append_cancel_right htext)
  · rintro rfl
    rfl

/-- A token whose text has no apostrophe is told **from what follows it**. -/
theorem display_append_inj {a b : Token} {u v : List Char}
    (ha : singleQuote ∉ a.text.toList) (hb : singleQuote ∉ b.text.toList)
    (h : a.display.toList ++ u = b.display.toList ++ v) : a = b ∧ u = v := by
  obtain ⟨hkind, htext⟩ := display_append_cut h
  obtain ⟨htext, hrest⟩ := append_separator_inj ha hb htext
  exact ⟨eq_of_kind_of_toList hkind htext, (List.cons.inj hrest).2⟩

/-- A row of tokens that is displayed as nothing is empty. -/
theorem eq_nil_of_join_display {ts : List Token} (h : String.join (ts.map display) = "") :
    ts = [] := by
  cases ts with
  | nil => rfl
  | cons t ts =>
      have hlist := congrArg String.toList h
      rw [List.map_cons, String.join_cons, String.toList_append, toList_display] at hlist
      exact absurd hlist nofun

/-- **A row of tokens** whose texts have no apostrophe is told from any other such row. -/
theorem join_display_inj {xs ys : List Token} (hx : ∀ t ∈ xs, singleQuote ∉ t.text.toList)
    (hy : ∀ t ∈ ys, singleQuote ∉ t.text.toList) :
    String.join (xs.map display) = String.join (ys.map display) ↔ xs = ys := by
  constructor
  · intro h
    induction xs generalizing ys with
    | nil => exact (eq_nil_of_join_display h.symm).symm
    | cons a xs ih =>
        cases ys with
        | nil => exact eq_nil_of_join_display h
        | cons b ys =>
            have hlist := congrArg String.toList h
            simp only [List.map_cons, String.join_cons, String.toList_append] at hlist
            obtain ⟨rfl, hrest⟩ := display_append_inj (hx a List.mem_cons_self)
              (hy b List.mem_cons_self) hlist
            exact congrArg (a :: ·) (ih (fun t ht => hx t (List.mem_cons_of_mem a ht))
              (fun t ht => hy t (List.mem_cons_of_mem a ht)) (String.toList_inj.mp hrest))
  · rintro rfl
    rfl

/-- With an apostrophe in it, the text of one token can look like the end of that token and the
beginning of another. -/
example : String.join ([⟨.operator, "'\x7dToken\x7btype=END, value='"⟩].map display) =
    String.join ([⟨.operator, ""⟩, endMark].map display) := by
  decide

end Token

/-! ### Errors -/

namespace Rejection

/-- The characters of a message, parted at the character that it quotes. -/
theorem toList_message (r : Rejection) :
    r.message.toList = "Unexpected character: '".toList ++
      r.character :: ("' at position ".toList ++ Nat.toDigits 10 r.position) := by
  unfold message
  simp only [String.toList_append, Char.toString_eq_singleton, String.toList_singleton,
    Nat.toString_eq_repr, Nat.repr_eq_ofList_toDigits, String.toList_ofList]
  rw [List.append_assoc, List.append_assoc, List.singleton_append]

/-- **One rejection** is told from any other. -/
theorem message_inj {r s : Rejection} : r.message = s.message ↔ r = s := by
  constructor
  · intro h
    have hlist := congrArg String.toList h
    rw [toList_message, toList_message] at hlist
    obtain ⟨hcharacter, hrest⟩ := List.cons.inj (List.append_cancel_left hlist)
    have hposition := congrArg (Nat.ofDigitChars 10 · 0) (List.append_cancel_left hrest)
    simp only [Nat.ofDigitChars_ten_toDigits] at hposition
    obtain ⟨character, position⟩ := r
    obtain ⟨character', position'⟩ := s
    obtain rfl : character = character' := hcharacter
    obtain rfl : position = position' := hposition
    rfl
  · rintro rfl
    rfl

end Rejection

namespace QueryError

/-- The two sorts of errors begin with different characters. -/
theorem message_rejected_ne {cause : Rejection} {reason : String} :
    (rejected cause).message ≠ (invalidInput reason).message := by
  intro h
  have hhead := congrArg (·.toList.head?) h
  have hlexer : "Lexer error: ".toList.head? = some 'L' := by decide
  have hinput : "Invalid input: ".toList.head? = some 'I' := by decide
  dsimp only [message] at hhead
  rw [String.toList_append, String.toList_append, List.head?_append, List.head?_append, hlexer,
    hinput] at hhead
  exact absurd (Option.some.inj hhead) (by decide)

/-- **One error** is told from any other. -/
theorem message_inj {e f : QueryError} : e.message = f.message ↔ e = f := by
  constructor
  · intro h
    cases e with
    | rejected cause =>
        cases f with
        | rejected cause' =>
            have hcause := (String.append_right_inj _).mp h
            rw [Rejection.message_inj.mp hcause]
        | invalidInput reason => exact absurd h message_rejected_ne
    | invalidInput reason =>
        cases f with
        | rejected cause => exact absurd h.symm message_rejected_ne
        | invalidInput reason' =>
            exact congrArg invalidInput ((String.append_right_inj _).mp h)
  · rintro rfl
    rfl

end QueryError

/-! ### What a scan hands out -/

/-- The texts of the tokens that a scan of all tokens hands out have no apostrophe, wherever in
a query it starts. -/
theorem Scanner.singleQuote_notMem_of_tokenize {s : Scanner} {ts : List Token}
    (h : s.tokenize.1 = .ok ts) {t : Token} (ht : t ∈ ts) : singleQuote ∉ t.text.toList := by
  have hreply : t ∈ (s.answer .tokenize).1.tokens := by
    change t ∈ (Reply.tokenize s.tokenize.1).tokens
    rw [h]
    exact ht
  rcases eq_endMark_or_exists_lexeme_of_answer hreply with rfl | ⟨l, hl, rfl⟩
  · exact List.not_mem_nil
  · intro hquote
    have hharmless := hl.isHarmful_eq_false hquote
    exact absurd hharmless (by decide)

/-- **Display loses nothing.**

* Two tokens of any kinds and with any texts are displayed alike only if they are the same.
* Two errors, and two rejections, have the same message only if they are the same.
* Two lists of tokens, each of them all the tokens that a scan hands out, are displayed alike only
  if they are the same, even with nothing between the tokens. -/
theorem Token.display_loses_nothing :
    (∀ a b : Token, a.display = b.display ↔ a = b) ∧
    (∀ e f : QueryError, e.message = f.message ↔ e = f) ∧
    (∀ r s : Rejection, r.message = s.message ↔ r = s) ∧
    ∀ (s s' : Scanner) (xs ys : List Token), s.tokenize.1 = .ok xs → s'.tokenize.1 = .ok ys →
      (String.join (xs.map display) = String.join (ys.map display) ↔ xs = ys) := by
  refine ⟨fun _ _ => display_inj, fun _ _ => QueryError.message_inj,
    fun _ _ => Rejection.message_inj, ?_⟩
  intro s s' xs ys hx hy
  exact join_display_inj (fun _ => Scanner.singleQuote_notMem_of_tokenize hx)
    (fun _ => Scanner.singleQuote_notMem_of_tokenize hy)

/-- The letter `ŉ` is upper-cased to an apostrophe and an `N`. As this apostrophe is not the one
that stands around the text, the tokens are not mistaken for those of the query `n`. -/
theorem Token.display_loses_nothing_apostrophe :
    let xs : List Token := [⟨.identifier, "\u02bcN"⟩, .endMark]
    let ys : List Token := [⟨.identifier, "N"⟩, .endMark]
    (Scanner.ofQuery "ŉ").tokenize.1 = .ok xs ∧ (Scanner.ofQuery "n").tokenize.1 = .ok ys ∧
      String.join (xs.map display) ≠ String.join (ys.map display) := by
  intro xs ys
  have hmx : Munch "ŉ".toList [⟨.letter, ['ŉ']⟩] [] :=
    Munch.of_first? (by decide +kernel) (Munch.nil _)
  have hmy : Munch "n".toList [⟨.letter, ['n']⟩] [] :=
    Munch.of_first? (by decide +kernel) (Munch.nil _)
  have hx : (Scanner.ofQuery "ŉ").tokenize.1 = .ok xs :=
    (Scanner.tokenize_eq_ok_of_munch hmx).trans (congrArg Except.ok (by decide +kernel))
  have hy : (Scanner.ofQuery "n").tokenize.1 = .ok ys :=
    (Scanner.tokenize_eq_ok_of_munch hmy).trans (congrArg Except.ok (by decide +kernel))
  refine ⟨hx, hy, fun h => ?_⟩
  have heq : xs = ys := (display_loses_nothing.2.2.2 _ _ xs ys hx hy).mp h
  exact absurd heq (by decide)

end QueryScan
