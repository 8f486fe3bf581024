/-!
# Maps on ranges of code points

The character classes and case mappings of this library are data: lists of closed ranges
of code points, each with a value that all its members share. A lookup in such a list is
made once per character of a query, so the list is kept as a balanced search tree.

The tree is only an index. `RangeMap.toList` is the view that statements are made about,
and the tree agrees with it:

## Main results

* `RangeMap.toList_ofList`: building the index neither loses nor reorders a range.
* `RangeMap.mem_of_find?`: whatever a lookup returns is in the list and covers the number
  looked up.
* `RangeMap.find?_eq_some_iff`: when the ranges are listed in order, a lookup returns
  exactly the range that covers the number.
-/

namespace QueryScan

/-- A closed range of numbers, with the value that belongs to each of them. -/
structure Span (α : Type) where
  /-- The least member. -/
  first : Nat
  /-- The greatest member. -/
  last : Nat
  /-- What the members share. -/
  value : α
  deriving DecidableEq, Repr

namespace Span

variable {α : Type}

/-- The number lies in the range. -/
def Covers (s : Span α) (n : Nat) : Prop :=
  s.first ≤ n ∧ n ≤ s.last

/-- The spans are non-empty, start at `floor` or later, and each begins after the one
before it has ended. -/
def ordered (floor : Nat) : List (Span α) → Bool
  | [] => true
  | s :: rest => decide (floor ≤ s.first) && decide (s.first ≤ s.last) && ordered (s.last + 1) rest

/-- Every span of an ordered list starts at its floor or later. -/
theorem floor_le_first {floor : Nat} {spans : List (Span α)} (h : ordered floor spans = true)
    {s : Span α} (hs : s ∈ spans) : floor ≤ s.first := by
  induction spans generalizing floor with
  | nil => simp at hs
  | cons t rest ih =>
    simp only [ordered, Bool.and_eq_true, decide_eq_true_eq] at h
    rcases List.mem_cons.1 hs with rfl | hs
    · exact h.1.1
    · have := ih h.2 hs
      omega

/-- Splitting an ordered list at a span: what stands before ends before the span, and what
stands after starts after it. -/
theorem ordered_append_cons {floor : Nat} {before after : List (Span α)} {s : Span α}
    (h : ordered floor (before ++ s :: after) = true) :
    ordered floor before = true ∧ (∀ t ∈ before, t.last < s.first) ∧ s.first ≤ s.last ∧
      ordered (s.last + 1) after = true := by
  induction before generalizing floor with
  | nil =>
    simp only [List.nil_append, ordered, Bool.and_eq_true, decide_eq_true_eq] at h
    exact ⟨rfl, by simp, h.1.2, h.2⟩
  | cons t rest ih =>
    simp only [List.cons_append, ordered, Bool.and_eq_true, decide_eq_true_eq] at h
    obtain ⟨hrest, hbefore, hs, hafter⟩ := ih h.2
    have hts : t.last + 1 ≤ s.first := floor_le_first h.2 (by simp)
    refine ⟨?_, ?_, hs, hafter⟩
    · simp only [ordered, Bool.and_eq_true, decide_eq_true_eq]
      exact ⟨h.1, hrest⟩
    · intro u hu
      rcases List.mem_cons.1 hu with rfl | hu
      · omega
      · exact hbefore u hu

end Span

/-- A search tree of spans. -/
inductive RangeMap (α : Type) where
  /-- The map that covers nothing. -/
  | empty
  /-- A span, with the spans below it on the left and those above it on the right. -/
  | node (left : RangeMap α) (span : Span α) (right : RangeMap α)

namespace RangeMap

variable {α : Type}

/-- The spans of the tree from left to right. -/
def toList : RangeMap α → List (Span α)
  | empty => []
  | node left span right => left.toList ++ span :: right.toList

/-- The span that covers `n`, by descent. -/
def find? : RangeMap α → Nat → Option (Span α)
  | empty, _ => none
  | node left span right, n =>
    if n < span.first then left.find? n
    else if span.last < n then right.find? n
    else some span

/-- Whether some span covers `n`. -/
def contains (m : RangeMap α) (n : Nat) : Bool :=
  (m.find? n).isSome

/-! ### Building the index -/

/-- A tree of the given height over the front of a list, and the spans that did not fit. -/
def ofFront : Nat → List (Span α) → RangeMap α × List (Span α)
  | 0, spans => (empty, spans)
  | height + 1, spans =>
    let (left, spans) := ofFront height spans
    match spans with
    | [] => (left, [])
    | span :: spans =>
      let (right, spans) := ofFront height spans
      (node left span right, spans)

/-- The index of a list of spans: a tree just high enough to hold them all. -/
def ofList (spans : List (Span α)) : RangeMap α :=
  (ofFront (spans.length.log2 + 1) spans).1

/-- The index of a plain set of numbers, given by the ends of its ranges. -/
def ofRanges (ranges : List (Nat × Nat)) : RangeMap Unit :=
  ofList (ranges.map fun r => ⟨r.1, r.2, ()⟩)

/-- The tree over the front of a list and what did not fit make up the list. -/
theorem toList_ofFront (height : Nat) (spans : List (Span α)) :
    (ofFront height spans).1.toList ++ (ofFront height spans).2 = spans := by
  induction height generalizing spans with
  | zero => rfl
  | succ height ih =>
    have hleft := ih spans
    rw [ofFront]
    match hmid : ofFront height spans with
    | (left, []) => simpa [hmid] using hleft
    | (left, span :: rest) =>
      have hright := ih rest
      simp only [hmid] at hleft
      simp only [toList, List.append_assoc, List.cons_append]
      rw [hright, hleft]

/-- A tree of height `h` has room for `2 ^ h - 1` spans. -/
theorem ofFront_snd_eq_nil {height : Nat} {spans : List (Span α)}
    (h : spans.length < Nat.pow 2 height) : (ofFront height spans).2 = [] := by
  change spans.length < 2 ^ height at h
  suffices hlen : ∀ (height : Nat) (spans : List (Span α)),
      (ofFront height spans).2.length ≤ spans.length - (2 ^ height - 1) by
    have := hlen height spans
    exact List.length_eq_zero_iff.1 (by omega)
  intro height
  induction height with
  | zero => intro spans; simp [ofFront]
  | succ height ih =>
    intro spans
    have hleft := ih spans
    rw [ofFront]
    have hpos : 0 < 2 ^ height := Nat.two_pow_pos height
    match hmid : ofFront height spans with
    | (left, []) => simp
    | (left, span :: rest) =>
      have hright := ih rest
      simp only [hmid, List.length_cons] at hleft
      simp only [Nat.pow_succ]
      omega

/-- **The index holds the list**: building the tree neither loses nor reorders a span. -/
@[simp] theorem toList_ofList (spans : List (Span α)) : (ofList spans).toList = spans := by
  have h := toList_ofFront (spans.length.log2 + 1) spans
  rw [ofFront_snd_eq_nil Nat.lt_log2_self, List.append_nil] at h
  exact h

/-! ### What a lookup returns -/

/-- Whatever a lookup returns is a span of the map that covers the number. -/
theorem mem_of_find? {m : RangeMap α} {n : Nat} {s : Span α} (h : m.find? n = some s) :
    s ∈ m.toList ∧ s.Covers n := by
  induction m with
  | empty => simp [find?] at h
  | node left span right ihl ihr =>
    rw [find?] at h
    split at h
    · have := ihl h
      exact ⟨by simp [toList, this.1], this.2⟩
    · split at h
      · have := ihr h
        exact ⟨by simp [toList, this.1], this.2⟩
      · obtain rfl : span = s := Option.some.inj h
        exact ⟨by simp [toList], by unfold Span.Covers; omega⟩

/-- In an ordered map, a span that covers the number is the one that the lookup returns. -/
theorem find?_eq_some_of_mem {m : RangeMap α} {floor n : Nat} {s : Span α}
    (ho : Span.ordered floor m.toList = true) (hs : s ∈ m.toList) (hn : s.Covers n) :
    m.find? n = some s := by
  obtain ⟨h1, h2⟩ := hn
  induction m generalizing floor with
  | empty => simp [toList] at hs
  | node left span right ihl ihr =>
    obtain ⟨hl, hbelow, hspan, hr⟩ := Span.ordered_append_cons (by simpa [toList] using ho)
    rw [find?]
    simp only [toList, List.mem_append, List.mem_cons] at hs
    rcases hs with hs | rfl | hs
    · have := hbelow s hs
      rw [if_pos (by omega)]
      exact ihl hl hs
    · rw [if_neg (by omega), if_neg (by omega)]
    · have := Span.floor_le_first hr hs
      rw [if_neg (by omega), if_pos (by omega)]
      exact ihr hr hs

/-- **Lookups agree with the list**: in an ordered map a lookup returns exactly the span
that covers the number. -/
theorem find?_eq_some_iff {m : RangeMap α} {floor : Nat}
    (ho : Span.ordered floor m.toList = true) {n : Nat} {s : Span α} :
    m.find? n = some s ↔ s ∈ m.toList ∧ s.Covers n :=
  ⟨mem_of_find?, fun h => find?_eq_some_of_mem ho h.1 h.2⟩

/-- In an ordered map, a number is covered exactly if some span of the list covers it. -/
theorem contains_iff {m : RangeMap α} {floor : Nat}
    (ho : Span.ordered floor m.toList = true) {n : Nat} :
    m.contains n = true ↔ ∃ s ∈ m.toList, s.Covers n := by
  rw [contains, Option.isSome_iff_exists]
  exact exists_congr fun s => find?_eq_some_iff ho

end RangeMap

end QueryScan
