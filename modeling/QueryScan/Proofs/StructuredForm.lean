import QueryScan.Proofs.Outcome
import QueryScan.Token.Json

/-!
# What is Read as a Token

Kinds and tokens are written as structured values in one way and read in two. This module says
which values are read, and as what: nothing but the two shapes of each is accepted, members that
a token does not have are ignored, and a list is read item by item until one of them fails.

## Conventions

The members of an object have **distinct names** (`DistinctNames`), as every object has that was
itself read from text. Then an object has a member if the member is among its members, wherever
it stands, and the reader finds it there.

A reader may as well go through the members in the order of their names and stop at the first
that it cannot read; what is missing comes to light at the end. `Token.visit` is that reader. It
gives the same tokens and the same errors, because `kind` stands before `text` in that order.

## Main results

* `Kind.ofJson_eq_ok_iff`, `Token.ofJson_eq_ok_iff`: the two shapes of kinds and of tokens.
* `Token.ofMembers_eq_visit`: the order in which errors win is that of the sorted names.
* `Token.ofJson_accepts_grammar`: **all of the grammar**, for kinds, tokens and lists, and what
  is written belongs to it.
-/

namespace QueryScan

/-- No two members of the value, if it is an object, have the **same name**. -/
def JsonValue.DistinctNames : JsonValue → Prop
  | object members => (members.map Prod.fst).Nodup
  | _ => True

/-- With distinct names, the member that is found is the one that is there. -/
theorem lookup_eq_some_iff_mem {members : List (String × JsonValue)}
    (hdistinct : (members.map Prod.fst).Nodup) {name : String} {value : JsonValue} :
    members.lookup name = some value ↔ (name, value) ∈ members := by
  rw [List.lookup_eq_some_iff]
  constructor
  · rintro ⟨before, after, rfl, -⟩
    exact List.mem_append_right before List.mem_cons_self
  · intro hmem
    obtain ⟨before, after, rfl⟩ := List.append_of_mem hmem
    refine ⟨before, after, rfl, ?_⟩
    intro p hp
    rw [List.map_append, List.map_cons, List.nodup_append] at hdistinct
    have hne := hdistinct.2.2 p.1 (List.mem_map_of_mem hp) name List.mem_cons_self
    exact bne_iff_ne.mpr hne.symm

/-! ### Kinds and texts -/

/-- A name names a kind if it is the kind's name. -/
theorem Kind.named_eq_ok_iff {name : String} {k : Kind} : named name = .ok k ↔ name = k.name := by
  constructor
  · intro h
    unfold named at h
    split at h
    · rename_i hfound
      obtain rfl := Except.ok.inj h
      exact (name_of_ofName? hfound).symm
    · exact absurd h nofun
  · rintro rfl
    rw [named, ofName?_name]

/-- **The two shapes of a kind**: its name, and an object of one member that has this name and is
null. -/
theorem Kind.ofJson_eq_ok_iff {v : JsonValue} {k : Kind} :
    ofJson v = .ok k ↔ v = .string k.name ∨ v = .object [(k.name, .null)] := by
  constructor
  · intro h
    unfold ofJson at h
    split at h
    · exact Or.inl (by rw [named_eq_ok_iff.mp h])
    · exact Or.inr (by rw [named_eq_ok_iff.mp h])
    · obtain ⟨_, -, h⟩ := bind_eq_ok_iff.mp h
      exact absurd h throw_ne_ok
    · exact absurd h throw_ne_ok
    · exact absurd h throw_ne_ok
  · rintro (rfl | rfl)
    · exact ofJson_toJson k
    · exact named_eq_ok_iff.mpr rfl

/-- A text is read from a string only. -/
theorem textOfJson_eq_ok_iff {v : JsonValue} {s : String} :
    textOfJson v = .ok s ↔ v = .string s := by
  cases v <;> simp [textOfJson]

namespace Token

/-! ### Tokens -/

/-- A member is found and read if it is there and is read. -/
theorem member?_eq_ok_some_iff {α : Type} {members : List (String × JsonValue)}
    (hdistinct : (members.map Prod.fst).Nodup) {name : String}
    {read : JsonValue → Except JsonError α} {x : α} :
    member? members name read = .ok (some x) ↔
      ∃ value, (name, value) ∈ members ∧ read value = .ok x := by
  simp only [← lookup_eq_some_iff_mem hdistinct]
  unfold member?
  cases members.lookup name with
  | none => simp
  | some value =>
      cases hread : read value with
      | error e => simp [Except.map, hread]
      | ok y => simp [Except.map, hread]

/-- A token is read from members if both of its own are found and read. -/
theorem ofMembers_eq_ok_iff {members : List (String × JsonValue)} {t : Token} :
    ofMembers members = .ok t ↔
      member? members "kind" Kind.ofJson = .ok (some t.kind) ∧
        member? members "text" textOfJson = .ok (some t.text) := by
  constructor
  · intro h
    obtain ⟨kind?, hkind, h⟩ := bind_eq_ok_iff.mp h
    obtain ⟨text?, htext, h⟩ := bind_eq_ok_iff.mp h
    cases kind? with
    | none => exact absurd h throw_ne_ok
    | some kind =>
        cases text? with
        | none => exact absurd h throw_ne_ok
        | some text =>
            obtain rfl := Except.ok.inj h
            exact ⟨hkind, htext⟩
  · rintro ⟨hkind, htext⟩
    exact bind_eq_ok_iff.mpr ⟨_, hkind, bind_eq_ok_iff.mpr ⟨_, htext, rfl⟩⟩

/-- A token is read from an array if this has two items and both are read. -/
theorem ofItems_eq_ok_iff {items : List JsonValue} {t : Token} :
    ofItems items = .ok t ↔
      ∃ kind, items = [kind, .string t.text] ∧ Kind.ofJson kind = .ok t.kind := by
  constructor
  · intro h
    unfold ofItems at h
    split at h
    · exact absurd h throw_ne_ok
    · obtain ⟨_, -, h⟩ := bind_eq_ok_iff.mp h
      exact absurd h throw_ne_ok
    · rename_i kind text rest
      obtain ⟨k, hkind, h⟩ := bind_eq_ok_iff.mp h
      obtain ⟨s, htext, h⟩ := bind_eq_ok_iff.mp h
      cases rest with
      | cons item rest => exact absurd h throw_ne_ok
      | nil =>
          obtain rfl := Except.ok.inj h
          obtain rfl := textOfJson_eq_ok_iff.mp htext
          exact ⟨kind, rfl, hkind⟩
  · rintro ⟨kind, rfl, hkind⟩
    exact bind_eq_ok_iff.mpr ⟨_, hkind, rfl⟩

/-- **The two shapes of a token**: an object with a kind and a text among its members, and an
array of the two. -/
theorem ofJson_eq_ok_iff {v : JsonValue} {t : Token} (hdistinct : v.DistinctNames) :
    ofJson v = .ok t ↔
      (∃ members kind, v = .object members ∧ ("kind", kind) ∈ members ∧
        Kind.ofJson kind = .ok t.kind ∧ ("text", .string t.text) ∈ members) ∨
      ∃ kind, v = .array [kind, .string t.text] ∧ Kind.ofJson kind = .ok t.kind := by
  constructor
  · intro h
    unfold ofJson at h
    split at h
    · rename_i members
      obtain ⟨hkind, htext⟩ := ofMembers_eq_ok_iff.mp h
      obtain ⟨kind, hmem, hkind⟩ := (member?_eq_ok_some_iff hdistinct).mp hkind
      obtain ⟨text, hmem', htext⟩ := (member?_eq_ok_some_iff hdistinct).mp htext
      obtain rfl := textOfJson_eq_ok_iff.mp htext
      exact Or.inl ⟨members, kind, rfl, hmem, hkind, hmem'⟩
    · obtain ⟨kind, rfl, hkind⟩ := ofItems_eq_ok_iff.mp h
      exact Or.inr ⟨kind, rfl, hkind⟩
    · exact absurd h throw_ne_ok
  · rintro (⟨members, kind, rfl, hmem, hkind, hmem'⟩ | ⟨kind, rfl, hkind⟩)
    · refine ofMembers_eq_ok_iff.mpr ⟨?_, ?_⟩
      · exact (member?_eq_ok_some_iff hdistinct).mpr ⟨kind, hmem, hkind⟩
      · exact (member?_eq_ok_some_iff hdistinct).mpr ⟨_, hmem', rfl⟩
    · exact ofItems_eq_ok_iff.mpr ⟨kind, rfl, hkind⟩

/-! ### The order in which errors win -/

/-- Reads a token from members in the order in which they stand, after what has been read
already. Members that a token does not have are passed over. -/
def visit (kind? : Option Kind) (text? : Option String) :
    List (String × JsonValue) → Except JsonError Token
  | [] =>
    match kind?, text? with
    | none, _ => .error (.missingMember "kind")
    | some _, none => .error (.missingMember "text")
    | some kind, some text => .ok ⟨kind, text⟩
  | (name, value) :: members =>
    if name = "kind" then Kind.ofJson value >>= fun kind => visit (some kind) text? members
    else if name = "text" then textOfJson value >>= fun text => visit kind? (some text) members
    else visit kind? text? members

section Members

variable {α : Type} {members : List (String × JsonValue)} {name other : String}
  {value : JsonValue} {read : JsonValue → Except JsonError α} {kind? : Option Kind}
  {text? : Option String}

/-- The first member is found under its name. -/
theorem member?_cons_self :
    member? ((name, value) :: members) name read = (read value).map some := by
  rw [member?, List.lookup_cons_self]

/-- Under another name, the first member plays no part. -/
theorem member?_cons_of_ne (h : other ≠ name) :
    member? ((other, value) :: members) name read = member? members name read := by
  rw [member?, List.lookup_cons, beq_false_of_ne h.symm]
  rfl

/-- Under a name that no member has, none is found. -/
theorem member?_of_absent (h : ∀ p ∈ members, p.1 ≠ name) :
    member? members name read = .ok none := by
  rw [member?, List.lookup_eq_none_iff.mpr fun p hp => bne_iff_ne.mpr (h p hp).symm]

/-- Members that a token does not have are passed over. -/
theorem visit_of_absent (hkind : ∀ p ∈ members, p.1 ≠ "kind")
    (htext : ∀ p ∈ members, p.1 ≠ "text") :
    visit kind? text? members = visit kind? text? [] := by
  induction members with
  | nil => rfl
  | cons p members ih =>
      rw [visit, if_neg (hkind p List.mem_cons_self), if_neg (htext p List.mem_cons_self)]
      exact ih (fun q hq => hkind q (List.mem_cons_of_mem p hq))
        (fun q hq => htext q (List.mem_cons_of_mem p hq))

/-- Where no kind is to come, the text is all that is looked for. -/
theorem visit_of_kind_absent (hsorted : members.Pairwise fun p q => p.1 < q.1)
    (hkind : ∀ p ∈ members, p.1 ≠ "kind") :
    visit kind? none members =
      member? members "text" textOfJson >>= fun text? => visit kind? text? [] := by
  induction members with
  | nil => rfl
  | cons p members ih =>
      obtain ⟨name, value⟩ := p
      obtain ⟨hfirst, hsorted⟩ := List.pairwise_cons.mp hsorted
      have hrest : ∀ q ∈ members, q.1 ≠ "kind" :=
        fun q hq => hkind q (List.mem_cons_of_mem _ hq)
      rw [visit, if_neg (hkind _ List.mem_cons_self)]
      by_cases htext : name = "text"
      · subst htext
        rw [if_pos rfl, member?_cons_self]
        cases textOfJson value with
        | error e => rfl
        | ok text =>
            exact visit_of_absent hrest fun q hq => (String.ne_of_lt (hfirst q hq)).symm
      · rw [if_neg htext, member?_cons_of_ne htext, ih hsorted hrest]

/-- The kind is read before the text, and what is missing is found last. -/
theorem ofMembers_eq_bind :
    ofMembers members = member? members "kind" Kind.ofJson >>= fun kind? =>
      member? members "text" textOfJson >>= fun text? => visit kind? text? [] := by
  unfold ofMembers
  cases member? members "kind" Kind.ofJson with
  | error e => rfl
  | ok kind? =>
      cases member? members "text" textOfJson with
      | error e => rfl
      | ok text? => cases kind? <;> cases text? <;> rfl

/-- **The order of the names is the order of the errors.** Members that stand in the order of
their names may be read one by one: the first that cannot be read decides the error. -/
theorem ofMembers_eq_visit (hsorted : members.Pairwise fun p q => p.1 < q.1) :
    ofMembers members = visit none none members := by
  rw [ofMembers_eq_bind]
  induction members with
  | nil => rfl
  | cons p members ih =>
      obtain ⟨name, value⟩ := p
      obtain ⟨hfirst, hrest⟩ := List.pairwise_cons.mp hsorted
      by_cases hkind : name = "kind"
      · subst hkind
        rw [visit, if_pos rfl, member?_cons_self, member?_cons_of_ne (by decide)]
        cases Kind.ofJson value with
        | error e => rfl
        | ok kind =>
            exact (visit_of_kind_absent hrest fun q hq =>
              (String.ne_of_lt (hfirst q hq)).symm).symm
      · by_cases htext : name = "text"
        · -- A kind would have had to come before the text.
          have habsent : ∀ q ∈ (name, value) :: members, q.1 ≠ "kind" := by
            intro q hq hname
            rcases List.mem_cons.mp hq with rfl | hq
            · exact hkind hname
            · have hlt : name < q.1 := hfirst q hq
              rw [htext, hname] at hlt
              exact absurd hlt (by decide)
          rw [member?_of_absent habsent]
          exact (visit_of_kind_absent hsorted habsent).symm
        · rw [visit, if_neg hkind, if_neg htext, member?_cons_of_ne hkind,
            member?_cons_of_ne htext, ih hrest]

end Members

/-! ### Lists -/

/-- **What is read.**

* A value is read as a kind exactly if it is the kind's name, or an object whose only member has
  that name and is null.
* A value is read as a token exactly if it is an object that has, among any others, a member
  `kind` that is read as the token's kind and a member `text` that is its text; or an array of
  just these two. No two members of an object have the same name.
* A value is read as a list of tokens exactly if it is an array whose items are read as the
  tokens, in order. Of any other array, the first item that is not read decides the error.
* What is written for a list of tokens is read as that list. -/
theorem ofJson_accepts_grammar :
    (∀ v k, Kind.ofJson v = .ok k ↔ v = .string k.name ∨ v = .object [(k.name, .null)]) ∧
    (∀ v t, v.DistinctNames → (ofJson v = .ok t ↔
      (∃ members kind, v = .object members ∧ ("kind", kind) ∈ members ∧
        Kind.ofJson kind = .ok t.kind ∧ ("text", .string t.text) ∈ members) ∨
      ∃ kind, v = .array [kind, .string t.text] ∧ Kind.ofJson kind = .ok t.kind)) ∧
    (∀ v ts, listOfJson v = .ok ts ↔
      ∃ items, v = .array items ∧ List.Forall₂ (fun item t => ofJson item = .ok t) items ts) ∧
    (∀ items e, listOfJson (.array items) = .error e ↔
      ∃ before item after ts, items = before ++ item :: after ∧
        List.Forall₂ (fun item t => ofJson item = .ok t) before ts ∧ ofJson item = .error e) ∧
    (∀ ts, listOfJson (listToJson ts) = .ok ts) := by
  refine ⟨fun _ _ => Kind.ofJson_eq_ok_iff, fun _ _ => ofJson_eq_ok_iff, ?_,
    fun _ _ => mapM_eq_error_iff, listOfJson_listToJson⟩
  intro v ts
  constructor
  · intro h
    unfold listOfJson at h
    split at h
    · exact ⟨_, rfl, mapM_eq_ok_iff.mp h⟩
    · exact absurd h throw_ne_ok
  · rintro ⟨items, rfl, hitems⟩
    exact mapM_eq_ok_iff.mpr hitems

/-- The members of a token may stand in any order and between others, and its kind may be an
object. -/
theorem ofJson_accepts_grammar_out_of_order :
    let v : JsonValue := .object
      [("text", .string "A"), ("note", .array []), ("kind", .object [("Identifier", .null)])]
    v.DistinctNames ∧ ofJson v = .ok ⟨.identifier, "A"⟩ := by
  intro v
  have hdistinct : v.DistinctNames := by
    change ["text", "note", "kind"].Nodup
    decide
  refine ⟨hdistinct, (ofJson_accepts_grammar.2.1 v _ hdistinct).mpr (Or.inl ?_)⟩
  exact ⟨_, .object [("Identifier", .null)], rfl, by simp,
    Kind.ofJson_eq_ok_iff.mpr (Or.inr rfl), by simp⟩

end Token

end QueryScan
