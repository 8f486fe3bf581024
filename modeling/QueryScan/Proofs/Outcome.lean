import Mathlib.Data.List.Forall2

/-!
# Computations That May Fail

Readers are put together from readers: one after the other, and one for each item of a list.
These are the laws by which the outcome of the whole is told from the outcomes of the parts,
whatever is read and whatever can go wrong.

## Main results

* `bind_eq_ok_iff`: two parts succeed if the first does, and the second with its result.
* `mapM_eq_ok_iff`, `mapM_eq_error_iff`: a list succeeds item by item, and fails with its first
  item that fails.
-/

namespace QueryScan

variable {ε α β : Type}

/-- A computation in two parts succeeds if the first succeeds and the second does with its
result. -/
theorem bind_eq_ok_iff {x : Except ε α} {f : α → Except ε β} {b : β} :
    (x >>= f) = .ok b ↔ ∃ a, x = .ok a ∧ f a = .ok b := by
  cases x with
  | error e => simp [bind, Except.bind]
  | ok a => simp [bind, Except.bind]

/-- What is thrown is no success. -/
theorem throw_ne_ok {e : ε} {a : α} : (throw e : Except ε α) ≠ .ok a :=
  nofun

/-- **A list succeeds** item by item. -/
theorem mapM_eq_ok_iff {f : α → Except ε β} {xs : List α} {ys : List β} :
    xs.mapM f = .ok ys ↔ List.Forall₂ (fun x y => f x = .ok y) xs ys := by
  induction xs generalizing ys with
  | nil =>
      rw [List.mapM_nil, List.forall₂_nil_left_iff]
      exact ⟨fun h => (Except.ok.inj h).symm, fun h => congrArg Except.ok h.symm⟩
  | cons x xs ih =>
      rw [List.mapM_cons, List.forall₂_cons_left_iff]
      constructor
      · intro h
        obtain ⟨y, hy, h⟩ := bind_eq_ok_iff.mp h
        obtain ⟨ys', hys, h⟩ := bind_eq_ok_iff.mp h
        exact ⟨y, ys', hy, ih.mp hys, (Except.ok.inj h).symm⟩
      · rintro ⟨y, ys', hy, hys, rfl⟩
        exact bind_eq_ok_iff.mpr ⟨y, hy, bind_eq_ok_iff.mpr ⟨ys', ih.mpr hys, rfl⟩⟩

/-- **A list fails** with the first of its items that fails. -/
theorem mapM_eq_error_iff {f : α → Except ε β} {xs : List α} {e : ε} :
    xs.mapM f = .error e ↔ ∃ before x after ys, xs = before ++ x :: after ∧
      List.Forall₂ (fun x y => f x = .ok y) before ys ∧ f x = .error e := by
  constructor
  · intro h
    induction xs with
    | nil => exact absurd h nofun
    | cons x xs ih =>
        rw [List.mapM_cons] at h
        cases hx : f x with
        | error e' =>
            rw [hx] at h
            obtain rfl : e' = e := Except.error.inj h
            exact ⟨[], x, xs, [], rfl, .nil, hx⟩
        | ok y =>
            have hxs : xs.mapM f = .error e := by
              rw [hx] at h
              cases hxs : xs.mapM f with
              | error e' =>
                  rw [hxs] at h
                  exact congrArg Except.error (Except.error.inj h)
              | ok ys =>
                  rw [hxs] at h
                  exact absurd h nofun
            obtain ⟨before, z, after, ys, rfl, hbefore, hz⟩ := ih hxs
            exact ⟨x :: before, z, after, y :: ys, rfl, .cons hx hbefore, hz⟩
  · rintro ⟨before, x, after, ys, rfl, hbefore, hx⟩
    rw [List.mapM_append, mapM_eq_ok_iff.mpr hbefore, List.mapM_cons, hx]
    rfl

end QueryScan
