/-
# Interleavings

Two lists put together to a third in such a way that each keeps its order. What a list is divided
into by a property of its members can be put together to it again (`interleave_filter`).
-/

namespace Tablesmith

/-- The third list is put together from the first two, each of them in its own order. -/
inductive Interleave {α : Type} : List α → List α → List α → Prop
  | nil : Interleave [] [] []
  | left (x : α) {xs ys zs : List α} (h : Interleave xs ys zs) : Interleave (x :: xs) ys (x :: zs)
  | right (y : α) {xs ys zs : List α} (h : Interleave xs ys zs) : Interleave xs (y :: ys) (y :: zs)

/-- A list is an interleaving of the members without a property and those with it. -/
theorem interleave_filter {α : Type} (p : α → Bool) (xs : List α) :
    Interleave (xs.filter fun x => !p x) (xs.filter p) xs := by
  induction xs with
  | nil => exact .nil
  | cons x xs ih =>
    cases hx : p x with
    | true =>
      rw [List.filter_cons_of_neg (by simp [hx]), List.filter_cons_of_pos hx]
      exact .right x ih
    | false =>
      rw [List.filter_cons_of_pos (by simp [hx]), List.filter_cons_of_neg (by simp [hx])]
      exact .left x ih

end Tablesmith
