/-!
# Sorting by name

## Main definitions

* `sortBy`: a list sorted by a text of each item; items of one text keep their order.
-/
namespace Imagewright.Text

variable {α : Type}

/-- Puts an item in front of the first one that does not come before it. -/
def insertBy (key : α → String) (x : α) : List α → List α
  | [] => [x]
  | y :: rest => if key y < key x then y :: insertBy key x rest else x :: y :: rest

/-- A list sorted by a text of each item, by code points. -/
def sortBy (key : α → String) : List α → List α
  | [] => []
  | x :: rest => insertBy key x (sortBy key rest)

def sort (texts : List String) : List String := sortBy id texts

theorem insertBy_perm (key : α → String) (x : α) (l : List α) :
    (insertBy key x l).Perm (x :: l) := by
  induction l with
  | nil => exact .refl _
  | cons y rest ih =>
    simp only [insertBy]
    split
    · exact (ih.cons y).trans (.swap x y rest)
    · exact .refl _

theorem sortBy_perm (key : α → String) (l : List α) : (sortBy key l).Perm l := by
  induction l with
  | nil => exact .refl _
  | cons x rest ih => exact (insertBy_perm key x _).trans (ih.cons x)

end Imagewright.Text
