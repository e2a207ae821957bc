/-!
Tensors: elements in row-major order, and the lengths of the dimensions. A vector has one dimension
and a single element has none.
-/

namespace ConstrainedDecoding

/-- The number of elements that dimensions of these lengths hold. -/
def volume (shape : List Nat) : Nat :=
  shape.foldr (· * ·) 1

/-- A tensor with elements `α`. -/
structure Tensor (α : Type) where
  shape : List Nat
  elements : List α
  length_elements : elements.length = volume shape

namespace Tensor

variable {α β : Type}

/-- The number of dimensions. -/
def dimensions (tensor : Tensor α) : Nat :=
  tensor.shape.length

/-- The vector of some elements. -/
def vector (elements : List α) : Tensor α :=
  ⟨[elements.length], elements, by simp [volume]⟩

/-- The tensor without dimensions. -/
def single (element : α) : Tensor α :=
  ⟨[], [element], rfl⟩

/-- The tensor with each element changed according to its position. -/
def mapPosition (change : Nat → α → β) (tensor : Tensor α) : Tensor β :=
  ⟨tensor.shape, tensor.elements.mapIdx change, by simp [tensor.length_elements]⟩

/-- The tensor with a further dimension of length one in front. -/
def wrap (tensor : Tensor α) : Tensor α :=
  ⟨1 :: tensor.shape, tensor.elements, by simp [volume, tensor.length_elements]⟩

/-- The only row of a tensor whose first dimension has length one. -/
def unwrap (shape : List Nat) (tensor : Tensor α) (shape_eq : tensor.shape = 1 :: shape) :
    Tensor α :=
  ⟨shape, tensor.elements, by simp [tensor.length_elements, shape_eq, volume]⟩

/-- The tensor of the given shape that repeats nothing: its elements filled in order, as far as they
go, and `otherwise` after that. -/
def ofElements (shape : List Nat) (otherwise : α) (elements : List α) : Tensor α :=
  ⟨shape, (elements ++ List.replicate (volume shape) otherwise).take (volume shape), by
    simp⟩

end Tensor

end ConstrainedDecoding
