/-!
What was read from a text: the items up to its end, or up to the first fault.
-/

namespace SuiteSplit

/-- The items that stand before the first fault, and the fault, if there is one. -/
structure Reading (α ε : Type) where
  items : List α
  fault : Option ε
deriving Repr

namespace Reading

variable {α ε : Type}

/-- A reading that comes to the end of its text. -/
def complete : Reading α ε := ⟨[], none⟩

/-- A reading that stops at once. -/
def stop (e : ε) : Reading α ε := ⟨[], some e⟩

def cons (x : α) (r : Reading α ε) : Reading α ε := ⟨x :: r.items, r.fault⟩

/-- Goes through the items from the left, and fails at the first item that is refused or, after
all items, at the fault of the reading. -/
def fold {β δ : Type} (r : Reading α ε) (step : β → α → Except δ β) (onFault : ε → δ) (b : β) :
    Except δ β :=
  match r.items.foldlM step b with
  | .error e => .error e
  | .ok b =>
    match r.fault with
    | some e => .error (onFault e)
    | none => .ok b

end Reading

end SuiteSplit
