import TypeDraft.Name.Fresh

/-!
# Hoisted definitions

While a definition is written, others turn out to be needed beside it. They are collected in order,
together with all names that have been reserved, so that no name is handed out twice.
-/

namespace TypeDraft

/-- The definitions that are to follow the main one, and the names reserved so far. -/
structure Hoisted (δ : Type) where
  definitions : List δ := []
  names : List String := []

namespace Hoisted

variable {δ : Type}

def reserve (h : Hoisted δ) (name : String) : String × Hoisted δ :=
  let name := Name.unique name h.names
  (name, { h with names := name :: h.names })

def add (h : Hoisted δ) (definition : δ) : Hoisted δ :=
  { h with definitions := h.definitions ++ [definition] }

/-- The main definition and then the others, with an empty line between any two. -/
def render (h : Hoisted δ) (text : δ → String) (main : String) : String :=
  "\n\n".intercalate (main :: h.definitions.map text)

end Hoisted

end TypeDraft
