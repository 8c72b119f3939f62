import TypeDraft.Output.Format

/-!
# Which format is written how

A registry says for each output format which format's writer serves it. At first every format is
served by its own; a format may also be left without one.
-/

namespace TypeDraft

/-- The writers in order of registration, each known by the format that it is made for. -/
structure Registry where
  writers : List (OutputFormat × Option OutputFormat)

namespace Registry

def standard : Registry := ⟨OutputFormat.all.map fun f => (f, some f)⟩

/-- Sets the writer of a format; a format that is there keeps its place. -/
def register (r : Registry) (target : OutputFormat) (source : Option OutputFormat) : Registry :=
  if r.writers.any (·.1 = target) then
    ⟨r.writers.map fun w => if w.1 = target then (target, source) else w⟩
  else ⟨r.writers ++ [(target, source)]⟩

def writer? (r : Registry) (f : OutputFormat) : Option OutputFormat := (r.writers.lookup f).join

def formats (r : Registry) : List OutputFormat := r.writers.map Prod.fst

end Registry

end TypeDraft
