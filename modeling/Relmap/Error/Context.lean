import Relmap.Error.Basic

/-!
# Errors in context

An error with the contexts that were added to it while it travelled outward. The message shows the
latest context first and the root cause last.
-/

namespace Relmap

/-- An error and the errors below it, the latest context first. -/
structure Report where
  head : Error
  below : List Error
deriving DecidableEq, Repr

namespace Report

/-- A report without context. -/
def root (e : Error) : Report := ⟨e, []⟩

/-- The errors from the outside in. -/
def chain (r : Report) : List Error := r.head :: r.below

/-- The report with one more context. A context that someone else also holds keeps its message and
loses its kind. -/
def context (r : Report) (outer : Error) (shared : Bool) : Report :=
  ⟨if shared then .remark outer.message else outer, r.chain⟩

/-- The messages from the outside in, as one text. -/
def message (r : Report) : String := Error.joined (r.chain.map Error.message)

/-- The outermost error is of the given kind. -/
def isKind (r : Report) (kind : Error.Kind) : Bool := r.head.kind == kind

/-- Some error of the chain is of the given kind. -/
def anyKind (r : Report) (kind : Error.Kind) : Bool := r.chain.any fun e => e.kind == kind

/-- What the outermost error stands for. -/
def sources (r : Report) : List String := r.head.sources

end Report
end Relmap
