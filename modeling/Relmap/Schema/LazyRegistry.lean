import Relmap.Schema.Registry

/-!
# Lazy registries

A registry that is built when it is first asked for. The outcome, good or bad, is kept.
-/

namespace Relmap

/-- A registry that waits for its first use, or the outcome of building it. -/
inductive LazyRegistry where
  | waiting (described : List (Except Error Metadata))
  | settled (outcome : Except Error Registry)

namespace LazyRegistry

/-- The registry after its first use. -/
def force : LazyRegistry → LazyRegistry
  | .waiting described => .settled (Registry.build described)
  | .settled outcome => .settled outcome

/-- The outcome of building the registry. -/
def outcome : LazyRegistry → Except Error Registry
  | .waiting described => Registry.build described
  | .settled outcome => outcome

/-- What a use answers, and the registry after it. -/
def use {α : Type} (r : LazyRegistry) (f : Registry → Except Error α) :
    Except Error α × LazyRegistry :=
  (r.outcome >>= f, r.force)

def isInitialized : LazyRegistry → Bool
  | .waiting _ => false
  | .settled _ => true

def text (r : LazyRegistry) : String :=
  "LazyRegistry \x7b initialized: " ++ (if r.isInitialized then "true" else "false") ++ " \x7d"

/-- The note that a use makes: that the registry was built, at the first use only. -/
def notes : LazyRegistry → List String
  | .waiting described =>
    match Registry.build described with
    | .ok r => [r.note]
    | .error _ => []
  | .settled _ => []

end LazyRegistry
end Relmap
