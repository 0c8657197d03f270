/-!
# Where a default comes from

The tiers of the search for a default, in the order in which they are asked.
-/

set_option autoImplicit false

namespace ModelFactory

/-- The tier that gave a default. -/
inductive DefaultSource where
  | fieldOverride
  | classOverride
  | nullable
  | typeOverride
  | builtIn
  | nestedFactory
deriving DecidableEq

namespace DefaultSource

/-- Every tier, first asked first. -/
def all : List DefaultSource :=
  [fieldOverride, classOverride, nullable, typeOverride, builtIn, nestedFactory]

/-- The tier as reports name it. -/
def label : DefaultSource → String
  | fieldOverride => "field override"
  | classOverride => "class override"
  | nullable => "nullable"
  | typeOverride => "type override"
  | builtIn => "built-in"
  | nestedFactory => "nested factory"

theorem mem_all (source : DefaultSource) : source ∈ all := by cases source <;> decide

end DefaultSource

end ModelFactory
