/-!
# Names of factories

The factory of a model is named after it, and another factory calls it by that name.
-/

set_option autoImplicit false

namespace ModelFactory

/-- The name of the factory of a model. -/
def factoryName (model : String) : String := model ++ "Factory"

/-- The call that has another model's factory build a value. -/
def nestedFactoryCall (model : String) : String := factoryName model ++ ".build()"

end ModelFactory
