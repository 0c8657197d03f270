import ModelFactory.Model.FieldType
import ModelFactory.Overrides

/-!
# Declarations and documents

A `Document` is what was found in one source library: its name and its declarations, each with its
fields and the two override tables given with it. Only a declaration whose kind is a class has a
constructor, and only for such a one can a factory be written.
-/

set_option autoImplicit false

namespace ModelFactory

/-- The kind of a declaration. A word that names no known kind is kept. -/
inductive DeclarationKind where
  | classLike
  | mixin
  | enumeration
  | extension
  | function
  | topLevelVariable
  | other (word : String)
deriving DecidableEq

namespace DeclarationKind

/-- The words of the known kinds. -/
def words : List (String × DeclarationKind) :=
  [("class", classLike), ("mixin", mixin), ("enum", enumeration), ("extension", extension),
    ("function", function), ("top_level_variable", topLevelVariable)]

/-- The known kind that a word names. -/
def ofKnownWord? (word : String) : Option DeclarationKind := words.lookup word

/-- The kind that a word stands for: every word stands for one. -/
def ofWord (word : String) : DeclarationKind := (ofKnownWord? word).getD (other word)

/-- The word that stands for a kind in a description. -/
def word : DeclarationKind → String
  | classLike => "class"
  | mixin => "mixin"
  | enumeration => "enum"
  | extension => "extension"
  | function => "function"
  | topLevelVariable => "top_level_variable"
  | other text => text

/-- The kind as a message names it. -/
def described : DeclarationKind → String
  | classLike => "class"
  | mixin => "mixin"
  | enumeration => "enum"
  | extension => "extension"
  | function => "function"
  | topLevelVariable => "top-level variable"
  | other text => text

/-- Only a class has a constructor that a factory can call. -/
def isConstructible : DeclarationKind → Bool
  | classLike => true
  | _ => false

/-- A known kind is read back from its word. -/
theorem ofWord_word {kind : DeclarationKind} (h : ∀ text, kind ≠ other text) :
    ofWord kind.word = kind := by
  cases kind with
  | other text => exact absurd rfl (h text)
  | _ => decide

end DeclarationKind

/-- A public instance field of a declaration. -/
structure Field where
  name : String
  type : FieldType
  nullable : Bool := false
deriving DecidableEq

/-- A declaration with the defaults given at its fields and at itself. -/
structure Declaration where
  name : String
  kind : DeclarationKind := .classLike
  fields : List Field := []
  fieldDefaults : OverrideTable := ∅
  classDefaults : OverrideTable := ∅
deriving DecidableEq

/-- The tables asked for this declaration's fields. -/
def Declaration.overrides (declaration : Declaration) (typeDefaults : OverrideTable) : Overrides :=
  ⟨declaration.fieldDefaults, declaration.classDefaults, typeDefaults⟩

/-- What was found in one source library. -/
structure Document where
  library : Option String := none
  declarations : List Declaration := []
deriving DecidableEq

end ModelFactory
