import ExpressionGraphs.Constant.Mapping
import ExpressionGraphs.Error
import ExpressionGraphs.Value.Text

set_option autoImplicit false

/-! # Simple mappers -/

namespace ExpressionGraphs

inductive ConversionError where
  | mapping (cause : MappingError)
  /-- An error of the host, known by its message alone. -/
  | host (message : String)
  deriving DecidableEq, Repr

def ConversionError.message : ConversionError → String
  | mapping cause => cause.message
  | host message => message

namespace ValueMapper

variable {m : Type → Type} [Monad m]

def keep : ValueMapper ConversionError m := fun value _ _ => pure value

def asText : ValueMapper ConversionError m := fun value _ _ => pure (.string value.text)

def answer (result : Value) : ValueMapper ConversionError m := fun _ _ _ => pure result

def refuse (reason : Value → String) : ValueMapper ConversionError m := fun value source target =>
  throw (.mapping ⟨source, target, reason value⟩)

def noConversion : ValueMapper ConversionError m :=
  refuse fun value => "no conversion for " ++ value.text

def fail (message : String) : ValueMapper ConversionError m := fun _ _ _ => throw (.host message)

end ValueMapper
end ExpressionGraphs
