import ExpressionGraphs.Member.Basic
import ExpressionGraphs.Ty.Parse

set_option autoImplicit false

/-! # Errors and their messages -/

namespace ExpressionGraphs

inductive SchemaError where
  | unreadable
  | malformed
  | badType (cause : TyError)
  | badMemberType (className name : String) (cause : TyError)
  | duplicateMember (className name : String)
  deriving DecidableEq, Repr

namespace SchemaError

def reason : SchemaError → String
  | unreadable => "unreadable schema"
  | malformed => "malformed schema"
  | badType cause => cause.message
  | badMemberType className name cause =>
    "member `" ++ className ++ "." ++ name ++ "`: " ++ cause.message
  | duplicateMember className name => "duplicate member `" ++ className ++ "." ++ name ++ "`"

def message (e : SchemaError) : String := "Schema error: " ++ e.reason

end SchemaError

inductive LambdaError where
  | notParameters
  deriving DecidableEq, Repr

def LambdaError.message : LambdaError → String
  | notParameters => "lambda parameters must be parameter nodes"

structure MappingError where
  source : Ty
  target : Ty
  reason : String
  deriving DecidableEq, Repr

def MappingError.message (e : MappingError) : String :=
  "Mapping error: cannot map `" ++ e.source.text ++ "` to `" ++ e.target.text ++ "`: " ++ e.reason

/-- Why an access is not built. A host that resolves names may refuse for reasons of its own. -/
inductive AccessError (ε : Type := Empty) where
  | memberNotFound (ty : Ty) (name : String)
  | memberMismatch (member : Member) (ty : Ty)
  | host (reason : ε)
  deriving DecidableEq, Repr

def AccessError.message : AccessError → String
  | memberNotFound ty name =>
    "Member not found: no field or property `" ++ name ++ "` on type `" ++ ty.text ++ "`"
  | memberMismatch member ty =>
    "Member mismatch: `" ++ member.text ++ "` is not declared on type `" ++ ty.text ++ "`"

end ExpressionGraphs
