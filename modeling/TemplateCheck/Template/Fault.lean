/-!
# Template faults

Why a template could not be compiled or rendered, and where.
-/

namespace TemplateCheck.Template

/-- What went wrong in a template. -/
inductive FaultKind where
  | notPrimitive
  | notKey
  | invalidOperation
  | malformed
  | templateNotFound
  | tooManyArguments
  | missingArgument
  | unknownFilter
  | unknownFunction
  | unknownTest
  | unknownMethod
  | badEscape
  | undefinedValue
  | badInclude
  | badBlock
  | cannotUnpack
  | unknownBlock
deriving Repr, DecidableEq, Inhabited

/-- The wording of a kind of fault. -/
def FaultKind.message : FaultKind → String
  | .notPrimitive => "not a primitive"
  | .notKey => "not a key type"
  | .invalidOperation => "invalid operation"
  | .malformed => "syntax error"
  | .templateNotFound => "template not found"
  | .tooManyArguments => "too many arguments"
  | .missingArgument => "missing argument"
  | .unknownFilter => "unknown filter"
  | .unknownFunction => "unknown function"
  | .unknownTest => "unknown test"
  | .unknownMethod => "unknown method"
  | .badEscape => "bad string escape"
  | .undefinedValue => "undefined value"
  | .badInclude => "could not render include"
  | .badBlock => "could not render block"
  | .cannotUnpack => "cannot unpack"
  | .unknownBlock => "unknown block"

/-- A fault in the template `name`, at a line counted from 1. -/
structure Fault where
  kind : FaultKind
  name : String
  line : Nat
deriving Repr, DecidableEq

/-- The wording of a fault. -/
def Fault.message (fault : Fault) : String :=
  s!"{fault.kind.message} (in {fault.name}:{fault.line})"

end TemplateCheck.Template
