import TemplateCheck.Problem

/-!
# Missing values

What happens when a template uses a value that its model does not have.

* `MissingKey` — the four policies a configuration can name;
* `MissingKey.read`, `MissingKey.resolve` — a policy by its name;
* `Policy` — the three behaviours behind them, from the most to the least strict.
-/

namespace TemplateCheck

/-- What a template does with a value that its model does not have. -/
inductive MissingKey where
  /-- The missing value propagates through attribute lookups and renders as nothing. -/
  | invalid
  /-- The missing value renders as an empty text. -/
  | default
  /-- The missing value renders as the zero value, an empty text. -/
  | zero
  /-- Any use of the missing value fails. -/
  | error
deriving Repr, DecidableEq, Inhabited

namespace MissingKey

/-- The name of a policy. -/
def text : MissingKey → String
  | .invalid => "invalid"
  | .default => "default"
  | .zero => "zero"
  | .error => "error"

/-- The policy with a given name. -/
def read (s : String) : Except Problem MissingKey :=
  if s = "invalid" then .ok .invalid
  else if s = "default" then .ok .default
  else if s = "zero" then .ok .zero
  else if s = "error" then .ok .error
  else .error (.invalidMissingKey s)

/-- The policy of a configuration: without a name, or with an empty one, a missing value is
an error. -/
def resolve : Option String → Except Problem MissingKey
  | none => .ok .error
  | some s => if s = "" then .ok .error else read s

end MissingKey

/-- How undefined values behave while a template is rendered. -/
inductive Policy where
  /-- An undefined value may not be used at all. -/
  | strict
  /-- An undefined value may be printed, tested and iterated, but has no attributes. -/
  | lenient
  /-- An attribute of an undefined value is undefined. -/
  | chainable
deriving Repr, DecidableEq, Inhabited

/-- The behaviour behind a configured policy. -/
def MissingKey.policy : MissingKey → Policy
  | .invalid => .chainable
  | .default => .lenient
  | .zero => .lenient
  | .error => .strict

end TemplateCheck
