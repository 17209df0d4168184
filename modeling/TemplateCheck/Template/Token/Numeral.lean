import TemplateCheck.Decimal.Read
import TemplateCheck.Template.Token.Basic
import TemplateCheck.Template.Token.Escape

/-!
# Numbers in expressions

* `Numeral.read` — the number at the front of a text that starts with a digit, and how many
  characters it has.

A number may have underscores between its digits, a base by `0b`, `0o` or `0x` in front, and a
point or an exponent, which make it a float.
-/

namespace TemplateCheck.Template.Numeral

/-- The part of a number that has been reached. -/
inductive Part where
  | based
  | whole
  | fraction
  | exponent
  | exponentDigits
deriving Repr, DecidableEq

/-- Does a point with this behind it belong to the number? It does not in front of a name, unless
that is an exponent. -/
def continues : List Char → Bool
  | [] => true
  | c :: cs =>
    if c = 'e' ∨ c = 'E' then
      let digits := if cs.head? = some '+' ∨ cs.head? = some '-' then cs.drop 1 else cs
      digits.head?.any Char.isDigit
    else !(c.isAlpha || c == '_')

/-- The part that a further character belongs to, if it belongs to the number in front of `rest`. -/
def Part.next? (base : Nat) (part : Part) (c : Char) (rest : List Char) : Option Part :=
  if c = '.' ∧ part = .whole ∧ continues rest then some .fraction
  else if (c = 'e' ∨ c = 'E') ∧ (part = .whole ∨ part = .fraction) then some .exponent
  else if part = .exponent ∧ (c = '+' ∨ c = '-' ∨ c.isDigit) then some .exponentDigits
  else if c.isDigit ∨ c = '_' then some part
  else if part = .based ∧ base = 16 ∧ (Escape.hexDigit? c).isSome then some part
  else none

/-- The characters of a number from some part on, and the part that they end in. -/
def run (base : Nat) (part : Part) : List Char → List Char × Part
  | [] => ([], part)
  | c :: cs =>
    match part.next? base c cs with
    | none => ([], part)
    | some next =>
      let (more, last) := run base next cs
      (c :: more, last)

/-- The base of a number, and the number of characters that say so. -/
def base : List Char → Nat × Nat
  | '0' :: c :: _ =>
    if c = 'b' ∨ c = 'B' then (2, 2)
    else if c = 'o' ∨ c = 'O' then (8, 2)
    else if c = 'x' ∨ c = 'X' then (16, 2)
    else (10, 0)
  | _ => (10, 0)

/-- The number that digits to a base stand for. -/
def whole? (base : Nat) (digits : List Char) : Option Nat :=
  if digits.isEmpty then none
  else
    digits.foldlM (fun n c =>
      (Escape.hexDigit? c).bind fun d => if d < base then some (n * base + d) else none) 0

/-- The token for the characters of a number. Whole numbers have at most 128 bits. -/
def token? (base : Nat) (part : Part) (cs : List Char) : Option Token :=
  if cs.getLast? = some '_' then none
  else
    let digits := cs.filter (· != '_')
    if part = .whole ∨ part = .based then
      (whole? base digits).bind fun n => if n < Nat.pow 2 128 then some (.int n) else none
    else (Decimal.float? (String.ofList digits)).map .float

/-- The number at the front of a text, and how many characters it has. -/
def read (cs : List Char) : Option (Token × Nat) :=
  let (base, skipped) := base cs
  let start := cs.drop skipped
  let leading := start.takeWhile Char.isDigit
  let (more, part) := run base (if base = 10 then .whole else .based) (start.drop leading.length)
  let digits := leading ++ more
  (token? base part digits).map fun t => (t, skipped + digits.length)

end TemplateCheck.Template.Numeral
