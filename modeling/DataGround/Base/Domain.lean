import DataGround.Base.Json

/-!
# Problems, identifiers and revision contracts

The vocabulary that the store and the reconciler share.

* `APIError` is the public error record kept on operations and invocations, `RepositoryError`
  what a method of the store returns instead of a result.
* `Environment` collects what the code takes from outside the repository: the SHA-256 digest
  behind derived identifiers, and the JSON-schema compiler.
-/

namespace DataGround

/-- A point in time.  Only the order of times matters. -/
abbrev Time := Int

/-- A byte slice. -/
abbrev Bytes := List UInt8

def isSpace (c : Char) : Bool :=
  let code := c.toNat
  (9 ≤ code && code ≤ 13) || code = 0x20 || code = 0x85 || code = 0xa0 || code = 0x1680 ||
    (0x2000 ≤ code && code ≤ 0x200a) || code = 0x2028 || code = 0x2029 || code = 0x202f ||
    code = 0x205f || code = 0x3000

def isControl (c : Char) : Bool :=
  c.toNat < 0x20 || (0x7f ≤ c.toNat && c.toNat < 0xa0)

/-- A rejected field of a request. -/
structure FieldError where
  (field code message : String)
  deriving DecidableEq

/-- The public error record. -/
structure APIError where
  (code message : String)
  correlationId : String := ""
  retryable : Bool := false
  fieldErrors : List FieldError := []
  deriving DecidableEq

/-- What a method of the store returns in place of a result. -/
inductive RepositoryError where
  /-- `ErrLeaseLost`. -/
  | leaseLost
  /-- A `DomainError`. -/
  | domain (code message : String)
  /-- Any other refusal, with its text. -/
  | refused (message : String)
  /-- `pgx.ErrNoRows`. -/
  | noRows
  deriving DecidableEq

/-! ### The environment -/

/-- What the repository takes from outside. -/
structure Environment where
  /-- The first ten bytes of the SHA-256 digest of a text, in hexadecimal. -/
  digestText : String → String
  /-- The whole SHA-256 digest of a text, in hexadecimal. -/
  digest : String → String
  /-- Whether the JSON-schema compiler accepts a schema. -/
  schemaCompiles : Json → Bool
  /-- Whether a compiled schema accepts a document. -/
  schemaAccepts : Json → Json → Bool

variable (env : Environment)

/-- `identity.Derived`: an identifier that depends only on its seed. -/
def derived (tag seed : String) : String :=
  tag ++ "_" ++ env.digestText seed

/-! ### Revision contracts -/

def validateRevisionSchemas (input output : Option Json) : Option APIError :=
  if ∃ schema ∈ input, env.schemaCompiles schema = false then
    some { code := "REVISION_INPUT_SCHEMA_INVALID"
           message := "The service revision input contract cannot be validated." }
  else if ∃ schema ∈ output, env.schemaCompiles schema = false then
    some { code := "REVISION_OUTPUT_SCHEMA_INVALID"
           message := "The service revision output contract cannot be validated." }
  else none

def validateInvocationContract (schema : Option Json) (value : Json)
    (schemaProblem valueProblem : APIError) : Option APIError :=
  match schema with
  | none => none
  | some schema =>
    if env.schemaCompiles schema = false then some schemaProblem
    else if env.schemaAccepts schema value = false then some valueProblem
    else none

def validateInvocationInput (schema : Option Json) (input : Json) : Option APIError :=
  validateInvocationContract env schema input
    { code := "REVISION_INPUT_SCHEMA_INVALID"
      message := "The service revision input contract cannot be validated." }
    { code := "INVOCATION_INPUT_INVALID"
      message := "Invocation input does not satisfy the service revision input contract." }

def validateInvocationOutput (schema : Option Json) (output : Json) : Option APIError :=
  validateInvocationContract env schema output
    { code := "REVISION_OUTPUT_SCHEMA_INVALID"
      message := "The service revision output contract cannot be validated." }
    { code := "INVOCATION_OUTPUT_INVALID"
      message := "Invocation output does not satisfy the service revision output contract." }

end DataGround
