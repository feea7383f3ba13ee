import PaymentSystem.Model.Helpers

namespace PaymentModel

/-- The formats the validation library checks, and the upper-casing of the platform. -/
structure Formats where
  email : String → Bool
  uuid : String → Bool
  datetime : String → Bool
  toUpperCase : String → String

structure Issue where
  path : List String
  message : String
  deriving DecidableEq

/-- What a schema makes of a value: there is none where it gave up, and a value that has issues still
    goes through the checks that follow. -/
structure Parsed (α : Type) where
  value : Option α
  issues : List Issue

namespace Parsed

variable {α : Type}

instance : Applicative Parsed where
  pure value := ⟨some value, []⟩
  seq f x := ⟨f.value <*> (x ()).value, f.issues ++ (x ()).issues⟩

def issue (path : List String) (message : String) : Parsed α := ⟨none, [⟨path, message⟩]⟩

/-- `safeParse`: only a value without issues is a success. -/
def result (parsed : Parsed α) : Except (List Issue) α :=
  match parsed.value with
  | some value => if parsed.issues = [] then .ok value else .error parsed.issues
  | none => .error parsed.issues

end Parsed

/-- What is read at `path`; `none` is `undefined`. -/
abbrev Schema (α : Type) : Type := List String → Option Json → Parsed α

def parsedType : Option Json → String
  | none => "undefined"
  | some .null => "null"
  | some (.bool _) => "boolean"
  | some (.number _) => "number"
  | some (.string _) => "string"
  | some (.array _) => "array"
  | some (.object _) => "object"

/-- The issue of a value that has another type than the schema wants. -/
def invalidType {α : Type} (expected required : String) (path : List String) (data : Option Json) : Parsed α :=
  .issue path (if data.isNone then required else "Expected " ++ expected ++ ", received " ++ parsedType data)

inductive NumberCheck where
  | positive (message : String)
  | max (value : Rat) (message : String)

def NumberCheck.fails : NumberCheck → JsNumber → Option String
  | .positive message, n => if n.value ≤ 0 then some message else none
  | .max value message, n => if value < n.value then some message else none

inductive StringCheck where
  | min (bound : Nat) (message : String)
  | max (bound : Nat) (message : String)
  | length (bound : Nat) (message : String)
  | email (message : String)
  | uuid (message : String)
  | datetime (message : String)
  | toUpperCase

/-- The text a check goes on with, and its message when it fails. -/
def StringCheck.run (formats : Formats) (text : String) : StringCheck → String × Option String
  | .min bound message => (text, if utf16Length text < bound then some message else none)
  | .max bound message => (text, if bound < utf16Length text then some message else none)
  | .length bound message => (text, if utf16Length text ≠ bound then some message else none)
  | .email message => (text, if formats.email text then none else some message)
  | .uuid message => (text, if formats.uuid text then none else some message)
  | .datetime message => (text, if formats.datetime text then none else some message)
  | .toUpperCase => (formats.toUpperCase text, none)

def StringCheck.runAll (formats : Formats) (path : List String) (text : String) : List StringCheck → Parsed String
  | [] => ⟨some text, []⟩
  | check :: checks =>
    let step := check.run formats text
    let rest := runAll formats path step.1 checks
    ⟨rest.value, (step.2.toList.map fun message => ⟨path, message⟩) ++ rest.issues⟩

namespace Schema

variable {α : Type}

def number (checks : List NumberCheck) (required : String := "Required") : Schema JsNumber
  | path, some (.number n) => ⟨some n, (checks.filterMap fun check => check.fails n).map fun message => ⟨path, message⟩⟩
  | path, data => invalidType "number" required path data

def string (formats : Formats) (checks : List StringCheck) (required : String := "Required") : Schema String
  | path, some (.string text) => StringCheck.runAll formats path text checks
  | path, data => invalidType "string" required path data

/-- `.refine`: it is asked about every value there is, also one with issues. -/
def refine (schema : Schema α) (holds : α → Bool) (message : String) : Schema α := fun path data =>
  let parsed := schema path data
  match parsed.value with
  | none => parsed
  | some value => ⟨some value, parsed.issues ++ if holds value then [] else [⟨path, message⟩]⟩

def optional (schema : Schema α) : Schema (Option α)
  | _, none => pure none
  | path, data => some <$> schema path data

/-- `z.record(z.unknown())`; a member named `__proto__` is left out. -/
def record : Schema (List (String × Json))
  | _, some (.object fields) => pure (fields.filter fun entry => entry.1 ≠ "__proto__")
  | path, data => invalidType "object" "Required" path data

/-- The values of `z.enum` as its messages list them. -/
def joinValues (options : List String) : String :=
  String.intercalate " | " (options.map fun option => "'" ++ option ++ "'")

def enum (options : List String) : Schema String
  | path, some (.string text) =>
    if text ∈ options then pure text
    else .issue path ("Invalid enum value. Expected " ++ joinValues options ++ ", received '" ++ text ++ "'")
  | path, data => invalidType (joinValues options) "Required" path data

/-- One key of `z.object`. -/
def key (schema : Schema α) (name : String) (body : Json) : Parsed α := schema [name] (body.field name)

/-- `z.object`, given what it makes of the members. -/
def object (members : Json → Parsed α) (body : Json) : Except (List Issue) α :=
  match body with
  | .object _ => (members body).result
  | body => (invalidType "object" "Required" [] (some body)).result

end Schema

end PaymentModel
