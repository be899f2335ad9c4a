import Vetting.Schema.Reader

namespace Vetting.Schema

inductive Cause where
  | forbidden
  | missing (key : String)
  | wrongType (types : List TypeName)
  -- The schema is a reference that leads nowhere.
  | unresolved
deriving DecidableEq, Repr, Inhabited

structure Violation where
  -- The keys and indices that lead to the value.
  path : List String
  value : Json
  cause : Cause
deriving Inhabited

-- A key inside a pointer, in which slashes delimit the keys.
def escapeKey (key : String) : String :=
  String.ofList <| key.toList.flatMap fun c =>
    match c with
    | '~' => ['~', '0']
    | '/' => ['~', '1']
    | c => [c]

-- The pointer to a value; a lone slash points to the document.
def pointer : List String → String
  | [] => "/"
  | path => String.join (path.map fun key => "/" ++ escapeKey key)

namespace Violation

-- The same violation seen from one level up.
def under (key : String) (violation : Violation) : Violation :=
  { violation with path := key :: violation.path }

def pointer (violation : Violation) : String := Schema.pointer violation.path

-- What is wrong. Several types are named in the order of their names.
def message (violation : Violation) : String :=
  let value := violation.value.compact
  match violation.cause with
  | .forbidden => s!"False schema does not allow {value}"
  | .missing key => s!"{Json.quote key} is a required property"
  | .unresolved => s!"No schema to check {value} against"
  | .wrongType types =>
    let named := (TypeName.all.filter types.contains).map fun type => Json.quote type.name
    match named with
    | [one] => s!"{value} is not of type {one}"
    | names =>
      let list := String.intercalate ", " names
      s!"{value} is not of types {list}"

end Violation

-- A violation for each key that an object lacks. Other values lack nothing.
def missingFrom (required : List String) (value : Json) : List Violation :=
  match value with
  | .object members =>
    (required.filter fun key => !Json.Members.contains members key).map fun key =>
      ⟨[], value, .missing key⟩
  | _ => []

-- A violation if a value has none of the types. An empty list of types requires none.
def typeViolation (types : List TypeName) (value : Json) : List Violation :=
  if types.isEmpty || types.any (·.admits value) then [] else [⟨[], value, .wrongType types⟩]

mutual

-- The violations of a schema of a schema document by a value: those inside items and members first,
-- then missing members, then a wrong type.
def violations (document : Json) (schema : Schema) (value : Json) : List Violation :=
  match follow document schema with
  | none => [⟨[], value, .unresolved⟩]
  | some (.reference _) => [⟨[], value, .unresolved⟩]
  | some .anything => []
  | some .nothing => [⟨[], value, .forbidden⟩]
  | some (.keywords items properties required types) =>
    (match value with
    | .array values =>
      match items with
      | some schema => itemViolations document schema 0 values
      | none => []
    | .object members => memberViolations document properties members
    | _ => []) ++ missingFrom required value ++ typeViolation types value

def itemViolations (document : Json) (schema : Schema) (index : Nat) :
    List Json → List Violation
  | [] => []
  | value :: rest =>
    (violations document schema value).map (Violation.under (toString index)) ++
      itemViolations document schema (index + 1) rest

-- Members follow in key order, which is also the order of the properties.
def memberViolations (document : Json) (properties : List (String × Schema)) :
    List (String × Json) → List Violation
  | [] => []
  | (key, value) :: rest =>
    (match properties.lookup key with
    | some schema => (violations document schema value).map (Violation.under key)
    | none => []) ++ memberViolations document properties rest

end

-- The violations of a schema document by a value; none if the document is no schema.
def check? (document value : Json) : Option (List Violation) :=
  (ofJson? document).map fun schema => violations document schema value

end Vetting.Schema
