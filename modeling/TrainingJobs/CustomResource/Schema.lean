/-
Schemas: what the platform is told of the form of an object, so that it can refuse others.

Only what the objects of this operator need is here: texts, choices of names, integers, lists, maps and
records. Every schema may say what the value is for, that it may be null, and what stands in for it when it is
missing.
-/
import TrainingJobs.Json.Basic

set_option autoImplicit false

namespace TrainingJobs

/-- What a schema says beside the form. -/
structure SchemaNotes where
  title : Option String := none
  description : Option String := none
  nullable : Bool := false
  /-- What stands in for it when it is missing. -/
  default : Option Json := none
  deriving Inhabited

/-- The form of a value. -/
inductive Schema where
  /-- A text, of some format perhaps. -/
  | text (notes : SchemaNotes) (format : Option String)
  | choice (notes : SchemaNotes) (names : List String)
  /-- An integer of so many bits. -/
  | integer (notes : SchemaNotes) (bits : Nat)
  | list (notes : SchemaNotes) (items : Schema)
  /-- A map with texts as keys. -/
  | map (notes : SchemaNotes) (values : Schema)
  /-- A record, with the names of the fields that have to be there. -/
  | record (notes : SchemaNotes) (fields : List (String × Schema)) (required : List String)
  /-- An object that is checked elsewhere. -/
  | anyObject (notes : SchemaNotes)

namespace SchemaNotes

def encode (n : SchemaNotes) : List (String × Option Json) :=
  [("title", n.title.map .str), ("description", n.description.map .str),
    ("nullable", if n.nullable then some (.bool true) else none), ("default", n.default)]

end SchemaNotes

namespace Schema

/-- A schema of a type, with what else it says. -/
def ofType (type : String) (notes : SchemaNotes) (more : List (String × Option Json)) : Json :=
  .ofFields (("type", some (.str type)) :: notes.encode ++ more)

mutual

def encode : Schema → Json
  | text notes format => ofType "string" notes [("format", format.map .str)]
  | choice notes names => ofType "string" notes [("enum", some (.arr (names.map .str)))]
  | integer notes bits => ofType "integer" notes [("format", some (.str ("int" ++ toString bits)))]
  | list notes items => ofType "array" notes [("items", some (encode items))]
  | map notes values => ofType "object" notes [("additionalProperties", some (encode values))]
  | record notes fields required =>
    ofType "object" notes
      [("properties", some (.obj (encodeFields fields))),
        ("required", if required.isEmpty then none else some (.arr (required.map .str)))]
  | anyObject notes =>
    ofType "object" notes [("x-kubernetes-preserve-unknown-fields", some (.bool true))]

def encodeFields : List (String × Schema) → List (String × Json)
  | [] => []
  | (name, schema) :: rest => (name, encode schema) :: encodeFields rest

end

end Schema

end TrainingJobs
