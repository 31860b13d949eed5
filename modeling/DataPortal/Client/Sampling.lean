import DataPortal.Client.Basic
import DataPortal.Schema.Inference
/-!
# Schemas from samples

The schema of a model is inferred from one page of its objects.
-/
namespace DataPortal

/-- What is known of a model: its fields with their types, and from how many records. -/
structure ModelSchema where
  path : String
  fields : List (String × FieldType)
  sampleSize : Nat

/-- The type of a field, if the model has it. -/
def ModelSchema.typeOf? (m : ModelSchema) (name : String) : Option FieldType :=
  m.fields.lookup name

namespace Client

variable {σ : Type}

/-- The schema that the records of a page show. -/
def schemaOf (path : String) (data : Value) : Except Failure ModelSchema := do
  let records ← Schema.recordsOf data
  let fields ← Schema.inferFields records
  return ⟨path, fields, records.length⟩

/-- The schema of a model from a sample of its objects. -/
def inferSchema (c : Client σ) (model : String) (sampleSize : Value) : Action σ ModelSchema := do
  let data ← c.getAll model (some (Query.empty.withLimit sampleSize))
  Action.settle (schemaOf model data)

/-- The schemas of several models. A model for which the service answers with an error is
known by its path alone. -/
def inferSchemas (c : Client σ) (sampleSize : Value) : List String → Action σ (List ModelSchema)
  | [] => return []
  | model :: rest => do
    let schema ← match ← (c.inferSchema model sampleSize).outcome with
      | .ok schema => pure schema
      | .error (.reported e) =>
        if e.isFromService then pure ⟨model, [], 0⟩ else Action.settle (.error (.reported e))
      | .error f => Action.settle (.error f)
    let schemas ← c.inferSchemas sampleSize rest
    return schema :: schemas

end Client
end DataPortal
