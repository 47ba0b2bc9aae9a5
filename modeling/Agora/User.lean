import Agora.Json.Decoder
import Agora.Json.Value

/-!
# Users and roles

A role ranks its holders by a level. A user is what other users see of an account, together with
its role. Both are written as JSON objects and read back from them.
-/

namespace Agora

open Json (Decoder Defect Scan)

/-- A rank with a name; of two roles the one with the higher level may do more. -/
structure Role where
  id : Int
  name : String
  level : Int
  description : String
deriving DecidableEq

namespace Role

def toJson (r : Role) : Json :=
  .obj [("id", .int r.id), ("name", .str r.name), ("level", .int r.level),
    ("description", .str r.description)]

def fields : List Decoder.Field :=
  [.of "id" .int64, .of "name" .string, .of "level" .int32, .of "description" .string]

def ofValues (values : List (String × Scan)) : Except Defect Role := do
  return {
    id := ← Decoder.required values "id" .int64
    name := ← Decoder.required values "name" .string
    level := ← Decoder.required values "level" .int32
    description := ← Decoder.required values "description" .string }

def decode : Decoder Role := fun scan => do ofValues (← Decoder.record fields scan)

end Role

/-- A user with its role. -/
structure User where
  id : Int
  username : String
  email : String
  createdAt : Time.Instant
  isActive : Bool
  role : Role
deriving DecidableEq

namespace User

def toJson (u : User) : Json :=
  .obj [("id", .int u.id), ("username", .str u.username), ("email", .str u.email),
    ("created_at", .str u.createdAt.text), ("is_active", .bool u.isActive),
    ("role", u.role.toJson)]

def fields : List Decoder.Field :=
  [.of "id" .int64, .of "username" .string, .of "email" .string, .of "created_at" .instant,
    .of "is_active" .bool, .of "role" Role.decode]

def ofValues (values : List (String × Scan)) : Except Defect User := do
  return {
    id := ← Decoder.required values "id" .int64
    username := ← Decoder.required values "username" .string
    email := ← Decoder.required values "email" .string
    createdAt := ← Decoder.required values "created_at" .instant
    isActive := ← Decoder.required values "is_active" .bool
    role := ← Decoder.required values "role" Role.decode }

def decode : Decoder User := fun scan => do ofValues (← Decoder.record fields scan)

end User

end Agora
