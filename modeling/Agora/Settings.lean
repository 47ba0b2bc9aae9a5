import Agora.Decimal.Binary64
import Agora.StoreError
import Agora.Text.LowerCase
import Agora.Token.Service

/-!
# Settings

What the services take from their environment. A number that cannot be read leaves its default in
place, except in the two groups that are read as a whole (`Server`, `Front`): there a value that
does not fit, or of which there are only parts, refuses the group. The values of `Server` are first
taken for what they look like: a truth value, a whole number, a number, or else a text.
-/

namespace Agora.Settings

/-- Names and values. -/
abbrev Environment := List (String × String)

/-- The number below `bound` that a variable holds. -/
def number? (env : Environment) (name : String) (bound : Nat) : Option Nat :=
  (env.lookup name).bind fun value => Decimal.below? bound value.toList

/-! ## Tokens, mail, cache and database -/

/-- What is said when there is no secret to sign with. -/
def secretMissing : String := "JWT_SECRET environment variable not set"

/-- What tokens are made with, if there is a secret: for three days, by and for `social`. -/
def tokens? (env : Environment) : Option Token.Config :=
  (env.lookup "JWT_SECRET").map fun secret => {
    secret
    audience := (env.lookup "JWT_AUDIENCE").getD "social"
    issuer := (env.lookup "JWT_ISSUER").getD "social"
    lifetime := .ofNat ((number? env "JWT_TOKEN_EXPIRY" UInt64.size).getD 259200) }

/-- The seconds for which an invitation is valid: three days. -/
def invitationLifetime (env : Environment) : UInt64 :=
  .ofNat ((number? env "MAIL_INVITATION_EXPIRY" UInt64.size).getD 259200)

/-- Where the cache is, and whether it is used. -/
structure Cache where
  url : String
  enabled : Bool
deriving DecidableEq

/-- The cache is switched off by the one word `false`. -/
def cache (env : Environment) : Cache where
  url := (env.lookup "REDIS_URL").getD "redis://localhost:6379"
  enabled := env.lookup "REDIS_ENABLED" ≠ some "false"

/-- Where the database is, and how many connections to it are kept for how many seconds. -/
structure Database where
  url : String
  most : Nat
  fewest : Nat
  timeout : Nat
deriving DecidableEq

def database (env : Environment) : Except StoreError Database :=
  match env.lookup "DATABASE_URL" with
  | none => .error (.configuration "DATABASE_URL environment variable not set")
  | some url => .ok {
      url
      most := (number? env "DATABASE_MAX_CONNECTIONS" UInt32.size).getD 10
      fewest := (number? env "DATABASE_MIN_CONNECTIONS" UInt32.size).getD 5
      timeout := (number? env "DATABASE_CONNECTION_TIMEOUT" UInt64.size).getD 30 }

/-! ## Groups that are read as a whole -/

/-- The characters of a name within the name of a variable. -/
def isNameChar (c : Char) : Bool := c.isAlphanum || [' ', '_', '-'].contains c

/-- A position in a list: a whole number, which may be negative, between blanks. -/
def isPosition (cs : List Char) : Bool :=
  let isSpace := fun c : Char => c = ' ' || c = '\t'
  let cs := ((cs.dropWhile isSpace).reverse.dropWhile isSpace).reverse
  cs.head? ≠ some '+' && (Decimal.int64? cs).isSome

/-- One or more steps into a value: a point and a name, or a position in brackets. -/
def areSteps : List Char → Bool
  | '.' :: cs =>
    let name := cs.takeWhile isNameChar
    let rest := cs.drop name.length
    !name.isEmpty && (rest.isEmpty || areSteps rest)
  | '[' :: cs =>
    let position := cs.takeWhile (· ≠ ']')
    let rest := cs.drop (position.length + 1)
    position.length < cs.length && isPosition position && (rest.isEmpty || areSteps rest)
  | _ => false
termination_by cs => cs.length
decreasing_by all_goals simp only [List.length_drop, List.length_cons]; omega

/-- What the environment says of a member of a group: nothing, or a value, or (none at all) only
parts of one. The group and the member are named in small letters; names of variables are the same
in capitals, and of variables with one name the last counts. A variable whose name goes on with
steps into the member stands for a part of it. -/
def groupMember? (env : Environment) (group name : String) : Option (Option String) :=
  let name := (group ++ "_" ++ name).toList
  let env := env.map fun entry => (Text.lower entry.1.toList, entry.2)
  if env.any fun entry => name.isPrefixOf entry.1 && areSteps (entry.1.drop name.length) then none
  else some (env.reverse.lookup name)

/-! ## The account service -/

/-- Where the account service listens, where its pages are, and what it is run for. -/
structure Front where
  address : String
  frontendUrl : String
  purpose : String
deriving DecidableEq

def front? (env : Environment) : Option Front := do
  return {
    address := (← groupMember? env "auth" "addr").getD "0.0.0.0:3000"
    frontendUrl := (← groupMember? env "auth" "frontend_url").getD "http://localhost:5173"
    purpose := (← groupMember? env "auth" "env").getD "development" }

def Front.isProduction (f : Front) : Bool := f.purpose = "production"

/-! ## The social service -/

/-- What a value looks like. -/
inductive Value where
  | truth (value : Bool)
  | whole (value : Int)
  | notANumber
  | number (isNegative : Bool) (magnitude : Decimal.Binary64)
  | text (value : String)
deriving DecidableEq

namespace Value

/-- The digits before and after the point, and the exponent of ten, of a decimal without a sign. -/
def decimal? (cs : List Char) : Option (Nat × Int) := do
  let isExponent := fun c : Char => c = 'e' || c = 'E'
  let mantissa := cs.takeWhile (!isExponent ·)
  let power ← match cs.dropWhile (!isExponent ·) with
    | [] => some 0
    | _ :: power => Decimal.int? power
  let before := mantissa.takeWhile (· ≠ '.')
  let after := (mantissa.dropWhile (· ≠ '.')).drop 1
  let digits ← Decimal.nat? (before ++ after)
  return (digits, power - after.length)

/-- A magnitude, by name or in digits. -/
def magnitude? (cs : List Char) : Option Decimal.Binary64 :=
  let small := cs.map Char.toLower
  if small = "inf".toList ∨ small = "infinity".toList then some .infinite
  else (decimal? cs).map fun (digits, exponent) => .ofScientific digits exponent

/-- A number with an optional sign. -/
def number? (cs : List Char) : Option Value :=
  let isNegative := cs.head? = some '-'
  let unsigned := if isNegative || cs.head? = some '+' then cs.drop 1 else cs
  if unsigned.map Char.toLower = "nan".toList then some .notANumber
  else (magnitude? unsigned).map (.number isNegative)

/-- The first reading that fits. -/
def ofText (s : String) : Value :=
  let small := Text.lowered s
  if small = "true" then .truth true
  else if small = "false" then .truth false
  else match Decimal.int64? s.toList with
    | some n => .whole n
    | none => (number? s.toList).getD (.text s)

/-- The text of a value, which may differ from the one that it was read from. -/
def toText : Value → String
  | .truth true => "true"
  | .truth false => "false"
  | .whole n => Decimal.text n
  | .notANumber => "NaN"
  | .number isNegative magnitude =>
    String.ofList ((if isNegative then ['-'] else []) ++ magnitude.positional)
  | .text s => s

/-- The largest number of an unsigned word. -/
def largest : Nat := 18446744073709551615

/-- The whole number below `2 ^ 64` that a value stands for. Numbers are rounded, and those out of
range moved to its nearer end. -/
def toWord? : Value → Option Nat
  | .truth b => some (if b then 1 else 0)
  | .whole n => if 0 ≤ n then some n.toNat else none
  | .notANumber => some 0
  | .number true _ => some 0
  | .number false .infinite => some largest
  | .number false (.finite m q) => some (min (Decimal.Binary64.roundHalfUp m q) largest)
  | .text s =>
    let small := Text.lowered s
    if ["true", "on", "yes"].contains small then some 1
    else if ["false", "off", "no"].contains small then some 0
    else Decimal.below? UInt64.size s.toList

end Value

/-- Where the social service listens, and the seconds that it has for a request. -/
structure Server where
  address : String
  timeout : Nat
deriving DecidableEq

/-- The milliseconds that the service has for a request. -/
def Server.milliseconds (s : Server) : Nat := s.timeout * 1000

def server? (env : Environment) : Option Server := do
  let address ← groupMember? env "api" "addr"
  let timeout ← match ← groupMember? env "api" "request_timeout_secs" with
    | some text => (Value.ofText text).toWord?
    | none => some 10
  return {
    address := (address.map fun text => (Value.ofText text).toText).getD "0.0.0.0:3001"
    timeout }

end Agora.Settings
