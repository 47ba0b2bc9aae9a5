import Agora.Decimal.Integer
import Agora.Text.Utf8

/-!
# What an account may look like

Rules for usernames, emails and passwords. Each value is checked in a fixed order, and the first
rule that it breaks is reported.
-/

namespace Agora.Account

/-- What is checked. -/
inductive Subject where
  | username
  | email
  | password
deriving DecidableEq, Repr

def Subject.name : Subject → String
  | .username => "Username"
  | .email => "Email"
  | .password => "Password"

/-- The rule that a value breaks. -/
inductive Invalid where
  | missing (subject : Subject)
  | tooShort (subject : Subject)
  | tooLong (subject : Subject)
  | usernameCharacters
  | emailFormat
deriving DecidableEq, Repr

/-- The fewest characters of a username and of a password. -/
def Subject.shortest : Subject → Nat
  | .username => 3
  | .email => 0
  | .password => 8

/-- The most characters of a username and of a password, and the most bytes of an email. -/
def Subject.longest : Subject → Nat
  | .username => 40
  | .email => 255
  | .password => 72

def Invalid.message : Invalid → String
  | .missing subject => subject.name ++ " is required"
  | .tooShort subject =>
    subject.name ++ " must be at least " ++ Decimal.text subject.shortest ++ " characters long"
  | .tooLong subject =>
    subject.name ++ " must be at most " ++ Decimal.text subject.longest ++ " characters long"
  | .usernameCharacters => "Username can only contain letters, numbers, and underscores"
  | .emailFormat => "Invalid email format"

/-- The letters of English. -/
def isLetter (c : Char) : Bool := ('a' ≤ c && c ≤ 'z') || ('A' ≤ c && c ≤ 'Z')

def isLetterOrDigit (c : Char) : Bool := isLetter c || ('0' ≤ c && c ≤ '9')

def isUsernameChar (c : Char) : Bool := isLetterOrDigit c || c = '_'

/-- What may stand before the at sign of an email. -/
def isLocalChar (c : Char) : Bool :=
  isLetterOrDigit c || c = '.' || c = '_' || c = '%' || c = '+' || c = '-'

/-- What may stand in the domain of an email. -/
def isDomainChar (c : Char) : Bool := isLetterOrDigit c || c = '.' || c = '-'

/-- A domain ends in a point and two or more letters, with something before the point. -/
def isDomain (cs : List Char) : Bool :=
  let reversed := cs.reverse
  let top := reversed.takeWhile (· ≠ '.')
  let before := (reversed.dropWhile (· ≠ '.')).drop 1
  2 ≤ top.length && top.all isLetter && !before.isEmpty && before.all isDomainChar

/-- An email is a non-empty name, an at sign and a domain. -/
def isEmail (cs : List Char) : Bool :=
  let name := cs.takeWhile (· ≠ '@')
  match cs.dropWhile (· ≠ '@') with
  | [] => false
  | _ :: domain => !name.isEmpty && name.all isLocalChar && isDomain domain

def checkUsername (username : String) : Except Invalid Unit :=
  let cs := username.toList
  if cs.isEmpty then .error (.missing .username)
  else if cs.length < Subject.username.shortest then .error (.tooShort .username)
  else if Subject.username.longest < cs.length then .error (.tooLong .username)
  else if cs.all isUsernameChar then .ok ()
  else .error .usernameCharacters

def checkEmail (email : String) : Except Invalid Unit :=
  let cs := email.toList
  if cs.isEmpty then .error (.missing .email)
  else if Subject.email.longest < (Text.Utf8.encodeChars cs).length then .error (.tooLong .email)
  else if isEmail cs then .ok ()
  else .error .emailFormat

def checkPassword (password : String) : Except Invalid Unit :=
  let cs := password.toList
  if cs.isEmpty then .error (.missing .password)
  else if cs.length < Subject.password.shortest then .error (.tooShort .password)
  else if Subject.password.longest < cs.length then .error (.tooLong .password)
  else .ok ()

end Agora.Account
