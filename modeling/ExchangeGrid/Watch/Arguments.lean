import ExchangeGrid.Text.Decimal
import ExchangeGrid.Text.Split

namespace ExchangeGrid
namespace Watch

/-!
# The command line

Reads the options of the watching program.  A value may be attached to its option or follow it,
but a word that looks like an option is never taken for a value.  What is wrong with a value is
only found out when the next option comes, or at the end; an unknown option stops the reading at
once.
-/

/-- Why a command line is not taken, or what it asks for instead of work. -/
inductive UsageKind
  | unknownArgument
  | argumentConflict
  | invalidValue
  | valueValidation
  | tooManyValues
  | displayHelp
  | displayVersion
  deriving DecidableEq, Repr

/-- What the options say. -/
structure Arguments where
  hosts : List String := []
  nodeName : Option String := none
  password : Option String := none
  description : Option String := none
  certificate : Option String := none
  key : Option String := none
  authorities : List String := []
  dns : Option String := none
  insecure : Bool := false
  activateInterval : Option Nat := none
  deriving DecidableEq, Repr

inductive Switch
  | host
  | nodeName
  | password
  | description
  | certificate
  | key
  | authority
  | dns
  | insecure
  | activateInterval
  | help
  | version
  deriving DecidableEq, Repr

namespace Switch

def ofLong? (name : String) : Option Switch :=
  [("host", host), ("node-name", nodeName), ("password", password), ("description", description),
    ("cert", certificate), ("key", key), ("ca-file", authority), ("dns", dns),
    ("insecure", insecure), ("activate-interval", activateInterval), ("help", help),
    ("version", version)].find? (·.1 == name) |>.map Prod.snd

def ofLetter? (letter : Char) : Option Switch :=
  [('a', host), ('n', nodeName), ('w', password), ('d', description), ('c', certificate),
    ('k', key), ('s', authority), ('h', help), ('V', version)].find? (·.1 == letter)
    |>.map Prod.snd

def takesValue : Switch → Bool
  | insecure | help | version => false
  | _ => true

end Switch

namespace Arguments

/-- Set what may be set once. -/
def once {α : Type} (old : Option α) (value : α) : Except UsageKind (Option α) :=
  if old.isSome then .error .argumentConflict else .ok (some value)

/-- A path, which must not be empty. -/
def path (value : String) : Except UsageKind String :=
  if value.isEmpty then .error .invalidValue else .ok value

def setValue (arguments : Arguments) (switch : Switch) (value : String) :
    Except UsageKind Arguments :=
  match switch with
  | .host => .ok { arguments with hosts := arguments.hosts ++ [value] }
  | .nodeName => return { arguments with nodeName := ← once arguments.nodeName value }
  | .password => return { arguments with password := ← once arguments.password value }
  | .description => return { arguments with description := ← once arguments.description value }
  | .certificate => do
    let set ← once arguments.certificate value
    let _ ← path value
    return { arguments with certificate := set }
  | .key => do
    let set ← once arguments.key value
    let _ ← path value
    return { arguments with key := set }
  | .authority => do
    let value ← path value
    return { arguments with authorities := arguments.authorities ++ [value] }
  | .dns => return { arguments with dns := ← once arguments.dns value }
  | .activateInterval =>
    if arguments.activateInterval.isSome then .error .argumentConflict
    else
      match Decimal.natural? Decimal.wordBound value.toList with
      | some seconds => .ok { arguments with activateInterval := some seconds }
      | none => .error .valueValidation
  | .insecure | .help | .version => .error .tooManyValues

def setFlag (arguments : Arguments) (switch : Switch) : Except UsageKind Arguments :=
  match switch with
  | .insecure =>
    if arguments.insecure then .error .argumentConflict else .ok { arguments with insecure := true }
  | .help => .error .displayHelp
  | .version => .error .displayVersion
  | _ => .error .invalidValue

end Arguments

/-- What is known while words are read: an option may still wait for its value, or wait to be
looked at with it. -/
structure Reading where
  arguments : Arguments := {}
  pending : Option (Switch × Option String) := none

namespace Reading

def settle (reading : Reading) : Except UsageKind Arguments :=
  match reading.pending with
  | none => .ok reading.arguments
  | some (switch, none) => reading.arguments.setFlag switch
  | some (switch, some value) => reading.arguments.setValue switch value

/-- Read an option that has a value, perhaps attached to it. -/
def takeOption (reading : Reading) (switch : Switch) (attached : Option String) :
    Except UsageKind Reading := do
  let arguments ← reading.settle
  match attached with
  | some value => return { arguments := ← arguments.setValue switch value }
  | none => return { arguments, pending := some (switch, none) }

def takeFlag (reading : Reading) (switch : Switch) : Except UsageKind Reading := do
  let arguments ← reading.settle
  return { arguments := ← arguments.setFlag switch }

/-- Read a word that begins with two dashes. -/
def takeLong (reading : Reading) (word : List Char) : Except UsageKind Reading :=
  let (name, attached) := match splitOnce? '=' word with
    | some (name, value) => (name, some (String.ofList value))
    | none => (word, none)
  match Switch.ofLong? (String.ofList name) with
  | none => .error .unknownArgument
  | some switch =>
    if switch.takesValue then reading.takeOption switch attached
    else if attached.isSome then .error .tooManyValues
    else reading.takeFlag switch

/-- Read the letters of a word that begins with one dash.  What follows a letter that has a value
is its value. -/
def takeLetters (reading : Reading) : List Char → Except UsageKind Reading
  | [] => .ok reading
  | letter :: rest =>
    match Switch.ofLetter? letter with
    | none => .error .unknownArgument
    | some switch =>
      if switch.takesValue then
        match rest with
        | [] => reading.takeOption switch none
        | '=' :: value => reading.takeOption switch (some (String.ofList value))
        | value => reading.takeOption switch (some (String.ofList value))
      else do
        let reading ← reading.takeFlag switch
        takeLetters reading rest

/-- Read a word that is no option: it can only be a value. -/
def takeWord (reading : Reading) (word : String) : Except UsageKind Reading :=
  match reading.pending with
  | some (switch, none) => .ok { reading with pending := some (switch, some word) }
  | _ => .error .unknownArgument

/-- Read all words.  Two dashes alone end the options, and nothing but options is taken. -/
def takeAll (reading : Reading) : List String → Except UsageKind Reading
  | [] => .ok reading
  | word :: words =>
    match word.toList with
    | ['-', '-'] => if words.isEmpty then .ok reading else .error .unknownArgument
    | '-' :: '-' :: long => do takeAll (← reading.takeLong long) words
    | '-' :: c :: letters => do takeAll (← reading.takeLetters (c :: letters)) words
    | _ => do takeAll (← reading.takeWord word) words

end Reading

/-- Read a command line.  The name and the password may come from the environment instead. -/
def Arguments.parse (environment : String → Option String) (words : List String) :
    Except UsageKind Arguments := do
  let reading ← Reading.takeAll {} words
  let arguments ← reading.settle
  return { arguments with
    nodeName := arguments.nodeName.or (environment "PXGRID_NODE_NAME")
    password := arguments.password.or (environment "PXGRID_PASSWORD") }

end Watch
end ExchangeGrid
