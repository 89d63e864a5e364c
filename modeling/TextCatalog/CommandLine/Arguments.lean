import TextCatalog.Net.Address
import TextCatalog.Text.Digits

/-!
# TextCatalog.CommandLine.Arguments

The arguments of the program.

* `Arguments` — port, address, database file and log level.
* `Arguments.parse` — from the words of the command line, or the first problem in them.
* `Arguments.bindAddress` — where to listen; an address overrides the port.

A word that follows an option is its value, but the value is looked at only when the next
option or the end of the line is reached.
-/

namespace TextCatalog

open Text

inductive OptionName where
  | port
  | address
  | database
  | logLevel
  deriving DecidableEq

inductive FlagName where
  | help
  | version
  deriving DecidableEq

inductive ArgumentError where
  | unknownArgument
  | valueValidation
  | invalidValue
  | argumentConflict
  | tooManyValues
  | displayHelp
  | displayVersion
  deriving DecidableEq

namespace ArgumentError

def name : ArgumentError → String
  | unknownArgument => "UnknownArgument"
  | valueValidation => "ValueValidation"
  | invalidValue => "InvalidValue"
  | argumentConflict => "ArgumentConflict"
  | tooManyValues => "TooManyValues"
  | displayHelp => "DisplayHelp"
  | displayVersion => "DisplayVersion"

end ArgumentError

/-- A long or short name of the command line: of an option with a value, or of a flag. -/
inductive Named where
  | option (o : OptionName)
  | flag (f : FlagName)
  deriving DecidableEq

namespace Named

def ofLong? (name : List Char) : Option Named :=
  if name = "port".toList then some (.option .port)
  else if name = "address".toList then some (.option .address)
  else if name = "database".toList then some (.option .database)
  else if name = "log-level".toList then some (.option .logLevel)
  else if name = "help".toList then some (.flag .help)
  else if name = "version".toList then some (.flag .version)
  else none

def ofShort? : Char → Option Named
  | 'p' => some (.option .port)
  | 'a' => some (.option .address)
  | 'd' => some (.option .database)
  | 'h' => some (.flag .help)
  | 'V' => some (.flag .version)
  | _ => none

end Named

def FlagName.asError : FlagName → ArgumentError
  | help => .displayHelp
  | version => .displayVersion

/-- The values given so far. -/
structure Given where
  port : Option Nat := none
  address : Option String := none
  database : Option String := none
  logLevel : Option String := none
  deriving DecidableEq

/-- An option whose value has not been looked at, or has not been seen, yet. -/
structure Pending where
  option : OptionName
  value : Option String
  deriving DecidableEq

structure Progress where
  given : Given
  pending : Option Pending
  deriving DecidableEq

namespace Given

def has (g : Given) : OptionName → Bool
  | .port => g.port.isSome
  | .address => g.address.isSome
  | .database => g.database.isSome
  | .logLevel => g.logLevel.isSome

/-- A number with or without a sign. -/
def integer? : List Char → Option Int
  | '-' :: rest => (Reader.whole? anyNumber rest).map fun n => -(n : Int)
  | '+' :: rest => (Reader.whole? anyNumber rest).map fun n => (n : Int)
  | s => (Reader.whole? anyNumber s).map fun n => (n : Int)

def port? (value : String) : Option Nat :=
  (integer? value.toList).bind fun n => if 0 ≤ n ∧ n < 65536 then some n.toNat else none

def set (g : Given) (o : OptionName) (value : String) : Except ArgumentError Given :=
  match o with
  | .port =>
    match port? value with
    | some n => .ok { g with port := some n }
    | none => .error .valueValidation
  | .address => .ok { g with address := some value }
  | .database =>
    if value.isEmpty then .error .invalidValue else .ok { g with database := some value }
  | .logLevel => .ok { g with logLevel := some value }

/-- An option may be given only once, and not without a value. -/
def take (g : Given) (p : Pending) : Except ArgumentError Given :=
  match p.value with
  | none => .error .invalidValue
  | some value => if g.has p.option then .error .argumentConflict else g.set p.option value

end Given

namespace Progress

def start : Progress := ⟨{}, none⟩

/-- What is given once the pending option is settled. -/
def settled (p : Progress) : Except ArgumentError Given :=
  match p.pending with
  | none => .ok p.given
  | some pending => p.given.take pending

/-- An option with its value. -/
def attach (p : Progress) (o : OptionName) (value : String) : Except ArgumentError Progress := do
  let given ← p.settled
  return ⟨← given.take ⟨o, some value⟩, none⟩

/-- An option whose value may be the next word. -/
def await (p : Progress) (o : OptionName) : Except ArgumentError Progress := do
  return ⟨← p.settled, some ⟨o, none⟩⟩

def flag (p : Progress) (f : FlagName) : Except ArgumentError Progress := do
  let _ ← p.settled
  throw f.asError

/-- A word that begins with two dashes, without them. -/
def long (p : Progress) (word : List Char) : Except ArgumentError Progress :=
  let value := word.dropWhile (· != '=')
  match Named.ofLong? (word.takeWhile (· != '=')), value with
  | none, _ => .error .unknownArgument
  | some (.option o), [] => p.await o
  | some (.option o), _ :: value => p.attach o (String.ofList value)
  | some (.flag f), [] => p.flag f
  | some (.flag _), _ :: _ => .error .tooManyValues

/-- A word that begins with one dash, without it. -/
def short (p : Progress) (c : Char) (rest : List Char) : Except ArgumentError Progress :=
  match Named.ofShort? c, rest with
  | none, _ => .error .unknownArgument
  | some (.flag f), _ => p.flag f
  | some (.option o), [] => p.await o
  | some (.option o), '=' :: value => p.attach o (String.ofList value)
  | some (.option o), value => p.attach o (String.ofList value)

/-- A word that is not an option can only be the value of one. -/
def plain (p : Progress) (word : String) : Except ArgumentError Progress :=
  match p.pending with
  | some ⟨o, none⟩ => .ok ⟨p.given, some ⟨o, some word⟩⟩
  | _ => .error .unknownArgument

/-- After two dashes alone nothing may follow. -/
def run : Progress → List String → Except ArgumentError Given
  | p, [] => p.settled
  | p, word :: rest =>
    match word.toList with
    | ['-', '-'] => if rest.isEmpty then p.settled else .error .unknownArgument
    | '-' :: '-' :: name => do run (← p.long name) rest
    | '-' :: c :: more => do run (← p.short c more) rest
    | _ => do run (← p.plain word) rest

end Progress

structure Arguments where
  port : Nat
  address : Option String
  database : Option String
  logLevel : String
  deriving DecidableEq

namespace Arguments

def ofGiven (g : Given) : Arguments :=
  ⟨g.port.getD 3000, g.address, g.database, g.logLevel.getD "info"⟩

def parse (words : List String) : Except ArgumentError Arguments :=
  (Progress.start.run words).map ofGiven

/-- Without an address, every address of this machine. -/
def bindAddress (a : Arguments) : Except String SocketAddress :=
  match a.address with
  | none => .ok (.v4 ⟨0, 0, 0, 0⟩ a.port)
  | some text =>
    match SocketAddress.ofText? text with
    | some address => .ok address
    | none =>
      .error ("failed to parse address '" ++ text ++ "': invalid socket address syntax")

end Arguments

end TextCatalog
