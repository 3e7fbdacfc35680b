import ChainActivity.Text.Numeral

/-!
# Command-line arguments

Every option has a long name and a value, which stands in the next argument or behind
an equals sign.  Some options may be given by variables of the environment instead.

## Main definitions

* `Arguments` — the values of all options.
* `Arguments.read` — the values given by arguments and environment.
* `UsageError` — why arguments are not understood.
* `readDecimals` — the value of the option that sets the decimal places of a token.

## Design notes

Arguments are read from the left.  An option whose value is the next argument is read
when the argument after that value comes; by then an unknown option has been reported
already.
-/

namespace ChainActivity

/-- How much the program reports about its work. -/
inductive LogLevel where
  | error
  | warn
  | info
  | debug
  | trace
  deriving DecidableEq, Repr

/-- The values of all options. -/
structure Arguments where
  /-- The path of the file of records. -/
  input : String
  /-- The account from whose side transactions are seen. -/
  reference : Option String
  /-- The decimal places of tokens, in the order in which they were given. -/
  decimals : List (String × UInt32)
  /-- The address of a shared cache. -/
  redisUrl : Option String
  logLevel : LogLevel
  chunkSize : Nat
  concurrency : Nat
  deriving DecidableEq, Repr

/-- Why arguments are not understood.  Only a fault in the decimal places of a token is
explained. -/
structure UsageError where
  message : Option String
  deriving DecidableEq, Repr

/-! ### Values of options -/

/-- Decimal places of a token, written as the token, an equals sign and a number. -/
def readDecimals (text : String) : Except String (String × UInt32) :=
  let token := text.toList.takeWhile (· ≠ '=')
  match text.toList.dropWhile (· ≠ '=') with
  | [] => .error s!"expected TOKEN=N, got '{text}'"
  | _ :: digits =>
    if token.isEmpty then .error s!"missing token in '{text}'"
    else
      match Numeral.value 10 UInt32.size digits with
      | .ok n => .ok (String.ofList token, UInt32.ofNat n)
      | .error fault => .error s!"invalid decimals in '{text}': {fault.message}"

/-- A number of sixty-four bits. -/
def readCount? (text : String) : Option Nat :=
  (Numeral.value 10 UInt64.size text.toList).toOption

/-- The level of a number. -/
def LogLevel.ofNumber? : Nat → Option LogLevel
  | 1 => some error
  | 2 => some warn
  | 3 => some info
  | 4 => some debug
  | 5 => some trace
  | _ => none

/-- The level of a name in lower-case letters. -/
def LogLevel.ofName? (name : String) : Option LogLevel :=
  if name = "error" then some error
  else if name = "warn" then some warn
  else if name = "info" then some info
  else if name = "debug" then some debug
  else if name = "trace" then some trace
  else none

/-- The level that a text names, by its name in letters of either case or by its
number. -/
def LogLevel.ofText? (text : String) : Option LogLevel :=
  ((readCount? text).bind ofNumber?).or (ofName? (String.ofList (text.toList.map Char.toLower)))

/-! ### Options -/

/-- An option that has a value. -/
inductive ValueOption where
  | input
  | reference
  | decimals
  | redisUrl
  | logLevel
  | chunkSize
  | concurrency
  deriving DecidableEq, Repr

namespace ValueOption

/-- All options that have a value. -/
def all : List ValueOption :=
  [input, reference, decimals, redisUrl, logLevel, chunkSize, concurrency]

/-- The long name of an option. -/
def name : ValueOption → String
  | input => "input"
  | reference => "reference"
  | decimals => "decimals"
  | redisUrl => "redis-url"
  | logLevel => "log-level"
  | chunkSize => "chunk-size"
  | concurrency => "concurrency"

/-- The option of a long name. -/
def ofName? (name : String) : Option ValueOption :=
  all.find? fun o => o.name = name

end ValueOption

/-- The values that have been given so far. -/
structure Given where
  input : Option String := none
  reference : Option String := none
  decimals : List (String × UInt32) := []
  redisUrl : Option String := none
  logLevel : Option LogLevel := none
  chunkSize : Option Nat := none
  concurrency : Option Nat := none
  deriving DecidableEq, Repr

namespace Given

/-- A fault that is not explained. -/
def refused {α : Type} : Except UsageError α := .error ⟨none⟩

/-- Gives an option its value.  Only decimal places may be given more than once. -/
def set (g : Given) (option : ValueOption) (value : String) : Except UsageError Given :=
  match option with
  | .input => if g.input.isSome then refused else .ok { g with input := some value }
  | .reference => if g.reference.isSome then refused else .ok { g with reference := some value }
  | .decimals =>
    match readDecimals value with
    | .ok entry => .ok { g with decimals := g.decimals ++ [entry] }
    | .error message => .error ⟨some message⟩
  | .redisUrl => if g.redisUrl.isSome then refused else .ok { g with redisUrl := some value }
  | .logLevel =>
    match g.logLevel, LogLevel.ofText? value with
    | none, some level => .ok { g with logLevel := some level }
    | _, _ => refused
  | .chunkSize =>
    match g.chunkSize, readCount? value with
    | none, some n => .ok { g with chunkSize := some n }
    | _, _ => refused
  | .concurrency =>
    match g.concurrency, readCount? value with
    | none, some n => .ok { g with concurrency := some n }
    | _, _ => refused

end Given

/-! ### Reading arguments -/

/-- An argument by its form. -/
inductive ArgumentForm where
  /-- Two hyphens: no options follow. -/
  | endOfOptions
  /-- A long name, perhaps with a value behind an equals sign. -/
  | long (name : String) (value : Option String)
  /-- Short names. -/
  | short (names : List Char)
  /-- Anything else. -/
  | plain (text : String)
  deriving DecidableEq, Repr

/-- The form of an argument. -/
def ArgumentForm.of (text : String) : ArgumentForm :=
  match text.toList with
  | ['-', '-'] => .endOfOptions
  | '-' :: '-' :: rest =>
    .long (String.ofList (rest.takeWhile (· ≠ '=')))
      (match rest.dropWhile (· ≠ '=') with
        | [] => none
        | _ :: value => some (String.ofList value))
  | '-' :: c :: rest => .short (c :: rest)
  | _ => .plain text

/-- What has been read of the arguments. -/
structure ArgumentReader where
  given : Given := {}
  /-- The last option, if its value stands in an argument of its own, and that value
  once it has been read. -/
  pending : Option (ValueOption × Option String) := none
  /-- Whether options have ended. -/
  isEnded : Bool := false
  deriving DecidableEq, Repr

/-- How reading ends. -/
inductive Reading (α : Type) where
  | finished (value : α)
  /-- The user asked for help. -/
  | help
  | failed (error : UsageError)
  deriving Repr

namespace ArgumentReader

/-- Gives the last option its value. -/
def settle (r : ArgumentReader) : Except UsageError ArgumentReader :=
  match r.pending with
  | none => .ok r
  | some (_, none) => Given.refused
  | some (option, some value) =>
    (r.given.set option value).map fun given => { r with given, pending := none }

/-- Reads a long option. -/
def readLong (r : ArgumentReader) (name : String) (value : Option String) :
    Reading ArgumentReader :=
  if name = "help" then
    match r.settle, value with
    | .error e, _ => .failed e
    | .ok _, some _ => .failed ⟨none⟩
    | .ok _, none => .help
  else
    match ValueOption.ofName? name with
    | none => .failed ⟨none⟩
    | some option =>
      match r.settle, value with
      | .error e, _ => .failed e
      | .ok r, none => .finished { r with pending := some (option, none) }
      | .ok r, some value =>
        match r.given.set option value with
        | .ok given => .finished { r with given }
        | .error e => .failed e

/-- Reads one argument. -/
def step (r : ArgumentReader) (text : String) : Reading ArgumentReader :=
  if r.isEnded then .failed ⟨none⟩
  else
    match ArgumentForm.of text with
    | .endOfOptions => .finished { r with isEnded := true }
    | .long name value => r.readLong name value
    | .short names =>
      if names.head? = some 'h' then
        match r.settle with
        | .ok _ => .help
        | .error e => .failed e
      else .failed ⟨none⟩
    | .plain value =>
      match r.pending with
      | some (option, none) => .finished { r with pending := some (option, some value) }
      | _ => .failed ⟨none⟩

/-- Reads arguments from the left. -/
def readAll (r : ArgumentReader) : List String → Reading Given
  | [] =>
    match r.settle with
    | .ok r => .finished r.given
    | .error e => .failed e
  | text :: rest =>
    match r.step text with
    | .finished r => r.readAll rest
    | .help => .help
    | .failed e => .failed e

end ArgumentReader

/-- The variable of the environment for an option. -/
def ValueOption.variable? : ValueOption → Option String
  | .input => some "TXNSCOPE_INPUT"
  | .reference => some "TXNSCOPE_REFERENCE"
  | .redisUrl => some "TXNSCOPE_REDIS_URL"
  | .logLevel => some "TXNSCOPE_LOG_LEVEL"
  | _ => none

/-- Gives an option the value of its variable, unless it has a value. -/
def Given.setFrom (environment : String → Option String) (g : Given) (option : ValueOption) :
    Except UsageError Given :=
  let isGiven :=
    match option with
    | .input => g.input.isSome
    | .reference => g.reference.isSome
    | .redisUrl => g.redisUrl.isSome
    | .logLevel => g.logLevel.isSome
    | _ => true
  match option.variable?.bind environment with
  | none => .ok g
  | some value => if isGiven then .ok g else g.set option value

/-- The values of all options, with defaults.  The path must be given. -/
def Given.complete (g : Given) : Except UsageError Arguments :=
  match g.input with
  | none => Given.refused
  | some input =>
    .ok
      { input
        reference := g.reference
        decimals := g.decimals
        redisUrl := g.redisUrl
        logLevel := g.logLevel.getD .info
        chunkSize := g.chunkSize.getD 100
        concurrency := g.concurrency.getD 4 }

/-- The values given by arguments and environment.  Arguments win. -/
def Arguments.read (environment : String → Option String) (args : List String) :
    Reading Arguments :=
  match ({} : ArgumentReader).readAll args with
  | .failed e => .failed e
  | .help => .help
  | .finished g =>
    match (ValueOption.all.foldlM (Given.setFrom environment) g).bind Given.complete with
    | .ok arguments => .finished arguments
    | .error e => .failed e

/-- The path of the file of records; a tilde in front of a slash means the home
directory. -/
def Arguments.path (a : Arguments) (home : Option String) : String :=
  match a.input.toList, home with
  | '~' :: '/' :: rest, some home => home ++ String.ofList ('/' :: rest)
  | _, _ => a.input

end ChainActivity
