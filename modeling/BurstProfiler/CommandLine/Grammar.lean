/-! Argument lists with options, positional arguments and subcommands, and the way they are
read.

An option that takes a value may have it attached or in the next argument. A value is looked at
only when the next argument starts something new, so faults come out in that order: the value
that is pending first, then the argument that follows it. An argument that fits nowhere is named
even if the pending value is bad. -/

set_option autoImplicit false

namespace BurstProfiler.CommandLine

inductive ValueFault where
  | notAllowed
  | rejected (message : String)
  /-- Reading the value breaks off the program. -/
  | crash (message : String)
  deriving DecidableEq, Repr

inductive UsageFault where
  | unknownArgument (argument : String)
  | unknownSubcommand (name : String)
  | unneededValue (argument value : String)
  | repeated (argument : String)
  | invalidValue (argument value : String)
  | rejectedValue (argument value message : String)
  | missing (arguments : List String)
  | help
  | version
  | crash (message : String)
  deriving DecidableEq, Repr

def UsageFault.message : UsageFault → String
  | .unknownArgument argument => "unexpected argument '" ++ argument ++ "' found"
  | .unknownSubcommand name => "unrecognized subcommand '" ++ name ++ "'"
  | .unneededValue argument value =>
    "unexpected value '" ++ value ++ "' for '" ++ argument ++ "' found"
  | .repeated argument => "the argument '" ++ argument ++ "' cannot be used multiple times"
  | .invalidValue argument value => "invalid value '" ++ value ++ "' for '" ++ argument ++ "'"
  | .rejectedValue argument value message =>
    "invalid value '" ++ value ++ "' for '" ++ argument ++ "': " ++ message
  | .missing arguments =>
    "the following required arguments were not provided: " ++ " ".intercalate arguments
  | .help => "help is asked for"
  | .version => "the version is asked for"
  | .crash message => message

def UsageFault.isCrash : UsageFault → Bool
  | .crash _ => true
  | _ => false

variable {σ : Type}

abbrev Reader (σ : Type) := String → σ → Except ValueFault σ

inductive Action (σ : Type) where
  | value (read : Reader σ)
  | flag (turnOn : σ → σ)
  | help
  | version

structure Opt (σ : Type) where
  long : String
  short : Option Char
  display : String
  action : Action σ

structure Positional (σ : Type) where
  display : String
  read : Reader σ

structure Grammar (σ : Type) where
  options : List (Opt σ)
  positionals : List (Positional σ)
  subcommands : List String

/-- A value that was announced and not yet taken; none if the argument list has not given it. -/
structure Pending (σ : Type) where
  display : String
  read : Reader σ
  value : Option String

structure Scan (σ : Type) where
  result : σ
  seen : List String
  pending : Option (Pending σ)
  awaiting : Bool
  filled : Nat

namespace Scan

def start (result : σ) : Scan σ := ⟨result, [], none, false, 0⟩

def take (s : Scan σ) (display : String) (read : Reader σ) (value : String) :
    Except UsageFault (Scan σ) :=
  if s.seen.contains display then .error (.repeated display)
  else
    match read value s.result with
    | .ok result =>
      .ok { s with result := result, seen := display :: s.seen, pending := none }
    | .error .notAllowed => .error (.invalidValue display value)
    | .error (.rejected message) => .error (.rejectedValue display value message)
    | .error (.crash message) => .error (.crash message)

def resolve (s : Scan σ) : Except UsageFault (Scan σ) :=
  match s.pending with
  | none => .ok s
  | some p =>
    match p.value with
    | none => .error (.invalidValue p.display "")
    | some value => s.take p.display p.read value

/-- The fault of an argument that fits nowhere; a pending value counts only if it breaks off the
program. -/
def reject (s : Scan σ) (fault : UsageFault) : UsageFault :=
  match s.resolve with
  | .error (.crash message) => .crash message
  | _ => fault

def option (s : Scan σ) (o : Opt σ) (read : Reader σ) (attached : Option String) :
    Except UsageFault (Scan σ) := do
  let s ← s.resolve
  match attached with
  | some value =>
    let s ← s.take o.display read value
    pure { s with awaiting := false }
  | none => pure { s with pending := some ⟨o.display, read, none⟩, awaiting := true }

def switch (s : Scan σ) (display : String) (turnOn : σ → σ) : Except UsageFault (Scan σ) := do
  let s ← s.resolve
  if s.seen.contains display then throw (.repeated display)
  else
    pure { s with result := turnOn s.result, seen := display :: s.seen, awaiting := false }

/-- Acts on an option; `attached` is what stands behind it in the same argument. -/
def act (s : Scan σ) (o : Opt σ) (attached : Option String) : Except UsageFault (Scan σ) :=
  match o.action with
  | .value read => s.option o read attached
  | .flag turnOn => s.switch o.display turnOn
  | .help => s.resolve.bind (fun _ => .error .help)
  | .version => s.resolve.bind (fun _ => .error .version)

end Scan

def Action.takesValue : Action σ → Bool
  | .value _ => true
  | _ => false

namespace Grammar

/-- An argument behind two hyphens: a name, with a value behind an equals sign. -/
def long (g : Grammar σ) (s : Scan σ) (text : List Char) : Except UsageFault (Scan σ) :=
  let name := String.ofList (text.takeWhile (· != '='))
  let attached :=
    match text.dropWhile (· != '=') with
    | [] => none
    | _ :: value => some (String.ofList value)
  match g.options.find? (fun o => o.long == name) with
  | none => .error (s.reject (.unknownArgument ("--" ++ name)))
  | some o =>
    match attached with
    | some value =>
      if o.action.takesValue then s.act o attached
      else .error (s.reject (.unneededValue o.display value))
    | none => s.act o none

/-- Short options behind one hyphen. The first that takes a value takes the rest, if there is
any, without a leading equals sign. -/
def shorts (g : Grammar σ) (s : Scan σ) : List Char → Except UsageFault (Scan σ)
  | [] => .ok s
  | c :: rest =>
    match g.options.find? (fun o => o.short == some c) with
    | none => .error (s.reject (.unknownArgument (String.ofList ['-', c])))
    | some o =>
      if o.action.takesValue then
        match rest with
        | [] => s.act o none
        | '=' :: value => s.act o (some (String.ofList value))
        | value => s.act o (some (String.ofList value))
      else
        match s.act o none with
        | .error fault => .error fault
        | .ok s => g.shorts s rest

def plain (g : Grammar σ) (trailing : Bool) (s : Scan σ) (text : String) :
    Except UsageFault (Scan σ) :=
  match g.positionals[s.filled]? with
  | some p => do
    let s ← s.resolve
    pure { s with
      pending := some ⟨p.display, p.read, some text⟩
      awaiting := false
      filled := s.filled + 1 }
  | none =>
    let isName := g.subcommands.contains text || (!g.subcommands.isEmpty && text == "help")
    if trailing && isName then .error (s.reject (.unknownArgument text))
    else if g.subcommands.isEmpty then .error (s.reject (.unknownArgument text))
    else .error (s.reject (.unknownSubcommand text))

/-- What `help` answers for the names behind it: help on a subcommand, or a name it lacks. -/
def helpFor (g : Grammar σ) : List String → UsageFault
  | [] => .help
  | name :: rest =>
    if g.subcommands.contains name || name == "help" then
      match rest with
      | [] => .help
      | unknown :: _ => .unknownSubcommand unknown
    else .unknownSubcommand name

/-- Reads an argument list up to a subcommand, which is answered with what follows it. Behind
`--` all arguments are plain. -/
def scan (g : Grammar σ) (trailing : Bool) (s : Scan σ) :
    List String → Except UsageFault (Scan σ × Option (String × List String))
  | [] => .ok (s, none)
  | argument :: rest =>
    if trailing then
      (g.plain true s argument).bind (fun s => g.scan true s rest)
    else if !s.awaiting && g.subcommands.contains argument then .ok (s, some (argument, rest))
    else if !s.awaiting && !g.subcommands.isEmpty && argument == "help" then
      .error (g.helpFor rest)
    else
      match argument.toList with
      | ['-', '-'] => g.scan true s rest
      | '-' :: '-' :: text => (g.long s text).bind (fun s => g.scan false s rest)
      | '-' :: c :: text => (g.shorts s (c :: text)).bind (fun s => g.scan false s rest)
      | _ =>
        match s.awaiting, s.pending with
        | true, some p =>
          g.scan false
            { s with pending := some { p with value := some argument }, awaiting := false }
            rest
        | _, _ => (g.plain false s argument).bind (fun s => g.scan false s rest)

/-- The result of a finished scan: the last value is taken and no positional argument missing. -/
def finish (g : Grammar σ) (s : Scan σ) : Except UsageFault σ := do
  let s ← s.resolve
  match (g.positionals.drop s.filled).map Positional.display with
  | [] => pure s.result
  | missing => throw (.missing missing)

def read (g : Grammar σ) (start : σ) (arguments : List String) : Except UsageFault σ :=
  (g.scan false (.start start) arguments).bind (fun scanned => g.finish scanned.1)

end Grammar

end BurstProfiler.CommandLine
