import ExprGateway.Command.Shown
import ExprGateway.Number.Digits

/-!
# The command line

What the program is asked to do, and why it may not understand.

Options may stand anywhere before the command.  An option with a value takes it from the same word or
from the next one.  A value in a word of its own is looked at only when the next option that is known is
met, or at the end, behind the words of the command; so of two mistakes the first one need not be the
one that is reported.
-/

namespace ExprGateway.Command

/-- What the program does when it is not asked for a text only. -/
inductive Verb where
  | run
  | check
deriving DecidableEq, Repr

/-- The options of the program. -/
inductive CommandOption where
  | config
  | port
  | printConfig
  | verbose
  | help
  | version
deriving DecidableEq, Repr

namespace CommandOption

def all : List CommandOption := [config, port, printConfig, verbose, help, version]

/-- The name behind two hyphens. -/
def long : CommandOption → String
  | config => "config"
  | port => "port"
  | printConfig => "print-config"
  | verbose => "verbose"
  | help => "help"
  | version => "version"

/-- The letter behind one hyphen. -/
def short? : CommandOption → Option Char
  | config => some 'c'
  | port => some 'p'
  | printConfig => none
  | verbose => some 'v'
  | help => some 'h'
  | version => some 'V'

def takesValue : CommandOption → Bool
  | config | port => true
  | _ => false

/-- An option as messages show it. -/
def shown : CommandOption → String
  | config => "--config <CONFIG>"
  | port => "--port <PORT>"
  | verbose => "--verbose..."
  | o => "--" ++ o.long

def ofLong? (name : String) : Option CommandOption := all.find? (·.long == name)

def ofShort? (c : Char) : Option CommandOption := all.find? (·.short? == some c)

end CommandOption

/-- What help is about. -/
inductive Topic where
  | program
  | verb (v : Verb)
  | help
deriving DecidableEq, Repr

/-- Why a command line is not understood. -/
inductive UsageFault where
  | unknownArgument (word : String)
  | unknownCommand (word : String)
  | noValue (option : CommandOption)
  | badValue (option : CommandOption) (value reason : String)
  | repeated (option : CommandOption)
  | surplusValue (option : CommandOption) (value : String)
deriving DecidableEq, Repr

/-- The text of a fault. -/
def UsageFault.message : UsageFault → String
  | unknownArgument word => s!"unexpected argument '{shown word}' found"
  | unknownCommand word => s!"unrecognized subcommand '{shown word}'"
  | noValue option => s!"a value is required for '{option.shown}' but none was supplied"
  | badValue option value reason =>
    s!"invalid value '{shown value}' for '{option.shown}': {reason}"
  | repeated option => s!"the argument '{option.shown}' cannot be used multiple times"
  | surplusValue option value =>
    s!"unexpected value '{shown value}' for '{option.shown}' found; no more were expected"

/-- Why there is nothing to do. -/
inductive Stop where
  | help (topic : Topic)
  | version
  | fault (fault : UsageFault)
deriving DecidableEq, Repr

/-- What the program is to do. -/
structure Invocation where
  config : Option String := none
  port : Option Nat := none
  printConfig : Bool := false
  /-- How many flags ask for more to be logged. -/
  verbosity : Nat := 0
  verb : Option Verb := none
deriving DecidableEq, Repr

/-! ## Values -/

/-- The bound of the numbers that are read before their range is looked at. -/
def numberBound : Nat := 1 <<< 63

/-- Why a text is no whole number. -/
inductive NumberFault where
  | empty
  | noDigit
  | tooLarge
  | tooSmall
deriving DecidableEq, Repr

/-- The text of a fault. -/
def NumberFault.message : NumberFault → String
  | empty => "cannot parse integer from empty string"
  | noDigit => "invalid digit found in string"
  | tooLarge => "number too large to fit in target type"
  | tooSmall => "number too small to fit in target type"

/-- Reads digits from left to right, behind those that make a number `n`; the number may not be more than
`most`.  What comes first decides: a character that is no digit, or the digit that is too much. -/
def readDigits (most : Nat) (excess : NumberFault) (n : Nat) : List Char → Except NumberFault Nat
  | [] => .ok n
  | c :: rest =>
    match Digits.value? 10 c with
    | none => .error .noDigit
    | some d =>
      if most < 10 * n + d then .error excess else readDigits most excess (10 * n + d) rest

/-- A whole number, or why it is none. -/
def readNumber (s : String) : Except NumberFault Int :=
  match s.toList with
  | [] => .error .empty
  | ['-'] | ['+'] => .error .noDigit
  | '-' :: digits => (readDigits numberBound .tooSmall 0 digits).map fun n => -(n : Int)
  | '+' :: digits => (readDigits (numberBound - 1) .tooLarge 0 digits).map Int.ofNat
  | digits => (readDigits (numberBound - 1) .tooLarge 0 digits).map Int.ofNat

/-- A port. -/
def readPort (s : String) : Except String Nat := do
  let n ← (readNumber s).mapError NumberFault.message
  if 0 ≤ n ∧ n ≤ 65535 then return n.toNat else throw s!"{n} is not in 0..=65535"

/-! ## Words -/

/-- What was read of a command line. -/
structure State where
  invocation : Invocation := {}
  /-- An option whose value was not looked at yet; it may still be to come. -/
  pending : Option (CommandOption × Option String) := none

namespace State

/-- Whether the next word may be a value. -/
def awaits (s : State) : Bool :=
  match s.pending with
  | some (_, none) => true
  | _ => false

/-- Sets an option with a value. -/
def setValue (s : State) (o : CommandOption) (value : String) : Except Stop State :=
  let i := s.invocation
  match o with
  | .config =>
    if i.config.isSome then .error (.fault (.repeated o))
    else if value.isEmpty then .error (.fault (.noValue o))
    else .ok { s with invocation := { i with config := some value } }
  | .port =>
    if i.port.isSome then .error (.fault (.repeated o))
    else match readPort value with
      | .ok port => .ok { s with invocation := { i with port := some port } }
      | .error reason => .error (.fault (.badValue o value reason))
  | _ => .ok s

/-- Sets an option without a value. -/
def setFlag (s : State) (o : CommandOption) : Except Stop State :=
  let i := s.invocation
  match o with
  | .help => .error (.help .program)
  | .version => .error .version
  | .printConfig =>
    if i.printConfig then .error (.fault (.repeated o))
    else .ok { s with invocation := { i with printConfig := true } }
  | .verbose => .ok { s with invocation := { i with verbosity := min 255 (i.verbosity + 1) } }
  | _ => .ok s

/-- Looks at the value that is pending. -/
def settle (s : State) : Except Stop State :=
  let rest := { s with pending := none }
  match s.pending with
  | none => .ok rest
  | some (o, none) => .error (.fault (.noValue o))
  | some (o, some value) => rest.setValue o value

/-- Takes an option with what stands in the same word as its value. -/
def option (s : State) (o : CommandOption) (attached : Option String) : Except Stop State :=
  match attached, o.takesValue with
  | some value, true => do (← s.settle).setValue o value
  | none, true => do return { ← s.settle with pending := some (o, none) }
  | some value, false => .error (.fault (.surplusValue o value))
  | none, false => do (← s.settle).setFlag o

/-- Takes a word behind two hyphens. -/
def longOption (s : State) (body : List Char) : Except Stop State :=
  let (name, rest) := body.span (· != '=')
  let attached := if rest.isEmpty then none else some (String.ofList (rest.drop 1))
  match CommandOption.ofLong? (String.ofList name) with
  | some o => s.option o attached
  | none => .error (.fault (.unknownArgument ("--" ++ String.ofList name)))

/-- Takes letters behind one hyphen; a letter with a value takes all the rest. -/
def shortOptions (s : State) : List Char → Except Stop State
  | [] => .ok s
  | c :: rest =>
    match CommandOption.ofShort? c with
    | none => .error (.fault (.unknownArgument ("-" ++ c.toString)))
    | some o =>
      if o.takesValue ∧ !rest.isEmpty then
        let value := if rest.head? = some '=' then rest.drop 1 else rest
        s.option o (some (String.ofList value))
      else do shortOptions (← s.option o none) rest

end State

/-! ## Commands -/

/-- The verb of a word. -/
def verbOf? : String → Option Verb
  | "run" => some .run
  | "check" => some .check
  | _ => none

/-- Reads the words behind a verb, which takes no options but one. -/
def readVerbWords (v : Verb) : List String → Except Stop Unit
  | [] => .ok ()
  | word :: rest =>
    match word.toList with
    | ['-', '-'] =>
      match rest with
      | [] => .ok ()
      | surplus :: _ => .error (.fault (.unknownArgument surplus))
    | '-' :: '-' :: body =>
      let (name, tail) := body.span (· != '=')
      if String.ofList name ≠ CommandOption.help.long then
        .error (.fault (.unknownArgument ("--" ++ String.ofList name)))
      else if tail.isEmpty then .error (.help (.verb v))
      else .error (.fault (.surplusValue .help (String.ofList (tail.drop 1))))
    | '-' :: c :: _ =>
      if CommandOption.help.short? = some c then .error (.help (.verb v))
      else .error (.fault (.unknownArgument ("-" ++ c.toString)))
    | _ => .error (.fault (.unknownArgument word))

/-- The topic that the words behind `help` name. -/
def helpTopic : Topic → List String → Stop
  | topic, [] => .help topic
  | .program, word :: rest =>
    match verbOf? word with
    | some v => helpTopic (.verb v) rest
    | none => if word = "help" then helpTopic .help rest else .fault (.unknownCommand word)
  | _, word :: _ => .fault (.unknownCommand word)

/-- Reads the words of a command line. -/
def readWords (s : State) : List String → Except Stop Invocation
  | [] => do return (← s.settle).invocation
  | word :: rest =>
    let verb := if s.awaits then none else verbOf? word
    match verb with
    | some v => do
      readVerbWords v rest
      return { (← s.settle).invocation with verb := some v }
    | none =>
      if !s.awaits ∧ word = "help" then .error (helpTopic .program rest)
      else match word.toList with
        | ['-', '-'] =>
          match rest with
          | [] => do return (← s.settle).invocation
          | surplus :: _ =>
            if (verbOf? surplus).isSome ∨ surplus = "help" then
              .error (.fault (.unknownArgument surplus))
            else .error (.fault (.unknownCommand surplus))
        | '-' :: '-' :: body => do readWords (← s.longOption body) rest
        | '-' :: c :: body => do readWords (← s.shortOptions (c :: body)) rest
        | _ =>
          match s.pending with
          | some (o, none) => readWords { s with pending := some (o, some word) } rest
          | _ => .error (.fault (.unknownCommand word))

/-- What a command line asks for. -/
def Invocation.read (words : List String) : Except Stop Invocation := readWords {} words

end ExprGateway.Command
