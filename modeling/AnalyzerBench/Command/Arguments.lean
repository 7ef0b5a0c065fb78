/-!
# Command line arguments

Options may stand anywhere among the operands.  An option with a value takes the next argument or, after an equals
sign, the rest of its own; the next argument must not look like an option.  Two hyphens alone end the options.  Names
are not abbreviated, and letters of flags may be joined.  The first wrong argument, or the first request for help or
for the version, decides what happens.
-/

namespace AnalyzerBench.Command

/-- What a command line may hold besides the flags that every tool has. -/
structure Rules where
  /-- The long names of flags. -/
  flags : List String := []
  /-- The long names of options with a value. -/
  valued : List String := []
  /-- Whether arguments that look like negative numbers are operands and values. -/
  negativeNumbers : Bool := false
  deriving DecidableEq, Repr

/-- One item of a command line. -/
inductive Argument where
  | flag (name : String)
  | option (name value : String)
  | operand (text : String)
  | help
  | version
  deriving DecidableEq, Repr

/-- Digits with at most one point, not in front, and then at most one exponent of digits alone. -/
def isNumeral (cs : List Char) : Bool :=
  let afterWhole := cs.dropWhile Char.isDigit
  let afterFraction := match afterWhole with
    | '.' :: rest => rest.dropWhile Char.isDigit
    | rest => rest
  let startsWithDigit := cs.head?.any Char.isDigit
  match afterFraction with
  | [] => startsWithDigit
  | e :: digits => startsWithDigit && (e == 'e' || e == 'E') && !digits.isEmpty && digits.all Char.isDigit

namespace Rules

/-- Whether an argument cannot be a value of the option before it. -/
def looksLikeOption (r : Rules) (argument : String) : Bool :=
  match argument.toList with
  | '-' :: c :: cs => c == '-' || !(r.negativeNumbers && isNumeral (c :: cs))
  | _ => false

/-- A flag by its long name. -/
def longFlag? (r : Rules) (name : String) : Option Argument :=
  if name = "help" then some .help
  else if name = "version" then some .version
  else if name = "verbose" || r.flags.contains name then some (.flag name)
  else none

/-- A flag by its letter. -/
def letter? : Char → Option Argument
  | 'h' => some .help
  | 'V' => some .version
  | 'v' => some (.flag "verbose")
  | _ => none

/-- The arguments as items; `none` stands for a wrong one, after which nothing is read. -/
def read (r : Rules) : List String → List (Option Argument)
  | [] => []
  | argument :: rest =>
    if argument = "--" then rest.map fun text => some (.operand text)
    else if !r.looksLikeOption argument then some (.operand argument) :: r.read rest
    else match argument.toList with
      | '-' :: '-' :: long =>
        let name := String.ofList (long.takeWhile (· != '='))
        match long.dropWhile (· != '=') with
        | _ :: value =>
          if r.valued.contains name then some (.option name (String.ofList value)) :: r.read rest else [none]
        | [] =>
          if r.valued.contains name then
            match rest with
            | value :: rest =>
              if r.looksLikeOption value then [none] else some (.option name value) :: r.read rest
            | [] => [none]
          else match r.longFlag? name with
            | some item => some item :: r.read rest
            | none => [none]
      | letters => (letters.drop 1).map letter? ++ r.read rest

end Rules

/-- What a command line asks for. -/
inductive Asked (α : Type) where
  | usageFault
  | help
  | version
  | request (a : α)
  deriving Repr

/-- Takes the items into account one by one; an item that `step` refuses, or an incomplete command line, is wrong. -/
def ask {σ α : Type} (step : σ → Argument → Option σ) (finish : σ → Option α) : σ → List (Option Argument) → Asked α
  | s, [] =>
    match finish s with
    | some a => .request a
    | none => .usageFault
  | _, none :: _ => .usageFault
  | _, some .help :: _ => .help
  | _, some .version :: _ => .version
  | s, some item :: items =>
    match step s item with
    | some s => ask step finish s items
    | none => .usageFault

/-- A flag that may be set once. -/
def setOnce (old : Bool) : Option Bool := if old then none else some true

/-- A value that may be given once. -/
def giveOnce {α : Type} (old : Option α) (new : α) : Option (Option α) :=
  if old.isSome then none else some (some new)

end AnalyzerBench.Command
