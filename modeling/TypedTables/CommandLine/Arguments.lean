import TypedTables.Text.Split

/-!
# Arguments of a command line

Cutting arguments into options, flags and words. An option has its value attached, behind an equals
sign or right behind its letter, or in the argument that follows, which then must not look like an
option. Flags of one letter may share an argument. After two hyphens nothing is an option.
-/

namespace TypedTables.CommandLine

/-- An option or a flag that a command knows. -/
structure Switch where
  name : String
  letter : Option Char
  takesValue : Bool
deriving DecidableEq, Repr

/-- A part of a command line. -/
inductive Token where
  /-- An option with its value, and whether that stands in an argument of its own. -/
  | option (name value : String) (detached : Bool)
  /-- A flag, given by its name or by its letter. -/
  | flag (name : String) (byLetter : Bool)
  /-- A word, and the arguments behind it. -/
  | word (text : String) (rest : List String)
  /-- A word behind two hyphens. -/
  | operand (text : String)
  /-- An argument that the command does not know, or that lacks its value. -/
  | invalid
deriving DecidableEq, Repr

def looksLikeOption (arg : String) : Bool :=
  match arg.toList with
  | '-' :: _ :: _ => true
  | _ => false

/-- The switches in an argument behind its single hyphen, and the option that still needs a value,
if the last of them is one. -/
def letterTokens (switches : List Switch) : List Char → List Token × Option String
  | [] => ([], none)
  | c :: rest =>
    match switches.find? fun s => s.letter == some c with
    | none => ([.invalid], none)
    | some s =>
      if s.takesValue then
        match rest with
        | [] => ([], some s.name)
        | '=' :: value => ([.option s.name (String.ofList value) false], none)
        | value => ([.option s.name (String.ofList value) false], none)
      else
        let (tokens, pending) := letterTokens switches rest
        (.flag s.name true :: tokens, pending)

/-- The switch in an argument behind its two hyphens, or the option that still needs a value. -/
def nameTokens (switches : List Switch) (cs : List Char) : List Token × Option String :=
  let name := String.ofList (cs.takeWhile fun c => c != '=')
  let value := cs.dropWhile fun c => c != '='
  match switches.find? fun s => s.name == name with
  | none => ([.invalid], none)
  | some s =>
    match s.takesValue, value with
    | true, [] => ([], some name)
    | true, _ :: value => ([.option name (String.ofList value) false], none)
    | false, [] => ([.flag name false], none)
    | false, _ => ([.invalid], none)

def tokenize (switches : List Switch) : List String → List Token
  | [] => []
  | arg :: rest =>
    if arg = "--" then rest.map Token.operand
    else if looksLikeOption arg then
      let (tokens, pending) := match arg.toList with
        | '-' :: '-' :: cs => nameTokens switches cs
        | cs => letterTokens switches (cs.drop 1)
      match pending with
      | none => tokens ++ tokenize switches rest
      | some name =>
        match rest with
        | [] => tokens ++ [.invalid]
        | value :: rest =>
          if looksLikeOption value then tokens ++ [.invalid]
          else tokens ++ .option name value true :: tokenize switches rest
    else .word arg rest :: tokenize switches rest

/-- Why a command is not carried out. -/
inductive Refusal where
  /-- A command was asked for its help page, in full or for a summary of it. -/
  | help (command : String) (summary : Bool)
  | version
  | misuse
deriving DecidableEq, Repr

/-- What a command was given. -/
structure Given where
  options : List (String × String)
  flags : List String
  words : List String
deriving DecidableEq, Repr

/-- What a command accepts: which values for an option, and which word at a position. -/
structure Acceptance where
  command : String
  value : String → String → Bool
  word : Nat → String → Bool

/-- What tokens give, from left to right. No option or flag may be given twice. -/
def collect (accepts : Acceptance) (given : Given) : List Token → Except Refusal Given
  | [] => .ok given
  | .invalid :: _ => .error .misuse
  | .option name value _ :: rest =>
    if (given.options.lookup name).isSome || !accepts.value name value then .error .misuse
    else collect accepts { given with options := given.options ++ [(name, value)] } rest
  | .flag name byLetter :: rest =>
    if name = "help" then .error (.help accepts.command byLetter)
    else if name = "version" then .error .version
    else if given.flags.contains name then .error .misuse
    else collect accepts { given with flags := given.flags ++ [name] } rest
  | .word text _ :: rest | .operand text :: rest =>
    if accepts.word given.words.length text then
      collect accepts { given with words := given.words ++ [text] } rest
    else .error .misuse

/-- The tokens before the first word, the word, and the arguments behind it. -/
def cutAtWord : List Token → List Token × Option (String × List String)
  | [] => ([], none)
  | .word text rest :: _ => ([], some (text, rest))
  | t :: rest =>
    let (before, word) := cutAtWord rest
    (t :: before, word)

/-- The tokens without an option at the end whose value stands in an argument of its own, and that
option. In front of a command word such an option is still open, and is looked at only when the
command has been read. -/
def cutOpenOption : List Token → List Token × List Token
  | [] => ([], [])
  | [.option name value true] => ([], [.option name value true])
  | t :: rest =>
    let (closed, left) := cutOpenOption rest
    (t :: closed, left)

/-- What a command leaves behind: its exit status, and what it says on both channels. -/
structure Outcome where
  status : Nat
  output : String
  errors : String
deriving DecidableEq, Repr

end TypedTables.CommandLine
