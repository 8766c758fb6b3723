import Fiscal.Named

set_option autoImplicit false

namespace Fiscal.Command

inductive Action where
  | run (file : String)
  | check (file : String) (json : Bool)
  | tokens (file : String)
  | tree (file : String)
  | dialogue
  deriving DecidableEq, Repr

structure Invocation where
  config : Option String
  action : Action
  deriving DecidableEq, Repr

inductive Usage where
  | help
  | mistake
  deriving DecidableEq, Repr

def Usage.exitCode : Usage → Nat
  | help => 0
  | mistake => 2

inductive Meaning where
  | help
  | verbose
  | config
  | json
  deriving DecidableEq, Repr

structure Flag where
  meaning : Meaning
  letter : Option Char
  name : String
  takesValue : Bool
  deriving DecidableEq, Repr

def helpFlag : Flag := ⟨.help, some 'h', "--help", false⟩

def topFlags : List Flag :=
  [helpFlag, ⟨.verbose, some 'v', "--verbose", false⟩, ⟨.config, none, "--config", true⟩]

def checkFlags : List Flag := [helpFlag, ⟨.json, none, "--json", false⟩]

-- How an argument is taken: as a plain word, as flags of one letter written together, as a
-- named flag with what is attached to it, or as an option that nothing is known of.
inductive Form where
  | word
  | letters (letters : List Char)
  | named (flag : Flag) (attached : Option String)
  | unknown
  deriving DecidableEq, Repr

def isNegativeNumber (argument : List Char) : Bool :=
  let whole := (argument.drop 1).takeWhile Char.isDigit
  match (argument.drop 1).dropWhile Char.isDigit with
  | [] => !whole.isEmpty
  | '.' :: places => !places.isEmpty && places.all Char.isDigit
  | _ => false

def splitAttached (argument : List Char) : String × Option String :=
  let name := argument.takeWhile (· != '=')
  match argument.dropWhile (· != '=') with
  | _ :: value => (String.ofList name, some (String.ofList value))
  | [] => (String.ofList name, none)

def unnamedForm (argument : List Char) : Form :=
  if isNegativeNumber argument || argument.contains ' ' then .word else .unknown

def longForm (flags : List Flag) (argument : List Char) : Form :=
  let (name, attached) := splitAttached argument
  match flags.find? fun flag => flag.name == name with
  | some flag => .named flag attached
  | none =>
      match flags.filter fun flag => name.toList.isPrefixOf flag.name.toList with
      | [flag] => .named flag attached
      | _ => unnamedForm argument

def form (flags : List Flag) (argument : String) : Form :=
  match argument.toList with
  | '-' :: '-' :: rest => longForm flags ('-' :: '-' :: rest)
  | '-' :: letter :: rest =>
      if flags.any fun flag => flag.letter == some letter then .letters (letter :: rest)
      else unnamedForm ('-' :: letter :: rest)
  | _ => .word

def letterMeanings (flags : List Flag) : List Char → Except Usage (List Meaning × Bool)
  | [] => .ok ([], false)
  | letter :: rest =>
      if letter = '-' || letter = '=' then .error .mistake
      else
        match flags.find? fun flag => flag.letter == some letter with
        | none => .ok ([], true)
        | some flag => do
            let (meanings, surplus) ← letterMeanings flags rest
            return (flag.meaning :: meanings, surplus)

def takeLetters (flags : List Flag) (letters : List Char) : Except Usage Bool := do
  let (meanings, surplus) ← letterMeanings flags letters
  if meanings.contains .help then throw .help else return surplus

structure Given where
  words : List String
  json : Bool
  surplus : Bool
  deriving DecidableEq, Repr

def takeFlag (flag : Flag) (attached : Option String) (given : Given) : Except Usage Given :=
  match attached, flag.meaning with
  | some _, _ => .error .mistake
  | none, .help => .error .help
  | none, .json => .ok { given with json := true }
  | none, _ => .ok given

def readGiven (flags : List Flag) (given : Given) : List String → Except Usage Given
  | [] => .ok given
  | "--" :: rest => .ok { given with words := given.words ++ rest }
  | argument :: rest =>
      match form flags argument with
      | .word => readGiven flags { given with words := given.words ++ [argument] } rest
      | .unknown => readGiven flags { given with surplus := true } rest
      | .letters letters => do
          let surplus ← takeLetters flags letters
          readGiven flags { given with surplus := given.surplus || surplus } rest
      | .named flag attached => do
          let given ← takeFlag flag attached given
          readGiven flags given rest

def fileAction (flags : List Flag) (arguments : List String) (action : String → Bool → Action) :
    Except Usage Action := do
  let given ← readGiven flags ⟨[], false, false⟩ arguments
  match given.words, given.surplus with
  | [file], false => return action file given.json
  | _, _ => throw .mistake

def dialogueAction (arguments : List String) : Except Usage Action := do
  let given ← readGiven [helpFlag] ⟨[], false, false⟩ arguments
  if given.words.isEmpty && !given.surplus && !arguments.contains "--" then return .dialogue
  else throw .mistake

def subcommand (name : String) (arguments : List String) : Except Usage Action :=
  match name with
  | "run" => fileAction [helpFlag] arguments fun file _ => .run file
  | "check" => fileAction checkFlags arguments .check
  | "tokens" => fileAction [helpFlag] arguments fun file _ => .tokens file
  | "ast" => fileAction [helpFlag] arguments fun file _ => .tree file
  | "repl" => dialogueAction arguments
  | _ => .error .mistake

def invoke (config : Option String) (surplus : Bool) : List String → Except Usage Invocation
  | [] => .error .mistake
  | name :: arguments => do
      let action ← subcommand name arguments
      if surplus then throw .mistake else return ⟨config, action⟩

def readTop (config : Option String) (surplus : Bool) : List String → Except Usage Invocation
  | [] => .error .mistake
  | "--" :: _ => .error .mistake
  | argument :: rest =>
      match form topFlags argument with
      | .word => invoke config surplus (argument :: rest)
      | .unknown => readTop config true rest
      | .letters letters => do
          let more ← takeLetters topFlags letters
          readTop config (surplus || more) rest
      | .named flag attached =>
          match flag.meaning, attached, rest with
          | .config, some value, rest => readTop (some value) surplus rest
          | .config, none, "--" :: value :: rest => invoke (some value) surplus rest
          | .config, none, value :: rest =>
              if form topFlags value = .word then readTop (some value) surplus rest
              else .error .mistake
          | .config, none, [] => .error .mistake
          | .help, none, _ => .error .help
          | _, none, rest => readTop config surplus rest
          | _, some _, _ => .error .mistake

def Invocation.ofArguments (arguments : List String) : Except Usage Invocation :=
  readTop none false arguments

end Fiscal.Command
