/-
  PathAuthz.CommandLine.Arguments — the words of a command line, sorted.

  The words are sorted by the `clap` library. What is defined here is what it documents of
  options with and without a value, of operands, and of `--`.

  (1) An option is known by a long name, `--name`, and perhaps by a letter, `-x`. One that
  takes a value has it in the next word, or in the same word: behind `=`, or directly behind
  the letter. A word that starts with `-` is no value, unless it is `-` alone. No option may
  be given twice. Words that are no options are operands, and so is everything behind `--`;
  there is room for one operand.

  (2) `scan` sorts the words until they end, or until the first operand if operands are to be
  left for someone else. It halts at what is wrong, and at a request for help or the version.
-/

namespace PathAuthz.CommandLine

/-! ## (1) Options -/

/-- What an option asks for. -/
inductive OptionKind where
  | switch
  /-- A value that passes a test. -/
  | value (test : String → Bool)
  | help
  | version

structure OptionSpec where
  name : String
  letter : Option Char
  kind : OptionKind

/-- Why nothing is run. -/
inductive Halt where
  | usage
  | help
  | version
  deriving DecidableEq, Repr

/-- What was found among the words. -/
structure Found where
  switches : List String
  values : List (String × String)
  operand : Option String
  deriving DecidableEq, Repr

namespace Found

def empty : Found := ⟨[], [], none⟩

def value? (f : Found) (name : String) : Option String := f.values.lookup name

def has (f : Found) (name : String) : Bool := f.switches.contains name

def addSwitch (f : Found) (name : String) : Except Halt Found :=
  if f.has name then .error .usage else .ok { f with switches := name :: f.switches }

def addValue (f : Found) (name : String) (test : String → Bool) (v : String) : Except Halt Found :=
  if (f.value? name).isSome || !test v then .error .usage else .ok { f with values := (name, v) :: f.values }

def addOperand (f : Found) (v : String) : Except Halt Found :=
  if f.operand.isSome then .error .usage else .ok { f with operand := some v }

end Found

/-! ## (2) Scanning -/

/-- Whether a word may be the value of the option before it. -/
def isValueWord (word : String) : Bool := word == "-" || word.toList.head? != some '-'

/-- The name of a long option and the value in the same word. -/
def cutLong (cs : List Char) : String × Option String :=
  match cs.dropWhile (· ≠ '=') with
  | [] => (String.ofList cs, none)
  | _ :: v => (String.ofList (cs.takeWhile (· ≠ '=')), some (String.ofList v))

/-- What follows a letter in the same word: the value, if there is one. -/
def attached (cs : List Char) : Option String :=
  match cs with
  | [] => none
  | '=' :: v => some (String.ofList v)
  | v => some (String.ofList v)

/-- What an option word comes to. -/
inductive Taken where
  | done (f : Found)
  /-- The next word is the value of this option. -/
  | wants (name : String) (test : String → Bool)
  | halted (h : Halt)

def Taken.of : Except Halt Found → Taken
  | .ok f => .done f
  | .error h => .halted h

/-- Take a long option. -/
def takeLong (specs : List OptionSpec) (f : Found) (cs : List Char) : Taken :=
  let (name, given) := cutLong cs
  match specs.find? (·.name == name), given with
  | none, _ => .halted .usage
  | some ⟨_, _, .value test⟩, some v => .of (f.addValue name test v)
  | some ⟨_, _, .value test⟩, none => .wants name test
  | some _, some _ => .halted .usage
  | some ⟨_, _, .switch⟩, none => .of (f.addSwitch name)
  | some ⟨_, _, .help⟩, none => .halted .help
  | some ⟨_, _, .version⟩, none => .halted .version

/-- Take options by their letters. -/
def takeLetters (specs : List OptionSpec) (f : Found) : List Char → Taken
  | [] => .done f
  | c :: rest =>
    match specs.find? (·.letter == some c) with
    | none => .halted .usage
    | some ⟨name, _, .value test⟩ =>
      match attached rest with
      | some v => .of (f.addValue name test v)
      | none => .wants name test
    | some ⟨_, _, .help⟩ => .halted .help
    | some ⟨_, _, .version⟩ => .halted .version
    | some ⟨name, _, .switch⟩ =>
      match f.addSwitch name with
      | .ok f => takeLetters specs f rest
      | .error h => .halted h

/-- Take a word that starts with `-` and is neither `-` nor `--`. -/
def takeOption (specs : List OptionSpec) (f : Found) : List Char → Taken
  | '-' :: '-' :: cs => takeLong specs f cs
  | '-' :: cs => takeLetters specs f cs
  | _ => .halted .usage

/-- Sort the words. With `stops` the first operand and all behind it are left over, and `--`
    has nothing to offer. -/
def scan (specs : List OptionSpec) (stops : Bool) (f : Found) : List String → Except Halt (Found × List String)
  | [] => .ok (f, [])
  | word :: rest =>
    if word = "--" then
      if stops then .error .usage else (rest.foldlM Found.addOperand f).map (·, [])
    else if isValueWord word then
      if stops then .ok (f, word :: rest)
      else
        match f.addOperand word with
        | .error h => .error h
        | .ok f => scan specs stops f rest
    else
      match takeOption specs f word.toList with
      | .halted h => .error h
      | .done f => scan specs stops f rest
      | .wants name test =>
        match rest with
        | [] => .error .usage
        | v :: rest =>
          if !isValueWord v then .error .usage
          else
            match f.addValue name test v with
            | .error h => .error h
            | .ok f => scan specs stops f rest

end PathAuthz.CommandLine
