import VrfClient.Text.Quoted

/-!
Command lines in general: options with one value or none, and at most one positional argument, which is
a single value, or a command with everything after it. Long options may be shortened as long as
that is unambiguous, and take a value after an equals sign; a short option takes its value without a
gap. A double dash attached to an option leaves it without a value. After a bare double dash everything
is positional. The words are classified first, then consumed from the left; the first complaint wins.
What no option and no positional takes is left over. -/

namespace VrfClient.CommandLine

/-- An option. -/
structure Flag where
  /-- Its names in the order in which they are shown. -/
  names : List String
  takesValue : Bool
  required : Bool
  /-- Whether the option asks for help. -/
  help : Bool
  /-- What is wrong with a value, if anything. -/
  complaint : String → Option String

/-- The positional argument. -/
inductive Positional where
  /-- There is none. -/
  | nothing
  /-- One value, and what may be wrong with it. -/
  | value (name : String) (complaint : String → Option String)
  /-- A command, one of several, and all words after it. -/
  | command (name : String) (choices : List String)

/-- What a command line may hold. -/
structure Grammar where
  program : String
  flags : List Flag
  positional : Positional

/-- Why a command line is not carried out. -/
inductive Stop where
  | usage (program message : String)
  | help
deriving DecidableEq

/-- A classified word. -/
inductive Token where
  | word
  | dashes
  | flag (f : Flag) (name : String) (attached : Option String)
  | unknown

/-- What is said about an option. -/
inductive Given (α : Type) where
  | absent
  /-- The option is there, but has no value. -/
  | blank
  | value (a : α)
deriving DecidableEq

/-- What a command line turned out to hold. -/
structure Parsed where
  /-- The options given, the latest first, with their values if they have one. -/
  options : List (String × Option String)
  /-- The positional words, if there were any. -/
  positional : Option (List String)
  leftOver : List String

namespace Given

/-- The value read further, if there is one. -/
def traverse {ε α β : Type} (f : α → Except ε β) : Given α → Except ε (Given β)
  | .absent => .ok .absent
  | .blank => .ok .blank
  | .value a => do return .value (← f a)

/-- The value, if there is one. -/
def value? {α : Type} : Given α → Option α
  | .value a => some a
  | _ => none

end Given

namespace Parsed

/-- What is said about the option of this key. -/
def given (p : Parsed) (key : String) : Given String :=
  match p.options.lookup key with
  | none => .absent
  | some none => .blank
  | some (some v) => .value v

/-- Whether the option of this key is there. -/
def has (p : Parsed) (key : String) : Bool := (p.options.lookup key).isSome

end Parsed

namespace Flag

/-- The name by which complaints call an option: all its names. -/
def shown (f : Flag) : String := "/".intercalate f.names

/-- The first name, by which the option is known. -/
def key (f : Flag) : String := f.names.headD ""

end Flag

namespace Positional

/-- The name of an argument that has to be there. -/
def name? : Positional → Option String
  | .nothing => none
  | .value n _ => some n
  | .command n _ => some n

end Positional

/-- The complaint about a value that is none of the choices. -/
def invalidChoice (choices : List String) (v : String) : Option String :=
  if choices.contains v then none
  else
    let known := ", ".intercalate (choices.map Text.quoted)
    some s!"invalid choice: {Text.quoted v} (choose from {known})"

namespace Grammar

/-- A usage error. -/
def stop {α : Type} (g : Grammar) (message : String) : Except Stop α :=
  .error (.usage g.program message)

/-- A usage error about one argument. -/
def blame {α : Type} (g : Grammar) (argument message : String) : Except Stop α :=
  g.stop s!"argument {argument}: {message}"

/-- Every name with its option. -/
def named (g : Grammar) : List (String × Flag) :=
  g.flags.flatMap fun f => f.names.map fun n => (n, f)

/-- The option of an exact name. -/
def flag? (g : Grammar) (name : String) : Option Flag := g.named.lookup name

/-- A word cut at its first equals sign. -/
def cutEquals (word : String) : String × Option String :=
  let cs := word.toList
  match cs.dropWhile (· ≠ '=') with
  | [] => (word, none)
  | _ :: rest => (String.ofList (cs.takeWhile (· ≠ '=')), some (String.ofList rest))

/-- The readings of a word as a shortened long option, or as a short option with its value. -/
def candidates (g : Grammar) (word : String) : List (String × Flag × Option String) :=
  match word.toList with
  | '-' :: '-' :: _ =>
    let (start, attached) := cutEquals word
    (g.named.filter fun n => start.toList.isPrefixOf n.1.toList).map fun n => (n.1, n.2, attached)
  | '-' :: c :: rest =>
    g.named.filterMap fun n =>
      if n.1 == String.ofList ['-', c] then some (n.1, n.2, some (String.ofList rest))
      else if word.toList.isPrefixOf n.1.toList then some (n.1, n.2, none)
      else none
  | _ => []

/-- Whether a word is a negative number, which is never an option. -/
def isNegativeNumber (word : String) : Bool :=
  match word.toList with
  | '-' :: cs =>
    let cs := if cs.getLast? = some '\n' then cs.dropLast else cs
    let digit := fun c => (Text.decimalDigit? c).isSome
    let rest := cs.dropWhile digit
    match rest with
    | [] => !cs.isEmpty
    | '.' :: part => !part.isEmpty && part.all digit
    | _ => false
  | _ => false

/-- What a word is, before any bare double dash. -/
def classify (g : Grammar) (word : String) : Except Stop Token :=
  match word.toList with
  | '-' :: _ :: _ =>
    match g.flag? word with
    | some f => .ok (.flag f word none)
    | none =>
      let (start, attached) := cutEquals word
      match (if attached.isSome then g.flag? start else none) with
      | some f => .ok (.flag f start attached)
      | none =>
        match g.candidates word with
        | [(name, f, attached)] => .ok (.flag f name attached)
        | [] =>
          if isNegativeNumber word || word.contains ' ' then .ok .word else .ok .unknown
        | several =>
          let names := ", ".intercalate (several.map Prod.fst)
          g.stop s!"ambiguous option: {word} could match {names}"
  | _ => .ok .word

/-- Every word with its class. -/
def classifyAll (g : Grammar) : List String → Except Stop (List (String × Token))
  | [] => .ok []
  | "--" :: rest => .ok (("--", .dashes) :: rest.map fun w => (w, .word))
  | word :: rest => do return (word, ← g.classify word) :: (← g.classifyAll rest)

/-- The complaint about a text attached to an option that takes none. -/
def ignored {α : Type} (g : Grammar) (f : Flag) (attached : List Char) : Except Stop α :=
  g.blame f.shown s!"ignored explicit argument {Text.quoted (String.ofList attached)}"

/-- The options without a value that a word of short options starts with, then the last one and what
is attached to it. -/
def unchain (g : Grammar) (f : Flag) (name : String) :
    List Char → Except Stop (List Flag × Flag × Option String)
  | [] => if f.takesValue then .ok ([], f, some "") else g.ignored f []
  | c :: cs =>
    if f.takesValue then .ok ([], f, some (String.ofList (c :: cs)))
    else if name.toList.take 2 = ['-', '-'] then g.ignored f (c :: cs)
    else
      let next := String.ofList ['-', c]
      match g.flag? next with
      | none => g.ignored f (c :: cs)
      | some f' =>
        match cs with
        | [] => .ok ([f], f', none)
        | _ => do
          let (before, last, attached) ← g.unchain f' next cs
          return (f :: before, last, attached)

/-- Record an option without a value. -/
def switch (f : Flag) (p : Parsed) : Except Stop Parsed :=
  if f.help then .error .help else .ok { p with options := (f.key, none) :: p.options }

/-- Record an option with its value; a double dash is no value. -/
def assign (g : Grammar) (f : Flag) (v : String) (p : Parsed) : Except Stop Parsed :=
  if v = "--" then .ok { p with options := (f.key, none) :: p.options }
  else match f.complaint v with
    | some c => g.blame f.shown c
    | none => .ok { p with options := (f.key, some v) :: p.options }

/-- Record the positional words. -/
def place (g : Grammar) (words : List String) (p : Parsed) : Except Stop Parsed :=
  let complaint := match g.positional, words with
    | .value name complaint, v :: _ => (complaint v).map (name, ·)
    | .command name choices, v :: _ => (invalidChoice choices v).map (name, ·)
    | _, _ => none
  match complaint with
  | some (name, c) => g.blame name c
  | none => .ok { p with positional := some words }

/-- Record one word that nothing takes. -/
def leave (word : String) (p : Parsed) : Parsed := { p with leftOver := p.leftOver ++ [word] }

/-- Take an option, with what stands behind its word if its value is there; also gives the number of
words taken beyond its own. -/
def takeFlag (g : Grammar) (f : Flag) (name : String) (attached : Option String)
    (rest : List (String × Token)) (p : Parsed) : Except Stop (Nat × Parsed) := do
  let (before, last, attached) ← match attached with
    | some text => g.unchain f name text.toList
    | none => .ok ([], f, none)
  let switches := before.foldlM (fun p f => switch f p) p
  match attached, last.takesValue, rest with
  | some v, _, _ => return (0, ← g.assign last v (← switches))
  | none, true, (v, .word) :: _ => return (1, ← g.assign last v (← switches))
  | none, true, _ => g.blame last.shown "expected one argument"
  | none, false, _ => return (0, ← switch last (← switches))

/-- Take a word that is no option. A value may stand between double dashes, which are dropped; a command
takes everything from its first word on, and a double dash before it counts as the command. -/
def takePositional (g : Grammar) (word : String) (isDashes : Bool) (rest : List (String × Token))
    (p : Parsed) : Except Stop (Nat × Parsed) :=
  match p.positional, g.positional, isDashes, rest with
  | none, .command .., false, _ => do
    return (rest.length, ← g.place (word :: rest.map Prod.fst) p)
  | none, .command .., true, _ :: _ => do
    return (rest.length, ← g.place (word :: rest.map Prod.fst) p)
  | none, .value .., false, (_, .dashes) :: _ => do return (1, ← g.place [word] p)
  | none, .value .., false, _ => do return (0, ← g.place [word] p)
  | none, .value .., true, (v, _) :: _ => do return (1, ← g.place [v] p)
  | _, _, _, _ => .ok (0, leave word p)

/-- Take one word and what belongs to it; gives the number of further words taken. -/
def take (g : Grammar) (word : String) (token : Token) (rest : List (String × Token)) (p : Parsed) :
    Except Stop (Nat × Parsed) :=
  match token with
  | .unknown => .ok (0, leave word p)
  | .flag f name attached => g.takeFlag f name attached rest p
  | .dashes => g.takePositional word true rest p
  | .word => g.takePositional word false rest p

/-- Consume classified words from the left. -/
def consume (g : Grammar) (words : List (String × Token)) (p : Parsed) : Except Stop Parsed :=
  match words with
  | [] => .ok p
  | (word, token) :: rest => do
    let (taken, p) ← g.take word token rest p
    g.consume (rest.drop taken) p
termination_by words.length
decreasing_by simp only [List.length_drop, List.length_cons]; omega

/-- The names of required arguments that were not given. -/
def missing (g : Grammar) (p : Parsed) : List String :=
  (g.flags.filter fun f => f.required && !p.has f.key).map Flag.shown ++
    (if p.positional.isNone then g.positional.name?.toList else [])

/-- What a command line holds; words that nothing takes are kept, not refused. -/
def parse (g : Grammar) (words : List String) : Except Stop Parsed := do
  let p ← g.consume (← g.classifyAll words) ⟨[], none, []⟩
  match g.missing p with
  | [] => return p
  | names =>
    let listed := ", ".intercalate names
    g.stop s!"the following arguments are required: {listed}"

end Grammar

end VrfClient.CommandLine
