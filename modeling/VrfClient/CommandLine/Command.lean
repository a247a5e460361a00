import VrfClient.CommandLine.Grammar
import VrfClient.Environment
import VrfClient.Number.Reader

/-!
The command line of this program: options that say which cluster, node and program to use, and one of
three commands. Options that are absent fall back to variables; a cluster that comes from a variable is
not checked here, and an empty node or program stands for the standard one. An option that is there
without a value does not fall back. -/

namespace VrfClient.CommandLine

/-- What the options before the command and the variables amount to. -/
structure Settings where
  network : Option String
  node : Option String
  program : Option String
  debug : Bool
deriving DecidableEq

/-- What is to be done. -/
inductive Command where
  | request (keypair : Option String) (seed : Given Seed) (wait : Bool) (timeout : Given Decimal)
  | get (seed : Seed)
  | verify (seed : Seed)
deriving DecidableEq

/-- The option of help, which every grammar has. -/
def helpFlag : Flag := ⟨["-h", "--help"], false, false, true, fun _ => none⟩

/-- An option without a value. -/
def switchFlag (names : List String) : Flag := ⟨names, false, false, false, fun _ => none⟩

/-- The complaint about a text that is no seed. -/
def badSeed (t : String) : String := s!"invalid base58 seed: {Text.quoted t}"

/-- What is wrong with a seed. -/
def seedComplaint (t : String) : Option String :=
  match Address.ofText t with
  | .ok _ => none
  | .error _ => some (badSeed t)

/-- The complaint about a text that is no number of seconds. -/
def badSeconds (t : String) : String := s!"invalid float value: {Text.quoted t}"

/-- What is wrong with a number of seconds. -/
def secondsComplaint (t : String) : Option String :=
  match Number.read? t with
  | some _ => none
  | none => some (badSeconds t)

def commands : List String := ["request", "get", "verify"]

/-- The name under which the program complains. -/
def programName : String := "cli.py"

def networkKey : String := "--network"
def nodeKey : String := "--rpc-url"
def programKey : String := "--program-id"
def debugKey : String := "--debug"
def keypairKey : String := "--keypair"
def seedKey : String := "--seed"
def waitKey : String := "--wait"
def timeoutKey : String := "--timeout"

/-- Options and command. -/
def mainGrammar : Grammar where
  program := programName
  flags := [
    helpFlag,
    ⟨[networkKey, "-n"], true, false, false, invalidChoice (Network.all.map Network.name)⟩,
    ⟨[nodeKey], true, false, false, fun _ => none⟩,
    ⟨[programKey], true, false, false, fun _ => none⟩,
    switchFlag [debugKey]]
  positional := .command "command" commands

/-- The words after a command that takes options only. -/
def requestFlags : List Flag := [
  helpFlag,
  ⟨[keypairKey, "-k"], true, true, false, fun _ => none⟩,
  ⟨[seedKey, "-s"], true, false, false, seedComplaint⟩,
  switchFlag [waitKey],
  ⟨[timeoutKey], true, false, false, secondsComplaint⟩]

/-- The words after a command that takes a seed only. -/
def seedGrammar (command : String) : Grammar where
  program := s!"{programName} {command}"
  flags := [helpFlag]
  positional := .value "seed" seedComplaint

/-- The words after a request. -/
def requestGrammar : Grammar where
  program := s!"{programName} request"
  flags := requestFlags
  positional := .nothing

/-- Words that nothing takes are a usage error, those before the command first. -/
def refuseLeftOver (words : List String) : Except Stop Unit :=
  match words with
  | [] => .ok ()
  | _ =>
    let listed := " ".intercalate words
    mainGrammar.stop s!"unrecognized arguments: {listed}"

/-- The seed that a text is. -/
def readSeed (g : Grammar) (argument t : String) : Except Stop Seed :=
  match Address.ofText t with
  | .ok seed => .ok seed
  | .error _ => g.blame argument (badSeed t)

/-- The number of seconds that a text is. -/
def readSeconds (g : Grammar) (argument t : String) : Except Stop Decimal :=
  match Number.read? t with
  | some seconds => .ok seconds
  | none => g.blame argument (badSeconds t)

/-- The command with its words. -/
def readCommand (name : String) (words : List String) : Except Stop (Command × List String) :=
  if name = "request" then do
    let p ← requestGrammar.parse words
    let seed ← (p.given seedKey).traverse (readSeed requestGrammar seedKey)
    let timeout ← (p.given timeoutKey).traverse (readSeconds requestGrammar timeoutKey)
    return (.request (p.given keypairKey).value? seed (p.has waitKey) timeout, p.leftOver)
  else do
    let g := seedGrammar name
    let p ← g.parse words
    let seed ← readSeed g "seed" ((p.positional.getD []).headD "")
    return (if name = "get" then .get seed else .verify seed, p.leftOver)

/-- What an option amounts to if a fallback stands for it when it is absent. -/
def orElse (given : Given String) (fallback : Option String) : Option String :=
  match given with
  | .absent => fallback
  | .blank => none
  | .value v => some v

/-- The settings and the command of a command line, with variables in place of absent options. -/
def read (variableOf : String → Option String) (argv : List String) :
    Except Stop (Settings × Command) := do
  let p ← mainGrammar.parse argv
  let words := p.positional.getD []
  let (command, leftOver) ← readCommand (words.headD "") (words.drop 1)
  refuseLeftOver (p.leftOver ++ leftOver)
  let network := (variableOf Env.networkVariable).getD Network.devnet.name
  return (⟨orElse (p.given networkKey) (some network),
    orElse (p.given nodeKey) (variableOf Env.nodeVariable),
    orElse (p.given programKey) (variableOf Env.programVariable), p.has debugKey⟩, command)

/-- The environment of settings. There must be a network; without a program, or with an empty one, it is
the standard one, and without a node, or with an empty one, that of the cluster. -/
def Settings.env (s : Settings) : Except Env.Fault Env := do
  let name ← match s.network with
    | some name => pure name
    | none => throw .noNetwork
  let network ← Env.readNetwork name
  let program := match s.program with
    | some t => if t.isEmpty then Env.defaultProgram else t
    | none => Env.defaultProgram
  return (← Env.forNetwork network program).withNode s.node

end VrfClient.CommandLine
