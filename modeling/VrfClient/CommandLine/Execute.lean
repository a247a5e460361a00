import VrfClient.CommandLine.Command
import VrfClient.Client

/-!
Carrying out a command. A usage error ends with code two before anything is asked. An error of the
client becomes one line on the error channel and code one; any other error ends the program as it is. -/

namespace VrfClient.CommandLine

open Ledger (Action)

/-- What the program finds around it: variables, files, the homes of users, and random bytes. The user
who runs the program has the empty name. -/
structure Host where
  variableOf : String → Option String
  file : String → Except FileFault String
  homeOf : String → Option String
  entropy : Bytes

/-- How the program ends. -/
inductive Exit where
  | code (n : Nat)
  | usage (n : Nat)
deriving DecidableEq

variable {τ : Type} [Clock τ]

/-- A line for the user. -/
def print (line : String) : Action τ Unit := Plan.note (.out line)

/-- A path whose first part is a tilde, perhaps with a user's name behind it, with the home of that user
in its place. -/
def expandHome (homeOf : String → Option String) (path : String) : String :=
  match path.toList with
  | '~' :: rest =>
    match homeOf (String.ofList (rest.takeWhile (· ≠ '/'))) with
    | none => path
    | some home =>
      let home := (home.toList.reverse.dropWhile (· = '/')).reverse
      let expanded := home ++ rest.dropWhile (· ≠ '/')
      if expanded.isEmpty then "/" else String.ofList expanded
  | _ => path

/-- The signer in a key file. -/
def loadSigner (host : Host) (path : String) : Action τ Signer := do
  let path := expandHome host.homeOf path
  let text ← Plan.lift ((host.file path).mapError (.file path))
  let pair ← Plan.lift ((Keypair.ofFile text).mapError .keypair)
  return pair.signer

/-- Three lines about the randomness of a seed. -/
def printRandomness (seed : String) (r : Randomness) : Action τ Unit := do
  print s!"  Seed:       {seed}"
  print s!"  Status:     {r.status.name}"
  let shown := match r.randomness with
    | some bs => if bs.isEmpty then "-" else bs.hex
    | none => "-"
  print s!"  Randomness: {shown}"

/-- The seed of a request, with its text: the one given, or random bytes. A seed without a value has no
bytes. -/
def chooseSeed (host : Host) : Given Seed → Action τ (SeedForm × String)
  | .value seed => return (.address seed, Address.text seed)
  | .blank => return (.bytes [], "[]")
  | .absent => do
    let seed : Seed ← Client.exactly 32 (host.entropy.take 32)
    return (.address seed, Address.text seed)

/-- The timeout of a request. -/
def chooseTimeout : Given Decimal → Action τ τ
  | .value seconds => return Clock.ofDecimal seconds
  | .blank => Plan.fail .noValue
  | .absent => return Clock.ofDecimal Client.defaultTimeout

/-- Wait for the randomness of a seed, and show it. -/
def awaitRandomness (env : Env) (form : SeedForm) (text : String) (timeout : Given Decimal) :
    Action τ Unit := do
  print "Waiting for fulfillment..."
  let timeout ← chooseTimeout timeout
  let interval := Clock.ofDecimal Client.defaultInterval
  printRandomness text (← Client.waitFor env form timeout interval)

/-- Request a seed, and wait for its randomness if that is wanted. -/
def requestAndWait (env : Env) (signer : Signer) (form : SeedForm) (text : String) (wait : Bool)
    (timeout : Given Decimal) : Action τ Unit := do
  match ← Client.request env signer form with
  | none => print "Randomness already requested for this seed"
  | some signature => print s!"Request tx: {signature}"
  if wait then awaitRandomness env form text timeout

/-- Carry out a command in an environment. -/
def Command.perform (host : Host) (env : Env) : Command → Action τ Unit
  | .request keypair seed wait timeout => do
    let path ← Plan.require .noValue keypair
    let signer ← loadSigner host path
    let (form, text) ← chooseSeed host seed
    print s!"Seed: {text}"
    requestAndWait env signer form text wait timeout
  | .get seed => do
    printRandomness (Address.text seed) (← Client.get env (.address seed))
  | .verify seed => do
    let r ← Client.get env (.address seed)
    Client.verify env (.address seed) r
    print s!"Randomness for {Address.text seed} verified"

/-- Carry out a command under settings. -/
def Command.performUnder (host : Host) (settings : Settings) (command : Command) :
    Action τ Unit := do
  let env ← Plan.lift (settings.env.mapError .environment)
  Plan.note (.connected env)
  command.perform host env

/-- The exit code of an outcome; an error of the client is told first. -/
def conclude : Except Error Unit → Action τ Exit
  | .ok () => return .code 0
  | .error e =>
    match e.kind? with
    | none => Plan.fail e
    | some kind => do
      Plan.log .debug .commandLine "Command failed"
      Plan.note (.err s!"Error ({kind.name}): {e.message}")
      return .code 1

/-- The whole program: read the command line, then carry out its command. -/
def invoke (host : Host) (argv : List String) : Action τ Exit :=
  match read host.variableOf argv with
  | .error .help => return .usage 0
  | .error (.usage program message) => do
    Plan.note (.err s!"{program}: error: {message}")
    return .usage 2
  | .ok (settings, command) => do
    Plan.note (.verbosity (if settings.debug then .debug else .info))
    (command.performUnder host settings).handle conclude

end VrfClient.CommandLine
