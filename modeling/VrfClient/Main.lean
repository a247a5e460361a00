import VrfClient.CommandLine.Execute
import VrfClient.Node.Basic

/-!
The program. It reads the command line, the variables and the key file, draws random bytes, and carries
out the plan. There is no connection to a node here: every request to one fails as a request to a node
that cannot be reached. -/

namespace VrfClient.Main

open CommandLine

/-- Lines go to the user; the rest is not kept. -/
def tellUser : Note → IO Unit
  | .out line => IO.println line
  | .err line => IO.eprintln line
  | _ => return ()

/-- Carry out a plan over a node that cannot be reached. -/
def perform {α : Type} : Node.Action Float α → IO (Except Error α)
  | .done r => return r
  | .ask _ k => perform (k (.error (.node ⟨.connect, "the node cannot be reached"⟩)))
  | .tell n p => do
    tellUser n
    perform p
  | .now k => do
    let t ← IO.monoMsNow
    perform (k (Float.ofNat t / 1000))
  | .sleep d p => do
    IO.sleep (d * 1000).toUInt32
    perform p

/-- The variables that matter to the program. -/
def knownVariables : IO (String → Option String) := do
  let pairs ← [Env.networkVariable, Env.nodeVariable, Env.programVariable].filterMapM fun n => do
    return (← IO.getEnv n).map fun v => (n, v)
  return fun n => pairs.lookup n

/-- The homes that the program knows: that of the user who runs it. -/
def homeOf (home : Option String) (user : String) : Option String :=
  if user.isEmpty then home else none

/-- Why a file could not be read. -/
def faultOf : IO.Error → FileFault
  | .inappropriateType .. => .folder
  | _ => .missing

/-- The key file that a command line names. -/
def keyFile (home : Option String) (vars : String → Option String) (argv : List String) :
    IO (String → Except FileFault String) := do
  match read vars argv with
  | .ok (_, .request (some path) ..) =>
    let path := expandHome (homeOf home) path
    let contents ← (IO.FS.readFile path).toBaseIO
    return fun p => if p == path then contents.mapError faultOf else .error .missing
  | _ => return fun _ => .error .missing

end VrfClient.Main

open VrfClient in
def main (argv : List String) : IO UInt32 := do
  let vars ← Main.knownVariables
  let home ← IO.getEnv "HOME"
  let file ← Main.keyFile home vars argv
  let entropy := (← IO.getRandomBytes 32).data.toList
  let plan := CommandLine.invoke ⟨vars, file, Main.homeOf home, entropy⟩ argv
  match ← Main.perform (Node.through Node.defaultCommitment plan) with
  | .ok (.code n) => return UInt32.ofNat n
  | .ok (.usage n) => return UInt32.ofNat n
  | .error e =>
    IO.eprintln e.message
    return 1
