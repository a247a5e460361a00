import VrfClient.CommandLine.Execute
import VrfClient.Ledger.Simulated
import VrfClient.Proofs.Sequence
import VrfClient.Proofs.Spelling

/-!
Variables in place of options. Where a command line says nothing about cluster, node and program, the
program goes by variables, and so does `Env.ofVariables`. The two read the same, with one exception: on
the command line an empty program variable is as good as none (`env_eq_ofVariables`), and
`Env.ofVariables` takes it for the text of a program, which it is not. So they agree exactly where no empty
program variable comes with a known cluster (`ofVariables_withoutEmptyProgram_iff`). -/

namespace VrfClient

namespace Env

variable {variableOf : String → Option String} {fault : Fault} {n : Network} {env : Env}

/-! ### The environment of variables -/

/-- The name of the cluster that the variables ask for. -/
def askedNetwork (variableOf : String → Option String) : String :=
  (variableOf networkVariable).getD Network.devnet.name

/-- The variables without a program variable that is empty. -/
def withoutEmptyProgram (variableOf : String → Option String) (name : String) : Option String :=
  if name = programVariable then (variableOf name).filter (· ≠ "") else variableOf name

/-- The variables have an empty program, and a cluster that is known. -/
structure EmptyProgram (variableOf : String → Option String) : Prop where
  program : variableOf programVariable = some ""
  network : ∃ n, readNetwork (askedNetwork variableOf) = .ok n

theorem ofVariables_eq (variableOf : String → Option String) : ofVariables variableOf =
    readNetwork (askedNetwork variableOf) >>= fun n =>
      forNetwork n ((variableOf programVariable).getD defaultProgram) >>= fun env =>
        .ok (env.withNode (variableOf nodeVariable)) := rfl

theorem ofVariables_of_unknown (h : readNetwork (askedNetwork variableOf) = .error fault) :
    ofVariables variableOf = .error fault := by
  rw [ofVariables_eq, h, error_bind]

theorem askedNetwork_withoutEmptyProgram (variableOf : String → Option String) :
    askedNetwork (withoutEmptyProgram variableOf) = askedNetwork variableOf := rfl

theorem readProgram_empty : readProgram "" = .error (.badProgram "") := by decide +kernel

/-- An environment is built for every known cluster if no program is named. -/
theorem exists_forNetwork_defaultProgram (n : Network) : ∃ env, forNetwork n defaultProgram = .ok env := by
  have hread : (readProgram defaultProgram).toOption.isSome = true := by decide +kernel
  cases hprogram : readProgram defaultProgram with
  | ok program => exact ⟨_, by rw [forNetwork, hprogram]; rfl⟩
  | error fault =>
    rw [hprogram] at hread
    cases hread

theorem rpcUrl_of_forNetwork {program : String} (h : forNetwork n program = .ok env) : env.rpcUrl = n.rpcUrl := by
  obtain ⟨address, -, hbuilt⟩ := bind_eq_ok.1 h
  obtain rfl := Except.ok.inj hbuilt
  rfl

/-- An empty program is the text of none. -/
theorem EmptyProgram.ofVariables_eq_error (h : EmptyProgram variableOf) :
    ofVariables variableOf = .error (.badProgram "") := by
  obtain ⟨n, hn⟩ := h.network
  rw [ofVariables_eq, hn, ok_bind, h.program, Option.getD_some, forNetwork, readProgram_empty]
  rfl

/-- Without it an environment is built. -/
theorem EmptyProgram.exists_ofVariables_eq_ok (h : EmptyProgram variableOf) :
    ∃ env, ofVariables (withoutEmptyProgram variableOf) = .ok env := by
  obtain ⟨n, hn⟩ := h.network
  obtain ⟨env, henv⟩ := exists_forNetwork_defaultProgram n
  have hprogram : withoutEmptyProgram variableOf programVariable = none := by
    rw [withoutEmptyProgram, if_pos rfl, h.program]
    rfl
  rw [ofVariables_eq, askedNetwork_withoutEmptyProgram, hn, ok_bind, hprogram, Option.getD_none, henv]
  exact ⟨_, rfl⟩

theorem withoutEmptyProgram_of_ne (h : variableOf programVariable ≠ some "") :
    withoutEmptyProgram variableOf = variableOf := by
  funext name
  unfold withoutEmptyProgram
  split
  · rename_i hname
    subst hname
    cases hprogram : variableOf programVariable with
    | none => rfl
    | some text =>
      have htext : text ≠ "" := fun hempty => h (by rw [hprogram, hempty])
      simp [htext]
  · rfl

/-- Leaving out an empty program changes the environment exactly where the cluster is known. -/
theorem ofVariables_withoutEmptyProgram_iff :
    ofVariables (withoutEmptyProgram variableOf) = ofVariables variableOf ↔ ¬ EmptyProgram variableOf := by
  constructor
  · intro hsame hempty
    obtain ⟨env, henv⟩ := hempty.exists_ofVariables_eq_ok
    rw [henv, hempty.ofVariables_eq_error] at hsame
    cases hsame
  · intro hnot
    by_cases hprogram : variableOf programVariable = some ""
    · -- the cluster is read first, so if it is unknown, nothing depends on the program
      cases hnetwork : readNetwork (askedNetwork variableOf) with
      | ok n => exact absurd ⟨hprogram, n, hnetwork⟩ hnot
      | error fault =>
        rw [ofVariables_of_unknown hnetwork]
        exact ofVariables_of_unknown hnetwork
    · rw [withoutEmptyProgram_of_ne hprogram]

end Env

namespace CommandLine

open Env

variable {variableOf : String → Option String} {argv : List String} {settings : Settings} {command : Command}

/-! ### Settings without options -/

/-- The command line can be parsed, and does not say which cluster, node or program to use. -/
def SaysNothing (argv : List String) : Prop :=
  ∃ p, mainGrammar.parse argv = .ok p ∧ p.given networkKey = .absent ∧ p.given nodeKey = .absent ∧
    p.given programKey = .absent

/-- Options in front of a command that do not say it leave it unsaid. -/
theorem Line.Spoken.saysNothing {l : Line} {p : Parsed} (h : l.Spoken p) (hnetwork : p.given networkKey = .absent)
    (hnode : p.given nodeKey = .absent) (hprogram : p.given programKey = .absent) : SaysNothing l.argv :=
  ⟨_, parse_main h.options l.order.name_mem (l.order.words_mainGrammar h.order h.text), hnetwork, hnode, hprogram⟩

theorem exists_settings_of_read (h : read variableOf argv = .ok (settings, command)) :
    ∃ p, mainGrammar.parse argv = .ok p ∧ settings = settingsOf variableOf p := by
  obtain ⟨p, hparse, h⟩ := bind_eq_ok.1 h
  obtain ⟨⟨found, leftOver⟩, -, h⟩ := bind_eq_ok.1 h
  obtain ⟨-, -, h⟩ := bind_eq_ok.1 h
  obtain ⟨hsettings, -⟩ := Prod.mk.inj (Except.ok.inj h)
  exact ⟨p, hparse, hsettings.symm⟩

/-- Then the settings are those of the variables. -/
theorem SaysNothing.settings_eq (h : SaysNothing argv) (hread : read variableOf argv = .ok (settings, command)) :
    settings = { unsaid variableOf with debug := settings.debug } := by
  obtain ⟨p, hparse, hnetwork, hnode, hprogram⟩ := h
  obtain ⟨q, hparse', rfl⟩ := exists_settings_of_read hread
  obtain rfl := Except.ok.inj (hparse.symm.trans hparse')
  simp only [settingsOf, unsaid, hnetwork, hnode, hprogram, orElse]

/-- What settings make of the program variable: an empty one counts as none. -/
theorem getD_withoutEmptyProgram (variableOf : String → Option String) :
    ((withoutEmptyProgram variableOf) programVariable).getD defaultProgram =
      match variableOf programVariable with
        | some text => if text.isEmpty then defaultProgram else text
        | none => defaultProgram := by
  rw [withoutEmptyProgram, if_pos rfl]
  cases variableOf programVariable with
  | none => rfl
  | some text =>
    by_cases htext : text = ""
    · simp [htext, Option.filter]
    · simp [htext, Option.filter]

/-- The environment of such settings is that of the variables without an empty program. -/
theorem env_eq_ofVariables (variableOf : String → Option String) (debug : Bool) :
    Settings.env { unsaid variableOf with debug } = ofVariables (withoutEmptyProgram variableOf) := by
  rw [ofVariables_eq, getD_withoutEmptyProgram]
  rfl

theorem SaysNothing.env_eq (h : SaysNothing argv) (hread : read variableOf argv = .ok (settings, command)) :
    settings.env = ofVariables (withoutEmptyProgram variableOf) := by
  rw [h.settings_eq hread, env_eq_ofVariables]

end CommandLine

/-! ### The environment of a run -/

/-- The environment that a note is about. -/
def Note.environment? : Note → Option Env
  | .connected env => some env
  | _ => none

/-- The environment that a run goes on with. -/
def Run.environment? {S : Service} {τ σ α : Type} (r : Run S τ σ α) : Option Env :=
  r.notes.findSome? Note.environment?

namespace CommandLine

open Env Plan

variable {τ σ : Type} {host : Host} {argv : List String} {settings : Settings} {command : Command}

/-- The run goes on with the environment, or fails at once with the fault for which there is none. -/
inductive GoesOnWith (r : Run Ledger.service τ σ Exit) : Except Fault Env → Prop
  | environment {env : Env} : r.environment? = some env → GoesOnWith r (.ok env)
  | fault {fault : Fault} : r.environment? = none → r.calls = [] →
      r.result = .error (.environment fault) → GoesOnWith r (.error fault)

/-- A command line that is read is carried out in the environment of its settings. -/
theorem goesOnWith_env [Clock τ] (hread : read host.variableOf argv = .ok (settings, command))
    (m : Model Ledger.service τ σ) (t : τ) (s : σ) :
    GoesOnWith ((invoke host argv).run m t s) settings.env := by
  have hinvoke : invoke (τ := τ) host argv = .tell (.verbosity (if settings.debug then .debug else .info))
      ((command.performUnder host settings).handle conclude) := by
    rw [invoke, hread]
    rfl
  rw [hinvoke, run_tell]
  cases henv : settings.env with
  | ok env =>
    rw [Command.performUnder, henv]
    exact .environment rfl
  | error fault =>
    rw [Command.performUnder, henv]
    exact .fault rfl rfl rfl

/-- A program that is told nothing about cluster, node and program goes on with the environment that the
variables describe if an empty program variable is left out, or fails with the fault that they have then.
That is what they describe by themselves, unless the program variable is empty and the cluster is known:
then there is an environment, and by themselves the variables describe none. -/
theorem environment_of_unsaid [Clock τ] (hread : read host.variableOf argv = .ok (settings, command))
    (hunsaid : SaysNothing argv) (m : Model Ledger.service τ σ) (t : τ) (s : σ) :
    GoesOnWith ((invoke host argv).run m t s) settings.env ∧
    settings.env = ofVariables (withoutEmptyProgram host.variableOf) ∧
    (settings.env = ofVariables host.variableOf ↔ ¬ EmptyProgram host.variableOf) ∧
    (EmptyProgram host.variableOf →
      (∃ env, settings.env = .ok env) ∧ ofVariables host.variableOf = .error (.badProgram "")) := by
  have henv := hunsaid.env_eq hread
  refine ⟨goesOnWith_env hread m t s, henv, ?_, fun hempty => ⟨?_, hempty.ofVariables_eq_error⟩⟩
  · rw [henv]
    exact ofVariables_withoutEmptyProgram_iff
  · rw [henv]
    exact hempty.exists_ofVariables_eq_ok

end CommandLine

/-! ### An instance -/

namespace Sample

open CommandLine

/-- A question for the randomness of the zero seed, without options. -/
def bareLine : Line := ⟨[], .get, Address.text (Octets.zero 32)⟩

theorem spoken_bareLine : bareLine.Spoken ⟨[], none, []⟩ where
  options := ⟨⟨[], rfl, Grammar.consume_nil _ _⟩, rfl, rfl⟩
  order := trivial
  text := show (Address.text (Octets.zero 32)).toList.head? ≠ some '-' by decide +kernel

theorem saysNothing_bareLine : SaysNothing bareLine.argv :=
  spoken_bareLine.saysNothing rfl rfl rfl

/-- Whatever the variables are, it is read. -/
theorem read_bareLine (variableOf : String → Option String) :
    CommandLine.read variableOf bareLine.argv = .ok (unsaid variableOf, .get (Octets.zero 32)) :=
  spoken_bareLine.read_eq variableOf (Address.ofText_eq_ok_iff.2 rfl)

/-- Variables that name a cluster, with an empty node and no program. -/
def mainnetHost : Host where
  variableOf name := [(Env.networkVariable, Network.mainnet.name), (Env.nodeVariable, "")].lookup name
  file _ := .error .missing
  homeOf _ := none
  entropy := []

/-- An empty program is all that the variables name. -/
def emptyProgramHost : Host :=
  { mainnetHost with variableOf := fun name => [(Env.programVariable, "")].lookup name }

theorem emptyProgram : Env.EmptyProgram emptyProgramHost.variableOf where
  program := by decide +kernel
  network := ⟨.devnet, by decide +kernel⟩

theorem exists_ofVariables_mainnetHost :
    ∃ env, Env.ofVariables mainnetHost.variableOf = .ok env ∧ env.rpcUrl = Network.mainnet.rpcUrl := by
  have hnetwork : Env.readNetwork (Env.askedNetwork mainnetHost.variableOf) = .ok .mainnet := by decide +kernel
  have hprogram : mainnetHost.variableOf Env.programVariable = none := by decide +kernel
  have hnode : mainnetHost.variableOf Env.nodeVariable = some "" := by decide +kernel
  obtain ⟨env, henv⟩ := Env.exists_forNetwork_defaultProgram .mainnet
  refine ⟨env, ?_, Env.rpcUrl_of_forNetwork henv⟩
  rw [Env.ofVariables_eq, hnetwork, ok_bind, hprogram, Option.getD_none, henv, hnode]
  rfl

end Sample

namespace CommandLine

open Env Plan Ledger

/-- The bare line goes on with the main cluster if that is what the variables name, and with its own node,
since the variable for that is empty. -/
theorem environment_of_unsaid_sample : SaysNothing Sample.bareLine.argv ∧
    ∃ env, ofVariables Sample.mainnetHost.variableOf = .ok env ∧ env.rpcUrl = Network.mainnet.rpcUrl ∧
      ((invoke Sample.mainnetHost Sample.bareLine.argv).run Simulated.model (0 : Rat) .empty).environment? =
        some env := by
  obtain ⟨env, henv, hnode⟩ := Sample.exists_ofVariables_mainnetHost
  obtain ⟨hgoes, -, hsame, -⟩ := environment_of_unsaid (Sample.read_bareLine Sample.mainnetHost.variableOf)
    Sample.saysNothing_bareLine Simulated.model (0 : Rat) .empty
  have hnot : ¬ EmptyProgram Sample.mainnetHost.variableOf := fun h => absurd h.program (by decide +kernel)
  rw [hsame.2 hnot, henv] at hgoes
  cases hgoes with
  | environment hrun => exact ⟨Sample.saysNothing_bareLine, env, henv, hnode, hrun⟩

/-- With an empty program variable and nothing else, the bare line has an environment, and the variables by
themselves have none. -/
theorem empty_program_read_two_ways :
    CommandLine.read Sample.emptyProgramHost.variableOf Sample.bareLine.argv =
      .ok (unsaid Sample.emptyProgramHost.variableOf, .get (Octets.zero 32)) ∧
    SaysNothing Sample.bareLine.argv ∧
    (∃ env, (unsaid Sample.emptyProgramHost.variableOf).env = .ok env) ∧
    ofVariables Sample.emptyProgramHost.variableOf = .error (.badProgram "") := by
  have henv := Sample.saysNothing_bareLine.env_eq (Sample.read_bareLine Sample.emptyProgramHost.variableOf)
  refine ⟨Sample.read_bareLine _, Sample.saysNothing_bareLine, ?_, Sample.emptyProgram.ofVariables_eq_error⟩
  rw [henv]
  exact Sample.emptyProgram.exists_ofVariables_eq_ok

end CommandLine

end VrfClient
