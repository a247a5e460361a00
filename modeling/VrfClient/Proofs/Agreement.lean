import VrfClient.Proofs.Announcement
import VrfClient.Proofs.Telling

/-!
The program and the library agree. A command is the operations of the library on its seed, with lines for the
user in between (`Order.mute_perform`): muted, the two are the same plan. What comes behind them, `conclude`, only
translates the outcome: code zero for a value, code one and one complaint for an error of the client, and any
other error as it is (`agrees_of_mute`). So on whatever ledger a command line is carried out, it asks what the
library asks, and its exit code says how the library ended (`invoke_agrees`). -/

namespace VrfClient

/-! ### Lines of a run -/

/-- The line for the user that a note is. -/
def Note.line? : Note → Option String
  | .out line => some line
  | _ => none

/-- The line about a failure that a note is. -/
def Note.complaint? : Note → Option String
  | .err line => some line
  | _ => none

namespace Run

variable {S : Service} {τ σ α : Type}

/-- The lines for the user, in order. -/
def printed (r : Run S τ σ α) : List String := r.notes.filterMap Note.line?

/-- The lines about failures, in order. -/
def complaints (r : Run S τ σ α) : List String := r.notes.filterMap Note.complaint?

variable (first : Run S τ σ α) {β : Type} (r : Run S τ σ β)

theorem calls_behind : (r.behind first.events).calls = first.calls ++ r.calls := List.filterMap_append

theorem notes_behind : (r.behind first.events).notes = first.notes ++ r.notes := List.filterMap_append

theorem printed_behind : (r.behind first.events).printed = first.printed ++ r.printed := by
  rw [printed, notes_behind, List.filterMap_append]
  rfl

theorem complaints_behind : (r.behind first.events).complaints = first.complaints ++ r.complaints := by
  rw [complaints, notes_behind, List.filterMap_append]
  rfl

end Run

namespace CommandLine

open Plan

variable {τ σ : Type} {host : Host} {env : Env} {signer : Signer} {seed : Seed}

/-! ### The operations behind a command -/

/-- What a command does with its seed, as a caller of the library would write it. -/
def Order.operations [Clock τ] (env : Env) (signer : Signer) (seed : Seed) : Order → Ledger.Action τ Unit
  | .get => do
    let _ ← Client.get env (.address seed)
    return ()
  | .verify => do
    let randomness ← Client.get env (.address seed)
    Client.verify env (.address seed) randomness
  | .request _ wait => do
    let _ ← Client.request env signer (.address seed)
    if wait then
      let _ ← Client.waitFor env (.address seed) (Clock.ofDecimal Client.defaultTimeout)
        (Clock.ofDecimal Client.defaultInterval)
      return ()
    else return ()

/-- The key file that a command names can be loaded, and this is the signer in it. -/
def Order.Loads (host : Host) (signer : Signer) : Order → Prop
  | .request path _ => ∃ text pair, host.file (expandHome host.homeOf path) = .ok text ∧
      Keypair.ofFile text = .ok pair ∧ pair.signer = signer
  | _ => True

theorem loadSigner_eq {path : String} {wait : Bool} (h : (Order.request path wait).Loads host signer) :
    loadSigner (τ := τ) host path = .done (.ok signer) := by
  obtain ⟨text, pair, hfile, hpair, rfl⟩ := h
  simp only [loadSigner, hfile, mapError_ok, lift, done_ok_bind, hpair]
  rfl

theorem mute_awaitRandomness [Clock τ] (env : Env) (seed : Seed) :
    (awaitRandomness (τ := τ) env (.address seed) (Address.text seed) .absent).mute =
      (Client.waitFor env (.address seed) (Clock.ofDecimal Client.defaultTimeout)
        (Clock.ofDecimal Client.defaultInterval) >>= fun _ => pure ()).mute := by
  refine (mute_bind (Client.waitFor env (.address seed) _ _) (printRandomness (Address.text seed))).trans ?_
  rw [mute_bind]
  rfl

/-- Apart from what it tells, a command is the operations of the library. -/
theorem Order.mute_perform [Clock τ] {o : Order} (hloads : o.Loads host signer) :
    ((o.command seed).perform (τ := τ) host env).mute = (o.operations env signer seed).mute := by
  cases o with
  | get =>
    simp only [command, Command.perform, operations, mute_bind]
    exact bind_congr fun r => rfl
  | verify =>
    simp only [command, Command.perform, operations, mute_bind]
    exact bind_congr fun r => bind_done _
  | request path wait =>
    simp only [command, Command.perform, require, done_ok_bind, loadSigner_eq hloads]
    -- the line about the seed is muted
    show (requestAndWait env signer (.address seed) (Address.text seed) wait .absent).mute = _
    simp only [requestAndWait, operations, mute_bind]
    refine bind_congr fun found => ?_
    cases wait with
    | false => cases found <;> rfl
    | true =>
      have hwait := mute_awaitRandomness (τ := τ) env seed
      cases found <;> exact hwait

/-! ### What a command tells -/

/-- A note that is no complaint. -/
def IsMild (n : Note) : Prop := n.complaint? = none

theorem IsMild.of_isLog {n : Note} (h : Client.IsLog n) : IsMild n := by
  obtain ⟨_, _, _, rfl⟩ := h
  rfl

theorem tells_print (line : String) : Tells (τ := τ) IsMild (print line) := .tell rfl (.done _)

theorem tells_printRandomness (text : String) (r : Randomness) :
    Tells (τ := τ) IsMild (printRandomness text r) :=
  (tells_print _).bind fun _ => (tells_print _).bind fun _ => tells_print _

theorem tells_awaitRandomness [Clock τ] (form : SeedForm) (text : String) (timeout : Given Decimal) :
    Tells (τ := τ) IsMild (awaitRandomness env form text timeout) := by
  refine (tells_print _).bind fun _ => .bind ?_ fun _ =>
    ((Client.tells_waitFor _ _).mono fun _ => IsMild.of_isLog).bind fun _ => tells_printRandomness _ _
  cases timeout <;> exact .done _

theorem tells_requestAndWait [Clock τ] (form : SeedForm) (text : String) (wait : Bool)
    (timeout : Given Decimal) : Tells (τ := τ) IsMild (requestAndWait env signer form text wait timeout) := by
  refine ((Client.prompt_request signer).tells.mono fun _ => IsMild.of_isLog).bind fun found => ?_
  have hwait : Tells (τ := τ) IsMild (if wait then awaitRandomness env form text timeout else pure ()) := by
    cases wait with
    | false => exact .done _
    | true => exact tells_awaitRandomness _ _ _
  cases found <;> exact (tells_print _).bind fun _ => hwait

/-- A command complains about nothing, whatever becomes of it. -/
theorem tells_perform [Clock τ] (c : Command) : Tells (τ := τ) IsMild (c.perform host env) := by
  have hget : ∀ {form}, Tells (τ := τ) IsMild (Client.get env form) :=
    Client.prompt_get.tells.mono fun _ => IsMild.of_isLog
  cases c with
  | get seed => exact hget.bind fun r => tells_printRandomness _ _
  | verify seed =>
    exact hget.bind fun r => ((Client.prompt_verify r).tells.mono fun _ => IsMild.of_isLog).bind fun _ =>
      tells_print _
  | request keypair given wait timeout =>
    refine (tells_require _ _).bind fun path => ?_
    obtain ⟨loaded, hloaded⟩ := exists_loadSigner_eq_done (τ := τ) host path
    rw [hloaded]
    refine .bind (.done _) fun signer => ?_
    rcases exists_chooseSeed_eq_done (τ := τ) host given with ⟨e, hseed⟩ | ⟨form, text, hseed, -⟩
    · rw [hseed]
      exact .done _
    · rw [hseed]
      exact .bind (.done _) fun _ => (tells_print _).bind fun _ => tells_requestAndWait _ _ _ _

/-! ### How the program ends -/

/-- How an outcome is concluded: with a result of the program, and with complaints. -/
inductive Concluded : Except Error Unit → Except Error Exit → List String → Prop
  | returned : Concluded (.ok ()) (.ok (.code 0)) []
  | refused {e : Error} {kind : ErrorKind} : e.kind? = some kind →
      Concluded (.error e) (.ok (.code 1)) [s!"Error ({kind.name}): {e.message}"]
  | raised {e : Error} : e.kind? = none → Concluded (.error e) (.error e) []

/-- Concluding asks nothing, and prints no line but a complaint. -/
theorem conclude_spec [Clock τ] (m : Model Ledger.service τ σ) (o : Except Error Unit) (t : τ) (s : σ) :
    Concluded o ((conclude o).run m t s).result ((conclude o).run m t s).complaints ∧
      ((conclude o).run m t s).calls = [] ∧ ((conclude o).run m t s).printed = [] := by
  cases o with
  | ok _ => exact ⟨.returned, rfl, rfl⟩
  | error e =>
    cases hk : e.kind? with
    | none =>
      simp only [conclude, hk]
      exact ⟨.raised hk, rfl, rfl⟩
    | some kind =>
      simp only [conclude, hk]
      exact ⟨.refused hk, rfl, rfl⟩

/-- The run of a program agrees with a run of the library: it asks the same, and its end says how the library
ended. Nothing is complained about but an error of the client, and that once. -/
structure Agrees (whole : Run Ledger.service τ σ Exit) (library : Run Ledger.service τ σ Unit) : Prop where
  calls : whole.calls = library.calls
  returned : whole.result = .ok (.code 0) ↔ library.result = .ok ()
  refused : whole.result = .ok (.code 1) ↔ ∃ e kind, library.result = .error e ∧ e.kind? = some kind
  raised : ∀ e, whole.result = .error e ↔ library.result = .error e ∧ e.kind? = none
  complained : ∀ e kind, library.result = .error e → e.kind? = some kind →
    whole.complaints = [s!"Error ({kind.name}): {e.message}"]
  quiet : (∀ e, library.result = .error e → e.kind? = none) → whole.complaints = []

namespace Agrees

variable {whole : Run Ledger.service τ σ Exit} {library : Run Ledger.service τ σ Unit}

theorem of_concluded (hcalls : whole.calls = library.calls)
    (h : Concluded library.result whole.result whole.complaints) : Agrees whole library := by
  generalize hw : whole.result = result, hr : library.result = outcome, hc : whole.complaints = lines at h
  cases h with
  | returned =>
    exact ⟨hcalls, by simp [hw, hr], by simp [hw, hr], by simp [hw, hr], by simp [hr], fun _ => hc⟩
  | @refused e kind hk =>
    refine ⟨hcalls, by simp [hw, hr], by simp [hw, hr, hk], ?_, ?_, ?_⟩
    · rintro e'
      simp only [hw, hr, Except.error.injEq, reduceCtorEq, false_iff, not_and]
      rintro rfl
      simp [hk]
    · intro e' kind' he' hk'
      obtain rfl := Except.error.inj (hr.symm.trans he')
      obtain rfl := Option.some.inj (hk.symm.trans hk')
      exact hc
    · intro h
      simp [h e hr] at hk
  | @raised e hk =>
    refine ⟨hcalls, by simp [hw, hr], by simp [hw, hr, hk], ?_, ?_, fun _ => hc⟩
    · intro e'
      simp only [hw, hr, Except.error.injEq]
      exact ⟨fun h => ⟨h, h ▸ hk⟩, And.left⟩
    · intro e' kind he' hk'
      obtain rfl := Except.error.inj (hr.symm.trans he')
      simp [hk] at hk'

/-- An agreeing program has read its command line. -/
theorem result_ne_usage (h : Agrees whole library) (n : Nat) : whole.result ≠ .ok (.usage n) := by
  cases hr : library.result with
  | ok _ => simp [h.returned.2 hr]
  | error e =>
    cases hk : e.kind? with
    | none => simp [(h.raised e).2 ⟨hr, hk⟩]
    | some kind => simp [h.refused.2 ⟨e, kind, hr, hk⟩]

/-- A program that also tells something that is no complaint agrees with the same. -/
theorem after (h : Agrees whole library) {n : Note} (hn : IsMild n) :
    Agrees (whole.after (.told n)) library := by
  have hcomplaints : (whole.after (.told n)).complaints = whole.complaints :=
    List.filterMap_cons_none hn
  exact ⟨h.calls, h.returned, h.refused, h.raised, hcomplaints ▸ h.complained, hcomplaints ▸ h.quiet⟩

end Agrees

/-- A program that is the library apart from what it tells, and does not complain itself, agrees with it once its
outcome is concluded. -/
theorem agrees_of_mute [Clock τ] {p q : Ledger.Action τ Unit} (hmute : p.mute = q.mute)
    (hmild : Tells IsMild p) (m : Model Ledger.service τ σ) (t : τ) (s : σ) :
    Agrees ((p.handle conclude).run m t s) (q.run m t s) := by
  have hcalls : (p.run m t s).calls = (q.run m t s).calls := by
    rw [← calls_mute, hmute, calls_mute]
  have hresult : (p.run m t s).result = (q.run m t s).result := by
    rw [← result_mute, hmute, result_mute]
  have hquiet : (p.run m t s).complaints = [] := List.filterMap_eq_nil_iff.2 hmild.of_mem_notes
  obtain ⟨hconcluded, hasked, -⟩ :=
    conclude_spec m (q.run m t s).result (p.run m t s).clock (p.run m t s).state
  rw [run_handle, hresult]
  refine .of_concluded ?_ ?_
  · rw [Run.calls_behind, hasked, List.append_nil, hcalls]
  · rw [Run.complaints_behind, hquiet, List.nil_append]
    exact hconcluded

/-! ### The verified line -/

/-- Only the line about a verified seed is printed, and that only if the program ends in code zero. -/
structure PrintsVerified (seed : Seed) (whole : Run Ledger.service τ σ Exit) : Prop where
  success : whole.result = .ok (.code 0) → whole.printed = [s!"Randomness for {Address.text seed} verified"]
  failure : whole.result ≠ .ok (.code 0) → whole.printed = []

theorem PrintsVerified.after {whole : Run Ledger.service τ σ Exit} (h : PrintsVerified seed whole) {n : Note}
    (hn : n.line? = none) : PrintsVerified seed (whole.after (.told n)) := by
  have hprinted : (whole.after (.told n)).printed = whole.printed := List.filterMap_cons_none hn
  exact ⟨hprinted ▸ h.success, hprinted ▸ h.failure⟩

theorem printed_of_tells_log [Clock τ] {α : Type} {p : Ledger.Action τ α} (hp : Tells Client.IsLog p)
    (m : Model Ledger.service τ σ) (t : τ) (s : σ) : (p.run m t s).printed = [] := by
  refine List.filterMap_eq_nil_iff.2 fun n hn => ?_
  obtain ⟨_, _, _, rfl⟩ := hp.of_mem_notes n hn
  rfl

/-- Code zero concludes nothing but a value. -/
theorem Concluded.ne_code_zero {e : Error} {result : Except Error Exit} {lines : List String}
    (h : Concluded (.error e) result lines) : result ≠ .ok (.code 0) := by
  cases h <;> simp

theorem printsVerified [Clock τ] (m : Model Ledger.service τ σ) (t : τ) (s : σ) :
    PrintsVerified seed (((Command.perform host env (.verify seed)).handle conclude).run m t s) := by
  -- all that comes before the line only logs
  obtain ⟨p, hlogs, hperform⟩ : ∃ p : Ledger.Action τ Unit, Tells Client.IsLog p ∧
      Command.perform host env (.verify seed) =
        p >>= fun _ => print s!"Randomness for {Address.text seed} verified" :=
    ⟨_, Client.prompt_get.tells.bind fun r => (Client.prompt_verify r).tells, (bind_bind _ _ _).symm⟩
  have hbefore := printed_of_tells_log hlogs m t s
  rw [hperform, run_handle]
  cases hr : (p.run m t s).result with
  | ok _ =>
    rw [run_bind_ok hr]
    refine ⟨fun _ => ?_, fun h => absurd rfl h⟩
    rw [Run.printed_behind, Run.printed_behind, hbefore]
    rfl
  | error e =>
    rw [run_bind_error hr]
    obtain ⟨hconcluded, -, hsilent⟩ := conclude_spec m (.error e) (p.run m t s).clock (p.run m t s).state
    refine ⟨fun h => absurd h hconcluded.ne_code_zero, fun _ => ?_⟩
    rw [Run.printed_behind, hsilent, List.append_nil]
    exact hbefore

/-! ### Command lines -/

/-- How a command line is carried out. -/
structure Faithful [Clock τ] (l : Line) (host : Host) (env : Env) (signer : Signer)
    (m : Model Ledger.service τ σ) (t : τ) (s : σ) : Prop where
  /-- Code two says that the text is no seed. -/
  usage : ((invoke host l.argv).run m t s).result = .ok (.usage 2) ↔ ∀ seed, l.text ≠ Address.text seed
  /-- Then nothing is asked. -/
  unasked : ((invoke host l.argv).run m t s).result = .ok (.usage 2) →
    ((invoke host l.argv).run m t s).calls = []
  /-- Nor is a file read: the program is the same whatever is in the files. -/
  unread : ((invoke host l.argv).run m t s).result = .ok (.usage 2) →
    ∀ file, invoke (τ := τ) { host with file } l.argv = invoke host l.argv
  /-- For the text of a seed, the program is the operations of the library on this seed. -/
  agrees : ∀ seed, l.text = Address.text seed →
    Agrees ((invoke host l.argv).run m t s) ((l.order.operations env signer seed).run m t s)
  /-- A line about a verified seed goes with code zero. -/
  verified : ∀ seed, l.text = Address.text seed → l.order = .verify →
    PrintsVerified seed ((invoke host l.argv).run m t s)

/-- A command line with a text that is no seed ends with code two before anything is asked, and whatever is in
the files. -/
theorem invoke_refused [Clock τ] {l : Line} {p : Parsed} (hspoken : l.Spoken p)
    (hseed : ∀ seed, l.text ≠ Address.text seed) (host : Host) : ∃ complaint, ∀ file,
      invoke (τ := τ) { host with file } l.argv = .tell (.err complaint) (.done (.ok (.usage 2))) := by
  obtain ⟨program, message, hread⟩ := hspoken.read_eq_usage host.variableOf
    fun seed h => hseed seed (Address.ofText_eq_ok_iff.1 h)
  refine ⟨s!"{program}: error: {message}", fun file => ?_⟩
  simp only [invoke, hread]
  rfl

/-- A command line with the text of a seed tells its settings, and is then its command with the conclusion. -/
theorem invoke_of_seed [Clock τ] {l : Line} {p : Parsed} (hspoken : l.Spoken p)
    (henv : (settingsOf host.variableOf p).env = .ok env) (htext : l.text = Address.text seed) :
    ∃ verbosity, invoke (τ := τ) host l.argv = .tell (.verbosity verbosity)
      (.tell (.connected env) (((l.order.command seed).perform host env).handle conclude)) := by
  have hread := hspoken.read_eq host.variableOf (Address.ofText_eq_ok_iff.2 htext)
  refine ⟨if (settingsOf host.variableOf p).debug then .debug else .info, ?_⟩
  simp only [invoke, hread, Command.performUnder, henv]
  rfl

/-- On whatever ledger, a command line is carried out as the library carries out its operations. -/
theorem invoke_agrees [Clock τ] {l : Line} {p : Parsed} (hspoken : l.Spoken p)
    (henv : (settingsOf host.variableOf p).env = .ok env) (hloads : l.order.Loads host signer)
    (m : Model Ledger.service τ σ) (t : τ) (s : σ) : Faithful l host env signer m t s := by
  have hagrees : ∀ seed, l.text = Address.text seed →
      Agrees ((invoke host l.argv).run m t s) ((l.order.operations env signer seed).run m t s) := by
    intro seed htext
    obtain ⟨verbosity, hinvoke⟩ := invoke_of_seed (τ := τ) hspoken henv htext
    rw [hinvoke, run_tell, run_tell]
    refine Agrees.after (n := .verbosity verbosity) (Agrees.after (n := .connected env) ?_ rfl) rfl
    exact agrees_of_mute (Order.mute_perform hloads) (tells_perform _) m t s
  have hverified : ∀ seed, l.text = Address.text seed → l.order = .verify →
      PrintsVerified seed ((invoke host l.argv).run m t s) := by
    intro seed htext horder
    obtain ⟨verbosity, hinvoke⟩ := invoke_of_seed (τ := τ) hspoken henv htext
    rw [hinvoke, run_tell, run_tell, horder]
    exact ((printsVerified m t s).after rfl).after rfl
  have hrefused : (∀ seed, l.text ≠ Address.text seed) → ∃ complaint, ∀ file,
      invoke (τ := τ) { host with file } l.argv = .tell (.err complaint) (.done (.ok (.usage 2))) :=
    fun hseed => invoke_refused hspoken hseed host
  have husage : ((invoke host l.argv).run m t s).result = .ok (.usage 2) ↔
      ∀ seed, l.text ≠ Address.text seed := by
    refine ⟨fun h seed htext => (hagrees seed htext).result_ne_usage 2 h, fun hseed => ?_⟩
    obtain ⟨complaint, hinvoke⟩ := hrefused hseed
    rw [hinvoke host.file]
    rfl
  refine ⟨husage, fun h => ?_, fun h file => ?_, hagrees, hverified⟩
  · obtain ⟨complaint, hinvoke⟩ := hrefused (husage.1 h)
    rw [hinvoke host.file]
    rfl
  · obtain ⟨complaint, hinvoke⟩ := hrefused (husage.1 h)
    rw [hinvoke file, hinvoke host.file]

end CommandLine

/-! ### An instance -/

namespace Sample

open CommandLine Plan

/-- The standard deployment of a program on the local cluster. -/
def localEnv : Env :=
  ⟨Network.localnet.rpcUrl, env.program, Env.defaultConfigLabel, Env.defaultRandomnessLabel⟩

/-- Options for it. -/
def choices : List Choice := [.debug, .network .localnet, .program env.program.text]

/-- A request for the sample's seed there, with a wait. -/
def line : Line := ⟨choices.flatMap Choice.words, .request "id.json" true, Address.text seed⟩

/-- The same with a text that is no seed. -/
def garbled : Line := { line with text := "seed" }

/-- A node that cannot be reached. -/
def unreachable : Model Ledger.service Rat Unit :=
  ⟨fun _ _ s => (.error (.transport (.reported "no connection")), s)⟩

theorem spoken_choices : ∀ c ∈ choices, c.Spoken := by
  have hvalues : ∀ c ∈ choices, ∀ v ∈ c.value?, v.toList.head? ≠ some '-' := by decide +kernel
  exact hvalues

theorem spoken_line {p : Parsed} (h : mainGrammar.OptionsOnly line.options p) : line.Spoken p where
  options := h
  order := show ("id.json" : String).toList.head? ≠ some '-' by decide +kernel
  text := show (Address.text seed).toList.head? ≠ some '-' by decide +kernel

theorem spoken_garbled {p : Parsed} (h : line.Spoken p) : garbled.Spoken p :=
  ⟨h.options, h.order, show ("seed" : String).toList.head? ≠ some '-' by decide +kernel⟩

theorem garbled_text_ne (seed : Seed) : garbled.text ≠ Address.text seed := by
  have hread : (Address.ofText garbled.text).toOption = none := by decide +kernel
  intro htext
  rw [Address.ofText_eq_ok_iff.2 htext] at hread
  cases hread

theorem env_choices : (choices.foldl Choice.apply (unsaid host.variableOf)).env = .ok localEnv := by
  have hprogram : Env.readProgram env.program.text = .ok env.program := by
    simp only [Env.readProgram, Address.ofText_eq_ok_iff.2 rfl]
  have hnetwork : Env.readNetwork Network.localnet.name = .ok .localnet := rfl
  have hsaid : env.program.text.isEmpty = false := by decide +kernel
  simp only [choices, List.foldl_cons, List.foldl_nil, Choice.apply, unsaid, Settings.env,
    hnetwork, hprogram, hsaid, ok_bind, pure_eq_ok, Env.forNetwork, Bool.false_eq_true, if_false]
  rfl

theorem exists_signer : ∃ signer, line.order.Loads host signer := by
  have hloads : (Keypair.ofFile keyFile).toOption.isSome = true := by decide +kernel
  cases hpair : Keypair.ofFile keyFile with
  | ok pair => exact ⟨pair.signer, keyFile, pair, rfl, hpair, rfl⟩
  | error fault =>
    rw [hpair] at hloads
    cases hloads

/-- A request whose first question goes unanswered fails with that. -/
theorem operations_of_lookup {τ σ : Type} [Clock τ] {env : Env} {signer : Signer} {seed : Seed} {path : String}
    {wait : Bool} {m : Model Ledger.service τ σ} {t : τ} {s : σ} {e : Error}
    (h : ((Client.lookup env seed).run m t s).result = .error e) :
    (((Order.request path wait).operations env signer seed).run m t s).result = .error e := by
  have hrequest : ((Client.request env signer (.address seed)).run m t s).result = .error e := by
    show ((Client.lookup env seed >>= _).run m t s).result = .error e
    rw [result_bind, h]
    rfl
  show ((Client.request env signer (.address seed) >>= _).run m t s).result = .error e
  rw [result_bind, hrequest]
  rfl

/-- The first question already goes unanswered, whoever signs. -/
theorem line_fails (signer : Signer) :
    ((line.order.operations localEnv signer seed).run unreachable 0 ()).result =
      .error (.transport (.reported "no connection")) := by
  have haccount : (localEnv.randomnessAccount? seed).isSome = true := by decide +kernel
  obtain ⟨address, ha⟩ := Option.isSome_iff_exists.1 haccount
  refine operations_of_lookup ?_
  rw [Client.lookup, Client.randomnessAddress, ha]
  rfl

end Sample

namespace CommandLine

/-- The sample's request ends in code one with one complaint, that the library cannot reach the node, and with a
text that is no seed it ends in code two. -/
theorem invoke_agrees_sample : ∃ p signer,
    Sample.line.Spoken p ∧ (settingsOf Sample.host.variableOf p).env = .ok Sample.localEnv ∧
    Sample.line.order.Loads Sample.host signer ∧
    ((invoke Sample.host Sample.line.argv).run Sample.unreachable 0 ()).result = .ok (.code 1) ∧
    ((invoke Sample.host Sample.line.argv).run Sample.unreachable 0 ()).complaints =
      ["Error (transport): no connection"] ∧
    ((invoke Sample.host Sample.garbled.argv).run Sample.unreachable 0 ()).result = .ok (.usage 2) := by
  obtain ⟨p, hoptions, hsettings⟩ := optionsOnly_choices Sample.spoken_choices
  obtain ⟨signer, hloads⟩ := Sample.exists_signer
  have hspoken := Sample.spoken_line hoptions
  have henv : (settingsOf Sample.host.variableOf p).env = .ok Sample.localEnv := by
    rw [hsettings, Sample.env_choices]
  have hagrees := (invoke_agrees hspoken henv hloads Sample.unreachable 0 ()).agrees Sample.seed rfl
  have hgarbled := invoke_agrees (Sample.spoken_garbled hspoken) henv hloads Sample.unreachable 0 ()
  have hfails := Sample.line_fails signer
  exact ⟨p, signer, hspoken, henv, hloads, hagrees.refused.2 ⟨_, _, hfails, rfl⟩,
    hagrees.complained _ _ hfails rfl, hgarbled.usage.2 Sample.garbled_text_ne⟩

end CommandLine

end VrfClient
