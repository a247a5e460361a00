import VrfClient.CommandLine.Execute
import VrfClient.Proofs.Direct
import VrfClient.Proofs.SeedForms
import VrfClient.Proofs.Sequence
import VrfClient.Proofs.SignedRequest
import VrfClient.Proofs.Spelling

/-!
The seed of a request is told before anything is submitted. A request of the command line finds its key file
and its seed without asking anything, and from there on it is a plan of one shape (`invoke_request`): it tells
the seed, requests it, and perhaps waits for it. So whatever is submitted comes after the line with the seed,
it is the one submission of the request (`RequestRun.of_submission`), and all that is asked after it are polls
of the account of the seed. -/

namespace VrfClient

/-- A list is cut at its only item without a property in one way. -/
theorem eq_of_append_cons {α : Type} {P : α → Prop} {c d : α} {ys after : List α} (hd : ¬ P d)
    (hys : ∀ a ∈ ys, P a) : ∀ {xs before : List α}, (∀ a ∈ xs, P a) →
      xs ++ c :: ys = before ++ d :: after → xs = before ∧ c = d ∧ ys = after
  | [], [], _, h => by
    obtain ⟨rfl, rfl⟩ := List.cons_eq_cons.1 h
    exact ⟨rfl, rfl, rfl⟩
  | [], b :: before, _, h => by
    obtain ⟨rfl, rfl⟩ := List.cons_eq_cons.1 h
    exact absurd (hys d (by simp)) hd
  | x :: xs, [], hxs, h => by
    obtain ⟨rfl, -⟩ := List.cons_eq_cons.1 h
    exact absurd (hxs x (by simp)) hd
  | x :: xs, b :: before, hxs, h => by
    obtain ⟨rfl, hrest⟩ := List.cons_eq_cons.1 h
    have hqueries : ∀ a ∈ xs, P a := fun a ha => hxs a (List.mem_cons_of_mem _ ha)
    obtain ⟨rfl, rfl, rfl⟩ := eq_of_append_cons hd hys hqueries hrest
    exact ⟨rfl, rfl, rfl⟩

/-! ### What a submission requests -/

/-- The bytes are a transaction with one instruction, whose payload is a request for the seed. -/
def CarriesRequest (seed : Seed) (tx : Bytes) : Prop :=
  ∃ signatures body m ix, Legacy.signatures tx = some (signatures, body) ∧
    Legacy.message body = some (m, []) ∧ m.instructions = [ix] ∧
    Payload.decodeRequest ix.data = .ok seed

namespace Client

variable {env : Env} {signer : Signer} {seed : Seed}

theorem SignedRequest.carriesRequest {randomness config treasury : Address} {blockhash : Octets 32}
    {bs : Bytes} (h : SignedRequest env signer seed randomness config treasury blockhash bs) :
    CarriesRequest seed bs := by
  obtain ⟨payer, signature, body, m, -, hsignatures, -, hmessage, hasks⟩ := h
  obtain ⟨ix, hix, -, -, hdata⟩ := hasks.instruction
  exact ⟨_, body, m, ix, hsignatures, hmessage, hix, Payload.decodeRequest_eq_ok_iff.2 hdata⟩

theorem BuildRun.isQuery {address : Address} {x : List (Exchange Ledger.service)}
    {r : Except Error Transaction} (h : BuildRun env signer seed address x r) :
    ∀ e ∈ x, IsQuery e.call := by
  cases h <;> simp [IsQuery]

/-- A request that submits does so at its end, for its seed, and once. -/
theorem RequestRun.of_submission {x : List (Exchange Ledger.service)} {r : Except Error (Option String)}
    (h : RequestRun env signer seed x r) {e : Exchange Ledger.service} (he : e ∈ x)
    (hsend : ¬ IsQuery e.call) : ∃ address y tx answer, env.randomnessAccount? seed = some address ∧
      x = y ++ [⟨.send tx, answer⟩] ∧ (∀ e ∈ y, IsQuery e.call) ∧ CarriesRequest seed tx := by
  cases h with
  | noAddress _ => cases he
  | unanswered _ =>
    obtain rfl := List.mem_singleton.1 he
    exact absurd trivial hsend
  | present _ _ =>
    obtain rfl := List.mem_singleton.1 he
    exact absurd trivial hsend
  | unbuilt _ hb =>
    rcases List.mem_cons.1 he with rfl | he
    · exact absurd trivial hsend
    · exact absurd (hb.isQuery e he) hsend
  | @sent address y tx answer ha hb =>
    refine ⟨address, ⟨.accountData address, .ok none⟩ :: y, tx.bytes, answer, ha, rfl, ?_, ?_⟩
    · exact List.forall_mem_cons.2 ⟨trivial, hb.isQuery⟩
    · cases hb with
      | built hf _ hs => exact (signedRequest_bytes hf.payer_eq hs.symm).carriesRequest

end Client

namespace CommandLine

open Plan Client

variable {τ σ : Type} {host : Host} {env : Env} {signer : Signer} {form : SeedForm} {text : String}
  {wait : Bool} {timeout : Given Decimal} {x : List (Exchange Ledger.service)}

/-! ### From the seed on -/

theorem direct_print {asks : Ledger.Call → Prop} (line : String) :
    Direct (τ := τ) asks (print line) := .tell (.done _)

theorem direct_printRandomness {asks : Ledger.Call → Prop} (seed : String) (r : Randomness) :
    Direct (τ := τ) asks (printRandomness seed r) :=
  (direct_print _).bind fun _ => (direct_print _).bind fun _ => direct_print _

theorem direct_chooseTimeout [Clock τ] {asks : Ledger.Call → Prop} :
    Direct (τ := τ) asks (chooseTimeout timeout) := by
  cases timeout <;> exact .done _

theorem direct_awaitRandomness [Clock τ] {seed : Seed} (hform : form.resolve = .ok seed) :
    Direct (τ := τ) (AsksAccount env seed) (awaitRandomness env form text timeout) :=
  (direct_print _).bind fun _ => direct_chooseTimeout.bind fun _ =>
    (direct_waitFor_seed hform _ _).bind fun _ => direct_printRandomness _ _

/-- What is asked behind the request are polls of the account of the seed, if it is waited for. -/
theorem reaches_requestAndWait [Clock τ] {seed : Seed} (hform : form.resolve = .ok seed)
    {r : Except Error Unit}
    (h : Reaches (τ := τ) (requestAndWait env signer form text wait timeout) x r) :
    ∃ xr xw r', Reaches (τ := τ) (request env signer form) xr r' ∧ x = xr ++ xw ∧
      ∀ e ∈ xw, wait = true ∧ AsksAccount env seed e.call := by
  rcases h.of_bind with ⟨e, he, -⟩ | ⟨found, xr, xw, hrequest, hnext, rfl⟩
  · exact ⟨x, [], .error e, he, (List.append_nil x).symm, List.forall_mem_nil _⟩
  have hwait : Direct (τ := τ) (fun c => wait = true ∧ AsksAccount env seed c)
      (if wait then awaitRandomness env form text timeout else pure ()) := by
    cases wait with
    | false => exact .done _
    | true => exact (direct_awaitRandomness hform).mono fun _ hc => ⟨rfl, hc⟩
  refine ⟨xr, xw, .ok found, hrequest, rfl, fun e he => ?_⟩
  cases found with
  | none => exact ((direct_print _).bind fun _ => hwait).asks_of_mem hnext e he
  | some signature => exact ((direct_print _).bind fun _ => hwait).asks_of_mem hnext e he

/-- A form that stands for no seed is refused before anything is asked. -/
theorem reaches_requestAndWait_error [Clock τ] {fault : SeedForm.Fault}
    (hform : form.resolve = .error fault) {r : Except Error Unit}
    (h : Reaches (τ := τ) (requestAndWait env signer form text wait timeout) x r) : x = [] := by
  rcases h.of_bind with ⟨e, he, -⟩ | ⟨found, xr, xw, hrequest, -, -⟩
  · exact ((reaches_resolve_bind_error hform).1 he).1
  · cases ((reaches_resolve_bind_error hform).1 hrequest).2

/-- The calls from the seed on are cut at the only submission: it requests the seed, and what follows it are
polls. -/
theorem cut_at_submission [Clock τ] {r : Except Error Unit}
    (h : Reaches (τ := τ) (requestAndWait env signer form text wait timeout) x r)
    {earlier later : List Ledger.Call} {tx : Bytes}
    (hx : x.map Exchange.call = earlier ++ .send tx :: later) :
    ∃ seed address, form.resolve = .ok seed ∧ env.randomnessAccount? seed = some address ∧
      CarriesRequest seed tx ∧ ∀ c ∈ later, wait = true ∧ c = .accountData address := by
  cases hform : form.resolve with
  | error fault =>
    rw [reaches_requestAndWait_error hform h] at hx
    simp at hx
  | ok seed =>
    obtain ⟨xr, xw, r', hrequest, rfl, hpolls⟩ := reaches_requestAndWait hform h
    have hsend : .send tx ∈ (xr ++ xw).map Exchange.call := by simp [hx]
    obtain ⟨e, he, hcall⟩ := List.mem_map.1 hsend
    have hnot : ¬ IsQuery e.call := by simp [hcall, IsQuery]
    have hr : e ∈ xr := (List.mem_append.1 he).resolve_right fun hw => hnot (hpolls e hw).2.isQuery
    obtain ⟨address, y, tx', answer, ha, rfl, hy, hcarries⟩ :=
      (reaches_request hform hrequest).of_submission hr hnot
    have hcut : y.map Exchange.call ++ .send tx' :: xw.map Exchange.call = earlier ++ .send tx :: later := by
      simpa using hx
    have hbefore : ∀ c ∈ y.map Exchange.call, IsQuery c := by
      simpa only [List.forall_mem_map] using hy
    have hafter : ∀ c ∈ xw.map Exchange.call, IsQuery c := by
      simpa only [List.forall_mem_map] using fun e hw => (hpolls e hw).2.isQuery
    obtain ⟨-, hsame, rfl⟩ := eq_of_append_cons (P := IsQuery) id hafter hbefore hcut
    obtain rfl := Ledger.Call.send.inj hsame
    refine ⟨seed, address, rfl, ha, hcarries, fun c hc => ?_⟩
    obtain ⟨e, hw, rfl⟩ := List.mem_map.1 hc
    obtain ⟨hwait, a, ha', hpoll⟩ := hpolls e hw
    obtain rfl := Option.some.inj (ha.symm.trans ha')
    exact ⟨hwait, hpoll⟩

/-! ### Up to the seed -/

/-- Loading a signer asks and tells nothing. -/
theorem exists_loadSigner_eq_done (host : Host) (path : String) :
    ∃ r, loadSigner (τ := τ) host path = .done r :=
  exists_done_bind ⟨_, rfl⟩ fun _ => exists_done_bind ⟨_, rfl⟩ fun _ => ⟨_, rfl⟩

/-- Choosing a seed asks and tells nothing, and gives the seed together with its text. -/
theorem exists_chooseSeed_eq_done (host : Host) (given : Given Seed) :
    (∃ e, chooseSeed (τ := τ) host given = .done (.error e)) ∨
      ∃ form text, chooseSeed (τ := τ) host given = .done (.ok (form, text)) ∧
        ∀ seed, form.resolve = .ok seed → text = Address.text seed := by
  have hshown : ∀ chosen seed : Seed, (SeedForm.address chosen).resolve = .ok seed →
      Address.text chosen = Address.text seed := by
    rintro chosen seed ⟨⟩
    rfl
  cases given with
  | value chosen => exact .inr ⟨_, _, rfl, hshown chosen⟩
  | blank =>
    refine .inr ⟨_, _, rfl, fun seed hform => ?_⟩
    have hempty := congrArg List.length (SeedForm.resolve_bytes_eq_ok_iff.1 hform)
    rw [seed.length_bytes] at hempty
    cases hempty
  | absent =>
    unfold chooseSeed exactly
    cases Octets.ofBytes? 32 (host.entropy.take 32) with
    | none => exact .inl ⟨_, rfl⟩
    | some chosen => exact .inr ⟨_, _, rfl, hshown chosen⟩

/-- A request either fails before it tells anything, or starts with the seed. -/
theorem perform_request [Clock τ] (host : Host) (env : Env) (keypair : Option String)
    (given : Given Seed) (wait : Bool) (timeout : Given Decimal) :
    (∃ e, Command.perform (τ := τ) host env (.request keypair given wait timeout) = .done (.error e)) ∨
      ∃ signer form text, (∀ seed, form.resolve = .ok seed → text = Address.text seed) ∧
        Command.perform (τ := τ) host env (.request keypair given wait timeout) =
          .tell (.out s!"Seed: {text}") (requestAndWait env signer form text wait timeout) := by
  unfold Command.perform
  cases keypair with
  | none => exact .inl ⟨_, rfl⟩
  | some path =>
    obtain ⟨loaded, hloaded⟩ := exists_loadSigner_eq_done (τ := τ) host path
    simp only [require, done_ok_bind, hloaded]
    cases loaded with
    | error e => exact .inl ⟨e, rfl⟩
    | ok signer =>
      rcases exists_chooseSeed_eq_done (τ := τ) host given with ⟨e, hseed⟩ | ⟨form, text, hseed, htext⟩
      · simp only [done_ok_bind, hseed]
        exact .inl ⟨e, rfl⟩
      · simp only [done_ok_bind, hseed]
        exact .inr ⟨signer, form, text, htext, rfl⟩

/-- Nothing is asked once the outcome is there. -/
theorem reaches_conclude {o : Except Error Unit} {r : Except Error Exit}
    (h : Reaches (τ := τ) (conclude o) x r) : x = [] := by
  have hquiet : Direct (τ := τ) (fun _ => False) (conclude o) := by
    cases o with
    | ok _ => exact .done _
    | error e =>
      simp only [conclude]
      cases e.kind? with
      | none => exact .done _
      | some kind => exact direct_log.bind fun _ => .bind (.tell (.done _)) fun _ => .done _
  exact List.eq_nil_iff_forall_not_mem.2 fun e he => hquiet.asks_of_mem h e he

/-- A request on the command line asks nothing at all, or it tells its seed and goes on from there. -/
theorem invoke_request [Clock τ] {argv : List String} {settings : Settings} {keypair : Option String}
    {given : Given Seed}
    (hread : CommandLine.read host.variableOf argv = .ok (settings, .request keypair given wait timeout)) :
    (∀ x r, Reaches (τ := τ) (invoke host argv) x r → x = []) ∨
      ∃ env signer form text verbosity, settings.env = .ok env ∧
        (∀ seed, form.resolve = .ok seed → text = Address.text seed) ∧
        invoke (τ := τ) host argv = .tell verbosity (.tell (.connected env) (.tell (.out s!"Seed: {text}")
          ((requestAndWait env signer form text wait timeout).handle conclude))) := by
  have hinvoke : invoke (τ := τ) host argv = .tell (.verbosity (if settings.debug then .debug else .info))
      ((lift (settings.env.mapError .environment) >>= fun env => Plan.tell (.connected env)
        (Command.perform host env (.request keypair given wait timeout))).handle conclude) := by
    simp only [invoke, hread]
    rfl
  rw [hinvoke]
  cases settings.env with
  | error fault =>
    refine .inl fun x r h => ?_
    cases h with
    | tell h => exact reaches_conclude h
  | ok env =>
    have hconnected : (lift ((Except.ok env).mapError Error.environment) >>= fun env =>
        Plan.tell (.connected env) (Command.perform host env (.request keypair given wait timeout))) =
        Plan.tell (.connected env)
          (Command.perform (τ := τ) host env (.request keypair given wait timeout)) := rfl
    rw [hconnected]
    rcases perform_request (τ := τ) host env keypair given wait timeout with
      ⟨e, hperform⟩ | ⟨signer, form, text, htext, hperform⟩
    · rw [hperform]
      refine .inl fun x r h => ?_
      cases h with
      | tell h =>
        cases h with
        | tell h => exact reaches_conclude h
    · rw [hperform]
      exact .inr ⟨env, signer, form, text, _, rfl, htext, rfl⟩

/-! ### Nothing is lost -/

/-- A submission in a run, with what happened before and after it, keeps its seed: the seed was told before, in
a form that can be read back, it is what the submission requests, and whatever is asked afterwards is asked
for its account. -/
structure KeepsSeed (env : Env) (wait : Bool) (seed : Seed) (tx : Bytes)
    (before after : List (Event Ledger.service τ)) : Prop where
  told : ∃ text, .told (.out s!"Seed: {text}") ∈ before ∧
    (∀ g argument, readSeed g argument text = .ok seed) ∧ (SeedForm.text text).resolve = .ok seed
  submitted : CarriesRequest seed tx
  polled : ∃ address, env.randomnessAccount? seed = some address ∧
    ∀ call, .asked call ∈ after → wait = true ∧ call = .accountData address

/-- Whatever a request on the command line submits, on whatever ledger and however its run ends, the seed of
the submission was told before it and can be read back, and only the account of this seed is asked for
after it. -/
theorem seed_told_before_submission [Clock τ] {argv : List String} {settings : Settings}
    {keypair : Option String} {given : Given Seed}
    (hread : CommandLine.read host.variableOf argv = .ok (settings, .request keypair given wait timeout))
    (m : Model Ledger.service τ σ) (t : τ) (s : σ) {before after : List (Event Ledger.service τ)}
    {tx : Bytes} (hsend : ((invoke host argv).run m t s).events = before ++ .asked (.send tx) :: after) :
    ∃ env seed, settings.env = .ok env ∧ KeepsSeed env wait seed tx before after := by
  rcases invoke_request (τ := τ) hread with hquiet | ⟨env, signer, form, text, n, henv, htext, hplan⟩
  · obtain ⟨earlier, later, hcalls, -⟩ := Run.exists_calls_of_events hsend
    rw [calls_run, hquiet _ _ (reaches_run m (invoke host argv) t s)] at hcalls
    simp at hcalls
  rw [hplan] at hsend
  obtain ⟨before₁, rfl, hsend₁⟩ := exists_of_told_cons hsend
  obtain ⟨before₂, rfl, hsend₂⟩ := exists_of_told_cons hsend₁
  obtain ⟨before₃, rfl, hsend₃⟩ := exists_of_told_cons hsend₂
  obtain ⟨earlier, later, hcalls, hlater⟩ := Run.exists_calls_of_events hsend₃
  rw [calls_run] at hcalls
  obtain ⟨r₁, x₁, x₂, h₁, h₂, hx⟩ := Reaches.of_handle (reaches_run m _ t s)
  obtain rfl := reaches_conclude h₂
  rw [hx, List.append_nil] at hcalls
  obtain ⟨seed, address, hform, ha, hcarries, hpolls⟩ := cut_at_submission h₁ hcalls
  obtain rfl := htext seed hform
  have hread : Address.ofText (Address.text seed) = .ok seed := Address.ofText_eq_ok_iff.2 rfl
  refine ⟨env, seed, henv, ⟨Address.text seed, by simp, fun g argument => ?_,
    SeedForm.resolve_text_eq_ok_iff.2 rfl⟩, hcarries, address, ha, fun c hc => hpolls c (hlater c hc)⟩
  rw [readSeed, hread]

end CommandLine

/-! ### An instance -/

namespace Sample

open CommandLine Plan

/-- A key file with the sample's secret and key. -/
def keyFile : String :=
  "[0,0,0,0,0,0,0,0,0,0,0,0,0,0,0,0,0,0,0,0,0,0,0,0,0,0,0,0,0,0,0,0,59,106,39,188,206,182,164,45,98," ++
    "163,168,208,42,111,13,115,101,50,21,119,29,226,67,166,58,192,72,161,139,89,218,41]"

/-- No variables are set, and the random bytes are the sample's seed. -/
def host : Host := ⟨fun _ => none, fun _ => .ok keyFile, fun _ => none, seed.bytes⟩

def argv : List String := ["request", "-kid.json"]

def settings : Settings := ⟨some "devnet", none, none, false⟩

/-- The first account that is asked for is absent, all others hold the configuration, and no submission is
taken. -/
def refusing : Model Ledger.service Rat Bool where
  answer
    | .accountData _, _, asked => (.ok (if asked then some configData else none), true)
    | .latestBlockhash, _, asked => (.ok (Octets.zero 32), asked)
    | .send _, _, asked => (.error (.transport (.reported "no connection")), asked)
    | .signatures _, _, asked => (.ok [], asked)
    | .transaction _, _, asked => (.ok .null, asked)

/-- Before the command, the key file is not an option that is known. -/
theorem classify_main : mainGrammar.classify "-kid.json" = .ok .unknown := by
  have hletters : ("-kid.json" : String).toList = ['-', 'k', 'i', 'd', '.', 'j', 's', 'o', 'n'] := by
    decide +kernel
  have hflag : mainGrammar.flag? "-kid.json" = none := by
    rw [← Option.isNone_iff_eq_none]
    decide +kernel
  have hcut : Grammar.cutEquals "-kid.json" = ("-kid.json", none) := by decide +kernel
  have hcandidates : mainGrammar.candidates "-kid.json" = [] := by
    rw [← List.isEmpty_iff]
    decide +kernel
  have hnumber : Grammar.isNegativeNumber "-kid.json" = false := by decide +kernel
  have hblank : ("-kid.json" : String).contains ' ' = false := by
    rw [String.contains_char_eq]
    decide +kernel
  simp [Grammar.classify, hletters, hflag, hcut, hcandidates, hnumber, hblank]

/-- The command takes all that follows it. -/
theorem parse_main : mainGrammar.parse argv = .ok ⟨[], some argv, []⟩ := by
  have hclassified : mainGrammar.classifyAll argv = .ok [("request", .word), ("-kid.json", .unknown)] :=
    bind_eq_ok.2 ⟨.word, rfl, bind_eq_ok.2 ⟨_, bind_eq_ok.2 ⟨.unknown, classify_main, rfl⟩, rfl⟩⟩
  have hconsumed : mainGrammar.consume [("request", .word), ("-kid.json", .unknown)] ⟨[], none, []⟩ =
      .ok ⟨[], some argv, []⟩ := by
    rw [Grammar.consume]
    exact bind_eq_ok.2 ⟨(1, ⟨[], some argv, []⟩), rfl, Grammar.consume_nil _ _⟩
  exact bind_eq_ok.2 ⟨_, hclassified, bind_eq_ok.2 ⟨_, hconsumed, rfl⟩⟩

theorem parse_request :
    requestGrammar.parse ["-kid.json"] = .ok ⟨[(keypairKey, some "id.json")], none, []⟩ := by
  have hclassified : requestGrammar.classifyAll ["-kid.json"] = .ok [("-kid.json",
      .flag ⟨[keypairKey, "-k"], true, true, false, fun _ => none⟩ "-k" (some "id.json"))] := rfl
  have hconsumed : requestGrammar.consume [("-kid.json",
      .flag ⟨[keypairKey, "-k"], true, true, false, fun _ => none⟩ "-k" (some "id.json"))] ⟨[], none, []⟩ =
        .ok ⟨[(keypairKey, some "id.json")], none, []⟩ := by
    rw [Grammar.consume]
    exact bind_eq_ok.2 ⟨(0, ⟨[(keypairKey, some "id.json")], none, []⟩), rfl, Grammar.consume_nil _ _⟩
  exact bind_eq_ok.2 ⟨_, hclassified, bind_eq_ok.2 ⟨_, hconsumed, rfl⟩⟩

theorem read_argv : CommandLine.read host.variableOf argv =
    .ok (settings, .request (some "id.json") .absent false .absent) := by
  have hcommand : readCommand "request" ["-kid.json"] =
      .ok (.request (some "id.json") .absent false .absent, []) :=
    bind_eq_ok.2 ⟨_, parse_request, rfl⟩
  exact bind_eq_ok.2 ⟨_, parse_main, bind_eq_ok.2 ⟨_, hcommand, rfl⟩⟩

/-- The run submits, and ends with code one. -/
theorem refused : ((invoke host argv).run refusing 0 false).result.toOption = some (.code 1) ∧
    ((invoke host argv).run refusing 0 false).calls.any (fun c => match c with
      | .send _ => true
      | _ => false) = true := by
  rw [invoke, read_argv]
  decide +kernel

end Sample

namespace CommandLine

open Plan

/-- The sample's submission fails and the program ends with code one, and yet its seed was told before. -/
theorem seed_told_before_submission_sample :
    CommandLine.read Sample.host.variableOf Sample.argv =
      .ok (Sample.settings, .request (some "id.json") .absent false .absent) ∧
    ((invoke Sample.host Sample.argv).run Sample.refusing 0 false).result = .ok (.code 1) ∧
    ∃ before tx after env seed,
      ((invoke Sample.host Sample.argv).run Sample.refusing 0 false).events =
        before ++ .asked (.send tx) :: after ∧
      Sample.settings.env = .ok env ∧ KeepsSeed env false seed tx before after := by
  obtain ⟨hcode, hsubmits⟩ := Sample.refused
  obtain ⟨c, hc, hsend⟩ := List.any_eq_true.1 hsubmits
  cases c with
  | send tx =>
    obtain ⟨before, after, hevents⟩ := Run.exists_events_of_mem_calls hc
    obtain ⟨env, seed, henv, hkeeps⟩ :=
      seed_told_before_submission Sample.read_argv Sample.refusing 0 false hevents
    refine ⟨Sample.read_argv, ?_, before, tx, after, env, seed, hevents, henv, hkeeps⟩
    cases hresult : ((invoke Sample.host Sample.argv).run Sample.refusing 0 false).result with
    | error e => simp [hresult, Except.toOption] at hcode
    | ok exit => simpa [hresult, Except.toOption] using hcode
  | accountData a => cases hsend
  | latestBlockhash => cases hsend
  | signatures a => cases hsend
  | transaction name => cases hsend

end CommandLine

end VrfClient
