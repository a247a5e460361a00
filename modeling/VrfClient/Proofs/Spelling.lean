import VrfClient.CommandLine.Command
import VrfClient.Proofs.Base58
import VrfClient.Proofs.Options

/-!
Command lines as they are meant. A command line has options, then a command, then the words of the command, spelled
in full; the texts in it do not start with a dash. It is read as it is meant: the settings are what the options
say, and the command is the one that is spelled (`Spoken.read_eq`), unless the text of its seed is none, which is
a usage error (`Spoken.read_eq_usage`). Options by their full names, each with its value in the next word, say
what they are meant to say: every one overrides what was said before it (`optionsOnly_choices`). -/

namespace VrfClient.CommandLine

namespace Grammar

variable {g : Grammar} {p : Parsed} {w v : String} {f : Flag} {t : Token} {ws : List String}
  {ts rest : List (String × Token)}

/-! ### Words -/

/-- A word that does not start with a dash. -/
def Plain (w : String) : Prop := w.toList.head? ≠ some '-'

theorem Plain.ne_dashes (h : Plain w) : w ≠ "--" := by
  rintro rfl
  exact h (by decide +kernel)

theorem classify_of_plain (h : Plain w) : g.classify w = .ok .word := by
  unfold classify
  split
  · rename_i hw
    simp [Plain, hw] at h
  · rfl

theorem classify_of_flag (hdash : w.toList.head? = some '-') (hlong : 1 < w.toList.length)
    (h : g.flag? w = some f) : g.classify w = .ok (.flag f w none) := by
  unfold classify
  split
  · rw [h]
  · rename_i hno
    cases hw : w.toList with
    | nil => simp [hw] at hdash
    | cons c cs =>
      cases cs with
      | nil => simp [hw] at hlong
      | cons d ds =>
        obtain rfl : c = '-' := by simpa [hw] using hdash
        exact absurd hw (hno d ds)

/-- A word that is no option of the grammar, nor the beginning of one, can be classified. -/
theorem exists_classify (hflag : g.flag? w = none) (hcut : (cutEquals w).2 = none)
    (hcandidates : (g.candidates w).isEmpty = true) : ∃ t, g.classify w = .ok t := by
  unfold classify
  split
  · simp only [hflag, hcut, List.isEmpty_iff.1 hcandidates, Option.isSome_none, Bool.false_eq_true,
      if_false]
    split
    · exact ⟨_, rfl⟩
    · exact ⟨_, rfl⟩
  · exact ⟨_, rfl⟩

theorem classifyAll_cons (hw : w ≠ "--") (ht : g.classify w = .ok t) (hts : g.classifyAll ws = .ok ts) :
    g.classifyAll (w :: ws) = .ok ((w, t) :: ts) := by
  rw [classifyAll.eq_3 g w ws hw]
  exact bind_eq_ok.2 ⟨t, ht, bind_eq_ok.2 ⟨ts, hts, rfl⟩⟩

theorem classifyAll_plain (h : Plain w) (hts : g.classifyAll ws = .ok ts) :
    g.classifyAll (w :: ws) = .ok ((w, .word) :: ts) :=
  classifyAll_cons h.ne_dashes (classify_of_plain h) hts

/-- Words that can be classified, and are no bare double dash, are the words of their classification. -/
theorem exists_classifyAll : ∀ {ws : List String}, (∀ w ∈ ws, w ≠ "--" ∧ ∃ t, g.classify w = .ok t) →
    ∃ ts, g.classifyAll ws = .ok ts ∧ ts.map Prod.fst = ws
  | [], _ => ⟨[], rfl, rfl⟩
  | w :: ws, h => by
    obtain ⟨⟨hw, t, ht⟩, hws⟩ := List.forall_mem_cons.1 h
    obtain ⟨ts, hts, hwords⟩ := exists_classifyAll hws
    exact ⟨(w, t) :: ts, classifyAll_cons hw ht hts, by rw [List.map_cons, hwords]⟩

/-! ### Consuming one thing -/

theorem consume_nil (g : Grammar) (p : Parsed) : g.consume [] p = .ok p := by
  rw [consume]

/-- An option and the value behind it. -/
theorem consume_value (hf : f.takesValue = true) (hv : v ≠ "--") (hc : f.complaint v = none) :
    g.consume ((w, .flag f w none) :: (v, .word) :: rest) p =
      g.consume rest { p with options := (f.key, some v) :: p.options } := by
  rw [consume]
  simp [take, takeFlag, assign, hf, hv, hc]

/-- An option whose value is refused. -/
theorem consume_refused {c : String} (hf : f.takesValue = true) (hv : v ≠ "--") (hc : f.complaint v = some c) :
    g.consume ((w, .flag f w none) :: (v, .word) :: rest) p = g.blame f.shown c := by
  rw [consume]
  simp [take, takeFlag, assign, hf, hv, hc, blame, stop]

/-- An option without a value. -/
theorem consume_switch (hf : f.takesValue = false) (hh : f.help = false) :
    g.consume ((w, .flag f w none) :: rest) p =
      g.consume rest { p with options := (f.key, none) :: p.options } := by
  rw [consume]
  simp [take, takeFlag, switch, hf, hh]

/-- A command takes all that follows it. -/
theorem consume_command {name cmd : String} {choices : List String} (hg : g.positional = .command name choices)
    (hc : cmd ∈ choices) (hp : p.positional = none) :
    g.consume ((cmd, .word) :: rest) p = .ok { p with positional := some (cmd :: rest.map Prod.fst) } := by
  have hchoice : invalidChoice choices cmd = none := by simp [invalidChoice, hc]
  rw [consume]
  simp [take, takePositional, place, hg, hp, hchoice, consume_nil]

/-- A single value as the only word. -/
theorem consume_positional {name : String} {complaint : String → Option String}
    (hg : g.positional = .value name complaint) (hp : p.positional = none) :
    g.consume [(v, .word)] p = match complaint v with
      | some c => g.blame name c
      | none => .ok { p with positional := some [v] } := by
  rw [consume]
  cases hv : complaint v with
  | some c => simp [take, takePositional, place, hg, hp, hv, blame, stop]
  | none =>
    simp [take, takePositional, place, hg, hp, hv, consume_nil]

/-! ### Command lines -/

/-- What is consumed is what the command line holds, if nothing is missing. -/
theorem parse_eq_ok (hts : g.classifyAll ws = .ok ts) (hp : g.consume ts ⟨[], none, []⟩ = .ok p)
    (hmissing : g.missing p = []) : g.parse ws = .ok p := by
  simp [parse, hts, hp, hmissing]

/-- The first complaint wins. -/
theorem parse_eq_error {stop : Stop} (hts : g.classifyAll ws = .ok ts)
    (hp : g.consume ts ⟨[], none, []⟩ = .error stop) : g.parse ws = .error stop := by
  simp [parse, hts, hp]

end Grammar

open Grammar

/-- The full names of the options before the command. -/
def mainKeys : List String := [networkKey, nodeKey, programKey, debugKey]

/-- The full names of the options of a request that are spelled here. -/
def requestKeys : List String := [keypairKey, seedKey, waitKey]

/-- The full name of an option starts with a dash, and is no bare double dash. -/
theorem keys_spec : ∀ k ∈ mainKeys ++ requestKeys,
    k.toList.head? = some '-' ∧ 1 < k.toList.length ∧ k ≠ "--" := by decide +kernel

theorem classifyAll_key {g : Grammar} {k : String} {ws : List String} {ts : List (String × Token)} {f : Flag}
    (hk : k ∈ mainKeys ++ requestKeys) (hf : g.flag? k = some f) (hts : g.classifyAll ws = .ok ts) :
    g.classifyAll (k :: ws) = .ok ((k, .flag f k none) :: ts) :=
  classifyAll_cons (keys_spec k hk).2.2 (classify_of_flag (keys_spec k hk).1 (keys_spec k hk).2.1 hf) hts

/-! ### Options before the command -/

/-- An option before the command. -/
inductive Choice where
  | network (n : Network)
  | node (url : String)
  | program (text : String)
  | debug

namespace Choice

/-- The name of the option in full. -/
def key : Choice → String
  | .network _ => networkKey
  | .node _ => nodeKey
  | .program _ => programKey
  | .debug => debugKey

def value? : Choice → Option String
  | .network n => some n.name
  | .node url => some url
  | .program text => some text
  | .debug => none

/-- The option in full spelling. -/
def words (c : Choice) : List String := c.key :: c.value?.toList

/-- What the option does to the settings. -/
def apply (s : Settings) : Choice → Settings
  | .network n => { s with network := some n.name }
  | .node url => { s with node := some url }
  | .program text => { s with program := some text }
  | .debug => { s with debug := true }

/-- The option as it is recorded. -/
def record (p : Parsed) (c : Choice) : Parsed := { p with options := (c.key, c.value?) :: p.options }

end Choice

/-- The settings of what was said, with variables in place of what was not. -/
def settingsOf (variableOf : String → Option String) (p : Parsed) : Settings :=
  ⟨orElse (p.given networkKey) (some ((variableOf Env.networkVariable).getD Network.devnet.name)),
    orElse (p.given nodeKey) (variableOf Env.nodeVariable),
    orElse (p.given programKey) (variableOf Env.programVariable), p.has debugKey⟩

/-- The settings where no option is given. -/
def unsaid (variableOf : String → Option String) : Settings :=
  ⟨some ((variableOf Env.networkVariable).getD Network.devnet.name), variableOf Env.nodeVariable,
    variableOf Env.programVariable, false⟩

theorem settingsOf_record (variableOf : String → Option String) (p : Parsed) (c : Choice) :
    settingsOf variableOf (c.record p) = c.apply (settingsOf variableOf p) := by
  cases c <;> rfl

theorem settingsOf_foldl (variableOf : String → Option String) : ∀ (choices : List Choice) (p : Parsed),
    settingsOf variableOf (choices.foldl Choice.record p) =
      choices.foldl Choice.apply (settingsOf variableOf p)
  | [], _ => rfl
  | c :: choices, p => by
    rw [List.foldl_cons, settingsOf_foldl variableOf choices, settingsOf_record, List.foldl_cons]

/-- What was said before is kept, apart from the options. -/
theorem exists_options_foldl : ∀ (choices : List Choice) (p : Parsed),
    ∃ options, choices.foldl Choice.record p = { p with options := options }
  | [], p => ⟨p.options, rfl⟩
  | c :: choices, p => exists_options_foldl choices (c.record p)

theorem Choice.key_mem (c : Choice) : c.key ∈ mainKeys := by
  cases c <;> simp [key, mainKeys]

/-- A full name is that of its option, which takes the value that it is given. -/
theorem Choice.exists_flag (c : Choice) : ∃ f, mainGrammar.flag? c.key = some f ∧ f.key = c.key ∧
    f.takesValue = c.value?.isSome ∧ f.help = false ∧ ∀ v, c.value? = some v → f.complaint v = none := by
  cases c with
  | network n =>
    refine ⟨_, rfl, rfl, rfl, rfl, ?_⟩
    rintro v ⟨⟩
    cases n <;> rfl
  | node url => exact ⟨_, rfl, rfl, rfl, rfl, fun _ _ => rfl⟩
  | program text => exact ⟨_, rfl, rfl, rfl, rfl, fun _ _ => rfl⟩
  | debug => exact ⟨_, rfl, rfl, rfl, rfl, fun _ _ => rfl⟩

/-- The value of the option, if it has one, does not start with a dash. -/
def Choice.Spoken (c : Choice) : Prop := ∀ v ∈ c.value?, Plain v

variable {ws : List String} {ts : List (String × Token)}

/-- One option in front is recorded. -/
theorem consume_choice {c : Choice} (hc : c.Spoken) (hts : mainGrammar.classifyAll ws = .ok ts) :
    ∃ us, mainGrammar.classifyAll (c.words ++ ws) = .ok us ∧
      ∀ p, mainGrammar.consume us p = mainGrammar.consume ts (c.record p) := by
  obtain ⟨f, hflag, hkey, hvalue, hhelp, hcomplaint⟩ := c.exists_flag
  have hmem := List.mem_append_left requestKeys c.key_mem
  unfold Choice.words Choice.record
  cases hv : c.value? with
  | none =>
    rw [hv] at hvalue
    refine ⟨_, classifyAll_key hmem hflag hts, fun p => ?_⟩
    rw [consume_switch hvalue hhelp, hkey]
  | some v =>
    rw [hv] at hvalue
    have hplain := hc v hv
    refine ⟨_, classifyAll_key hmem hflag (classifyAll_plain hplain hts), fun p => ?_⟩
    rw [consume_value hvalue hplain.ne_dashes (hcomplaint v hv), hkey]

/-- Options are recorded one after the other. -/
theorem consume_choices : ∀ {choices : List Choice}, (∀ c ∈ choices, c.Spoken) →
    ∃ ts, mainGrammar.classifyAll (choices.flatMap Choice.words) = .ok ts ∧
      ∀ p, mainGrammar.consume ts p = .ok (choices.foldl Choice.record p)
  | [], _ => ⟨[], rfl, consume_nil _⟩
  | c :: choices, h => by
    obtain ⟨hc, hchoices⟩ := List.forall_mem_cons.1 h
    obtain ⟨us, hus, hrest⟩ := consume_choices hchoices
    obtain ⟨vs, hvs, hfirst⟩ := consume_choice hc hus
    refine ⟨vs, hvs, fun p => ?_⟩
    rw [hfirst, hrest, List.foldl_cons]

/-- Options in full spelling say what they are meant to say. -/
theorem optionsOnly_choices {choices : List Choice} (hchoices : ∀ c ∈ choices, c.Spoken) :
    ∃ p, mainGrammar.OptionsOnly (choices.flatMap Choice.words) p ∧
      ∀ variableOf, settingsOf variableOf p = choices.foldl Choice.apply (unsaid variableOf) := by
  obtain ⟨ts, hts, hconsume⟩ := consume_choices hchoices
  obtain ⟨options, hoptions⟩ := exists_options_foldl choices ⟨[], none, []⟩
  refine ⟨_, ⟨⟨ts, hts, hconsume _⟩, ?_⟩, fun variableOf => settingsOf_foldl variableOf choices _⟩
  rw [hoptions]
  exact ⟨rfl, rfl⟩

/-- Options, and a command with its words. -/
theorem parse_main {options : List String} {p : Parsed} (hoptions : mainGrammar.OptionsOnly options p)
    {cmd : String} (hcmd : cmd ∈ commands)
    (hws : ∀ w ∈ ws, w ≠ "--" ∧ ∃ t, mainGrammar.classify w = .ok t) :
    mainGrammar.parse (options ++ cmd :: ws) = .ok { p with positional := some (cmd :: ws) } := by
  have hplain : Plain cmd := by
    have hcommands : ∀ c ∈ commands, c.toList.head? ≠ some '-' := by decide +kernel
    exact hcommands cmd hcmd
  obtain ⟨ts, hts, hwords⟩ := exists_classifyAll hws
  obtain ⟨us, hus, hconsume⟩ := hoptions.append (classifyAll_plain hplain hts)
  refine parse_eq_ok hus ?_ rfl
  rw [hconsume, consume_command rfl hcmd hoptions.bare.positional, hwords]

/-! ### Commands -/

/-- A command that is spelled in full, up to its seed. -/
inductive Order where
  | get
  | verify
  | request (path : String) (wait : Bool)

namespace Order

def name : Order → String
  | .get => "get"
  | .verify => "verify"
  | .request .. => "request"

/-- The words of the command, with the text of its seed. -/
def words (text : String) : Order → List String
  | .get => [text]
  | .verify => [text]
  | .request path wait => [keypairKey, path, seedKey, text] ++ if wait then [waitKey] else []

/-- What is to be done, for a seed. -/
def command (seed : Seed) : Order → Command
  | .get => .get seed
  | .verify => .verify seed
  | .request path wait => .request (some path) (.value seed) wait .absent

/-- No text in the command starts with a dash. -/
def Spoken : Order → Prop
  | .request path _ => Plain path
  | _ => True

theorem name_mem (o : Order) : o.name ∈ commands := by
  cases o <;> simp [name, commands]

/-- Before the command is read, none of its words means anything. -/
theorem words_mainGrammar {o : Order} (ho : o.Spoken) {text : String} (htext : Plain text) :
    ∀ w ∈ o.words text, w ≠ "--" ∧ ∃ t, mainGrammar.classify w = .ok t := by
  have hplain : ∀ {v}, Plain v → v ≠ "--" ∧ ∃ t, mainGrammar.classify v = .ok t :=
    fun hv => ⟨hv.ne_dashes, _, classify_of_plain hv⟩
  have hkey : ∀ k ∈ requestKeys, k ≠ "--" ∧ ∃ t, mainGrammar.classify k = .ok t := by
    have hkeys : ∀ k ∈ requestKeys, (mainGrammar.flag? k).isNone = true ∧
        (cutEquals k).2 = none ∧ (mainGrammar.candidates k).isEmpty = true := by decide +kernel
    intro k hk
    obtain ⟨hflag, hcut, hcandidates⟩ := hkeys k hk
    exact ⟨(keys_spec k (List.mem_append_right _ hk)).2.2,
      exists_classify (Option.isNone_iff_eq_none.1 hflag) hcut hcandidates⟩
  intro w hw
  cases o with
  | get => exact List.mem_singleton.1 hw ▸ hplain htext
  | verify => exact List.mem_singleton.1 hw ▸ hplain htext
  | request path wait =>
    rcases List.mem_append.1 hw with hw | hw
    · obtain rfl | rfl | rfl | rfl : w = keypairKey ∨ w = path ∨ w = seedKey ∨ w = text := by
        simpa using hw
      · exact hkey _ (by simp [requestKeys])
      · exact hplain ho
      · exact hkey _ (by simp [requestKeys])
      · exact hplain htext
    · obtain ⟨-, rfl⟩ : wait = true ∧ w = waitKey := by simpa using hw
      exact hkey _ (by simp [requestKeys])

end Order

/-! ### The words of a command -/

section Words

variable {text : String} {seed : Seed}

theorem seedComplaint_of_ok (h : Address.ofText text = .ok seed) : seedComplaint text = none := by
  simp [seedComplaint, h]

theorem seedComplaint_of_error (h : ∀ seed, Address.ofText text ≠ .ok seed) :
    seedComplaint text = some (badSeed text) := by
  unfold seedComplaint
  cases hread : Address.ofText text with
  | ok seed => exact absurd hread (h seed)
  | error e => rfl

/-- The words of a command that takes a seed only. -/
theorem consume_seed (name : String) (htext : Plain text) (p : Parsed) (hp : p.positional = none) :
    ∃ ts, (seedGrammar name).classifyAll [text] = .ok ts ∧
      (seedGrammar name).consume ts p = match seedComplaint text with
        | some c => (seedGrammar name).blame "seed" c
        | none => .ok { p with positional := some [text] } :=
  ⟨_, classifyAll_plain htext rfl, consume_positional rfl hp⟩

/-- The words of a request. -/
theorem consume_request {path : String} (hpath : Plain path) (htext : Plain text) (wait : Bool) :
    ∃ ts, requestGrammar.classifyAll ((Order.request path wait).words text) = .ok ts ∧
      requestGrammar.consume ts ⟨[], none, []⟩ = match seedComplaint text with
        | some c => requestGrammar.blame "--seed/-s" c
        | none => .ok ⟨(if wait then [(waitKey, none)] else []) ++
            [(seedKey, some text), (keypairKey, some path)], none, []⟩ := by
  have hkey : ∀ k ∈ requestKeys, k ∈ mainKeys ++ requestKeys := fun k => List.mem_append_right _
  have hwait : ∃ ts, requestGrammar.classifyAll (if wait then [waitKey] else []) = .ok ts ∧
      ∀ p : Parsed, requestGrammar.consume ts p =
        .ok { p with options := (if wait then [(waitKey, none)] else []) ++ p.options } := by
    cases wait with
    | false => exact ⟨[], rfl, consume_nil _⟩
    | true =>
      refine ⟨_, classifyAll_key (hkey waitKey (by simp [requestKeys])) rfl rfl, fun p => ?_⟩
      rw [consume_switch rfl rfl, consume_nil]
      rfl
  obtain ⟨ts, hts, hrest⟩ := hwait
  have hseed := classifyAll_key (g := requestGrammar) (hkey seedKey (by simp [requestKeys])) rfl
    (classifyAll_plain htext hts)
  refine ⟨_, classifyAll_key (hkey keypairKey (by simp [requestKeys])) rfl (classifyAll_plain hpath hseed), ?_⟩
  rw [consume_value rfl hpath.ne_dashes rfl]
  cases hcomplaint : seedComplaint text with
  | some c => exact consume_refused rfl htext.ne_dashes hcomplaint
  | none =>
    rw [consume_value rfl htext.ne_dashes hcomplaint, hrest]
    rfl

/-- A command with the text of a seed is what is to be done for this seed. -/
theorem readCommand_spelled {o : Order} (ho : o.Spoken) (htext : Plain text)
    (hseed : Address.ofText text = .ok seed) : readCommand o.name (o.words text) = .ok (o.command seed, []) := by
  have hcomplaint := seedComplaint_of_ok hseed
  have hread : ∀ g argument, readSeed g argument text = .ok seed := by simp [readSeed, hseed]
  have hsole : ∀ name, (seedGrammar name).parse [text] = .ok ⟨[], some [text], []⟩ := by
    intro name
    obtain ⟨ts, hts, hconsume⟩ := consume_seed name htext ⟨[], none, []⟩ rfl
    rw [hcomplaint] at hconsume
    exact parse_eq_ok hts hconsume rfl
  cases o with
  | get => exact bind_eq_ok.2 ⟨_, hsole _, bind_eq_ok.2 ⟨seed, hread _ _, rfl⟩⟩
  | verify => exact bind_eq_ok.2 ⟨_, hsole _, bind_eq_ok.2 ⟨seed, hread _ _, rfl⟩⟩
  | request path wait =>
    obtain ⟨ts, hts, hconsume⟩ := consume_request ho htext wait
    rw [hcomplaint] at hconsume
    have hgiven : (Given.value text).traverse (readSeed requestGrammar seedKey) = .ok (.value seed) :=
      bind_eq_ok.2 ⟨seed, hread _ _, rfl⟩
    cases wait with
    | false =>
      exact bind_eq_ok.2 ⟨_, parse_eq_ok hts hconsume rfl,
        bind_eq_ok.2 ⟨_, hgiven, bind_eq_ok.2 ⟨.absent, rfl, rfl⟩⟩⟩
    | true =>
      exact bind_eq_ok.2 ⟨_, parse_eq_ok hts hconsume rfl,
        bind_eq_ok.2 ⟨_, hgiven, bind_eq_ok.2 ⟨.absent, rfl, rfl⟩⟩⟩

/-- A command with a text that is no seed is a usage error. -/
theorem readCommand_refused {o : Order} (ho : o.Spoken) (htext : Plain text)
    (hseed : ∀ seed, Address.ofText text ≠ .ok seed) :
    ∃ program message, readCommand o.name (o.words text) = .error (.usage program message) := by
  have hcomplaint := seedComplaint_of_error hseed
  have hsole : ∀ name, name ≠ "request" →
      ∃ program message, readCommand name [text] = .error (.usage program message) := by
    intro name hname
    obtain ⟨ts, hts, hconsume⟩ := consume_seed name htext ⟨[], none, []⟩ rfl
    rw [hcomplaint] at hconsume
    obtain ⟨program, message, hparse⟩ : ∃ program message,
        (seedGrammar name).parse [text] = .error (.usage program message) :=
      ⟨_, _, parse_eq_error hts hconsume⟩
    exact ⟨program, message, by simp only [readCommand, if_neg hname, hparse, error_bind]⟩
  cases o with
  | get => exact hsole "get" (by decide)
  | verify => exact hsole "verify" (by decide)
  | request path wait =>
    obtain ⟨ts, hts, hconsume⟩ := consume_request ho htext wait
    rw [hcomplaint] at hconsume
    obtain ⟨program, message, hparse⟩ : ∃ program message,
        requestGrammar.parse ((Order.request path wait).words text) = .error (.usage program message) :=
      ⟨_, _, parse_eq_error hts hconsume⟩
    exact ⟨program, message, by simp only [Order.name, readCommand, if_pos, hparse, error_bind]⟩

end Words

/-! ### Whole command lines -/

/-- A command line: options in any spelling, a command, and the text of its seed. -/
structure Line where
  options : List String
  order : Order
  text : String

namespace Line

/-- Its words. -/
def argv (l : Line) : List String := l.options ++ l.order.name :: l.order.words l.text

/-- The options are options, and this is what they say. No text in the command starts with a dash. -/
structure Spoken (l : Line) (p : Parsed) : Prop where
  options : mainGrammar.OptionsOnly l.options p
  order : l.order.Spoken
  text : Plain l.text

variable {l : Line} {p : Parsed} (variableOf : String → Option String)

/-- The command line is read as it is meant. -/
theorem Spoken.read_eq (h : l.Spoken p) {seed : Seed} (hseed : Address.ofText l.text = .ok seed) :
    read variableOf l.argv = .ok (settingsOf variableOf p, l.order.command seed) := by
  have hparse := parse_main h.options l.order.name_mem (l.order.words_mainGrammar h.order h.text)
  refine bind_eq_ok.2 ⟨_, hparse, bind_eq_ok.2 ⟨_, readCommand_spelled h.order h.text hseed, ?_⟩⟩
  dsimp only
  rw [h.options.bare.leftOver]
  rfl

/-- A text that is no seed makes the command line a usage error. -/
theorem Spoken.read_eq_usage (h : l.Spoken p) (hseed : ∀ seed, Address.ofText l.text ≠ .ok seed) :
    ∃ program message, read variableOf l.argv = .error (.usage program message) := by
  have hparse := parse_main h.options l.order.name_mem (l.order.words_mainGrammar h.order h.text)
  obtain ⟨program, message, hcommand⟩ := readCommand_refused h.order h.text hseed
  refine ⟨program, message, ?_⟩
  simp only [read, argv, hparse, Option.getD_some, List.headD_cons, List.drop_one, List.tail_cons, hcommand,
    ok_bind, error_bind]

end Line

end VrfClient.CommandLine
