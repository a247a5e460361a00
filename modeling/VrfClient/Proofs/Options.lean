import VrfClient.CommandLine.Grammar
import VrfClient.Proofs.Fields

/-!
Options in front of other words. An option takes its value from words that are there, so it is read alike whatever
follows (`takeFlag_spec`); and a word that is no option leaves a trace that no later step takes away. So where no
trace is left in the end (`Bare`), every step took an option, and the words in front are read first and on their
own (`consume_append`). -/

namespace VrfClient.CommandLine.Grammar

variable {g : Grammar} {p p' : Parsed} {w name : String} {f : Flag} {t : Token} {attached : Option String}
  {n : Nat} {ts us rest : List (String × Token)} {ws : List String}

/-! ### One option -/

/-- Options were recorded, and nothing else. -/
def Records (p p' : Parsed) : Prop := p'.positional = p.positional ∧ p'.leftOver = p.leftOver

theorem Records.trans {p'' : Parsed} (h : Records p p') (h' : Records p' p'') : Records p p'' :=
  ⟨h'.1.trans h.1, h'.2.trans h.2⟩

theorem records_switch (h : switch f p = .ok p') : Records p p' := by
  unfold switch at h
  split at h
  · cases h
  · obtain rfl := Except.ok.inj h
    exact ⟨rfl, rfl⟩

theorem records_switches : ∀ {fs : List Flag} {p : Parsed},
    fs.foldlM (fun p f => switch f p) p = .ok p' → Records p p'
  | [], _, h => by
    obtain rfl := Except.ok.inj h
    exact ⟨rfl, rfl⟩
  | f :: fs, _, h => by
    obtain ⟨q, hswitch, hrest⟩ := bind_eq_ok.1 h
    exact (records_switch hswitch).trans (records_switches hrest)

theorem records_assign {v : String} (h : g.assign f v p = .ok p') : Records p p' := by
  unfold assign at h
  split at h
  · obtain rfl := Except.ok.inj h
    exact ⟨rfl, rfl⟩
  · split at h
    · cases h
    · obtain rfl := Except.ok.inj h
      exact ⟨rfl, rfl⟩

/-- The second half of taking an option: what stands at the end of its word takes its value, if it takes one,
from what is attached or from the word behind. -/
def settle (g : Grammar) (rest : List (String × Token)) (p : Parsed) :
    List Flag × Flag × Option String → Except Stop (Nat × Parsed)
  | (before, last, attached) =>
    let switches := before.foldlM (fun p f => switch f p) p
    match attached, last.takesValue, rest with
    | some v, _, _ => do return (0, ← g.assign last v (← switches))
    | none, true, (v, .word) :: _ => do return (1, ← g.assign last v (← switches))
    | none, true, _ => g.blame last.shown "expected one argument"
    | none, false, _ => do return (0, ← switch last (← switches))

theorem takeFlag_eq : g.takeFlag f name attached rest p =
    (match attached with
      | some text => g.unchain f name text.toList
      | none => .ok ([], f, none)) >>= g.settle rest p := by
  cases attached <;> rfl

/-- An option is settled with words that are there, and alike if more follow. -/
theorem settle_spec (us : List (String × Token)) {x : List Flag × Flag × Option String}
    (h : g.settle rest p x = .ok (n, p')) :
    Records p p' ∧ n ≤ rest.length ∧ (∀ y ∈ rest.take n, y.2 = .word) ∧
      g.settle (rest ++ us) p x = .ok (n, p') := by
  obtain ⟨before, last, attached⟩ := x
  unfold settle at h ⊢
  dsimp only at h ⊢
  split at h
  · obtain ⟨q, hswitches, hafter⟩ := bind_eq_ok.1 h
    obtain ⟨q', hassign, hdone⟩ := bind_eq_ok.1 hafter
    obtain ⟨rfl, rfl⟩ := Prod.mk.inj (Except.ok.inj hdone)
    exact ⟨(records_switches hswitches).trans (records_assign hassign), Nat.zero_le _, by simp, h⟩
  · rename_i htakes
    obtain ⟨q, hswitches, hafter⟩ := bind_eq_ok.1 h
    obtain ⟨q', hassign, hdone⟩ := bind_eq_ok.1 hafter
    obtain ⟨rfl, rfl⟩ := Prod.mk.inj (Except.ok.inj hdone)
    refine ⟨(records_switches hswitches).trans (records_assign hassign), by simp, by simp, ?_⟩
    simp only [htakes, List.cons_append]
    exact h
  · cases h
  · rename_i htakes
    obtain ⟨q, hswitches, hafter⟩ := bind_eq_ok.1 h
    obtain ⟨q', hswitch, hdone⟩ := bind_eq_ok.1 hafter
    obtain ⟨rfl, rfl⟩ := Prod.mk.inj (Except.ok.inj hdone)
    refine ⟨(records_switches hswitches).trans (records_switch hswitch), Nat.zero_le _, by simp, ?_⟩
    simp only [htakes]
    exact h

/-- An option is taken with words that are there, and alike if more follow. -/
theorem takeFlag_spec (us : List (String × Token)) (h : g.takeFlag f name attached rest p = .ok (n, p')) :
    Records p p' ∧ n ≤ rest.length ∧ (∀ x ∈ rest.take n, x.2 = .word) ∧
      g.takeFlag f name attached (rest ++ us) p = .ok (n, p') := by
  rw [takeFlag_eq] at h ⊢
  obtain ⟨x, hfirst, hsettle⟩ := bind_eq_ok.1 h
  obtain ⟨hrecords, hn, hwords, hmore⟩ := settle_spec us hsettle
  exact ⟨hrecords, hn, hwords, bind_eq_ok.2 ⟨x, hfirst, hmore⟩⟩

/-! ### Words that are no options -/

/-- No positional word was read so far, and no word is left over. -/
structure Bare (p : Parsed) : Prop where
  positional : p.positional = none
  leftOver : p.leftOver = []

theorem Records.bare (h : Records p p') (hbare : Bare p') : Bare p :=
  ⟨h.1 ▸ hbare.positional, h.2 ▸ hbare.leftOver⟩

theorem not_bare_leave : ¬ Bare (leave w p) := fun h => by
  simpa [leave] using h.leftOver

theorem not_bare_place (h : g.place ws p = .ok p') : ¬ Bare p' := by
  unfold place at h
  dsimp only at h
  split at h
  · cases h
  · obtain rfl := Except.ok.inj h
    exact fun hbare => by simpa using hbare.positional

/-- A word that is no option leaves its trace. -/
theorem not_bare_takePositional {isDashes : Bool} (h : g.takePositional w isDashes rest p = .ok (n, p')) :
    ¬ Bare p' := by
  unfold takePositional at h
  split at h
  all_goals first
    | (obtain ⟨q, hplace, hdone⟩ := bind_eq_ok.1 h
       obtain ⟨rfl, rfl⟩ := Prod.mk.inj (Except.ok.inj hdone)
       exact not_bare_place hplace)
    | (obtain ⟨rfl, rfl⟩ := Prod.mk.inj (Except.ok.inj h)
       exact not_bare_leave)

/-- Where no trace is left, an option was taken, with words that are there, and alike if more follow. -/
theorem take_append (us : List (String × Token)) (h : g.take w t rest p = .ok (n, p')) (hbare : Bare p') :
    Bare p ∧ t ≠ .dashes ∧ n ≤ rest.length ∧ (∀ x ∈ rest.take n, x.2 = .word) ∧
      g.take w t (rest ++ us) p = .ok (n, p') := by
  cases t with
  | unknown =>
    obtain ⟨rfl, rfl⟩ := Prod.mk.inj (Except.ok.inj h)
    exact absurd hbare not_bare_leave
  | word => exact absurd hbare (not_bare_takePositional h)
  | dashes => exact absurd hbare (not_bare_takePositional h)
  | flag f name attached =>
    obtain ⟨hrecords, hn, hwords, hmore⟩ := takeFlag_spec us h
    exact ⟨hrecords.bare hbare, by simp, hn, hwords, hmore⟩

/-! ### Options in front -/

/-- Options in front are read on their own. By induction on the words, with the remaining ones after a step that
takes several. -/
theorem consume_append (us : List (String × Token)) : ∀ {ts : List (String × Token)} {p : Parsed},
    g.consume ts p = .ok p' → Bare p' →
      Bare p ∧ (∀ x ∈ ts, x.2 ≠ .dashes) ∧ g.consume (ts ++ us) p = g.consume us p'
  | [], p, h, hbare => by
    rw [consume] at h
    obtain rfl := Except.ok.inj h
    exact ⟨hbare, by simp, rfl⟩
  | (w, t) :: rest, p, h, hbare => by
    rw [consume] at h
    obtain ⟨⟨n, q⟩, htake, hrest⟩ := bind_eq_ok.1 h
    obtain ⟨hq, hdashes, hmore⟩ := consume_append us hrest hbare
    obtain ⟨hp, ht, hn, hwords, htake'⟩ := take_append us htake hq
    refine ⟨hp, List.forall_mem_cons.2 ⟨ht, fun x hx => ?_⟩, ?_⟩
    · rw [← List.take_append_drop n rest] at hx
      rcases List.mem_append.1 hx with hx | hx
      · simp [hwords x hx]
      · exact hdashes x hx
    · rw [List.cons_append, consume, htake', ok_bind]
      dsimp only
      rw [List.drop_append_of_le_length hn, hmore]
termination_by ts => ts.length
decreasing_by
  simp only [List.length_drop, List.length_cons]
  omega

/-- Words in front without a double dash among them are classified on their own. -/
theorem classifyAll_append : ∀ {vs : List String} {ts : List (String × Token)},
    g.classifyAll vs = .ok ts → (∀ x ∈ ts, x.2 ≠ .dashes) → ∀ {us : List (String × Token)},
      g.classifyAll ws = .ok us → g.classifyAll (vs ++ ws) = .ok (ts ++ us)
  | [], ts, h, _, us, hus => by
    obtain rfl := Except.ok.inj h
    exact hus
  | v :: vs, ts, h, hdashes, us, hus => by
    by_cases hv : v = "--"
    · subst hv
      obtain rfl := Except.ok.inj h
      exact absurd rfl (hdashes _ (List.mem_cons_self ..))
    · rw [classifyAll.eq_3 g v vs hv] at h
      obtain ⟨t, ht, h⟩ := bind_eq_ok.1 h
      obtain ⟨rest, hrest, h⟩ := bind_eq_ok.1 h
      obtain rfl := Except.ok.inj h
      have hmore := classifyAll_append hrest (fun x hx => hdashes x (List.mem_cons_of_mem _ hx)) hus
      rw [List.cons_append, classifyAll.eq_3 g v (vs ++ ws) hv]
      exact bind_eq_ok.2 ⟨t, ht, bind_eq_ok.2 ⟨rest ++ us, hmore, rfl⟩⟩

/-- The words are options only, and this is what they say. -/
structure OptionsOnly (g : Grammar) (words : List String) (p : Parsed) : Prop where
  read : ∃ ts, g.classifyAll words = .ok ts ∧ g.consume ts ⟨[], none, []⟩ = .ok p
  bare : Bare p

/-- Words behind options are read from where the options have left off. -/
theorem OptionsOnly.append {vs : List String} (h : g.OptionsOnly vs p) (hus : g.classifyAll ws = .ok us) :
    ∃ ts, g.classifyAll (vs ++ ws) = .ok ts ∧ g.consume ts ⟨[], none, []⟩ = g.consume us p := by
  obtain ⟨ts, hts, hconsume⟩ := h.read
  obtain ⟨-, hdashes, hmore⟩ := consume_append us hconsume h.bare
  exact ⟨ts ++ us, classifyAll_append hts hdashes hus, hmore⟩

end VrfClient.CommandLine.Grammar
