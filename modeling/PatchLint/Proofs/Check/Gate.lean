import PatchLint.Check.Probe

/-!
# What passes the gate

A list of scopes is *vetted* when of each of them, in order, the exclude patterns
can be read and the checker leaves a summary when it is probed.  A gate without
a failure has vetted all its scopes (`vetted_of_gate`), so all exclude patterns
of a snapshot that passed can be read (`Vetted.readable`).

A gate that a scope fails has vetted the scopes in front of it and started
nothing behind it.  `Gated` says of both ends of a gate which programs were
started; a host with a memory shows that there are no others (`gate_recorded`).
-/

namespace PatchLint

variable {σ : Type}

/-- The scopes all pass on a host, which goes from one state to another. -/
inductive Vetted (host : Host σ) (s : Snapshot) : σ → List Scope → σ → Prop where
  | nil {state} : Vetted host s state [] state
  | cons {state probed final scope rest exclusion output summary} :
      Exclusion.ofPatterns (s.resolveScope scope).config.exclude = .ok exclusion →
      host.start (probeLaunch (s.resolveScope scope).config.executable
        (s.resolveScope scope).config.args (s.resolveScope scope).cwd) state =
          (.ok output, probed) →
      Summary.find? output.outText = some summary →
      Vetted host s probed rest final → Vetted host s state (scope :: rest) final

/-- The exclude patterns of vetted scopes can be read. -/
theorem Vetted.readable {host : Host σ} {s : Snapshot} {scopes : List Scope} {first last : σ}
    (h : Vetted host s first scopes last) {scope : Scope} (mem : scope ∈ scopes) :
    ∃ exclusion, Exclusion.ofPatterns (s.resolveScope scope).config.exclude = .ok exclusion := by
  induction h with
  | nil => cases mem
  | cons readable _ _ _ ih =>
    rcases List.mem_cons.1 mem with rfl | mem
    · exact ⟨_, readable⟩
    · exact ih mem

/-- A probe that shows a summary ran a checker that printed it. -/
theorem probed_eq_ok {executable : Path} {result : Except HostFault Output} {summary : Summary}
    (h : probed executable result = .ok summary) :
    ∃ output, result = .ok output ∧ Summary.find? output.outText = some summary := by
  cases result with
  | error fault => cases h
  | ok output =>
    simp only [probed] at h
    split at h
    · next found => exact ⟨output, rfl, by simpa [found] using h⟩
    · cases h

/-- A probe starts the checker once and leaves the host as the checker does. -/
theorem probeScope_run (host : Host σ) (scope : Scope) (r : Resolved) (scene : Scene σ) :
    let started := host.start (probeLaunch r.config.executable r.config.args r.cwd) scene.host
    ((probeScope host scope r).run scene).1 = probed r.config.executable started.1 ∧
      ((probeScope host scope r).run scene).2.host = started.2 := by
  intro started
  simp only [probeScope, probe, Work.run_bind, Work.run_say, Work.run_start, Work.run_pure]
  cases probed r.config.executable started.1 with
  | ok summary => exact ⟨rfl, rfl⟩
  | error fault => exact ⟨rfl, rfl⟩

/-- A scope that passes has exclude patterns that can be read and a checker that
prints a summary. -/
theorem validate_eq_ok {host : Host σ} {scope : Scope} {r : Resolved} {scene : Scene σ}
    {summary : Summary} (h : ((validate host scope r).run scene).1 = .ok summary) :
    ∃ exclusion output, Exclusion.ofPatterns r.config.exclude = .ok exclusion ∧
      host.start (probeLaunch r.config.executable r.config.args r.cwd) scene.host =
        (.ok output, ((validate host scope r).run scene).2.host) ∧
      Summary.find? output.outText = some summary := by
  cases patterns : Exclusion.ofPatterns r.config.exclude with
  | error fault =>
    simp [validate, patterns] at h
  | ok exclusion =>
    simp only [validate, patterns, Work.run_bind, Work.run_say] at h ⊢
    obtain ⟨result, state⟩ := probeScope_run host scope r
      { scene with log := scene.log ++ [r.report ("Load " ++ scope.description)] }
    rw [result] at h
    obtain ⟨output, started, found⟩ := probed_eq_ok h
    refine ⟨exclusion, output, rfl, ?_, found⟩
    rw [state, ← started]

/-- A gate that no scope fails has vetted them all. -/
theorem vetted_of_gate {host : Host σ} {s : Snapshot} {scopes : List Scope} {scene : Scene σ}
    (h : ((gate host s scopes).run scene).1.2 = none) :
    Vetted host s scene.host scopes ((gate host s scopes).run scene).2.host := by
  induction scopes generalizing scene with
  | nil => exact .nil
  | cons scope rest ih =>
    simp only [gate, Work.run_bind] at h ⊢
    cases result : ((validate host scope (s.resolveScope scope)).run scene).1 with
    | error fault => simp [result] at h
    | ok summary =>
      simp only [result, Work.run_bind] at h ⊢
      obtain ⟨exclusion, output, readable, started, found⟩ := validate_eq_ok result
      exact .cons readable started found (ih h)

/-! ## What a gate starts -/

/-- What is started to probe the checker of a scope. -/
def Snapshot.probeOf (s : Snapshot) (scope : Scope) : Launch :=
  let r := s.resolveScope scope
  probeLaunch r.config.executable r.config.args r.cwd

/-- A scope fails on a host.  Either its exclude patterns are at fault and nothing
is started, or they can be read and the probe of its checker fails. -/
inductive Fails (host : Host σ) (s : Snapshot) (scope : Scope) :
    σ → ConfigFault → List Launch → σ → Prop where
  | patterns {state fault} :
      Exclusion.ofPatterns (s.resolveScope scope).config.exclude = .error fault →
      Fails host s scope state (.pattern fault) [] state
  | probe {state exclusion result final fault} :
      Exclusion.ofPatterns (s.resolveScope scope).config.exclude = .ok exclusion →
      host.start (s.probeOf scope) state = (result, final) →
      probed (s.resolveScope scope).config.executable result = .error fault →
      Fails host s scope state fault [s.probeOf scope] final

/-- How a gate ends: it has vetted all its scopes, or those in front of the first
that fails.  It has started the probes of the vetted scopes in order, and what
the failing one has started, and nothing else. -/
inductive Gated (host : Host σ) (s : Snapshot) (first : σ) (scopes : List Scope) :
    Option (Scope × ConfigFault) → List Launch → σ → Prop where
  | passed {last} : Vetted host s first scopes last →
      Gated host s first scopes none (scopes.map s.probeOf) last
  | failed {before scope after middle fault started last} :
      scopes = before ++ scope :: after → Vetted host s first before middle →
      Fails host s scope middle fault started last →
      Gated host s first scopes (some (scope, fault)) (before.map s.probeOf ++ started) last

/-- A scope that passes in front of the others is started before them. -/
theorem Gated.cons {host : Host σ} {s : Snapshot} {first middle last : σ} {scope : Scope}
    {rest : List Scope} {failed : Option (Scope × ConfigFault)} {started : List Launch}
    {exclusion : Exclusion} {output : Output} {summary : Summary}
    (readable : Exclusion.ofPatterns (s.resolveScope scope).config.exclude = .ok exclusion)
    (runs : host.start (s.probeOf scope) first = (.ok output, middle))
    (found : Summary.find? output.outText = some summary)
    (h : Gated host s middle rest failed started last) :
    Gated host s first (scope :: rest) failed (s.probeOf scope :: started) last := by
  cases h with
  | passed vetted => exact .passed (.cons readable runs found vetted)
  | failed split vetted fails =>
    subst split
    exact .failed rfl (.cons readable runs found vetted) fails

/-- At most one probe is started for a scope. -/
theorem Gated.started_prefix {host : Host σ} {s : Snapshot} {scopes : List Scope} {first last : σ}
    {failed : Option (Scope × ConfigFault)} {started : List Launch}
    (h : Gated host s first scopes failed started last) : started <+: scopes.map s.probeOf := by
  cases h with
  | passed => exact List.prefix_refl _
  | failed split _ fails =>
    rw [split, List.map_append, List.map_cons]
    refine (List.prefix_append_right_inj _).2 ?_
    cases fails with
    | patterns => exact List.nil_prefix
    | probe => exact ⟨_, rfl⟩

/-! ## A gate on a host with a memory -/

/-- A host with a memory starts what it is asked to, and adds it to the memory. -/
theorem Host.recorded_start (host : Host σ) (l : Launch) (state : σ × List Launch) :
    host.recorded.start l state =
      ((host.start l state.1).1, ((host.start l state.1).2, state.2 ++ [l])) := rfl

/-- A scope is validated by at most one start, the one of its probe. -/
theorem validate_recorded (host : Host σ) (s : Snapshot) (scope : Scope)
    (scene : Scene (σ × List Launch)) :
    let r := (validate host.recorded scope (s.resolveScope scope)).run scene
    (∃ summary exclusion output, r.1 = .ok summary ∧
      Exclusion.ofPatterns (s.resolveScope scope).config.exclude = .ok exclusion ∧
      host.start (s.probeOf scope) scene.host.1 = (.ok output, r.2.host.1) ∧
      Summary.find? output.outText = some summary ∧
      r.2.host.2 = scene.host.2 ++ [s.probeOf scope]) ∨
    ∃ fault started, r.1 = .error fault ∧
      Fails host s scope scene.host.1 fault started r.2.host.1 ∧
      r.2.host.2 = scene.host.2 ++ started := by
  intro r
  cases patterns : Exclusion.ofPatterns (s.resolveScope scope).config.exclude with
  | error fault =>
    simp only [r, validate, patterns, Work.run_bind, Work.run_say, Work.run_pure]
    exact .inr ⟨.pattern fault, [], rfl, .patterns patterns, (List.append_nil _).symm⟩
  | ok exclusion =>
    have probe := probeScope_run host.recorded scope (s.resolveScope scope)
      { scene with
        log := scene.log ++ [(s.resolveScope scope).report ("Load " ++ scope.description)] }
    have same : r = (probeScope host.recorded scope (s.resolveScope scope)).run
        { scene with
          log := scene.log ++ [(s.resolveScope scope).report ("Load " ++ scope.description)] } := by
      simp only [r, validate, patterns, Work.run_bind, Work.run_say]
    rw [← same, Host.recorded_start] at probe
    obtain ⟨result, state⟩ := probe
    have runs : host.start (s.probeOf scope) scene.host.1 =
        ((host.start (s.probeOf scope) scene.host.1).1, r.2.host.1) := by rw [state]; rfl
    cases shown : probed (s.resolveScope scope).config.executable
        (host.start (s.probeOf scope) scene.host.1).1 with
    | ok summary =>
      obtain ⟨output, started, found⟩ := probed_eq_ok shown
      rw [started] at runs
      exact .inl ⟨summary, exclusion, output, result.trans shown, rfl, runs, found,
        congrArg Prod.snd state⟩
    | error fault =>
      exact .inr ⟨fault, [s.probeOf scope], result.trans shown, .probe patterns runs shown,
        congrArg Prod.snd state⟩

/-- What a gate adds to the memory of its host is what it has started. -/
theorem gate_recorded (host : Host σ) (s : Snapshot) (scopes : List Scope)
    (scene : Scene (σ × List Launch)) :
    let r := (gate host.recorded s scopes).run scene
    ∃ started, r.2.host.2 = scene.host.2 ++ started ∧
      Gated host s scene.host.1 scopes r.1.2 started r.2.host.1 := by
  induction scopes generalizing scene with
  | nil => exact ⟨[], (List.append_nil _).symm, .passed .nil⟩
  | cons scope rest ih =>
    simp only [gate, Work.run_bind]
    rcases validate_recorded host s scope scene with
      ⟨summary, exclusion, output, result, readable, runs, found, memory⟩ |
      ⟨fault, started, result, fails, memory⟩
    · simp only [result, Work.run_bind, Work.run_pure]
      obtain ⟨started, more, gated⟩ :=
        ih ((validate host.recorded scope (s.resolveScope scope)).run scene).2
      refine ⟨s.probeOf scope :: started, ?_, gated.cons readable runs found⟩
      rw [more, memory, List.append_assoc, List.singleton_append]
    · simp only [result, Work.run_pure]
      have split : scope :: rest = [] ++ scope :: rest := rfl
      exact ⟨started, memory, .failed split .nil fails⟩

end PatchLint
