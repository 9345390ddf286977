import Mathlib.Data.List.Induction
import PatchLint.Proofs.Check.Gate
import PatchLint.Proofs.Config.Scopes
import PatchLint.Proofs.Session.Effects

/-!
# Configurations in use

A session becomes configured in one way: a reload takes over settings and
folders, and all their scopes are vetted (`Course.adopts_step`).  Nothing that
happens between two reloads touches the scopes (`Course.Effect.trusts`), so
whatever a configured session checks, it checks with the configuration of a
scope that the last reload has vetted, and one that is not configured starts
nothing (`Course.uses_vetted`).
-/

namespace PatchLint

variable {σ : Type}

namespace Course

/-! ## The last reload -/

/-- The last of some operations that took over settings took over these.  It
found one course and left another. -/
def TookOver (host : Host σ) (first : Course σ) (os : List (Operation σ)) (settings : Settings)
    (folders : List WorkspaceFolder) (found left : Course σ) : Prop :=
  ∃ before o after, os = before ++ o :: after ∧ found = first.run host before ∧
    found.Adopts settings folders o ∧ left = (found.step host o).2 ∧
    ∀ m ∈ left.history host after, ∀ st fs, ¬ m.1.Adopts st fs m.2

theorem TookOver.now {host : Host σ} {first : Course σ} {os : List (Operation σ)}
    {o : Operation σ} {settings : Settings} {folders : List WorkspaceFolder}
    (adopts : (first.run host os).Adopts settings folders o) :
    TookOver host first (os ++ [o]) settings folders (first.run host os)
      ((first.run host os).step host o).2 :=
  ⟨os, o, [], rfl, rfl, adopts, rfl, by simp [history]⟩

theorem TookOver.concat {host : Host σ} {first : Course σ} {os : List (Operation σ)}
    {settings : Settings} {folders : List WorkspaceFolder} {found left : Course σ}
    (h : TookOver host first os settings folders found left) {o : Operation σ}
    (keeps : ∀ st fs, ¬ (first.run host os).Adopts st fs o) :
    TookOver host first (os ++ [o]) settings folders found left := by
  obtain ⟨before, taking, after, rfl, rfl, adopts, rfl, since⟩ := h
  refine ⟨before, taking, after ++ [o], by simp, rfl, adopts, rfl, ?_⟩
  intro m hm
  rw [history_append] at hm
  rcases List.mem_append.1 hm with earlier | now
  · exact since m earlier
  · obtain rfl := List.mem_singleton.1 now
    rw [run_append] at keeps
    exact keeps

/-! ## Becoming configured -/

/-- A reload that succeeds has vetted every scope of what it was given. -/
theorem vetted_of_reload {host : Host σ} {s : Session} {settings : Settings}
    {folders : List WorkspaceFolder} {scene : Scene σ}
    (h : ((s.reload host settings folders).run scene).1.1.isOk) :
    let snapshot := Snapshot.build settings folders
    Vetted host snapshot scene.host snapshot.scopes
      ((s.reload host settings folders).run scene).2.host := by
  intro snapshot
  rw [Session.reload_eq_settle] at h ⊢
  obtain ⟨result, state⟩ := Session.settle_run host snapshot (s.adopt settings folders)
    { scene with log := scene.log ++ Snapshot.buildLog settings folders }
  rw [result] at h
  rw [state]
  split at h
  · cases h
  · next passed => exact vetted_of_gate passed

/-- An operation that takes over settings leaves a session that has them, and that
is configured only if all their scopes were vetted. -/
theorem adopts_step (host : Host σ) {c : Course σ} {o : Operation σ} {settings : Settings}
    {folders : List WorkspaceFolder} (adopts : c.Adopts settings folders o) :
    let snapshot := Snapshot.build settings folders
    let after := (c.step host o).2
    after.session.snapshot = snapshot ∧
      (after.session.configured = true →
        Vetted host snapshot c.scene.host snapshot.scopes after.scene.host) := by
  intro snapshot after
  have reloaded : ∀ {scene' : Scene σ} {s' : Session},
      s' = ((c.session.reload host settings folders).run c.scene).1.2 →
      scene'.host = ((c.session.reload host settings folders).run c.scene).2.host →
      s'.snapshot = snapshot ∧ (s'.configured = true →
        Vetted host snapshot c.scene.host snapshot.scopes scene'.host) := by
    rintro scene' s' rfl same
    rw [Session.reload_run, same]
    exact ⟨rfl, vetted_of_reload⟩
  cases o with
  | reload st fs =>
    obtain ⟨rfl, rfl⟩ := adopts
    exact reloaded rfl rfl
  | ensure =>
    obtain ⟨session, -, state⟩ := Session.ensure_again host adopts.1 adopts.2 c.scene
    exact reloaded session state
  | _ => exact adopts.elim

/-! ## Staying configured -/

/-- A session that is configured after an operation has just taken over settings,
or it was configured before and has the same scopes. -/
theorem Effect.trusts {c : Course σ} {o : Operation σ} {reply : Reply} {s : Session}
    {running : List Running} (effect : Effect c o reply s running)
    (configured : s.configured = true) :
    (∃ settings folders, c.Adopts settings folders o) ∨
      (∀ settings folders, ¬ c.Adopts settings folders o) ∧ c.session.configured = true ∧
        ∃ mode, s.snapshot = c.session.snapshot.withRunMode mode := by
  by_cases renews : c.Renews o
  · rcases renews.adopts_or_dispose with adopts | rfl
    · exact .inl adopts
    · cases effect with
      | idle within _ _ => exact absurd renews within
      | adopted _ adopts => exact adopts.elim
      | disposed => cases configured
  · obtain ⟨-, before, mode⟩ := effect.within renews
    exact .inr ⟨fun _ _ adopts => renews adopts.renews, before configured, mode⟩

/-- A configured session has the scopes of the last reload, which were all
vetted. -/
theorem vetted_of_configured (host : Host σ) (state : σ) (layout? : Option Layout)
    {os : List (Operation σ)}
    (configured : ((new state layout?).run host os).session.configured = true) :
    ∃ settings folders found left mode,
      TookOver host (new state layout?) os settings folders found left ∧
      Vetted host (Snapshot.build settings folders) found.scene.host
        (Snapshot.build settings folders).scopes left.scene.host ∧
      ((new state layout?).run host os).session.snapshot =
        (Snapshot.build settings folders).withRunMode mode := by
  -- What was vetted is looked up at the last operation that took over settings,
  -- so the operations are gone through from the last one back.
  induction os using List.reverseRecOn with
  | nil => cases configured
  | append_singleton os o ih =>
    rw [run_concat] at configured ⊢
    rcases (effect_step host _ o).trusts configured with ⟨settings, folders, adopts⟩ | kept
    · obtain ⟨snapshot, vetted⟩ := adopts_step host adopts
      exact ⟨settings, folders, _, _, _, .now adopts, vetted configured, snapshot⟩
    · obtain ⟨keeps, before, mode, snapshot⟩ := kept
      obtain ⟨settings, folders, found, left, _, took, vetted, same⟩ := ih before
      refine ⟨settings, folders, found, left, mode, took.concat keeps, vetted, ?_⟩
      rw [snapshot, same, Snapshot.withRunMode_withRunMode]

/-! ## Starting checks -/

/-- A session that is not configured starts nothing, and is left as it is. -/
theorem start_of_not_configured (host : Host σ) {c : Course σ}
    (h : c.session.configured = false) (t : Target) :
    c.step host (.start t) = (.started (.ended (.error .notConfigured)), c) := by
  have prepared : c.session.prepare t = .error (.error .notConfigured) := by
    simp [Session.prepare, h]
  have silent : c.session.prepareLog t = [] := by simp [Session.prepareLog, h]
  rw [step_start, start_refused host prepared, silent]
  simp [say]

/-- A check that was asked for starts at most one program, which is the checker of
its configuration; the check that runs from then on has that configuration. -/
theorem start_uses (host : Host σ) (c : Course σ) (t : Target) :
    let after := (c.step host (.start t)).2
    (after.scene.host = c.scene.host ∨
      after.scene.host = (host.start ((c.session.resolve t).launch t) c.scene.host).2) ∧
    ∀ check, (c.step host (.start t)).1 = .started (.running check) →
      check.target = t ∧ check.resolved = c.session.resolve t := by
  rw [step_start]
  cases prepared : c.session.prepare t with
  | error result =>
    rw [start_refused host prepared]
    refine ⟨.inl rfl, ?_⟩
    intro check h
    cases h
  | ok p =>
    obtain ⟨-, rfl⟩ := Session.prepare_eq_ok prepared
    rw [start_prepared host prepared]
    rcases spawn_cases host ((c.withSession (c.session.drop t)).say (c.session.prepareLog t))
      (c.session.plan t) with ⟨output, state, launched, spawned⟩ | ⟨fault, state, log, launched, spawned⟩
    · rw [spawned]
      refine ⟨.inr (congrArg Prod.snd launched).symm, ?_⟩
      rintro check ⟨⟩
      simp [Session.plan]
    · rw [spawned]
      refine ⟨.inr (congrArg Prod.snd launched).symm, ?_⟩
      intro check h
      cases h

/-- A fault of the configuration is found when a check is prepared. -/
theorem prepare_of_start_config {host : Host σ} {c : Course σ} {t : Target} {fault : ConfigFault}
    (h : (c.step host (.start t)).1 = .started (.ended (.error (.config fault)))) :
    c.session.prepare t = .error (.error (.config fault)) := by
  rw [step_start] at h
  cases prepared : c.session.prepare t with
  | error result =>
    rw [start_refused host prepared] at h
    cases h
    rfl
  | ok p =>
    rw [start_prepared host prepared] at h
    rcases spawn_cases host ((c.withSession (c.session.drop t)).say (c.session.prepareLog t)) p with
      ⟨output, state, -, spawned⟩ | ⟨fault, state, log, -, spawned⟩
    · rw [spawned] at h
      cases h
    · rw [spawned] at h
      cases h

end Course

/-- Every target is checked with the configuration of a scope. -/
theorem Session.resolve_eq_scope (s : Session) (t : Target) :
    ∃ scope ∈ s.snapshot.scopes, s.resolve t = s.snapshot.resolveScope scope := by
  cases t with
  | file path => exact s.snapshot.resolveFile_eq_scope path
  | commit repository hash => exact s.snapshot.resolveRepository_eq_scope repository

/-- If the exclude patterns of every scope can be read, it is known of every target
whether it is excluded. -/
theorem Session.isExcluded_eq_ok {s : Session}
    (readable : ∀ scope ∈ s.snapshot.scopes, ∃ exclusion,
      Exclusion.ofPatterns (s.snapshot.resolveScope scope).config.exclude = .ok exclusion)
    (t : Target) : ∃ excluded, s.isExcluded t = .ok excluded := by
  cases t with
  | file path =>
    obtain ⟨scope, mem, same⟩ := s.resolve_eq_scope (.file path)
    obtain ⟨exclusion, read⟩ := readable scope mem
    exact ⟨exclusion.excludes path, by simp [isExcluded, same, read, Except.map]⟩
  | commit repository hash => exact ⟨false, rfl⟩

/-- The exclude patterns of a target are at fault only if those of a scope are. -/
theorem Session.prepare_ne_config {s : Session}
    (readable : ∀ scope ∈ s.snapshot.scopes, ∃ exclusion,
      Exclusion.ofPatterns (s.snapshot.resolveScope scope).config.exclude = .ok exclusion)
    (t : Target) (fault : ConfigFault) : s.prepare t ≠ .error (.error (.config fault)) := by
  obtain ⟨excluded, known⟩ := isExcluded_eq_ok readable t
  unfold prepare
  rw [known]
  cases s.configured <;> cases excluded <;> nofun

namespace Course

/-- In a configured session it is known of every target whether it is excluded. -/
theorem exists_isExcluded (host : Host σ) (state : σ) (layout? : Option Layout)
    (os : List (Operation σ)) (t : Target) :
    let s := ((new state layout?).run host os).session
    s.configured = true → ∃ excluded, s.isExcluded t = .ok excluded := by
  intro s configured
  obtain ⟨settings, folders, found, left, mode, -, vetted, snapshot⟩ :=
    vetted_of_configured host state layout? configured
  refine Session.isExcluded_eq_ok ?_ t
  intro scope mem
  rw [snapshot] at mem ⊢
  rw [Snapshot.resolveScope_withRunMode]
  exact vetted.readable mem

/-- Only what a reload has vetted is used.  A session that is not configured
starts nothing.  In a configured one every target has the configuration of a
scope that was vetted, with all the others, when settings were taken over last;
asking for a check of the target starts nothing but the checker of that scope,
and never ends with a fault of the configuration. -/
theorem uses_vetted (host : Host σ) (state : σ) (layout? : Option Layout)
    (os : List (Operation σ)) :
    let c := (new state layout?).run host os
    (c.session.configured = false →
      ∀ t, c.step host (.start t) = (.started (.ended (.error .notConfigured)), c)) ∧
    (c.session.configured = true → ∃ settings folders found left,
      TookOver host (new state layout?) os settings folders found left ∧
      let s := Snapshot.build settings folders
      Vetted host s found.scene.host s.scopes left.scene.host ∧
      ∀ t, ∃ scope ∈ s.scopes, c.session.resolve t = s.resolveScope scope ∧
        let after := (c.step host (.start t)).2
        (after.scene.host = c.scene.host ∨
          after.scene.host = (host.start ((s.resolveScope scope).launch t) c.scene.host).2) ∧
        ∀ check, (c.step host (.start t)).1 = .started (.running check) →
          check.target = t ∧ check.resolved = s.resolveScope scope) ∧
    ∀ t fault, (c.step host (.start t)).1 ≠ .started (.ended (.error (.config fault))) := by
  intro c
  cases configured : c.session.configured with
  | false =>
    have refused := fun t => start_of_not_configured host configured t
    refine ⟨fun _ => refused, nofun, ?_⟩
    intro t fault
    rw [refused]
    nofun
  | true =>
    obtain ⟨settings, folders, found, left, mode, took, vetted, snapshot⟩ :=
      vetted_of_configured host state layout? configured
    change c.session.snapshot = _ at snapshot
    refine ⟨nofun, fun _ => ⟨settings, folders, found, left, took, vetted, ?_⟩, ?_⟩
    · intro t
      obtain ⟨scope, mem, same⟩ := c.session.resolve_eq_scope t
      rw [snapshot] at mem same
      rw [Snapshot.resolveScope_withRunMode] at same
      refine ⟨scope, mem, same, ?_⟩
      rw [← same]
      exact start_uses host c t
    · intro t fault ended
      refine Session.prepare_ne_config ?_ t fault (prepare_of_start_config ended)
      intro scope mem
      rw [snapshot] at mem ⊢
      rw [Snapshot.resolveScope_withRunMode]
      exact vetted.readable mem

/-- A workspace folder whose checker leaves a summary is vetted, and toggling the
run mode does not change that. -/
theorem toggled_uses_vetted :
    let checker : Host Unit := .uniform .sample
    let folder : WorkspaceFolder := ⟨.ofString "/w", some { args := some ["--strict"] }⟩
    let c := (new () none).run checker [.reload {} [folder], .toggle]
    c.session.configured = true ∧ ∃ settings folders found left,
      TookOver checker (new () none) [.reload {} [folder], .toggle] settings folders found left ∧
      ∀ t, ∃ scope ∈ (Snapshot.build settings folders).scopes,
        c.session.resolve t = (Snapshot.build settings folders).resolveScope scope := by
  intro checker folder c
  have configured : c.session.configured = true := by decide +kernel
  obtain ⟨-, used, -⟩ := uses_vetted checker () none [.reload {} [folder], .toggle]
  obtain ⟨settings, folders, found, left, took, -, targets⟩ := used configured
  refine ⟨configured, settings, folders, found, left, took, ?_⟩
  intro t
  obtain ⟨scope, mem, same, -⟩ := targets t
  exact ⟨scope, mem, same⟩

end Course

end PatchLint
