import PatchLint.Proofs.CommandLine.Prediction
import PatchLint.Proofs.Session.Isolation
import PatchLint.Proofs.Session.Noted

/-!
# What a check lists

The status of a check on the command line, the listing in either layout, the numbers at
its end and the verdict on a commit are made each in its own way: from whether the store
is empty, from its keys, from its sums and from the outcome of the check.  They agree
(`CommandLine.Reports`), as no entry of a store is without records and as the store of a
command that checks a commit has nothing in it but what that check has found.
-/

namespace PatchLint

variable {σ : Type}

/-! ## A check of a commit with nothing in between -/

theorem Replaces.isEmpty_iff {check : Running} {repository : Path} {before after : Store}
    (h : Replaces check repository before after) : after.isEmpty ↔ check.records = [] := by
  have keys : after.isEmpty ↔ after.keys = [] := by
    rw [Store.isEmpty, PathMap.isEmpty, List.isEmpty_iff, Store.keys, PathMap.keys,
      List.map_eq_nil_iff]
  rw [keys, List.eq_nil_iff_forall_not_mem, List.eq_nil_iff_forall_not_mem]
  constructor
  · intro none r mem
    obtain ⟨k, key, -⟩ := (h.keys _).2 ⟨r, mem, .rfl⟩
    exact none k key
  · intro none k key
    obtain ⟨r, mem, -⟩ := (h.keys k).1 ⟨k, key, .rfl⟩
    exact none r mem

namespace Session

theorem Accounts.reload (host : Host σ) {s : Session} {running : List Running}
    (h : s.Accounts running) (settings : Settings) (folders : List WorkspaceFolder)
    (scene : Scene σ) : ((s.reload host settings folders).run scene).1.2.Accounts running := by
  rw [reload_run]
  exact h.stopAll.congr rfl rfl rfl rfl

end Session

namespace CommandLine

/-! ## Listings -/

namespace Listing

/-- The number of records that are listed. -/
def total (l : Listing) : Nat := (l.flatMap Prod.snd).length

end Listing

namespace Job

/-- The layout of the listing, if the job is a check. -/
def format? : Job → Option Format
  | .files _ format => some format
  | .commit _ _ format => some format
  | _ => none

/-- What follows the listing. -/
def verdict (l : Listing) : Job → String
  | .commit _ _ .text => Listing.line (if l.total = 0 then commitIsClean else commitHasProblems)
  | _ => ""

end Job

/-- A check has printed a listing and ends with the status that goes with it. -/
structure Reports (job : Job) (l : Listing) (finished : Finished) : Prop where
  /-- The files are in order. -/
  ascending : Path.Ascending l
  /-- Every file that is listed has a record. -/
  written : ∀ e ∈ l, e.2 ≠ []
  status : finished.status = if l.total = 0 then 0 else 1
  text : job.format? = some .text → finished.out =
    l.blocks ++ "\n" ++ Listing.countLine l.total l.length ++ job.verdict l
  json : job.format? = some .json → finished.out = Listing.line l.json.indented
  /-- The last line about a commit goes with the status. -/
  verdict : ∀ hash repository, job = .commit hash repository .text →
    (Text.lines finished.out.toList).getLast? =
      some (if finished.status = 1 then commitHasProblems else commitIsClean).toList

theorem configured_eq_ok {place : Place σ} {r : Request} {scene : Scene σ} {s : Session}
    (h : ((configured place r).run scene).1 = .ok s) :
    s.store.Filled ∧ s.Accounts [] ∧ s.configured = true := by
  rcases configured_cases place r scene with
    ⟨fault, failed, -⟩ | ⟨settings, folders, given, -, -, loaded⟩
  · cases failed.symm.trans h
  · have books := (Session.Accounts.new none).reload place.host settings folders given
    have cleared := Session.store_reload place.host .new settings folders given
    have configured := Session.reload_eq_ok_iff place.host .new settings folders given
    rw [h] at loaded
    generalize (Session.new.reload place.host settings folders).run given = reload at *
    obtain ⟨⟨answer, session⟩, last⟩ := reload
    cases answer with
    | error fault => cases loaded
    | ok u =>
      cases loaded
      refine ⟨?_, books, configured.1 rfl⟩
      rw [cleared]
      exact .clear _

theorem run_of_error {place : Place σ} {args : List String} {r : Request} {scene final : Scene σ}
    {fault : RunFault} (parsed : Request.ofArguments args = .ok r)
    (h : (perform place r).run scene = (.error fault, final)) :
    (run place args).run scene =
      (failed, { final with log := final.log ++ [.error fault.message] }) := by
  simp only [run, parsed, Work.run_bind, h, Work.run_say, Work.run_pure]

theorem run_of_ok {place : Place σ} {args : List String} {r : Request} {scene final : Scene σ}
    {finished : Finished} (parsed : Request.ofArguments args = .ok r)
    (h : (perform place r).run scene = (.ok finished, final)) :
    (run place args).run scene = (finished, final) := by
  simp only [run, parsed, Work.run_bind, h, Work.run_pure]

end CommandLine

end PatchLint
