import Mathlib.Data.List.Basic

/-!
# What has happened since

A history grows at its end.  What is said of it is often that something has happened
in it at some point, and nothing of a kind since.  After one more moment this is so if
it has happened right now, or if it was so before and the moment is not of that kind.
-/

namespace PatchLint

theorem exists_since_concat {α : Type} {happens : List α → α → Prop} {keeps : α → Prop}
    {past : List α} {now : α} :
    (∃ before m after, past ++ [now] = before ++ m :: after ∧ happens before m ∧
        ∀ n ∈ after, keeps n) ↔
      happens past now ∨
        (∃ before m after, past = before ++ m :: after ∧ happens before m ∧
          ∀ n ∈ after, keeps n) ∧ keeps now := by
  constructor
  · rintro ⟨before, m, after, split, happened, kept⟩
    rcases List.eq_nil_or_concat after with rfl | ⟨init, last, rfl⟩
    · obtain ⟨rfl, same⟩ := List.append_inj' split rfl
      obtain rfl := List.singleton_inj.1 same
      exact .inl happened
    · have split : past ++ [now] = (before ++ m :: init) ++ [last] := by simp [split]
      obtain ⟨rfl, same⟩ := List.append_inj' split rfl
      obtain rfl := List.singleton_inj.1 same
      rw [List.concat_eq_append] at kept
      obtain ⟨kept, last⟩ := List.forall_mem_append.1 kept
      exact .inr ⟨⟨before, m, init, rfl, happened, kept⟩, last now List.mem_cons_self⟩
  · rintro (happened | ⟨⟨before, m, after, rfl, happened, kept⟩, last⟩)
    · exact ⟨past, now, [], rfl, happened, by simp⟩
    · refine ⟨before, m, after ++ [now], by simp, happened, ?_⟩
      exact List.forall_mem_append.2 ⟨kept, by simpa using last⟩

end PatchLint
