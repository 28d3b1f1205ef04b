import Mathlib.Data.List.Forall2

/-!
# Occurrences in a log

A log only grows at its end. A sequence of steps occurs in it if entries that are such steps stand
there in the same order, next to each other or not.
-/

namespace TrustChain.Library

variable {α : Type*}

/-- An entry of a log that has grown was there before, or came after all the older ones. -/
theorem split_of_append {more before later : List α} {log : List α} {entry : α}
    (split : log ++ more = before ++ entry :: later) :
    (∃ rest, log = before ++ entry :: rest) ∨
      ∃ first, before = log ++ first ∧ more = first ++ entry :: later := by
  rcases List.append_eq_append_iff.mp split with ⟨first, is, rest⟩ | ⟨rest, is, others⟩
  · exact .inr ⟨first, is, rest⟩
  · cases rest with
    | nil => exact .inr ⟨[], by simpa using is.symm, others.symm⟩
    | cons head rest =>
        obtain ⟨rfl, rfl⟩ := List.cons.inj others
        exact .inl ⟨rest, is⟩

/-- Entries of the log are the given steps, in this order. -/
def Occur (steps : List (α → Prop)) (log : List α) : Prop :=
  List.SublistForall₂ (fun step entry => step entry) steps log

variable {steps weaker : List (α → Prop)} {step : α → Prop} {log : List α} {entry : α}

theorem occur_iff : Occur steps log ↔
    ∃ found, List.Forall₂ (fun step entry => step entry) steps found ∧ found.Sublist log :=
  List.sublistForall₂_iff

namespace Occur

theorem append (occur : Occur steps log) (more : List α) : Occur steps (log ++ more) := by
  obtain ⟨found, holds, inside⟩ := occur_iff.mp occur
  exact occur_iff.mpr ⟨found, holds, inside.trans (List.sublist_append_left log more)⟩

/-- The next step occurs when the log grows by it. -/
theorem snoc (occur : Occur steps log) (here : step entry) :
    Occur (steps ++ [step]) (log ++ [entry]) := by
  obtain ⟨found, holds, inside⟩ := occur_iff.mp occur
  exact occur_iff.mpr ⟨found ++ [entry], List.rel_append holds (.cons here .nil),
    inside.append (List.Sublist.refl _)⟩

theorem nil (log : List α) : Occur [] log := List.SublistForall₂.nil

theorem mono (occur : Occur steps log)
    (weakens : List.Forall₂ (fun step weaker => ∀ entry, step entry → weaker entry) steps weaker) :
    Occur weaker log := by
  obtain ⟨found, holds, inside⟩ := occur_iff.mp occur
  refine occur_iff.mpr ⟨found, ?_, inside⟩
  clear inside occur
  induction weakens generalizing found with
  | nil => exact holds
  | cons first _ ih =>
      cases holds with
      | cons here later => exact .cons (first _ here) (ih _ later)

/-- Each of the steps occurs. -/
theorem exists_of_mem (occur : Occur steps log) (member : step ∈ steps) :
    ∃ entry ∈ log, step entry := by
  obtain ⟨found, holds, inside⟩ := occur_iff.mp occur
  clear occur
  induction holds generalizing log with
  | nil => simp at member
  | @cons _ entry _ _ here _ ih =>
      rcases List.mem_cons.mp member with rfl | further
      · exact ⟨entry, inside.subset List.mem_cons_self, here⟩
      · exact ih further ((List.sublist_cons_self _ _).trans inside)

end Occur

end TrustChain.Library
