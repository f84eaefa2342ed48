import Cosim.Json.Value
import Mathlib.Data.List.Nodup

namespace Cosim.Proofs.Json.Members

open Cosim.Json

variable {κ α : Type} [BEq κ] [LawfulBEq κ] {key k : κ} {v : α}

theorem lookup_put_self (members : List (κ × α)) (key : κ) (v : α) :
    (put members key v).lookup key = some v := by
  unfold put
  split
  · rename_i hany
    induction members with
    | nil => cases hany
    | cons m members ih =>
      rw [List.map_cons]
      by_cases hm : m.1 = key
      · rw [if_pos (by simp [hm]), List.lookup_cons_self]
      · have hne : (key == m.1) = false := beq_false_of_ne (Ne.symm hm)
        rw [if_neg (by simp [hm]), List.lookup_cons, hne]
        exact ih (by simpa [hm] using hany)
  · rename_i hany
    have hnone : members.lookup key = none := by
      rw [List.lookup_eq_none_iff]
      intro m hm
      have hne : m.1 ≠ key := fun he => hany (List.any_eq_true.mpr ⟨m, hm, by simp [he]⟩)
      simpa using hne.symm
    rw [List.lookup_append, hnone, Option.none_or, List.lookup_cons_self]

theorem lookup_put_of_ne (members : List (κ × α)) (h : k ≠ key) (v : α) :
    (put members key v).lookup k = members.lookup k := by
  have hk : (k == key) = false := beq_false_of_ne h
  have hmap : (members.map fun m => if m.1 == key then (key, v) else m).lookup k =
      members.lookup k := by
    induction members with
    | nil => rfl
    | cons m members ih =>
      rw [List.map_cons, List.lookup_cons, ih]
      by_cases hm : m.1 = key
      · rw [if_pos (by simp [hm]), hk, List.lookup_cons, hm, hk]
      · rw [if_neg (by simp [hm]), List.lookup_cons]
  unfold put
  split
  · exact hmap
  · rw [List.lookup_append, List.lookup_cons, hk, List.lookup_nil, Option.or_none]

theorem lookup_foldl_put {pairs : List (κ × α)} (hv : ∀ p ∈ pairs, p.1 = k → p.2 = v)
    {members : List (κ × α)} (h : members.lookup k = some v ∨ (k, v) ∈ pairs) :
    (pairs.foldl (fun members p => put members p.1 p.2) members).lookup k = some v := by
  induction pairs generalizing members with
  | nil => simpa using h
  | cons p pairs ih =>
    obtain ⟨hp, hrest⟩ := List.forall_mem_cons.mp hv
    refine ih hrest ?_
    dsimp only
    by_cases hk : p.1 = k
    · left
      rw [hk, hp hk, lookup_put_self]
    · rw [lookup_put_of_ne _ (Ne.symm hk)]
      rcases h with h | h
      · exact .inl h
      · rcases List.mem_cons.mp h with he | h
        · exact absurd (he ▸ rfl) hk
        · exact .inr h

theorem lookup_collect {pairs : List (κ × α)} (h : (k, v) ∈ pairs)
    (hv : ∀ p ∈ pairs, p.1 = k → p.2 = v) : (collect pairs).lookup k = some v :=
  lookup_foldl_put hv (.inr h)

/-- Certain members in some order, and any others of other names. -/
def HasMembers (pairs required : List (κ × α)) : Prop :=
  ∃ others, pairs.Perm (required ++ others) ∧ ∀ m ∈ others, m.1 ∉ required.map Prod.fst

theorem HasMembers.lookup_collect {pairs required : List (κ × α)}
    (h : HasMembers pairs required) (hn : (required.map Prod.fst).Nodup) (hm : (k, v) ∈ required) :
    (collect pairs).lookup k = some v := by
  obtain ⟨others, hperm, hothers⟩ := h
  have hkey : k ∈ required.map Prod.fst := List.mem_map_of_mem hm
  refine Members.lookup_collect (hperm.mem_iff.mpr (List.mem_append_left _ hm)) ?_
  rintro ⟨name, w⟩ hp rfl
  rcases List.mem_append.mp (hperm.mem_iff.mp hp) with hp | hp
  · have he := List.inj_on_of_nodup_map hn hp hm rfl
    exact (Prod.mk.inj he).2
  · exact absurd hkey (hothers _ hp)

end Cosim.Proofs.Json.Members
