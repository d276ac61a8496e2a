import ApiSkeleton.Proofs.Path.File
import Mathlib.Data.List.Nodup
import Mathlib.Data.List.Pairwise
import Mathlib.Data.List.Infix

namespace ApiSkeleton.Path

/-- Neither list goes on where the other one ends. -/
def Beside (a b : List String) : Prop := ¬ a <+: b ∧ ¬ b <+: a

theorem Beside.symm {a b : List String} (h : Beside a b) : Beside b a := ⟨h.2, h.1⟩

instance : Std.Symm Beside := ⟨fun _ _ => Beside.symm⟩

private theorem Beside.ne {a b : List String} (h : Beside a b) : a ≠ b := by
  rintro rfl
  exact h.1 List.prefix_rfl

theorem beside_of_heads {s t : String} (hne : s ≠ t) (a b : List String) :
    Beside (s :: a) (t :: b) := by
  simp [Beside, List.cons_prefix_cons, hne, Ne.symm hne]

theorem beside_append_left_iff {above a b : List String} :
    Beside (above ++ a) (above ++ b) ↔ Beside a b := by
  simp [Beside]

theorem pairwise_beside_append_left_iff {above : List String} {lists : List (List String)} :
    (lists.map (above ++ ·)).Pairwise Beside ↔ lists.Pairwise Beside := by
  simp only [List.pairwise_map, beside_append_left_iff]

/-- Lists that part do so whatever follows. -/
theorem Beside.append {a b : List String} (h : Beside a b) (c d : List String) :
    Beside (a ++ c) (b ++ d) := by
  have hpart {a b c d : List String} (h : Beside a b) : ¬ a ++ c <+: b ++ d := by
    intro hover
    have hfirst : a <+: b ++ d := (List.prefix_append a c).trans hover
    rcases List.prefix_or_prefix_of_prefix hfirst (List.prefix_append b d) with hab | hba
    · exact h.1 hab
    · exact h.2 hba
  exact ⟨hpart h, hpart h.symm⟩

/-- No two of the paths lead to one place, and none goes on where another one ends. -/
def Separate (paths : List Path) : Prop :=
  (paths.map names).Nodup ∧ ∀ p ∈ paths, ∀ q ∈ paths, ¬ q.IsBelow p

theorem separate_of_pairwise {paths : List Path} (h : (paths.map names).Pairwise Beside) :
    Separate paths := by
  refine ⟨h.imp Beside.ne, fun p hp q hq hbelow => ?_⟩
  have hbeside : Beside p.names q.names :=
    h.forall (List.mem_map_of_mem hp) (List.mem_map_of_mem hq) hbelow.2
  exact hbeside.1 hbelow.1

end ApiSkeleton.Path
