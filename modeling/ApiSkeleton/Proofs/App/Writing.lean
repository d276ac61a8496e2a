import ApiSkeleton.Proofs.App.Files
import ApiSkeleton.Proofs.Output

namespace ApiSkeleton.App

open Template (Engine)

namespace Plan

section Relating

variable {σ : Type} {sink : Sink σ} {R : σ → σ → Prop} [IsPreorder σ R]
  [Engine] (hwrite : ∀ s file, R s (sink.write s file).1) (p : Plan) (view : σ → FileSystem)

include hwrite

theorem copyDirectory_relates (root : Path) (depth : Nat) (directory : Path) (above : String)
    (s : σ) : R s (p.copyDirectory sink view root depth directory above s).1 := by
  induction depth generalizing directory above s with
  | zero => exact refl_of R s
  | succ depth ih =>
    rw [copyDirectory]
    cases (view s).list directory with
    | error fault => exact refl_of R s
    | ok members =>
      refine Sink.each_relates (fun member _ t => ?_) s
      obtain ⟨name, entry⟩ := member
      cases entry with
      | directory => exact ih _ _ t
      | file content => exact Sink.run_relates (fun u file _ => hwrite u file) t

theorem writeStart_relates (s : σ) : R s (p.writeStart sink view s).1 := by
  rw [writeStart]
  cases p.templates with
  | none => exact Sink.run_relates (fun t file _ => hwrite t file) s
  | some root =>
    simp only
    split
    · exact copyDirectory_relates hwrite p view root _ root "" s
    · exact refl_of R s

/-- What relates the states before and after every file is written relates those before and after
the application is, whether or not that fails. -/
theorem write_relates (s : σ) : R s (p.write sink view s).1 :=
  Sink.followedBy_relates (writeStart_relates hwrite p view s)
    fun t => Sink.run_relates (fun u file _ => hwrite u file) t

end Relating

variable [Engine] {σ : Type} (p : Plan) (sink : Sink σ) (fs : FileSystem)

theorem copyDirectory_beside (root : Path) (depth : Nat) (directory : Path) (above : String)
    (s : σ) :
    p.copyDirectory (sink.beside FileSystem) Prod.fst root depth directory above (fs, s) =
      Sink.keep fs (p.copyDirectory sink (fun _ => fs) root depth directory above s) := by
  -- The members come from the file system, which stays, so that both runs see the same ones.
  induction depth generalizing directory above s with
  | zero => rfl
  | succ depth ih =>
    rw [copyDirectory, copyDirectory]
    cases fs.list directory with
    | error fault => rfl
    | ok members =>
      refine Sink.each_beside (fun member t => ?_) members s
      obtain ⟨name, entry⟩ := member
      cases entry with
      | directory => exact ih _ _ t
      | file content => exact Sink.run_beside sink fs _ t

theorem writeStart_beside (s : σ) :
    p.writeStart (sink.beside FileSystem) Prod.fst (fs, s) =
      Sink.keep fs (p.writeStart sink (fun _ => fs) s) := by
  rw [writeStart, writeStart]
  cases p.templates with
  | none => exact Sink.run_beside sink fs _ s
  | some root =>
    simp only
    split
    · exact copyDirectory_beside p sink fs root _ root "" s
    · rfl

/-- An application that is written beside the file system is the one that is written over a view of
it, and the file system stays. -/
theorem write_beside (s : σ) :
    p.write (sink.beside FileSystem) Prod.fst (fs, s) =
      Sink.keep fs (p.write sink (fun _ => fs) s) := by
  rw [write, write, writeStart_beside]
  exact Sink.followedBy_beside fun t => Sink.run_beside sink fs _ t

/-- A dry run is what writing into memory comes to over the files as they are, which stay. -/
theorem apply_dryRun : p.apply fs true =
    (fs, (p.write Memory.sink (fun _ => fs) []).2.map fun paths => ⟨p.target, paths, true⟩) := by
  rw [apply, if_pos rfl, write_beside]
  rfl

end Plan

end ApiSkeleton.App
