import ApiSkeleton.Proofs.App.Planning

namespace ApiSkeleton.App.Request

variable {r : Request} {fs : FileSystem}

/-- How planning ends. -/
structure Planned (r : Request) (fs : FileSystem) : Prop where
  /-- The failure is that of the first check that refuses, whatever the checks behind it come to. -/
  refused : ∀ f, r.plan fs = .error f ↔ ∃ before check after,
    PlanCheck.order = before ++ check :: after ∧
    (∀ earlier ∈ before, ∀ g, ¬ r.Refuses fs earlier g) ∧ r.Refuses fs check f
  accepted : ∀ p, r.plan fs = .ok p ↔ (∀ check g, ¬ r.Refuses fs check g) ∧ ∃ layout api,
    Config.InForce fs r.config r.spec layout ∧ fs.Describes r.spec api ∧
    p = ⟨r.name, r.target, r.spec, layout, api, r.templates⟩
  layout : ∀ p, r.plan fs = .ok p → p.layout.fault? = none

/-- What a run leaves as it was. -/
structure LeavesFiles [Template.Engine] (r : Request) (fs : FileSystem) : Prop where
  unplanned : ∀ dryRun f, r.plan fs = .error f → r.create fs dryRun = (fs, .error f)
  dryRun : (r.create fs true).1 = fs
  /-- Whether or not it fails, a dry run comes to what writing into memory beside the file system
  comes to, and that changes the memory only. -/
  beside : ∀ p, r.plan fs = .ok p → ∃ kept result,
    p.write (Memory.sink.beside FileSystem) Prod.fst (fs, []) = ((fs, kept), result) ∧
    r.create fs true = (fs, result.map fun files => ⟨r.target, files, true⟩)

theorem planned (r : Request) (fs : FileSystem) : Planned r fs where
  refused _ := plan_eq_error_iff
  accepted _ := plan_eq_ok_iff
  layout p hplan := by
    obtain ⟨layout, _, rfl, hlayout, -⟩ := of_plan hplan
    exact Config.fault?_of_resolve hlayout

theorem leavesFiles [Template.Engine] (r : Request) (fs : FileSystem) : LeavesFiles r fs := by
  constructor
  case unplanned =>
    intro dryRun f hplan
    rw [create, hplan]
  case dryRun =>
    cases hplan : r.plan fs <;> simp [create, hplan, Plan.apply_dryRun]
  case beside =>
    intro p hplan
    refine ⟨_, _, p.write_beside Memory.sink fs [], ?_⟩
    obtain ⟨layout, api, rfl, -⟩ := of_plan hplan
    simp [create, hplan, Plan.apply_dryRun]

/-- Planning and dry runs. A plan fails with the first check that refuses, in the order name,
document, target, configuration, reading, decoding and description of the API, endpoints and tags; what
the checks behind it would come to does not count. If none refuses, the plan is made from the layout
in force, which has passed its check, and from the API that the document describes. A plan that fails
leaves the file system as it was, and so does a dry run, whether or not it can be written. -/
theorem plans_and_dryRuns_pure [Template.Engine] (r : Request) (fs : FileSystem) :
    Planned r fs ∧ LeavesFiles r fs :=
  ⟨planned r fs, leavesFiles r fs⟩

/-- Of all that is wrong with a request, its name is told. -/
example : (Request.mk "bad name" ⟨"missing.json"⟩ ⟨"."⟩ (some ⟨"missing.toml"⟩) none).plan petFiles =
    .error (.invalidAppName "bad name") := rfl

end ApiSkeleton.App.Request
