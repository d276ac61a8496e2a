import ApiSkeleton.Proofs.Outcome
import ApiSkeleton.Proofs.Tree.Reader
import ApiSkeleton.Yaml.Document
import ApiSkeleton.Yaml.ToTree

namespace ApiSkeleton.Yaml

/-- A value whose whole numbers are 64-bit words. -/
inductive Node.HasWords : Node → Prop where
  | null : HasWords .null
  | bool (b : Bool) : HasWords (.bool b)
  | int {n : Int} (hfits : Template.Value.fitsDocument n) : HasWords (.int n)
  | float (x : Binary64) : HasWords (.float x)
  | text (s : String) : HasWords (.text s)
  | list {items : List Node} (hitems : ∀ n ∈ items, HasWords n) : HasWords (.list items)
  | map {entries : List (Node × Node)} (hvalues : ∀ entry ∈ entries, HasWords entry.2) :
      HasWords (.map entries)
  | tagged (tag : String) {value : Node} (hvalue : HasWords value) : HasWords (.tagged tag value)

theorem fitsDocument_of_wholeNumber {cs : List Char} {n : Int}
    (h : WholeNumber.ofChars cs = .value n) : Template.Value.fitsDocument n := by
  unfold WholeNumber.ofChars at h
  split at h
  · cases h
  · split at h
    · rename_i hrange
      injection h with h
      subst h
      simpa [Tree.fitsDocument_iff] using hrange
    · split at h <;> cases h

theorem hasWords_of_plain {s : String} {n : Node} (h : plainValue? s = some n) : n.HasWords := by
  unfold plainValue? at h
  split at h
  · exact Option.some.inj h ▸ .null
  · split at h
    · exact Option.some.inj h ▸ .bool _
    · split at h
      · rename_i hwhole
        exact Option.some.inj h ▸ .int (fitsDocument_of_wholeNumber hwhole)
      · cases h
      · split at h
        · exact Option.some.inj h ▸ .text _
        · split at h
          · exact Option.some.inj h ▸ .float _
          · exact Option.some.inj h ▸ .text _

theorem hasWords_of_scalar {tag : Option String} {s : String} {plain : Bool} {n : Node}
    (h : scalarValue? tag s plain = some n) : n.HasWords := by
  unfold scalarValue? at h
  split at h
  · split at h
    · exact hasWords_of_plain h
    · exact Option.some.inj h ▸ .text _
  · obtain ⟨b, _, hn⟩ := Option.map_eq_some_iff.mp h
    exact hn ▸ .bool b
  · split at h
    · rename_i hwhole
      exact Option.some.inj h ▸ .int (fitsDocument_of_wholeNumber hwhole)
    · cases h
  · obtain ⟨x, _, hn⟩ := Option.map_eq_some_iff.mp h
    exact hn ▸ .float x
  · split at h
    · exact Option.some.inj h ▸ .null
    · cases h
  · exact Option.some.inj h ▸ .text _

theorem hasWords_withTag {tag : Option String} {n : Node} (h : n.HasWords) :
    (withTag tag n).HasWords := by
  unfold withTag
  split
  · exact h
  · exact .tagged _ h

/-- What has been read has no whole numbers beyond words, whatever part of a document it is. The
induction is on the fuel, which every call passes on smaller. -/
theorem hasWords_of_read (doc : Linked) (fuel : Nat) :
    (∀ depth position followed n next used,
      readValue? doc fuel depth position followed = some (n, next, used) → n.HasWords) ∧
    (∀ depth position followed n next used,
      readContent? doc fuel depth position followed = some (n, next, used) → n.HasWords) ∧
    (∀ depth position followed items next used,
      readItems? doc fuel depth position followed = some (items, next, used) →
        ∀ n ∈ items, n.HasWords) ∧
    (∀ depth position followed done entries next used,
      readEntries? doc fuel depth position followed done = some (entries, next, used) →
        (∀ entry ∈ done, entry.2.HasWords) → ∀ entry ∈ entries, entry.2.HasWords) := by
  induction fuel with
  | zero => simp [readValue?, readContent?, readItems?, readEntries?]
  | succ fuel ih =>
    obtain ⟨ihValue, ihContent, ihItems, ihEntries⟩ := ih
    refine ⟨?_, ?_, ?_, ?_⟩
    · intro depth position followed n next used h
      rw [readValue?] at h
      split at h
      · split at h
        · cases h
        · split at h
          · rename_i hread
            cases h
            exact ihContent _ _ _ _ _ _ hread
          · cases h
      · exact ihContent _ _ _ _ _ _ h
    · intro depth position followed n next used h
      rw [readContent?] at h
      split at h
      · obtain ⟨value, hvalue, hn⟩ := Option.map_eq_some_iff.mp h
        cases hn
        refine hasWords_withTag ?_
        split at hvalue <;> exact hasWords_of_scalar hvalue
      · split at h
        · cases h
        · split at h
          · rename_i hread
            cases h
            exact hasWords_withTag (.list (ihItems _ _ _ _ _ _ hread))
          · cases h
      · split at h
        · cases h
        · split at h
          · rename_i hread
            cases h
            exact hasWords_withTag (.map (ihEntries _ _ _ _ _ _ _ hread (by simp)))
          · cases h
      · cases h
    · intro depth position followed items next used h
      rw [readItems?] at h
      split at h
      · cases h
        simp
      · split at h
        · cases h
        · rename_i hitem
          split at h
          · rename_i hrest
            cases h
            exact List.forall_mem_cons.mpr
              ⟨ihValue _ _ _ _ _ _ hitem, ihItems _ _ _ _ _ _ hrest⟩
          · cases h
    · intro depth position followed done entries next used h hdone
      rw [readEntries?] at h
      split at h
      · cases h
        exact hdone
      · split at h
        · cases h
        · split at h
          · cases h
          · split at h
            · cases h
            · rename_i hvalue
              refine ihEntries _ _ _ _ _ _ _ h fun entry hentry => ?_
              rcases List.mem_append.mp hentry with hentry | hentry
              · exact hdone entry hentry
              · rw [List.mem_singleton.mp hentry]
                exact ihValue _ _ _ _ _ _ hvalue

theorem hasWords_of_text {text : String} {n : Node} (h : ofText? text = some n) : n.HasWords := by
  unfold ofText? at h
  split at h
  · cases h
  · rw [← Option.some.inj h]
    exact .null
  · split at h
    · cases h
    · rename_i doc _
      obtain ⟨⟨value, next, used⟩, hvalue, hn⟩ := Option.map_eq_some_iff.mp h
      exact hn ▸ (hasWords_of_read doc _).1 _ _ _ _ _ _ hvalue

namespace Node

private theorem wellFormed_toItems {nodes : List Node} {items : List Tree}
    (hnodes : ∀ n ∈ nodes, ∀ t, n.toTree = .ok t → t.WellFormed)
    (h : toItems nodes = .ok items) : ∀ t ∈ items, t.WellFormed := by
  induction nodes generalizing items with
  | nil =>
    cases h
    simp
  | cons n rest ih =>
    simp only [toItems, bind_eq_ok_iff, pure_eq_ok, Except.ok.injEq] at h
    obtain ⟨t, ht, more, hmore, rfl⟩ := h
    rw [List.forall_mem_cons] at hnodes
    exact List.forall_mem_cons.mpr ⟨hnodes.1 t ht, ih hnodes.2 hmore⟩

private theorem wellFormed_toMembers {entries : List (Node × Node)}
    {done members : List (String × Tree)}
    (hentries : ∀ entry ∈ entries, ∀ t, entry.2.toTree = .ok t → t.WellFormed)
    (hdone : (Tree.object done).WellFormed) (h : toMembers done entries = .ok members) :
    (Tree.object members).WellFormed := by
  induction entries generalizing done with
  | nil =>
    cases h
    exact hdone
  | cons entry rest ih =>
    obtain ⟨k, v⟩ := entry
    simp only [toMembers, bind_eq_ok_iff] at h
    obtain ⟨key, _, t, ht, hrest⟩ := h
    rw [List.forall_mem_cons] at hentries
    cases hdone with
    | object hmembers hkeys =>
      exact ih hentries.2 (.object (forall_mem_putMember hmembers (hentries.1 t ht))
        (nodup_keys_putMember key t hkeys)) hrest

/-- A value without whole numbers beyond words becomes a well-formed tree, if it becomes one. -/
theorem wellFormed_toTree {n : Node} (hn : n.HasWords) {t : Tree} (h : n.toTree = .ok t) :
    t.WellFormed := by
  induction hn generalizing t with
  | null => cases h; exact .null
  | bool b => cases h; exact .bool b
  | int hfits => cases h; exact .int hfits
  | float x =>
    rw [toTree] at h
    split at h
    · cases h
      exact .float x
    · cases h
  | text s => cases h; exact .text s
  | list _ ih =>
    simp only [toTree, bind_eq_ok_iff, pure_eq_ok, Except.ok.injEq] at h
    obtain ⟨items, hitems, rfl⟩ := h
    exact .list (wellFormed_toItems (fun n hn t => ih n hn) hitems)
  | map _ ih =>
    simp only [toTree, bind_eq_ok_iff, pure_eq_ok, Except.ok.injEq] at h
    obtain ⟨members, hmembers, rfl⟩ := h
    exact wellFormed_toMembers (fun entry hentry t => ih entry hentry)
      (.object (by simp) (by simp)) hmembers
  | tagged _ _ ih =>
    rw [toTree] at h
    exact ih h

end Node

end ApiSkeleton.Yaml
