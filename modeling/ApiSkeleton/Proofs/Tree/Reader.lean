import ApiSkeleton.Proofs.Members
import ApiSkeleton.Proofs.Tree.WellFormed
import ApiSkeleton.Tree.Reader

namespace ApiSkeleton.Tree

open Template.Value (fitsDocument)

theorem fitsDocument_iff {n : Int} :
    fitsDocument n ↔ -(Nat.pow 2 63 : Nat) ≤ n ∧ n < (Nat.pow 2 64 : Nat) := by
  simp [fitsDocument]

private theorem leadingDigits_lt {start : Nat} (hstart : start < Nat.pow 2 64) (cs : List Char) :
    (leadingDigits start cs).1 < Nat.pow 2 64 := by
  induction cs generalizing start with
  | nil => exact hstart
  | cons c rest ih =>
    by_cases hnext : start * 10 + (c.toNat - 48) < Nat.pow 2 64
    · simpa only [leadingDigits, if_pos hnext] using ih hnext
    · simpa only [leadingDigits, if_neg hnext] using hstart

private theorem wellFormed_of_number {number : NumberText} {t : Tree} (h : number.value? = some t) :
    t.WellFormed := by
  have hlt : (leadingDigits 0 number.whole).1 < Nat.pow 2 64 := leadingDigits_lt (by decide) _
  unfold NumberText.value? at h
  generalize leadingDigits 0 number.whole = parts at h hlt
  obtain ⟨n, kept⟩ := parts
  simp only [Nat.pow_eq] at h hlt
  split at h
  · rename_i hwhole
    simp only [Bool.and_eq_true, Bool.or_eq_true, decide_eq_true_eq] at hwhole
    rw [← Option.some.inj h]
    refine .int (fitsDocument_iff.mpr ?_)
    simp only [Nat.pow_eq]
    cases hnegative : number.negative with
    | true =>
      have hsmall : n ≤ 2 ^ 63 := by
        rcases hwhole.2 with hpositive | ⟨_, hsmall⟩
        · simp [hnegative] at hpositive
        · exact hsmall
      simp only [if_true]
      omega
    | false =>
      simp only [Bool.false_eq_true, if_false]
      omega
  · obtain ⟨x, _, rfl⟩ := Option.map_eq_some_iff.mp h
    exact .float _

/-- What a token holds is a value that a text can be read as. -/
def Token.WellFormed : Token → Prop
  | .scalar t => t.WellFormed
  | _ => True

private theorem wellFormed_of_readToken {cs rest : List Char} {token : Token}
    (h : readToken? cs = some (token, rest)) : token.WellFormed := by
  unfold readToken? at h
  split at h
  case h_8 | h_9 | h_10 =>
    rw [← (Prod.mk.inj (Option.some.inj h)).1]
    constructor
  case h_11 =>
    obtain ⟨parts, _, hparts⟩ := Option.map_eq_some_iff.mp h
    rw [← (Prod.mk.inj hparts).1]
    exact .text _
  case h_12 =>
    split at h
    · cases h
    · obtain ⟨t, ht, hparts⟩ := Option.map_eq_some_iff.mp h
      rw [← (Prod.mk.inj hparts).1]
      exact wellFormed_of_number ht
  all_goals
    cases h
    try trivial

private theorem wellFormed_of_readTokens {count : Nat} {cs : List Char} {tokens : List Token}
    (h : readTokens? count cs = some tokens) : ∀ token ∈ tokens, token.WellFormed := by
  induction count generalizing cs tokens with
  | zero =>
    rw [readTokens?] at h
    split at h
    · rw [← Option.some.inj h]
      simp
    · cases h
  | succ count ih =>
    rw [readTokens?] at h
    split at h
    · rw [← Option.some.inj h]
      simp
    · split at h
      · cases h
      · rename_i token after htoken
        obtain ⟨more, hmore, rfl⟩ := Option.map_eq_some_iff.mp h
        exact List.forall_mem_cons.mpr ⟨wellFormed_of_readToken htoken, ih hmore⟩

/-- What an open collection holds so far. -/
inductive Frame.WellFormed : Frame → Prop where
  | list {items : List Tree} (hitems : ∀ t ∈ items, t.WellFormed) : WellFormed (.list items)
  | object {members : List (String × Tree)} (key : String)
      (hmembers : ∀ entry ∈ members, entry.2.WellFormed) (hkeys : (members.map (·.1)).Nodup) :
      WellFormed (.object members key)

/-- The value that has just been completed. -/
def Expected.WellFormed : Expected → Prop
  | .afterValue t => t.WellFormed
  | _ => True

/-- Each token keeps what is on the stack well-formed, so what remains at the end is. -/
private theorem wellFormed_of_build {tokens : List Token} {stack : List Frame} {expected : Expected}
    {t : Tree} (h : build? tokens stack expected = some t)
    (htokens : ∀ token ∈ tokens, token.WellFormed) (hstack : ∀ f ∈ stack, f.WellFormed)
    (hexpected : expected.WellFormed) : t.WellFormed := by
  fun_induction build? tokens stack expected with
  | case1 => exact Option.some.inj h ▸ hexpected
  | case3 value rest stack ih | case4 value rest stack ih =>
    rw [List.forall_mem_cons] at htokens
    exact ih h htokens.2 hstack htokens.1
  | case5 | case7 =>
    rename_i ih
    have hopen : (Frame.list []).WellFormed := .list (by simp)
    exact ih h (List.forall_mem_cons.mp htokens).2 (List.forall_mem_cons.mpr ⟨hopen, hstack⟩)
      trivial
  | case9 | case11 =>
    rename_i ih
    have hopen : (Frame.object [] "").WellFormed := .object "" (by simp) (by simp)
    exact ih h (List.forall_mem_cons.mp htokens).2 (List.forall_mem_cons.mpr ⟨hopen, hstack⟩)
      trivial
  | case13 =>
    rename_i ih
    exact ih h (List.forall_mem_cons.mp htokens).2 (List.forall_mem_cons.mp hstack).2
      (.list (by simp))
  | case14 =>
    rename_i ih
    exact ih h (List.forall_mem_cons.mp htokens).2 (List.forall_mem_cons.mp hstack).2
      (.object (by simp) (by simp))
  | case15 | case16 =>
    rename_i ih
    obtain ⟨hframe, hrest⟩ := List.forall_mem_cons.mp hstack
    cases hframe with
    | object _ hmembers hkeys =>
      exact ih h (List.forall_mem_cons.mp htokens).2
        (List.forall_mem_cons.mpr ⟨.object _ hmembers hkeys, hrest⟩) trivial
  | case17 =>
    rename_i ih
    exact ih h (List.forall_mem_cons.mp htokens).2 hstack trivial
  | case18 rest items stack value ih =>
    obtain ⟨hframe, hrest⟩ := List.forall_mem_cons.mp hstack
    obtain ⟨hitems⟩ := hframe
    have hlast : value.WellFormed := hexpected
    exact ih h (List.forall_mem_cons.mp htokens).2
      (List.forall_mem_cons.mpr ⟨.list (List.forall_mem_cons.mpr ⟨hlast, hitems⟩), hrest⟩)
      trivial
  | case19 rest items stack value ih =>
    obtain ⟨hframe, hrest⟩ := List.forall_mem_cons.mp hstack
    obtain ⟨hitems⟩ := hframe
    have hlast : value.WellFormed := hexpected
    refine ih h (List.forall_mem_cons.mp htokens).2 hrest (.list fun t ht => ?_)
    exact List.forall_mem_cons.mpr ⟨hlast, hitems⟩ t (List.mem_reverse.mp ht)
  | case20 rest members key stack value ih =>
    obtain ⟨hframe, hrest⟩ := List.forall_mem_cons.mp hstack
    have hlast : value.WellFormed := hexpected
    cases hframe with
    | object _ hmembers hkeys =>
      have hput := Frame.WellFormed.object "" (forall_mem_putMember hmembers hlast)
        (nodup_keys_putMember key value hkeys)
      exact ih h (List.forall_mem_cons.mp htokens).2 (List.forall_mem_cons.mpr ⟨hput, hrest⟩)
        trivial
  | case21 rest members key stack value ih =>
    obtain ⟨hframe, hrest⟩ := List.forall_mem_cons.mp hstack
    have hlast : value.WellFormed := hexpected
    cases hframe with
    | object _ hmembers hkeys =>
      exact ih h (List.forall_mem_cons.mp htokens).2 hrest
        (.object (forall_mem_putMember hmembers hlast) (nodup_keys_putMember key value hkeys))
  | _ => cases h

theorem wellFormed_of_json {s : String} {t : Tree} (h : ofJson? s = some t) : t.WellFormed := by
  unfold ofJson? at h
  split at h
  · cases h
  · rename_i tokens htokens
    exact wellFormed_of_build h (wellFormed_of_readTokens htokens) (by simp) trivial

end ApiSkeleton.Tree
