import ApiSkeleton.Emit.Expression
import Mathlib.Data.List.Basic

namespace ApiSkeleton.Emit

/-- The statuses that have a constant. -/
def statusConstants : List (String × String) :=
  [("200", "OK"), ("201", "CREATED"), ("204", "NO_CONTENT"), ("400", "BAD_REQUEST"),
   ("401", "UNAUTHORIZED"), ("404", "NOT_FOUND"), ("422", "UNPROCESSABLE_ENTITY"),
   ("500", "INTERNAL_SERVER_ERROR")]

private theorem mem_statusConstants {code name : String} (h : statusConstant? code = some name) :
    (code, name) ∈ statusConstants := by
  unfold statusConstant? at h
  split at h <;> cases h <;> simp [statusConstants]

theorem statusConstants_inj :
    ∀ a ∈ statusConstants, ∀ b ∈ statusConstants, a.2 = b.2 → a.1 = b.1 := by
  decide

/-- What a key looks like, and which status it shows. -/
inductive StatusKeyForm (code key : String) : Prop where
  | constant (name : String) (hknown : (code, name) ∈ statusConstants)
      (hkey : key = "HttpStatusCodes." ++ name)
  | number (c : Char) (rest : List Char) (hcode : code.toList = c :: rest) (hdigit : c.isDigit)
      (hkey : key = code)
  | quoted (hkey : key = "\"" ++ code ++ "\"")

theorem statusKeyForm (code : String) : StatusKeyForm code (statusKey code) := by
  unfold statusKey
  cases hconstant : statusConstant? code with
  | some name => exact .constant name (mem_statusConstants hconstant) rfl
  | none =>
    simp only
    split
    · rename_i hnumber
      have hchars : code.toList ≠ [] := by simpa using hnumber.1
      obtain ⟨c, rest, hcode⟩ := List.exists_cons_of_ne_nil hchars
      have hdigit : c.isDigit := List.all_eq_true.mp hnumber.2 c (by simp [hcode])
      exact .number c rest hcode hdigit rfl
    · exact .quoted rfl

/-- No key begins like one of another form. -/
private theorem StatusKeyForm.eq_of_eq {a b key : String} (ha : StatusKeyForm a key)
    (hb : StatusKeyForm b key) : a = b := by
  have hfirst {s t : String} (hs : key = s) (ht : key = t) : s.toList.head? = t.toList.head? := by
    rw [← hs, ht]
  have hletter : ¬ 'H'.isDigit := by decide
  have hquote : ¬ '"'.isDigit := by decide
  cases ha with
  | constant name hname hakey =>
    cases hb with
    | constant other hother hbkey =>
      rw [hakey, String.append_right_inj] at hbkey
      exact statusConstants_inj _ hname _ hother hbkey
    | number c rest hcode hdigit hbkey =>
      have hc : 'H' = c := by simpa [hcode] using hfirst hakey hbkey
      exact absurd (hc ▸ hdigit) hletter
    | quoted hbkey => simpa using hfirst hakey hbkey
  | number c rest hcode hdigit hakey =>
    cases hb with
    | constant other hother hbkey =>
      have hc : c = 'H' := by simpa [hcode] using hfirst hakey hbkey
      exact absurd (hc ▸ hdigit) hletter
    | number d more _ _ hbkey => rw [← hakey, hbkey]
    | quoted hbkey =>
      have hc : c = '"' := by simpa [hcode] using hfirst hakey hbkey
      exact absurd (hc ▸ hdigit) hquote
  | quoted hakey =>
    cases hb with
    | constant other hother hbkey => simpa using hfirst hakey hbkey
    | number c rest hcode hdigit hbkey =>
      have hc : '"' = c := by simpa [hcode] using hfirst hakey hbkey
      exact absurd (hc ▸ hdigit) hquote
    | quoted hbkey =>
      rwa [hakey, String.append_left_inj, String.append_right_inj] at hbkey

theorem statusKey_injective : Function.Injective statusKey := fun a b hsame =>
  (statusKeyForm a).eq_of_eq (hsame ▸ statusKeyForm b)

end ApiSkeleton.Emit
