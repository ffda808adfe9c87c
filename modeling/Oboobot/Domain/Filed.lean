import Mathlib.Data.List.Nodup
import Mathlib.Algebra.BigOperators.Group.List.Basic

/-! Values that carry their own key, filed under it: what a hash map holds whose
entries are only ever inserted under a field of theirs. The order means nothing. -/

namespace Oboobot.Domain

variable {Key Value : Type} [DecidableEq Key]

/-- At most one value for each key. -/
structure Filed (key : Value → Key) where
  values : List Value
  distinct : (values.map key).Nodup

namespace Filed

variable {key : Value → Key}

def empty : Filed key where
  values := []
  distinct := .nil

def get? (filed : Filed key) (wanted : Key) : Option Value :=
  filed.values.find? fun value => key value = wanted

def remove (filed : Filed key) (unwanted : Key) : Filed key where
  values := filed.values.filter fun value => key value ≠ unwanted
  distinct := filed.distinct.sublist (List.filter_sublist.map _)

/-- A value replaces the one with its key. -/
def insert (filed : Filed key) (value : Value) : Filed key where
  values := (filed.remove (key value)).values ++ [value]
  distinct := by
    rw [List.map_append, List.map_singleton, List.nodup_append']
    refine ⟨(filed.remove (key value)).distinct, List.nodup_singleton _, ?_⟩
    rw [List.disjoint_singleton]
    simp [remove]

variable {filed : Filed key}

theorem mem_remove {value : Value} {unwanted : Key} :
    value ∈ (filed.remove unwanted).values ↔ value ∈ filed.values ∧ key value ≠ unwanted := by
  simp [remove]

theorem mem_insert {value other : Value} :
    other ∈ (filed.insert value).values ↔
      (other ∈ filed.values ∧ key other ≠ key value) ∨ other = value := by
  simp [insert, mem_remove]

theorem mem_of_get? {value : Value} {wanted : Key} (found : filed.get? wanted = some value) :
    value ∈ filed.values ∧ key value = wanted :=
  ⟨List.mem_of_find?_eq_some found, by simpa using List.find?_some found⟩

theorem get?_eq_none_iff {wanted : Key} :
    filed.get? wanted = none ↔ ∀ value ∈ filed.values, key value ≠ wanted := by
  simp [get?]

/-- A fresh value joins the others. -/
theorem values_insert {value : Value} (fresh : filed.get? (key value) = none) :
    (filed.insert value).values = filed.values ++ [value] := by
  have kept : filed.values.filter (fun other => key other ≠ key value) = filed.values := by
    refine List.filter_eq_self.mpr fun other member => ?_
    simpa using get?_eq_none_iff.mp fresh other member
  simp only [insert, remove]
  rw [kept]

section total
variable {Amount : Type} [AddCommMonoid Amount] (amount : Value → Amount)

/-- What the values amount to together. -/
def total (filed : Filed key) : Amount := (filed.values.map amount).sum

/-- What is taken out is what was found under the key. -/
theorem total_remove (filed : Filed key) (unwanted : Key) :
    (filed.remove unwanted).total amount + ((filed.get? unwanted).map amount).getD 0 =
      filed.total amount := by
  obtain ⟨values, distinct⟩ := filed
  simp only [total, remove, get?]
  induction values with
  | nil => simp
  | cons value rest ih =>
    obtain ⟨apart, others⟩ := List.nodup_cons.mp distinct
    by_cases same : key value = unwanted
    · subst same
      have untouched : rest.filter (fun other => key other ≠ key value) = rest := by
        refine List.filter_eq_self.mpr fun other member => ?_
        have differs : key other ≠ key value := fun equal =>
          apart (equal ▸ List.mem_map_of_mem member)
        simpa using differs
      rw [List.filter_cons_of_neg (by simp), untouched]
      simp [add_comm]
    · have rest' := ih others
      simp only [List.filter_cons, same, List.find?_cons, ne_eq, not_false_eq_true, decide_true,
        decide_false, if_true, List.map_cons, List.sum_cons, add_assoc]
      exact congrArg _ (by simpa using rest')

/-- What goes out is what was filed under the key before. -/
theorem total_insert (filed : Filed key) (value : Value) :
    (filed.insert value).total amount + ((filed.get? (key value)).map amount).getD 0 =
      filed.total amount + amount value := by
  have split : (filed.insert value).total amount =
      (filed.remove (key value)).total amount + amount value := by
    simp [total, insert]
  rw [split, add_right_comm, total_remove]

end total

end Filed

end Oboobot.Domain
