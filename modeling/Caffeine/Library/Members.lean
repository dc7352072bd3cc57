/-
# Objects filled member by member

An object is filled in a loop over entries, each of which may give it a member.

* `Members.insertAll` : the object after the loop;
* `Members.Distinct` : no two entries give members of one key;
* `Members.lookup_insertAll_iff` : which members the object then has.
-/
import Mathlib.Data.Finmap

namespace Members

variable {ι κ ν : Type*} [DecidableEq κ]

/-- The object with the member that the entry gives. -/
def insert (member : ι → Option (κ × ν)) (object : Finmap fun _ : κ => ν) (entry : ι) :
    Finmap fun _ : κ => ν :=
  match member entry with
  | some (key, value) => object.insert key value
  | none => object

/-- The object with the members that the entries give, one after another. -/
def insertAll (member : ι → Option (κ × ν)) (object : Finmap fun _ : κ => ν)
    (entries : List ι) : Finmap fun _ : κ => ν :=
  entries.foldl (insert member) object

/-- No two of the entries give members of one key. -/
def Distinct (member : ι → Option (κ × ν)) (entries : List ι) : Prop :=
  entries.Pairwise fun e e' => ∀ key value value', member e = some (key, value) →
    member e' ≠ some (key, value')

variable {member : ι → Option (κ × ν)} {object : Finmap fun _ : κ => ν} {entries : List ι}
  {entry : ι} {key : κ} {value : ν}

theorem lookup_insert_of_eq (h : member entry = some (key, value)) :
    (insert member object entry).lookup key = some value := by
  unfold insert
  rw [h]
  exact Finmap.lookup_insert object

theorem lookup_insert_of_ne (h : ∀ value, member entry ≠ some (key, value)) :
    (insert member object entry).lookup key = object.lookup key := by
  unfold insert
  rcases hmember : member entry with _ | ⟨key', value'⟩
  · rfl
  · apply Finmap.lookup_insert_of_ne
    rintro rfl
    exact h value' hmember

/-- A key that no entry gives is left alone. -/
theorem lookup_insertAll_of_ne (h : ∀ e ∈ entries, ∀ value, member e ≠ some (key, value)) :
    (insertAll member object entries).lookup key = object.lookup key := by
  induction entries generalizing object with
  | nil => rfl
  | cons e entries ih =>
      rw [List.forall_mem_cons] at h
      show (insertAll member (insert member object e) entries).lookup key = _
      rw [ih h.2, lookup_insert_of_ne h.1]

/-- A member that an entry gives is there. -/
theorem lookup_insertAll_of_mem (hdistinct : Distinct member entries) (hmem : entry ∈ entries)
    (h : member entry = some (key, value)) :
    (insertAll member object entries).lookup key = some value := by
  induction entries generalizing object with
  | nil => cases hmem
  | cons e entries ih =>
      obtain ⟨hfirst, hrest⟩ := List.pairwise_cons.mp hdistinct
      show (insertAll member (insert member object e) entries).lookup key = some value
      rcases List.mem_cons.mp hmem with rfl | hmem
      · rw [lookup_insertAll_of_ne fun e' he' value' => hfirst e' he' key value value' h]
        exact lookup_insert_of_eq h
      · exact ih hrest hmem

/-- **The members of the object**: those that the entries give, and no others beside those
that it had. -/
theorem lookup_insertAll_iff (hdistinct : Distinct member entries)
    (hobject : object.lookup key = none) :
    (insertAll member object entries).lookup key = some value ↔
      ∃ e ∈ entries, member e = some (key, value) := by
  constructor
  · intro h
    by_cases hgiven : ∃ e ∈ entries, ∃ value, member e = some (key, value)
    · obtain ⟨e, he, value', hmember⟩ := hgiven
      rw [lookup_insertAll_of_mem hdistinct he hmember] at h
      rw [← Option.some.inj h]
      exact ⟨e, he, hmember⟩
    · have hnone : ∀ e ∈ entries, ∀ value, member e ≠ some (key, value) :=
        fun e he value' hmember => hgiven ⟨e, he, value', hmember⟩
      rw [lookup_insertAll_of_ne hnone, hobject] at h
      cases h
  · rintro ⟨e, he, hmember⟩
    exact lookup_insertAll_of_mem hdistinct he hmember

end Members
