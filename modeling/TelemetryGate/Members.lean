/-!
# Named members

A list of members sorted by name, no name twice; names compare by code point, which is the order
of their bytes.

* `Members.find?`    the value under a name;
* `Members.insert`   puts a value under a name, over the one that was there;
* `Members.extend`   puts every member of a second list over the first;
* `Members.ofList`   later members over earlier ones;
* `Members.Sorted`   the names ascend;
* `Members.Traversal`   how members come one after another where no order is kept.
-/

namespace TelemetryGate

/-- Values under names, in the order of the names. -/
abbrev Members (α : Type) : Type := List (String × α)

namespace Members

variable {α : Type}

def find? (name : String) : Members α → Option α
  | [] => none
  | (k, v) :: rest => if k = name then some v else find? name rest

/-- Puts a value under a name, over the one that was there. -/
def insert (name : String) (value : α) : Members α → Members α
  | [] => [(name, value)]
  | (k, v) :: rest =>
    if name < k then (name, value) :: (k, v) :: rest
    else if name = k then (name, value) :: rest
    else (k, v) :: insert name value rest

def extend (members further : Members α) : Members α :=
  further.foldl (fun acc m => acc.insert m.1 m.2) members

/-- Later members stand over earlier ones of the same name. -/
def ofList (members : List (String × α)) : Members α := extend [] members

def Sorted (ms : Members α) : Prop := ms.Pairwise fun m n => m.1 < n.1

instance (ms : Members α) : Decidable (Sorted ms) :=
  inferInstanceAs (Decidable (ms.Pairwise fun m n => m.1 < n.1))

/-- How members come one after another where they are kept by a hash of their names: each of them
once, in an order of which nothing is known. -/
structure Traversal (α : Type) where
  visit : Members α → List (String × α)
  perm : ∀ ms, (visit ms).Perm ms

def Traversal.byName : Traversal α := ⟨id, List.Perm.refl⟩

theorem find?_insert_self (name : String) (value : α) (ms : Members α) :
    (ms.insert name value).find? name = some value := by
  induction ms with
  | nil => simp [insert, find?]
  | cons m rest ih =>
    obtain ⟨k, v⟩ := m
    unfold insert
    split
    · simp [find?]
    · split
      · simp [find?]
      · rename_i hne
        simp [find?, Ne.symm hne, ih]

theorem find?_insert_of_ne {name other : String} (h : other ≠ name) (value : α)
    (ms : Members α) : (ms.insert name value).find? other = ms.find? other := by
  induction ms with
  | nil => simp [insert, find?, Ne.symm h]
  | cons m rest ih =>
    obtain ⟨k, v⟩ := m
    unfold insert
    split
    · simp [find?, Ne.symm h]
    · split
      · rename_i heq
        subst heq
        simp [find?, Ne.symm h]
      · simp [find?, ih]

end Members

end TelemetryGate
