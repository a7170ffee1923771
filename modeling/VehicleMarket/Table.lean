/-!
Tables: finite maps kept as association lists in strictly increasing key order.
A table with given members has one representation, so equal tables are equal lists
and the order of insertion leaves no trace. The lemmas say what each operation does to look-ups;
they hold of any association list, sorted or not.
-/
namespace VehicleMarket

abbrev Table (κ α : Type) := List (κ × α)

namespace Table

section Lookup

variable {κ α : Type} [DecidableEq κ]

def find? (table : Table κ α) (key : κ) : Option α :=
  match table with
  | [] => none
  | (k, v) :: rest => if key = k then some v else find? rest key

def contains (table : Table κ α) (key : κ) : Bool :=
  (find? table key).isSome

def erase (table : Table κ α) (key : κ) : Table κ α :=
  match table with
  | [] => []
  | (k, v) :: rest => if key = k then rest else (k, v) :: erase rest key

/-- Changes the value under a key; an absent key leaves the table as it is. -/
def modify (table : Table κ α) (key : κ) (change : α → α) : Table κ α :=
  match table with
  | [] => []
  | (k, v) :: rest => if key = k then (k, change v) :: rest else (k, v) :: modify rest key change

def keys (table : Table κ α) : List κ :=
  table.map Prod.fst

def values (table : Table κ α) : List α :=
  table.map Prod.snd

theorem find?_cons (entry : κ × α) (rest : Table κ α) (key : κ) :
    find? (entry :: rest) key = if key = entry.1 then some entry.2 else find? rest key :=
  rfl

theorem mem_of_find? {table : Table κ α} {key : κ} {value : α}
    (h : find? table key = some value) : (key, value) ∈ table := by
  induction table with
  | nil => simp [find?] at h
  | cons entry rest ih =>
    rw [find?_cons] at h
    split at h
    · rename_i eq
      obtain rfl : entry.2 = value := Option.some.inj h
      simp [eq]
    · exact List.mem_cons_of_mem _ (ih h)

theorem find?_eq_none_iff {table : Table κ α} {key : κ} :
    find? table key = none ↔ key ∉ keys table := by
  induction table with
  | nil => simp [find?, keys]
  | cons entry rest ih =>
    rw [find?_cons]
    by_cases eq : key = entry.1
    · simp [eq, keys]
    · simpa [eq, keys] using ih

theorem find?_erase_of_ne (table : Table κ α) {key other : κ} (h : other ≠ key) :
    find? (erase table key) other = find? table other := by
  induction table with
  | nil => rfl
  | cons entry rest ih =>
    unfold erase
    split
    · rename_i eq
      rw [find?_cons, if_neg (eq ▸ h)]
    · rw [find?_cons, find?_cons, ih]

theorem find?_modify_self (table : Table κ α) (key : κ) (change : α → α) :
    find? (modify table key change) key = (find? table key).map change := by
  induction table with
  | nil => rfl
  | cons entry rest ih =>
    unfold modify
    split
    · rename_i eq
      simp [find?, eq]
    · rename_i ne
      rw [find?_cons, find?_cons, if_neg ne, if_neg ne, ih]

theorem find?_modify_of_ne (table : Table κ α) {key other : κ} (change : α → α)
    (h : other ≠ key) : find? (modify table key change) other = find? table other := by
  induction table with
  | nil => rfl
  | cons entry rest ih =>
    unfold modify
    split
    · rename_i eq
      rw [find?_cons, find?_cons, if_neg (eq ▸ h), if_neg (eq ▸ h)]
    · rw [find?_cons, find?_cons, ih]

end Lookup

section Values

variable {κ α β : Type}

def mapValues (table : Table κ α) (change : α → β) : Table κ β :=
  table.map fun entry => (entry.1, change entry.2)

theorem keys_mapValues (table : Table κ α) (change : α → β) :
    keys (mapValues table change) = keys table := by
  simp [keys, mapValues]

end Values

section Order

variable {κ α : Type} [LT κ] [DecidableLT κ] [DecidableEq κ]

/-- Puts a value under a key, replacing the one that was there. -/
def insert (table : Table κ α) (key : κ) (value : α) : Table κ α :=
  match table with
  | [] => [(key, value)]
  | (k, v) :: rest =>
    if key < k then (key, value) :: (k, v) :: rest
    else if key = k then (key, value) :: rest
    else (k, v) :: insert rest key value

/-- Reads entries in order of appearance; of two with one key the later wins. -/
def ofList (entries : List (κ × α)) : Table κ α :=
  entries.foldl (fun table entry => insert table entry.1 entry.2) []

def Sorted (table : Table κ α) : Prop :=
  table.Pairwise fun a b => a.1 < b.1

theorem find?_insert_self (table : Table κ α) (key : κ) (value : α) :
    find? (insert table key value) key = some value := by
  induction table with
  | nil => simp [insert, find?]
  | cons entry rest ih =>
    unfold insert
    split
    · simp [find?]
    · split
      · simp [find?]
      · rename_i ne
        rw [find?_cons, if_neg ne]
        exact ih

theorem find?_insert_of_ne (table : Table κ α) {key other : κ} (value : α) (h : other ≠ key) :
    find? (insert table key value) other = find? table other := by
  induction table with
  | nil => simp [insert, find?, h]
  | cons entry rest ih =>
    unfold insert
    split
    · rw [find?_cons, if_neg h]
    · split
      · rename_i eq
        rw [find?_cons, find?_cons, if_neg h, if_neg (eq ▸ h)]
      · rw [find?_cons, find?_cons, ih]

end Order

end Table

end VehicleMarket
