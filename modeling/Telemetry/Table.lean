/-!
# Tables

A table gives values to keys.  It remembers the order in which keys came in: putting a value
for a key that is there keeps its place, and a new key comes last.  Each operation is known
by what `get?` says afterwards, and `ext_entries` says that the entries are all there is.
-/

namespace Telemetry

/-- Values of distinct keys, in order of arrival. -/
structure Table (κ α : Type) where
  entries : List (κ × α)
  distinct : (entries.map (·.1)).Nodup

namespace Table

variable {κ α : Type}

theorem ext_entries {s t : Table κ α} (h : s.entries = t.entries) : s = t := by
  cases s; cases t; cases h; rfl

instance [DecidableEq κ] [DecidableEq α] : DecidableEq (Table κ α) := fun s t =>
  if h : s.entries = t.entries then isTrue (ext_entries h)
  else isFalse fun e => h (congrArg entries e)

/-- The table without entries. -/
def empty : Table κ α := ⟨[], .nil⟩

instance : EmptyCollection (Table κ α) := ⟨empty⟩

def keys (t : Table κ α) : List κ := t.entries.map (·.1)

def size (t : Table κ α) : Nat := t.entries.length

variable [DecidableEq κ]

def valueIn (key : κ) : List (κ × α) → Option α
  | [] => none
  | (k, a) :: rest => if k = key then some a else valueIn key rest

def get? (t : Table κ α) (key : κ) : Option α := valueIn key t.entries

/-- Entries with a value for a key, in its place if it has one and last if it has none. -/
def putIn (key : κ) (value : α) : List (κ × α) → List (κ × α)
  | [] => [(key, value)]
  | (k, a) :: rest => if k = key then (key, value) :: rest else (k, a) :: putIn key value rest

theorem keys_putIn (key : κ) (value : α) (l : List (κ × α)) :
    (putIn key value l).map (·.1)
      = if key ∈ l.map (·.1) then l.map (·.1) else l.map (·.1) ++ [key] := by
  induction l with
  | nil => simp [putIn]
  | cons e rest ih =>
    obtain ⟨k, a⟩ := e
    by_cases h : k = key
    · simp [putIn, h]
    · have h' : ¬ key = k := fun e => h e.symm
      simp only [putIn, h, if_false, List.map_cons, ih, List.mem_cons, h', false_or]
      split <;> rfl

def put (t : Table κ α) (key : κ) (value : α) : Table κ α where
  entries := putIn key value t.entries
  distinct := by
    rw [keys_putIn]
    split
    · exact t.distinct
    next h =>
      exact List.nodup_append.2 ⟨t.distinct, by simp, fun a ha b hb => by
        simp only [List.mem_singleton] at hb
        rintro rfl
        exact h (hb ▸ ha)⟩

def erase (t : Table κ α) (key : κ) : Table κ α where
  entries := t.entries.filter fun e => e.1 ≠ key
  distinct := t.distinct.sublist (List.Sublist.map _ List.filter_sublist)

/-- The table of a list, in which the last entry of a key counts. -/
def ofList (l : List (κ × α)) : Table κ α :=
  l.foldl (fun t e => t.put e.1 e.2) empty

/-! ### What is found afterwards -/

@[simp] theorem get?_empty (key : κ) : (empty : Table κ α).get? key = none := rfl

theorem valueIn_putIn (key other : κ) (value : α) (l : List (κ × α)) :
    valueIn other (putIn key value l) = if key = other then some value else valueIn other l := by
  induction l with
  | nil => simp [putIn, valueIn]
  | cons e rest ih =>
    obtain ⟨k, a⟩ := e
    by_cases hk : k = key
    · by_cases ho : key = other <;> simp [putIn, valueIn, hk, ho]
    · simp only [putIn, hk, if_false, valueIn, ih]
      by_cases ho : key = other
      · subst ho; simp [hk]
      · simp [ho]

theorem get?_put (t : Table κ α) (key other : κ) (value : α) :
    (t.put key value).get? other = if key = other then some value else t.get? other :=
  valueIn_putIn key other value t.entries

@[simp] theorem get?_put_self (t : Table κ α) (key : κ) (value : α) :
    (t.put key value).get? key = some value := by
  simp [get?_put]

theorem get?_put_of_ne (t : Table κ α) {key other : κ} (value : α) (h : key ≠ other) :
    (t.put key value).get? other = t.get? other := by
  simp [get?_put, h]

theorem valueIn_filter (key other : κ) (l : List (κ × α)) :
    valueIn other (l.filter fun e => e.1 ≠ key) = if key = other then none else valueIn other l := by
  induction l with
  | nil => simp [valueIn]
  | cons e rest ih =>
    obtain ⟨k, a⟩ := e
    by_cases hk : k = key
    · subst hk
      simp only [List.filter, ne_eq, not_true, decide_false, valueIn, ih]
      by_cases ho : k = other <;> simp [ho]
    · simp only [List.filter, ne_eq, hk, not_false_eq_true, decide_true, valueIn, ih]
      by_cases ho : key = other
      · subst ho; simp [hk]
      · simp [ho]

theorem get?_erase (t : Table κ α) (key other : κ) :
    (t.erase key).get? other = if key = other then none else t.get? other :=
  valueIn_filter key other t.entries

/-! ### Order -/

def sorted (t : Table String α) : List (String × α) :=
  t.entries.mergeSort fun a b => a.1 ≤ b.1

theorem sorted_perm (t : Table String α) : t.sorted.Perm t.entries := List.mergeSort_perm _ _

end Table
end Telemetry
