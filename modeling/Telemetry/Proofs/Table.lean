import Telemetry.Table

/-!
# What is in a table

A table is known by its look-ups: an entry is there exactly if its key has its value
(`mem_entries_iff`).  Listed by key, the entries increase strictly (`pairwise_sorted`), so two
tables that agree on every key list the same (`sorted_congr`), whatever the order of arrival.
-/

namespace Telemetry.Table

variable {κ α β γ : Type}

/-! ### Entries and look-ups -/

section

variable [DecidableEq κ]

theorem valueIn_eq_some {key : κ} {a : α} {l : List (κ × α)} (h : valueIn key l = some a) :
    (key, a) ∈ l := by
  induction l with
  | nil => cases h
  | cons e rest ih =>
    obtain ⟨k, b⟩ := e
    by_cases hk : k = key
    · subst hk
      simp only [valueIn, if_true, Option.some.injEq] at h
      exact h ▸ List.mem_cons_self
    · simp only [valueIn, hk, if_false] at h
      exact List.mem_cons_of_mem _ (ih h)

/-- With distinct keys, an entry is the first one of its key. -/
theorem valueIn_of_mem {key : κ} {a : α} {l : List (κ × α)} (distinct : (l.map (·.1)).Nodup)
    (h : (key, a) ∈ l) : valueIn key l = some a := by
  induction l with
  | nil => cases h
  | cons e rest ih =>
    obtain ⟨k, b⟩ := e
    rw [List.map_cons, List.nodup_cons] at distinct
    rcases List.mem_cons.1 h with heq | hrest
    · cases heq
      simp [valueIn]
    · have hk : k ≠ key := by
        rintro rfl
        exact distinct.1 (List.mem_map.2 ⟨_, hrest, rfl⟩)
      simp only [valueIn, hk, if_false]
      exact ih distinct.2 hrest

/-- **An entry is there exactly if its key has its value.** -/
theorem mem_entries_iff {t : Table κ α} {key : κ} {a : α} :
    (key, a) ∈ t.entries ↔ t.get? key = some a :=
  ⟨valueIn_of_mem t.distinct, valueIn_eq_some⟩

/-- Values can be changed before or after a look-up. -/
theorem valueIn_map (f : α → β) (key : κ) (l : List (κ × α)) :
    valueIn key (l.map fun e => (e.1, f e.2)) = (valueIn key l).map f := by
  induction l with
  | nil => rfl
  | cons e rest ih =>
    obtain ⟨k, b⟩ := e
    by_cases hk : k = key
    · simp [valueIn, hk]
    · simp [valueIn, hk, ih]

/-! ### Tables of lists -/

theorem putIn_of_not_mem {key : κ} {value : α} {l : List (κ × α)} (h : key ∉ l.map (·.1)) :
    putIn key value l = l ++ [(key, value)] := by
  induction l with
  | nil => rfl
  | cons e rest ih =>
    obtain ⟨k, b⟩ := e
    rw [List.map_cons, List.mem_cons, not_or] at h
    have hk : k ≠ key := fun heq => h.1 heq.symm
    simp only [putIn, hk, if_false, ih h.2, List.cons_append]

/-- Putting the entries of a list of new, distinct keys adds them in order. -/
theorem entries_foldl_put (l : List (κ × α)) (t : Table κ α)
    (distinct : (t.entries.map (·.1) ++ l.map (·.1)).Nodup) :
    (l.foldl (fun t e => t.put e.1 e.2) t).entries = t.entries ++ l := by
  induction l generalizing t with
  | nil => simp
  | cons e rest ih =>
    have hnew : e.1 ∉ t.entries.map (·.1) := by
      intro hmem
      exact (List.nodup_append.1 distinct).2.2 e.1 hmem e.1 (by simp) rfl
    have hput : (t.put e.1 e.2).entries = t.entries ++ [e] := putIn_of_not_mem hnew
    rw [List.foldl_cons, ih, hput, List.append_assoc, List.singleton_append]
    rw [hput]
    simpa using distinct

/-- The table of a list of distinct keys has the entries of the list. -/
theorem entries_ofList {l : List (κ × α)} (distinct : (l.map (·.1)).Nodup) :
    (ofList l).entries = l := by
  have h := entries_foldl_put l (.empty : Table κ α) (by simpa [empty] using distinct)
  simpa [empty, ofList] using h

end

/-! ### Order -/

theorem mem_sorted {t : Table String α} {e : String × α} : e ∈ t.sorted ↔ e ∈ t.entries :=
  t.sorted_perm.mem_iff

/-- An entry is listed exactly if its key has its value. -/
theorem mem_sorted_iff {t : Table String α} {key : String} {a : α} :
    (key, a) ∈ t.sorted ↔ t.get? key = some a :=
  mem_sorted.trans mem_entries_iff

/-- The keys of a table are listed once each. -/
theorem nodup_sorted (t : Table String α) : (t.sorted.map (·.1)).Nodup :=
  (t.sorted_perm.map (·.1)).nodup_iff.2 t.distinct

/-- **The listing of a table increases strictly.** -/
theorem pairwise_sorted (t : Table String α) : t.sorted.Pairwise fun a b => a.1 < b.1 := by
  have increasing : t.sorted.Pairwise fun a b => decide (a.1 ≤ b.1) = true := by
    refine List.pairwise_mergeSort ?_ ?_ _
    · intro a b c hab hbc
      simp only [decide_eq_true_eq] at hab hbc ⊢
      exact String.le_trans hab hbc
    · intro a b
      simp only [Bool.or_eq_true, decide_eq_true_eq]
      exact String.le_total a.1 b.1
  have distinct : t.sorted.Pairwise fun a b => a.1 ≠ b.1 := by
    simpa [List.Nodup, List.pairwise_map] using t.nodup_sorted
  refine (increasing.and distinct).imp ?_
  intro a b ⟨hle, hne⟩
  refine String.not_le.1 fun hge => hne ?_
  exact String.le_antisymm (of_decide_eq_true hle) hge

/-- Strictly increasing lists of the same entries are equal. -/
theorem eq_of_pairwise_lt {l₁ l₂ : List (String × α)}
    (h₁ : l₁.Pairwise fun a b => a.1 < b.1) (h₂ : l₂.Pairwise fun a b => a.1 < b.1)
    (h : ∀ e, e ∈ l₁ ↔ e ∈ l₂) : l₁ = l₂ := by
  have nodup {l : List (String × α)} (hl : l.Pairwise fun a b => a.1 < b.1) : l.Nodup := by
    refine List.Pairwise.imp ?_ hl
    rintro a b hab rfl
    exact String.lt_irrefl a.1 hab
  refine List.Perm.eq_of_pairwise ?_ h₁ h₂ ((List.perm_ext_iff_of_nodup (nodup h₁) (nodup h₂)).2 h)
  intro a b _ _ hab hba
  exact absurd hba (String.lt_asymm hab)

/-- **Tables that agree on every key list the same**, up to what their values are read as. -/
theorem sorted_congr {s : Table String α} {t : Table String β} {f : α → γ} {g : β → γ}
    (h : ∀ key, (s.get? key).map f = (t.get? key).map g) :
    s.sorted.map (fun e => (e.1, f e.2)) = t.sorted.map fun e => (e.1, g e.2) := by
  apply eq_of_pairwise_lt
  · simpa [List.pairwise_map] using s.pairwise_sorted
  · simpa [List.pairwise_map] using t.pairwise_sorted
  · rintro ⟨key, c⟩
    have listed {δ : Type} (u : Table String δ) (k : δ → γ) :
        (key, c) ∈ u.sorted.map (fun e => (e.1, k e.2)) ↔ (u.get? key).map k = some c := by
      rw [List.mem_map, Option.map_eq_some_iff]
      constructor
      · rintro ⟨⟨_, d⟩, hd, heq⟩
        cases heq
        exact ⟨d, mem_sorted_iff.1 hd, rfl⟩
      · rintro ⟨d, hd, rfl⟩
        exact ⟨(key, d), mem_sorted_iff.2 hd, rfl⟩
    rw [listed s f, listed t g, h key]

end Telemetry.Table
