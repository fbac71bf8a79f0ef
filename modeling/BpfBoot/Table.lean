namespace BpfBoot.Table

variable {α β : Type} [DecidableEq α]

def get? (key : α) (entries : List (α × β)) : Option β := entries.lookup key

def put (key : α) (value : β) : List (α × β) → List (α × β)
  | [] => [(key, value)]
  | entry :: rest => if entry.1 = key then (key, value) :: rest else entry :: put key value rest

theorem get?_put (key k : α) (value : β) (entries : List (α × β)) :
    get? k (put key value entries) = if k = key then some value else get? k entries := by
  simp only [get?]
  induction entries with
  | nil =>
    by_cases h : k = key
    · simp [put, h]
    · simp [put, List.lookup_cons, beq_false_of_ne h, h]
  | cons entry rest ih =>
    obtain ⟨name, old⟩ := entry
    rw [put]
    by_cases hn : name = key
    · by_cases h : k = key
      · simp [hn, h]
      · simp [hn, List.lookup_cons, beq_false_of_ne h, h]
    · by_cases h : k = name
      · simp [hn, h]
      · simp only [hn, if_false, List.lookup_cons, beq_false_of_ne h, ih]

theorem map_fst_put_of_mem {key : α} (value : β) {entries : List (α × β)}
    (h : key ∈ entries.map Prod.fst) :
    (put key value entries).map Prod.fst = entries.map Prod.fst := by
  induction entries with
  | nil => simp at h
  | cons entry rest ih =>
    rw [put]
    split
    · simp_all
    · rename_i hne
      simp only [List.map_cons, List.mem_cons] at h ⊢
      rw [ih (h.resolve_left fun he => hne he.symm)]

theorem put_of_not_mem {key : α} (value : β) {entries : List (α × β)}
    (h : key ∉ entries.map Prod.fst) : put key value entries = entries ++ [(key, value)] := by
  induction entries with
  | nil => rfl
  | cons entry rest ih =>
    simp only [List.map_cons, List.mem_cons, not_or] at h
    rw [put, if_neg fun he => h.1 he.symm, ih h.2, List.cons_append]

theorem map_fst_put_of_not_mem {key : α} (value : β) {entries : List (α × β)}
    (h : key ∉ entries.map Prod.fst) :
    (put key value entries).map Prod.fst = entries.map Prod.fst ++ [key] := by
  rw [put_of_not_mem value h, List.map_append, List.map_singleton]

theorem nodup_put (key : α) (value : β) {entries : List (α × β)}
    (h : (entries.map Prod.fst).Nodup) : ((put key value entries).map Prod.fst).Nodup := by
  by_cases hk : key ∈ entries.map Prod.fst
  · rwa [map_fst_put_of_mem value hk]
  · rw [map_fst_put_of_not_mem value hk]
    refine List.nodup_append.2 ⟨h, by simp, fun a ha b hb hab => hk ?_⟩
    rwa [← List.mem_singleton.1 hb, ← hab]

theorem put_of_get? {key : α} {value : β} {entries : List (α × β)}
    (h : get? key entries = some value) : put key value entries = entries := by
  simp only [get?] at h
  induction entries with
  | nil => simp at h
  | cons entry rest ih =>
    obtain ⟨name, old⟩ := entry
    rw [put]
    by_cases hn : key = name
    · subst hn
      simp_all
    · rw [List.lookup_cons, beq_false_of_ne hn] at h
      rw [if_neg fun he => hn he.symm, ih h]

theorem mem_put {key : α} {value : β} {entries : List (α × β)} {entry : α × β}
    (h : entry ∈ put key value entries) : entry = (key, value) ∨ entry ∈ entries := by
  induction entries with
  | nil => exact .inl (by simpa [put] using h)
  | cons first rest ih =>
    rw [put] at h
    split at h
    · exact (List.mem_cons.1 h).imp_right (List.mem_cons_of_mem first)
    · rcases List.mem_cons.1 h with rfl | h
      · exact .inr List.mem_cons_self
      · exact (ih h).imp_right (List.mem_cons_of_mem first)

theorem mem_of_get? {key : α} {value : β} {entries : List (α × β)}
    (h : get? key entries = some value) : (key, value) ∈ entries := by
  simp only [get?] at h
  induction entries with
  | nil => simp at h
  | cons entry rest ih =>
    obtain ⟨name, old⟩ := entry
    by_cases hn : key = name
    · subst hn
      simp_all
    · rw [List.lookup_cons, beq_false_of_ne hn] at h
      exact List.mem_cons_of_mem _ (ih h)

theorem get?_of_mem {key : α} {value : β} {entries : List (α × β)}
    (hkeys : (entries.map Prod.fst).Nodup) (h : (key, value) ∈ entries) :
    get? key entries = some value := by
  simp only [get?]
  induction entries with
  | nil => cases h
  | cons entry rest ih =>
    obtain ⟨name, old⟩ := entry
    obtain ⟨hname, hrest⟩ := List.nodup_cons.1 hkeys
    rcases List.mem_cons.1 h with heq | h
    · cases heq
      exact List.lookup_cons_self
    · have hne : key ≠ name := fun he => hname (List.mem_map.2 ⟨(key, value), h, he⟩)
      rw [List.lookup_cons, beq_false_of_ne hne]
      exact ih hrest h

theorem get?_filter {keep : α → Bool} {key : α} (h : keep key = true) (entries : List (α × β)) :
    get? key (entries.filter fun entry => keep entry.1) = get? key entries := by
  simp only [get?]
  induction entries with
  | nil => rfl
  | cons entry rest ih =>
    obtain ⟨name, old⟩ := entry
    by_cases hn : key = name
    · subst hn
      simp [h]
    · by_cases hk : keep name = true
      · simp [hk, List.lookup_cons, beq_false_of_ne hn, ih]
      · simp [hk, List.lookup_cons, beq_false_of_ne hn, ih]

end BpfBoot.Table
