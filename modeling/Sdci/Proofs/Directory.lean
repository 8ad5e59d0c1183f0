import Sdci.Directory

/-! # The entries of a directory

Keys are told apart by their ranks. What is found under a key after a change depends on that change
and on what was there before, and the order of the entries survives every change.

* `Directory.find?_insert`, `Directory.find?_erase`, `Directory.find?_map`: what is found after a
  change.
* `Directory.Ascending`: the entries are in strictly ascending order.
* `Directory.Ascending.find?_eq_some_iff`: then what is found are the entries.
-/

namespace Sdci.Directory
set_option autoImplicit false

variable {κ α : Type} [Ranked κ]

/-! ## What is found -/

theorem find?_empty (k : κ) : ({} : Directory κ α).find? k = none := rfl

theorem find?_map {β : Type} (d : Directory κ α) (f : α → β) (k : κ) :
    (d.map f).find? k = (d.find? k).map f := by
  unfold find? map
  rw [List.find?_map, Option.map_map, Option.map_map]
  rfl

/-- Among the entries that satisfy `p`, a key is found like before if `p` holds of its entries. -/
theorem find?_filter_of_imp {p : κ × α → Bool} {k : κ} (entries : List (κ × α))
    (h : ∀ e ∈ entries, Ranked.rank e.1 = Ranked.rank k → p e = true) :
    (entries.filter p).find? (fun e => Ranked.rank e.1 == Ranked.rank k) =
      entries.find? fun e => Ranked.rank e.1 == Ranked.rank k := by
  induction entries with
  | nil => rfl
  | cons e rest ih =>
    have later := ih fun x mem => h x (List.mem_cons_of_mem e mem)
    by_cases same : Ranked.rank e.1 = Ranked.rank k
    · rw [List.filter_cons_of_pos (h e List.mem_cons_self same)]
      simp [same]
    · rw [List.find?_cons_of_neg (by simpa using same), ← later]
      cases keep : p e with
      | true => rw [List.filter_cons_of_pos keep, List.find?_cons_of_neg (by simpa using same)]
      | false => rw [List.filter_cons_of_neg (by simp [keep])]

/-- Among entries that satisfy `p`, a key is not found if `p` excludes it. -/
theorem find?_filter_eq_none {p : κ × α → Bool} {k : κ} (entries : List (κ × α))
    (h : ∀ e ∈ entries, Ranked.rank e.1 = Ranked.rank k → p e = false) :
    (entries.filter p).find? (fun e => Ranked.rank e.1 == Ranked.rank k) = none := by
  refine List.find?_eq_none.2 fun e mem same => ?_
  obtain ⟨mem, kept⟩ := List.mem_filter.1 mem
  rw [h e mem (beq_iff_eq.1 same)] at kept
  cases kept

theorem find?_erase (d : Directory κ α) (k j : κ) :
    (d.erase k).find? j = if Ranked.rank j = Ranked.rank k then none else d.find? j := by
  unfold find? erase
  split
  · rename_i same
    rw [find?_filter_eq_none _ fun e _ own => by simp [own, same]]
    rfl
  · rename_i other
    rw [find?_filter_of_imp _ fun e _ own => by simpa [own] using other]

theorem find?_insert (d : Directory κ α) (k : κ) (a : α) (j : κ) :
    (d.insert k a).find? j = if Ranked.rank j = Ranked.rank k then some a else d.find? j := by
  unfold find? insert
  dsimp only
  rw [List.find?_append]
  rcases Nat.lt_trichotomy (Ranked.rank j) (Ranked.rank k) with before | same | after
  · rw [find?_filter_of_imp _ fun e _ own => by simpa [own] using before,
      List.find?_cons_of_neg (by simpa using (Nat.ne_of_lt before).symm),
      find?_filter_eq_none _ fun e _ own => by simpa [own] using Nat.le_of_lt before,
      Option.or_none, if_neg (Nat.ne_of_lt before)]
  · rw [find?_filter_eq_none _ fun e _ own => by simp [own, same], Option.none_or,
      List.find?_cons_of_pos (by simpa using same.symm), if_pos same]
    rfl
  · rw [find?_filter_eq_none _ fun e _ own => by simpa [own] using Nat.le_of_lt after,
      Option.none_or, List.find?_cons_of_neg (by simpa using Nat.ne_of_lt after),
      find?_filter_of_imp _ fun e _ own => by simpa [own] using after,
      if_neg (Nat.ne_of_lt after).symm]

/-! ## Order -/

/-- The entries are in strictly ascending order of their keys. -/
def Ascending (d : Directory κ α) : Prop :=
  d.entries.Pairwise fun e f => Ranked.rank e.1 < Ranked.rank f.1

namespace Ascending

variable {d : Directory κ α}

theorem map {β : Type} (h : d.Ascending) (f : α → β) : (d.map f).Ascending :=
  List.pairwise_map.2 h

theorem erase (h : d.Ascending) (k : κ) : (d.erase k).Ascending := List.Pairwise.filter _ h

theorem insert (h : d.Ascending) (k : κ) (a : α) : (d.insert k a).Ascending := by
  have below {e : κ × α} (mem : e ∈ d.entries.filter (Ranked.rank ·.1 < Ranked.rank k)) :
      Ranked.rank e.1 < Ranked.rank k := by
    simpa using (List.mem_filter.1 mem).2
  have above {e : κ × α} (mem : e ∈ d.entries.filter (Ranked.rank k < Ranked.rank ·.1)) :
      Ranked.rank k < Ranked.rank e.1 := by
    simpa using (List.mem_filter.1 mem).2
  refine List.pairwise_append.2 ⟨List.Pairwise.filter _ h,
    List.pairwise_cons.2 ⟨fun e mem => above mem, List.Pairwise.filter _ h⟩, fun e low f high => ?_⟩
  rcases List.mem_cons.1 high with rfl | high
  · exact below low
  · exact Nat.lt_trans (below low) (above high)

theorem keys (h : d.Ascending) : d.keys.Pairwise fun k j => Ranked.rank k < Ranked.rank j :=
  List.pairwise_map.2 h

/-- No two entries have one key. -/
theorem find?_eq_some_iff (h : d.Ascending) {k : κ} {a : α} :
    d.find? k = some a ↔ ∃ j, Ranked.rank j = Ranked.rank k ∧ (j, a) ∈ d.entries := by
  obtain ⟨entries⟩ := d
  unfold Ascending at h
  unfold find?
  induction entries with
  | nil => simp
  | cons e rest ih =>
    obtain ⟨first, later⟩ := List.pairwise_cons.1 h
    by_cases same : Ranked.rank e.1 = Ranked.rank k
    · rw [List.find?_cons_of_pos (by simpa using same), Option.map_some, Option.some.injEq]
      constructor
      · rintro rfl
        exact ⟨e.1, same, List.mem_cons_self⟩
      · rintro ⟨j, own, mem⟩
        rcases List.mem_cons.1 mem with rfl | mem
        · rfl
        · have apart : Ranked.rank e.1 < Ranked.rank j := first _ mem
          omega
    · rw [List.find?_cons_of_neg (by simpa using same), ih later]
      constructor
      · rintro ⟨j, own, mem⟩
        exact ⟨j, own, List.mem_cons_of_mem e mem⟩
      · rintro ⟨j, own, mem⟩
        rcases List.mem_cons.1 mem with rfl | mem
        · exact absurd own same
        · exact ⟨j, own, mem⟩

end Ascending

theorem ascending_empty : ({} : Directory κ α).Ascending := .nil

end Sdci.Directory
