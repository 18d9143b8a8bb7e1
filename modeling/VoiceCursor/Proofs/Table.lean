import Mathlib.Data.List.Nodup
import VoiceCursor.Table

namespace VoiceCursor.Table

/-! What is looked up in a table that was made from others. Where keys stay distinct, no
entry hides another. -/

variable {α : Type}

theorem lookup?_eq_some_iff (table : Table α) {key : String} {value : α} :
    table.lookup? key = some value ↔ (key, value) ∈ table.entries := by
  rw [lookup?, List.lookup_eq_some_iff]
  constructor
  · rintro ⟨before, after, hentries, -⟩
    rw [hentries]
    exact List.mem_append_right before List.mem_cons_self
  · intro hentry
    obtain ⟨before, after, hentries⟩ := List.append_of_mem hentry
    refine ⟨before, after, hentries, ?_⟩
    have hdistinct := table.keys_nodup
    rw [hentries, List.map_append, List.map_cons, List.nodup_append] at hdistinct
    intro other hother
    rw [bne_iff_ne]
    exact (hdistinct.2.2 other.1 (List.mem_map_of_mem hother) key List.mem_cons_self).symm

theorem mem_keys_iff (table : Table α) {key : String} :
    key ∈ table.keys ↔ ∃ value, table.lookup? key = some value := by
  simp [keys, lookup?_eq_some_iff]

theorem entries_insert_of_notMem (table : Table α) {key : String} (hkey : key ∉ table.keys)
    (value : α) : (table.insert key value).entries = (key, value) :: table.entries := by
  have hkept : ∀ entry ∈ table.entries, decide (entry.1 ≠ key) = true := by
    intro entry hentry
    refine decide_eq_true fun heq => hkey ?_
    rw [← heq]
    exact List.mem_map_of_mem hentry
  exact congrArg ((key, value) :: ·) (List.filter_eq_self.mpr hkept)

theorem entries_foldl_insert_perm (table : Table α) {entries : List (String × α)}
    (hdistinct : (entries.map Prod.fst ++ table.keys).Nodup) :
    (entries.foldl (fun table entry => table.insert entry.1 entry.2) table).entries.Perm
      (entries ++ table.entries) := by
  induction entries generalizing table with
  | nil => exact .refl _
  | cons entry rest ih =>
      obtain ⟨key, value⟩ := entry
      rw [List.map_cons, List.cons_append, List.nodup_cons, List.mem_append, not_or] at hdistinct
      obtain ⟨⟨hrest, hkey⟩, hdistinct⟩ := hdistinct
      have hentries := table.entries_insert_of_notMem hkey value
      have hkeys : (table.insert key value).keys = key :: table.keys := by
        rw [keys, hentries, List.map_cons, keys]
      have hnext : (rest.map Prod.fst ++ (table.insert key value).keys).Nodup := by
        rw [hkeys, List.perm_middle.nodup_iff, List.nodup_cons, List.mem_append, not_or]
        exact ⟨⟨hrest, hkey⟩, hdistinct⟩
      have hperm := ih (table.insert key value) hnext
      rw [hentries] at hperm
      exact hperm.trans List.perm_middle

theorem entries_ofList_perm {entries : List (String × α)}
    (hdistinct : (entries.map Prod.fst).Nodup) : (ofList entries).entries.Perm entries := by
  have hall : (entries.map Prod.fst ++ (empty : Table α).keys).Nodup := by
    rw [keys, empty, List.map_nil, List.append_nil]
    exact hdistinct
  have hperm := empty.entries_foldl_insert_perm hall
  rw [empty, List.append_nil] at hperm
  exact hperm

section Map

variable {β : Type} {onKey : String → String} (onValue : α → β)

theorem entries_map_perm (table : Table α) (hdistinct : (table.keys.map onKey).Nodup) :
    (table.map onKey onValue).entries.Perm
      (table.entries.map fun entry => (onKey entry.1, onValue entry.2)) := by
  apply entries_ofList_perm
  rw [keys, List.map_map] at hdistinct
  rw [List.map_map]
  exact hdistinct

theorem lookup?_map_of_mem (table : Table α) (hdistinct : (table.keys.map onKey).Nodup)
    {key : String} {value : α} (hentry : (key, value) ∈ table.entries) :
    (table.map onKey onValue).lookup? (onKey key) = some (onValue value) := by
  rw [lookup?_eq_some_iff, (table.entries_map_perm onValue hdistinct).mem_iff]
  exact List.mem_map.mpr ⟨(key, value), hentry, rfl⟩

theorem lookup?_map_ofList {entries : List (String × α)}
    (hdistinct : (entries.map fun entry => onKey entry.1).Nodup) {word : String} {value : β} :
    ((ofList entries).map onKey onValue).lookup? word = some value ↔
      ∃ entry ∈ entries, onKey entry.1 = word ∧ onValue entry.2 = value := by
  have hmapped : ((entries.map Prod.fst).map onKey).Nodup := by
    rw [List.map_map]
    exact hdistinct
  have hlisted := entries_ofList_perm (hmapped.of_map onKey)
  have hkeys : ((ofList entries).keys.map onKey).Nodup :=
    ((hlisted.map Prod.fst).map onKey).nodup_iff.mpr hmapped
  rw [lookup?_eq_some_iff, (entries_map_perm onValue _ hkeys).mem_iff, (hlisted.map _).mem_iff]
  simp

end Map

def filter (table : Table α) (keep : String → α → Bool) : Table α where
  entries := table.entries.filter fun entry => keep entry.1 entry.2
  keys_nodup := table.keys_nodup.sublist (List.filter_sublist.map Prod.fst)

theorem lookup?_filter (table : Table α) (keep : String → α → Bool) (key : String) :
    (table.filter keep).lookup? key = (table.lookup? key).filter (keep key) := by
  apply Option.ext
  intro value
  rw [lookup?_eq_some_iff, Option.filter_eq_some_iff, lookup?_eq_some_iff]
  exact List.mem_filter

end VoiceCursor.Table
