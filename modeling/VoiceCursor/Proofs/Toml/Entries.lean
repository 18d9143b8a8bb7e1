import Mathlib.Data.List.Nodup
import VoiceCursor.Toml.Document

namespace VoiceCursor.Toml

/-! A key is used once in a document. What a line adds stands under a key that is not
there yet, or takes the place of what stands under its key. -/

theorem exists_of_bind_eq_ok {α β ε : Type} {first : Except ε α} {next : α → Except ε β}
    {result : β} (hresult : first >>= next = .ok result) :
    ∃ value, first = .ok value ∧ next value = .ok result := by
  cases first with
  | error failure => nomatch hresult
  | ok value => exact ⟨value, rfl, hresult⟩

namespace Entries

def names (entries : Entries) : List String := entries.map Prod.fst

def Distinct (entries : Entries) : Prop := entries.names.Nodup

section Lookup

variable (entries : Entries) (name : String)

theorem entry?_eq_none_iff : entries.entry? name = none ↔ name ∉ entries.names := by
  unfold entry?
  rw [List.lookup_eq_none_iff, names, List.mem_map]
  constructor
  · rintro hnone ⟨entry, hentry, rfl⟩
    exact absurd rfl (bne_iff_ne.mp (hnone entry hentry))
  · intro hname entry hentry
    exact bne_iff_ne.mpr fun heq => hname ⟨entry, hentry, heq.symm⟩

theorem names_replace (span : Span) (item : Item) :
    (entries.replace name span item).names = entries.names := by
  rw [names, replace, List.map_map, names]
  refine List.map_congr_left fun entry _ => ?_
  rw [Function.comp_apply]
  split
  · rename_i heq
    exact heq.symm
  · rfl

theorem entry?_without : entry? (entries.without name) name = none := by
  rw [entry?_eq_none_iff, names, List.mem_map]
  rintro ⟨entry, hentry, heq⟩
  exact of_decide_eq_true (List.mem_filter.mp hentry).2 heq

end Lookup

section Distinct

variable {entries after : Entries}

theorem distinct_nil : Distinct [] := List.nodup_nil

theorem Distinct.replace (hdistinct : entries.Distinct) (name : String) (span : Span)
    (item : Item) : (entries.replace name span item).Distinct := by
  rw [Distinct, names_replace]
  exact hdistinct

theorem Distinct.without (hdistinct : entries.Distinct) (name : String) :
    (entries.without name).Distinct :=
  List.Nodup.sublist (List.filter_sublist.map Prod.fst) hdistinct

theorem Distinct.add (hdistinct : entries.Distinct) {key : Key}
    (hnew : entries.entry? key.name = none) (span : Span) (item : Item) :
    (entries.add key span item).Distinct := by
  rw [Distinct, names, Entries.add, List.map_append]
  refine hdistinct.append (List.nodup_singleton _) (List.disjoint_singleton.mpr ?_)
  exact (entries.entry?_eq_none_iff key.name).mp hnew

/-- Only what stands at the front of the path matters: below it are other tables. -/
theorem Distinct.changeAt {made origin : Origin} {path : List Key}
    {change : Origin → Entries → Except Failure Entries}
    (hchange : ∀ {origin entries after}, change origin entries = .ok after →
      Distinct entries → Distinct after)
    (hdistinct : entries.Distinct)
    (hafter : changeAt made change origin entries path = .ok after) : after.Distinct := by
  cases path with
  | nil => exact hchange hafter hdistinct
  | cons key path =>
      rw [Entries.changeAt] at hafter
      split at hafter
      · rename_i hnew
        obtain ⟨inner, -, hadd⟩ := exists_of_bind_eq_ok hafter
        cases hadd
        exact hdistinct.add hnew _ _
      · split at hafter
        · obtain ⟨inner, -, hreplace⟩ := exists_of_bind_eq_ok hafter
          cases hreplace
          exact hdistinct.replace _ _ _
        · nomatch hafter
      · split at hafter
        · nomatch hafter
        · obtain ⟨last, -, hreplace⟩ := exists_of_bind_eq_ok hafter
          cases hreplace
          exact hdistinct.replace _ _ _
      · nomatch hafter

theorem Distinct.insertPair {origin : Origin} {pair : Pair} (hdistinct : entries.Distinct)
    (hafter : insertPair origin entries pair = .ok after) : after.Distinct := by
  refine hdistinct.changeAt ?_ hafter
  intro origin entries after hafter hdistinct
  split at hafter
  · nomatch hafter
  · split at hafter
    · nomatch hafter
    · rename_i hnew
      cases hafter
      exact hdistinct.add hnew _ _

end Distinct

end Entries

namespace Draft

open Entries

variable {entries after : Entries} {key : Key}

theorem distinct_openTable {span : Span} (hafter : openTable key span entries = .ok after)
    (hdistinct : entries.Distinct) : after.Distinct := by
  rw [openTable] at hafter
  split at hafter
  · rename_i hnew
    cases hafter
    exact hdistinct.add hnew _ _
  · cases hafter
    exact (hdistinct.without key.name).add (entry?_without entries key.name) _ _
  · nomatch hafter

theorem distinct_openElement {span : Span}
    (hafter : openElement key span entries = .ok after) (hdistinct : entries.Distinct) :
    after.Distinct := by
  rw [openElement] at hafter
  split at hafter
  · rename_i hnew
    cases hafter
    exact hdistinct.add hnew _ _
  · cases hafter
    exact hdistinct.replace _ _ _
  · nomatch hafter

theorem distinct_extend {pair : Pair} (hafter : extend key pair entries = .ok after)
    (hdistinct : entries.Distinct) : after.Distinct := by
  rw [extend] at hafter
  split at hafter
  · obtain ⟨inner, -, hreplace⟩ := exists_of_bind_eq_ok hafter
    cases hreplace
    exact hdistinct.replace _ _ _
  · obtain ⟨last, -, hreplace⟩ := exists_of_bind_eq_ok hafter
    cases hreplace
    exact hdistinct.replace _ _ _
  · nomatch hafter

theorem distinct_addLine {draft next : Draft} {line : Line}
    (hdistinct : draft.entries.Distinct) (hnext : draft.addLine line = .ok next) :
    next.entries.Distinct := by
  cases line with
  | empty =>
      cases hnext
      exact hdistinct
  | header path key isElement span =>
      obtain ⟨entries, hentries, hopened⟩ := exists_of_bind_eq_ok hnext
      cases hopened
      refine hdistinct.changeAt ?_ hentries
      intro _ entries after hafter hdistinct
      cases isElement with
      | true => exact distinct_openElement hafter hdistinct
      | false => exact distinct_openTable hafter hdistinct
  | pair pair =>
      rw [addLine] at hnext
      split at hnext
      · obtain ⟨entries, hentries, hadded⟩ := exists_of_bind_eq_ok hnext
        cases hadded
        exact hdistinct.insertPair hentries
      · obtain ⟨entries, hentries, hadded⟩ := exists_of_bind_eq_ok hnext
        cases hadded
        exact hdistinct.changeAt distinct_extend hentries

theorem distinct_addLines {draft last : Draft} {lines : List Line}
    (hdistinct : draft.entries.Distinct) (hlast : lines.foldlM addLine draft = .ok last) :
    last.entries.Distinct := by
  induction lines generalizing draft with
  | nil =>
      cases hlast
      exact hdistinct
  | cons line lines ih =>
      rw [List.foldlM_cons] at hlast
      obtain ⟨next, hnext, hrest⟩ := exists_of_bind_eq_ok hlast
      exact ih (distinct_addLine hdistinct hnext) hrest

end Draft

theorem distinct_of_readDocument {document : String} {entries : Entries}
    (hread : readDocument document = .ok entries) : entries.Distinct := by
  obtain ⟨tokens, -, hread⟩ := exists_of_bind_eq_ok hread
  obtain ⟨lines, -, hread⟩ := exists_of_bind_eq_ok hread
  obtain ⟨last, hlast, hentries⟩ := exists_of_bind_eq_ok hread
  cases hentries
  exact Draft.distinct_addLines Entries.distinct_nil hlast

end VoiceCursor.Toml
