import HostAttestation.Proofs.Manifest.Verification
import Mathlib.Logic.Relation

/-! # Rearranged entries

Grouping hides which entries of other registers stood between the entries of one, and where the
log of a register was divided into entries. It does not hide that a register has an entry, even
one without events, nor the order of the events within a register. -/

namespace HostAttestation

namespace EventLogEntry

/-- A change of a list of entries by one entry that is not kept, by the order of two neighbours of
different registers, or by the border between two neighbours of one register. -/
inductive Rearranged (keep : PcrId → Bool) : List EventLogEntry → List EventLogEntry → Prop
  | dropped (before : List EventLogEntry) (entry : EventLogEntry) (after : List EventLogEntry)
      (unkept : ¬keep entry.pcr) : Rearranged keep (before ++ entry :: after) (before ++ after)
  | swapped (before : List EventLogEntry) (first second : EventLogEntry)
      (after : List EventLogEntry) (different : first.pcr ≠ second.pcr) :
      Rearranged keep (before ++ first :: second :: after) (before ++ second :: first :: after)
  | joined (before : List EventLogEntry) (first second : EventLogEntry)
      (after : List EventLogEntry) (same : second.pcr = first.pcr) :
      Rearranged keep (before ++ first :: second :: after)
        (before ++ first.append second same :: after)

/-- One list is changed into the other by any number of such changes, each in either direction. -/
abbrev Alike (keep : PcrId → Bool) : List EventLogEntry → List EventLogEntry → Prop :=
  Relation.EqvGen (Rearranged keep)

/-- The lists tell the same of a register: whether it has entries, and what its events are. -/
structure Agree (pcr : PcrId) (left right : List EventLogEntry) : Prop where
  listed : pcr ∈ left.map EventLogEntry.pcr ↔ pcr ∈ right.map EventLogEntry.pcr
  events : eventsOf pcr left = eventsOf pcr right

namespace Agree

variable {pcr : PcrId} {left middle right : List EventLogEntry}

theorem refl (list : List EventLogEntry) : Agree pcr list list :=
  ⟨Iff.rfl, rfl⟩

theorem symm (agree : Agree pcr left right) : Agree pcr right left :=
  ⟨agree.listed.symm, agree.events.symm⟩

theorem trans (agree : Agree pcr left middle) (next : Agree pcr middle right) :
    Agree pcr left right :=
  ⟨agree.listed.trans next.listed, agree.events.trans next.events⟩

/-- What stands around two parts that agree does not matter. -/
theorem surrounded (agree : Agree pcr left right) (before after : List EventLogEntry) :
    Agree pcr (before ++ (left ++ after)) (before ++ (right ++ after)) := by
  constructor
  · simp only [List.map_append, List.mem_append, agree.listed]
  · simp only [eventsOf_append, agree.events]

theorem dropped {entry : EventLogEntry} (different : entry.pcr ≠ pcr) : Agree pcr [entry] [] := by
  constructor
  · simp [Ne.symm different]
  · rw [eventsOf_singleton, if_neg different, eventsOf_nil]

theorem swapped {first second : EventLogEntry} (different : first.pcr ≠ second.pcr) :
    Agree pcr [first, second] [second, first] := by
  constructor
  · simp [or_comm]
  · simp only [eventsOf_cons, eventsOf_nil, List.append_nil]
    by_cases named : first.pcr = pcr
    · have other : second.pcr ≠ pcr := fun same => different (named.trans same.symm)
      simp [named, other]
    · simp [named]

theorem joined {first second : EventLogEntry} (same : second.pcr = first.pcr) :
    Agree pcr [first, second] [first.append second same] := by
  constructor
  · simp [same, append]
  · rw [eventsOf_cons, eventsOf_singleton, eventsOf_singleton, same]
    change _ = if first.pcr = pcr then first.events ++ second.events else []
    split <;> rfl

end Agree

variable {keep : PcrId → Bool} {left right : List EventLogEntry}

/-- A change shows in no register that is kept. -/
theorem Rearranged.agree (rearranged : Rearranged keep left right) {pcr : PcrId} (kept : keep pcr) :
    Agree pcr left right := by
  cases rearranged with
  | dropped before entry after unkept =>
      have different : entry.pcr ≠ pcr := fun same => unkept (same ▸ kept)
      exact (Agree.dropped different).surrounded before after
  | swapped before first second after different =>
      exact (Agree.swapped different).surrounded before after
  | joined before first second after same =>
      exact (Agree.joined same).surrounded before after

theorem Alike.agree (alike : Alike keep left right) {pcr : PcrId} (kept : keep pcr) :
    Agree pcr left right := by
  induction alike with
  | rel _ _ rearranged => exact rearranged.agree kept
  | refl list => exact .refl list
  | symm _ _ _ induction => exact induction.symm
  | trans _ _ _ _ _ first second => exact first.trans second

end EventLogEntry

namespace EventLogMap

open EventLogEntry (Alike eventsOf)

/-- What is kept of lists that are alike is grouped alike. -/
theorem ofEntries_filter_eq_of_alike {keep : PcrId → Bool} {left right : List EventLogEntry}
    (alike : Alike keep left right) :
    ofEntries (left.filter fun entry => keep entry.pcr) =
      ofEntries (right.filter fun entry => keep entry.pcr) := by
  refine eq_of_events_eq fun pcr => ?_
  rw [find?_ofEntries_filter, find?_ofEntries_filter]
  by_cases kept : keep pcr
  · have agree := alike.agree kept
    simp only [kept, agree.listed, agree.events]
  · simp [kept]

end EventLogMap

end HostAttestation
