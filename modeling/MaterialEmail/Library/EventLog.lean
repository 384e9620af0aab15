import MaterialEmail.Library.Keyed
import Mathlib.Data.List.Induction

/-! A log of changes to records with a key, and the records that its replay gives. -/
namespace EventLog

/-- The record with a key before and after a change; none if there is none. -/
structure Entry (κ ε : Type) where
  key : κ
  before : Option ε
  after : Option ε

variable {κ ε : Type} [DecidableEq κ] (keyOf : ε → κ)

def Entry.apply (records : List ε) (entry : Entry κ ε) : List ε :=
  match entry.after with
  | some record => Keyed.put keyOf record records
  | none => Keyed.without keyOf entry.key records

def replay (log : List (Entry κ ε)) : List ε := log.foldl (Entry.apply keyOf) []

section Lemmas

variable {keyOf : ε → κ} {log : List (Entry κ ε)} {entry : Entry κ ε} {k : κ}

theorem replay_concat : replay keyOf (log ++ [entry]) = entry.apply keyOf (replay keyOf log) := by
  simp [replay]

theorem nodup_apply {records : List ε} (distinct : (records.map keyOf).Nodup) :
    ((entry.apply keyOf records).map keyOf).Nodup := by
  unfold Entry.apply
  cases entry.after with
  | some record => exact Keyed.nodup_put distinct
  | none => exact Keyed.nodup_without distinct

theorem nodup_replay : ((replay keyOf log).map keyOf).Nodup := by
  induction log using List.reverseRecOn with
  | nil => exact List.nodup_nil
  | append_singleton log entry ih =>
    rw [replay_concat]
    exact nodup_apply ih

theorem get_apply {records : List ε} (keyed : ∀ record ∈ entry.after, keyOf record = entry.key) :
    Keyed.get keyOf k (entry.apply keyOf records) = if entry.key = k then entry.after else Keyed.get keyOf k records := by
  unfold Entry.apply
  cases after : entry.after with
  | some record =>
    have same := keyed record after
    simp only [Keyed.get_put, same]
  | none =>
    simp only [Keyed.get_without, eq_comm]

end Lemmas

end EventLog
