import Mathlib.Data.Int.Interval
import Frick.Store.Stream

/-!
# What count-based retention keeps

`prune_retention` deletes what lies `max_events` or more numbers below the stream's highest
sequence, which it takes over all apps. Where the numbers in its scope have gaps, that is too much.
-/

namespace Frick.Properties

open Framework Store StreamStore StreamTables List

variable {β : Type} {db : StreamTables β} {row : StreamEventRow β} {newest : Int}

/-- The rows of the stream of `row` that lie above it, inside the scope of a policy. -/
def newerRows (policy : RetentionPolicy) (db : StreamTables β) (row : StreamEventRow β) :
    List (StreamEventRow β) :=
  db.streamEvents.rows.filter fun other =>
    other.streamKey = row.streamKey ∧ policy.inScope other ∧ row.sequence < other.sequence

lemma length_newerRows_le (policy : RetentionPolicy)
    (hmax : db.maxSequence row.streamKey = some newest) :
    (newerRows policy db row).length ≤ (newest - row.sequence).toNat := by
  have hmem : ∀ other ∈ newerRows policy db row, other ∈ db.streamEvents ∧
      other.streamKey = row.streamKey ∧ row.sequence < other.sequence := by
    intro other hother
    obtain ⟨hother, hnewer⟩ := mem_filter.mp hother
    obtain ⟨hkey, -, hlt⟩ := of_decide_eq_true hnewer
    exact ⟨hother, hkey, hlt⟩
  have hnodup : ((newerRows policy db row).map StreamEventRow.sequence).Nodup := by
    refine Nodup.map_on (fun r hr s hs hseq => ?_) ((db.streamEvents.nodup.of_map _).filter _)
    obtain ⟨hr, hkey, -⟩ := hmem r hr
    obtain ⟨hs, hkey', -⟩ := hmem s hs
    exact Table.eq_of_key_eq hr hs (Prod.ext (hkey.trans hkey'.symm) hseq)
  have hsub : ((newerRows policy db row).map StreamEventRow.sequence).toFinset ⊆
      Finset.Ioc row.sequence newest := by
    intro seq hsequence
    obtain ⟨other, hother, rfl⟩ := mem_map.mp (mem_toFinset.mp hsequence)
    obtain ⟨hother, hkey, hlt⟩ := hmem other hother
    exact Finset.mem_Ioc.mpr ⟨hlt, (maxSequence_eq_some_iff.mp hmax).2 other hother hkey⟩
  have hcard := Finset.card_le_card hsub
  rwa [toFinset_card_of_nodup hnodup, length_map, Int.card_Ioc] at hcard

lemma mem_pruneRetention (streamType : String) (policy : RetentionPolicy) {n : Nat} (nowMs : Int)
    (hage : policy.maxAgeMs = none) (hcount : policy.maxEvents = some (n : Int)) :
    row ∈ (pruneRetention db [(streamType, policy)] nowMs).1.streamEvents ↔
      row ∈ db.streamEvents ∧ (row.streamType = streamType → policy.inScope row →
        ∀ newest ∈ db.maxSequence row.streamKey, newest - n < row.sequence) := by
  have haged : db.deleteEvents (agePruned streamType policy nowMs) = db := by
    unfold deleteEvents
    rw [Table.deleteWhere_of_forall fun row _ => by rw [agePruned, hage]]
  rw [pruneRetention, foldl_cons, foldl_nil, prunePolicy, haged, mem_deleteEvents, countPruned,
    hcount]
  cases db.maxSequence row.streamKey with
  | none => simp
  | some => simp; grind

/-- **The newest are kept exactly where their numbers leave no gap.** After a policy that keeps `n`,
the rows left are those out of its reach and those with fewer than `n` rows above them in scope, if
and only if every row in scope that lies `n` or more numbers below the highest of its stream has `n`
rows above it in scope. -/
theorem count_retention_exact_iff (db : StreamTables β) (streamType : String) (n : Nat)
    (tenantId appId : Option String) (nowMs : Int) :
    let policy : RetentionPolicy := { maxEvents := some (n : Int), tenantId, appId }
    (∀ row, row ∈ (pruneRetention db [(streamType, policy)] nowMs).1.streamEvents ↔
        row ∈ db.streamEvents ∧ (row.streamType = streamType → policy.inScope row →
          (newerRows policy db row).length < n)) ↔
      ∀ row ∈ db.streamEvents, row.streamType = streamType → policy.inScope row →
        ∀ newest ∈ db.maxSequence row.streamKey, row.sequence ≤ newest - n →
          n ≤ (newerRows policy db row).length := by
  intro policy
  simp only [mem_pruneRetention streamType policy nowMs rfl rfl]
  constructor
  · intro h row hrow htype hscope newest hmax hle
    by_contra hfew
    have hkept := (h row).mpr ⟨hrow, fun _ _ => not_le.mp hfew⟩
    have hlt := hkept.2 htype hscope newest hmax
    omega
  · intro h row
    refine and_congr_right fun hrow => forall_congr' fun htype => forall_congr' fun hscope => ?_
    obtain ⟨newest, hmax, hbelow⟩ := exists_maxSequence hrow
    have hle := length_newerRows_le policy hmax
    have hline := h row hrow htype hscope newest hmax
    simp only [hmax, Option.mem_some_iff, forall_eq']
    omega

/-- **A gap costs an event.** Of events 1 and 3, with 2 deleted before, a policy that keeps two
deletes the first. -/
theorem first_pruned_across_gap :
    let events := [messageSent "r1" "e1", messageSent "r2" "e2", messageSent "r3" "e3"]
    let appended := events.foldl (fun db args => (testStore.append db none args).db) empty
    let db := appended.deleteEvents fun row => row.sequence = 2
    let db' := (pruneRetention db [("MessageStream", { maxEvents := some 2 })] 1700000000000).1
    db.streamEvents.rows.map StreamEventRow.sequence = [1, 3] ∧
      db'.streamEvents.rows.map StreamEventRow.sequence = [3] := by
  decide +kernel

end Frick.Properties
