import JBCenter.Base.Newest
import JBCenter.SmartAccounts.Checkpoints
import Mathlib.Data.Finset.Dedup

/-! What both checkpoint stores hold, as a function of the checkpoints they took: in each of the newest
buckets, the last of the greatest block. -/
namespace JBCenter.Checkpoints
open Rest

variable {history : List Safe7579HistoryCheckpoint} {checkpoint other : Safe7579HistoryCheckpoint} {b n : Nat}

def ofKey (history : List Safe7579HistoryCheckpoint) (key : String) : List Safe7579HistoryCheckpoint :=
  history.filter fun checkpoint => checkpoint.key = key

def buckets (history : List Safe7579HistoryCheckpoint) : Finset Nat := (history.map bucketOf).toFinset

def supersede (bucket : Nat) (held : Option Safe7579HistoryCheckpoint) (next : Safe7579HistoryCheckpoint) :
    Option Safe7579HistoryCheckpoint :=
  if bucketOf next = bucket && held.all (fun prior => lastBlock prior ≤ lastBlock next) then some next else held

def best (history : List Safe7579HistoryCheckpoint) (bucket : Nat) : Option Safe7579HistoryCheckpoint :=
  history.foldl (supersede bucket) none

def retained (n : Nat) (history : List Safe7579HistoryCheckpoint) (bucket : Nat) : Option Safe7579HistoryCheckpoint :=
  if bucket ∈ newest n (buckets history) then best history bucket else none

theorem best_snoc : best (history ++ [checkpoint]) b = supersede b (best history b) checkpoint := by
  rw [best, List.foldl_append]
  rfl

theorem buckets_snoc : buckets (history ++ [checkpoint]) = insert (bucketOf checkpoint) (buckets history) := by
  ext b
  simp [buckets, eq_comm]

theorem supersede_elsewhere (elsewhere : bucketOf checkpoint ≠ b) (held : Option Safe7579HistoryCheckpoint) :
    supersede b held checkpoint = held := by
  simp [supersede, elsewhere]

theorem supersede_isSome {held : Option Safe7579HistoryCheckpoint} : (∃ found, supersede b held checkpoint = some found) ↔
    b = bucketOf checkpoint ∨ ∃ prior, held = some prior := by
  by_cases here : bucketOf checkpoint = b
  · refine iff_of_true ?_ (Or.inl here.symm)
    cases held with
    | none => exact ⟨checkpoint, by simp [supersede, here]⟩
    | some prior =>
      by_cases later : lastBlock prior ≤ lastBlock checkpoint
      · exact ⟨checkpoint, by simp [supersede, here, later]⟩
      · exact ⟨prior, by simp [supersede, later]⟩
  · rw [supersede_elsewhere here, or_iff_right (Ne.symm here)]

theorem best_spec (history : List Safe7579HistoryCheckpoint) (b : Nat) : match best history b with
    | none => ∀ other ∈ history, bucketOf other ≠ b
    | some held => (held ∈ history ∧ bucketOf held = b) ∧
        ∀ other ∈ history, bucketOf other = b → lastBlock other ≤ lastBlock held := by
  induction history using List.reverseRecOn with
  | nil => exact nofun
  | append_singleton history checkpoint ih =>
    rw [best_snoc]
    by_cases here : bucketOf checkpoint = b
    · cases held : best history b with
      | none =>
        rw [held] at ih
        have taken : supersede b none checkpoint = some checkpoint := by simp [supersede, here]
        rw [taken]
        refine ⟨⟨List.mem_append_right _ List.mem_cons_self, here⟩, fun other member same => ?_⟩
        rcases List.mem_append.mp member with earlier | last
        · exact absurd same (ih other earlier)
        · exact List.mem_singleton.mp last ▸ le_refl _
      | some prior =>
        rw [held] at ih
        obtain ⟨⟨listed, same⟩, greatest⟩ := ih
        by_cases later : lastBlock prior ≤ lastBlock checkpoint
        · have taken : supersede b (some prior) checkpoint = some checkpoint := by simp [supersede, here, later]
          rw [taken]
          refine ⟨⟨List.mem_append_right _ List.mem_cons_self, here⟩, fun other member same => ?_⟩
          rcases List.mem_append.mp member with earlier | last
          · exact (greatest other earlier same).trans later
          · exact List.mem_singleton.mp last ▸ le_refl _
        · have kept : supersede b (some prior) checkpoint = some prior := by simp [supersede, later]
          rw [kept]
          refine ⟨⟨List.mem_append_left _ listed, same⟩, fun other member same => ?_⟩
          rcases List.mem_append.mp member with earlier | last
          · exact greatest other earlier same
          · exact List.mem_singleton.mp last ▸ (not_le.mp later).le
    · rw [supersede_elsewhere here]
      cases held : best history b with
      | none =>
        rw [held] at ih
        intro other member
        rcases List.mem_append.mp member with earlier | last
        · exact ih other earlier
        · exact List.mem_singleton.mp last ▸ here
      | some prior =>
        rw [held] at ih
        refine ⟨⟨List.mem_append_left _ ih.1.1, ih.1.2⟩, fun other member same => ?_⟩
        rcases List.mem_append.mp member with earlier | last
        · exact ih.2 other earlier same
        · exact absurd (List.mem_singleton.mp last ▸ same) here

theorem best_some (found : best history b = some checkpoint) : (checkpoint ∈ history ∧ bucketOf checkpoint = b) ∧
    ∀ other ∈ history, bucketOf other = b → lastBlock other ≤ lastBlock checkpoint := by
  have spec := best_spec history b
  rwa [found] at spec

theorem best_of_mem (member : b ∈ buckets history) : ∃ held, best history b = some held := by
  obtain ⟨other, listed, same⟩ := List.mem_map.mp (List.mem_toFinset.mp member)
  have spec := best_spec history b
  cases found : best history b with
  | none =>
    rw [found] at spec
    exact absurd same (spec other listed)
  | some held => exact ⟨held, rfl⟩

theorem best_none (absent : b ∉ buckets history) : best history b = none := by
  cases held : best history b with
  | none => rfl
  | some checkpoint =>
    obtain ⟨⟨listed, same⟩, _⟩ := best_some held
    exact absurd (List.mem_toFinset.mpr (List.mem_map.mpr ⟨checkpoint, listed, same⟩)) absent

theorem retained_some (found : retained n history b = some checkpoint) :
    b ∈ newest n (buckets history) ∧ best history b = some checkpoint := by
  unfold retained at found
  split at found
  · exact ⟨‹_›, found⟩
  · cases found

theorem retained_isSome : (∃ held, retained n history b = some held) ↔ b ∈ newest n (buckets history) := by
  constructor
  · rintro ⟨held, found⟩
    exact (retained_some found).1
  · intro kept
    obtain ⟨held, found⟩ := best_of_mem (mem_newest.mp kept).1
    exact ⟨held, (if_pos kept).trans found⟩

theorem newest_nonempty (some : 0 < n) {s : Finset Nat} (nonempty : s.Nonempty) : (newest n s).Nonempty := by
  have positive := Finset.card_pos.mpr nonempty
  rw [← Finset.card_pos, card_newest]
  omega

theorem retained_snoc (b : Nat) : retained n (history ++ [checkpoint]) b =
    if b ∈ newest n (insert (bucketOf checkpoint) (newest n (buckets history))) then supersede b (retained n history b) checkpoint
    else none := by
  rw [retained, buckets_snoc, newest_insert_newest]
  refine if_ctx_congr Iff.rfl (fun kept => ?_) (fun _ => rfl)
  rw [best_snoc]
  by_cases held : b ∈ newest n (buckets history)
  · rw [retained, if_pos held]
  · rw [retained, if_neg held]
    -- what was pushed out of its bucket is not among the newest again
    have fresh : b ∉ buckets history ∨ bucketOf checkpoint ≠ b := by
      by_contra both
      obtain ⟨listed, rfl⟩ := not_or.mp both |>.imp not_not.mp not_not.mp
      rw [Finset.insert_eq_of_mem listed] at kept
      exact held kept
    rcases fresh with absent | elsewhere
    · rw [best_none absent]
    · rw [← newest_insert_newest] at kept
      rcases Finset.mem_insert.mp (mem_newest.mp kept).1 with here | member
      · exact absurd here.symm elsewhere
      · exact absurd member held

theorem byBucket_sorted {buckets : List Nat} (distinct : buckets.Nodup) : (byBucket buckets).Pairwise (· > ·) := by
  have nodup : (byBucket buckets).Nodup := (List.perm_insertionSort _ buckets).nodup_iff.mpr distinct
  have sorted : (byBucket buckets).Pairwise (· ≥ ·) := List.pairwise_insertionSort _ buckets
  exact sorted.imp₂ (fun _ _ above differ => lt_of_le_of_ne above differ.symm) nodup

theorem mem_byBucket_take {buckets : List Nat} (distinct : buckets.Nodup) :
    b ∈ (byBucket buckets).take n ↔ b ∈ newest n buckets.toFinset := by
  have same : (byBucket buckets).toFinset = buckets.toFinset := List.toFinset_eq_of_perm _ _ (List.perm_insertionSort _ buckets)
  rw [mem_take_iff (byBucket_sorted distinct), same]

theorem mem_byBucket_drop {buckets : List Nat} (distinct : buckets.Nodup) :
    b ∈ (byBucket buckets).drop n ↔ b ∈ buckets ∧ b ∉ newest n buckets.toFinset := by
  have nodup : (byBucket buckets).Nodup := (List.perm_insertionSort _ buckets).nodup_iff.mpr distinct
  rw [← mem_byBucket_take distinct, ← List.mem_insertionSort (· ≥ ·) (l := buckets)]
  change b ∈ (byBucket buckets).drop n ↔ b ∈ byBucket buckets ∧ _
  nth_rewrite 2 [← List.take_append_drop n (byBucket buckets)]
  rw [List.mem_append]
  have apart := List.disjoint_take_drop nodup le_rfl (m := n) (n := n)
  exact ⟨fun dropped => ⟨Or.inr dropped, fun taken => apart taken dropped⟩, fun ⟨either, untaken⟩ => either.resolve_left untaken⟩

end JBCenter.Checkpoints
