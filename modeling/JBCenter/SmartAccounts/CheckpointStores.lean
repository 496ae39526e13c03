import JBCenter.SmartAccounts.Retention

/-! The store in memory and the store in tables hold the same checkpoints, take the same ones, and list
them in the same order. -/
namespace JBCenter.Checkpoints
open Rest
open OrderedMap (get_of_mem get_set get_set_ne has_iff mem_of_get)
open Fallible (check run_bind_ok run_check_bind run_check_error run_check_ok run_refused_bind)

variable {history : List Safe7579HistoryCheckpoint} {checkpoint : Safe7579HistoryCheckpoint} {key : String} {b : Nat}
  {rules : Limits}

def heading (answer : Except RestError α) : Except (Nat × String) α := answer.mapError fun error => (error.status, error.code)

variable {first second : Safe7579HistoryCheckpoint}

theorem sameCreation_iff : sameCreation first second = true ↔
    first.creationBlock = second.creationBlock ∧ toLowerCase first.creationHash = toLowerCase second.creationHash ∧
      toLowerCase first.creationTransaction = toLowerCase second.creationTransaction ∧
      toLowerCase first.initializerHash = toLowerCase second.initializerHash := by
  simp [sameCreation, and_assoc]

theorem sameCreation_congr {third : Safe7579HistoryCheckpoint} (same : sameCreation first second = true) :
    sameCreation first third = sameCreation second third := by
  obtain ⟨block, hash, transaction, initializer⟩ := sameCreation_iff.mp same
  simp only [sameCreation, block, hash, transaction, initializer]

/-- All that was taken is valid, and what was taken of a key binds one creation. -/
structure Coherent (history : List Safe7579HistoryCheckpoint) : Prop where
  valid : ∀ taken ∈ history, validate taken = .ok ()
  bound : ∀ first ∈ history, ∀ second ∈ history, first.key = second.key → sameCreation first second = true

theorem mem_ofKey : checkpoint ∈ ofKey history key ↔ checkpoint ∈ history ∧ checkpoint.key = key := by
  simp [ofKey]

def keys (history : List Safe7579HistoryCheckpoint) : Finset String := (history.map Safe7579HistoryCheckpoint.key).toFinset

theorem mem_keys : key ∈ keys history ↔ ofKey history key ≠ [] := by
  simp [keys, ofKey, List.filter_eq_nil_iff]

theorem Limits.positive (rules : Limits) : 0 < rules.historyBuckets := by
  have bounded := rules.buckets_bounded
  omega

theorem buckets_nonempty (nonempty : history ≠ []) : (buckets history).Nonempty := by
  obtain ⟨checkpoint, member⟩ := List.exists_mem_of_ne_nil _ nonempty
  exact ⟨bucketOf checkpoint, List.mem_toFinset.mpr (List.mem_map_of_mem member)⟩

/-- The answer to a put, as the checkpoints taken before decide it. -/
def decision (rules : Limits) (history : List Safe7579HistoryCheckpoint) (checkpoint : Safe7579HistoryCheckpoint) :
    Except (Nat × String) Unit := do
  heading (validate checkpoint)
  match (ofKey history checkpoint.key).head? with
  | some existing => heading (assertCreation existing checkpoint)
  | none => heading (refuse (rules.maxKeys ≤ (keys history).card) (capacity ""))

theorem Coherent.assertCreation_eq (coherent : Coherent history)
    (left : first ∈ ofKey history key) (right : second ∈ ofKey history key) :
    assertCreation first checkpoint = assertCreation second checkpoint := by
  obtain ⟨listed, rfl⟩ := mem_ofKey.mp left
  obtain ⟨also, same⟩ := mem_ofKey.mp right
  rw [assertCreation, assertCreation, sameCreation_congr (coherent.bound first listed second also same.symm)]

theorem Coherent.decision_eq (coherent : Coherent history) (valid : validate checkpoint = .ok ())
    (message : String) {found : Option Safe7579HistoryCheckpoint}
    (some : ∀ existing ∈ found, existing ∈ ofKey history checkpoint.key)
    (none : found = none → ofKey history checkpoint.key = []) :
    decision rules history checkpoint = heading (match found with
      | .some existing => assertCreation existing checkpoint
      | .none => refuse (rules.maxKeys ≤ (keys history).card) (capacity message)) := by
  rw [decision, valid]
  change (match (ofKey history checkpoint.key).head? with
    | .some existing => heading (assertCreation existing checkpoint)
    | .none => heading (refuse (rules.maxKeys ≤ (keys history).card) (capacity ""))) = _
  cases found with
  | none =>
    rw [none rfl]
    change heading (refuse _ _) = heading (refuse _ _)
    by_cases full : rules.maxKeys ≤ (keys history).card <;> simp [refuse, full, heading, Except.mapError, capacity]
  | some existing =>
    have member := some existing rfl
    cases first : (ofKey history checkpoint.key).head? with
    | none => exact absurd (List.head?_eq_none_iff.mp first) (List.ne_nil_of_mem member)
    | some other => exact congrArg heading (coherent.assertCreation_eq (List.mem_of_head? first) member)

theorem Coherent.snoc (coherent : Coherent history) (decided : decision rules history checkpoint = .ok ()) :
    Coherent (history ++ [checkpoint]) := by
  obtain ⟨_, valid, decided⟩ := ok_bind decided
  have accepted : validate checkpoint = .ok () := by
    cases checked : validate checkpoint with
    | ok => rfl
    | error =>
      rw [checked] at valid
      cases valid
  have bound (existing : Safe7579HistoryCheckpoint) (member : existing ∈ history) (same : existing.key = checkpoint.key) :
      sameCreation existing checkpoint = true := by
    have listed := mem_ofKey.mpr ⟨member, same⟩
    cases first : (ofKey history checkpoint.key).head? with
    | none => exact absurd (List.head?_eq_none_iff.mp first) (List.ne_nil_of_mem listed)
    | some other =>
      rw [first] at decided
      change heading (assertCreation other checkpoint) = .ok () at decided
      rw [← coherent.assertCreation_eq listed (List.mem_of_head? first)] at decided
      by_contra differ
      rw [assertCreation, eq_false_of_ne_true differ] at decided
      cases decided
  constructor
  · intro taken member
    rcases List.mem_append.mp member with earlier | last
    · exact coherent.valid taken earlier
    · exact List.mem_singleton.mp last ▸ accepted
  · intro first member second also same
    rcases List.mem_append.mp member with earlier | last <;> rcases List.mem_append.mp also with earlier' | last'
    · exact coherent.bound first earlier second earlier' same
    · obtain rfl := List.mem_singleton.mp last'
      exact bound first earlier same
    · obtain rfl := List.mem_singleton.mp last
      rw [sameCreation_iff]
      obtain ⟨block, hash, transaction, initializer⟩ := sameCreation_iff.mp (bound second earlier' same.symm)
      exact ⟨block.symm, hash.symm, transaction.symm, initializer.symm⟩
    · obtain rfl := List.mem_singleton.mp last
      obtain rfl := List.mem_singleton.mp last'
      exact sameCreation_iff.mpr ⟨rfl, rfl, rfl, rfl⟩

theorem Coherent.nil : Coherent [] := ⟨nofun, nofun⟩

/-- A list of what is retained, newest first. -/
structure Listing (rules : Limits) (taken list : List Safe7579HistoryCheckpoint) : Prop where
  sorted : list.Pairwise fun first second => lastBlock second < lastBlock first
  members : ∀ checkpoint, checkpoint ∈ list ↔ retained rules.historyBuckets taken (bucketOf checkpoint) = some checkpoint

theorem Listing.unique {taken first second : List Safe7579HistoryCheckpoint} (left : Listing rules taken first)
    (right : Listing rules taken second) : first = second := by
  have nodup {list : List Safe7579HistoryCheckpoint} (listing : Listing rules taken list) : list.Nodup :=
    listing.sorted.imp fun before same => absurd (same ▸ before) (lt_irrefl _)
  have perm : first.Perm second := (List.perm_ext_iff_of_nodup (nodup left) (nodup right)).mpr fun checkpoint =>
    (left.members checkpoint).trans (right.members checkpoint).symm
  exact perm.eq_of_pairwise (fun _ _ _ _ before after => absurd before after.asymm) left.sorted right.sorted

theorem byLastBlock_listing {taken list : List Safe7579HistoryCheckpoint} (distinct : list.Nodup)
    (members : ∀ checkpoint, checkpoint ∈ list ↔ retained rules.historyBuckets taken (bucketOf checkpoint) = some checkpoint) :
    Listing rules taken (byLastBlock list) := by
  have perm : (byLastBlock list).Perm list := List.perm_insertionSort _ list
  refine ⟨?_, fun checkpoint => perm.mem_iff.trans (members checkpoint)⟩
  have ordered : (byLastBlock list).Pairwise fun first second => lastBlock second ≤ lastBlock first := by
    have : IsTrans Safe7579HistoryCheckpoint fun first second => lastBlock second ≤ lastBlock first :=
      ⟨fun _ _ _ before after => after.trans before⟩
    have : Std.Total fun first second : Safe7579HistoryCheckpoint => lastBlock second ≤ lastBlock first :=
      ⟨fun first second => le_total (lastBlock second) (lastBlock first)⟩
    exact List.pairwise_insertionSort _ list
  refine (ordered.and (perm.nodup_iff.mpr distinct)).imp_of_mem fun {first second} member also ⟨before, differ⟩ => ?_
  refine lt_of_le_of_ne before fun same => differ ?_
  -- of one last block, they are of one bucket
  have bucket : bucketOf second = bucketOf first := congrArg (· / 128) same
  have found := (members first).mp (perm.mem_iff.mp member)
  rw [← bucket, (members second).mp (perm.mem_iff.mp also)] at found
  exact (Option.some.inj found).symm

theorem ofKey_snoc (history : List Safe7579HistoryCheckpoint) (checkpoint : Safe7579HistoryCheckpoint) (key : String) :
    ofKey (history ++ [checkpoint]) key = if checkpoint.key = key then ofKey history key ++
    [checkpoint] else ofKey history key := by
  rw [ofKey, List.filter_append]
  by_cases same : checkpoint.key = key <;> simp [ofKey, same]

theorem keys_snoc (history : List Safe7579HistoryCheckpoint) (checkpoint : Safe7579HistoryCheckpoint) :
    keys (history ++ [checkpoint]) = insert checkpoint.key (keys history) := by
  ext key
  simp [keys, eq_comm]

namespace Memory

variable {records : Records}

/-- The records of each key are what is retained of the checkpoints taken. -/
structure Keeps (rules : Limits) (history : List Safe7579HistoryCheckpoint) (records : Records) : Prop where
  retained : ∀ key b, (recordsOf records key).get b = retained rules.historyBuckets (ofKey history key) b
  known : ∀ key, records.has key = true ↔ key ∈ keys history

theorem get_place (held : OrderedMap Nat Safe7579HistoryCheckpoint) (b : Nat) :
    (place held checkpoint).get b = supersede b (held.get b) checkpoint := by
  by_cases here : bucketOf checkpoint = b
  · subst here
    unfold place supersede
    split
    · rename_i absent
      simp [absent]
    · rename_i prior found
      by_cases later : lastBlock prior ≤ lastBlock checkpoint <;> simp [found, later]
  · rw [supersede_elsewhere here]
    unfold place
    split
    · exact get_set_ne _ _ (Ne.symm here)
    · split
      · exact get_set_ne _ _ (Ne.symm here)
      · rfl

variable {held : OrderedMap Nat Safe7579HistoryCheckpoint}

theorem mem_buckets :
    b ∈ held.entries.map Prod.fst ↔ ∃ checkpoint, held.get b = some checkpoint := by
  constructor
  · intro member
    obtain ⟨entry, listed, rfl⟩ := List.mem_map.mp member
    exact ⟨entry.2, get_of_mem listed⟩
  · rintro ⟨checkpoint, found⟩
    exact List.mem_map_of_mem (mem_of_get found)

theorem get_retire (held : OrderedMap Nat Safe7579HistoryCheckpoint) (b : Nat) : (retire rules held).get b =
    if b ∈ newest rules.historyBuckets (held.entries.map Prod.fst).toFinset then held.get b else none := by
  rw [retire, OrderedMap.get_deleteAll]
  simp only [mem_byBucket_drop held.distinct]
  by_cases kept : b ∈ newest rules.historyBuckets (held.entries.map Prod.fst).toFinset
  · rw [if_neg fun dropped => dropped.2 kept, if_pos kept]
  · rw [if_neg kept]
    split
    · rfl
    · rename_i undropped
      cases found : held.get b with
      | none => rfl
      | some checkpoint => exact absurd ⟨mem_buckets.mpr ⟨checkpoint, found⟩, kept⟩ undropped

theorem buckets_place {n : Nat}
    (keeps : ∀ b, held.get b = Checkpoints.retained n history b) : ((place held checkpoint).entries.map Prod.fst).toFinset =
      insert (bucketOf checkpoint) (newest n (buckets history)) := by
  ext b
  rw [List.mem_toFinset, mem_buckets, Finset.mem_insert, ← retained_isSome, get_place, keeps, supersede_isSome]

theorem get_retire_place
    (keeps : ∀ b, held.get b = Checkpoints.retained rules.historyBuckets history b) (b : Nat) :
    (retire rules (place held checkpoint)).get b = Checkpoints.retained rules.historyBuckets (history ++ [checkpoint]) b := by
  rw [get_retire, buckets_place keeps, retained_snoc, get_place, keeps]

theorem Keeps.empty : Keeps rules [] .empty := by
  refine ⟨fun key b => ?_, fun key => by simp [OrderedMap.has, keys]⟩
  cases found : Checkpoints.retained rules.historyBuckets (ofKey [] key) b with
  | none => rfl
  | some checkpoint => exact absurd (best_some (retained_some found).2).1.1 List.not_mem_nil

theorem Keeps.length (keeps : Keeps rules history records) : records.entries.length = (keys history).card := by
  have same : (records.entries.map Prod.fst).toFinset = keys history := by
    ext key
    rw [List.mem_toFinset, ← keeps.known, has_iff]
    constructor
    · intro member
      obtain ⟨entry, listed, rfl⟩ := List.mem_map.mp member
      exact ⟨entry.2, get_of_mem listed⟩
    · rintro ⟨held, found⟩
      exact List.mem_map_of_mem (mem_of_get found)
  rw [← same, List.card_toFinset, records.distinct.dedup, List.length_map]

theorem mem_values :
    checkpoint ∈ held.values ↔ ∃ b, held.get b = some checkpoint := by
  constructor
  · intro member
    obtain ⟨entry, listed, rfl⟩ := List.mem_map.mp member
    exact ⟨entry.1, get_of_mem listed⟩
  · rintro ⟨b, found⟩
    exact List.mem_map_of_mem (mem_of_get found)

theorem Keeps.values_mem (keeps : Keeps rules history records) : checkpoint ∈ (recordsOf records key).values ↔
    Checkpoints.retained rules.historyBuckets (ofKey history key) (bucketOf checkpoint) = some checkpoint := by
  rw [mem_values, ← keeps.retained]
  constructor
  · rintro ⟨b, found⟩
    have bucket := (best_some (retained_some ((keeps.retained key b).symm.trans found)).2).1.2
    rwa [bucket]
  · exact fun found => ⟨_, found⟩

theorem Keeps.admit_eq (keeps : Keeps rules history records) (coherent : Coherent history)
    (valid : validate checkpoint = .ok ()) : heading (accept rules records checkpoint) = decision rules history checkpoint := by
  have listed : ∀ existing ∈ (recordsOf records checkpoint.key).values.head?, existing ∈ ofKey history checkpoint.key := by
    intro existing first
    have found := keeps.values_mem.mp (List.mem_of_head? first)
    exact (best_some (retained_some found).2).1.1
  have none : (recordsOf records checkpoint.key).values.head? = none → ofKey history checkpoint.key = [] := by
    intro empty
    by_contra nonempty
    obtain ⟨b, member⟩ := newest_nonempty rules.positive (buckets_nonempty nonempty)
    obtain ⟨existing, found⟩ := retained_isSome.mpr member
    have held : existing ∈ (recordsOf records checkpoint.key).values := mem_values.mpr ⟨b, (keeps.retained _ b).trans found⟩
    rw [List.head?_eq_none_iff.mp empty] at held
    cases held
  rw [accept, keeps.length]
  exact (coherent.decision_eq valid _ listed none).symm

theorem recordsOf_set (records : Records) (key other : String) (held : OrderedMap Nat Safe7579HistoryCheckpoint) :
    recordsOf (records.set key held) other = if other = key then held else recordsOf records other := by
  unfold recordsOf
  rw [get_set]
  split <;> rfl

theorem Keeps.put (keeps : Keeps rules history records) : Keeps rules (history ++ [checkpoint])
    (records.set checkpoint.key (retire rules (place (recordsOf records checkpoint.key) checkpoint))) := by
  constructor
  · intro key b
    rw [recordsOf_set, ofKey_snoc]
    by_cases same : checkpoint.key = key
    · subst same
      rw [if_pos rfl, if_pos rfl]
      exact get_retire_place (keeps.retained checkpoint.key) b
    · rw [if_neg (Ne.symm same), if_neg same]
      exact keeps.retained key b
  · intro key
    rw [keys_snoc, Finset.mem_insert, ← keeps.known, OrderedMap.has, get_set]
    by_cases same : key = checkpoint.key <;> simp [same, OrderedMap.has]

theorem put_cases (keeps : Keeps rules history records) (coherent : Coherent history) :
    (∃ next, (put rules checkpoint).run records = .ok () next ∧ decision rules history checkpoint = .ok () ∧
      Keeps rules (history ++ [checkpoint]) next) ∨
    ∃ error, (put rules checkpoint).run records = .error error records ∧
      decision rules history checkpoint = .error (error.status, error.code) := by
  cases valid : validate checkpoint with
  | error error =>
    refine Or.inr ⟨error, run_refused_bind valid, ?_⟩
    rw [decision, valid]
    rfl
  | ok =>
    have decided := keeps.admit_eq coherent valid
    have run : (put rules checkpoint).run records = (check (accept rules records checkpoint) >>= fun _ =>
        modify fun records => records.set checkpoint.key (retire rules (place (recordsOf records checkpoint.key) checkpoint)) :
          Fallible RestError Records Unit).run records := run_check_bind valid
    cases admitted : accept rules records checkpoint with
    | error error =>
      rw [admitted] at decided
      exact Or.inr ⟨error, run.trans (run_refused_bind admitted), decided.symm⟩
    | ok =>
      rw [admitted] at decided
      exact Or.inl ⟨_, run.trans (run_check_bind admitted), decided.symm, keeps.put⟩

/-- Two entries with one checkpoint would be of one bucket. -/
theorem Keeps.values_nodup (keeps : Keeps rules history records) (key : String) : (recordsOf records key).values.Nodup := by
  have distinct := (recordsOf records key).distinct
  refine List.Nodup.map_on (fun first member second also same => ?_) (List.Nodup.of_map _ distinct)
  have bucket {entry : Nat × Safe7579HistoryCheckpoint} (member : entry ∈ (recordsOf records key).entries) :
      bucketOf entry.2 = entry.1 :=
    (best_some (retained_some ((keeps.retained key entry.1).symm.trans (get_of_mem member))).2).1.2
  exact Prod.ext ((bucket member).symm.trans ((congrArg bucketOf same).trans (bucket also))) same

theorem Keeps.get_listing (keeps : Keeps rules history records) (known : assertKey key = .ok ()) :
    ∃ list, Memory.get records key = .ok list ∧ list.Perm (recordsOf records key).values ∧
    Listing rules (ofKey history key) list :=
  ⟨byLastBlock (recordsOf records key).values, bind_run known rfl, List.perm_insertionSort _ _,
    byLastBlock_listing (keeps.values_nodup key) fun _ => keeps.values_mem⟩

end Memory

namespace Postgres

variable {table : Table}

def rowOf (checkpoint : Safe7579HistoryCheckpoint) : Row := ⟨lastBlock checkpoint, checkpoint⟩

/-- The rows are what is retained of the checkpoints taken. -/
def Keeps (rules : Limits) (history : List Safe7579HistoryCheckpoint) (table : Table) : Prop :=
  ∀ key b, table.get (key, b) = (retained rules.historyBuckets (ofKey history key) b).map rowOf

theorem Keeps.empty : Keeps rules [] .empty := by
  intro key b
  cases found : retained rules.historyBuckets (ofKey [] key) b with
  | none => rfl
  | some checkpoint => exact absurd (best_some (retained_some found).2).1.1 List.not_mem_nil

theorem get_upsert (keeps : Keeps rules history table) (key : String) (b : Nat) : (upsert table checkpoint).get (key, b) =
    if key = checkpoint.key then (supersede b (retained rules.historyBuckets (ofKey history key) b) checkpoint).map rowOf
    else table.get (key, b) := by
  by_cases here : (key, b) = (checkpoint.key, bucketOf checkpoint)
  · obtain ⟨rfl, rfl⟩ := Prod.mk.inj here
    rw [if_pos rfl, upsert, keeps]
    cases found : retained rules.historyBuckets (ofKey history checkpoint.key) (bucketOf checkpoint) with
    | none => simp [supersede, rowOf]
    | some prior =>
      by_cases later : lastBlock prior ≤ lastBlock checkpoint
      · simp [supersede, rowOf, later]
      · simp [supersede, rowOf, later, keeps checkpoint.key (bucketOf checkpoint), found]
  · have kept : (upsert table checkpoint).get (key, b) = table.get (key, b) := by
      unfold upsert
      split
      · exact get_set_ne _ _ here
      · split
        · exact get_set_ne _ _ here
        · rfl
    rw [kept]
    split
    · rename_i same
      have elsewhere : bucketOf checkpoint ≠ b := fun bucket => here (by rw [same, bucket])
      rw [supersede_elsewhere elsewhere, keeps]
    · rfl

theorem mem_rows {entry : (String × Nat) × Row} :
    entry ∈ (table.filter fun row _ => row.1 = key).entries ↔ entry.1.1 = key ∧ table.get entry.1 = some entry.2 := by
  change entry ∈ table.entries.filter _ ↔ _
  rw [List.mem_filter, ← OrderedMap.mem_entries_iff]
  simp [and_comm]

theorem bucketsOf_nodup (table : Table) (key : String) : (bucketsOf table key).Nodup := by
  have distinct := (table.filter fun row _ => row.1 = key).distinct
  refine List.Nodup.map_on (fun first member second also same => ?_) distinct
  obtain ⟨left, listed, rfl⟩ := List.mem_map.mp member
  obtain ⟨right, listed', rfl⟩ := List.mem_map.mp also
  exact Prod.ext ((mem_rows.mp listed).1.trans (mem_rows.mp listed').1.symm) same

theorem mem_bucketsOf : b ∈ bucketsOf table key ↔ ∃ row, table.get (key, b) = some row := by
  unfold bucketsOf
  rw [List.map_map, List.mem_map]
  constructor
  · rintro ⟨entry, member, rfl⟩
    obtain ⟨rfl, found⟩ := mem_rows.mp member
    exact ⟨entry.2, found⟩
  · rintro ⟨row, found⟩
    exact ⟨((key, b), row), mem_rows.mpr ⟨rfl, found⟩, rfl⟩

theorem buckets_upsert (keeps : Keeps rules history table) : (bucketsOf (upsert table checkpoint) checkpoint.key).toFinset =
    insert (bucketOf checkpoint) (newest rules.historyBuckets (buckets (ofKey history checkpoint.key))) := by
  ext b
  rw [List.mem_toFinset, mem_bucketsOf, get_upsert keeps, if_pos rfl, Finset.mem_insert, ← retained_isSome,
    ← supersede_isSome]
  constructor
  · rintro ⟨row, found⟩
    obtain ⟨held, superseded, _⟩ := Option.map_eq_some_iff.mp found
    exact ⟨held, superseded⟩
  · rintro ⟨held, superseded⟩
    exact ⟨rowOf held, by rw [superseded]; rfl⟩

theorem Keeps.put (keeps : Keeps rules history table) :
    Keeps rules (history ++ [checkpoint]) (prune rules (upsert table checkpoint) checkpoint.key) := by
  intro key b
  rw [prune, OrderedMap.get_filter, get_upsert keeps, ofKey_snoc]
  by_cases same : key = checkpoint.key
  · subst same
    rw [if_pos rfl, if_pos rfl, retained_snoc]
    have kept := mem_byBucket_take (b := b) (n := rules.historyBuckets) (bucketsOf_nodup (upsert table checkpoint) checkpoint.key)
    rw [buckets_upsert keeps] at kept
    by_cases member : b ∈ newest rules.historyBuckets (insert (bucketOf checkpoint)
        (newest rules.historyBuckets (buckets (ofKey history checkpoint.key))))
    · rw [if_pos member]
      cases supersede b (retained rules.historyBuckets (ofKey history checkpoint.key) b) checkpoint <;>
        simp [Option.filter, kept.mpr member]
    · rw [if_neg member]
      cases supersede b (retained rules.historyBuckets (ofKey history checkpoint.key) b) checkpoint <;>
        simp [Option.filter, mt kept.mp member]
  · rw [if_neg same, if_neg (Ne.symm same), keeps]
    cases retained rules.historyBuckets (ofKey history key) b <;> simp [Option.filter, same]

theorem mem_rowsOf {row : Row} : row ∈ rowsOf table key ↔ ∃ b, table.get (key, b) = some row := by
  change row ∈ List.map Prod.snd _ ↔ _
  rw [List.mem_map]
  constructor
  · rintro ⟨entry, member, rfl⟩
    obtain ⟨rfl, found⟩ := mem_rows.mp member
    exact ⟨entry.1.2, found⟩
  · rintro ⟨b, found⟩
    exact ⟨((key, b), row), mem_rows.mpr ⟨rfl, found⟩, rfl⟩

theorem Keeps.row (keeps : Keeps rules history table) {row : Row} (member : row ∈ rowsOf table key) : row = rowOf row.document ∧
    retained rules.historyBuckets (ofKey history key) (bucketOf row.document) = some row.document := by
  obtain ⟨b, found⟩ := mem_rowsOf.mp member
  rw [keeps] at found
  obtain ⟨held, kept, rfl⟩ := Option.map_eq_some_iff.mp found
  have bucket := (best_some (retained_some kept).2).1.2
  exact ⟨rfl, by rw [rowOf, bucket, kept]⟩

theorem Keeps.documents_mem (keeps : Keeps rules history table) : checkpoint ∈ (rowsOf table key).map Row.document ↔
    retained rules.historyBuckets (ofKey history key) (bucketOf checkpoint) = some checkpoint := by
  rw [List.mem_map]
  constructor
  · rintro ⟨row, member, rfl⟩
    exact (keeps.row member).2
  · intro kept
    exact ⟨rowOf checkpoint, mem_rowsOf.mpr ⟨bucketOf checkpoint, by rw [keeps, kept]; rfl⟩, rfl⟩

theorem Keeps.countKeys_eq (keeps : Keeps rules history table) : countKeys table = (keys history).card := by
  have same : (table.entries.map fun entry => entry.1.1).toFinset = keys history := by
    ext key
    rw [List.mem_toFinset, mem_keys, List.mem_map]
    constructor
    · rintro ⟨entry, member, rfl⟩ empty
      have found : table.get (entry.1.1, entry.1.2) = some entry.2 := get_of_mem member
      rw [keeps, empty] at found
      obtain ⟨held, kept, _⟩ := Option.map_eq_some_iff.mp found
      exact absurd (best_some (retained_some kept).2).1.1 List.not_mem_nil
    · intro nonempty
      obtain ⟨b, member⟩ := newest_nonempty rules.positive (buckets_nonempty nonempty)
      obtain ⟨held, kept⟩ := retained_isSome.mpr member
      have found : table.get (key, b) = some (rowOf held) := by
        rw [keeps, kept]
        rfl
      exact ⟨_, mem_of_get found, rfl⟩
  rw [countKeys, ← List.card_toFinset, same]

theorem newestFirst_perm (rows : List Row) : (newestFirst rows).Perm rows := List.perm_insertionSort _ rows

theorem Keeps.admit_eq (keeps : Keeps rules history table) (coherent : Coherent history)
    (valid : validate checkpoint = .ok ()) : heading (accept rules table checkpoint) = decision rules history checkpoint := by
  have member {row : Row} (first : (newestFirst (rowsOf table checkpoint.key)).head? = some row) :
      row.document ∈ ofKey history checkpoint.key := by
    have listed := (newestFirst_perm _).mem_iff.mp (List.mem_of_head? first)
    exact (best_some (retained_some (keeps.row listed).2).2).1.1
  have listed : ∀ existing ∈ (newestFirst (rowsOf table checkpoint.key)).head?.map Row.document,
      existing ∈ ofKey history checkpoint.key := by
    intro existing held
    obtain ⟨row, first, rfl⟩ := Option.map_eq_some_iff.mp held
    exact member first
  have none : (newestFirst (rowsOf table checkpoint.key)).head?.map Row.document = none → ofKey history checkpoint.key = [] := by
    intro empty
    by_contra nonempty
    obtain ⟨b, member⟩ := newest_nonempty rules.positive (buckets_nonempty nonempty)
    obtain ⟨existing, kept⟩ := retained_isSome.mpr member
    have bucket := (best_some (retained_some kept).2).1.2
    have held := keeps.documents_mem.mpr (bucket.symm ▸ kept)
    have perm := newestFirst_perm (rowsOf table checkpoint.key)
    rw [List.head?_eq_none_iff.mp (Option.map_eq_none_iff.mp empty)] at perm
    rw [← perm.nil_eq] at held
    cases held
  refine Eq.trans ?_ (coherent.decision_eq valid "The durable verified-account checkpoint capacity is reached." listed none).symm
  rw [accept, keeps.countKeys_eq]
  cases first : (newestFirst (rowsOf table checkpoint.key)).head? with
  | none => rfl
  | some row =>
    have stored := coherent.valid row.document (mem_ofKey.mp (member first)).1
    exact congrArg heading (bind_run stored rfl)

theorem put_cases (keeps : Keeps rules history table) (coherent : Coherent history) :
    (∃ next, (put rules checkpoint).run table = .ok () next ∧ decision rules history checkpoint = .ok () ∧
      Keeps rules (history ++ [checkpoint]) next) ∨
    ∃ error, (put rules checkpoint).run table = .error error table ∧
      decision rules history checkpoint = .error (error.status, error.code) := by
  cases valid : validate checkpoint with
  | error error =>
    refine Or.inr ⟨error, run_transaction_error ?_, ?_⟩
    · rw [valid]
      rfl
    · rw [decision, valid]
      rfl
  | ok =>
    have decided := keeps.admit_eq coherent valid
    cases admitted : accept rules table checkpoint with
    | error error =>
      rw [admitted] at decided
      refine Or.inr ⟨error, run_transaction_error ?_, decided.symm⟩
      rw [valid, admitted]
      rfl
    | ok =>
      rw [admitted] at decided
      refine Or.inl ⟨_, run_transaction_ok ?_, decided.symm, keeps.put⟩
      rw [valid, admitted]
      rfl

theorem Keeps.rows_length (keeps : Keeps rules history table) : (rowsOf table key).length ≤ rules.historyBuckets := by
  have same : (bucketsOf table key).toFinset = newest rules.historyBuckets (buckets (ofKey history key)) := by
    ext b
    rw [List.mem_toFinset, mem_bucketsOf, keeps, ← retained_isSome]
    constructor
    · rintro ⟨row, found⟩
      obtain ⟨held, kept, _⟩ := Option.map_eq_some_iff.mp found
      exact ⟨held, kept⟩
    · rintro ⟨held, kept⟩
      exact ⟨rowOf held, by rw [kept]; rfl⟩
  calc (rowsOf table key).length = (bucketsOf table key).length := by simp [rowsOf, bucketsOf, OrderedMap.values]
    _ = (newest rules.historyBuckets (buckets (ofKey history key))).card := by
      rw [← same, List.toFinset_card_of_nodup (bucketsOf_nodup table key)]
    _ ≤ rules.historyBuckets := by
      rw [card_newest]
      exact Nat.min_le_left ..

theorem Keeps.documents_nodup (keeps : Keeps rules history table) (key : String) :
    ((rowsOf table key).map Row.document).Nodup := by
  have distinct := (table.filter fun row _ => row.1 = key).distinct
  change (List.map Row.document (List.map Prod.snd _)).Nodup
  rw [List.map_map]
  refine List.Nodup.map_on (fun first member second also same => ?_) (List.Nodup.of_map _ distinct)
  have place {entry : (String × Nat) × Row} (member : entry ∈ (table.filter fun row _ => row.1 = key).entries) :
      entry.1 = (key, bucketOf entry.2.document) ∧ entry.2 = rowOf entry.2.document := by
    obtain ⟨rfl, found⟩ := mem_rows.mp member
    have found : table.get (entry.1.1, entry.1.2) = some entry.2 := found
    rw [keeps] at found
    obtain ⟨held, kept, made⟩ := Option.map_eq_some_iff.mp found
    rw [← made]
    exact ⟨Prod.ext rfl (best_some (retained_some kept).2).1.2.symm, rfl⟩
  obtain ⟨left, row⟩ := place member
  obtain ⟨right, row'⟩ := place also
  have same : first.2.document = second.2.document := same
  exact Prod.ext (left.trans (same ▸ right.symm)) (row.trans (same ▸ row'.symm))

theorem Keeps.get_listing (keeps : Keeps rules history table) (coherent : Coherent history) (known : assertKey key = .ok ()) :
    ∃ list, Postgres.get rules table key = .ok list ∧ list.Perm ((rowsOf table key).map Row.document) ∧
      Listing rules (ofKey history key) list := by
  have read : ∀ row ∈ newestFirst (rowsOf table key), (do
      validate row.document
      refuse (row.document.key != key) (invalid "Stored checkpoint does not match its namespace.")
      return row.document) = Except.ok row.document := by
    intro row member
    have kept := (keeps.row ((newestFirst_perm _).mem_iff.mp member)).2
    obtain ⟨taken, named⟩ := mem_ofKey.mp (best_some (retained_some kept).2).1.1
    exact bind_run (coherent.valid _ taken) (bind_run (refuse_ok.mpr (by simp [named])) rfl)
  have whole : (newestFirst (rowsOf table key)).take rules.historyBuckets = newestFirst (rowsOf table key) :=
    List.take_of_length_le ((newestFirst_perm _).length_eq.trans_le keeps.rows_length)
  have sorted : (newestFirst (rowsOf table key)).map Row.document = byLastBlock ((rowsOf table key).map Row.document) := by
    refine List.map_insertionSort _ _ _ _ fun first member second also => ?_
    rw [(keeps.row member).1, (keeps.row also).1]
    exact Iff.rfl
  refine ⟨(newestFirst (rowsOf table key)).map Row.document, bind_run known ?_, (newestFirst_perm _).map _, ?_⟩
  · rw [whole]
    exact mapM_map read
  · rw [sorted]
    exact byLastBlock_listing (keeps.documents_nodup key) fun checkpoint => keeps.documents_mem

end Postgres

abbrev StoreAnswer := Answer Op RestError (List Safe7579HistoryCheckpoint)

def summary (answer : StoreAnswer) : Op × Except (Nat × String) (List Safe7579HistoryCheckpoint) :=
  (answer.op, heading answer.result)

/-- The checkpoint of an accepted put. -/
def taken (answer : StoreAnswer) : Option Safe7579HistoryCheckpoint :=
  match answer.op, answer.result with
  | .put checkpoint, .ok _ => some checkpoint
  | _, _ => none

/-- Both stores hold what is retained of the same checkpoints. -/
structure Agree (rules : Limits) (history : List Safe7579HistoryCheckpoint) (records : Memory.Records) (table : Postgres.Table) :
    Prop where
  memory : Memory.Keeps rules history records
  postgres : Postgres.Keeps rules history table
  coherent : Coherent history

theorem Agree.step {records : Memory.Records} {table : Postgres.Table} (agree : Agree rules history records table) (op : Op) :
    ∃ first second records' table', Performs (Memory.perform rules) records ⟨op, first⟩ records' ∧
      Performs (Postgres.perform rules) table ⟨op, second⟩ table' ∧ heading first = heading second ∧
      Agree rules (history ++ (taken ⟨op, first⟩).toList) records' table' := by
  cases op with
  | get key =>
    have kept {first : Except RestError (List Safe7579HistoryCheckpoint)} :
        Agree rules (history ++ (taken ⟨.get key, first⟩).toList) records table := by
      simpa [taken] using agree
    cases known : assertKey key with
    | error error =>
      have left : Memory.get records key = .error error := by
        rw [Memory.get, known]
        rfl
      have right : Postgres.get rules table key = .error error := by
        rw [Postgres.get, known]
        rfl
      refine ⟨.error error, .error error, records, table, ?_, ?_, rfl, kept⟩
      · have ran : (Memory.perform rules (.get key)).run records = .error error records := by
          change (check (Memory.get records key)).run records = _
          rw [left, run_check_error]
        simp only [Performs, ran, and_self]
      · have ran : (Postgres.perform rules (.get key)).run table = .error error table := by
          change (check (Postgres.get rules table key)).run table = _
          rw [right, run_check_error]
        simp only [Performs, ran, and_self]
    | ok =>
      obtain ⟨list, left, _, listing⟩ := agree.memory.get_listing known
      obtain ⟨list', right, _, listing'⟩ := agree.postgres.get_listing agree.coherent known
      refine ⟨.ok list, .ok list, records, table, Performs.of_ok ?_, Performs.of_ok ?_, rfl, kept⟩
      · change (check (Memory.get records key)).run records = _
        rw [left, run_check_ok]
      · change (check (Postgres.get rules table key)).run table = _
        rw [right, run_check_ok, listing.unique listing']
  | put checkpoint =>
    obtain ⟨records', left, decided, memory⟩ | ⟨error, left, decided⟩ := Memory.put_cases agree.memory agree.coherent
    · obtain ⟨table', right, _, postgres⟩ | ⟨_, _, undecided⟩ := Postgres.put_cases agree.postgres agree.coherent
      · exact ⟨.ok [], .ok [], records', table', .of_ok (run_bind_ok left), .of_ok (run_bind_ok right), rfl,
          memory, postgres, agree.coherent.snoc decided⟩
      · cases decided.symm.trans undecided
    · obtain ⟨_, _, undecided, _⟩ | ⟨error', right, decided'⟩ := Postgres.put_cases agree.postgres agree.coherent
      · cases decided.symm.trans undecided
      · refine ⟨.error error, .error error', records, table, ?_, ?_, ?_, ?_⟩
        · have ran : (Memory.perform rules (.put checkpoint)).run records = .error error records := Fallible.run_bind_error left
          simp only [Performs, ran, and_self]
        · have ran : (Postgres.perform rules (.put checkpoint)).run table = .error error' table := Fallible.run_bind_error right
          simp only [Performs, ran, and_self]
        · exact congrArg Except.error (Except.error.inj (decided.symm.trans decided'))
        · simpa [taken] using agree

theorem performAll_cons {σ : Type} {perform : Op → Fallible RestError σ (List Safe7579HistoryCheckpoint)} {s t : σ} {op : Op}
    {result : Except RestError (List Safe7579HistoryCheckpoint)}
    (performed : Performs perform s ⟨op, result⟩ t) (rest : List Op) :
    performAll perform s (op :: rest) = (⟨op, result⟩ :: (performAll perform t rest).1, (performAll perform t rest).2) := by
  obtain ⟨outcome, answered, ran⟩ | ⟨error, answered, failed⟩ := performed.cases
  · cases answered
    rw [performAll, show (perform op).run s = _ from ran]
  · cases answered
    rw [performAll, show (perform op).run s = _ from failed]

theorem Agree.run {records : Memory.Records} {table : Postgres.Table}
    (agree : Agree rules history records table) (ops : List Op) :
    (performAll (Memory.perform rules) records ops).1.map summary =
    (performAll (Postgres.perform rules) table ops).1.map summary ∧
      Agree rules (history ++ (performAll (Memory.perform rules) records ops).1.filterMap taken)
        (performAll (Memory.perform rules) records ops).2 (performAll (Postgres.perform rules) table ops).2 := by
  induction ops generalizing history records table with
  | nil => exact ⟨rfl, by simpa [performAll] using agree⟩
  | cons op rest ih =>
    obtain ⟨first, second, records', table', left, right, same, agree⟩ := agree.step op
    obtain ⟨others, agree⟩ := ih agree
    rw [performAll_cons left, performAll_cons right]
    refine ⟨?_, ?_⟩
    · rw [List.map_cons, List.map_cons, others]
      exact congrArg (· :: _) (Prod.ext rfl same)
    · have whole : history ++ (⟨op, first⟩ :: (performAll (Memory.perform rules) records' rest).1).filterMap taken =
          (history ++ (taken ⟨op, first⟩).toList) ++ (performAll (Memory.perform rules) records' rest).1.filterMap taken := by
        rw [List.append_assoc]
        cases marked : taken ⟨op, first⟩ <;> simp [marked]
      exact whole ▸ agree

/-- What the kept checkpoints of every key are, of the accepted puts. -/
structure Retention (rules : Limits) (puts : List Safe7579HistoryCheckpoint) (held : String → List Safe7579HistoryCheckpoint) :
    Prop where
  /-- They bind one account creation. -/
  bound : ∀ key, ∀ first ∈ held key, ∀ second ∈ held key, sameCreation first second = true
  single : ∀ key, ((held key).map bucketOf).Nodup
  /-- Each is an accepted put of its key, and no accepted put into its bucket is of a later block. -/
  greatest : ∀ key, ∀ checkpoint ∈ held key, (checkpoint ∈ puts ∧ checkpoint.key = key) ∧
    ∀ other ∈ puts, other.key = key → bucketOf other = bucketOf checkpoint → lastBlock other ≤ lastBlock checkpoint
  /-- The buckets are the newest of those put. -/
  kept : ∀ key b, b ∈ (held key).map bucketOf ↔
    b ∈ newest rules.historyBuckets ((puts.filter fun checkpoint => checkpoint.key = key).map bucketOf).toFinset

theorem Coherent.retention (coherent : Coherent history) {held : String → List Safe7579HistoryCheckpoint}
    (distinct : ∀ key, (held key).Nodup) (members : ∀ key checkpoint, checkpoint ∈ held key ↔
      retained rules.historyBuckets (ofKey history key) (bucketOf checkpoint) = some checkpoint) :
      Retention rules history held := by
  have listed {key : String} {checkpoint : Safe7579HistoryCheckpoint} (member : checkpoint ∈ held key) :
      (checkpoint ∈ history ∧ checkpoint.key = key) ∧
        ∀ other ∈ ofKey history key, bucketOf other = bucketOf checkpoint → lastBlock other ≤ lastBlock checkpoint := by
    obtain ⟨⟨taken, _⟩, greatest⟩ := best_some (retained_some ((members key checkpoint).mp member)).2
    exact ⟨mem_ofKey.mp taken, greatest⟩
  constructor
  · intro key first member second also
    obtain ⟨⟨taken, named⟩, _⟩ := listed member
    obtain ⟨⟨taken', named'⟩, _⟩ := listed also
    exact coherent.bound first taken second taken' (named.trans named'.symm)
  · intro key
    refine List.Nodup.map_on (fun first member second also same => ?_) (distinct key)
    have found := (members key first).mp member
    rw [same, (members key second).mp also] at found
    exact (Option.some.inj found).symm
  · intro key checkpoint member
    obtain ⟨taken, greatest⟩ := listed member
    exact ⟨taken, fun other also named => greatest other (mem_ofKey.mpr ⟨also, named⟩)⟩
  · intro key b
    change _ ↔ b ∈ newest rules.historyBuckets (buckets (ofKey history key))
    rw [List.mem_map, ← retained_isSome]
    constructor
    · rintro ⟨checkpoint, member, rfl⟩
      exact ⟨checkpoint, (members key checkpoint).mp member⟩
    · rintro ⟨checkpoint, found⟩
      have bucket := (best_some (retained_some found).2).1.2
      exact ⟨checkpoint, (members key checkpoint).mpr (bucket.symm ▸ found), bucket⟩

def Memory.held (records : Memory.Records) (key : String) : List Safe7579HistoryCheckpoint := (recordsOf records key).values

def Postgres.held (table : Postgres.Table) (key : String) : List Safe7579HistoryCheckpoint := (rowsOf table key).map Row.document

/-- The stores answer a sequence of calls alike. What either holds after it is retained of the accepted
puts, a `get` lists all of it from the newest block down, and a refused `put` changes nothing. -/
theorem checkpoint_stores_agree (rules : Limits) (ops : List Op) :
    let memory := performAll (Memory.perform rules) .empty ops
    let postgres := performAll (Postgres.perform rules) .empty ops
    let puts := memory.1.filterMap taken
    memory.1.map summary = postgres.1.map summary ∧
      (Retention rules puts (Memory.held memory.2) ∧ Retention rules puts (Postgres.held postgres.2)) ∧
      (∀ key list, (Memory.get memory.2 key = .ok list →
          list.Perm (Memory.held memory.2 key) ∧ list.Pairwise fun first second => lastBlock second < lastBlock first) ∧
        (Postgres.get rules postgres.2 key = .ok list →
          list.Perm (Postgres.held postgres.2 key) ∧ list.Pairwise fun first second => lastBlock second < lastBlock first)) ∧
      ∀ checkpoint error,
        (∀ records, (Memory.put rules checkpoint).run memory.2 = .error error records → records = memory.2) ∧
        ∀ table, (Postgres.put rules checkpoint).run postgres.2 = .error error table → table = postgres.2 := by
  intro memory postgres puts
  have start : Agree rules [] .empty .empty := ⟨Memory.Keeps.empty, Postgres.Keeps.empty, Coherent.nil⟩
  obtain ⟨same, agree⟩ := start.run ops
  have agree : Agree rules puts memory.2 postgres.2 := agree
  refine ⟨same, ⟨agree.coherent.retention agree.memory.values_nodup fun key checkpoint => agree.memory.values_mem,
    agree.coherent.retention agree.postgres.documents_nodup fun key checkpoint => agree.postgres.documents_mem⟩,
    fun key list => ⟨fun answered => ?_, fun answered => ?_⟩, fun checkpoint error =>
    ⟨fun records refused => ?_, fun table refused => ?_⟩⟩
  · obtain ⟨_, known, _⟩ := ok_bind answered
    obtain ⟨listed, answered', perm, listing⟩ := agree.memory.get_listing known
    cases answered.symm.trans answered'
    exact ⟨perm, listing.sorted⟩
  · obtain ⟨_, known, _⟩ := ok_bind answered
    obtain ⟨listed, answered', perm, listing⟩ := agree.postgres.get_listing agree.coherent known
    cases answered.symm.trans answered'
    exact ⟨perm, listing.sorted⟩
  · obtain ⟨_, ran, _⟩ | ⟨_, ran, _⟩ := @Memory.put_cases puts checkpoint rules memory.2 agree.memory agree.coherent
    · cases ran.symm.trans refused
    · cases ran.symm.trans refused
      rfl
  · obtain ⟨_, ran, _⟩ | ⟨_, ran, _⟩ := @Postgres.put_cases puts checkpoint rules postgres.2 agree.postgres agree.coherent
    · cases ran.symm.trans refused
    · cases ran.symm.trans refused
      rfl

def sampleDigits (n : Nat) (digit : Char) : List Char := '0' :: 'x' :: List.replicate n digit

def sampleText : String := String.ofList (sampleDigits 64 'a')

def sampleKey : String := String.ofList ('1' :: ':' :: sampleDigits 40 'a' ++
    ':' :: sampleDigits 64 'a' ++ ':' :: sampleDigits 64 'a')

def sampleCheckpoint : Safe7579HistoryCheckpoint :=
  { schemaVersion := 2, key := sampleKey, creationBlock := "5", creationHash := sampleText,
    creationTransaction := sampleText, initializerHash := sampleText, lastBlock := "10",
    lastHash := sampleText, authorityHash := sampleText, lifecycleChanges := 0,
    sessionAdministration := ⟨"0", sampleText, none⟩ }

theorem sampleText_isHash : isHash sampleText = true := isHex_replicate 64 (by decide)

theorem sampleKey_isKey : isKey sampleKey = true := by
  have parts : split sampleKey ':' = [['1'], sampleDigits 40 'a', sampleDigits 64 'a',
    sampleDigits 64 'a'].map String.ofList := by
    rw [split, sampleKey, String.toList_ofList]
    exact congrArg (List.map String.ofList) (by decide +kernel)
  have lower (n : Nat) : isLowerHex n (String.ofList (sampleDigits n 'a')) = true := by
    have hexadecimal : isHex n (String.ofList (sampleDigits n 'a')) = true := isHex_replicate n (by decide)
    rw [isLowerHex, hexadecimal, String.toList_ofList, Bool.true_and, List.all_eq_true]
    intro c member
    rcases List.mem_cons.mp member with rfl | member
    · decide
    · rcases List.mem_cons.mp member with rfl | member
      · decide
      · rw [List.eq_of_mem_replicate member]
        decide
  rw [isKey, parts]
  change (_ && isLowerHex 40 _ && isLowerHex 64 _ && isLowerHex 64 _ && _) = true
  rw [lower, lower]
  decide +kernel

theorem sampleCheckpoint_short : byteLength sampleCheckpoint ≤ 8192 := by
  have key : textOf sampleKey = Utf16.spelled ('1' :: ':' :: sampleDigits 40 'a' ++
    ':' :: sampleDigits 64 'a' ++ ':' :: sampleDigits 64 'a') := by
    rw [textOf, sampleKey, String.toList_ofList]
  have hash : textOf sampleText = Utf16.spelled (sampleDigits 64 'a') := by rw [textOf, sampleText, String.toList_ofList]
  simp only [byteLength, Safe7579HistoryCheckpoint.toJson, SessionAdministration.toJson, sampleCheckpoint, member, key, hash]
  decide +kernel

theorem sampleCheckpoint_valid : validate sampleCheckpoint = .ok () := by
  refine bind_run (refuse_ok.mpr (by rw [show sampleCheckpoint.key = sampleKey from rfl, sampleKey_isKey]; rfl)) ?_
  refine bind_run (refuse_ok.mpr ?_) ?_
  · change (!isUint "0" || !isHash sampleText) = false
    rw [sampleText_isHash]
    decide +kernel
  refine bind_run (show optionally _ none = .ok () from rfl) ?_
  have hashes : [sampleCheckpoint.creationHash, sampleCheckpoint.creationTransaction,
    sampleCheckpoint.initializerHash, sampleCheckpoint.lastHash,
      sampleCheckpoint.authorityHash].all isHash = true := by
    simp only [sampleCheckpoint, List.all_cons, List.all_nil, sampleText_isHash, Bool.and_self]
  refine refuse_ok.mpr (Bool.or_eq_false_iff.mpr ⟨?_, decide_eq_false (not_lt.mpr sampleCheckpoint_short)⟩)
  rw [hashes]
  decide +kernel

def sampleLimits : Limits := ⟨1, 2, by decide, by decide⟩

def sampleRefused : Safe7579HistoryCheckpoint := { sampleCheckpoint with key := "" }

theorem sample_put : (Memory.perform sampleLimits (.put sampleCheckpoint)).run .empty =
    .ok [] (OrderedMap.empty.set sampleKey (OrderedMap.empty.set 0 sampleCheckpoint)) := by
  refine run_bind_ok (a := ()) (t := OrderedMap.empty.set sampleKey (OrderedMap.empty.set 0 sampleCheckpoint)) ?_
  refine (run_check_bind sampleCheckpoint_valid).trans ?_
  rfl

theorem sample_refused (records : Memory.Records) :
    ∃ error next, (Memory.put sampleLimits sampleRefused).run records = .error error next :=
  ⟨_, _, run_refused_bind rfl⟩

theorem checkpoint_stores_agree_sample :
    ([sampleCheckpoint].Perm (Memory.held (performAll (Memory.perform sampleLimits) .empty [.put sampleCheckpoint]).2 sampleKey) ∧
      [sampleCheckpoint].Pairwise fun first second => lastBlock second < lastBlock first) ∧
      ∃ error, (Memory.put sampleLimits sampleRefused).run
        (performAll (Memory.perform sampleLimits) .empty [.put sampleCheckpoint]).2 =
        .error error (performAll (Memory.perform sampleLimits) .empty [.put sampleCheckpoint]).2 := by
  obtain ⟨_, _, lists, refusals⟩ := checkpoint_stores_agree sampleLimits [.put sampleCheckpoint]
  refine ⟨(lists sampleKey [sampleCheckpoint]).1 ?_, ?_⟩
  · rw [performAll_cons (Performs.of_ok sample_put)]
    refine bind_run (refuse_ok.mpr (by rw [sampleKey_isKey]; rfl)) ?_
    have stored := (Memory.recordsOf_set .empty sampleKey sampleKey (OrderedMap.empty.set 0 sampleCheckpoint)).trans (if_pos rfl)
    change Except.ok (byLastBlock (Memory.recordsOf (OrderedMap.set .empty sampleKey _) sampleKey).values) = _
    rw [stored]
    rfl
  · obtain ⟨error, next, refused⟩ :=
      sample_refused (performAll (Memory.perform sampleLimits) .empty [.put sampleCheckpoint]).2
    have same := (refusals sampleRefused error).1 next refused
    exact ⟨error, refused.trans (congrArg _ same)⟩

end JBCenter.Checkpoints
