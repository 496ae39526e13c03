import JBCenter.SmartAccounts.FactoryHistory

/-! The creation logs of ranges of blocks, the rows that stand for them, and how often a block stands among
the blocks found in the seed and in the table. -/
namespace JBCenter.SmartAccounts

theorem mem_span : n ∈ span first last ↔ first ≤ n ∧ n ≤ last := by
  simp only [span, List.mem_range'_1]
  omega

theorem nodup_span : (span first last).Nodup := List.nodup_range'

theorem span_append (low : first ≤ middle + 1) (high : middle ≤ last) :
    span first middle ++ span (middle + 1) last = span first last := by
  unfold span
  rw [show last + 1 - (middle + 1) = last - middle by omega,
    show last + 1 - first = middle + 1 - first + (last - middle) by omega, ← List.range'_append_1,
    show first + (middle + 1 - first) = middle + 1 by omega]

theorem span_single : span n n = [n] := by
  simp [span]

theorem span_empty (empty : last < first) : span first last = [] := by
  simp [span, show last + 1 - first = 0 by omega]

def Chain.logsOf (chain : Chain) (factory proxy n : Nat) : List Log :=
  (chain.logs factory n).filter (fun log => log.proxy == proxy)

variable {chain next : Chain} {factory proxy first last n : Nat}

theorem Chain.getLogs_none : chain.getLogs factory first last none = (span first last).flatMap (chain.logs factory) :=
  List.filter_eq_self.mpr fun _ _ => rfl

theorem Chain.getLogs_some :
    chain.getLogs factory first last (some proxy) = (span first last).flatMap (chain.logsOf factory proxy) := by
  unfold Chain.getLogs
  rw [List.filter_flatMap]
  rfl

theorem Chain.getLogs_single : chain.getLogs factory n n (some proxy) = chain.logsOf factory proxy n := by
  rw [Chain.getLogs_some, span_single, List.flatMap_singleton]

theorem Chain.getLogs_append (chosen : Option Nat) (low : first ≤ middle + 1) (high : middle ≤ last) :
    chain.getLogs factory first middle chosen ++ chain.getLogs factory (middle + 1) last chosen =
      chain.getLogs factory first last chosen := by
  unfold Chain.getLogs
  rw [← List.filter_append, ← List.flatMap_append, span_append low high]

theorem Chain.getLogs_empty (chosen : Option Nat) (empty : last < first) :
    chain.getLogs factory first last chosen = [] := by
  unfold Chain.getLogs
  rw [span_empty empty]
  rfl

theorem Chain.logs_congr (same : next.block n = chain.block n) : next.logs factory n = chain.logs factory n := by
  unfold Chain.logs
  rw [same]

theorem Chain.getLogs_congr (chosen : Option Nat) (same : ∀ n, first ≤ n → n ≤ last → next.block n = chain.block n) :
    next.getLogs factory first last chosen = chain.getLogs factory first last chosen := by
  unfold Chain.getLogs
  rw [List.flatMap_congr fun n member => Chain.logs_congr (same n (mem_span.mp member).1 (mem_span.mp member).2)]

theorem Chain.Grows.getLogs (grows : chain.Grows next) (chosen : Option Nat) (final : last ≤ chain.finalized) :
    next.getLogs factory first last chosen = chain.getLogs factory first last chosen :=
  Chain.getLogs_congr chosen fun n _ bound => grows.2 n (bound.trans final)

theorem Chain.Grows.logsOf (grows : chain.Grows next) (final : n ≤ chain.finalized) :
    next.logsOf factory proxy n = chain.logsOf factory proxy n := by
  unfold Chain.logsOf
  rw [Chain.logs_congr (grows.2 n final)]

theorem Chain.Grows.trans {later : Chain} (grows : chain.Grows next) (again : next.Grows later) :
    chain.Grows later :=
  ⟨grows.1.trans again.1, fun n final => (again.2 n (final.trans grows.1)).trans (grows.2 n final)⟩

theorem blockNumber_of_mem_logs (member : log ∈ chain.logs factory n) : log.blockNumber = n := by
  unfold Chain.logs at member
  split at member
  · cases member
  · obtain ⟨_, _, rfl⟩ := List.mem_map.mp member
    rfl

def Log.key (log : Log) : Nat × Nat := (log.blockNumber, log.logIndex)

theorem nodup_keys (blocks : List Nat) (distinct : blocks.Nodup) :
    ((blocks.flatMap (chain.logs factory)).map Log.key).Nodup := by
  rw [List.map_flatMap, List.nodup_flatMap]
  constructor
  · intro n _
    unfold Chain.logs
    split
    · exact List.nodup_nil
    · rename_i b found
      rw [List.map_map]
      refine List.Nodup.of_map Prod.snd ?_
      rw [List.map_map]
      exact chain.indexed n b found
  · refine distinct.imp fun differ key left right => differ ?_
    obtain ⟨log, member, rfl⟩ := List.mem_map.mp left
    obtain ⟨other, here, same⟩ := List.mem_map.mp right
    rw [← blockNumber_of_mem_logs member, ← blockNumber_of_mem_logs here]
    exact (congrArg Prod.fst same).symm

theorem nodup_getLogs (chosen : Option Nat) : ((chain.getLogs factory first last chosen).map Log.key).Nodup :=
  (nodup_keys (span first last) nodup_span).sublist (List.filter_sublist.map Log.key)

def CreationRow.key (row : CreationRow) : Nat × Nat := (row.blockNumber, row.logIndex)

theorem insertRow_new {creations : List CreationRow} {row : CreationRow} (fresh : row.key ∉ creations.map CreationRow.key) :
    insertRow creations row = creations ++ [row] := by
  unfold insertRow
  rw [if_neg]
  intro conflict
  obtain ⟨other, member, same⟩ := List.any_eq_true.mp conflict
  rw [Bool.and_eq_true, beq_iff_eq, beq_iff_eq] at same
  exact fresh (List.mem_map.mpr ⟨other, member, Prod.ext same.1 same.2⟩)

theorem insertRows_new {creations rows : List CreationRow} (distinct : ((creations ++ rows).map CreationRow.key).Nodup) :
    rows.foldl insertRow creations = creations ++ rows := by
  induction rows generalizing creations with
  | nil => simp
  | cons row rest ih =>
    have fresh : row.key ∉ creations.map CreationRow.key := by
      rw [List.map_append, List.nodup_append] at distinct
      exact fun member => distinct.2.2 _ member _ (List.mem_map_of_mem List.mem_cons_self) rfl
    rw [List.foldl_cons, insertRow_new fresh, ih (by simpa using distinct)]
    simp

theorem insert_page (low : first ≤ middle + 1) (high : middle ≤ last) :
    ((chain.getLogs factory (middle + 1) last none).map Log.row).foldl insertRow
        ((chain.getLogs factory first middle none).map Log.row) =
      (chain.getLogs factory first last none).map Log.row := by
  rw [insertRows_new, ← List.map_append, Chain.getLogs_append none low high]
  rw [← List.map_append, Chain.getLogs_append none low high, List.map_map]
  exact nodup_getLogs none

/-- The seed lists exactly the creations up to its last block, which is final. -/
structure FactoryHistorySeed.Lists (seed : FactoryHistorySeed) (chain : Chain) : Prop where
  final : seed.through ≤ chain.finalized
  exact : ∀ proxy n, seed.creations.count (proxy, n) =
    if n ≤ seed.through then (chain.logsOf seed.factory proxy n).length else 0

theorem count_map_snd (rows : List (Nat × Nat)) :
    ((rows.filter (fun row => decide (row.1 = proxy))).map Prod.snd).count n = rows.count (proxy, n) := by
  induction rows with
  | nil => rfl
  | cons row rest ih =>
    obtain ⟨account, block⟩ := row
    by_cases same : account = proxy
    · subst same
      simp [List.count_cons, ih]
    · simp [ih, same]

theorem count_prefixOf {index : FactoryHistoryIndex} (lists : index.seed.Lists chain) :
    (index.seed.prefixOf proxy last).count n =
      if n ≤ index.seed.through ∧ n ≤ last then (chain.logsOf index.seed.factory proxy n).length else 0 := by
  unfold FactoryHistorySeed.prefixOf
  rw [runAt_eq_filter proxy index.sorted]
  by_cases within : n ≤ last
  · rw [List.count_filter (by simpa using within), count_map_snd, lists.exact]
    simp only [within, and_true]
  · rw [if_neg (by tauto)]
    exact List.count_eq_zero_of_not_mem fun member => within (by simpa using List.of_mem_filter member)

variable {blocks : List Nat}

theorem sum_single (distinct : blocks.Nodup) (value : Nat) :
    (blocks.map (fun block => if block = n then value else 0)).sum = if n ∈ blocks then value else 0 := by
  induction blocks with
  | nil => rfl
  | cons block rest ih =>
    obtain ⟨absent, distinct⟩ := List.nodup_cons.mp distinct
    rw [List.map_cons, List.sum_cons, ih distinct]
    by_cases same : block = n
    · subst same
      simp [absent]
    · simp [same, Ne.symm same]

theorem count_tail {rows : List CreationRow} (stored : rows = (chain.getLogs factory first middle none).map Log.row) :
    ((rows.filter (fun row => row.proxy == proxy && decide (row.blockNumber ≤ last) &&
        decide (after < row.blockNumber))).map CreationRow.blockNumber).count n =
      if (first ≤ n ∧ n ≤ middle) ∧ n ≤ last ∧ after < n then (chain.logsOf factory proxy n).length else 0 := by
  have block (m : Nat) : (chain.logs factory m).countP (fun log => (log.blockNumber == n) && ((log.proxy == proxy) &&
      decide (log.blockNumber ≤ last) && decide (after < log.blockNumber))) =
        if m = n then (if n ≤ last ∧ after < n then (chain.logsOf factory proxy n).length else 0) else 0 := by
    have asked : ∀ log ∈ chain.logs factory m, ((log.blockNumber == n) && ((log.proxy == proxy) &&
        decide (log.blockNumber ≤ last) && decide (after < log.blockNumber))) =
          (decide (m = n ∧ n ≤ last ∧ after < n) && (log.proxy == proxy)) := by
      intro log member
      rw [blockNumber_of_mem_logs member]
      by_cases same : m = n
      · subst same
        cases log.proxy == proxy <;> simp
      · simp [same]
    rw [List.countP_congr fun log member => by rw [asked log member]]
    by_cases chosen : m = n ∧ n ≤ last ∧ after < n
    · obtain ⟨rfl, within⟩ := chosen
      simp only [within, and_self, decide_true, Bool.true_and, if_true, Chain.logsOf, List.countP_eq_length_filter]
    · simp only [chosen, decide_false, Bool.false_and, List.countP_false]
      split
      · rw [if_neg fun within => chosen ⟨by assumption, within⟩]
        rfl
      · rfl
  rw [stored, List.count, List.countP_map, List.filter_map, List.countP_map, List.countP_filter, Chain.getLogs_none,
    List.countP_flatMap]
  refine (congrArg List.sum (List.map_congr_left fun m _ => block m)).trans ?_
  rw [sum_single nodup_span]
  simp only [mem_span]
  split
  · simp only [*, true_and, and_true]
  · simp only [*, false_and, if_false]

theorem nodup_eraseDups (blocks : List Nat) : blocks.eraseDups.Nodup := by
  generalize size : blocks.length = count
  induction count using Nat.strong_induction_on generalizing blocks with
  | _ count ih =>
    cases blocks with
    | nil => exact List.nodup_nil
    | cons block rest =>
      rw [List.eraseDups_cons]
      refine List.nodup_cons.mpr ⟨fun member => ?_, ih _ ?_ _ rfl⟩
      · simpa using List.of_mem_filter (List.mem_eraseDups.mp member)
      · have := List.length_filter_le (fun other => !other == block) rest
        simp only [List.length_cons] at size
        omega

theorem length_collected {found : Nat → List Log}
    (counted : ∀ n ∈ blocks, blocks.count n = (found n).length) :
    (blocks.eraseDups.flatMap found).length = blocks.length := by
  have same : blocks.eraseDups.Perm blocks.dedup :=
    (List.perm_ext_iff_of_nodup (nodup_eraseDups blocks) (List.nodup_dedup blocks)).mpr fun n => by
      rw [List.mem_eraseDups, List.mem_dedup]
  rw [List.length_flatMap, ← List.sum_map_count_dedup_eq_length blocks, (same.map _).sum_eq]
  exact congrArg List.sum (List.map_congr_left fun n member => (counted n (List.mem_dedup.mp member)).symm)

theorem flatMap_filter_nonempty (found : Nat → List Log) (blocks : List Nat) :
    (blocks.filter (fun n => !(found n).isEmpty)).flatMap found = blocks.flatMap found := by
  induction blocks with
  | nil => rfl
  | cons n rest ih =>
    rw [List.filter_cons]
    split
    · rw [List.flatMap_cons, List.flatMap_cons, ih]
    · rename_i empty
      have none : found n = [] := by simpa using empty
      rw [List.flatMap_cons, none, ih, List.nil_append]

theorem collected_perm (last : Nat)
    (those : ∀ n, n ∈ blocks ↔ n ≤ last ∧ chain.logsOf factory proxy n ≠ []) :
    (blocks.eraseDups.flatMap (chain.logsOf factory proxy)).Perm (chain.getLogs factory 0 last (some proxy)) := by
  rw [Chain.getLogs_some, ← flatMap_filter_nonempty _ (span 0 last)]
  refine List.Perm.flatMap_right _ ?_
  refine (List.perm_ext_iff_of_nodup (nodup_eraseDups blocks) (nodup_span.filter _)).mpr fun n => ?_
  rw [List.mem_eraseDups, those, List.mem_filter, mem_span]
  simp

end JBCenter.SmartAccounts
