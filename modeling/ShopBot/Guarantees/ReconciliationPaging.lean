import Mathlib.Data.Prod.Lex
import ShopBot.Guarantees.MaintenanceLeases
import ShopBot.Library.Keyset
import ShopBot.UseCases.ReconcileSubscriptions

/-! # What a reconciliation run works off

A run that keeps its lease works off the first anomalies in the order of their kinds and
entities, each once, as many as its batches hold. The next run begins at the first anomaly again.
-/

namespace ShopBot

open scoped List

/-- The place of an anomaly in the order of the batches. -/
def ReconciliationAnomaly.key (a : ReconciliationAnomaly) : ℕ ×ₗ ℕ :=
  toLex (a.kind.order, a.entityId)

namespace ReconcileSubscriptions

theorem order_injective : Function.Injective ReconciliationAnomalyKind.order := by
  intro k k' h
  cases k <;> cases k' <;> first | rfl | cases h

theorem key_injective : Function.Injective ReconciliationAnomaly.key := by
  intro a b h
  obtain ⟨hkind, hentity⟩ := Prod.mk.inj (toLex_inj.1 h)
  cases a
  cases b
  rw [ReconciliationAnomaly.mk.injEq]
  exact ⟨order_injective hkind, hentity⟩

theorem key_lt_iff {a b : ReconciliationAnomaly} : a.key < b.key ↔
    a.kind.order < b.kind.order ∨ (a.kind.order = b.kind.order ∧ a.entityId < b.entityId) :=
  Prod.Lex.toLex_lt_toLex

theorem key_le_iff {a b : ReconciliationAnomaly} : a.key ≤ b.key ↔
    a.kind.order < b.kind.order ∨ (a.kind.order = b.kind.order ∧ a.entityId ≤ b.entityId) :=
  Prod.Lex.toLex_le_toLex

/-- The anomalies in the order of their keys. -/
def inOrder (anomalies : List ReconciliationAnomaly) : List ReconciliationAnomaly :=
  anomalies.insertionSort fun a b => a.key ≤ b.key

variable {anomalies : List ReconciliationAnomaly}

theorem perm_inOrder (anomalies : List ReconciliationAnomaly) : inOrder anomalies ~ anomalies :=
  List.perm_insertionSort _ _

/-- Without repetition the order is strict. -/
theorem inOrder_sorted (h : anomalies.Nodup) : (inOrder anomalies).Pairwise (·.key < ·.key) := by
  have hle : (inOrder anomalies).Pairwise (·.key ≤ ·.key) := List.pairwise_insertionSort _ _
  have hne : (inOrder anomalies).Nodup := (perm_inOrder anomalies).nodup_iff.2 h
  exact hle.imp₂ (fun a b hab hab' => lt_of_le_of_ne hab fun heq => hab' (key_injective heq)) hne

/-! ## Batches -/

/-- The anomalies of a database that come after the cursor. -/
def isAfter (afterKindOrder afterEntityId : ℕ) (a : ReconciliationAnomaly) : Bool :=
  afterKindOrder < a.kind.order ||
    (a.kind.order = afterKindOrder && afterEntityId < a.entityId)

theorem isAfter_eq (k i : ℕ) (a : ReconciliationAnomaly) :
    isAfter k i a = decide (toLex (k, i) < a.key) := by
  rw [Bool.eq_iff_iff, decide_eq_true_eq, ReconciliationAnomaly.key, Prod.Lex.toLex_lt_toLex]
  simp only [isAfter, Bool.or_eq_true, Bool.and_eq_true, decide_eq_true_eq]
  rw [@eq_comm _ k]

/-- The order in which a batch is listed. -/
def BatchOrder (a b : ReconciliationAnomaly) : Prop :=
  a.kind.order < b.kind.order ∨ (a.kind.order = b.kind.order ∧ a.entityId ≤ b.entityId)

instance : DecidableRel BatchOrder := fun _ _ => inferInstanceAs (Decidable (_ ∨ _))

theorem batchOrder_iff {a b : ReconciliationAnomaly} : BatchOrder a b ↔ a.key ≤ b.key :=
  key_le_iff.symm

instance : Std.Total BatchOrder :=
  ⟨fun a b => by simpa only [batchOrder_iff] using le_total a.key b.key⟩

instance : IsTrans ReconciliationAnomaly BatchOrder :=
  ⟨fun a b c => by simpa only [batchOrder_iff] using le_trans⟩

/-- A batch is a page of the anomalies, whatever has changed before the cursor. -/
theorem listReconciliationAnomalies_eq_page {db : Database} {now : DateTime} {k i limit : ℕ}
    (h : (db.reconciliationAnomalies now).filter (isAfter k i) ~ anomalies.filter (isAfter k i)) :
    db.listReconciliationAnomalies now k i limit =
      Keyset.page ReconciliationAnomaly.key (inOrder anomalies) (toLex (k, i)) limit := by
  have hfilter : Keyset.after ReconciliationAnomaly.key (inOrder anomalies) (toLex (k, i)) =
      (inOrder anomalies).filter (isAfter k i) :=
    List.filter_congr fun a _ => (isAfter_eq k i a).symm
  rw [Keyset.page, hfilter]
  refine congrArg (List.take limit) (@List.Perm.eq_of_pairwise _ BatchOrder _ _ ?_ ?_ ?_ ?_)
  · intro a b _ _ hab hba
    exact key_injective (le_antisymm (batchOrder_iff.1 hab) (batchOrder_iff.1 hba))
  · exact List.pairwise_insertionSort BatchOrder _
  · refine List.Pairwise.filter _ ?_
    exact (List.pairwise_insertionSort _ _).imp batchOrder_iff.2
  · exact (List.perm_insertionSort _ _).trans (h.trans ((perm_inOrder anomalies).symm.filter _))

/-! ## One batch -/

variable {u : ReconcileSubscriptions} {surroundings : ReconcileSurroundings} {r : ReconcileRun}

theorem workOff_processed (batchNow : DateTime) (r : ReconcileRun) (a : ReconciliationAnomaly) :
    (workOff surroundings batchNow r a).processed = r.processed ++ [a] ∧
      (workOff surroundings batchNow r a).listings = r.listings := by
  unfold workOff transaction
  cases jobOf a with
  | none => dsimp only; split <;> exact ⟨rfl, rfl⟩
  | some job => exact ⟨rfl, rfl⟩

theorem foldl_workOff (batchNow : DateTime) :
    ∀ (batch : List ReconciliationAnomaly) (r : ReconcileRun),
      (batch.foldl (workOff surroundings batchNow) r).processed = r.processed ++ batch ∧
        (batch.foldl (workOff surroundings batchNow) r).listings = r.listings
  | [], r => ⟨(List.append_nil _).symm, rfl⟩
  | a :: batch, r => by
      obtain ⟨hprocessed, hlistings⟩ := foldl_workOff batchNow batch
        (workOff surroundings batchNow r a)
      obtain ⟨hprocessed', hlistings'⟩ := @workOff_processed surroundings batchNow r a
      rw [List.foldl_cons, hprocessed, hlistings, hprocessed', hlistings', List.append_assoc]
      exact ⟨rfl, rfl⟩

/-- What the outer loop does with the next batch: nothing is left, or the batch is worked off,
and then the lease is lost, the batch was the last one, or the loop goes on behind it. -/
theorem workOffBatches_succ (batches : ℕ) (cursor : ℕ × ℕ) (r : ReconcileRun) :
    ∃ (listing : ReconcileListing) (r' : ReconcileRun),
      listing.afterKindOrder = cursor.1 ∧ listing.afterEntityId = cursor.2 ∧
      r'.listings = r.listings ++ [listing] ∧
      let batch := listing.db.listReconciliationAnomalies listing.batchNow cursor.1 cursor.2
        u.batchSize
      r'.processed = r.processed ++ batch ∧
      ((batch = [] ∧ workOffBatches u surroundings (batches + 1) cursor r = r') ∨
        ∃ front last, batch = front ++ [last] ∧
          ((workOffBatches u surroundings (batches + 1) cursor r = { r' with
              result := { r'.result with status := .leaseLost } }) ∨
            (batch.length < u.batchSize ∧
              workOffBatches u surroundings (batches + 1) cursor r = r') ∨
            (u.batchSize ≤ batch.length ∧
              workOffBatches u surroundings (batches + 1) cursor r =
                workOffBatches u surroundings batches (last.kind.order, last.entityId) r'))) := by
  let listing : ReconcileListing := {
    db := (surroundings.others r.transactions r.tables).db
    batchNow := surroundings.clock r.readings
    afterKindOrder := cursor.1
    afterEntityId := cursor.2 }
  let batch := listing.db.listReconciliationAnomalies listing.batchNow cursor.1 cursor.2 u.batchSize
  let listed := (listBatch u surroundings (reading surroundings r).2 cursor
    (surroundings.clock r.readings)).2
  obtain ⟨hprocessed, hlistings⟩ :=
    @foldl_workOff surroundings listing.batchNow batch listed
  cases hlast : batch.getLast? with
  | none =>
    have hnil : batch = [] := List.getLast?_eq_none_iff.1 hlast
    refine ⟨listing, listed, rfl, rfl, rfl, ?_, .inl ⟨hnil, ?_⟩⟩
    · exact (List.append_nil _).symm.trans (congrArg (r.processed ++ ·) hnil.symm)
    · unfold workOffBatches
      dsimp only [reading, listBatch, transaction]
      split
      · rfl
      · next last' hlast' => cases hlast.symm.trans hlast'
  | some last =>
    obtain ⟨front, hfront⟩ := List.getLast?_eq_some_iff.1 hlast
    let worked := batch.foldl (workOff surroundings listing.batchNow) listed
    let renewal := renewLease u surroundings { worked with
      result := { worked.result with batches := worked.result.batches + 1 } }
    refine ⟨listing, renewal.2, rfl, rfl, hlistings, hprocessed, .inr ⟨front, last, hfront, ?_⟩⟩
    have hloop : workOffBatches u surroundings (batches + 1) cursor r =
        if !renewal.1 then { renewal.2 with
          result := { renewal.2.result with status := .leaseLost } }
        else if batch.length < u.batchSize then renewal.2
        else workOffBatches u surroundings batches (last.kind.order, last.entityId) renewal.2 := by
      conv_lhs => unfold workOffBatches
      dsimp only [reading, listBatch, transaction]
      split
      · next hnone => cases hlast.symm.trans hnone
      · next last' hlast' =>
        obtain rfl := Option.some.inj (hlast.symm.trans hlast')
        rfl
    rw [hloop]
    split_ifs with hrenewed hshort
    · exact .inl rfl
    · exact .inr (.inl ⟨hshort, rfl⟩)
    · exact .inr (.inr ⟨not_lt.1 hshort, rfl⟩)

/-! ## A run -/

/-- Nothing behind the cursor of the batch has changed: it was listed among these anomalies. -/
def Steady (anomalies : List ReconciliationAnomaly) (listing : ReconcileListing) : Prop :=
  (listing.db.reconciliationAnomalies listing.batchNow).filter
      (isAfter listing.afterKindOrder listing.afterEntityId) ~
    anomalies.filter (isAfter listing.afterKindOrder listing.afterEntityId)

instance (listing : ReconcileListing) : Decidable (Steady anomalies listing) :=
  inferInstanceAs (Decidable (_ ~ _))

theorem Steady.batch_eq {listing : ReconcileListing} (h : Steady anomalies listing) (limit : ℕ) :
    listing.db.listReconciliationAnomalies listing.batchNow listing.afterKindOrder
        listing.afterEntityId limit =
      Keyset.page ReconciliationAnomaly.key (inOrder anomalies)
        (toLex (listing.afterKindOrder, listing.afterEntityId)) limit :=
  listReconciliationAnomalies_eq_page h

theorem listings_subset (batches : ℕ) : ∀ (cursor : ℕ × ℕ) (r : ReconcileRun),
    r.listings ⊆ (workOffBatches u surroundings batches cursor r).listings := by
  induction batches with
  | zero => exact fun _ _ => List.Subset.refl _
  | succ batches ih =>
    intro cursor r
    obtain ⟨listing, r', -, -, hlistings, -, hcases⟩ :=
      @workOffBatches_succ u surroundings batches cursor r
    have hsub : r.listings ⊆ r'.listings := by
      rw [hlistings]
      exact List.subset_append_left _ _
    obtain ⟨-, hloop⟩ | ⟨front, last, -, hloop | ⟨-, hloop⟩ | ⟨-, hloop⟩⟩ := hcases
    · rw [hloop]
      exact hsub
    · rw [hloop]
      exact hsub
    · rw [hloop]
      exact hsub
    · rw [hloop]
      exact fun l hl => ih _ r' (hsub hl)

theorem workOffBatches_processed (hnodup : anomalies.Nodup)
    (batches : ℕ) : ∀ (cursor : ℕ × ℕ) (r : ReconcileRun),
      (workOffBatches u surroundings batches cursor r).result.status = .completed →
      (∀ l ∈ (workOffBatches u surroundings batches cursor r).listings, Steady anomalies l) →
      (workOffBatches u surroundings batches cursor r).processed = r.processed ++
        (Keyset.after ReconciliationAnomaly.key (inOrder anomalies) (toLex cursor)).take
          (u.batchSize * batches) := by
  induction batches with
  | zero => exact fun _ _ _ _ => by simp [workOffBatches]
  | succ batches ih =>
    intro cursor r hstatus hsteady
    obtain ⟨listing, r', hkind, hentity, hlistings, hprocessed, hcases⟩ :=
      @workOffBatches_succ u surroundings batches cursor r
    have hmem : listing ∈ r'.listings := by
      rw [hlistings]
      exact List.mem_append_right _ (List.mem_singleton_self _)
    set L := inOrder anomalies with hL
    have hpage : Steady anomalies listing → listing.db.listReconciliationAnomalies
        listing.batchNow cursor.1 cursor.2 u.batchSize =
          Keyset.page ReconciliationAnomaly.key L (toLex cursor) u.batchSize := by
      intro hlisting
      have hbatch := hlisting.batch_eq u.batchSize
      rwa [hkind, hentity] at hbatch
    obtain ⟨hnil, hloop⟩ | ⟨front, last, hlast, hloop | ⟨hshort, hloop⟩ | ⟨hfull, hloop⟩⟩ := hcases
    · -- nothing comes after the cursor, or a batch holds nothing
      rw [hloop] at hsteady ⊢
      have hempty := (hpage (hsteady listing hmem)).symm.trans hnil
      rw [hprocessed, hnil]
      rw [Keyset.page, List.take_eq_nil_iff] at hempty
      obtain hzero | hempty := hempty
      · rw [hzero, Nat.zero_mul, List.take_zero]
      · rw [hempty, List.take_nil]
    · rw [hloop] at hstatus
      cases hstatus
    · -- the last batch: fewer anomalies are left than it could hold
      rw [hloop] at hsteady ⊢
      have hbatch := hpage (hsteady listing hmem)
      rw [hbatch] at hshort hprocessed
      rw [hprocessed, Keyset.page]
      rw [Keyset.page, List.length_take] at hshort
      rw [List.take_of_length_le (by omega), List.take_of_length_le]
      rw [Nat.mul_add_one]
      omega
    · -- the loop goes on behind the batch
      rw [hloop] at hstatus hsteady ⊢
      have hbatch := hpage (hsteady listing (listings_subset batches _ r' hmem))
      rw [ih _ r' hstatus hsteady, hprocessed, hbatch, List.append_assoc]
      rw [hbatch] at hlast
      have hnext := Keyset.after_last (inOrder_sorted hnodup) hlast
      rw [ReconciliationAnomaly.key] at hnext
      rw [hnext, Keyset.page, ← List.take_add, Nat.mul_add_one, Nat.add_comm]

theorem after_start (anomalies : List ReconciliationAnomaly) :
    Keyset.after ReconciliationAnomaly.key (inOrder anomalies) (toLex (0, 0)) =
      inOrder anomalies := by
  rw [Keyset.after, List.filter_eq_self]
  intro a _
  have hkind : 0 < a.kind.order := by cases a.kind <;> decide
  exact decide_eq_true (Prod.Lex.toLex_lt_toLex.2 (.inl hkind))

/-- A run that keeps its lease works off the first anomalies, as many as its batches hold. -/
theorem execute_processed {tables : ReconcileTables} (hnodup : anomalies.Nodup)
    (hstatus : (u.execute surroundings tables).result.status = .completed)
    (hsteady : ∀ l ∈ (u.execute surroundings tables).listings, Steady anomalies l) :
    (u.execute surroundings tables).processed =
      (inOrder anomalies).take (u.batchSize * u.maxBatchesPerRun) := by
  unfold execute at hstatus hsteady ⊢
  dsimp only at hstatus hsteady ⊢
  split_ifs at hstatus hsteady ⊢
  · have hprocessed := workOffBatches_processed hnodup u.maxBatchesPerRun (0, 0) _ hstatus hsteady
    rw [after_start] at hprocessed
    exact hprocessed

/-! ## Anomalies that are listed once -/

/-- A query lists anomalies of its own kind, and none of them twice. -/
structure IsQuery (k : ReconciliationAnomalyKind) (anomalies : List ReconciliationAnomaly) :
    Prop where
  nodup : anomalies.Nodup
  kind : ∀ a ∈ anomalies, a.kind = k

/-- Each anomaly is listed once, by one of the queries up to a kind. -/
structure ListedOnce (k : ReconciliationAnomalyKind) (anomalies : List ReconciliationAnomaly) :
    Prop where
  nodup : anomalies.Nodup
  kinds : ∀ a ∈ anomalies, a.kind.order ≤ k.order

theorem IsQuery.of_ids {α : Type} (k : ReconciliationAnomalyKind) {rows : List (α × ℕ)}
    (h : rows.Pairwise fun r s => r.2 < s.2) :
    IsQuery k (rows.map fun row => ⟨k, row.2⟩) where
  nodup := by
    rw [List.Nodup, List.pairwise_map]
    exact h.imp fun hlt heq => Nat.ne_of_lt hlt (congrArg ReconciliationAnomaly.entityId heq)
  kind a ha := by
    obtain ⟨row, -, rfl⟩ := List.mem_map.1 ha
    rfl

theorem IsQuery.listedOnce {k : ReconciliationAnomalyKind} (h : IsQuery k anomalies) :
    ListedOnce k anomalies :=
  ⟨h.nodup, fun a ha => by rw [h.kind a ha]⟩

theorem ListedOnce.append {k k' : ReconciliationAnomalyKind} {later : List ReconciliationAnomaly}
    (h : ListedOnce k anomalies) (hlater : IsQuery k' later) (hk : k.order < k'.order) :
    ListedOnce k' (anomalies ++ later) where
  nodup := by
    rw [List.nodup_append]
    refine ⟨h.nodup, hlater.nodup, fun a ha b hb hab => ?_⟩
    have hle := h.kinds a ha
    rw [hab, hlater.kind b hb] at hle
    omega
  kinds a ha := by
    obtain ha | ha := List.mem_append.1 ha
    · exact (h.kinds a ha).trans hk.le
    · exact hlater.listedOnce.kinds a ha

/-- Only a subscription with two configurations to repair can be listed twice. -/
theorem nodup_reconciliationAnomalies {db : Database} {now : DateTime}
    (h : ((db.repairProvision now).map (·.entityId)).Nodup) :
    (db.reconciliationAnomalies now).Nodup := by
  have hexpire : IsQuery .expireSubscription (db.expireSubscriptions now) :=
    .of_ids _ (Table.select_sorted.filter _)
  have hrevoke : IsQuery .revokeVpn (db.revokeVpn now) := .of_ids _ Table.select_sorted
  have hcleanup : IsQuery .cleanupVpn (db.cleanupVpn now) := .of_ids _ Table.select_sorted
  have hprovision : IsQuery .provisionSubscription (db.provisionSubscriptions now) :=
    .of_ids _ (Table.select_sorted.filter _)
  have hrepair : IsQuery .repairProvision (db.repairProvision now) := by
    refine ⟨List.Nodup.of_map _ h, fun a ha => ?_⟩
    obtain ⟨row, -, rfl⟩ := List.mem_map.1 ha
    rfl
  have hrepairRevoke : IsQuery .repairRevoke db.repairRevoke :=
    .of_ids _ (Table.select_sorted.filter _)
  exact (((((hexpire.listedOnce.append hrevoke (by decide)).append hcleanup (by decide)).append
    hprovision (by decide)).append hrepair (by decide)).append hrepairRevoke (by decide)).nodup

/-! ## Paging and lease -/

def activeSubscription : Subscription := .start 0 0 0

def paidPeriod (subscriptionId : ℕ) : SubscriptionPeriod where
  subscriptionId := some subscriptionId
  startsAt := 0
  expiresAt := days 30
  starts_lt_expires := by decide
  isPaid := true
  createdAt := 0

/-- Nothing else happens, and the queue takes every job. -/
def undisturbed : ReconcileSurroundings where
  ownerToken := 7
  clock reading := seconds (10 + reading)
  others _ tables := tables
  enqueued _ := true

/-- Three subscriptions that wait for a configuration. -/
def waiting : ReconcileTables where
  db := {
    subscriptions := List.replicate 3 activeSubscription
    subscriptionPeriods := [paidPeriod 0, paidPeriod 1, paidPeriod 2] }
  leases _ := none

def pairs : ReconcileSubscriptions where
  batchSize := 2
  maxBatchesPerRun := 1

/-- A subscription with two configurations in provisioning that have no task. -/
def doubled : ReconcileTables where
  db := {
    subscriptions := [activeSubscription]
    subscriptionPeriods := [paidPeriod 0]
    serverEndpoints := [{ serverId := 0 }]
    vpnConfigurations := [40, 41].map fun uuid => {
      subscriptionId := 0
      serverEndpointId := 0
      clientUuid := uuid
      displayName := "premium"
      status := .provisioning
      generation_pos := Nat.one_pos } }
  leases _ := none

theorem mem_consecutive {r : ReconcileRun} : ∀ {runs : List ReconcileSurroundings}
    {tables : ReconcileTables}, r ∈ u.consecutive runs tables →
      ∃ surroundings tables, r = u.execute surroundings tables
  | surroundings :: rest, tables, h => by
      obtain rfl | h := List.mem_cons.1 h
      · exact ⟨surroundings, tables, rfl⟩
      · exact mem_consecutive h

def quadruples : ReconcileSubscriptions where
  batchSize := 2
  maxBatchesPerRun := 2

end ReconcileSubscriptions

end ShopBot
