import ShopBot.Persistence.VpnRepository

/-! # Work that waits

The queries that find work that waits for a worker: tasks whose time has come, and payment
events that nobody has processed. Tasks whose lease has expired are found by `staleIds`.
-/

namespace ShopBot

namespace DurableTask

variable {t : DurableTask} {now : DateTime}

/-- The next attempt may start. -/
def isDue (t : DurableTask) (now : DateTime) : Bool :=
  t.status = .pending && t.nextRetryAt.any (· ≤ now)

/-- A task that waits knows when it is due, and one in progress when its lease ends. -/
def Scheduled (t : DurableTask) : Prop :=
  (t.status = .pending → t.nextRetryAt.isSome = true) ∧
    (t.status = .inProgress → t.leaseExpiresAt.isSome = true)

/-- The task is open, and its time has not come. -/
def Waits (t : DurableTask) (now : DateTime) : Prop :=
  t.status = .pending ∧ (∃ due, t.nextRetryAt = some due ∧ now < due) ∨
    t.status = .inProgress ∧ ∃ expiry, t.leaseExpiresAt = some expiry ∧ now < expiry

theorem isDue_iff : t.isDue now = true ↔
    t.status = .pending ∧ ∃ due, t.nextRetryAt = some due ∧ due ≤ now := by
  simp [isDue, Option.any_eq_true]

theorem Waits.mono {now' : DateTime} (h : t.Waits now) (hle : now' ≤ now) : t.Waits now' := by
  rcases h with ⟨hs, due, hdue, hlt⟩ | ⟨hs, expiry, hexpiry, hlt⟩
  · exact .inl ⟨hs, due, hdue, Int.lt_of_le_of_lt hle hlt⟩
  · exact .inr ⟨hs, expiry, hexpiry, Int.lt_of_le_of_lt hle hlt⟩

/-- An open task is due, or its lease has expired, or it waits. -/
theorem Scheduled.cases (h : t.Scheduled) (hopen : t.status.isOpen = true) (now : DateTime) :
    t.isDue now = true ∨ t.leaseIsExpired now = true ∨ t.Waits now := by
  cases hs : t.status with
  | pending =>
    obtain ⟨due, hdue⟩ := Option.isSome_iff_exists.1 (h.1 hs)
    rcases lt_or_ge now due with hlt | hge
    · exact .inr (.inr (.inl ⟨hs, due, hdue, hlt⟩))
    · exact .inl (isDue_iff.2 ⟨hs, due, hdue, hge⟩)
  | inProgress =>
    obtain ⟨expiry, hexpiry⟩ := Option.isSome_iff_exists.1 (h.2 hs)
    rcases lt_or_ge now expiry with hlt | hge
    · exact .inr (.inr (.inr ⟨hs, expiry, hexpiry, hlt⟩))
    · exact .inr (.inl (leaseIsExpired_iff.2 ⟨hs, expiry, hexpiry, hge⟩))
  | succeeded | failed | cancelled =>
    rw [hs] at hopen
    cases hopen

theorem Scheduled.of_due (hs : t.status = .pending) (hdue : t.nextRetryAt.isSome = true) :
    t.Scheduled := by
  refine ⟨fun _ => hdue, fun hp => ?_⟩
  rw [hs] at hp
  cases hp

theorem Scheduled.of_terminal (h : t.status.isTerminal = true) : t.Scheduled := by
  constructor
  · intro hs
    rw [hs] at h
    cases h
  · intro hs
    rw [hs] at h
    cases h

theorem retry_scheduled (t : DurableTask) (now : DateTime) (error : String) (base : ℤ) :
    (t.retry now error base).Scheduled := by
  unfold retry
  split_ifs
  · exact .of_terminal rfl
  · exact ⟨fun _ => rfl, fun hs => TaskStatus.noConfusion hs⟩

theorem release_scheduled (t : DurableTask) (now : DateTime) (error : String) :
    (t.release now error).Scheduled :=
  ⟨fun _ => rfl, fun hs => TaskStatus.noConfusion hs⟩

end DurableTask

namespace Database

/-- Every task of the ledgers is scheduled, and its row can be read. -/
structure Scheduled (mapper : RowMapper) (db : Database) : Prop where
  nodeTasks : ∀ t ∈ db.nodeTasks, t.Scheduled
  panelProvisionTasks : ∀ t ∈ db.panelProvisionTasks, t.Scheduled
  readable : ∀ t ∈ db.panelProvisionTasks, mapper = .storedFields
  panelRevokeTasks : ∀ t ∈ db.panelRevokeTasks, t.Scheduled

/-- Positions of the tasks that are due, the earliest first, at most `limit` of them. -/
def dueIds (rows : List DurableTask) (now : DateTime) (limit : ℕ) : List ℕ :=
  (((Table.select (·.isDue now) rows).insertionSort fun r s =>
    r.1.nextRetryAt.getD now ≤ s.1.nextRetryAt.getD now).take limit).map (·.2)

/-- `list_received_payment_event_ids`: events are received in the order of their rows. -/
def listReceivedPaymentEventIds (db : Database) (limit : ℕ) : List ℕ :=
  ((Table.select (fun e => e.status = .received) db.paymentEvents).take limit).map (·.2)

variable {rows : List DurableTask} {now : DateTime} {locked : List ℕ} {limit k : ℕ}
  {t : DurableTask}

/-- A task that is due is found, unless as many as were asked for are due before it. -/
theorem mem_dueIds (hrow : rows[k]? = some t) (hdue : t.isDue now = true) (limit : ℕ) :
    k ∈ dueIds rows now limit ∨ (dueIds rows now limit).length = limit ∧
      ∀ j ∈ dueIds rows now limit, ∃ u, rows[j]? = some u ∧ u.isDue now = true ∧
        u.nextRetryAt.getD now ≤ t.nextRetryAt.getD now := by
  let before : DurableTask × ℕ → DurableTask × ℕ → Prop := fun r s =>
    r.1.nextRetryAt.getD now ≤ s.1.nextRetryAt.getD now
  have htotal : Std.Total before := ⟨fun r s => Int.le_total _ _⟩
  have htrans : IsTrans _ before := ⟨fun r s u => Int.le_trans⟩
  have hmem : (t, k) ∈ Table.select (·.isDue now) rows := Table.mem_select.2 ⟨hrow, hdue⟩
  rcases Table.mem_take_insertionSort (r := before) limit hmem with hfound | ⟨hfull, hbefore⟩
  · exact .inl (List.mem_map_of_mem hfound)
  · refine .inr ⟨by rw [dueIds, List.length_map]; exact hfull, fun j hj => ?_⟩
    obtain ⟨⟨u, i⟩, hu, rfl⟩ := List.mem_map.1 hj
    obtain ⟨hi, hudue⟩ :=
      Table.mem_select.1 ((List.mem_insertionSort before).1 (List.mem_of_mem_take hu))
    exact ⟨u, hi, hudue, hbefore _ hu⟩

/-- A task whose lease has expired is found, unless another transaction has locked it or as many
as were asked for have expired before it. -/
theorem mem_staleIds (hrow : rows[k]? = some t) (hstale : t.leaseIsExpired now = true)
    (hfree : k ∉ locked) (limit : ℕ) :
    k ∈ staleIds rows now locked limit ∨ (staleIds rows now locked limit).length = limit ∧
      ∀ j ∈ staleIds rows now locked limit, ∃ u, rows[j]? = some u ∧
        u.leaseIsExpired now = true ∧ u.leaseExpiresAt.getD now ≤ t.leaseExpiresAt.getD now := by
  let before : DurableTask × ℕ → DurableTask × ℕ → Prop := fun r s =>
    r.1.leaseExpiresAt.getD now ≤ s.1.leaseExpiresAt.getD now
  have htotal : Std.Total before := ⟨fun r s => Int.le_total _ _⟩
  have htrans : IsTrans _ before := ⟨fun r s u => Int.le_trans⟩
  have hmem : (t, k) ∈ (Table.select (·.leaseIsExpired now) rows).filter fun r => r.2 ∉ locked :=
    List.mem_filter.2 ⟨Table.mem_select.2 ⟨hrow, hstale⟩, by simpa using hfree⟩
  rcases Table.mem_take_insertionSort (r := before) limit hmem with hfound | ⟨hfull, hbefore⟩
  · exact .inl (List.mem_map_of_mem hfound)
  · refine .inr ⟨by rw [staleIds, List.length_map]; exact hfull, fun j hj => ?_⟩
    obtain ⟨⟨u, i⟩, hu, rfl⟩ := List.mem_map.1 hj
    obtain ⟨hi, hustale⟩ := Table.mem_select.1 (List.mem_of_mem_filter
      ((List.mem_insertionSort before).1 (List.mem_of_mem_take hu)))
    exact ⟨u, hi, hustale, hbefore _ hu⟩

/-- What is found has expired. -/
theorem of_mem_staleIds (h : k ∈ staleIds rows now locked limit) :
    ∃ t, rows[k]? = some t ∧ t.leaseIsExpired now = true ∧ k ∉ locked := by
  obtain ⟨⟨t, i⟩, hmem, rfl⟩ := List.mem_map.1 h
  obtain ⟨hselect, hfree⟩ := List.mem_filter.1
    ((List.mem_insertionSort _).1 (List.mem_of_mem_take hmem))
  obtain ⟨hrow, hstale⟩ := Table.mem_select.1 hselect
  exact ⟨t, hrow, hstale, by simpa using hfree⟩

theorem nodup_staleIds : (staleIds rows now locked limit).Nodup := by
  have hselect : ((Table.select (·.leaseIsExpired now) rows).map (·.2)).Nodup := by
    rw [List.Nodup, List.pairwise_map]
    exact Table.select_sorted.imp Nat.ne_of_lt
  have hfilter := hselect.sublist ((List.filter_sublist (p := fun r => r.2 ∉ locked)).map _)
  have hsorted := ((List.perm_insertionSort (fun r s : DurableTask × ℕ =>
    r.1.leaseExpiresAt.getD now ≤ s.1.leaseExpiresAt.getD now) _).map (·.2)).nodup_iff.2 hfilter
  exact hsorted.sublist ((List.take_sublist limit _).map _)

/-- An event that nobody has processed is found, unless as many as were asked for are older. -/
theorem mem_listReceivedPaymentEventIds {db : Database} {e : PaymentEvent}
    (hrow : db.paymentEvents[k]? = some e) (hreceived : e.status = .received) (limit : ℕ) :
    k ∈ db.listReceivedPaymentEventIds limit ∨
      (db.listReceivedPaymentEventIds limit).length = limit ∧
        ∀ j ∈ db.listReceivedPaymentEventIds limit, j < k := by
  have hmem : (e, k) ∈ Table.select (fun e : PaymentEvent => decide (e.status = .received))
      db.paymentEvents := Table.mem_select.2 ⟨hrow, by simpa using hreceived⟩
  have hsorted : (Table.select (fun e : PaymentEvent => decide (e.status = .received))
      db.paymentEvents).Pairwise fun r s => r.2 < s.2 := Table.select_sorted
  unfold listReceivedPaymentEventIds
  generalize Table.select (fun e : PaymentEvent => decide (e.status = .received))
    db.paymentEvents = found at hmem hsorted ⊢
  rw [← List.take_append_drop limit found] at hmem hsorted
  rcases List.mem_append.1 hmem with hmem | hmem
  · exact .inl (List.mem_map_of_mem hmem)
  · have hlt := List.length_pos_of_mem hmem
    rw [List.length_drop] at hlt
    refine .inr ⟨by rw [List.length_map, List.length_take]; omega, fun j hj => ?_⟩
    obtain ⟨r, hr, rfl⟩ := List.mem_map.1 hj
    exact (List.pairwise_append.1 hsorted).2.2 r hr _ hmem

end Database

end ShopBot
