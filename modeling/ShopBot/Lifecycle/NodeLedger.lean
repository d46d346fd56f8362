import ShopBot.Library.Transition
import ShopBot.Persistence.Database

/-! # Node tasks and their attempts

The two tables that record what has been tried. A task is postponed, started with an
attempt of its own, or finished together with that attempt; nothing else is written.
-/

namespace ShopBot

open Relation

/-- The task of an attempt, and its number. -/
def NodeTaskAttempt.key (a : NodeTaskAttempt) : ℕ × ℕ := (a.nodeTaskId, a.attemptNo)

structure NodeLedger where
  tasks : List NodeTask
  attempts : List NodeTaskAttempt

namespace NodeLedger

/-- Attempts keep their keys; those of one key are closed and the others untouched. -/
structure Closes (key : ℕ × ℕ) (rows rows' : List NodeTaskAttempt) : Prop where
  keys : rows'.map (·.key) = rows.map (·.key)
  row : ∀ (i : ℕ) (a a' : NodeTaskAttempt), rows[i]? = some a → rows'[i]? = some a' →
    (a.key = key → a'.status ≠ .started) ∧ (a.key ≠ key → a' = a)

inductive Step (l : NodeLedger) : NodeLedger → Prop where
  | insert (t : NodeTask) (fresh : t.Fresh) : Step l { l with tasks := l.tasks ++ [t] }

  | postpone (k : ℕ) (t t' : NodeTask) (row : l.tasks[k]? = some t) (status : t.status = .pending)
      (status' : t'.status = .pending) (attempts : t'.attempts = t.attempts)
      (maxAttempts : t'.maxAttempts = t.maxAttempts) (unleased : t'.Unleased) :
      Step l { l with tasks := l.tasks.set k t' }

  | start (k : ℕ) (t t' : NodeTask) (a : NodeTaskAttempt) (row : l.tasks[k]? = some t)
      (status : t.status = .pending) (status' : t'.status = .inProgress)
      (attempts : t'.attempts = t.attempts + 1) (maxAttempts : t'.maxAttempts = t.maxAttempts)
      (leased : t'.Leased) (key : a.key = (k, t'.attempts)) (started : a.status = .started)
      (unfinished : a.finishedAt = none) (free : ∀ b ∈ l.attempts, b.key ≠ a.key) :
      Step l { tasks := l.tasks.set k t', attempts := l.attempts ++ [a] }

  | finish (k : ℕ) (t t' : NodeTask) (rows : List NodeTaskAttempt) (row : l.tasks[k]? = some t)
      (status : t.status = .inProgress) (ends : t'.status ≠ .inProgress)
      (again : t'.status = .pending → t.attempts < t.maxAttempts)
      (attempts : t'.attempts = t.attempts) (maxAttempts : t'.maxAttempts = t.maxAttempts)
      (unleased : t'.Unleased) (closes : Closes (k, t.attempts) l.attempts rows) :
      Step l { tasks := l.tasks.set k t', attempts := rows }

abbrev Run : NodeLedger → NodeLedger → Prop := ReflTransGen Step

/-- Attempts are numbered without gaps, the last one is open while the task is in progress,
and only tasks in progress are owned. -/
structure Inv (l : NodeLedger) : Prop where
  bounded : ∀ t ∈ l.tasks, t.attempts ≤ t.maxAttempts ∧
    (t.status = .pending → t.attempts < t.maxAttempts)
  lease : ∀ t ∈ l.tasks, (t.status = .inProgress → t.Leased) ∧
    (t.status ≠ .inProgress → t.Unleased)
  unfinished : ∀ a ∈ l.attempts, a.status = .started → a.finishedAt = none
  distinct : (l.attempts.map (·.key)).Nodup
  known : ∀ a ∈ l.attempts, a.nodeTaskId < l.tasks.length
  numbered : ∀ (k : ℕ) (t : NodeTask), l.tasks[k]? = some t →
    ((l.attempts.map (·.key)).filter (·.1 = k)).map (·.2) = List.range' 1 t.attempts
  started : ∀ (t : NodeTask), ∀ a ∈ l.attempts, l.tasks[a.nodeTaskId]? = some t →
    (a.status = .started ↔ a.attemptNo = t.attempts ∧ t.status = .inProgress)

/-- What never changes: tasks that have ended, attempts that are closed, keys. -/
structure Later (l l' : NodeLedger) : Prop where
  task : ∀ (k : ℕ) (t : NodeTask), l.tasks[k]? = some t → t.status.isTerminal = true →
    l'.tasks[k]? = some t
  attempt : ∀ (i : ℕ) (a : NodeTaskAttempt), l.attempts[i]? = some a →
    ∃ a', l'.attempts[i]? = some a' ∧ a'.key = a.key ∧ (a.status ≠ .started → a' = a)

variable {l l₁ l' : NodeLedger} {k i : ℕ} {t t' : NodeTask} {a : NodeTaskAttempt}

theorem Later.refl : l.Later l := ⟨fun _ _ h _ => h, fun _ a h => ⟨a, h, rfl, fun _ => rfl⟩⟩

theorem Later.trans (h : l.Later l₁) (h' : l₁.Later l') : l.Later l' := by
  refine ⟨fun k t ht hterm => h'.task k t (h.task k t ht hterm) hterm, fun i a ha => ?_⟩
  obtain ⟨b, hb, hkey, hsame⟩ := h.attempt i a ha
  obtain ⟨c, hc, hkey', hsame'⟩ := h'.attempt i b hb
  refine ⟨c, hc, hkey'.trans hkey, fun hs => ?_⟩
  obtain rfl := hsame hs
  exact hsame' hs

theorem Closes.getElem? {key : ℕ × ℕ} {rows rows' : List NodeTaskAttempt} (h : Closes key rows rows')
    (ha : rows[i]? = some a) : ∃ a', rows'[i]? = some a' ∧ a'.key = a.key := by
  have hkeys := congrArg (fun ks => ks[i]?) h.keys
  simp only [List.getElem?_map, ha, Option.map_some] at hkeys
  exact Option.map_eq_some_iff.1 hkeys

/-- Closing the attempt at one position, when its key is not used twice. -/
theorem Closes.modify {key : ℕ × ℕ} {rows : List NodeTaskAttempt} {f : NodeTaskAttempt → NodeTaskAttempt}
    (hd : (rows.map (·.key)).Nodup) (ha : rows[i]? = some a) (hkey : a.key = key)
    (hf : ∀ a, (f a).key = a.key) (hclosed : ∀ a, (f a).status ≠ .started) :
    Closes key rows (rows.modify i f) := by
  have hrow : ∀ j : ℕ, (rows.modify i f)[j]? = (rows[j]?).map fun b => if i = j then f b else b := by
    intro j
    rw [List.getElem?_modify]
    split_ifs with hj <;> cases rows[j]? <;> simp
  refine ⟨?_, fun j b b' hb hb' => ?_⟩
  · refine List.ext_getElem? fun j => ?_
    simp only [List.getElem?_map, hrow]
    cases rows[j]? with
    | none => rfl
    | some b =>
      simp only [Option.map_some]
      split_ifs
      · rw [hf]
      · rfl
  · rw [hrow, hb, Option.map_some] at hb'
    obtain rfl := Option.some.inj hb'
    by_cases hj : i = j
    · subst hj
      cases ha.symm.trans hb
      simp only [if_true]
      exact ⟨fun _ => hclosed a, fun hne => absurd hkey hne⟩
    · simp only [if_neg hj]
      refine ⟨fun hk => absurd ?_ hj, fun _ => trivial⟩
      have hi : i < (rows.map (·.key)).length := by
        simpa using (List.getElem?_eq_some_iff.1 ha).1
      refine (List.getElem?_inj hi hd).1 ?_
      simp [ha, hb, hkey, hk]

/-- Closing every open attempt of a key. -/
theorem Closes.map {key : ℕ × ℕ} {rows : List NodeTaskAttempt} {p : NodeTaskAttempt → Bool}
    {f : NodeTaskAttempt → NodeTaskAttempt}
    (hopen : ∀ a ∈ rows, p a = true ↔ a.key = key ∧ a.status = .started)
    (hf : ∀ a, (f a).key = a.key) (hclosed : ∀ a, (f a).status ≠ .started) :
    Closes key rows (rows.map fun a => if p a then f a else a) := by
  refine ⟨?_, fun i a a' ha ha' => ?_⟩
  · rw [List.map_map]
    refine List.map_congr_left fun a _ => ?_
    simp only [Function.comp_apply]
    split_ifs
    · exact hf a
    · rfl
  · have hp := hopen a (List.mem_of_getElem? ha)
    simp only [List.getElem?_map, ha, Option.map_some] at ha'
    obtain rfl := Option.some.inj ha'
    split_ifs with h
    · exact ⟨fun _ => hclosed a, fun hne => absurd (hp.1 h).1 hne⟩
    · exact ⟨fun hkey hs => h (hp.2 ⟨hkey, hs⟩), fun _ => rfl⟩

/-! ## One step -/

theorem set_eq_some {u : NodeTask} (ht : l.tasks[k]? = some t)
    (h : (l.tasks.set k t')[i]? = some u) :
    (i = k ∧ u = t') ∨ (i ≠ k ∧ l.tasks[i]? = some u) := by
  have hrow : (l.tasks.set k t')[i]? = _ := congrFun (Table.getElem?_set ht) i
  rw [hrow] at h
  by_cases hi : i = k
  · subst hi
    rw [Function.update_self] at h
    exact .inl ⟨rfl, (Option.some.inj h).symm⟩
  · rw [Function.update_of_ne hi] at h
    exact .inr ⟨hi, h⟩

theorem forall_mem_set {p : NodeTask → Prop} (h : ∀ u ∈ l.tasks, p u) (ht' : p t') :
    ∀ u ∈ l.tasks.set k t', p u := by
  intro u hu
  rcases List.mem_or_eq_of_mem_set hu with hu | rfl
  · exact h u hu
  · exact ht'

theorem Inv.insert (h : l.Inv) (fresh : t.Fresh) : { l with tasks := l.tasks ++ [t] }.Inv := by
  obtain ⟨hs, ha, hlease⟩ := fresh
  have hrow : ∀ (j : ℕ) (u : NodeTask), (l.tasks ++ [t])[j]? = some u →
      l.tasks[j]? = some u ∨ (j = l.tasks.length ∧ u = t) := by
    intro j u hu
    have happ : (l.tasks ++ [t])[j]? = _ := congrFun Table.getElem?_append j
    rw [happ] at hu
    by_cases hj : j = l.tasks.length
    · subst hj
      rw [Function.update_self] at hu
      exact .inr ⟨rfl, (Option.some.inj hu).symm⟩
    · rw [Function.update_of_ne hj] at hu
      exact .inl hu
  refine ⟨?_, ?_, h.unfinished, h.distinct, fun a ha => ?_, fun k u hu => ?_, fun u a hmem hu => ?_⟩
  · intro u hu
    rcases List.mem_append.1 hu with hu | hu
    · exact h.bounded u hu
    · obtain rfl := List.mem_singleton.1 hu
      exact ⟨by omega, fun _ => ha ▸ u.maxAttempts_pos⟩
  · intro u hu
    rcases List.mem_append.1 hu with hu | hu
    · exact h.lease u hu
    · obtain rfl := List.mem_singleton.1 hu
      exact ⟨fun hp => (by rw [hs] at hp; cases hp), fun _ => hlease⟩
  · have := h.known a ha
    simp only [List.length_append]
    omega
  · rcases hrow k u hu with hu | ⟨rfl, rfl⟩
    · exact h.numbered k u hu
    · rw [ha]
      simp only [List.range'_zero, List.map_eq_nil_iff, List.filter_eq_nil_iff, List.mem_map]
      rintro _ ⟨a, hmem, rfl⟩
      have hlt := h.known a hmem
      apply decide_eq_true_iff.not.2
      exact Nat.ne_of_lt hlt
  · rcases hrow _ u hu with hu | ⟨hk, -⟩
    · exact h.started u a hmem hu
    · exact absurd hk (Nat.ne_of_lt (h.known a hmem))

/-- Writing a task that stays pending changes nothing about its attempts. -/
theorem Inv.postpone (h : l.Inv) (row : l.tasks[k]? = some t) (status : t.status = .pending)
    (status' : t'.status = .pending) (attempts : t'.attempts = t.attempts)
    (maxAttempts : t'.maxAttempts = t.maxAttempts) (unleased : t'.Unleased) :
    { l with tasks := l.tasks.set k t' }.Inv := by
  have hmem := List.mem_of_getElem? row
  have hb := h.bounded t hmem
  refine ⟨forall_mem_set h.bounded ⟨by omega, fun _ => by have := hb.2 status; omega⟩,
    forall_mem_set h.lease ⟨fun hp => (by rw [status'] at hp; cases hp), fun _ => unleased⟩,
    h.unfinished, h.distinct, fun a ha => by simpa using h.known a ha, fun j u hu => ?_,
    fun u a ha hu => ?_⟩
  · rcases set_eq_some row hu with ⟨rfl, rfl⟩ | ⟨-, hu⟩
    · rw [attempts]
      exact h.numbered j t row
    · exact h.numbered j u hu
  · rcases set_eq_some row hu with ⟨hk, rfl⟩ | ⟨-, hu⟩
    · have hold := h.started t a ha (hk ▸ row)
      rw [hold, attempts, status, status']
    · exact h.started u a ha hu

theorem Inv.start (h : l.Inv) (row : l.tasks[k]? = some t) (status : t.status = .pending)
    (status' : t'.status = .inProgress) (attempts : t'.attempts = t.attempts + 1)
    (maxAttempts : t'.maxAttempts = t.maxAttempts) (leased : t'.Leased)
    (key : a.key = (k, t'.attempts)) (started : a.status = .started)
    (unfinished : a.finishedAt = none) (free : ∀ b ∈ l.attempts, b.key ≠ a.key) :
    NodeLedger.Inv { tasks := l.tasks.set k t', attempts := l.attempts ++ [a] } := by
  have hmem := List.mem_of_getElem? row
  have hb := (h.bounded t hmem).2 status
  simp only [NodeTaskAttempt.key, Prod.mk.injEq] at key
  obtain ⟨hk, hn⟩ := key
  refine ⟨forall_mem_set h.bounded ⟨by omega, fun hp => by rw [status'] at hp; cases hp⟩,
    forall_mem_set h.lease ⟨fun _ => leased, fun hp => absurd status' hp⟩, ?_, ?_, ?_,
    fun j u hu => ?_, fun u b hmem' hu => ?_⟩
  · intro b hb'
    rcases List.mem_append.1 hb' with hb' | hb'
    · exact h.unfinished b hb'
    · obtain rfl := List.mem_singleton.1 hb'
      exact fun _ => unfinished
  · rw [List.map_append, List.nodup_append]
    refine ⟨h.distinct, by simp, ?_⟩
    rintro _ hx _ hy
    obtain ⟨b, hb', rfl⟩ := List.mem_map.1 hx
    obtain rfl : _ = a.key := by simpa using hy
    exact free b hb'
  · intro b hb'
    rw [List.length_set]
    rcases List.mem_append.1 hb' with hb' | hb'
    · exact h.known b hb'
    · obtain rfl := List.mem_singleton.1 hb'
      exact hk ▸ (List.getElem?_eq_some_iff.1 row).1
  · rw [List.map_append, List.filter_append, List.map_append]
    rcases set_eq_some row hu with ⟨rfl, rfl⟩ | ⟨hj, hu⟩
    · rw [h.numbered j t row, attempts, List.range'_concat]
      simp [NodeTaskAttempt.key, hk, hn, attempts, Nat.add_comm]
    · rw [h.numbered j u hu]
      simp [NodeTaskAttempt.key, hk, Ne.symm hj]
  · rcases List.mem_append.1 hmem' with hb' | hb'
    · rcases set_eq_some row hu with ⟨hk', rfl⟩ | ⟨-, hu⟩
      · have hold := h.started t b hb' (hk' ▸ row)
        have hne : b.attemptNo ≠ u.attempts := by
          intro hno
          refine free b hb' ?_
          simp only [NodeTaskAttempt.key, Prod.mk.injEq]
          exact ⟨hk'.trans hk.symm, hno.trans hn.symm⟩
        rw [hold, status]
        simp [hne]
      · exact h.started u b hb' hu
    · obtain rfl := List.mem_singleton.1 hb'
      rcases set_eq_some row hu with ⟨-, rfl⟩ | ⟨hne, -⟩
      · exact iff_of_true started ⟨hn, status'⟩
      · exact absurd hk hne

theorem Inv.finish {rows : List NodeTaskAttempt} (h : l.Inv) (row : l.tasks[k]? = some t)
    (ends : t'.status ≠ .inProgress)
    (again : t'.status = .pending → t.attempts < t.maxAttempts)
    (attempts : t'.attempts = t.attempts) (maxAttempts : t'.maxAttempts = t.maxAttempts)
    (unleased : t'.Unleased) (closes : Closes (k, t.attempts) l.attempts rows) :
    NodeLedger.Inv { tasks := l.tasks.set k t', attempts := rows } := by
  have hb := h.bounded t (List.mem_of_getElem? row)
  -- each row after the step comes from one before it
  have hold : ∀ a' ∈ rows, ∃ a ∈ l.attempts, a'.key = a.key ∧
      (a.key = (k, t.attempts) → a'.status ≠ .started) ∧ (a.key ≠ (k, t.attempts) → a' = a) := by
    intro a' ha'
    obtain ⟨i, hi⟩ := List.mem_iff_getElem?.1 ha'
    have hkeys := congrArg (fun ks => ks[i]?) closes.keys
    simp only [List.getElem?_map, hi, Option.map_some] at hkeys
    obtain ⟨a, ha, hkey⟩ := Option.map_eq_some_iff.1 hkeys.symm
    exact ⟨a, List.mem_of_getElem? ha, hkey.symm, closes.row i a a' ha hi⟩
  refine ⟨forall_mem_set h.bounded ⟨by omega, fun hp => by have := again hp; omega⟩,
    forall_mem_set h.lease ⟨fun hp => absurd hp ends, fun _ => unleased⟩, fun a' ha' hs => ?_,
    by rw [closes.keys]; exact h.distinct, fun a' ha' => ?_, fun j u hu => ?_,
    fun u a' ha' hu => ?_⟩
  · obtain ⟨a, ha, -, hclosed, hsame⟩ := hold a' ha'
    by_cases hkey : a.key = (k, t.attempts)
    · exact absurd hs (hclosed hkey)
    · obtain rfl := hsame hkey
      exact h.unfinished _ ha hs
  · obtain ⟨a, ha, hkey, -⟩ := hold a' ha'
    have hid : a'.nodeTaskId = a.nodeTaskId := congrArg Prod.fst hkey
    simpa [hid] using h.known a ha
  · dsimp only
    rw [closes.keys]
    rcases set_eq_some row hu with ⟨rfl, rfl⟩ | ⟨-, hu⟩
    · rw [attempts]
      exact h.numbered j t row
    · exact h.numbered j u hu
  · obtain ⟨a, ha, hkey, hclosed, hsame⟩ := hold a' ha'
    have hid : a'.nodeTaskId = a.nodeTaskId := congrArg Prod.fst hkey
    have hno : a'.attemptNo = a.attemptNo := congrArg Prod.snd hkey
    rcases set_eq_some row hu with ⟨hk, rfl⟩ | ⟨hne, hu⟩
    · refine iff_of_false (fun hs => ?_) fun hs => ends hs.2
      by_cases hcur : a.key = (k, t.attempts)
      · exact hclosed hcur hs
      · obtain rfl := hsame hcur
        have := (h.started t a' ha (hk ▸ row)).1 hs
        exact hcur (Prod.ext hk this.1)
    · have hcur : a.key ≠ (k, t.attempts) := fun hc => hne (hid.trans (congrArg Prod.fst hc))
      obtain rfl := hsame hcur
      exact h.started u a' ha hu

/-- Every step keeps the ledger in order. -/
theorem Step.inv (hstep : l.Step l') (h : l.Inv) : l'.Inv := by
  cases hstep with
  | insert t fresh => exact h.insert fresh
  | postpone k t t' row status status' attempts maxAttempts unleased =>
    exact h.postpone row status status' attempts maxAttempts unleased
  | start k t t' a row status status' attempts maxAttempts leased key started unfinished free =>
    exact h.start row status status' attempts maxAttempts leased key started unfinished free
  | finish k t t' rows row status ends again attempts maxAttempts unleased closes =>
    exact h.finish row ends again attempts maxAttempts unleased closes

/-- What has ended stays as it is. -/
theorem Step.later (hstep : l.Step l') (h : l.Inv) : l.Later l' := by
  have hset : ∀ {k : ℕ} {t t' : NodeTask}, l.tasks[k]? = some t → t.status.isTerminal = false →
      ∀ (j : ℕ) (u : NodeTask), l.tasks[j]? = some u → u.status.isTerminal = true →
        (l.tasks.set k t')[j]? = some u := by
    intro k t t' ht hopen j u hu hterm
    rw [List.getElem?_set_ne, hu]
    rintro rfl
    rw [Option.some.inj (hu.symm.trans ht), hopen] at hterm
    cases hterm
  cases hstep with
  | insert t fresh =>
    refine ⟨fun k u hu _ => ?_, fun i a ha => ⟨a, ha, rfl, fun _ => rfl⟩⟩
    rw [List.getElem?_append_left (List.getElem?_eq_some_iff.1 hu).1, hu]
  | postpone k t t' row status status' attempts maxAttempts unleased =>
    exact ⟨hset row (by rw [status]; rfl), fun i a ha => ⟨a, ha, rfl, fun _ => rfl⟩⟩
  | start k t t' a row status status' attempts maxAttempts leased key started unfinished free =>
    refine ⟨hset row (by rw [status]; rfl), fun i b hb => ⟨b, ?_, rfl, fun _ => rfl⟩⟩
    rw [List.getElem?_append_left (List.getElem?_eq_some_iff.1 hb).1, hb]
  | finish k t t' rows row status ends again attempts maxAttempts unleased closes =>
    refine ⟨hset row (by rw [status]; rfl), fun i a ha => ?_⟩
    obtain ⟨a', ha', hkey⟩ := closes.getElem? ha
    refine ⟨a', ha', hkey, fun hs => (closes.row i a a' ha ha').2 fun hcur => hs ?_⟩
    have hid : a.nodeTaskId = k := congrArg Prod.fst hcur
    exact (h.started t a (List.mem_of_getElem? ha) (hid ▸ row)).2 ⟨congrArg Prod.snd hcur, status⟩

theorem Run.inv (hrun : Run l l') (h : l.Inv) : l'.Inv :=
  Transition.preserves_run NodeLedger.Inv (fun _ _ h hs => hs.inv h) hrun h

theorem Run.later (hrun : Run l l') (h : l.Inv) : l.Later l' := by
  induction hrun with
  | refl => exact .refl
  | tail hr hstep ih => exact ih.trans (hstep.later (Run.inv hr h))

end NodeLedger

end ShopBot
