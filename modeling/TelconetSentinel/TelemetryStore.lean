import TelconetSentinel.Library.TopRetention
import TelconetSentinel.TelemetryModels

namespace TelconetSentinel

open KeyedLists TopRetention

def sortKey (snapshot : TelemetrySnapshot) : DateTime ×ₗ String :=
  toLex (snapshot.observedAt, snapshot.snapshotId)

theorem sortKey_id {s t : TelemetrySnapshot} (h : sortKey s = sortKey t) : s.snapshotId = t.snapshotId := by
  have hpair : (s.observedAt, s.snapshotId) = (t.observedAt, t.snapshotId) := h
  exact (Prod.mk.inj hpair).2

theorem nodup_sortKeys {xs : List TelemetrySnapshot} (h : (xs.map TelemetrySnapshot.snapshotId).Nodup) :
    (xs.map sortKey).Nodup := by
  refine (List.nodup_map_iff_inj_on (h.of_map _)).mpr fun s hs t ht hk => ?_
  exact key_inj h hs ht (sortKey_id hk)

/-- The dictionary of the snapshots is kept as its values in insertion order. -/
structure TelemetryStore where
  capacity : ℕ
  snapshots : List TelemetrySnapshot
  capacity_pos : 0 < capacity
  ids_nodup : (snapshots.map TelemetrySnapshot.snapshotId).Nodup
  within : snapshots.length ≤ capacity
  deriving DecidableEq

namespace TelemetryStore

def conflict : Exn := .valueError "telemetry snapshot id already exists with a different payload"

def init (capacity : ℕ) : Result TelemetryStore :=
  if h : capacity < 1 then .error (.valueError "telemetry store capacity must be positive")
  else .ok ⟨capacity, [], Nat.pos_of_ne_zero fun h0 => h (by omega), List.nodup_nil, Nat.zero_le _⟩

variable (store : TelemetryStore)

def retained (snapshot : TelemetrySnapshot) : List TelemetrySnapshot :=
  (descending sortKey (store.snapshots ++ [snapshot])).take store.capacity

def insert (snapshot : TelemetrySnapshot)
    (h : snapshot.snapshotId ∉ store.snapshots.map TelemetrySnapshot.snapshotId) :
    TelemetryStore where
  capacity := store.capacity
  snapshots := store.retained snapshot
  capacity_pos := store.capacity_pos
  ids_nodup := by
    have hnd : ((store.snapshots ++ [snapshot]).map TelemetrySnapshot.snapshotId).Nodup := by
      rw [List.map_append, List.map_singleton, ← List.concat_eq_append]
      exact store.ids_nodup.concat h
    have hperm := (descending_perm sortKey (store.snapshots ++ [snapshot])).map TelemetrySnapshot.snapshotId
    exact (hperm.nodup_iff.mpr hnd).sublist ((List.take_sublist _ _).map _)
  within := List.length_take_le _ _

def TooOld (snapshot : TelemetrySnapshot) : Prop :=
  store.capacity ≤ store.snapshots.length ∧
    ∃ oldest ∈ store.snapshots.argmin sortKey, sortKey snapshot ≤ sortKey oldest

instance (snapshot : TelemetrySnapshot) : Decidable (store.TooOld snapshot) :=
  inferInstanceAs (Decidable (_ ∧ ∃ oldest ∈ store.snapshots.argmin sortKey, _))

/-- The answer and the store afterwards. A conflict is raised before anything is written. -/
def save (snapshot : TelemetrySnapshot) : Result (Bool × TelemetryStore) :=
  match h : lookup TelemetrySnapshot.snapshotId store.snapshots snapshot.snapshotId with
  | some existing => if existing ≠ snapshot then .error conflict else .ok (false, store)
  | none =>
    if store.TooOld snapshot then .ok (false, store)
    else .ok (true, store.insert snapshot ((lookup_none_iff _ _ _).mp h))

def matching (topologyFingerprint : Option String) (snapshots : List TelemetrySnapshot) :
    List TelemetrySnapshot :=
  snapshots.filter fun snapshot =>
    topologyFingerprint = none ∨ topologyFingerprint = some snapshot.topologyFingerprint

def latest (topologyFingerprint : Option String := none) : Option TelemetrySnapshot :=
  (matching topologyFingerprint store.snapshots).argmax sortKey

def recent (topologyFingerprint : Option String := none) : List TelemetrySnapshot :=
  descending sortKey (matching topologyFingerprint store.snapshots)

variable {store}

theorem tooOld_iff (snapshot : TelemetrySnapshot) : store.TooOld snapshot ↔
    store.snapshots.length = store.capacity ∧ ∀ s ∈ store.snapshots, sortKey snapshot ≤ sortKey s := by
  unfold TooOld
  cases h : store.snapshots.argmin sortKey with
  | none =>
    have hpos := store.capacity_pos
    simp only [List.argmin_eq_none.mp h, List.length_nil]
    constructor
    · rintro ⟨hle, -⟩
      omega
    · rintro ⟨heq, -⟩
      omega
  | some oldest =>
    have hle := store.within
    rw [← le_argmin_iff h]
    simp only [Option.mem_def, Option.some.injEq, exists_eq_left']
    exact and_congr_left fun _ => ⟨fun hge => le_antisymm hle hge, fun heq => heq.ge⟩

theorem save_cases (store : TelemetryStore) (snapshot : TelemetrySnapshot) :
    (∃ existing ∈ store.snapshots, existing.snapshotId = snapshot.snapshotId ∧ existing ≠ snapshot ∧
      store.save snapshot = .error conflict) ∨
    (snapshot ∈ store.snapshots ∧ store.save snapshot = .ok (false, store)) ∨
    (snapshot.snapshotId ∉ store.snapshots.map TelemetrySnapshot.snapshotId ∧ store.TooOld snapshot ∧
      store.save snapshot = .ok (false, store)) ∨
    ∃ h, ¬ store.TooOld snapshot ∧ store.save snapshot = .ok (true, store.insert snapshot h) := by
  unfold save
  split
  · next existing h =>
    obtain ⟨hmem, hid⟩ := lookup_some _ h
    by_cases hne : existing = snapshot
    · subst hne
      exact Or.inr (Or.inl ⟨hmem, by simp⟩)
    · exact Or.inl ⟨existing, hmem, hid, hne, if_pos hne⟩
  · next h =>
    have hnew := (lookup_none_iff _ _ _).mp h
    by_cases hold : store.TooOld snapshot
    · exact Or.inr (Or.inr (Or.inl ⟨hnew, hold, if_pos hold⟩))
    · exact Or.inr (Or.inr (Or.inr ⟨hnew, hold, if_neg hold⟩))

theorem insert_isTop (snapshot : TelemetrySnapshot)
    (h : snapshot.snapshotId ∉ store.snapshots.map TelemetrySnapshot.snapshotId) :
    IsTop sortKey store.capacity (Insert.insert snapshot {s | s ∈ store.snapshots})
      (store.insert snapshot h).snapshots := by
  have hnd : ((store.snapshots ++ [snapshot]).map TelemetrySnapshot.snapshotId).Nodup := by
    rw [List.map_append, List.map_singleton, ← List.concat_eq_append]
    exact store.ids_nodup.concat h
  have htop := take_isTop store.capacity (nodup_sortKeys hnd)
  have hset : {s | s ∈ store.snapshots ++ [snapshot]} = Insert.insert snapshot {s | s ∈ store.snapshots} := by
    ext s
    simp [or_comm]
  rwa [hset] at htop

theorem mem_insert_self {snapshot : TelemetrySnapshot} (hold : ¬ store.TooOld snapshot)
    (h : snapshot.snapshotId ∉ store.snapshots.map TelemetrySnapshot.snapshotId) :
    snapshot ∈ (store.insert snapshot h).snapshots := by
  by_contra hnot
  have htop := store.insert_isTop snapshot h
  obtain ⟨hfull, hlt⟩ := htop.below snapshot (Or.inl rfl) hnot
  have hsub : ∀ s ∈ (store.insert snapshot h).snapshots, s ∈ store.snapshots :=
    fun s hs => (htop.subset s hs).resolve_left fun heq => hnot (heq ▸ hs)
  have hperm := List.subperm_of_subset (htop.nodup.of_map _) hsub
  have hwithin := store.within
  refine hold ((tooOld_iff snapshot).mpr ⟨le_antisymm hwithin (hfull ▸ hperm.length_le), fun s hs => ?_⟩)
  exact (hlt s ((hperm.perm_of_length_le (by omega)).mem_iff.mpr hs)).le

theorem save_isTop {snapshot : TelemetrySnapshot} {created : Bool} {store' : TelemetryStore}
    (h : store.save snapshot = .ok (created, store')) : store'.capacity = store.capacity ∧
      IsTop sortKey store.capacity (Insert.insert snapshot {s | s ∈ store.snapshots}) store'.snapshots := by
  have hself := isTop_self (nodup_sortKeys store.ids_nodup) store.within
  rcases store.save_cases snapshot with ⟨_, _, _, _, hr⟩ | ⟨hmem, hr⟩ | ⟨hnew, hold, hr⟩ | ⟨hnew, -, hr⟩
  · rw [hr] at h
    cases h
  · obtain ⟨-, rfl⟩ := Prod.mk.inj (Except.ok.inj (hr.symm.trans h))
    have hset : snapshot ∈ {s | s ∈ store.snapshots} := hmem
    rw [Set.insert_eq_of_mem hset]
    exact ⟨rfl, hself⟩
  · obtain ⟨-, rfl⟩ := Prod.mk.inj (Except.ok.inj (hr.symm.trans h))
    obtain ⟨hfull, hle⟩ := (tooOld_iff snapshot).mp hold
    refine ⟨rfl, hself.insert_below hfull fun s hs => lt_of_le_of_ne (hle s hs) fun hk => hnew ?_⟩
    exact sortKey_id hk ▸ List.mem_map_of_mem hs
  · obtain ⟨-, rfl⟩ := Prod.mk.inj (Except.ok.inj (hr.symm.trans h))
    exact ⟨rfl, insert_isTop snapshot hnew⟩

end TelemetryStore

end TelconetSentinel
