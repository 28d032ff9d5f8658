import TelconetSentinel.TelemetryStore

namespace TelconetSentinel.TelemetryStore

open TopRetention TelemetrySnapshot

def afterSave (store : TelemetryStore) (snapshot : TelemetrySnapshot) : TelemetryStore :=
  match store.save snapshot with
  | .ok (_, store') => store'
  | .error _ => store

def saves (store : TelemetryStore) (offered : List TelemetrySnapshot) : TelemetryStore :=
  offered.foldl afterSave store

def Consistent (offered : List TelemetrySnapshot) : Prop :=
  ∀ s ∈ offered, ∀ t ∈ offered, s.snapshotId = t.snapshotId → s = t

instance (offered : List TelemetrySnapshot) : Decidable (Consistent offered) :=
  inferInstanceAs (Decidable (∀ s ∈ offered, ∀ t ∈ offered, s.snapshotId = t.snapshotId → s = t))

theorem Consistent.nodup {offered : List TelemetrySnapshot} (h : Consistent offered) :
    (offered.dedup.map sortKey).Nodup := by
  refine nodup_sortKeys ((List.nodup_map_iff_inj_on offered.nodup_dedup).mpr fun s hs t ht hid => ?_)
  exact h s (List.mem_dedup.mp hs) t (List.mem_dedup.mp ht) hid

theorem saves_concat (store : TelemetryStore) (offered : List TelemetrySnapshot)
    (snapshot : TelemetrySnapshot) :
    saves store (offered ++ [snapshot]) = afterSave (saves store offered) snapshot := by
  rw [saves, List.foldl_append]
  rfl

structure Holds (capacity : ℕ) (pool : Set TelemetrySnapshot) (store : TelemetryStore) : Prop where
  capacity_eq : store.capacity = capacity
  isTop : IsTop sortKey capacity pool store.snapshots
  sorted : store.snapshots.Pairwise fun s t => sortKey t < sortKey s

theorem holds_init {capacity : ℕ} {store : TelemetryStore} (h : init capacity = .ok store) :
    Holds capacity ∅ store := by
  unfold init at h
  split_ifs at h
  obtain rfl := Except.ok.inj h
  exact ⟨rfl, ⟨List.nodup_nil, Nat.zero_le _, by simp, by simp⟩, List.Pairwise.nil⟩

theorem insert_sorted (store : TelemetryStore) {snapshot : TelemetrySnapshot}
    (h : snapshot.snapshotId ∉ store.snapshots.map TelemetrySnapshot.snapshotId) :
    (store.insert snapshot h).snapshots.Pairwise fun s t => sortKey t < sortKey s := by
  have hnd : ((store.snapshots ++ [snapshot]).map TelemetrySnapshot.snapshotId).Nodup := by
    rw [List.map_append, List.map_singleton, ← List.concat_eq_append]
    exact store.ids_nodup.concat h
  exact (descending_strict (nodup_sortKeys hnd)).sublist (List.take_sublist _ _)

theorem holds_afterSave {capacity : ℕ} {pool : Set TelemetrySnapshot} {store : TelemetryStore}
    (h : Holds capacity pool store) {snapshot : TelemetrySnapshot}
    (hid : ∀ s ∈ pool, s.snapshotId = snapshot.snapshotId → s = snapshot) :
    Holds capacity (Insert.insert snapshot pool) (afterSave store snapshot) := by
  obtain ⟨rfl, htop, hsorted⟩ := h
  unfold afterSave
  rcases store.save_cases snapshot with ⟨s, hs, hsid, hne, hr⟩ | ⟨-, hr⟩ | ⟨-, -, hr⟩ | ⟨hnew, -, hr⟩
  · exact absurd (hid s (htop.subset s hs) hsid) hne
  all_goals
    obtain ⟨hcap, htop'⟩ := save_isTop hr
    rw [hr]
    refine ⟨hcap, htop.offer htop', ?_⟩
  · exact hsorted
  · exact hsorted
  · exact store.insert_sorted hnew

theorem holds_saves {capacity : ℕ} {store : TelemetryStore} (hinit : init capacity = .ok store)
    {offered : List TelemetrySnapshot} (h : Consistent offered) :
    Holds capacity {s | s ∈ offered} (saves store offered) := by
  induction offered using List.reverseRecOn with
  | nil => simpa [saves] using holds_init hinit
  | append_singleton offered snapshot ih =>
    have hmem : ∀ s ∈ offered, s ∈ offered ++ [snapshot] := fun s hs => List.mem_append_left _ hs
    have hlast : snapshot ∈ offered ++ [snapshot] := List.mem_append_right _ List.mem_cons_self
    have hbefore := ih fun s hs t ht => h s (hmem s hs) t (hmem t ht)
    have hids : ∀ s ∈ {s | s ∈ offered}, s.snapshotId = snapshot.snapshotId → s = snapshot :=
      fun s hs => h s (hmem s hs) snapshot hlast
    have hstep := holds_afterSave hbefore hids
    have hset : {s | s ∈ offered ++ [snapshot]} = Insert.insert snapshot {s | s ∈ offered} := by
      ext s
      simp [or_comm]
    rwa [saves_concat, hset]

theorem Holds.snapshots_eq {capacity : ℕ} {offered : List TelemetrySnapshot} {store : TelemetryStore}
    (h : Holds capacity {s | s ∈ offered} store) (hids : Consistent offered) :
    store.snapshots = (descending sortKey offered.dedup).take capacity := by
  have htop := take_isTop capacity hids.nodup
  have hset : {s | s ∈ offered.dedup} = {s | s ∈ offered} := by
    ext s
    simp
  rw [hset] at htop
  have hsorted := (descending_strict hids.nodup).sublist (List.take_sublist capacity _)
  exact eq_of_perm_descending h.sorted hsorted (h.isTop.unique htop)

theorem Holds.recent_eq {capacity : ℕ} {pool : Set TelemetrySnapshot} {store : TelemetryStore}
    (h : Holds capacity pool store) : store.recent = store.snapshots := by
  have hall : matching none store.snapshots = store.snapshots := by simp [matching]
  have hsorted := descending_strict (nodup_sortKeys store.ids_nodup)
  rw [recent, hall]
  exact eq_of_perm_descending hsorted h.sorted (descending_perm sortKey _)

theorem retention_ignores_arrival_order (capacity : ℕ) (store : TelemetryStore)
    (hinit : init capacity = .ok store) (offered : List TelemetrySnapshot) (hids : Consistent offered) :
    (saves store offered).snapshots = (descending sortKey offered.dedup).take capacity ∧
    (saves store offered).recent = (saves store offered).snapshots ∧
    (saves store offered).recent.Pairwise (fun s t => sortKey t < sortKey s) ∧
    (saves store offered).latest = (saves store offered).recent.head? ∧
    (∀ offered', (∀ s, s ∈ offered' ↔ s ∈ offered) →
      (saves store offered').snapshots = (saves store offered).snapshots) ∧
    ∀ before after, offered = before ++ after → ∀ s ∈ before, s ∉ (saves store before).snapshots →
      s ∉ (saves store offered).snapshots := by
  have h := holds_saves hinit hids
  refine ⟨h.snapshots_eq hids, h.recent_eq, h.recent_eq ▸ h.sorted, ?_, fun offered' hsame => ?_, ?_⟩
  · have hall : matching none (saves store offered).snapshots = (saves store offered).snapshots := by
      simp [matching]
    rw [recent, latest, hall, head?_descending (nodup_sortKeys (saves store offered).ids_nodup)]
  · have hids' : Consistent offered' := fun s hs t ht => hids s ((hsame s).mp hs) t ((hsame t).mp ht)
    have h' := holds_saves hinit hids'
    have hset : {s | s ∈ offered'} = {s | s ∈ offered} := Set.ext hsame
    rw [hset] at h'
    rw [h.snapshots_eq hids, h'.snapshots_eq hids]
  · rintro before after rfl s hs hnot
    have hsub : ∀ t ∈ before, t ∈ before ++ after := fun t ht => List.mem_append_left _ ht
    have h' := holds_saves hinit fun t ht u hu => hids t (hsub t ht) u (hsub u hu)
    exact h'.isTop.lost h.isTop hsub hs hnot

theorem retention_ignores_arrival_order_full :
    (saves ⟨1, [], by decide, by decide, by decide⟩ [unanswered "s5" 5, unanswered "s9" 9,
      unanswered "s5" 5]).snapshots =
      [unanswered "s9" 9] := by
  have h := retention_ignores_arrival_order 1 ⟨1, [], by decide, by decide, by decide⟩ rfl
    [unanswered "s5" 5, unanswered "s9" 9, unanswered "s5" 5] (by decide)
  exact h.1.trans (by decide +kernel)

end TelconetSentinel.TelemetryStore
