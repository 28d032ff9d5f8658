import TelconetSentinel.TelemetrySqlStore

namespace TelconetSentinel

open FallibleLists KeyedLists TopRetention Simulation DateTime

namespace SnapshotCodec

variable (codec : SnapshotCodec)

def RoundTrips (snapshot : TelemetrySnapshot) : Prop :=
  codec.modelValidateJson (codec.modelDumpJson snapshot) = .ok snapshot

theorem orderKey_row_le_iff (s t : TelemetrySnapshot) :
    (codec.row s).orderKey ≤ (codec.row t).orderKey ↔ sortKey s ≤ sortKey t := by
  have hlt : s.observedAt.isoformat < t.observedAt.isoformat ↔ s.observedAt < t.observedAt :=
    isoformat_lt_iff s.observedAt t.observedAt
  have heq : s.observedAt.isoformat = t.observedAt.isoformat ↔ s.observedAt = t.observedAt :=
    isoformat_strictMono.injective.eq_iff
  simp only [SnapshotRow.orderKey, row, sortKey, Prod.Lex.toLex_le_toLex, hlt, heq]

theorem ids_of_rows (snapshots : List TelemetrySnapshot) :
    (snapshots.map codec.row).map SnapshotRow.snapshotId = snapshots.map TelemetrySnapshot.snapshotId := by
  rw [List.map_map]
  rfl

theorem decode_rows {snapshots : List TelemetrySnapshot} (h : ∀ s ∈ snapshots, codec.RoundTrips s) :
    (snapshots.map codec.row).mapM (fun row => codec.modelValidateJson row.payload) = .ok snapshots := by
  rw [mapM_ok_iff, List.forall₂_map_left_iff, List.forall₂_same]
  exact h

end SnapshotCodec

namespace SnapshotTable

variable {codec : SnapshotCodec}

def Stores (codec : SnapshotCodec) (table : SnapshotTable) (snapshots : List TelemetrySnapshot) : Prop :=
  table.rows.Perm (snapshots.map codec.row)

variable {table : SnapshotTable} {snapshots : List TelemetrySnapshot}

theorem Stores.length (h : table.Stores codec snapshots) : table.rows.length = snapshots.length := by
  rw [h.length_eq, List.length_map]

theorem Stores.ids_nodup (h : table.Stores codec snapshots) :
    (snapshots.map TelemetrySnapshot.snapshotId).Nodup := by
  rw [← codec.ids_of_rows]
  exact (h.map _).nodup_iff.mp table.primary_key

theorem Stores.select (h : table.Stores codec snapshots) (snapshotId : String) :
    table.select snapshotId = (lookup TelemetrySnapshot.snapshotId snapshots snapshotId).map codec.row := by
  rw [SnapshotTable.select, lookup_perm table.primary_key h, lookup_map]
  rfl

theorem Stores.newestFirst (h : table.Stores codec snapshots) :
    table.newestFirst = (descending sortKey snapshots).map codec.row := by
  have hnd : (table.rows.map SnapshotRow.orderKey).Nodup := by
    refine (List.nodup_map_iff_inj_on (table.primary_key.of_map _)).mpr fun r hr r' hr' hk => ?_
    have hpair : (r.observedAt, r.snapshotId) = (r'.observedAt, r'.snapshotId) := hk
    exact key_inj table.primary_key hr hr' (Prod.mk.inj hpair).2
  rw [SnapshotTable.newestFirst, descending_eq_of_perm hnd h, descending_map _ _ _ codec.orderKey_row_le_iff]

theorem oldest_some {row : SnapshotRow} (h : table.oldest = some row) :
    row ∈ table.rows ∧ ∀ r ∈ table.rows, row.orderKey ≤ r.orderKey := by
  have htrans : IsTrans SnapshotRow (fun r s => r.orderKey ≤ s.orderKey) := ⟨fun _ _ _ h h' => le_trans h h'⟩
  have htotal : Std.Total (fun r s : SnapshotRow => r.orderKey ≤ s.orderKey) :=
    ⟨fun r s => le_total r.orderKey s.orderKey⟩
  have hsorted := List.pairwise_insertionSort (fun r s : SnapshotRow => r.orderKey ≤ s.orderKey) table.rows
  have hmem : ∀ r, r ∈ table.rows.insertionSort (fun r s => r.orderKey ≤ s.orderKey) ↔ r ∈ table.rows :=
    fun r => List.mem_insertionSort _
  unfold oldest at h
  cases hl : table.rows.insertionSort (fun r s => r.orderKey ≤ s.orderKey) with
  | nil =>
    rw [hl] at h
    cases h
  | cons r rest =>
    rw [hl] at h hsorted hmem
    obtain rfl := Option.some.inj h
    refine ⟨(hmem r).mp List.mem_cons_self, fun s hs => ?_⟩
    rcases List.mem_cons.mp ((hmem s).mpr hs) with rfl | hs
    · exact le_rfl
    · exact (List.pairwise_cons.mp hsorted).1 s hs

theorem oldest_none (h : table.oldest = none) : table.rows = [] := by
  have hnil := List.head?_eq_none_iff.mp h
  have hperm := List.perm_insertionSort (fun r s : SnapshotRow => r.orderKey ≤ s.orderKey) table.rows
  rwa [hnil, List.nil_perm] at hperm

theorem prune_ok (table : SnapshotTable) {capacity : ℕ} (hbind : bindInteger capacity = .ok (capacity : ℤ)) :
    ∃ pruned, table.prune capacity = .ok pruned ∧ pruned.rows.Perm (table.newestFirst.take capacity) := by
  have hsub : (table.newestFirst.take capacity).Subperm table.rows :=
    (List.take_sublist _ _).subperm.trans (descending_perm _ _).subperm
  rw [prune, hbind]
  exact ⟨_, rfl, filter_mem_keys_perm table.primary_key hsub⟩

theorem Stores.insert_prune (h : table.Stores codec snapshots) {snapshot : TelemetrySnapshot}
    (hnew : snapshot.snapshotId ∉ snapshots.map TelemetrySnapshot.snapshotId) {capacity : ℕ}
    (hbind : bindInteger capacity = .ok (capacity : ℤ)) : ∃ inserted pruned,
      table.insert (codec.row snapshot) = .ok inserted ∧
      inserted.prune capacity = .ok pruned ∧
      pruned.Stores codec ((descending sortKey (snapshots ++ [snapshot])).take capacity) := by
  have hnew' : (codec.row snapshot).snapshotId ∉ table.rows.map SnapshotRow.snapshotId := by
    rwa [(h.map _).mem_iff, codec.ids_of_rows]
  have hinserted : ∃ inserted, table.insert (codec.row snapshot) = .ok inserted ∧
      inserted.Stores codec (snapshots ++ [snapshot]) := by
    refine ⟨_, dif_neg hnew', ?_⟩
    unfold Stores
    rw [List.map_append]
    exact h.append_right _
  obtain ⟨inserted, hi, hstores⟩ := hinserted
  obtain ⟨pruned, hp, hperm⟩ := inserted.prune_ok hbind
  refine ⟨inserted, pruned, hi, hp, ?_⟩
  rw [hstores.newestFirst, ← List.map_take] at hperm
  exact hperm

end SnapshotTable

structure Mirrors (codec : SnapshotCodec) (memory : TelemetryStore) (sqlite : SQLiteTelemetryStore) :
    Prop where
  capacity_eq : sqlite.capacity = memory.capacity
  bindable : bindInteger memory.capacity = .ok (memory.capacity : ℤ)
  stores : sqlite.table.Stores codec memory.snapshots
  readable : ∀ s ∈ memory.snapshots, codec.RoundTrips s

namespace Mirrors

variable {codec : SnapshotCodec} {memory : TelemetryStore} {sqlite : SQLiteTelemetryStore}

theorem rejectsAsOld (h : Mirrors codec memory sqlite) (snapshot : TelemetrySnapshot) :
    sqlite.rejectsAsOld snapshot = .ok (decide (memory.TooOld snapshot)) := by
  have hle := memory.within
  have hpos := memory.capacity_pos
  have hiff : memory.TooOld snapshot ↔ memory.snapshots.length = memory.capacity ∧
      ∀ row ∈ sqlite.table.rows, (codec.row snapshot).orderKey ≤ row.orderKey := by
    have hrows : (∀ row ∈ sqlite.table.rows, (codec.row snapshot).orderKey ≤ row.orderKey) ↔
        ∀ s ∈ memory.snapshots, sortKey snapshot ≤ sortKey s := by
      simp only [h.stores.mem_iff, List.forall_mem_map, codec.orderKey_row_le_iff]
    rw [TelemetryStore.tooOld_iff, hrows]
  unfold SQLiteTelemetryStore.rejectsAsOld
  rw [h.stores.length, h.capacity_eq]
  split_ifs with hfull
  · cases hold : sqlite.table.oldest with
    | none =>
      have hlen := h.stores.length
      rw [SnapshotTable.oldest_none hold, List.length_nil] at hlen
      omega
    | some oldest =>
      obtain ⟨hmem, hmin⟩ := SnapshotTable.oldest_some hold
      simp only [Except.ok.injEq, decide_eq_decide, hiff]
      constructor
      · intro hk
        exact ⟨by omega, fun row hrow => hk.trans (hmin row hrow)⟩
      · rintro ⟨-, hall⟩
        exact hall oldest hmem
  · have hnot : ¬ memory.TooOld snapshot := fun hold => hfull (hiff.mp hold).1.ge
    simp [hnot]

theorem save (h : Mirrors codec memory sqlite) {snapshot : TelemetrySnapshot}
    (hs : codec.RoundTrips snapshot) :
    (∃ e, memory.save snapshot = .error e ∧ sqlite.save codec snapshot = .error e) ∨
    ∃ created memory' sqlite', memory.save snapshot = .ok (created, memory') ∧
      sqlite.save codec snapshot = .ok (created, sqlite') ∧ Mirrors codec memory' sqlite' := by
  have hselect := h.stores.select snapshot.snapshotId
  have hold := h.rejectsAsOld snapshot
  rcases memory.save_cases snapshot with ⟨s, hm, hid, hne, hr⟩ | ⟨hm, hr⟩ | ⟨hnew, htoo, hr⟩ | ⟨hnew, htoo,
    hr⟩
  · have hread := h.readable s hm
    rw [(lookup_some_iff memory.ids_nodup _ s).mpr ⟨hm, hid⟩] at hselect
    refine Or.inl ⟨_, hr, ?_⟩
    simp only [SQLiteTelemetryStore.save, hselect, Option.map_some]
    rw [show codec.modelValidateJson (codec.row s).payload = .ok s from hread]
    exact if_pos hne
  · rw [(lookup_some_iff memory.ids_nodup _ snapshot).mpr ⟨hm, rfl⟩] at hselect
    refine Or.inr ⟨_, _, sqlite, hr, ?_, h⟩
    simp only [SQLiteTelemetryStore.save, hselect, Option.map_some]
    rw [show codec.modelValidateJson (codec.row snapshot).payload = .ok snapshot from hs]
    exact if_neg (not_not.mpr rfl)
  all_goals rw [(lookup_none_iff _ memory.snapshots _).mpr hnew] at hselect
  · refine Or.inr ⟨_, _, sqlite, hr, ?_, h⟩
    simp only [SQLiteTelemetryStore.save, hselect, Option.map_none, hold, htoo, decide_true]
    rfl
  · obtain ⟨inserted, pruned, hi, hp, hstores⟩ := h.stores.insert_prune hnew h.bindable
    refine Or.inr ⟨_, _, ⟨memory.capacity, pruned⟩, hr, ?_, ⟨rfl, h.bindable, ?_, ?_⟩⟩
    · rw [← h.capacity_eq] at hp
      rw [← h.capacity_eq]
      have hnewer : sqlite.rejectsAsOld snapshot = .ok false := by rw [hold, decide_eq_false htoo]
      simp only [SQLiteTelemetryStore.save, hselect, Option.map_none]
      refine (bind_ok_iff _ _ _).mpr ⟨false, hnewer, ?_⟩
      rw [if_neg Bool.false_ne_true]
      exact (bind_ok_iff _ _ _).mpr ⟨inserted, hi, (bind_ok_iff _ _ _).mpr ⟨pruned, hp, rfl⟩⟩
    · exact hstores
    · intro s hmem
      rcases (memory.insert_isTop snapshot hnew).subset s hmem with rfl | hmem
      · exact hs
      · exact h.readable s hmem

theorem loadRecent (h : Mirrors codec memory sqlite) (limit : ℕ) (topologyFingerprint : Option String) :
    sqlite.loadRecent codec limit topologyFingerprint =
      .ok ((memory.recent topologyFingerprint).take limit) := by
  have hread : ∀ s ∈ descending sortKey memory.snapshots, codec.RoundTrips s :=
    fun s hs => h.readable s ((mem_descending _ _ s).mp hs)
  have hmatch : TelemetryStore.matching topologyFingerprint (descending sortKey memory.snapshots) =
      memory.recent topologyFingerprint :=
    filter_descending _ (nodup_sortKeys memory.ids_nodup)
  unfold SQLiteTelemetryStore.loadRecent
  rw [h.stores.newestFirst, codec.decode_rows hread, ← hmatch]
  rfl

theorem step (h : Mirrors codec memory sqlite) (call : TelemetryCall)
    (hcall : ∀ snapshot, call = .save snapshot → codec.RoundTrips snapshot) :
    (memory.step call).1 = (sqlite.step codec call).1 ∧
    Mirrors codec (memory.step call).2 (sqlite.step codec call).2 := by
  cases call with
  | save snapshot =>
    rcases h.save (hcall snapshot rfl) with ⟨e, hm, hs⟩ | ⟨created, memory', sqlite', hm, hs, h'⟩
    · simp only [TelemetryStore.step, SQLiteTelemetryStore.step, answerSave, hm, hs]
      exact ⟨trivial, h⟩
    · simp only [TelemetryStore.step, SQLiteTelemetryStore.step, answerSave, hm, hs]
      exact ⟨trivial, h'⟩
  | latest topologyFingerprint =>
    refine ⟨?_, h⟩
    have hnd : ((TelemetryStore.matching topologyFingerprint memory.snapshots).map sortKey).Nodup :=
      (nodup_sortKeys memory.ids_nodup).sublist (List.filter_sublist.map _)
    have hhead : ((memory.recent topologyFingerprint).take 1).head? = memory.latest topologyFingerprint := by
      rw [List.head?_take, if_neg Nat.one_ne_zero]
      exact head?_descending hnd
    simp only [TelemetryStore.step, SQLiteTelemetryStore.step, SQLiteTelemetryStore.latest, h.loadRecent]
    exact congrArg (fun s => Except.ok (TelemetryAnswer.latest s)) hhead.symm
  | recent topologyFingerprint =>
    refine ⟨?_, h⟩
    have hlen : (memory.recent topologyFingerprint).length ≤ sqlite.capacity := by
      rw [h.capacity_eq, TelemetryStore.recent, (descending_perm _ _).length_eq]
      exact (List.length_filter_le _ _).trans memory.within
    simp only [TelemetryStore.step, SQLiteTelemetryStore.step, SQLiteTelemetryStore.recent, h.loadRecent,
      List.take_of_length_le hlen]
    rfl

theorem init {capacity : ℕ} (hmemory : TelemetryStore.init capacity = .ok memory)
    (hcapacity : (capacity : ℤ) < 2 ^ 63) :
    ∃ sqlite, SQLiteTelemetryStore.init .empty capacity = .ok sqlite ∧ Mirrors codec memory sqlite := by
  have hbind : bindInteger capacity = .ok (capacity : ℤ) := bindInteger_ok (by omega) hcapacity
  obtain ⟨pruned, hpruned, hperm⟩ := SnapshotTable.prune_ok .empty hbind
  have hempty : SnapshotTable.empty.newestFirst = [] := rfl
  rw [hempty, List.take_nil] at hperm
  unfold TelemetryStore.init at hmemory
  split_ifs at hmemory with hpositive
  obtain rfl := Except.ok.inj hmemory
  refine ⟨⟨capacity, pruned⟩, ?_, rfl, hbind, ?_, by simp⟩
  · rw [SQLiteTelemetryStore.init, if_neg hpositive, hpruned]
    rfl
  · rw [SnapshotTable.Stores, hperm.eq_nil]
    exact List.Perm.refl _

end Mirrors

theorem SQLiteTelemetryStore.init_lt {table : SnapshotTable} {capacity : ℕ} {sqlite : SQLiteTelemetryStore}
    (h : SQLiteTelemetryStore.init table capacity = .ok sqlite) : (capacity : ℤ) < 2 ^ 63 := by
  unfold SQLiteTelemetryStore.init at h
  split_ifs at h
  obtain ⟨pruned, hpruned, -⟩ := (bind_ok_iff _ _ _).mp h
  obtain ⟨limit, hlimit, -⟩ := (bind_ok_iff _ _ _).mp hpruned
  exact bindInteger_lt hlimit

theorem sqlite_store_equivalent (codec : SnapshotCodec) (capacity : ℕ) (memory : TelemetryStore)
    (hmemory : TelemetryStore.init capacity = .ok memory) (calls : List TelemetryCall)
    (hcodec : ∀ snapshot, .save snapshot ∈ calls → codec.modelValidateJson (codec.modelDumpJson snapshot) =
      .ok snapshot) :
    ((∃ sqlite, SQLiteTelemetryStore.init .empty capacity = .ok sqlite) ↔ (capacity : ℤ) < 2 ^ 63) ∧
    ∀ sqlite, SQLiteTelemetryStore.init .empty capacity = .ok sqlite →
      outputs TelemetryStore.step memory calls = outputs (SQLiteTelemetryStore.step codec) sqlite calls := by
  refine ⟨⟨fun ⟨_, hsqlite⟩ => SQLiteTelemetryStore.init_lt hsqlite, fun hcapacity => ?_⟩,
    fun sqlite hsqlite => ?_⟩
  · obtain ⟨sqlite, hsqlite, -⟩ := @Mirrors.init codec _ _ hmemory hcapacity
    exact ⟨sqlite, hsqlite⟩
  · obtain ⟨sqlite', hsqlite', h⟩ := Mirrors.init hmemory (SQLiteTelemetryStore.init_lt hsqlite)
    obtain rfl := Except.ok.inj (hsqlite'.symm.trans hsqlite)
    exact outputs_eq (Mirrors codec)
      (fun call => ∀ snapshot, call = .save snapshot → codec.RoundTrips snapshot)
      (fun _ _ call hcall h => h.step call hcall) h calls fun _ hmem snapshot hsave =>
        hcodec snapshot (hsave ▸ hmem)

def unansweredJson : String :=
  let router (name : String) : String := "\x7b\"name\":\"" ++ name ++
    "\",\"collection_success\":false,\"state\":\"unknown\",\"collection_error\":\"router did not answer\"," ++
    "\"interfaces\":[],\"ospf_neighbors\":[],\"bfd_peers\":[],\"routes\":[]\x7d"
  "\x7b\"snapshot_id\":\"s5\",\"observed_at\":\"2026-10-25T01:02:05Z\",\"topology_fingerprint\":\"" ++
    (TelemetrySnapshot.unanswered "s5" 5 s5_valid five_lt_sixty).topologyFingerprint ++ "\",\"routers\":[" ++
    String.intercalate "," (baselineRouters.map router) ++ "]\x7d"

def unansweredCodec : SnapshotCodec where
  modelDumpJson snapshot := if snapshot = .unanswered "s5" 5 s5_valid five_lt_sixty then unansweredJson else
    ""
  modelValidateJson text :=
    if text = unansweredJson then .ok (.unanswered "s5" 5 s5_valid five_lt_sixty) else
      .error (.valueError "Invalid JSON")

theorem sqlite_store_equivalent_unanswered :
    outputs TelemetryStore.step ⟨1, [], by decide, by decide, by decide⟩
        [.save (.unanswered "s5" 5), .save (.unanswered "s5" 5), .latest none] =
      outputs (SQLiteTelemetryStore.step unansweredCodec) ⟨1, .empty⟩
        [.save (.unanswered "s5" 5), .save (.unanswered "s5" 5), .latest none] := by
  refine (sqlite_store_equivalent unansweredCodec 1 _ rfl _ fun snapshot hmem => ?_).2 _ rfl
  obtain rfl : snapshot = .unanswered "s5" 5 := by simpa using hmem
  simp [unansweredCodec]

end TelconetSentinel
