import TelconetSentinel.Library.IpNetworks

namespace TelconetSentinel.IpNetworks

open FallibleLists

structure Fields.Valid (fields : Fields) : Prop where
  length_eq : fields.groups.length = fields.version.groupCount
  group_lt : ∀ group ∈ fields.groups, group < 2 ^ fields.version.groupBits
  scope_valid : ∀ scope ∈ fields.scope, fields.version = .v6 ∧ scope ≠ [] ∧ '%' ∉ scope ∧ '/' ∉ scope
  prefix_le : fields.prefixLength ≤ fields.version.maxPrefix
  host_clear : ¬ fields.HostBitsSet

theorem not_mem_of_mem_splitOn {α : Type*} [DecidableEq α] {a : α} {xs piece : List α}
    (h : piece ∈ xs.splitOn a) :
    a ∉ piece := by
  induction xs generalizing piece with
  | nil =>
    rw [List.splitOn_nil, List.mem_singleton] at h
    simp [h]
  | cons x xs ih =>
    rw [List.splitOn_cons_eq_if_modifyHead] at h
    split_ifs at h with hx
    · rcases List.mem_cons.mp h with rfl | h
      · simp
      · exact ih h
    · obtain ⟨head, rest, hsplit⟩ := List.exists_cons_of_ne_nil (List.splitOn_ne_nil a xs)
      rw [hsplit, List.modifyHead_cons] at h
      rw [beq_iff_eq] at hx
      rcases List.mem_cons.mp h with rfl | h
      · have hhead := ih (hsplit ▸ List.mem_cons_self)
        simp [hhead, Ne.symm hx]
      · exact ih (hsplit ▸ List.mem_cons_of_mem _ h)

section Bounds

theorem parseOctet_lt {text : List Char} {octet : ℕ} (h : parseOctet text = some octet) : octet < 256 := by
  simp only [parseOctet] at h
  split_ifs at h
  obtain rfl := Option.some.inj h
  omega

theorem parseIpv4_bounds {text : List Char} {octets : List ℕ} (h : parseIpv4 text = some octets) :
    octets.length = 4 ∧ ∀ octet ∈ octets, octet < 256 := by
  simp only [parseIpv4] at h
  split_ifs at h with hlength
  have hpairs := (mapM_some_iff _ _ _).mp h
  refine ⟨hpairs.length_eq.symm.trans (not_not.mp hlength), fun octet hoctet => ?_⟩
  obtain ⟨text, -, htext⟩ := exists_left hpairs hoctet
  exact parseOctet_lt htext

theorem hexDigitValue_lt {c : Char} {digit : ℕ} (h : hexDigitValue c = some digit) : digit < 16 := by
  unfold hexDigitValue at h
  split_ifs at h with hdigit hlower hupper
  · have hle : c.toNat ≤ 57 := hdigit.2
    obtain rfl := Option.some.inj h
    change c.toNat - 48 < 16
    omega
  · have hle : c.toNat ≤ 102 := hlower.2
    obtain rfl := Option.some.inj h
    change c.toNat - 97 + 10 < 16
    omega
  · have hle : c.toNat ≤ 70 := hupper.2
    obtain rfl := Option.some.inj h
    change c.toNat - 65 + 10 < 16
    omega

theorem hexValue_lt_aux {text : List Char} {n m : ℕ}
    (h : text.foldlM (fun n c => (hexDigitValue c).map fun digit => 16 * n + digit) n = some m) :
    m < 16 ^ text.length * (n + 1) := by
  induction text generalizing n with
  | nil =>
    obtain rfl := Option.some.inj h
    simp
  | cons c text ih =>
    rw [List.foldlM_cons, Option.bind_eq_bind, Option.bind_eq_some_iff] at h
    obtain ⟨next, hnext, h⟩ := h
    obtain ⟨digit, hdigit, rfl⟩ := Option.map_eq_some_iff.mp hnext
    have hlt := hexDigitValue_lt hdigit
    calc m < 16 ^ text.length * (16 * n + digit + 1) := ih h
      _ ≤ 16 ^ text.length * (16 * (n + 1)) := Nat.mul_le_mul_left _ (by omega)
      _ = 16 ^ (c :: text).length * (n + 1) := by rw [List.length_cons, pow_succ, mul_assoc]

theorem parseHextet_lt {text : List Char} {hextet : ℕ} (h : parseHextet text = some hextet) :
    hextet < 2 ^ 16 := by
  unfold parseHextet at h
  split_ifs at h with htext
  have hlength : text.length ≤ 4 := by
    by_contra hlong
    exact htext (Or.inr (not_le.mp hlong))
  calc hextet < 16 ^ text.length * (0 + 1) := hexValue_lt_aux h
    _ ≤ 16 ^ 4 * (0 + 1) := Nat.mul_le_mul_right _ (Nat.pow_le_pow_right (by decide) hlength)
    _ = 2 ^ 16 := by norm_num

theorem layout_length {parts high low : List (List Char)} {skipped : ℕ}
    (h : layout parts = some (high, skipped, low)) :
    high.length + skipped + low.length = 8 := by
  unfold layout at h
  split at h
  · cases h
  split at h
  · cases h
  split at h
  · split_ifs at h with height
    simp only [Option.some.injEq, Prod.mk.injEq] at h
    obtain ⟨rfl, rfl, rfl⟩ := h
    simp [height.1]
  · simp only at h
    split_ifs at h
    all_goals
      simp only [Option.some.injEq, Prod.mk.injEq] at h
      obtain ⟨rfl, rfl, rfl⟩ := h
      omega
  · cases h

theorem parseIpv6_bounds {text : List Char} {hextets : List ℕ} (h : parseIpv6 text = some hextets) :
    hextets.length = 8 ∧ ∀ hextet ∈ hextets, hextet < 2 ^ 16 := by
  simp only [parseIpv6] at h
  split_ifs at h
  obtain ⟨parts, -, h⟩ := Option.bind_eq_some_iff.mp h
  split_ifs at h
  obtain ⟨⟨high, skipped, low⟩, hlayout, h⟩ := Option.bind_eq_some_iff.mp h
  obtain ⟨highHextets, hhigh, h⟩ := Option.bind_eq_some_iff.mp h
  obtain ⟨lowHextets, hlow, h⟩ := Option.bind_eq_some_iff.mp h
  obtain rfl := Option.some.inj h
  have hhigh := (mapM_some_iff _ _ _).mp hhigh
  have hlow := (mapM_some_iff _ _ _).mp hlow
  have hlength := layout_length hlayout
  refine ⟨?_, fun hextet hmem => ?_⟩
  · rw [List.length_append, List.length_append, List.length_replicate, ← hhigh.length_eq, ← hlow.length_eq]
    exact hlength
  · rw [List.mem_append, List.mem_append, List.mem_replicate] at hmem
    rcases hmem with (hmem | ⟨-, rfl⟩) | hmem
    · obtain ⟨part, -, hpart⟩ := exists_left hhigh hmem
      exact parseHextet_lt hpart
    · norm_num
    · obtain ⟨part, -, hpart⟩ := exists_left hlow hmem
      exact parseHextet_lt hpart

theorem prefixFromPrefixString_le {maxPrefix prefixLength : ℕ} {text : List Char}
    (h : prefixFromPrefixString maxPrefix text = some prefixLength) : prefixLength ≤ maxPrefix := by
  simp only [prefixFromPrefixString] at h
  split_ifs at h
  obtain rfl := Option.some.inj h
  assumption

theorem prefixFromIpInt_le {ip prefixLength : ℕ} (h : prefixFromIpInt ip = some prefixLength) :
    prefixLength ≤ 32 := by
  simp only [prefixFromIpInt] at h
  split_ifs at h
  obtain rfl := Option.some.inj h
  omega

theorem makeNetmask_le {version : Version} {mask : Option (List Char)} {prefixLength : ℕ}
    (h : makeNetmask version mask = some prefixLength) : prefixLength ≤ version.maxPrefix := by
  unfold makeNetmask at h
  split at h
  · exact (Option.some.inj h).symm.le
  · split at h
    · rcases Option.or_eq_some_iff.mp h with h | ⟨-, h⟩
      · exact prefixFromPrefixString_le h
      · obtain ⟨ip, -, h⟩ := Option.bind_eq_some_iff.mp h
        rcases Option.or_eq_some_iff.mp h with h | ⟨-, h⟩
        · exact prefixFromIpInt_le h
        · exact prefixFromIpInt_le h
    · exact prefixFromPrefixString_le h

theorem splitOptionalNetmask_slash {text address : List Char} {mask : Option (List Char)}
    (h : splitOptionalNetmask text = some (address, mask)) : '/' ∉ address := by
  unfold splitOptionalNetmask at h
  split at h
  · next hsplit =>
    obtain ⟨rfl, -⟩ := Prod.mk.inj (Option.some.inj h)
    exact not_mem_of_mem_splitOn (hsplit ▸ List.mem_cons_self)
  · next hsplit =>
    obtain ⟨rfl, -⟩ := Prod.mk.inj (Option.some.inj h)
    exact not_mem_of_mem_splitOn (hsplit ▸ List.mem_cons_self)
  · cases h

theorem splitScopeId_scope {text address : List Char} {scope : Option (List Char)}
    (h : splitScopeId text = some (address, scope)) (hslash : '/' ∉ text) :
    ∀ name ∈ scope, name ≠ [] ∧ '%' ∉ name ∧ '/' ∉ name := by
  unfold splitScopeId at h
  split at h
  · obtain ⟨-, rfl⟩ := Prod.mk.inj (Option.some.inj h)
    simp
  · next before name hsplit =>
    split_ifs at h with hname
    obtain ⟨-, rfl⟩ := Prod.mk.inj (Option.some.inj h)
    have hmem : name ∈ text.splitOn '%' := hsplit ▸ List.mem_cons_of_mem _ List.mem_cons_self
    have htext : text = before ++ '%' :: name := by
      have hjoin : ['%'].intercalate (text.splitOn '%') = text := List.intercalate_splitOn '%'
      rw [hsplit] at hjoin
      simpa using hjoin.symm
    simp only [Option.mem_def, Option.some.injEq, forall_eq']
    exact ⟨hname, not_mem_of_mem_splitOn hmem, fun h => hslash (by simp [htext, h])⟩
  · cases h

theorem readNetwork_valid {text : List Char} {fields : Fields} (h : readNetwork text = .ok fields) :
    fields.Valid := by
  have hchecked : ∀ {made : Fields}, checkHostBits made = .ok fields → made = fields ∧
      ¬ fields.HostBitsSet := by
    intro made h
    unfold checkHostBits at h
    split_ifs at h with hbits
    obtain rfl := Except.ok.inj h
    exact ⟨rfl, hbits⟩
  have hipv4 : ipv4Network text = .ok fields → fields.Valid := by
    intro h
    unfold ipv4Network at h
    split at h
    · cases h
    split at h
    · next octets prefixLength hoctets hmask =>
      obtain ⟨rfl, hbits⟩ := hchecked h
      obtain ⟨hlength, hlt⟩ := parseIpv4_bounds hoctets
      exact ⟨hlength, hlt, by simp, makeNetmask_le hmask, hbits⟩
    · cases h
  have hipv6 : ipv6Network text = .ok fields → fields.Valid := by
    intro h
    unfold ipv6Network at h
    split at h
    · cases h
    next hsplit =>
    split at h
    · cases h
    next hscope =>
    split at h
    · next hextets prefixLength hhextets hmask =>
      obtain ⟨rfl, hbits⟩ := hchecked h
      obtain ⟨hlength, hlt⟩ := parseIpv6_bounds hhextets
      refine ⟨hlength, hlt, fun name hname => ?_, makeNetmask_le hmask, hbits⟩
      exact ⟨rfl, splitScopeId_scope hscope (splitOptionalNetmask_slash hsplit) name hname⟩
    · cases h
  unfold readNetwork at h
  split at h
  · exact hipv6 h
  · exact hipv4 h

end Bounds

section Digits

theorem decimal_chars {n : ℕ} {c : Char} (h : c.isDigit = false) : c ∉ Nat.toDigits 10 n := by
  intro hmem
  rw [Nat.isDigit_of_mem_toDigits (by decide) (by decide) hmem] at h
  exact Bool.noConfusion h

theorem parseOctet_decimal : ∀ n < 256, parseOctet (Nat.toDigits 10 n) = some n := by
  decide +kernel

theorem prefixFromPrefixString_decimal {maxPrefix n : ℕ} (hmax : maxPrefix ≤ 128) (hn : n ≤ maxPrefix) :
    prefixFromPrefixString maxPrefix (Nat.toDigits 10 n) = some n := by
  have hlength : (Nat.toDigits 10 n).length ≤ 3 :=
    (Nat.length_toDigits_le_iff (by decide) (by decide)).mpr (by omega)
  have hdigits : (Nat.toDigits 10 n).all Char.isDigit = true :=
    List.all_eq_true.mpr fun c hc => Nat.isDigit_of_mem_toDigits (by decide) (by decide) hc
  have hreadable : ¬ (Nat.toDigits 10 n = [] ∨ ¬ (Nat.toDigits 10 n).all Char.isDigit = true ∨
      intMaxStrDigits < (Nat.toDigits 10 n).length) := by
    rintro (hnil | hchars | hlong)
    · exact Nat.toDigits_ne_nil hnil
    · exact hchars hdigits
    · unfold intMaxStrDigits at hlong
      omega
  rw [prefixFromPrefixString, if_neg hreadable, Nat.ofDigitChars_toDigits (by decide) (by decide)]
  exact if_pos hn

theorem hexDigitValue_digitChar : ∀ n < 16, hexDigitValue (Nat.digitChar n) = some n := by
  decide

theorem hexValue_hexadecimal (n : ℕ) : hexValue (Nat.toDigits 16 n) = some n := by
  induction n using Nat.strong_induction_on with
  | _ n ih =>
    by_cases hn : n < 16
    · rw [Nat.toDigits_of_lt_base hn, hexValue]
      simp [hexDigitValue_digitChar n hn]
    · have hrest : hexValue (Nat.toDigits 16 (n / 16)) = some (n / 16) := ih (n / 16) (by omega)
      rw [hexValue] at hrest
      rw [Nat.toDigits_of_base_le (by decide) (by omega), hexValue, List.foldlM_append, hrest]
      simp [hexDigitValue_digitChar (n % 16) (Nat.mod_lt n (by decide)), Nat.div_add_mod]

theorem hexDigit_of_foldlM {text : List Char} {n m : ℕ}
    (h : text.foldlM (fun n c => (hexDigitValue c).map fun digit => 16 * n + digit) n = some m) :
    ∀ c ∈ text, hexDigitValue c ≠ none := by
  induction text generalizing n with
  | nil => simp
  | cons c text ih =>
    rw [List.foldlM_cons, Option.bind_eq_bind, Option.bind_eq_some_iff] at h
    obtain ⟨next, hnext, h⟩ := h
    obtain ⟨digit, hdigit, -⟩ := Option.map_eq_some_iff.mp hnext
    exact List.forall_mem_cons.mpr ⟨by simp [hdigit], ih h⟩

theorem hexadecimal_chars {n : ℕ} {c : Char} (h : hexDigitValue c = none) : c ∉ Nat.toDigits 16 n :=
  fun hmem => hexDigit_of_foldlM (hexValue_hexadecimal n) c hmem h

theorem parseHextet_hexadecimal {n : ℕ} (h : n < 2 ^ 16) : parseHextet (Nat.toDigits 16 n) = some n := by
  have hlength : (Nat.toDigits 16 n).length ≤ 4 :=
    (Nat.length_toDigits_le_iff (by decide) (by decide)).mpr (h.trans_le (by norm_num))
  rw [parseHextet, if_neg (not_or.mpr ⟨Nat.toDigits_ne_nil, not_lt.mpr hlength⟩), hexValue_hexadecimal]

end Digits

section Compression

/-- The best run and the current run consist of zeros. -/
structure ZeroRuns.Sound (hextets : List (List Char)) (seen : ℕ) (runs : ZeroRuns) : Prop where
  best : ∀ j, runs.bestStart ≤ j → j < runs.bestStart + runs.bestLength → hextets[j]? = some ['0']
  start : runs.start.getD seen + runs.length = seen
  current : ∀ j, seen ≤ j + runs.length → j < seen → hextets[j]? = some ['0']

theorem ZeroRuns.Sound.step {hextets : List (List Char)} {seen : ℕ} {runs : ZeroRuns} {hextet : List Char}
    (h : runs.Sound hextets seen) (hget : hextets[seen]? = some hextet) :
    (runs.step (hextet, seen)).Sound hextets (seen + 1) := by
  have hstart := h.start
  unfold ZeroRuns.step
  by_cases hzero : hextet = ['0']
  · have hrun : ∀ j, runs.start.getD seen ≤ j → j < runs.start.getD seen + (runs.length + 1) →
        hextets[j]? = some ['0'] := by
      intro j hj hj'
      by_cases hlast : j = seen
      · rw [hlast, hget, hzero]
      · exact h.current j (by omega) (by omega)
    have hcurrent : ∀ j, seen + 1 ≤ j + (runs.length + 1) → j < seen + 1 → hextets[j]? = some ['0'] :=
      fun j hj hj' => hrun j (by omega) (by omega)
    have hextended : runs.start.getD seen + (runs.length + 1) = seen + 1 := by omega
    simp only [if_pos hzero]
    split_ifs
    · exact ⟨hrun, hextended, hcurrent⟩
    · exact ⟨h.best, hextended, hcurrent⟩
  · simp only [if_neg hzero]
    exact ⟨h.best, rfl, fun j hj hj' => absurd hj (by simp only; omega)⟩

theorem ZeroRuns.Sound.foldl {hextets seen rest : List (List Char)} {runs : ZeroRuns}
    (hhextets : hextets = seen ++ rest) (h : runs.Sound hextets seen.length) :
    ((rest.zipIdx seen.length).foldl ZeroRuns.step runs).Sound hextets hextets.length := by
  induction rest generalizing seen runs with
  | nil =>
    rw [List.append_nil] at hhextets
    exact hhextets ▸ h
  | cons hextet rest ih =>
    have hget : hextets[seen.length]? = some hextet := by
      rw [hhextets, List.getElem?_append_right le_rfl, Nat.sub_self]
      rfl
    have hnext : hextets = (seen ++ [hextet]) ++ rest := by
      rw [hhextets, List.append_assoc, List.singleton_append]
    have hlength : (seen ++ [hextet]).length = seen.length + 1 := by simp
    rw [List.zipIdx_cons, List.foldl_cons, ← hlength]
    exact ih hnext (hlength ▸ h.step hget)

theorem compressHextets_cases (hextets : List (List Char)) : compressHextets hextets = hextets ∨
    ∃ high low run, hextets = high ++ List.replicate run ['0'] ++ low ∧ 2 ≤ run ∧
      compressHextets hextets = padded high ++ [] :: padded low := by
  have hsound : (hextets.zipIdx.foldl ZeroRuns.step ⟨0, 0, none, 0⟩).Sound hextets hextets.length :=
    ZeroRuns.Sound.foldl (List.nil_append hextets).symm
      ⟨fun j _ hj => absurd hj (Nat.not_lt_zero j), rfl, fun j _ hj => absurd hj (Nat.not_lt_zero j)⟩
  unfold compressHextets
  generalize hextets.zipIdx.foldl ZeroRuns.step ⟨0, 0, none, 0⟩ = runs at hsound ⊢
  simp only
  by_cases hlong : 1 < runs.bestLength
  · rw [if_pos hlong]
    refine Or.inr ⟨_, _, runs.bestLength, ?_, hlong, rfl⟩
    have hend : runs.bestStart + (runs.bestLength - 1) < hextets.length := by
      by_contra hout
      have hlast := hsound.best (runs.bestStart + (runs.bestLength - 1)) (by omega) (by omega)
      rw [List.getElem?_eq_none (not_lt.mp hout)] at hlast
      cases hlast
    have hrun : (hextets.drop runs.bestStart).take runs.bestLength =
        List.replicate runs.bestLength ['0'] := by
      refine List.eq_replicate_iff.mpr ⟨by rw [List.length_take, List.length_drop]; omega, fun hextet hmem =>
        ?_⟩
      obtain ⟨j, hj⟩ := List.getElem?_of_mem hmem
      rw [List.getElem?_take, List.getElem?_drop] at hj
      split_ifs at hj with hlt
      exact Option.some.inj (hj.symm.trans (hsound.best _ (by omega) (by omega)))
    rw [← hrun, List.append_assoc, ← List.drop_drop, List.take_append_drop, List.take_append_drop]
  · exact Or.inl (if_neg hlong)

end Compression

section Layout

theorem padded_head {parts : List (List Char)} (h : [] ∉ parts) :
    ∃ first inner, padded parts = first :: inner ∧
    [] ∉ inner ∧ (first = [] ∧ inner = [] ∧ parts = [] ∨ first ≠ [] ∧ parts = first :: inner) := by
  cases parts with
  | nil => exact ⟨[], [], rfl, List.not_mem_nil, Or.inl ⟨rfl, rfl, rfl⟩⟩
  | cons first inner =>
    rw [List.mem_cons, not_or] at h
    exact ⟨first, inner, rfl, h.2, Or.inr ⟨Ne.symm h.1, rfl⟩⟩

theorem padded_last {parts : List (List Char)} (h : [] ∉ parts) : ∃ inner last, padded parts = inner ++
    [last] ∧
    [] ∉ inner ∧ (last = [] ∧ inner = [] ∧ parts = [] ∨ last ≠ [] ∧ parts = inner ++ [last]) := by
  rcases List.eq_nil_or_concat parts with rfl | ⟨inner, last, hparts⟩
  · exact ⟨[], [], rfl, List.not_mem_nil, Or.inl ⟨rfl, rfl, rfl⟩⟩
  · rw [List.concat_eq_append] at hparts
    subst hparts
    rw [List.mem_append, List.mem_singleton, not_or] at h
    exact ⟨inner, last, if_neg (by simp), h.1, Or.inr ⟨Ne.symm h.2, rfl⟩⟩

theorem layout_compressed {high low : List (List Char)} (hhigh : [] ∉ high) (hlow : [] ∉ low)
    (hlength : high.length + low.length < 8) :
    layout (padded high ++ [] :: padded low) = some (high, 8 - (high.length + low.length), low) := by
  obtain ⟨first, inner, hfirst, hinner, hhighEq⟩ := padded_head hhigh
  obtain ⟨inner', last, hlast, hinner', hlowEq⟩ := padded_last hlow
  have hparts : padded high ++ [] :: padded low = first :: ((inner ++ [] :: inner') ++ [last]) := by
    rw [hfirst, hlast]
    simp
  have hsplit : (inner ++ [] :: inner').splitOn [] = [inner, inner'] := by
    rw [List.splitOn_append_cons_self_of_not_mem hinner, List.splitOn_eq_singleton hinner']
  rw [hparts, layout]
  simp only [List.getLast?_concat, List.dropLast_concat, hsplit]
  have hshape : ¬ (first = [] ∧ inner ≠ [] ∨ last = [] ∧ inner' ≠ []) := by
    rcases hhighEq with ⟨-, hnil, -⟩ | ⟨hne, -⟩ <;> rcases hlowEq with ⟨-, hnil', -⟩ | ⟨hne', -⟩ <;> simp [*]
  have hhighParts : (if first = [] then [] else first :: inner) = high := by
    rcases hhighEq with ⟨rfl, -, rfl⟩ | ⟨hne, rfl⟩ <;> simp [*]
  have hlowParts : (if last = [] then [] else inner' ++ [last]) = low := by
    rcases hlowEq with ⟨rfl, -, rfl⟩ | ⟨hne, rfl⟩ <;> simp [*]
  rw [if_neg hshape, hhighParts, hlowParts, if_pos hlength]

theorem layout_plain {parts : List (List Char)} (hparts : [] ∉ parts) (hlength : parts.length = 8) :
    layout parts = some (parts, 0, []) := by
  obtain ⟨first, rest, rfl⟩ := List.exists_cons_of_length_pos (l := parts) (by omega)
  have hrest : rest ≠ [] := List.ne_nil_of_length_pos (by rw [List.length_cons] at hlength; omega)
  obtain ⟨inner, last, rfl⟩ : ∃ inner last, rest = inner ++ [last] :=
    ⟨_, _, (List.dropLast_append_getLast hrest).symm⟩
  simp only [List.mem_cons, List.mem_append, not_or] at hparts
  rw [layout]
  simp only [List.getLast?_concat, List.dropLast_concat, List.splitOn_eq_singleton hparts.2.1]
  exact if_pos ⟨hlength, Ne.symm hparts.1, Ne.symm hparts.2.2.1⟩

end Layout

section RoundTrip

theorem parseIpv4_text {octets : List ℕ} (hlength : octets.length = 4) (hlt : ∀ octet ∈ octets, octet < 256) :
    parseIpv4 (addressText .v4 octets) = some octets := by
  have hsplit : (addressText .v4 octets).splitOn '.' = octets.map (Nat.toDigits 10) := by
    refine List.splitOn_intercalate '.' (fun piece hpiece => ?_) ?_
    · obtain ⟨octet, -, rfl⟩ := List.mem_map.mp hpiece
      exact decimal_chars rfl
    · exact List.ne_nil_of_length_pos (by rw [List.length_map]; omega)
  have hread : (octets.map (Nat.toDigits 10)).mapM parseOctet = some octets := by
    rw [mapM_some_iff, List.forall₂_map_left_iff, List.forall₂_same]
    exact fun octet hoctet => parseOctet_decimal octet (hlt octet hoctet)
  simp only [parseIpv4, hsplit, List.length_map, hread]
  exact if_neg (not_not.mpr hlength)

theorem mapM_parseHextet {hextets : List ℕ} (hlt : ∀ hextet ∈ hextets, hextet < 2 ^ 16) :
    (hextets.map (Nat.toDigits 16)).mapM parseHextet = some hextets := by
  rw [mapM_some_iff, List.forall₂_map_left_iff, List.forall₂_same]
  exact fun hextet hhextet => parseHextet_hexadecimal (hlt hextet hhextet)

theorem zero_of_hexadecimal {n : ℕ} (h : Nat.toDigits 16 n = ['0']) : n = 0 := by
  have hvalue := hexValue_hexadecimal n
  rw [h] at hvalue
  exact (Option.some.inj hvalue).symm

theorem mem_padded {part : List Char} {parts : List (List Char)} (h : part ∈ padded parts) : part = [] ∨
    part ∈ parts := by
  unfold padded at h
  split_ifs at h
  · exact Or.inl (List.mem_singleton.mp h)
  · exact Or.inr h

theorem length_padded (parts : List (List Char)) :
    parts.length ≤ (padded parts).length ∧ 1 ≤ (padded parts).length ∧ (padded parts).length ≤ parts.length +
    1 := by
  cases parts <;> simp [padded]

theorem layout_text {hextets : List ℕ} (hlength : hextets.length = 8) :
    let parts := compressHextets (hextets.map (Nat.toDigits 16))
    (∀ part ∈ parts, part = [] ∨ part ∈ hextets.map (Nat.toDigits 16)) ∧ 3 ≤ parts.length ∧ parts.length ≤ 9 ∧
      ∃ high low run, hextets = high ++ List.replicate run 0 ++ low ∧
        layout parts = some (high.map (Nat.toDigits 16), run, low.map (Nat.toDigits 16)) := by
  intro parts
  have hnonempty : ∀ xs : List ℕ, [] ∉ xs.map (Nat.toDigits 16) := by simp
  rcases compressHextets_cases (hextets.map (Nat.toDigits 16)) with hparts | ⟨high, low, run, htexts, hrun,
    hparts⟩
  · have hlong : (hextets.map (Nat.toDigits 16)).length = 8 := by rw [List.length_map, hlength]
    simp only [parts, hparts]
    refine ⟨fun part hpart => Or.inr hpart, by omega, by omega, hextets, [], 0, by simp, ?_⟩
    exact layout_plain (hnonempty hextets) hlong
  · obtain ⟨init, low, rfl, hinit, rfl⟩ := List.map_eq_append_iff.mp htexts
    obtain ⟨high, zeros, rfl, rfl, hzeros⟩ := List.map_eq_append_iff.mp hinit
    have hzero : zeros = List.replicate run 0 := by
      refine List.eq_replicate_iff.mpr ⟨?_, fun z hz => ?_⟩
      · rw [← List.length_map (Nat.toDigits 16), hzeros, List.length_replicate]
      · have hmem := List.mem_map_of_mem hz (f := Nat.toDigits 16)
        rw [hzeros] at hmem
        exact zero_of_hexadecimal (List.eq_of_mem_replicate hmem)
    subst hzero
    simp only [List.length_append, List.length_replicate] at hlength
    have hhigh := length_padded (high.map (Nat.toDigits 16))
    have hlow := length_padded (low.map (Nat.toDigits 16))
    rw [List.length_map] at hhigh hlow
    simp only [parts, hparts]
    refine ⟨fun part hpart => ?_, ?_, ?_, high, low, run, rfl, ?_⟩
    · rcases List.mem_append.mp hpart with hpart | hpart
      · exact (mem_padded hpart).imp_right fun hmem => by
          simp only [List.map_append, List.mem_append]; exact Or.inl (Or.inl hmem)
      rcases List.mem_cons.mp hpart with rfl | hpart
      · exact Or.inl rfl
      · exact (mem_padded hpart).imp_right fun hmem => by
          simp only [List.map_append, List.mem_append]; exact Or.inr hmem
    · rw [List.length_append, List.length_cons]
      omega
    · rw [List.length_append, List.length_cons]
      omega
    · have hcount : 8 - ((high.map (Nat.toDigits 16)).length + (low.map (Nat.toDigits 16)).length) = run := by
        rw [List.length_map, List.length_map]
        omega
      rw [layout_compressed (hnonempty high) (hnonempty low)
        (by rw [List.length_map, List.length_map]; omega), hcount]

theorem splitOn_text {hextets : List ℕ} (hlength : hextets.length = 8) :
    (addressText .v6 hextets).splitOn ':' = compressHextets (hextets.map (Nat.toDigits 16)) ∧
      embedIpv4 (compressHextets (hextets.map (Nat.toDigits 16))) =
        some (compressHextets (hextets.map (Nat.toDigits 16))) := by
  obtain ⟨hparts, hshort, -⟩ := layout_text hlength
  have hchars : ∀ c, hexDigitValue c = none →
      ∀ part ∈ compressHextets (hextets.map (Nat.toDigits 16)), c ∉ part := by
    intro c hc part hpart
    rcases hparts part hpart with rfl | hmem
    · exact List.not_mem_nil
    · obtain ⟨hextet, -, rfl⟩ := List.mem_map.mp hmem
      exact hexadecimal_chars hc
  refine ⟨List.splitOn_intercalate ':' (hchars ':' (by decide)) (List.ne_nil_of_length_pos (by omega)), ?_⟩
  unfold embedIpv4
  split
  · rfl
  · next last hlast => exact if_neg (hchars '.' (by decide) last (List.mem_of_getLast? hlast))

theorem parseIpv6_text {hextets : List ℕ} (hlength : hextets.length = 8)
    (hlt : ∀ hextet ∈ hextets, hextet < 2 ^ 16) :
    parseIpv6 (addressText .v6 hextets) = some hextets := by
  obtain ⟨hsplit, hembed⟩ := splitOn_text hlength
  obtain ⟨-, hshort, hlong, high, low, run, rfl, hlayout⟩ := layout_text hlength
  simp only [List.forall_mem_append] at hlt
  rw [parseIpv6]
  simp only [hsplit, if_neg (not_lt.mpr hshort), hembed, if_neg (not_lt.mpr hlong), hlayout,
    Option.bind_eq_bind, Option.bind_some, mapM_parseHextet hlt.1.1, mapM_parseHextet hlt.2]
  rfl

theorem mem_of_mem_intercalate {α : Type*} {a sep : α} {pieces : List (List α)}
    (h : a ∈ [sep].intercalate pieces) :
    a = sep ∨ ∃ piece ∈ pieces, a ∈ piece := by
  induction pieces with
  | nil => exact absurd h (by simp)
  | cons piece pieces ih =>
    cases pieces with
    | nil => exact Or.inr ⟨piece, List.mem_cons_self, by simpa using h⟩
    | cons piece' pieces =>
      rw [List.intercalate_cons_cons, List.append_assoc, List.singleton_append, List.mem_append,
        List.mem_cons] at h
      rcases h with h | rfl | h
      · exact Or.inr ⟨piece, List.mem_cons_self, h⟩
      · exact Or.inl rfl
      · exact (ih h).imp_right fun ⟨other, hother, hmem⟩ => ⟨other, List.mem_cons_of_mem _ hother, hmem⟩

theorem ipv4Text_chars {c : Char} (hdigit : c.isDigit = false) (hdot : c ≠ '.') (octets : List ℕ) :
    c ∉ addressText .v4 octets := by
  intro h
  rcases mem_of_mem_intercalate h with heq | ⟨piece, hpiece, hmem⟩
  · exact hdot heq
  · obtain ⟨octet, -, rfl⟩ := List.mem_map.mp hpiece
    exact decimal_chars hdigit hmem

theorem ipv6Text_chars {c : Char} (hdigit : hexDigitValue c = none) (hcolon : c ≠ ':') {hextets : List ℕ}
    (hlength : hextets.length = 8) : c ∉ addressText .v6 hextets := by
  intro h
  obtain ⟨hparts, -⟩ := layout_text hlength
  rcases mem_of_mem_intercalate h with heq | ⟨piece, hpiece, hmem⟩
  · exact hcolon heq
  · rcases hparts piece hpiece with rfl | hmember
    · exact List.not_mem_nil hmem
    · obtain ⟨hextet, -, rfl⟩ := List.mem_map.mp hmember
      exact hexadecimal_chars hdigit hmem

theorem colon_mem_ipv6Text {hextets : List ℕ} (hlength : hextets.length = 8) :
    ':' ∈ addressText .v6 hextets := by
  obtain ⟨hsplit, -⟩ := splitOn_text hlength
  obtain ⟨-, hshort, -⟩ := layout_text hlength
  by_contra hcolon
  rw [← hsplit, List.splitOn_eq_singleton hcolon, List.length_singleton] at hshort
  omega

theorem parseIpv4_colon {text : List Char} (h : ':' ∈ text) : parseIpv4 text = none := by
  cases hread : parseIpv4 text with
  | none => rfl
  | some octets =>
    simp only [parseIpv4] at hread
    split_ifs at hread
    have hpieces := (mapM_some_iff _ _ _).mp hread
    have hjoin : ['.'].intercalate (text.splitOn '.') = text := List.intercalate_splitOn '.'
    rw [← hjoin] at h
    rcases mem_of_mem_intercalate h with heq | ⟨piece, hpiece, hmem⟩
    · exact absurd heq (by decide)
    · obtain ⟨octet, -, hoctet⟩ := exists_right hpieces hpiece
      unfold parseOctet at hoctet
      split_ifs at hoctet with hbad
      have hdigits : piece.all Char.isDigit = true := by
        by_contra hchars
        exact hbad (Or.inr (Or.inl hchars))
      exact absurd (List.all_eq_true.mp hdigits ':' hmem) (by decide)

theorem splitOptionalNetmask_text {address : List Char} (h : '/' ∉ address) (prefixLength : ℕ) :
    splitOptionalNetmask (address ++ '/' :: Nat.toDigits 10 prefixLength) =
      some (address, some (Nat.toDigits 10 prefixLength)) := by
  rw [splitOptionalNetmask, List.splitOn_append_cons_self_of_not_mem h,
    List.splitOn_eq_singleton (decimal_chars rfl)]

theorem splitScopeId_text {address : List Char} (h : '%' ∉ address) {scope : Option (List Char)}
    (hscope : ∀ name ∈ scope, name ≠ [] ∧ '%' ∉ name) :
    splitScopeId (address ++ scope.elim [] fun name => '%' :: name) = some (address, scope) := by
  cases scope with
  | none => rw [Option.elim_none, List.append_nil, splitScopeId, List.splitOn_eq_singleton h]
  | some name =>
    obtain ⟨hname, hpercent⟩ := hscope name rfl
    rw [Option.elim_some, splitScopeId, List.splitOn_append_cons_self_of_not_mem h,
      List.splitOn_eq_singleton hpercent]
    exact if_neg hname

theorem makeNetmask_text {version : Version} {prefixLength : ℕ} (h : prefixLength ≤ version.maxPrefix) :
    makeNetmask version (some (Nat.toDigits 10 prefixLength)) = some prefixLength := by
  cases version with
  | v4 => exact Option.or_eq_some_iff.mpr (Or.inl (prefixFromPrefixString_decimal (by decide) h))
  | v6 => exact prefixFromPrefixString_decimal le_rfl h

theorem Fields.Valid.readNetwork_text {fields : Fields} (h : fields.Valid) :
    readNetwork fields.text = .ok fields := by
  obtain ⟨version, groups, scope, prefixLength⟩ := fields
  obtain ⟨hlength, hlt, hscope, hprefix, hhost⟩ := h
  have hchecked : checkHostBits ⟨version, groups, scope, prefixLength⟩ =
      .ok ⟨version, groups, scope, prefixLength⟩ :=
    if_neg hhost
  have hmask := makeNetmask_text hprefix
  cases version with
  | v4 =>
    obtain rfl : scope = none := Option.eq_none_iff_forall_not_mem.mpr fun name hname =>
      Version.noConfusion (hscope name hname).1
    have hipv4 : ipv4Network (Fields.text ⟨.v4, groups, none, prefixLength⟩) =
        .ok ⟨.v4, groups, none, prefixLength⟩ := by
      rw [ipv4Network, Fields.text, Option.elim_none, List.append_nil,
        splitOptionalNetmask_text (ipv4Text_chars (by decide) (by decide) groups)]
      simp only [parseIpv4_text hlength hlt, hmask]
      exact hchecked
    rw [readNetwork, hipv4]
  | v6 =>
    have hslash : '/' ∉ addressText .v6 groups ++ scope.elim [] fun name => '%' :: name := by
      have haddress := ipv6Text_chars (c := '/') (by decide) (by decide) hlength
      cases scope with
      | none => simpa using haddress
      | some name => simpa [haddress] using (hscope name rfl).2.2.2
    have hsplit : splitOptionalNetmask (Fields.text ⟨.v6, groups, scope, prefixLength⟩) = _ :=
      splitOptionalNetmask_text hslash prefixLength
    have hipv4 : ipv4Network (Fields.text ⟨.v6, groups, scope, prefixLength⟩) = .error .unreadable := by
      rw [ipv4Network, hsplit]
      simp only [parseIpv4_colon (List.mem_append_left _ (colon_mem_ipv6Text hlength))]
    have hipv6 : ipv6Network (Fields.text ⟨.v6, groups, scope, prefixLength⟩) =
        .ok ⟨.v6, groups, scope, prefixLength⟩ := by
      rw [ipv6Network, hsplit]
      simp only [splitScopeId_text (ipv6Text_chars (by decide) (by decide) hlength)
        fun name hname => ⟨(hscope name hname).2.1, (hscope name hname).2.2.1⟩, parseIpv6_text hlength hlt,
        hmask]
      exact hchecked
    rw [readNetwork, hipv4]
    exact hipv6

end RoundTrip

end TelconetSentinel.IpNetworks
