import Mathlib.Tactic

namespace TelconetSentinel.EscapedText

variable {α : Type*}

def replace [DecidableEq α] (c : α) (replacement text : List α) : List α :=
  text.flatMap fun d => if d = c then replacement else [d]

theorem replace_flatMap [DecidableEq α] {β : Type*} (c : α) (replacement : List α) (f : β → List α)
    (text : List β) :
    replace c replacement (text.flatMap f) = text.flatMap fun d => replace c replacement (f d) :=
  List.flatMap_assoc

theorem exists_of_flatMap_eq {β : Type*} {f : α → List β} {text : List α} {before after : List β} {q : β}
    (h : text.flatMap f = before ++ q :: after) :
    ∃ read c rest left right, text = read ++ c :: rest ∧ f c = left ++ q :: right ∧ before = read.flatMap f ++
    left := by
  induction text generalizing before with
  | nil => simp at h
  | cons c text ih =>
    rw [List.flatMap_cons, List.append_eq_append_iff] at h
    obtain ⟨as, hbefore, hrest⟩ | ⟨bs, hc, hafter⟩ := h
    · obtain ⟨read, d, rest, left, right, rfl, hd, rfl⟩ := ih hrest
      exact ⟨c :: read, d, rest, left, right, rfl, hd, by rw [hbefore, List.flatMap_cons, List.append_assoc]⟩
    · cases bs with
      | nil =>
        have hrest : text.flatMap f = [] ++ q :: after := hafter.symm
        obtain ⟨read, d, rest, left, right, rfl, hd, hnil⟩ := ih hrest
        refine ⟨c :: read, d, rest, left, right, rfl, hd, ?_⟩
        rw [List.flatMap_cons, List.append_assoc, ← hnil, hc, List.append_nil, List.append_nil]
      | cons b bs =>
        obtain ⟨rfl, -⟩ := List.cons.inj hafter
        exact ⟨[], c, text, before, bs, rfl, hc, rfl⟩

structure Table (α : Type*) where
  mark : α
  code : α → Option α
  decode : α → Option α
  decode_code : ∀ c d, code c = some d → decode d = some c
  code_mark : code mark = some mark

namespace Table

variable (table : Table α)

def escapeOne (c : α) : List α :=
  match table.code c with
  | some d => [table.mark, d]
  | none => [c]

def escape (text : List α) : List α := text.flatMap table.escapeOne

variable {table}

theorem ne_mark_of_code_none {c : α} (h : table.code c = none) : c ≠ table.mark := by
  rintro rfl
  rw [table.code_mark] at h
  cases h

theorem escape_concat (text : List α) (c : α) : table.escape (text ++ [c]) = table.escape text ++
    table.escapeOne c := by
  simp [escape]

theorem escape_eq_self {text : List α} (h : ∀ c ∈ text, table.code c = none) : table.escape text = text := by
  have hone : ∀ c ∈ text, table.escapeOne c = [c] := fun c hc => by rw [escapeOne, h c hc]
  rw [escape, List.flatMap_congr hone, List.flatMap_singleton']

theorem escapeOne_split {c q d : α} {left right : List α} (hcode : table.code q = some d)
    (hmark : q ≠ table.mark) (h : table.escapeOne c = left ++ q :: right) : left = [table.mark] := by
  unfold escapeOne at h
  cases hc : table.code c with
  | none =>
    have hone : [c] = left ++ q :: right := by simpa [hc] using h
    have hq : q ∈ [c] := hone ▸ List.mem_append_right left List.mem_cons_self
    rw [List.mem_singleton.mp hq, hc] at hcode
    cases hcode
  | some e =>
    rw [hc] at h
    match left, h with
    | [], hq => exact absurd (List.cons.inj hq).1.symm hmark
    | [b], hb => rw [(List.cons.inj hb).1]
    | _ :: _ :: left, hlong => simp at hlong

theorem not_mem_escape {c d : α} (hc : table.code c = some d) (hne : ∀ e, table.code e ≠ some c)
    (text : List α) :
    c ∉ table.escape text := by
  intro h
  obtain ⟨e, -, he⟩ := List.mem_flatMap.mp h
  unfold escapeOne at he
  cases hcode : table.code e with
  | none =>
    rw [hcode, List.mem_singleton] at he
    rw [he, hcode] at hc
    cases hc
  | some b =>
    rw [hcode, List.mem_cons, List.mem_singleton] at he
    obtain rfl | rfl := he
    · exact hne table.mark table.code_mark
    · exact hne e hcode

section Reading

variable [DecidableEq α]

/-- A mark is read together with the letter behind it; a letter without a meaning makes the text
unreadable. -/
def unescape (table : Table α) : List α → Option (List α)
  | [] => some []
  | [c] => if c = table.mark then none else some [c]
  | c :: d :: rest =>
    if c = table.mark then (table.decode d).bind fun e => (unescape table rest).map (e :: ·)
    else (unescape table (d :: rest)).map (c :: ·)

theorem unescape_cons {c : α} (h : c ≠ table.mark) (rest : List α) :
    table.unescape (c :: rest) = (table.unescape rest).map (c :: ·) := by
  cases rest with
  | nil => simp [unescape, h]
  | cons d rest => simp [unescape, h]

theorem unescape_mark {c d : α} (h : table.decode d = some c) (rest : List α) :
    table.unescape (table.mark :: d :: rest) = (table.unescape rest).map (c :: ·) := by
  simp [unescape, h]

theorem unescape_escape (text : List α) : table.unescape (table.escape text) = some text := by
  induction text with
  | nil => rfl
  | cons c text ih =>
    have hcons : table.escape (c :: text) = table.escapeOne c ++ table.escape text := rfl
    rw [hcons, escapeOne]
    cases hc : table.code c with
    | none =>
      have hread := unescape_cons (ne_mark_of_code_none hc) (table.escape text)
      rw [ih] at hread
      exact hread
    | some d =>
      have hread := unescape_mark (table.decode_code c d hc) (table.escape text)
      rw [ih] at hread
      exact hread

def readQuoted (table : Table α) (quote : α) : List α → Option (List α × List α)
  | [] => none
  | [c] => if c = quote then some ([], []) else none
  | c :: d :: rest =>
    if c = quote then some ([], d :: rest)
    else if c = table.mark then
      (table.decode d).bind fun e => (readQuoted table quote rest).map fun read => (e :: read.1, read.2)
    else (readQuoted table quote (d :: rest)).map fun read => (c :: read.1, read.2)

theorem readQuoted_escape {quote : α} (hcoded : table.code quote ≠ none) (hmark : quote ≠ table.mark)
    (text rest : List α) :
    table.readQuoted quote (table.escape text ++ quote :: rest) = some (text, rest) := by
  induction text with
  | nil => cases rest <;> simp [escape, readQuoted]
  | cons c text ih =>
    have hcons : table.escape (c :: text) = table.escapeOne c ++ table.escape text := rfl
    rw [hcons, escapeOne]
    cases hc : table.code c with
    | none =>
      have hquote : c ≠ quote := fun h => hcoded (h ▸ hc)
      have hplain : c ≠ table.mark := ne_mark_of_code_none hc
      obtain ⟨d, tail, htail⟩ : ∃ d tail, table.escape text ++ quote :: rest = d :: tail :=
        List.exists_cons_of_ne_nil (by simp)
      rw [htail] at ih
      rw [List.singleton_append, List.cons_append, htail, readQuoted, if_neg hquote, if_neg hplain, ih]
      rfl
    | some d =>
      have hdecode : table.decode d = some c := table.decode_code c d hc
      have hsplit : [table.mark, d] ++ table.escape text ++ quote :: rest =
          table.mark :: d :: (table.escape text ++ quote :: rest) := rfl
      rw [hsplit, readQuoted, if_neg hmark.symm, if_pos rfl, hdecode, Option.bind_some, ih]
      rfl

def trailing (table : Table α) (text : List α) : ℕ := (text.reverse.takeWhile (· = table.mark)).length

theorem trailing_concat_mark (text : List α) : table.trailing (text ++ [table.mark]) = table.trailing text +
    1 := by
  simp [trailing]

theorem trailing_concat_ne {c : α} (h : c ≠ table.mark) (text : List α) :
    table.trailing (text ++ [c]) = 0 := by
  simp [trailing, h]

/-- The last mark of an escaped text is never waiting for a letter. -/
theorem even_trailing_escape (text : List α) : Even (table.trailing (table.escape text)) := by
  induction text using List.reverseRecOn with
  | nil => exact Even.zero
  | append_singleton text c ih =>
    rw [escape_concat, escapeOne]
    cases hc : table.code c with
    | none =>
      rw [trailing_concat_ne (ne_mark_of_code_none hc)]
      exact Even.zero
    | some d =>
      have hsplit : table.escape text ++ [table.mark, d] = (table.escape text ++ [table.mark]) ++ [d] := by
        simp
      rw [hsplit]
      by_cases hd : d = table.mark
      · rw [hd, trailing_concat_mark, trailing_concat_mark]
        exact ih.add (by decide : Even 2)
      · rw [trailing_concat_ne hd]
        exact Even.zero

theorem odd_trailing_before {q d : α} (hcode : table.code q = some d) (hmark : q ≠ table.mark)
    {text before after : List α} (h : table.escape text = before ++ q :: after) :
    Odd (table.trailing before) := by
  obtain ⟨read, c, rest, left, right, -, hc, rfl⟩ := exists_of_flatMap_eq h
  have heven : Even (table.trailing (table.escape read)) := even_trailing_escape read
  have hodd : table.trailing (read.flatMap table.escapeOne ++ left) = table.trailing (table.escape read) +
      1 := by
    rw [escapeOne_split hcode hmark hc]
    exact trailing_concat_mark _
  rw [hodd]
  exact heven.add_one

end Reading

end Table

end TelconetSentinel.EscapedText
