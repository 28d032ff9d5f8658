import Mathlib.Tactic

namespace TelconetSentinel.DocumentValues

inductive Float64
  | finite (value : ℚ)
  | infinity (negative : Bool)
  | nan
  deriving DecidableEq

/-- The values that Python reads from JSON and YAML texts. Objects of other types are kept as texts. -/
inductive Value
  | null
  | bool (value : Bool)
  | int (value : ℤ)
  | float (value : Float64)
  | str (value : String)
  | list (items : List Value)
  | dict (entries : List (Value × Value))
  | other (text : String)

namespace Value

def hasText (key : String) : Value → Bool
  | .str text => text == key
  | _ => false

def entries : Value → List (Value × Value)
  | .dict entries => entries
  | _ => []

def items : Value → List Value
  | .list items => items
  | _ => []

def get (value : Value) (key : String) : Option Value :=
  (value.entries.find? fun entry => entry.1.hasText key).map Prod.snd

def getD (value : Value) (key : String) (default : Value) : Value := (value.get key).getD default

def isTrue : Value → Bool
  | .bool value => value
  | _ => false

def truthy : Value → Bool
  | .null => false
  | .bool value => value
  | .int value => value != 0
  | .float value => value != .finite 0
  | .str value => value != ""
  | .list items => !items.isEmpty
  | .dict entries => !entries.isEmpty
  | .other _ => true

/-- The number that a value stands for in comparisons. Booleans count as 0 and 1. -/
def number : Value → Option ℚ
  | .bool value => some (if value then 1 else 0)
  | .int value => some value
  | .float (.finite value) => some value
  | _ => none

mutual

/-- `==` -/
def pyEq : Value → Value → Bool
  | .null, .null => true
  | .str s, .str t => s == t
  | .other s, .other t => s == t
  | .float (.infinity s), .float (.infinity t) => s == t
  | .list xs, .list ys => pyEqItems xs ys
  | .dict xs, .dict ys => xs.length == ys.length && pyEqEntries xs ys
  | x, y =>
    match x.number, y.number with
    | some m, some n => m == n
    | _, _ => false

def pyEqItems : List Value → List Value → Bool
  | [], [] => true
  | x :: xs, y :: ys => pyEq x y && pyEqItems xs ys
  | _, _ => false

def pyEqEntries : List (Value × Value) → List (Value × Value) → Bool
  | [], _ => true
  | (key, value) :: rest, ys =>
    (match ys.find? fun y => pyEq key y.1 with
      | some y => pyEq value y.2
      | none => false) && pyEqEntries rest ys

end

theorem pyEq_str_iff (value : Value) (text : String) : value.pyEq (.str text) = true ↔ value = .str text := by
  cases value with
  | float value => cases value <;> simp [pyEq, number]
  | _ => simp [pyEq, number]

theorem pyEq_int_iff (value : Value) (n : ℤ) : value.pyEq (.int n) = true ↔ value.number = some (n : ℚ) := by
  cases value with
  | float value => cases value <;> simp [pyEq, number]
  | bool value => simp [pyEq, number]
  | _ => simp [pyEq, number]

theorem pyEq_true_iff (value : Bool) : (Value.bool value).pyEq (.bool true) = true ↔ value = true := by
  cases value <;> simp [pyEq, number]

theorem pyEqItems_iff (xs ys : List Value) :
    pyEqItems xs ys = true ↔ List.Forall₂ (fun x y => x.pyEq y = true) xs ys := by
  induction xs generalizing ys with
  | nil => cases ys <;> simp [pyEqItems]
  | cons x xs ih =>
    cases ys with
    | nil => simp [pyEqItems]
    | cons y ys => simp [pyEqItems, ih]

theorem pyEq_list_iff (xs ys : List Value) :
    (Value.list xs).pyEq (.list ys) = true ↔ List.Forall₂ (fun x y => x.pyEq y = true) xs ys := by
  rw [pyEq, pyEqItems_iff]

def text : Value → Option String
  | .str text => some text
  | _ => none

mutual

/-- What a JSON text can stand for: the keys of every object inside it are texts, and none occurs twice. -/
def isJson : Value → Bool
  | .list items => isJsonItems items
  | .dict entries => decide ((entries.map fun entry => entry.1.text).Nodup) && isJsonEntries entries
  | .other _ => false
  | _ => true

def isJsonItems : List Value → Bool
  | [] => true
  | item :: rest => isJson item && isJsonItems rest

def isJsonEntries : List (Value × Value) → Bool
  | [] => true
  | (key, value) :: rest => key.text.isSome && isJson value && isJsonEntries rest

end

theorem isJsonEntries_iff (entries : List (Value × Value)) :
    isJsonEntries entries = true ↔ ∀ entry ∈ entries, entry.1.text.isSome ∧ entry.2.isJson = true := by
  induction entries with
  | nil => simp [isJsonEntries]
  | cons entry rest ih => simp [isJsonEntries, ih]

theorem text_some_iff (value : Value) (text : String) : value.text = some text ↔ value = .str text := by
  cases value <;> simp [Value.text]

theorem entries_isJson {value : Value} (h : value.isJson = true) :
    ∀ entry ∈ value.entries, (∃ text, entry.1 = .str text) ∧ entry.2.isJson = true := by
  cases value with
  | dict entries =>
    rw [isJson, Bool.and_eq_true, isJsonEntries_iff] at h
    intro entry he
    obtain ⟨text, htext⟩ := Option.isSome_iff_exists.mp (h.2 entry he).1
    exact ⟨⟨text, (text_some_iff _ _).mp htext⟩, (h.2 entry he).2⟩
  | _ => exact fun _ he => absurd he List.not_mem_nil

theorem entries_nodup {value : Value} (h : value.isJson = true) :
    (value.entries.map fun entry => entry.1.text).Nodup := by
  cases value with
  | dict entries =>
    rw [isJson, Bool.and_eq_true] at h
    exact of_decide_eq_true h.1
  | _ => exact List.nodup_nil

theorem get_some_mem {value item : Value} {key : String} (h : value.get key = some item) :
    (.str key, item) ∈ value.entries := by
  obtain ⟨entry, hfind, rfl⟩ := Option.map_eq_some_iff.mp h
  have hkey := List.find?_some hfind
  have hmem := List.mem_of_find?_eq_some hfind
  obtain ⟨name, item⟩ := entry
  cases name <;> simp_all [hasText]

theorem getD_isJson {value : Value} (h : value.isJson = true) (key : String) :
    (value.getD key .null).isJson = true := by
  unfold Value.getD
  cases hget : value.get key with
  | none => rfl
  | some item => exact (entries_isJson h _ (get_some_mem hget)).2

theorem get_of_mem {value item : Value} {key : String} (h : value.isJson = true)
    (hmem : (.str key, item) ∈ value.entries) : value.get key = some item := by
  cases hget : value.get key with
  | none =>
    have hnone := List.find?_eq_none.mp (Option.map_eq_none_iff.mp hget) _ hmem
    simp [hasText] at hnone
  | some other =>
    have hother := get_some_mem hget
    rw [(Prod.mk.inj (List.inj_on_of_nodup_map (entries_nodup h) hother hmem rfl)).2]

theorem getD_pyEq_str_iff (value : Value) (key text : String) :
    (value.getD key .null).pyEq (.str text) = true ↔ value.get key = some (.str text) := by
  rw [pyEq_str_iff, Value.getD]
  cases value.get key <;> simp

theorem getD_pyEq_int_iff (value : Value) (key : String) (n : ℤ) :
    (value.getD key .null).pyEq (.int n) = true ↔ ∃ item, value.get key = some item ∧
    item.number = some (n : ℚ) := by
  rw [pyEq_int_iff, Value.getD]
  cases value.get key <;> simp [number]

end Value

structure JsonObject where
  value : Value
  isJson : value.isJson = true
  isDict : ∃ entries, value = .dict entries

end TelconetSentinel.DocumentValues
