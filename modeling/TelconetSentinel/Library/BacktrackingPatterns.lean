import Mathlib.Tactic

namespace TelconetSentinel.BacktrackingPatterns

/-- Patterns of a backtracking matcher. `many` is a greedy repetition of single characters. -/
inductive Pattern
  | empty
  | one (accepts : Char → Bool)
  | many (accepts : Char → Bool)
  | seq (first second : Pattern)
  | optional (pattern : Pattern)
  | either (first second : Pattern)
  | capture (name : String) (pattern : Pattern)

structure Success where
  consumed : List Char
  groups : List (String × List Char)
  rest : List Char
  deriving DecidableEq, Repr

def splits (accepts : Char → Bool) : List Char → List (List Char × List Char)
  | [] => [([], [])]
  | c :: text =>
    if accepts c then (splits accepts text).map (fun split => (c :: split.1, split.2)) ++ [([], c :: text)]
    else [([], c :: text)]

namespace Pattern

def oneOrMore (accepts : Char → Bool) : Pattern := seq (one accepts) (many accepts)

def literal : List Char → Pattern
  | [] => empty
  | c :: text => seq (one (· == c)) (literal text)

def sequence : List Pattern → Pattern
  | [] => empty
  | pattern :: patterns => seq pattern (sequence patterns)

/-- All ways to match at the start of a text, in the order in which they are tried. -/
def successes : Pattern → List Char → List Success
  | empty, text => [⟨[], [], text⟩]
  | one _, [] => []
  | one accepts, c :: text => if accepts c then [⟨[c], [], text⟩] else []
  | many accepts, text => (splits accepts text).map fun split => ⟨split.1, [], split.2⟩
  | seq first second, text => (first.successes text).flatMap fun head =>
      (second.successes head.rest).map fun tail =>
        ⟨head.consumed ++ tail.consumed, head.groups ++ tail.groups, tail.rest⟩
  | optional pattern, text => pattern.successes text ++ [⟨[], [], text⟩]
  | either first second, text => first.successes text ++ second.successes text
  | capture name pattern, text =>
    (pattern.successes text).map fun inner =>
      { inner with groups := inner.groups ++ [(name, inner.consumed)] }

def matchStart (pattern : Pattern) (text : List Char) : Option Success := (pattern.successes text).head?

def search (pattern : Pattern) : List Char → Option Success
  | [] => pattern.matchStart []
  | c :: text => (pattern.matchStart (c :: text)).or (search pattern text)

theorem splits_accepted {accepts : Char → Bool} {text : List Char} :
    ∀ split ∈ splits accepts text, ∀ c ∈ split.1, accepts c = true := by
  induction text with
  | nil => simp [splits]
  | cons c text ih =>
    rw [splits]
    split_ifs with hc
    · simp only [List.mem_append, List.mem_map, List.mem_singleton]
      rintro _ (⟨split, hsplit, rfl⟩ | rfl)
      · exact List.forall_mem_cons.mpr ⟨hc, ih split hsplit⟩
      · simp
    · simp

theorem oneOrMore_accepted {accepts : Char → Bool} {text : List Char} :
    ∀ found ∈ (oneOrMore accepts).successes text, ∀ c ∈ found.consumed, accepts c = true := by
  intro found hfound
  obtain ⟨head, hhead, hfound⟩ := List.mem_flatMap.mp hfound
  obtain ⟨tail, htail, rfl⟩ := List.mem_map.mp hfound
  obtain ⟨split, hsplit, rfl⟩ := List.mem_map.mp htail
  refine List.forall_mem_append.mpr ⟨?_, splits_accepted split hsplit⟩
  cases text with
  | nil => cases hhead
  | cons c text =>
    rw [successes] at hhead
    split_ifs at hhead with hc
    · obtain rfl := List.mem_singleton.mp hhead
      exact List.forall_mem_singleton.mpr hc
    · cases hhead

def Captures (p : List Char → Prop) : Pattern → Prop
  | empty | one _ | many _ => True
  | seq first second | either first second => first.Captures p ∧ second.Captures p
  | optional pattern => pattern.Captures p
  | capture _ pattern => pattern.Captures p ∧ ∀ text, ∀ found ∈ pattern.successes text, p found.consumed

theorem captures_literal (p : List Char → Prop) (text : List Char) : (literal text).Captures p := by
  induction text with
  | nil => trivial
  | cons c text ih => exact ⟨trivial, ih⟩

theorem Captures.groups {p : List Char → Prop} {pattern : Pattern} (h : pattern.Captures p)
    {text : List Char} :
    ∀ found ∈ pattern.successes text, ∀ entry ∈ found.groups, p entry.2 := by
  induction pattern generalizing text with
  | empty => simp [successes]
  | one accepts =>
    cases text with
    | nil => simp [successes]
    | cons c text =>
      rw [successes]
      split_ifs <;> simp
  | many accepts =>
    intro found hfound
    obtain ⟨split, -, rfl⟩ := List.mem_map.mp hfound
    simp
  | seq first second ihf ihs =>
    intro found hfound
    obtain ⟨head, hhead, hfound⟩ := List.mem_flatMap.mp hfound
    obtain ⟨tail, htail, rfl⟩ := List.mem_map.mp hfound
    exact List.forall_mem_append.mpr ⟨ihf h.1 head hhead, ihs h.2 tail htail⟩
  | optional pattern ih =>
    refine List.forall_mem_append.mpr ⟨ih h, ?_⟩
    simp
  | either first second ihf ihs => exact List.forall_mem_append.mpr ⟨ihf h.1, ihs h.2⟩
  | capture name pattern ih =>
    intro found hfound
    obtain ⟨inner, hinner, rfl⟩ := List.mem_map.mp hfound
    exact List.forall_mem_append.mpr ⟨ih h.1 inner hinner,
      List.forall_mem_singleton.mpr (h.2 text inner hinner)⟩

end Pattern

def Success.group (found : Success) (name : String) : List Char :=
  ((found.groups.find? fun entry => entry.1 == name).map Prod.snd).getD []

theorem Success.group_of_groups {p : List Char → Prop} {found : Success}
    (h : ∀ entry ∈ found.groups, p entry.2) (hnil : p []) (name : String) : p (found.group name) := by
  unfold Success.group
  cases hfind : found.groups.find? fun entry => entry.1 == name with
  | none => exact hnil
  | some entry => exact h entry (List.mem_of_find?_eq_some hfind)

end TelconetSentinel.BacktrackingPatterns
