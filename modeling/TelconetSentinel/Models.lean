import Mathlib.Data.Finset.Max
import Mathlib.Data.List.Sort
import Mathlib.Data.String.Basic
import Mathlib.Tactic

namespace TelconetSentinel

/-- The exceptions that leave the modelled functions. `nontermination` is not Python's: it stands for a
loop that was given too few rounds. -/
inductive Exn
  | valueError (message : String)
  | keyError (message : String)
  | overflowError (message : String)
  | integrityError (message : String)
  | zeroDivisionError (message : String)
  | indexError (message : String)
  | stopIteration
  | assertionError
  | nontermination
  deriving DecidableEq, Repr

abbrev Result := Except Exn

inductive ErrorKind
  | valueError
  | keyError
  | overflowError
  | integrityError
  | zeroDivisionError
  | indexError
  | stopIteration
  | assertionError
  | nontermination
  deriving DecidableEq, Repr

def Exn.kind : Exn → ErrorKind
  | valueError _ => .valueError
  | keyError _ => .keyError
  | overflowError _ => .overflowError
  | integrityError _ => .integrityError
  | zeroDivisionError _ => .zeroDivisionError
  | indexError _ => .indexError
  | stopIteration => .stopIteration
  | assertionError => .assertionError
  | nontermination => .nontermination

/-- `sqlite3` binds integers of 64 bits. -/
def bindInteger (n : ℤ) : Result ℤ :=
  if -2 ^ 63 ≤ n ∧ n < 2 ^ 63 then .ok n
  else .error (.overflowError "Python int too large to convert to SQLite INTEGER")

theorem bindInteger_ok {n : ℤ} (hlow : -2 ^ 63 ≤ n) (hhigh : n < 2 ^ 63) : bindInteger n = .ok n :=
  if_pos ⟨hlow, hhigh⟩

theorem bindInteger_lt {n bound : ℤ} (h : bindInteger n = .ok bound) : n < 2 ^ 63 := by
  by_contra hlarge
  rw [bindInteger, if_neg fun hrange => hlarge hrange.2] at h
  cases h

def commaSeparated (xs : List String) : String := String.intercalate ", " xs

def sorted (xs : List String) : List String := xs.insertionSort (· ≤ ·)

theorem sorted_sortedLT {xs : List String} (h : xs.Nodup) : (sorted xs).SortedLT :=
  List.sortedLE_insertionSort.sortedLT_of_nodup ((List.perm_insertionSort _ xs).nodup_iff.mpr h)

/-- `next(iter(s))`. A set has no order of its own; the least member comes first here. -/
def firstMember (s : Finset String) : Result String :=
  match s.min with
  | some x => .ok x
  | none => .error .stopIteration

@[simp] theorem firstMember_singleton (x : String) : firstMember {x} = .ok x := by
  simp [firstMember]

/-- `re.fullmatch` of one `first` character followed by at most `limit` characters of `rest`. -/
def fullmatch (first rest : Char → Bool) (limit : ℕ) (text : String) : Bool :=
  match text.toList with
  | [] => false
  | c :: cs => first c && cs.all rest && decide (cs.length ≤ limit)

theorem fullmatch_length {first rest : Char → Bool} {limit : ℕ} {text : String}
    (h : fullmatch first rest limit text = true) : text.toList.length ≤ limit + 1 := by
  unfold fullmatch at h
  cases hchars : text.toList with
  | nil => simp
  | cons c cs =>
    simp only [hchars, Bool.and_eq_true, decide_eq_true_eq] at h
    exact Nat.succ_le_succ h.2

theorem fullmatch_chars (allowed : Char → Bool) {first rest : Char → Bool} {limit : ℕ} {text : String}
    (h : fullmatch first rest limit text = true) (hfirst : ∀ c, first c = true → allowed c = true)
    (hrest : ∀ c, rest c = true → allowed c = true) : ∀ c ∈ text.toList, allowed c = true := by
  unfold fullmatch at h
  cases hchars : text.toList with
  | nil => simp
  | cons c cs =>
    simp only [hchars, Bool.and_eq_true, List.all_eq_true] at h
    exact List.forall_mem_cons.mpr ⟨hfirst c h.1.1, fun d hd => hrest d (h.1.2 d hd)⟩

theorem fullmatch_append {first rest : Char → Bool} {limit length : ℕ} {tag text : String}
    (htag : fullmatch first rest limit tag = true) (htext : ∀ c ∈ text.toList, rest c = true)
    (hlength : text.toList.length ≤ length) : fullmatch first rest (limit + length) (tag ++ text) = true := by
  unfold fullmatch at htag ⊢
  rw [String.toList_append]
  cases hchars : tag.toList with
  | nil => simp [hchars] at htag
  | cons c cs =>
    simp only [hchars, Bool.and_eq_true, List.all_eq_true, decide_eq_true_eq] at htag
    simp only [List.cons_append, Bool.and_eq_true, List.all_eq_true, decide_eq_true_eq, List.mem_append,
      List.length_append]
    exact ⟨⟨htag.1.1, fun d hd => hd.elim (htag.1.2 d) (htext d)⟩, by omega⟩

def isLower (c : Char) : Bool := decide ('a' ≤ c ∧ c ≤ 'z')

def isUpper (c : Char) : Bool := decide ('A' ≤ c ∧ c ≤ 'Z')

def isDigit (c : Char) : Bool := decide ('0' ≤ c ∧ c ≤ '9')

def isSlug (c : Char) : Bool := isLower c || isDigit c || c == '-'

def isComponentId (text : String) : Bool := fullmatch isLower isSlug 127 text

def decimalValue (digits : List Char) : ℕ := digits.foldl (fun n c => 10 * n + (c.toNat - '0'.toNat)) 0

def canonicalNumber (limit : ℕ) (digits : List Char) : Option ℕ :=
  if digits.all isDigit ∧ 1 ≤ digits.length ∧ digits.length ≤ 3 ∧ (digits.head? = some '0' → digits = ['0']) ∧
    decimalValue digits ≤ limit then some (decimalValue digits) else none

def canonicalIpv4 (text : List Char) : Option ℕ :=
  match (text.splitOn '.').map (canonicalNumber 255) with
  | [some a, some b, some c, some d] => some (((a * 256 + b) * 256 + c) * 256 + d)
  | _ => none

theorem length_of_canonicalNumber {limit n : ℕ} {digits : List Char}
    (h : canonicalNumber limit digits = some n) :
    digits.length ≤ 3 := by
  unfold canonicalNumber at h
  split_ifs at h with hdigits
  exact hdigits.2.2.1

theorem length_of_canonicalIpv4 {n : ℕ} {text : List Char} (h : canonicalIpv4 text = some n) :
    text.length ≤ 15 := by
  unfold canonicalIpv4 at h
  split at h
  · next a b c d hparts =>
    obtain ⟨w, x, y, z, hsplit, ha, hb, hc, hd⟩ : ∃ w x y z, text.splitOn '.' = [w, x, y, z] ∧
        canonicalNumber 255 w = some a ∧ canonicalNumber 255 x = some b ∧ canonicalNumber 255 y = some c ∧
        canonicalNumber 255 z = some d := by
      match hsplit : text.splitOn '.' with
      | [w, x, y, z] =>
        rw [hsplit] at hparts
        simp only [List.map_cons, List.map_nil, List.cons.injEq, and_true] at hparts
        exact ⟨w, x, y, z, rfl, hparts.1, hparts.2.1, hparts.2.2.1, hparts.2.2.2⟩
      | [] | [_] | [_, _] | [_, _, _] | _ :: _ :: _ :: _ :: _ :: _ =>
        rw [hsplit] at hparts
        simp at hparts
    have hjoin : text = ['.'].intercalate [w, x, y, z] := by
      rw [← hsplit, List.intercalate_splitOn]
    have := length_of_canonicalNumber ha
    have := length_of_canonicalNumber hb
    have := length_of_canonicalNumber hc
    have := length_of_canonicalNumber hd
    rw [hjoin]
    simp [List.intercalate, List.intersperse]
    omega
  · cases h

def isCanonicalIpv4 (text : String) : Bool := (canonicalIpv4 text.toList).isSome

def isCanonicalIpv4Network (text : String) : Bool :=
  match text.toList.splitOn '/' with
  | [address, length] =>
    match canonicalIpv4 address, canonicalNumber 32 length with
    | some n, some length => n % 2 ^ (32 - length) == 0
    | _, _ => false
  | _ => false

def isSha256 (text : String) : Bool :=
  text.toList.length == 64 && text.toList.all fun c => isDigit c || decide ('a' ≤ c ∧ c ≤ 'f')

inductive NodeRole
  | access
  | aggregation
  | core
  | service
  deriving DecidableEq, Repr

def NodeRole.value : NodeRole → String
  | .access => "access"
  | .aggregation => "aggregation"
  | .core => "core"
  | .service => "service"

inductive ServiceImpact
  | degraded
  | outage
  | redundancyReduced
  deriving DecidableEq, Repr

def ServiceImpact.severity : ServiceImpact → ℕ
  | .redundancyReduced => 0
  | .degraded => 1
  | .outage => 2

instance : LE ServiceImpact := ⟨fun i j => i.severity ≤ j.severity⟩

instance : DecidableRel (fun i j : ServiceImpact => i ≤ j) := fun i j =>
  inferInstanceAs (Decidable (i.severity ≤ j.severity))

structure Node where
  name : String
  role : NodeRole
  prefixes : List String := []
  deriving DecidableEq, Repr

structure Link where
  id : String
  endpointA : String
  endpointB : String
  cost : ℤ := 1
  deriving DecidableEq, Repr

structure NetworkEvent where
  linkId : String
  eventType : String := "link_down"
  deriving DecidableEq, Repr

structure ImpactAnalysis where
  failedComponent : String
  evidence : List String
  affectedNodes : List String
  affectedPrefixes : List String
  serviceImpact : ServiceImpact
  deriving DecidableEq, Repr

end TelconetSentinel
