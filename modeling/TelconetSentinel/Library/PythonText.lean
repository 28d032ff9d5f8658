import Mathlib.Tactic

namespace TelconetSentinel.DelimitedText

variable {α : Type*} [DecidableEq α]

def before (delimiter : α) (text : List α) : List α := text.takeWhile (· ≠ delimiter)

theorem before_append {delimiter : α} {head : List α} (h : delimiter ∉ head) (rest : List α) :
    before delimiter (head ++ delimiter :: rest) = head := by
  have hhead : ∀ c ∈ head, decide (c ≠ delimiter) = true := fun c hc =>
    decide_eq_true fun hsame => h (hsame ▸ hc)
  rw [before, List.takeWhile_append_of_pos hhead, List.takeWhile_cons_of_neg (by simp), List.append_nil]

theorem split_unique {delimiter : α} {head head' rest rest' : List α} (h : delimiter ∉ head)
    (h' : delimiter ∉ head') (hsame : head ++ delimiter :: rest = head' ++ delimiter :: rest') :
    head = head' ∧ rest = rest' := by
  have hhead : head = head' := by
    rw [← before_append h rest, hsame, before_append h' rest']
  subst hhead
  exact ⟨rfl, (List.cons.inj (List.append_cancel_left hsame)).2⟩

end TelconetSentinel.DelimitedText

namespace TelconetSentinel.PythonText

/-- The code points of the decimal digits zero. -/
def decimalZeros : List ℕ := [
  0x30, 0x660, 0x6f0, 0x7c0, 0x966, 0x9e6, 0xa66, 0xae6, 0xb66, 0xbe6, 0xc66, 0xce6, 0xd66, 0xde6, 0xe50,
  0xed0, 0xf20, 0x1040, 0x1090, 0x17e0, 0x1810, 0x1946, 0x19d0, 0x1a80, 0x1a90, 0x1b50, 0x1bb0, 0x1c40,
  0x1c50, 0xa620, 0xa8d0, 0xa900, 0xa9d0, 0xa9f0, 0xaa50, 0xabf0, 0xff10, 0x104a0, 0x10d30, 0x11066, 0x110f0,
  0x11136, 0x111d0, 0x112f0, 0x11450, 0x114d0, 0x11650, 0x116c0, 0x11730, 0x118e0, 0x11950, 0x11c50, 0x11d50,
  0x11da0, 0x11f50, 0x16a60, 0x16ac0, 0x16b50, 0x1d7ce, 0x1d7d8, 0x1d7e2, 0x1d7ec, 0x1d7f6, 0x1e140, 0x1e2f0,
  0x1e4f0, 0x1e950, 0x1fbf0]

def decimalValue (c : Char) : Option ℕ :=
  (decimalZeros.find? fun start => start ≤ c.toNat && c.toNat < start + 10).map fun start => c.toNat - start

/-- `\d` -/
def isDecimal (c : Char) : Bool := (decimalValue c).isSome

/-- `str.isspace`, also `\s` -/
def isSpace (c : Char) : Bool :=
  let n := c.toNat
  (9 ≤ n && n ≤ 13) || (28 ≤ n && n ≤ 32) || n == 0x85 || n == 0xa0 || n == 0x1680 ||
    (0x2000 ≤ n && n ≤ 0x200a) || n == 0x2028 || n == 0x2029 || n == 0x202f || n == 0x205f || n == 0x3000

def isLineBoundary (c : Char) : Bool :=
  let n := c.toNat
  (10 ≤ n && n ≤ 13) || (28 ≤ n && n ≤ 30) || n == 0x85 || n == 0x2028 || n == 0x2029

def linesFrom (line : List Char) : List Char → List (List Char)
  | [] => if line = [] then [] else [line]
  | '\r' :: '\n' :: text => line :: linesFrom [] text
  | c :: text => if isLineBoundary c then line :: linesFrom [] text else linesFrom (line ++ [c]) text

def splitlines (text : List Char) : List (List Char) := linesFrom [] text

/-- `text.split("=", 1)`, where the separator occurs. -/
def partition (separator : Char) (text : List Char) : Option (List Char × List Char) :=
  if separator ∈ text then
    some (text.takeWhile (· ≠ separator), (text.dropWhile (· ≠ separator)).tail)
  else none

section Numbers

def maxStrDigits : ℕ := 4300

def digitsWithUnderscores : List Char → Option (List ℕ)
  | [] => none
  | [c] => (decimalValue c).map fun digit => [digit]
  | c :: '_' :: text => do return (← decimalValue c) :: (← digitsWithUnderscores text)
  | c :: text => do return (← decimalValue c) :: (← digitsWithUnderscores text)

def naturalOfDigits (digits : List ℕ) : ℕ := digits.foldl (fun n digit => 10 * n + digit) 0

def isNumberBlank (c : Char) : Bool :=
  (9 ≤ c.toNat && c.toNat ≤ 13) || c.toNat == 32 || (127 ≤ c.toNat && isSpace c)

def stripNumber (text : List Char) : List Char :=
  ((text.dropWhile isNumberBlank).reverse.dropWhile isNumberBlank).reverse

def natural (text : List Char) : Option ℕ := do
  let digits ← digitsWithUnderscores text
  if maxStrDigits < digits.length then none else return naturalOfDigits digits

/-- `int(text)`, or none for a ValueError. -/
def integer (text : List Char) : Option ℤ :=
  match stripNumber text with
  | '+' :: digits => (natural digits).map Int.ofNat
  | '-' :: digits => (natural digits).map fun n => -(n : ℤ)
  | digits => (natural digits).map Int.ofNat

theorem integer_nonneg {text : List Char} (h : ∀ c ∈ text, isDecimal c = true) {n : ℤ}
    (hn : integer text = some n) :
    0 ≤ n := by
  have hstripped : ∀ c ∈ stripNumber text, isDecimal c = true := by
    intro c hc
    rw [stripNumber, List.mem_reverse] at hc
    have hinner := List.mem_reverse.mp ((List.dropWhile_sublist _).subset hc)
    exact h c ((List.dropWhile_sublist _).subset hinner)
  unfold integer at hn
  split at hn
  · obtain ⟨k, -, rfl⟩ := Option.map_eq_some_iff.mp hn
    exact Int.natCast_nonneg k
  · next digits hminus =>
    have hdecimal := hstripped '-' (hminus ▸ List.mem_cons_self)
    exact absurd hdecimal (by decide)
  · obtain ⟨k, -, rfl⟩ := Option.map_eq_some_iff.mp hn
    exact Int.natCast_nonneg k

/-- `float(text)` for a text of digits and points, as an exact number. -/
def decimalFraction (text : List Char) : Option ℚ := do
  let (whole, fraction) := (partition '.' text).getD (text, [])
  let digits ← (whole ++ fraction).mapM decimalValue
  if digits = [] then none else return (naturalOfDigits digits : ℚ) / 10 ^ fraction.length

theorem decimalFraction_nonneg {text : List Char} {value : ℚ} (h : decimalFraction text = some value) :
    0 ≤ value := by
  obtain ⟨digits, -, h⟩ := Option.bind_eq_some_iff.mp h
  split_ifs at h
  obtain rfl := Option.some.inj h
  positivity

end Numbers

section Shlex

inductive ShlexState
  | blank
  | word
  | quote (mark : Char)
  | escape (mark : Option Char)
  deriving DecidableEq, Repr

/-- The reader of `shlex.split`. `mark` of an escape is the quotation that it stands in. -/
structure Shlex where
  state : ShlexState := .blank
  token : List Char := []
  quoted : Bool := false
  tokens : List (List Char) := []
  deriving DecidableEq, Repr

def isShlexBlank (c : Char) : Bool := c == ' ' || c == '\t' || c == '\r' || c == '\n'

def isShlexQuote (c : Char) : Bool := c == '\'' || c == '"'

namespace Shlex

/-- A blank ends a token. Without characters only a quoted one counts. -/
def endToken (reader : Shlex) : Shlex :=
  if reader.token = [] ∧ ¬ reader.quoted then { reader with state := .blank }
  else { tokens := reader.tokens ++ [reader.token] }

def step (reader : Shlex) (c : Char) : Shlex :=
  match reader.state with
  | .blank | .word =>
    if isShlexBlank c then reader.endToken
    else if isShlexQuote c then { reader with state := .quote c, quoted := true }
    else if c = '\\' then { reader with state := .escape none }
    else { reader with state := .word, token := reader.token ++ [c] }
  | .quote mark =>
    if c = mark then { reader with state := .word }
    else if c = '\\' ∧ mark = '"' then { reader with state := .escape (some mark) }
    else { reader with token := reader.token ++ [c] }
  | .escape none => { reader with state := .word, token := reader.token ++ [c] }
  | .escape (some mark) =>
    let kept := if c ≠ '\\' ∧ c ≠ mark then ['\\', c] else [c]
    { reader with state := .quote mark, token := reader.token ++ kept }

end Shlex

/-- `shlex.split`, or the message of its ValueError. -/
def shlexSplit (text : List Char) : Except String (List (List Char)) :=
  let reader := text.foldl Shlex.step {}
  match reader.state with
  | .quote _ => .error "No closing quotation"
  | .escape _ => .error "No escaped character"
  | .blank | .word => .ok reader.endToken.tokens

end Shlex

end TelconetSentinel.PythonText
